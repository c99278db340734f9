import Vold.Config

/-!
# `main` and `parse_args`

`main` runs the start-up in phases. `parse_args` sets the four SELinux contexts and `CHECK`s
them. The managers are created and the volume manager started, any failure being `exit(1)`.
`process_config` reads the fstab, and its failure only logs. The binder service and the netlink
listener are started, again with `exit(1)` on failure. The four `vold.has_*` properties are set,
`coldboot("/sys/block")` replays the block devices' uevents, and `main` joins the binder thread
pool.

Every run of `main` stops in one of two ways. Either it stops before it sets a property, or every
earlier phase succeeded and its calls are those of all the phases in order. From this follow
what `vold` advertises and that the uevents are replayed only once the disk sources are
registered and the netlink listener is up, which is what the comment before the properties
asks for.
-/

namespace Vold

open BootM

/-- One option `getopt_long` returns, as the `switch` of `parse_args` takes it. -/
def parseOption (c : Contexts) : Char × String → Contexts
  | ('b', optarg) => { c with sBlkidContext := some optarg }
  | ('B', optarg) => { c with sBlkidUntrustedContext := some optarg }
  | ('f', optarg) => { c with sFsckContext := some optarg }
  | ('F', optarg) => { c with sFsckUntrustedContext := some optarg }
  | _ => c

/-- Write the contexts the `getopt_long` loop leaves. -/
def setContexts (f : Contexts → Contexts) : BootM Contexts := fun b =>
  .next (f b.contexts) { b with contexts := f b.contexts }

/-- `parse_args(argc, argv)`: take every option, then `CHECK` the four contexts. -/
def parseArgs (o : BootOracle) : BootM Unit := do
  let c ← setContexts fun c => o.getopt.foldl parseOption c
  check c.sBlkidContext.isSome
  check c.sBlkidUntrustedContext.isSome
  check c.sFsckContext.isSome
  check c.sFsckUntrustedContext.isSome

def selinuxAndroidFileContextHandle (o : BootOracle) : BootM Bool :=
  call .selinuxAndroidFileContextHandle o.sehandle

/-- `VolumeManager::Instance()`, answering whether it returned a manager. -/
def volumeManagerInstance (o : BootOracle) : BootM Bool :=
  call .volumeManagerInstance o.volumeManager

def netlinkManagerInstance (o : BootOracle) : BootM Bool :=
  call .netlinkManagerInstance o.netlinkManager

/-- `vm->setDebug(enable)`. -/
def setDebug (enable : Bool) : BootM Unit := fun b =>
  .next () { b.record (.setDebug enable) with debug := enable }

def volumeManagerStart (o : BootOracle) : BootM Int :=
  call .volumeManagerStart o.volumeManagerStart

def voldNativeServiceStart (o : BootOracle) : BootM Int :=
  call .voldNativeServiceStart o.voldNativeServiceStart

def netlinkManagerStart (o : BootOracle) : BootM Int :=
  call .netlinkManagerStart o.netlinkManagerStart

def setProperty (key value : String) : BootM Unit := call (.setProperty key value) ()

/-- `coldboot(path)` as `main` runs it: its writes to `uevent` files, in order. -/
def runColdboot (o : BootOracle) (fuel : Nat) (path : String) : BootM Unit := fun b =>
  match coldboot o.sysfs fuel path with
  | some ds => .next () { b with log := b.log ++ ds.map .writeUevent }
  | none => .hang

/-- `IPCThreadState::self()->joinThreadPool()`: it serves binder calls, and returns only when
the world says so. -/
def joinThreadPool (o : BootOracle) : BootM Unit := fun b =>
  if o.joinThreadPoolReturns then .next () (b.record .joinThreadPool)
  else .serve (b.record .joinThreadPool)

/-- `main` from the SELinux handle to `vm->start()`. -/
def startManagers (o : BootOracle) : BootM Unit := do
  if !(← selinuxAndroidFileContextHandle o) then exit 1
  call .selinuxAndroidSetSehandle ()
  call (.mkdir "/dev/block/vold" 0o755) ()
  call (.klogSetLevel 6) ()
  if !(← volumeManagerInstance o) then exit 1
  if !(← netlinkManagerInstance o) then exit 1
  if ← getBoolProperty o "vold.debug" then setDebug true
  if (← volumeManagerStart o) ≠ 0 then exit 1

/-- `main` from `configureRpcThreadpool` to `nm->start()`. -/
def startServices (o : BootOracle) : BootM Unit := do
  call (.configureRpcThreadpool 1 false) ()
  if (← voldNativeServiceStart o) ≠ OK then exit 1
  if (← netlinkManagerStart o) ≠ 0 then exit 1

/-- The four `SetProperty` calls. -/
def advertise (configs : VoldConfigs) : BootM Unit := do
  setProperty "vold.has_adoptable" (if configs.hasAdoptable then "1" else "0")
  setProperty "vold.has_quota" (if configs.hasQuota then "1" else "0")
  setProperty "vold.has_reserved" (if configs.hasReserved then "1" else "0")
  setProperty "vold.has_compress" (if configs.hasCompress then "1" else "0")

/-- `main(argc, argv)`, with `fuel` for `coldboot`. Logging and tracing are left out. -/
def main (o : BootOracle) (fuel : Nat) : BootM Unit := do
  parseArgs o
  startManagers o
  let (_, configs) ← processConfig o VoldConfigs.empty
  startServices o
  advertise configs
  runColdboot o fuel "/sys/block"
  joinThreadPool o
  exit 0

/-! ## `parse_args` -/

/-- The `optarg` of the last option `ch` among those `getopt_long` returned. -/
def lastOptarg (ch : Char) (opts : List (Char × String)) : Option String :=
  ((opts.filter fun p => p.1 = ch).getLast?).map Prod.snd

theorem lastOptarg_cons (ch : Char) (p : Char × String) (l : List (Char × String)) :
    lastOptarg ch (p :: l) = (lastOptarg ch l).or (if p.1 = ch then some p.2 else none) := by
  unfold lastOptarg
  by_cases h : p.1 = ch
  · rw [List.filter_cons_of_pos (by simpa using h), ← List.singleton_append,
      List.getLast?_append, if_pos h]
    cases (l.filter fun p => p.1 = ch).getLast? <;> rfl
  · rw [List.filter_cons_of_neg (by simpa using h), if_neg h, Option.or_none]

/-- Each context ends as the `optarg` of its last option, or as it was. -/
theorem foldl_parseOption (opts : List (Char × String)) :
    ∀ c : Contexts, opts.foldl parseOption c =
      ⟨(lastOptarg 'b' opts).or c.sBlkidContext, (lastOptarg 'B' opts).or c.sBlkidUntrustedContext,
        (lastOptarg 'f' opts).or c.sFsckContext, (lastOptarg 'F' opts).or c.sFsckUntrustedContext⟩ := by
  induction opts with
  | nil => intro c; simp [lastOptarg]
  | cons p l ih =>
      intro c
      rw [List.foldl_cons, ih, lastOptarg_cons, lastOptarg_cons, lastOptarg_cons, lastOptarg_cons]
      obtain ⟨ch, a⟩ := p
      unfold parseOption
      split <;> simp_all [Option.or_assoc]

theorem lastOptarg_isSome (ch : Char) (opts : List (Char × String)) :
    (lastOptarg ch opts).isSome = opts.any fun p => p.1 = ch := by
  induction opts with
  | nil => rfl
  | cons p l ih =>
      rw [lastOptarg_cons, List.any_cons, Bool.or_comm, ← ih]
      by_cases h : p.1 = ch <;> cases lastOptarg ch l <;> simp [h]

/-- The contexts `parse_args` leaves when they start unset. -/
def parsedContexts (o : BootOracle) : Contexts :=
  ⟨lastOptarg 'b' o.getopt, lastOptarg 'B' o.getopt, lastOptarg 'f' o.getopt,
    lastOptarg 'F' o.getopt⟩

/-- `getopt_long` returned each of the four options. -/
def ParsesArgs (o : BootOracle) : Prop :=
  ∀ ch ∈ ['b', 'B', 'f', 'F'], o.getopt.any (fun p => p.1 = ch) = true

instance (o : BootOracle) : Decidable (ParsesArgs o) :=
  inferInstanceAs (Decidable (∀ ch ∈ _, _))

/-- The four `CHECK`s of `parse_args` pass. -/
def Contexts.set (c : Contexts) : Bool :=
  c.sBlkidContext.isSome && c.sBlkidUntrustedContext.isSome && c.sFsckContext.isSome &&
    c.sFsckUntrustedContext.isSome

theorem parseArgs_apply (o : BootOracle) (b : Boot) :
    parseArgs o b = if (o.getopt.foldl parseOption b.contexts).set then
        .next () { b with contexts := o.getopt.foldl parseOption b.contexts }
      else .abort { b with contexts := o.getopt.foldl parseOption b.contexts } := by
  simp only [parseArgs, setContexts, bind_apply, check_apply]
  generalize o.getopt.foldl parseOption b.contexts = c
  rcases c with ⟨_ | _, _ | _, _ | _, _ | _⟩ <;> rfl

/-- From unset contexts the `getopt_long` loop leaves `parsedContexts`, whose `CHECK`s pass
exactly when the four options were given. -/
theorem foldl_parseOption_unset (o : BootOracle) :
    o.getopt.foldl parseOption ⟨none, none, none, none⟩ = parsedContexts o ∧
      (parsedContexts o).set = decide (ParsesArgs o) := by
  refine ⟨by simp [foldl_parseOption, parsedContexts], ?_⟩
  simp only [Contexts.set, parsedContexts, lastOptarg_isSome, ParsesArgs, List.mem_cons,
    List.not_mem_nil, or_false, forall_eq_or_imp, forall_eq]
  cases o.getopt.any (fun p => p.1 = 'b') <;> cases o.getopt.any (fun p => p.1 = 'B') <;>
    cases o.getopt.any (fun p => p.1 = 'f') <;> cases o.getopt.any (fun p => p.1 = 'F') <;> rfl

/-- From unset contexts, `parse_args` returns exactly when `getopt_long` gave each of the four
options, and every context is then the `optarg` of its last occurrence; otherwise a `CHECK`
aborts `vold`. -/
theorem parseArgs_spec (o : BootOracle) (b : Boot) (hb : b.contexts = ⟨none, none, none, none⟩) :
    parseArgs o b = if ParsesArgs o then .next () { b with contexts := parsedContexts o }
      else .abort { b with contexts := parsedContexts o } := by
  rw [parseArgs_apply, hb, (foldl_parseOption_unset o).1, (foldl_parseOption_unset o).2]
  by_cases hp : ParsesArgs o <;> simp [hp]

theorem parseArgs_spec_sample :
    Boot.initial.contexts = ⟨none, none, none, none⟩ ∧
      parseArgs sampleBoot Boot.initial =
        if ParsesArgs sampleBoot then .next () { Boot.initial with contexts := parsedContexts sampleBoot }
        else .abort { Boot.initial with contexts := parsedContexts sampleBoot } :=
  ⟨rfl, parseArgs_spec _ _ rfl⟩

example : parsedContexts { sampleBoot with getopt := [('b', "x"), ('b', "y"), ('q', "z")] } =
    ⟨some "y", none, none, none⟩ := by decide

/-! ## The phases of `main` -/

/-- The calls `main` makes once the binder service and the netlink listener are up. -/
def BootCall.late : BootCall → Bool
  | .setProperty _ _ => true
  | .writeUevent _ => true
  | .joinThreadPool => true
  | _ => false

/-- Calls none of which is late. -/
def Quiet (l : List BootCall) : Prop := ∀ c ∈ l, c.late = false

theorem Quiet.append {l l' : List BootCall} (h : Quiet l) (h' : Quiet l') : Quiet (l ++ l') :=
  List.forall_mem_append.mpr ⟨h, h'⟩

theorem quiet_ite {p : Prop} [Decidable p] {c : BootCall} (h : c.late = false) :
    Quiet (if p then [c] else []) := by
  split <;> simp [Quiet, h]

/-- From `b` to `b'` the start-up made only calls that are not late. -/
def Grows (b b' : Boot) : Prop := ∃ E, b'.log = b.log ++ E ∧ Quiet E

theorem Grows.quiet {b b' : Boot} (hq : Quiet b.log) (hg : Grows b b') : Quiet b'.log := by
  obtain ⟨E, hE, hE'⟩ := hg
  exact hE ▸ hq.append hE'

theorem Grows.refl (b : Boot) : Grows b b := ⟨[], by simp, by simp [Quiet]⟩

theorem Grows.record {b b' : Boot} {c : BootCall} (h : Grows b b') (hc : c.late = false) :
    Grows b (b'.record c) := by
  obtain ⟨E, hE, hq⟩ := h
  exact ⟨E ++ [c], by simp [hE], hq.append (by simp [Quiet, hc])⟩

/-- `parse_args` returns with the contexts parsed, or aborts having made no call. -/
theorem parseArgs_cases (o : BootOracle) {b : Boot} (hb : b.contexts = ⟨none, none, none, none⟩) :
    (ParsesArgs o ∧ ∃ b', parseArgs o b = .next () b' ∧ b'.contexts = parsedContexts o ∧
        b'.diskSources = b.diskSources ∧ b'.log = b.log) ∨
      (¬ParsesArgs o ∧ ∃ b', parseArgs o b = .abort b' ∧ Grows b b') := by
  rw [parseArgs_apply, hb, (foldl_parseOption_unset o).1, (foldl_parseOption_unset o).2]
  by_cases hp : ParsesArgs o
  · exact .inl ⟨hp, { b with contexts := parsedContexts o }, by simp [hp], rfl, rfl, rfl⟩
  · exact .inr ⟨hp, { b with contexts := parsedContexts o }, by simp [hp], [], by simp,
      by simp [Quiet]⟩

/-- The calls of `startManagers` when every one succeeds. -/
def managerCalls (o : BootOracle) : List BootCall :=
  [.selinuxAndroidFileContextHandle, .selinuxAndroidSetSehandle, .mkdir "/dev/block/vold" 0o755,
    .klogSetLevel 6, .volumeManagerInstance, .netlinkManagerInstance,
    .getBoolProperty "vold.debug"] ++
  (if o.property "vold.debug" then [.setDebug true] else []) ++ [.volumeManagerStart]

theorem managerCalls_quiet (o : BootOracle) : Quiet (managerCalls o) := by
  unfold managerCalls
  refine Quiet.append (Quiet.append ?_ (quiet_ite rfl)) ?_ <;> simp [Quiet, BootCall.late]

/-- The SELinux handle and both managers are there, and the volume manager starts. -/
def ManagersUp (o : BootOracle) : Prop :=
  o.sehandle = true ∧ o.volumeManager = true ∧ o.netlinkManager = true ∧
    o.volumeManagerStart = 0

instance (o : BootOracle) : Decidable (ManagersUp o) :=
  inferInstanceAs (Decidable (_ ∧ _ ∧ _ ∧ _))

/-- The managers come up with their calls made, or `main` exits with `1` before any late call. -/
theorem startManagers_cases (o : BootOracle) (b : Boot) :
    (ManagersUp o ∧ ∃ b', startManagers o b = .next () b' ∧ b'.contexts = b.contexts ∧
        b'.diskSources = b.diskSources ∧ b'.log = b.log ++ managerCalls o) ∨
      (¬ManagersUp o ∧ ∃ b', startManagers o b = .exit 1 b' ∧ Grows b b') := by
  by_cases hup : ManagersUp o
  · obtain ⟨hs, hv, hn, h0⟩ := hup
    refine .inl ⟨⟨hs, hv, hn, h0⟩, ?_⟩
    cases hd : o.property "vold.debug" <;>
      simp [startManagers, selinuxAndroidFileContextHandle, volumeManagerInstance,
        netlinkManagerInstance, getBoolProperty, volumeManagerStart, managerCalls, setDebug,
        Boot.record, hs, hv, hn, h0, hd]
  refine .inr ⟨hup, ?_⟩
  unfold startManagers
  simp only [selinuxAndroidFileContextHandle, volumeManagerInstance, netlinkManagerInstance,
    getBoolProperty, volumeManagerStart, bind_apply, call_apply]
  -- the calls made before a missing manager is noticed
  have g5 := (((((Grows.refl b).record (c := .selinuxAndroidFileContextHandle) rfl).record
    (c := .selinuxAndroidSetSehandle) rfl).record (c := .mkdir "/dev/block/vold" 0o755) rfl).record
    (c := .klogSetLevel 6) rfl).record (c := .volumeManagerInstance) rfl
  cases hs : o.sehandle
  · exact ⟨_, rfl, (Grows.refl b).record rfl⟩
  cases hv : o.volumeManager
  · exact ⟨_, rfl, g5⟩
  cases hn : o.netlinkManager
  · exact ⟨_, rfl, g5.record rfl⟩
  have h0 : o.volumeManagerStart ≠ 0 := fun h0 => hup ⟨hs, hv, hn, h0⟩
  cases o.property "vold.debug" <;>
    simp only [Bool.not_true, Bool.false_eq_true, ↓reduceIte, Bool.not_eq_eq_eq_not, ne_eq,
      ite_not, Boot.record, bind_apply, call_apply, List.append_assoc, List.singleton_append,
      List.cons_append, List.nil_append, Bool.true_eq_false, setDebug, h0, exit_apply,
      BootOutcome.exit.injEq, true_and, Grows, Quiet, BootCall.late, exists_eq_left',
      List.append_cancel_left_eq, List.mem_cons, List.mem_singleton, List.not_mem_nil,
      forall_eq_or_imp, forall_eq, false_imp_iff, implies_true, and_self]

theorem FstabEntry.calls_quiet (o : BootOracle) (e : FstabEntry) : Quiet (e.calls o) := by
  refine Quiet.append (quiet_ite rfl) (Quiet.append (Quiet.append (quiet_ite rfl)
    (quiet_ite rfl)) ?_)
  cases (e.updated o).diskSource? o <;> simp [Quiet, BootCall.late]

/-- What `main`'s `configs` hold after `process_config`. -/
def bootConfigs (o : BootOracle) : VoldConfigs :=
  match o.fstab with
  | none => .empty
  | some fstab => fstabConfigs fstab

/-- The disk sources `process_config` registers. -/
def bootSources (o : BootOracle) : List DiskSource :=
  match o.fstab with
  | none => []
  | some fstab => fstab.filterMap fun e => (e.updated o).diskSource? o

/-- The calls of `process_config` when no entry is fatal. -/
def configCalls (o : BootOracle) : List BootCall :=
  .readDefaultFstab :: match o.fstab with
    | none => []
    | some fstab => fstab.flatMap fun e => e.calls o

theorem configCalls_quiet (o : BootOracle) : Quiet (configCalls o) := by
  intro c hc
  unfold configCalls at hc
  split at hc <;> simp only [List.mem_cons, List.mem_flatMap, List.not_mem_nil, or_false] at hc
  · subst hc; rfl
  · rcases hc with rfl | ⟨e, -, hc⟩
    · rfl
    · exact FstabEntry.calls_quiet o e c hc

/-- No entry of the fstab, if it is readable, is fatal. -/
def ConfigOk (o : BootOracle) : Prop := ∀ fstab, o.fstab = some fstab → ∀ e ∈ fstab, ¬e.Fatal o

instance (o : BootOracle) : Decidable (ConfigOk o) :=
  match h : o.fstab with
  | none => isTrue fun _ hf => Option.noConfusion (h.symm.trans hf)
  | some fstab => decidable_of_iff (∀ e ∈ fstab, ¬e.Fatal o)
      ⟨fun hok _ hf => by cases h.symm.trans hf; exact hok, fun hc => hc _ h⟩

/-- `process_config` from `VoldConfigs configs = {};` returns the configs and disk sources the
fstab says, or aborts at a fatal entry before any late call. -/
theorem processConfig_cases (o : BootOracle) (b : Boot) :
    (ConfigOk o ∧ ∃ st b', processConfig o .empty b = .next (st, bootConfigs o) b' ∧
        b'.contexts = b.contexts ∧ b'.diskSources = b.diskSources ++ bootSources o ∧
        b'.log = b.log ++ configCalls o) ∨
      (¬ConfigOk o ∧ ∃ b', processConfig o .empty b = .abort b' ∧ Grows b b') := by
  cases h : o.fstab with
  | none =>
      simp only [bootConfigs, bootSources, configCalls, h]
      refine .inl ⟨fun _ hf => by simp [h] at hf, -1, _, processConfig_unreadable o _ b h, ?_⟩
      simp
  | some fstab =>
      simp only [bootConfigs, bootSources, configCalls, h]
      by_cases hok : ∀ e ∈ fstab, ¬e.Fatal o
      · refine .inl ⟨fun _ hf => by cases h.symm.trans hf; exact hok, 0, _,
          by rw [processConfig_read o _ b h, bind_of_next (configLoop_ok o fstab [] _ _ rfl hok)]
             simp [VoldConfigs.note, fstabConfigs]; rfl, ?_⟩
        simp [Boot.record]
      · obtain ⟨pre, e, post, rfl, hpre, he⟩ := exists_first_fatal o (by simpa using hok)
        refine .inr ⟨fun hc => hc _ h e (by simp) he, _, by
            rw [processConfig_read o _ b h,
              bind_of_abort (configLoop_fatal o he post pre [] _ _ (by simp) hpre)],
          .readDefaultFstab :: pre.flatMap (fun e => e.calls o) ++
            [.fsMgrUpdateLogicalPartition e.blkDevice], by simp [Boot.record], ?_⟩
        refine Quiet.append (fun c hc => ?_) (by simp [Quiet, BootCall.late])
        simp only [List.mem_cons, List.mem_flatMap] at hc
        rcases hc with rfl | ⟨e', -, hc⟩
        · rfl
        · exact FstabEntry.calls_quiet o e' c hc

/-- The calls of `startServices` when both starts succeed. -/
def serviceCalls : List BootCall :=
  [.configureRpcThreadpool 1 false, .voldNativeServiceStart, .netlinkManagerStart]

/-- The binder service and the netlink listener start. -/
def ServicesUp (o : BootOracle) : Prop := o.voldNativeServiceStart = 0 ∧ o.netlinkManagerStart = 0

instance (o : BootOracle) : Decidable (ServicesUp o) := inferInstanceAs (Decidable (_ ∧ _))

/-- Both services come up, or `main` exits with `1` before any late call. -/
theorem startServices_cases (o : BootOracle) (b : Boot) :
    (ServicesUp o ∧ ∃ b', startServices o b = .next () b' ∧ b'.contexts = b.contexts ∧
        b'.diskSources = b.diskSources ∧ b'.log = b.log ++ serviceCalls) ∨
      (¬ServicesUp o ∧ ∃ b', startServices o b = .exit 1 b' ∧ Grows b b') := by
  unfold startServices ServicesUp serviceCalls
  simp only [voldNativeServiceStart, netlinkManagerStart, bind_apply, call_apply]
  by_cases h1 : o.voldNativeServiceStart = 0 <;> by_cases h2 : o.netlinkManagerStart = 0 <;>
    simp only [h1, h2, OK, ne_eq, not_true_eq_false, not_false_eq_true, ↓reduceIte, ite_not,
      Boot.record, List.append_assoc, List.singleton_append, List.cons_append, bind_apply,
      call_apply, pure_apply, exit_apply, reduceCtorEq, BootOutcome.next.injEq,
      BootOutcome.exit.injEq, Grows, Quiet, BootCall.late, exists_eq_left',
      List.append_cancel_left_eq, List.mem_cons, List.mem_singleton, forall_eq_or_imp, forall_eq,
      and_self, and_true, true_and, and_false, false_and, exists_false, or_false, or_true, false_or,
      List.nil_append, List.not_mem_nil, false_imp_iff, implies_true]

/-- `"1"` or `"0"`, as `main` advertises a flag. -/
def propertyValue (flag : Bool) : String := if flag then "1" else "0"

/-- The four `SetProperty` calls for `configs`. -/
def advertiseCalls (c : VoldConfigs) : List BootCall :=
  [.setProperty "vold.has_adoptable" (propertyValue c.hasAdoptable),
    .setProperty "vold.has_quota" (propertyValue c.hasQuota),
    .setProperty "vold.has_reserved" (propertyValue c.hasReserved),
    .setProperty "vold.has_compress" (propertyValue c.hasCompress)]

theorem advertise_apply (c : VoldConfigs) (b : Boot) :
    advertise c b = .next () { b with log := b.log ++ advertiseCalls c } := by
  simp [advertise, setProperty, advertiseCalls, propertyValue, Boot.record]

/-! ## Every run of `main` -/

/-- Every phase before the properties succeeds. -/
def BootsUp (o : BootOracle) : Prop := ParsesArgs o ∧ ManagersUp o ∧ ConfigOk o ∧ ServicesUp o

/-- The calls before the properties when every phase succeeds. -/
def startCalls (o : BootOracle) : List BootCall := managerCalls o ++ configCalls o ++ serviceCalls

theorem startCalls_quiet (o : BootOracle) : Quiet (startCalls o) :=
  ((managerCalls_quiet o).append (configCalls_quiet o)).append (by simp [Quiet, serviceCalls,
    BootCall.late])

theorem mem_state?_exit {b b' : Boot} {c : Int} :
    b ∈ (BootOutcome.exit c b' : BootOutcome α).state? ↔ b = b' := by
  simp [BootOutcome.state?, eq_comm]

theorem mem_state?_abort {b b' : Boot} :
    b ∈ (BootOutcome.abort b' : BootOutcome α).state? ↔ b = b' := by
  simp [BootOutcome.state?, eq_comm]

/-- A late call of a run that passed every phase is a property, a `uevent` write or the join. -/
theorem late_mem_upLog {o : BootOracle} {cfg : VoldConfigs} {ds : List Nat} (c : BootCall)
    (hc : c.late = true) :
    c ∈ startCalls o ++ advertiseCalls cfg ++ ds.map .writeUevent ++ [.joinThreadPool] ↔
      c ∈ advertiseCalls cfg ∨ c ∈ ds.map .writeUevent ∨ c = .joinThreadPool := by
  simp only [List.mem_append, List.mem_singleton, or_assoc]
  exact ⟨fun h => h.resolve_left fun h' => absurd (startCalls_quiet o c h') (by simp [hc]), .inr⟩

/-- Every run of `main` stops before any late call, or it passed every phase and made their
calls in order, `coldboot` returning. -/
theorem main_stops (o : BootOracle) (fuel : Nat) {b : Boot}
    (hb : b ∈ (main o fuel Boot.initial).state?) :
    Quiet b.log ∨ (BootsUp o ∧ ∃ ds, coldboot o.sysfs fuel "/sys/block" = some ds ∧
      b.contexts = parsedContexts o ∧ b.diskSources = bootSources o ∧
      b.log = startCalls o ++ advertiseCalls (bootConfigs o) ++ ds.map .writeUevent ++
        [.joinThreadPool]) := by
  unfold main at hb
  rcases parseArgs_cases o (b := Boot.initial) rfl with ⟨hp, b1, h1, hc1, hd1, hl1⟩ |
    ⟨-, b1, h1, hg⟩
  swap
  · rw [bind_of_abort h1, mem_state?_abort] at hb
    exact .inl (hb ▸ hg.quiet (by simp [Quiet, Boot.initial]))
  have hq1 : Quiet b1.log := by simp [hl1, Quiet, Boot.initial]
  rw [bind_of_next h1] at hb
  rcases startManagers_cases o b1 with ⟨hm, b2, h2, hc2, hd2, hl2⟩ | ⟨-, b2, h2, hg⟩
  swap
  · rw [bind_of_exit h2, mem_state?_exit] at hb
    exact .inl (hb ▸ hg.quiet hq1)
  have hq2 : Quiet b2.log := hl2 ▸ hq1.append (managerCalls_quiet o)
  rw [bind_of_next h2] at hb
  rcases processConfig_cases o b2 with ⟨hc, st, b3, h3, hc3, hd3, hl3⟩ | ⟨-, b3, h3, hg⟩
  swap
  · rw [bind_of_abort h3, mem_state?_abort] at hb
    exact .inl (hb ▸ hg.quiet hq2)
  have hq3 : Quiet b3.log := hl3 ▸ hq2.append (configCalls_quiet o)
  rw [bind_of_next h3] at hb
  dsimp only at hb
  rcases startServices_cases o b3 with ⟨hs, b4, h4, hc4, hd4, hl4⟩ | ⟨-, b4, h4, hg⟩
  swap
  · rw [bind_of_exit h4, mem_state?_exit] at hb
    exact .inl (hb ▸ hg.quiet hq3)
  rw [bind_of_next h4, bind_of_next (advertise_apply _ _)] at hb
  cases hcb : coldboot o.sysfs fuel "/sys/block" with
  | none => simp [runColdboot, hcb, BootOutcome.state?] at hb
  | some ds =>
      refine .inr ⟨⟨hp, hm, hc, hs⟩, ds, rfl, ?_⟩
      cases hj : o.joinThreadPoolReturns <;>
        simp [runColdboot, joinThreadPool, hcb, hj, BootOutcome.state?] at hb <;>
        subst hb <;> simp [hc4, hc3, hc2, hc1, hd4, hd3, hd2, hd1, hl4, hl3, hl2, hl1, startCalls,
          Boot.record, Boot.initial]

/-- When every phase before the properties succeeds and `coldboot` returns, `main` ends in
`joinThreadPool`, having made the calls of all phases in order. -/
theorem main_up (o : BootOracle) (fuel : Nat) (hup : BootsUp o) {ds : List Nat}
    (hcb : coldboot o.sysfs fuel "/sys/block" = some ds) :
    ∃ b, main o fuel Boot.initial = (if o.joinThreadPoolReturns then .exit 0 b else .serve b) ∧
      b.contexts = parsedContexts o ∧ b.diskSources = bootSources o ∧
      b.log = startCalls o ++ advertiseCalls (bootConfigs o) ++ ds.map .writeUevent ++
        [.joinThreadPool] := by
  obtain ⟨hp, hm, hc, hs⟩ := hup
  obtain ⟨-, b1, h1, hc1, hd1, hl1⟩ :=
    (parseArgs_cases o (b := Boot.initial) rfl).resolve_right fun h => h.1 hp
  obtain ⟨-, b2, h2, hc2, hd2, hl2⟩ := (startManagers_cases o b1).resolve_right fun h => h.1 hm
  obtain ⟨-, st, b3, h3, hc3, hd3, hl3⟩ :=
    (processConfig_cases o b2).resolve_right fun h => h.1 hc
  obtain ⟨-, b4, h4, hc4, hd4, hl4⟩ := (startServices_cases o b3).resolve_right fun h => h.1 hs
  unfold main
  rw [bind_of_next h1, bind_of_next h2, bind_of_next h3]
  dsimp only
  rw [bind_of_next h4, bind_of_next (advertise_apply _ _)]
  refine ⟨Boot.record .joinThreadPool
      { b4 with log := b4.log ++ advertiseCalls (bootConfigs o) ++ ds.map .writeUevent }, ?_,
    by simp [hc4, hc3, hc2, hc1], by simp [hd4, hd3, hd2, hd1, Boot.initial],
    by simp [hl4, hl3, hl2, hl1, startCalls, Boot.initial]⟩
  cases hj : o.joinThreadPoolReturns <;> simp [runColdboot, joinThreadPool, hcb, hj]

theorem sampleBoot_up : BootsUp sampleBoot :=
  ⟨by decide, by decide, fun _ h => by cases h; decide, by decide⟩

/-- `main` sets a `vold.has_*` property only once the binder service and the netlink listener are
up, and only to what the fstab says: `vold.has_adoptable` is always `"0"`. -/
theorem main_advertises (o : BootOracle) (fuel : Nat) {b : Boot}
    (hb : b ∈ (main o fuel Boot.initial).state?) {k v : String}
    (hk : .setProperty k v ∈ b.log) :
    ServicesUp o ∧ .setProperty k v ∈ advertiseCalls (bootConfigs o) ∧
      (k = "vold.has_adoptable" → v = "0") := by
  rcases main_stops o fuel hb with hq | ⟨⟨-, -, -, hs⟩, ds, -, -, -, hl⟩
  · exact absurd (hq _ hk) (by simp [BootCall.late])
  have ha : .setProperty k v ∈ advertiseCalls (bootConfigs o) := by
    rcases (late_mem_upLog (.setProperty k v) rfl).mp (hl ▸ hk) with h | h | h
    · exact h
    · simp at h
    · cases h
  refine ⟨hs, ha, fun hk => ?_⟩
  subst hk
  have : (bootConfigs o).hasAdoptable = false := by
    unfold bootConfigs; split <;> rfl
  simpa [advertiseCalls, this, propertyValue] using ha

theorem main_advertises_sample :
    ∃ b, b ∈ (main sampleBoot 2 Boot.initial).state? ∧
      .setProperty "vold.has_quota" "1" ∈ b.log ∧ ServicesUp sampleBoot ∧
      .setProperty "vold.has_quota" "1" ∈ advertiseCalls (bootConfigs sampleBoot) ∧
      ("vold.has_quota" = "vold.has_adoptable" → "1" = "0") := by
  obtain ⟨b, hmain, -, -, hl⟩ := main_up sampleBoot 2 sampleBoot_up
    (show coldboot sampleBoot.sysfs 2 "/sys/block" = some [1] by decide)
  have hb : b ∈ (main sampleBoot 2 Boot.initial).state? := by rw [hmain]; rfl
  have hk : .setProperty "vold.has_quota" "1" ∈ b.log := by rw [hl]; decide
  exact ⟨b, hb, hk, main_advertises _ _ hb hk⟩

/-- When every phase succeeds on a `/sys/block` whose `DT_DIR` entries go down a finite tree,
`main` given enough fuel reaches `joinThreadPool`. It has registered the fstab's disk
sources, set exactly the four properties, and written to the `uevent` of exactly the
directories `coldboot` reaches. -/
theorem main_serves (o : BootOracle) (hup : BootsUp o) (depth : Nat → Nat)
    (hr : o.sysfs.Ranked depth) {root : Nat} (hroot : o.sysfs.opendir "/sys/block" = some root) :
    ∃ N, ∀ fuel, N ≤ fuel → ∃ b,
      main o fuel Boot.initial = (if o.joinThreadPoolReturns then .exit 0 b else .serve b) ∧
      b.diskSources = bootSources o ∧
      (∀ k v, .setProperty k v ∈ b.log ↔ .setProperty k v ∈ advertiseCalls (bootConfigs o)) ∧
      ∀ d, .writeUevent d ∈ b.log ↔
        (∃ lvl, o.sysfs.Reaches root d lvl) ∧ o.sysfs.uevent d = true := by
  refine ⟨(((o.sysfs.entries root).filterMap Dirent.opens).map depth).sum + 2,
    fun fuel hN => ?_⟩
  obtain ⟨fuel, rfl⟩ : ∃ f, fuel = f + 1 := ⟨fuel - 1, by omega⟩
  have hfuel : ∀ de ∈ o.sysfs.entries root, ∀ d2, de.opens = some d2 → depth d2 < fuel :=
    fun de hde d2 ho => by
      have : depth d2 ≤ (((o.sysfs.entries root).filterMap Dirent.opens).map depth).sum :=
        List.le_sum_of_mem (List.mem_map_of_mem depth (List.mem_filterMap.mpr ⟨de, hde, ho⟩))
      omega
  obtain ⟨L, hL, hmem⟩ := doColdboot_top hr hfuel
  have hcb : coldboot o.sysfs (fuel + 1) "/sys/block" = some L := by
    rw [coldboot, hroot]; exact hL
  obtain ⟨b, hmain, -, hd, hl⟩ := main_up o (fuel + 1) hup hcb
  refine ⟨b, hmain, hd, fun k v => ?_, fun d => ?_⟩
  · rw [hl, late_mem_upLog (.setProperty k v) rfl]
    simp
  · rw [hl, late_mem_upLog (.writeUevent d) rfl, ← hmem]
    simp [advertiseCalls]

theorem sampleSysfs_ranked : sampleBoot.sysfs.Ranked fun _ => 0 := by
  intro d de hde _ hdir
  by_cases h : d = 0 <;> simp [sampleBoot, h] at hde
  subst hde
  cases hdir

theorem main_serves_sample :
    BootsUp sampleBoot ∧ sampleBoot.sysfs.Ranked (fun _ => 0) ∧
      sampleBoot.sysfs.opendir "/sys/block" = some 0 ∧
      ∃ N, ∀ fuel, N ≤ fuel → ∃ b,
        main sampleBoot fuel Boot.initial =
          (if sampleBoot.joinThreadPoolReturns then .exit 0 b else .serve b) ∧
        b.diskSources = bootSources sampleBoot ∧
        (∀ k v, .setProperty k v ∈ b.log ↔
          .setProperty k v ∈ advertiseCalls (bootConfigs sampleBoot)) ∧
        ∀ d, .writeUevent d ∈ b.log ↔
          (∃ lvl, sampleBoot.sysfs.Reaches 0 d lvl) ∧ sampleBoot.sysfs.uevent d = true :=
  ⟨sampleBoot_up, sampleSysfs_ranked, rfl, main_serves _ sampleBoot_up _ sampleSysfs_ranked rfl⟩

/-! ## How a run of `main` ends -/

/-- A run of `main` with its state forgotten. -/
inductive BootEnd where
  | next
  | exit (code : Int)
  | abort
  | serve
  | hang
  deriving DecidableEq, Repr

def BootOutcome.toEnd : BootOutcome α → BootEnd
  | .next _ _ => .next
  | .exit c _ => .exit c
  | .abort _ => .abort
  | .serve _ => .serve
  | .hang => .hang

/-- The end of `main` by the first phase that fails: a missing context or a fatal fstab entry
aborts, a manager or service that does not come up exits with `1`, an unreadable fstab does
not stop `vold`, and past `coldboot` it serves until `joinThreadPool` returns. -/
def mainEnd (o : BootOracle) (fuel : Nat) : BootEnd :=
  if ParsesArgs o then
    if ManagersUp o then
      if ConfigOk o then
        if ServicesUp o then
          match coldboot o.sysfs fuel "/sys/block" with
          | some _ => if o.joinThreadPoolReturns then .exit 0 else .serve
          | none => .hang
        else .exit 1
      else .abort
    else .exit 1
  else .abort

/-- Every run of `main` ends as its first failing phase says. -/
theorem main_ends (o : BootOracle) (fuel : Nat) :
    (main o fuel Boot.initial).toEnd = mainEnd o fuel := by
  unfold main mainEnd
  rcases parseArgs_cases o (b := Boot.initial) rfl with ⟨hp, b1, h1, -⟩ | ⟨hp, b1, h1, -⟩
  swap
  · rw [bind_of_abort h1, if_neg hp]; rfl
  rw [bind_of_next h1, if_pos hp]
  rcases startManagers_cases o b1 with ⟨hm, b2, h2, -⟩ | ⟨hm, b2, h2, -⟩
  swap
  · rw [bind_of_exit h2, if_neg hm]; rfl
  rw [bind_of_next h2, if_pos hm]
  rcases processConfig_cases o b2 with ⟨hc, st, b3, h3, -⟩ | ⟨hc, b3, h3, -⟩
  swap
  · rw [bind_of_abort h3, if_neg hc]; rfl
  rw [bind_of_next h3, if_pos hc]
  dsimp only
  rcases startServices_cases o b3 with ⟨hs, b4, h4, -⟩ | ⟨hs, b4, h4, -⟩
  swap
  · rw [bind_of_exit h4, if_neg hs]; rfl
  rw [bind_of_next h4, if_pos hs, bind_of_next (advertise_apply _ _)]
  cases hcb : coldboot o.sysfs fuel "/sys/block" <;> cases hj : o.joinThreadPoolReturns <;>
    simp [runColdboot, joinThreadPool, hcb, hj, BootOutcome.toEnd]

end Vold
