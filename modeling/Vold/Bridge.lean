import Vold.DoMount

/-!
# The bridge record over whole runs

A client calls `doMount`, `bindMountForUser` and `doUnmount` in any order. `mFuseMounted` says
exactly whether the owner's bridge is mounted only under two conditions that no code of the
volume checks. The callers must make `doMount` only while the bridge is down, and bind only
users other than the owner (`Op.Guarded`). Every probe must read a UUID that is empty or a
single path component (`Oracle.ProbesNames`). Under both, along every run and whatever the
primitives return, the owner's bridge point for the stable name carries one mount while the flag
is set and none otherwise.

Without the guard, a `doMount` retried after a rollback whose `UnmountUserFuse` failed stacks a
second bridge, and its own rollback takes off only that one. Without the probe condition, the
UUID `..` puts the bind of another user on the owner's bridge point. The raw path has no such
guarantee even under both: `doUnmount` forgets it when the raw mount stays.
-/

namespace Vold

/-- Every probe reads a UUID that is empty or a single path component. -/
def Oracle.ProbesNames (o : Oracle) : Prop :=
  ∀ n, (o.metadata n).fsUuid = "" ∨ IsPathComponent (o.metadata n).fsUuid

namespace PublicVolume

open Proc

/-- A call a client makes on the volume. -/
inductive Op
  | mount (r : Registry) (fuel : Nat)
  | bind (userId : UserId)
  | unmount (r : Registry)

/-- The code the call runs. -/
def Op.run (o : Oracle) : Op → Proc Status
  | .mount r fuel => doMount o r fuel
  | .bind userId => bindMountForUser o userId
  | .unmount r => doUnmount o r

/-- The calling discipline the record's exactness needs and the volume does not check:
`doMount` while the bridge is down, `bindMountForUser` for a user other than the owner. -/
def Op.Guarded (s : Sys) : Op → Prop
  | .mount _ _ => s.vol.fuseMounted = false
  | .bind userId => userId ≠ s.vol.mountUserId
  | .unmount _ => True

/-- The states reached from `s0` by calls that each return, each one allowed in the state it is
made in. -/
inductive Reachable (o : Oracle) (allowed : Sys → Op → Prop) (s0 : Sys) : Sys → Prop
  | init : Reachable o allowed s0 s0
  | step {s s' : Sys} {op : Op} {st : Status} : Reachable o allowed s0 s → allowed s op →
      op.run o s = .next st s' → Reachable o allowed s0 s'

namespace Reachable

variable {o : Oracle} {allowed : Sys → Op → Prop} {s0 s s' : Sys} {st : Status}

theorem mount {r : Registry} {fuel : Nat} (h : Reachable o allowed s0 s)
    (ha : allowed s (.mount r fuel)) (hd : doMount o r fuel s = .next st s') :
    Reachable o allowed s0 s' :=
  @Reachable.step o allowed s0 s s' (.mount r fuel) st h ha hd

theorem bind {u : UserId} (h : Reachable o allowed s0 s) (ha : allowed s (.bind u))
    (hb : bindMountForUser o u s = .next st s') : Reachable o allowed s0 s' :=
  @Reachable.step o allowed s0 s s' (.bind u) st h ha hb

end Reachable

/-- The names the record derives its paths from are single path components. -/
structure NamesOk (v : PublicVolume) : Prop where
  id : IsPathComponent v.id
  uuid : v.fsUuid = "" ∨ IsPathComponent v.fsUuid

namespace NamesOk

theorem stableName {v : PublicVolume} (h : NamesOk v) : IsPathComponent v.stableName := by
  unfold PublicVolume.stableName
  split_ifs with hu
  · exact h.id
  · exact h.uuid.resolve_left hu

theorem unmounted {v : PublicVolume} (h : NamesOk v) : NamesOk (unmountedVol v) :=
  ⟨by rw [unmountedVol_id]; exact h.id, by rw [unmountedVol_fsUuid]; exact h.uuid⟩

end NamesOk

/-! ## Which paths name the owner's bridge points -/

/-- Paths that name no user point name none of the bridge points. -/
theorem countAt_fuse_of_not_userPoint {ps : List String} (h : ∀ p ∈ ps, ¬IsUserPoint p)
    (u : UserId) {n : String} (hn : IsPathComponent n) :
    Kernel.countAt (getFuseMountPathForUser u n) ps = 0 :=
  Kernel.countAt_eq_zero.mpr fun p hp => resolve_ne_of_not_isUserPoint (h p hp) u hn

/-- The bridge paths of users other than the owner name none of the owner's bridge points. -/
theorem countAt_fuse_of_others {owner : UserId} {name n : String} (hname : IsPathComponent name)
    (hn : IsPathComponent n) (us : List UserId) (hus : ∀ u ∈ us, u ≠ owner) :
    Kernel.countAt (getFuseMountPathForUser owner n) (us.map (getFuseMountPathForUser · name)) = 0 :=
  Kernel.countAt_eq_zero.mpr fun p hp => by
    obtain ⟨u, hu, rfl⟩ := List.mem_map.mp hp
    exact fun he => hus u hu (resolve_getFuseMountPathForUser_inj hname hn he).1

/-- The owner's bridge paths of two single-component names name one point only for one name. -/
theorem countAt_fuse_self {u : UserId} {name n : String} (hname : IsPathComponent name)
    (hn : IsPathComponent n) :
    Kernel.countAt (getFuseMountPathForUser u n) [getFuseMountPathForUser u name] =
      if n = name then 1 else 0 := by
  by_cases he : n = name
  · subst he
    simp
  · simp only [Kernel.countAt_cons, Kernel.countAt_nil, if_neg he, zero_add, ite_eq_right_iff]
    exact fun h => absurd (resolve_getFuseMountPathForUser_inj hname hn h).2.symm he

/-- Neither the ASEC bind nor a recorded raw or view path is a user point. -/
theorem not_isUserPoint_of_teardown {v : PublicVolume}
    (hoff : ∀ p ∈ v.rawPath :: v.sdcardFsViews, ¬IsUserPoint p) {p : String}
    (hp : p = kAsecPath ∨ p ∈ (if v.useSdcardFs then v.sdcardFsViews else []) ∨ p = v.rawPath) :
    ¬IsUserPoint p := by
  rcases hp with rfl | hp | rfl
  · exact not_isUserPoint_kAsecPath
  · split_ifs at hp
    · exact hoff p (List.mem_cons_of_mem _ hp)
    · exact absurd hp (List.not_mem_nil _)
  · exact hoff _ (List.mem_cons_self _ _)

theorem not_isUserPoint_of_mem_stagePoints {v : PublicVolume}
    (hoff : ∀ p ∈ v.rawPath :: v.sdcardFsViews, ¬IsUserPoint p) :
    ∀ p ∈ stagePoints v, ¬IsUserPoint p := fun p hp => by
  simp only [stagePoints, List.mem_append, List.mem_cons, List.mem_singleton, List.not_mem_nil,
    or_false] at hp
  exact not_isUserPoint_of_teardown hoff (by rcases hp with hp | hp | hp <;> simp [hp])

/-- With no recorded raw or view path a user point, `doUnmount` names each of the owner's bridge
points once when it is the bridge its record has up, and never otherwise. -/
theorem countAt_unmountTargets_bridge {v : PublicVolume} (r : Registry)
    (hname : IsPathComponent v.stableName)
    (hoff : ∀ p ∈ v.rawPath :: v.sdcardFsViews, ¬IsUserPoint p) {n : String}
    (hn : IsPathComponent n) :
    Kernel.countAt (getFuseMountPathForUser v.mountUserId n) (unmountTargets v r) =
      if v.fuseMounted ∧ n = v.stableName then 1 else 0 := by
  have hrest : Kernel.countAt (getFuseMountPathForUser v.mountUserId n)
      (kAsecPath :: (if v.useSdcardFs then v.sdcardFsViews else []) ++ [v.rawPath]) = 0 :=
    countAt_fuse_of_not_userPoint (fun p hp => not_isUserPoint_of_teardown hoff (by
      simp only [List.mem_append, List.mem_cons, List.mem_singleton, List.not_mem_nil,
        or_false] at hp
      rcases hp with (hp | hp) | hp <;> simp [hp])) _ hn
  have hbind : Kernel.countAt (getFuseMountPathForUser v.mountUserId n)
      (userBindPaths v.mountUserId v.stableName r.startedUsers.users) = 0 :=
    countAt_fuse_of_others hname hn _ fun u hu => of_decide_eq_true (List.mem_filter.mp hu).2
  have hself := countAt_fuse_self (u := v.mountUserId) hname hn
  simp only [unmountTargets, fuseTargets, Kernel.countAt_append] at hrest ⊢
  split_ifs with hf hb hb <;> simp_all [bridgePath]

/-- `doUnmount` leaves no raw path and, under sdcardfs, blank view paths. -/
theorem offBridge_unmountedVol {v : PublicVolume}
    (hoff : ∀ p ∈ v.rawPath :: v.sdcardFsViews, ¬IsUserPoint p) :
    ∀ p ∈ (unmountedVol v).rawPath :: (unmountedVol v).sdcardFsViews, ¬IsUserPoint p := by
  rw [unmountedVol_rawPath, unmountedVol_sdcardFsViews]
  intro p hp
  split_ifs at hp
  · simp only [List.mem_cons, List.mem_singleton, List.not_mem_nil, or_false, or_self] at hp
    exact hp ▸ not_isUserPoint_empty
  · rcases List.mem_cons.mp hp with rfl | hp
    · exact not_isUserPoint_empty
    · exact hoff p (List.mem_cons_of_mem _ hp)

/-! ## The shape of a `doMount` run -/

/-- A predicate that each part of a `doMount` keeps holds of the state it returns. The parts are
the stages up to the raw mount, the bridge mounted or not, and after it either the rollback's
`doUnmount` or the fan-out. -/
theorem doMount_induction {o : Oracle} {r : Registry} {fuel : Nat} {s : Sys} (P : Sys → Prop)
    (hstage : ∀ s0, Mounted (stagePoints s0.vol) s s0 →
      (s0.vol = preparedVol s.vol (o.metadata s.log.length) ∨
        s0.vol = withMetadata s.vol (o.metadata s.log.length)) → P s0)
    (hdown : ∀ s0 s1, P s0 → s1.vol = s0.vol → Mounted [] s0 s1 → P s1)
    (hup : ∀ s0 s1, P s0 → s0.vol = preparedVol s.vol (o.metadata s.log.length) →
      s1.vol = { s0.vol with fuseMounted := true } → Mounted [s0.vol.bridgePath] s0 s1 →
      s0.Settled s1 → (Kernel.countAt s0.vol.bridgePath s0.childPoints = 0 →
        ∃ m, Kernel.mountsAt s0.vol.bridgePath s1.mounts =
          m :: Kernel.mountsAt s0.vol.bridgePath s0.mounts) → P s1)
    (hunmount : ∀ s1 s2 st, P s1 → doUnmount o r s1 = .next st s2 → P s2)
    (hfan : ∀ s1 s3, P s1 → s3.vol = s1.vol → Mounted (fanOutPaths s1.vol r).reverse s1 s3 →
      P s3)
    {st : Status} {s' : Sys} (hd : doMount o r fuel s = .next st s') : P s' := by
  rcases mountStages_spec o r fuel s with hms | ⟨s0, ⟨⟨e, hms, -⟩, hm0, hv0⟩ | ⟨hv0, hm0, -, hms, -⟩⟩
  · simp [PublicVolume.doMount, hms] at hd
  · simp only [PublicVolume.doMount, body_apply, bind_apply, hms, Outcome.next.injEq] at hd
    obtain ⟨rfl, rfl⟩ := hd
    exact hstage s0 hm0 hv0
  have h0 := hstage s0 hm0 (.inl hv0)
  obtain ⟨s1, ⟨hv1, hm1, st2, s2, h2, e, -, hfe⟩ | ⟨hv1, ⟨hm1, hk1, -, hstk⟩, hf1⟩⟩ :=
    mountFuse_spec o r s0.vol.stableName s0
  · simp only [PublicVolume.doMount, body_apply, bind_apply, hms, hfe, Outcome.next.injEq] at hd
    obtain ⟨rfl, rfl⟩ := hd
    exact hunmount s1 s2 st2 (hdown s0 s1 h0 hv1 hm1) h2
  have h1 := hup s0 s1 h0 hv0 hv1 hm1 hk1 fun hk => ⟨_, hstk hk⟩
  rcases hf1 with ⟨st2, s2, h2, e, -, hfe⟩ | ⟨hfe, -⟩
  · simp only [PublicVolume.doMount, body_apply, bind_apply, hms, hfe, Outcome.next.injEq] at hd
    obtain ⟨rfl, rfl⟩ := hd
    exact hunmount s1 s2 st2 h1 h2
  · obtain ⟨s3, h3, hv3, -, hm3⟩ := bindForStartedUsers_spec o r r.startedUsers.users s1
    simp only [PublicVolume.doMount, body_apply, bind_apply, hms, hfe, h3, pure_apply,
      Outcome.next.injEq] at hd
    obtain ⟨rfl, rfl⟩ := hd
    exact hfan s1 s3 h1 hv3 hm3

/-! ## The bridge record -/

/-- `mFuseMounted` is exact: the owner's bridge point for the stable name carries one mount
while it is set and none otherwise, and the owner's bridge point for any other single-component
name carries none. The names stay single components, and no recorded raw or view path, and no
view a running sdcard daemon has still to mount, is a bridge point of the owner. -/
structure BridgeExact (s : Sys) : Prop where
  names : NamesOk s.vol
  bridge : ∀ n, IsPathComponent n →
    (Kernel.mountsAt (getFuseMountPathForUser s.vol.mountUserId n) s.mounts).length =
      if s.vol.fuseMounted ∧ n = s.vol.stableName then 1 else 0
  offBridge : ∀ p ∈ s.vol.rawPath :: s.vol.sdcardFsViews, ¬IsUserPoint p
  kids : ∀ n, IsPathComponent n →
    Kernel.countAt (getFuseMountPathForUser s.vol.mountUserId n) s.childPoints = 0

namespace BridgeExact

/-- Mounts at none of the owner's bridge points keep the record exact. -/
theorem of_mounted {ps : List String} {s s' : Sys} (h : BridgeExact s) (hm : Mounted ps s s')
    (hv : s'.vol = s.vol)
    (hps : ∀ n, IsPathComponent n →
      Kernel.countAt (getFuseMountPathForUser s.vol.mountUserId n) ps = 0) :
    BridgeExact s' := by
  refine ⟨hv ▸ h.names, fun n hn => ?_, hv ▸ h.offBridge, fun n hn => ?_⟩
  · rw [hv, hm.frame (hps n hn) (h.kids n hn)]
    exact h.bridge n hn
  · rw [hv]
    exact hm.countAt_eq_zero (hps n hn) (h.kids n hn)

/-- Mounting the bridge and setting `mFuseMounted` keeps the record exact. -/
theorem push {s s' : Sys} (h : BridgeExact s) (hf : s.vol.fuseMounted = false)
    (hv : s'.vol = { s.vol with fuseMounted := true }) (hm : Mounted [s.vol.bridgePath] s s')
    (hk : s.Settled s')
    (hstk : ∃ m, Kernel.mountsAt s.vol.bridgePath s'.mounts =
      m :: Kernel.mountsAt s.vol.bridgePath s.mounts) :
    BridgeExact s' := by
  have hname := h.names.stableName
  refine ⟨by rw [hv]; exact ⟨h.names.id, h.names.uuid⟩, fun n hn => ?_,
    by rw [hv]; exact h.offBridge, fun n hn => ?_⟩
  · have hdown := h.bridge n hn
    rw [hf] at hdown
    rw [hv]
    by_cases he : n = s.vol.stableName
    · subst he
      obtain ⟨m, hstk⟩ := hstk
      rw [bridgePath] at hstk
      simp [hstk, hdown]
    · rw [hm.frame (by rw [bridgePath, countAt_fuse_self hname hn, if_neg he]) (h.kids n hn), hdown]
      simp [he]
  · rw [hv]
    exact hk.countAt_eq_zero (h.kids n hn)

/-- A stage exit of `doMount` keeps the record exact, with the bridge still down. -/
theorem of_stages {o : Oracle} (ho : o.ProbesNames) {s s0 : Sys} (h : BridgeExact s)
    (hf : s.vol.fuseMounted = false) (hm : Mounted (stagePoints s0.vol) s s0)
    (hv : s0.vol = preparedVol s.vol (o.metadata s.log.length) ∨
      s0.vol = withMetadata s.vol (o.metadata s.log.length)) :
    BridgeExact s0 ∧ s0.vol.fuseMounted = false := by
  have hid : s0.vol.mountUserId = s.vol.mountUserId := by rcases hv with hv | hv <;> rw [hv] <;> rfl
  have hf0 : s0.vol.fuseMounted = false := by rcases hv with hv | hv <;> rw [hv] <;> exact hf
  have hnames : NamesOk s0.vol := by
    rcases hv with hv | hv <;> rw [hv] <;> exact ⟨h.names.id, ho _⟩
  have hoff : ∀ p ∈ s0.vol.rawPath :: s0.vol.sdcardFsViews, ¬IsUserPoint p := by
    rcases hv with hv | hv
    · have hd := hv ▸ pathsDerived_preparedVol s.vol (o.metadata s.log.length)
      intro p hp
      rw [hd.1, hd.2] at hp
      rcases List.mem_cons.mp hp with rfl | hp
      · exact not_isUserPoint_rawPathFor hnames.stableName
      · exact not_isUserPoint_of_mem_views hnames.stableName hp
    · rw [hv]
      exact h.offBridge
  have hps : ∀ n, IsPathComponent n →
      Kernel.countAt (getFuseMountPathForUser s.vol.mountUserId n) (stagePoints s0.vol) = 0 :=
    fun n hn => countAt_fuse_of_not_userPoint (not_isUserPoint_of_mem_stagePoints hoff) _ hn
  refine ⟨⟨hnames, fun n hn => ?_, hoff, fun n hn => ?_⟩, hf0⟩
  · rw [hid, hm.frame (hps n hn) (h.kids n hn), h.bridge n hn]
    simp [hf, hf0]
  · rw [hid]
    exact hm.countAt_eq_zero (hps n hn) (h.kids n hn)

/-- `bindMountForUser` for a user other than the owner keeps the record exact. -/
theorem bind {o : Oracle} {u : UserId} {s s' : Sys} {st : Status} (h : BridgeExact s)
    (hu : u ≠ s.vol.mountUserId) (hb : bindMountForUser o u s = .next st s') : BridgeExact s' := by
  obtain ⟨_, s1, h1, hv, -, hm⟩ := bindMountForUser_spec o u s
  rw [hb] at h1
  cases h1
  exact h.of_mounted hm hv fun n hn =>
    countAt_fuse_of_others h.names.stableName hn [u] (by simpa using hu)

/-- `doUnmount` keeps the record exact, whatever its unmount calls return. -/
theorem doUnmount {o : Oracle} {r : Registry} {s s' : Sys} {st : Status} (h : BridgeExact s)
    (hu : doUnmount o r s = .next st s') : BridgeExact s' := by
  have hname := h.names.stableName
  have hT := fun n (hn : IsPathComponent n) =>
    countAt_unmountTargets_bridge r hname h.offBridge hn
  obtain ⟨_, _, h', hun, ⟨-, hv, hpop⟩ | ⟨-, -, hv, -, hkeep⟩⟩ := doUnmount_spec o r s <;>
    rw [hu] at h' <;> cases h'
  · refine ⟨by rw [hv]; exact h.names.unmounted, fun n hn => ?_,
      by rw [hv]; exact offBridge_unmountedVol h.offBridge, fun n hn => ?_⟩
    · rw [hv, unmountedVol_mountUserId, unmountedVol_fuseMounted]
      by_cases hb : s.vol.fuseMounted ∧ n = s.vol.stableName
      · obtain ⟨hf, rfl⟩ := hb
        have hone := h.bridge _ hn
        rw [if_pos ⟨hf, rfl⟩] at hone
        rw [bridgePath] at hpop
        rw [hpop hf (by rw [hT _ hn, if_pos ⟨hf, rfl⟩]) (h.kids _ hn), List.length_tail, hone]
        simp
      · rw [hun.frame (by rw [hT n hn, if_neg hb]) (h.kids n hn), h.bridge n hn, if_neg hb]
        simp
    · rw [hv, unmountedVol_mountUserId]
      exact hun.countAt_eq_zero (h.kids n hn)
  · refine ⟨by rw [hv]; exact h.names, fun n hn => ?_, by rw [hv]; exact h.offBridge,
      fun n hn => ?_⟩
    · rw [hv]
      by_cases he : n = s.vol.stableName
      · subst he
        rw [← h.bridge _ hn]
        exact congrArg List.length (hkeep (countAt_fuse_of_others hname hname _ fun u hu =>
          of_decide_eq_true (List.mem_filter.mp hu).2) (h.kids _ hname))
      · rw [hun.frame (by rw [hT n hn]; simp [he]) (h.kids n hn), h.bridge n hn]
    · rw [hv]
      exact hun.countAt_eq_zero (h.kids n hn)

/-- `doMount` on a volume whose bridge is down keeps the record exact, whatever the stages and
the primitives return. -/
theorem doMount {o : Oracle} (ho : o.ProbesNames) {r : Registry} {fuel : Nat} {s s' : Sys}
    {st : Status} (h : BridgeExact s) (hf : s.vol.fuseMounted = false)
    (hd : doMount o r fuel s = .next st s') : BridgeExact s' :=
  doMount_induction BridgeExact (fun _ hm hv => (h.of_stages ho hf hm hv).1)
    (fun _ _ h0 hv hm => h0.of_mounted hm hv fun _ _ => rfl)
    (fun _ _ h0 hv0 hv1 hm hk hstk =>
      h0.push (by rw [hv0]; exact hf) hv1 hm hk (hstk (h0.kids _ h0.names.stableName)))
    (fun _ _ _ h1 hu => h1.doUnmount hu)
    (fun _ _ h1 hv hm => h1.of_mounted hm hv fun n hn => by
      rw [Kernel.countAt_reverse]
      exact countAt_fuse_of_others h1.names.stableName hn _ fun u hu =>
        (of_decide_eq_true (List.mem_filter.mp hu).2).1)
    hd

/-- One guarded call keeps the record exact. -/
theorem step {o : Oracle} (ho : o.ProbesNames) {op : Op} {s s' : Sys} {st : Status}
    (h : BridgeExact s) (hop : op.Guarded s) (hrun : op.run o s = .next st s') : BridgeExact s' := by
  cases op with
  | mount r fuel => exact h.doMount ho hop hrun
  | bind u => exact h.bind hop hrun
  | unmount r => exact h.doUnmount hrun

end BridgeExact

/-- A volume fresh from the constructor, on a table with nothing mounted and no daemon running. -/
theorem bridgeExact_create (d : Device) (b : Bool) (flags : MountFlags) (u : UserId) (cb : Bool)
    (e : Int) (log : List Event) :
    BridgeExact ⟨{ create d b with
      mountFlags := flags, mountUserId := u, hasMountCallback := cb }, [], e, log, []⟩ where
  names := ⟨publicId_isPathComponent d, .inl rfl⟩
  bridge _ _ := by simp [create, Kernel.mountsAt]
  offBridge p hp := by
    simp only [create, sdcardFsViews, List.mem_cons, List.mem_singleton, List.not_mem_nil,
      or_false, or_self] at hp
    exact hp ▸ not_isUserPoint_empty
  kids _ _ := rfl

/-- Along every run of guarded calls under probes that name their UUIDs well, whatever the
primitives return, `mFuseMounted` is set exactly when one mount sits at the owner's bridge
point for the stable name, and no other bridge point of the owner carries a mount. -/
theorem bridge_record_exact (o : Oracle) (ho : o.ProbesNames) (s0 s : Sys) (h0 : BridgeExact s0)
    (h : Reachable o Op.Guarded s0 s) : BridgeExact s := by
  induction h with
  | init => exact h0
  | step _ hop hrun ih => exact ih.step ho hop hrun

set_option smartUnfolding false in
/-- A fresh card mounted with every call succeeding, then bound into user 10: the bridge is up
and its record exact. -/
theorem bridge_record_exact_after_bind :
    ∃ s, Reachable (.failingAt ⟨"vfat", "", ""⟩ [] 0) Op.Guarded
        ⟨{ create ⟨8, 1⟩ false with mountFlags := ⟨false, true⟩, mountUserId := 0 }, [], 0, [], []⟩ s ∧
      s.vol.fuseMounted = true ∧ BridgeExact s := by
  obtain ⟨_, s1, h1, hid, h⟩ := Outcome.exists_of_returns
    (o := doMount (.failingAt ⟨"vfat", "", ""⟩ [] 0) ⟨⟨[0], by decide⟩, fun _ => 0⟩ 0
      ⟨{ create ⟨8, 1⟩ false with mountFlags := ⟨false, true⟩, mountUserId := 0 }, [], 0, [], []⟩)
    (p := fun _ s1 => s1.vol.mountUserId = 0 ∧
      (bindMountForUser (.failingAt ⟨"vfat", "", ""⟩ [] 0) 10 s1).returns
        (fun _ s2 => s2.vol.fuseMounted = true) = true)
    (by decide)
  obtain ⟨_, s2, h2, hf⟩ := Outcome.exists_of_returns h
  have hr : Reachable (.failingAt ⟨"vfat", "", ""⟩ [] 0) Op.Guarded _ s2 :=
    (Reachable.init.mount (by simp [Op.Guarded, create]) h1).bind (by simp [Op.Guarded, hid]) h2
  exact ⟨s2, hr, hf, bridge_record_exact _ (fun _ => Or.inl rfl) _ _
    (bridgeExact_create _ _ _ _ _ _ _) hr⟩

set_option smartUnfolding false in
/-- After a successful `doMount`, a `doUnmount` whose `ForceUnmount` and lazy `umount2` of the raw
path both fail returns `OK` with `mRawPath` cleared while the raw mount stays. -/
theorem raw_record_cleared_while_mounted :
    ∃ st1 s1 st2 s2,
      doMount (.failingAt ⟨"vfat", "", ""⟩ [10, 11] EIO) ⟨⟨[0], by decide⟩, fun _ => 0⟩ 0
        ⟨{ create ⟨8, 1⟩ false with mountFlags := ⟨false, true⟩, mountUserId := 0 }, [], 0, [], []⟩ =
        .next st1 s1 ∧
      doUnmount (.failingAt ⟨"vfat", "", ""⟩ [10, 11] EIO) ⟨⟨[0], by decide⟩, fun _ => 0⟩ s1 =
        .next st2 s2 ∧
      st1 = OK ∧ st2 = OK ∧ s2.vol.rawPath = "" ∧
      s2.mounts.map Mount.point = ["/mnt/media_rw/public:8,1"] := by
  obtain ⟨st1, s1, h1, hst1, h⟩ := Outcome.exists_of_returns
    (o := doMount (.failingAt ⟨"vfat", "", ""⟩ [10, 11] EIO) ⟨⟨[0], by decide⟩, fun _ => 0⟩ 0
      ⟨{ create ⟨8, 1⟩ false with mountFlags := ⟨false, true⟩, mountUserId := 0 }, [], 0, [], []⟩)
    (p := fun st1 s1 => st1 = OK ∧
      (doUnmount (.failingAt ⟨"vfat", "", ""⟩ [10, 11] EIO) ⟨⟨[0], by decide⟩, fun _ => 0⟩ s1).returns
        (fun st2 s2 => st2 = OK ∧ s2.vol.rawPath = "" ∧
          s2.mounts.map Mount.point = ["/mnt/media_rw/public:8,1"]) = true)
    (by decide)
  obtain ⟨st2, s2, h2, h⟩ := Outcome.exists_of_returns h
  exact ⟨st1, s1, st2, s2, h1, h2, hst1, h⟩

set_option smartUnfolding false in
/-- A `doMount` whose rollback fails at `UnmountUserFuse` returns with the bridge up and the flag
set. Retried, it stacks a second bridge, and its own rollback takes off only that one: the flag
is clear over a bridge still mounted. -/
theorem retried_mount_clears_flag_over_bridge :
    ∃ st1 s1 st2 s2,
      doMount { Oracle.failingAt ⟨"vfat", "", ""⟩ [7] EIO with ready := fun _ => false }
          ⟨⟨[0], by decide⟩, fun _ => 0⟩ 0
          ⟨{ create ⟨8, 1⟩ false with
            mountFlags := ⟨false, true⟩, mountUserId := 0, hasMountCallback := true }, [], 0, [], []⟩ = .next st1 s1 ∧
      s1.vol.fuseMounted = true ∧
      doMount { Oracle.failingAt ⟨"vfat", "", ""⟩ [7] EIO with ready := fun _ => false }
          ⟨⟨[0], by decide⟩, fun _ => 0⟩ 0 s1 = .next st2 s2 ∧
      s2.vol.fuseMounted = false ∧ (Kernel.mountsAt s2.vol.bridgePath s2.mounts).length = 1 := by
  obtain ⟨st1, s1, h1, hf1, h⟩ := Outcome.exists_of_returns
    (o := doMount { Oracle.failingAt ⟨"vfat", "", ""⟩ [7] EIO with ready := fun _ => false }
      ⟨⟨[0], by decide⟩, fun _ => 0⟩ 0
      ⟨{ create ⟨8, 1⟩ false with
        mountFlags := ⟨false, true⟩, mountUserId := 0, hasMountCallback := true }, [], 0, [], []⟩)
    (p := fun _ s1 => s1.vol.fuseMounted = true ∧
      (doMount { Oracle.failingAt ⟨"vfat", "", ""⟩ [7] EIO with ready := fun _ => false }
        ⟨⟨[0], by decide⟩, fun _ => 0⟩ 0 s1).returns (fun _ s2 => s2.vol.fuseMounted = false ∧
          (Kernel.mountsAt s2.vol.bridgePath s2.mounts).length = 1) = true)
    (by decide)
  obtain ⟨st2, s2, h2, h⟩ := Outcome.exists_of_returns h
  exact ⟨st1, s1, st2, s2, h1, hf1, h2, h⟩

set_option smartUnfolding false in
/-- A probe that reads the UUID `..` puts the owner's bridge and the bind into user 10 on one
point, `/mnt/user`, while the record has one bridge up. -/
theorem dotDot_uuid_stacks_binds :
    ∃ st s, doMount (.failingAt ⟨"vfat", "..", ""⟩ [] 0) ⟨⟨[0, 10], by decide⟩, fun _ => 0⟩ 0
        ⟨{ create ⟨8, 1⟩ false with mountFlags := ⟨false, true⟩, mountUserId := 0 }, [], 0, [],
          []⟩ = .next st s ∧
      s.vol.fuseMounted = true ∧ (Kernel.mountsAt s.vol.bridgePath s.mounts).length = 2 :=
  Outcome.exists_of_returns (by decide)

/-- Neither condition of the bridge record's exactness can be dropped, and the raw record is not
exact even under both: a `doMount` retried over a bridge its rollback left up, a probe that
reads the UUID `..`, and a `doUnmount` whose unmounts of the raw path fail. -/
theorem bridge_record_conditions_needed :
    (∃ st1 s1 st2 s2,
      doMount { Oracle.failingAt ⟨"vfat", "", ""⟩ [7] EIO with ready := fun _ => false }
          ⟨⟨[0], by decide⟩, fun _ => 0⟩ 0
          ⟨{ create ⟨8, 1⟩ false with
            mountFlags := ⟨false, true⟩, mountUserId := 0, hasMountCallback := true }, [], 0, [], []⟩ = .next st1 s1 ∧
      s1.vol.fuseMounted = true ∧
      doMount { Oracle.failingAt ⟨"vfat", "", ""⟩ [7] EIO with ready := fun _ => false }
          ⟨⟨[0], by decide⟩, fun _ => 0⟩ 0 s1 = .next st2 s2 ∧
      s2.vol.fuseMounted = false ∧ (Kernel.mountsAt s2.vol.bridgePath s2.mounts).length = 1) ∧
    (∃ st s, doMount (.failingAt ⟨"vfat", "..", ""⟩ [] 0) ⟨⟨[0, 10], by decide⟩, fun _ => 0⟩ 0
        ⟨{ create ⟨8, 1⟩ false with mountFlags := ⟨false, true⟩, mountUserId := 0 }, [], 0, [],
          []⟩ = .next st s ∧
      s.vol.fuseMounted = true ∧ (Kernel.mountsAt s.vol.bridgePath s.mounts).length = 2) ∧
    (∃ st1 s1 st2 s2,
      doMount (.failingAt ⟨"vfat", "", ""⟩ [10, 11] EIO) ⟨⟨[0], by decide⟩, fun _ => 0⟩ 0
        ⟨{ create ⟨8, 1⟩ false with mountFlags := ⟨false, true⟩, mountUserId := 0 }, [], 0, [], []⟩ =
        .next st1 s1 ∧
      doUnmount (.failingAt ⟨"vfat", "", ""⟩ [10, 11] EIO) ⟨⟨[0], by decide⟩, fun _ => 0⟩ s1 =
        .next st2 s2 ∧
      st1 = OK ∧ st2 = OK ∧ s2.vol.rawPath = "" ∧
      s2.mounts.map Mount.point = ["/mnt/media_rw/public:8,1"]) :=
  ⟨retried_mount_clears_flag_over_bridge, dotDot_uuid_stacks_binds, raw_record_cleared_while_mounted⟩

end PublicVolume

end Vold
