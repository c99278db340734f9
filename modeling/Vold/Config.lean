import Vold.Daemon

/-!
# `process_config`

`process_config` reads the default fstab into `fstab_default`. It then loops over the entries.
It notes which ones ask for quota, reserved space or compression. It points each logical
partition at its device-mapper device, aborting when one is missing and not marked
`no_fail`. It registers every vold-managed removable entry as a disk source of the volume
manager.

The loop is related to a declarative reading of the fstab below. When no entry is fatal,
`fstab_default` holds every entry updated and the configs say whether any entry asks for each
feature. The disk sources and the calls are those of the entries in order. Otherwise the loop
aborts at the first fatal entry, having registered only the entries before it.
-/

namespace Vold

open BootM

def readDefaultFstab (o : BootOracle) : BootM (Option (List FstabEntry)) :=
  call .readDefaultFstab o.fstab

/-- `fs_mgr_update_logical_partition(&entry)`: on success, the entry with its `blk_device`
set to the device `fs_mgr` finds for it. -/
def fsMgrUpdateLogicalPartition (o : BootOracle) (entry : FstabEntry) :
    BootM (Option FstabEntry) :=
  call (.fsMgrUpdateLogicalPartition entry.blkDevice)
    ((o.logicalPartition entry.blkDevice).map fun p => { entry with blkDevice := p })

def defaultkeyPrecreateDmDevice : BootM Unit := call .defaultkeyPrecreateDmDevice ()

def getBoolProperty (o : BootOracle) (key : String) : BootM Bool :=
  call (.getBoolProperty key) (o.property key)

/-- `vm->addDiskSource(...)`. -/
def addDiskSource (source : DiskSource) : BootM Unit := fun b =>
  .next () { b.record (.addDiskSource source) with diskSources := b.diskSources ++ [source] }

def setFstabDefault (fstab : List FstabEntry) : BootM Unit := fun b =>
  .next () { b with fstabDefault := fstab }

/-- The `logical` step of the loop: point the entry at its device-mapper device, writing it
through `auto& entry` to `fstab_default`, where the entries `done` come before it and `rest`
after it; `PLOG(FATAL)` when `fs_mgr` finds none and the entry is not `no_fail`. -/
def updateEntry (o : BootOracle) (done rest : List FstabEntry) (entry : FstabEntry) :
    BootM FstabEntry :=
  if entry.fsMgrFlags.logical then do
    match ← fsMgrUpdateLogicalPartition o entry with
    | some updated => do
        setFstabDefault (done ++ updated :: rest)
        pure updated
    | none => do
        check entry.fsMgrFlags.noFail
        pure entry
  else pure entry

/-- The rest of the loop body: pre-create the userdata dm device, and register a vold-managed
entry as a disk source unless it is `nonremovable`. The empty `is_encryptable()` branch has no
effect. -/
def registerEntry (o : BootOracle) (entry : FstabEntry) : BootM Unit := do
  if entry.mountPoint = "/data" ∧ entry.metadataKeyDir ≠ "" then
    defaultkeyPrecreateDmDevice
  if entry.fsMgrFlags.voldManaged then
    if !entry.fsMgrFlags.nonremovable then
      let primary ← if entry.fsMgrFlags.noEmulatedSd then pure true
        else getBoolProperty o "vold.debug.default_primary"
      let flags := if primary then 0 ||| kDefaultPrimary else 0
      addDiskSource ⟨entry.blkDevice, entry.label, flags⟩

/-- One pass of the loop over `fstab_default`, on `entry` between `done` and `rest`. -/
def configEntry (o : BootOracle) (done rest : List FstabEntry) (entry : FstabEntry)
    (configs : VoldConfigs) : BootM (FstabEntry × VoldConfigs) := do
  let configs := if entry.fsMgrFlags.quota then { configs with hasQuota := true } else configs
  let configs := if entry.reservedSize > 0 then { configs with hasReserved := true } else configs
  let configs :=
    if entry.fsMgrFlags.fsCompress then { configs with hasCompress := true } else configs
  let entry ← updateEntry o done rest entry
  registerEntry o entry
  pure (entry, configs)

/-- `for (auto& entry : fstab_default)`, with the entries `done` already passed. -/
def configLoop (o : BootOracle) (done : List FstabEntry) :
    List FstabEntry → VoldConfigs → BootM VoldConfigs
  | [], configs => pure configs
  | entry :: rest, configs => do
      let (entry, configs) ← configEntry o done rest entry configs
      configLoop o (done ++ [entry]) rest configs

/-- `process_config(vm, &configs)`: its status and what it leaves in `configs`. -/
def processConfig (o : BootOracle) (configs : VoldConfigs) : BootM (Int × VoldConfigs) := do
  match ← readDefaultFstab o with
  | none => pure (-1, configs)
  | some fstab =>
      setFstabDefault fstab
      let configs := { configs with
        hasAdoptable := false, hasQuota := false, hasReserved := false, hasCompress := false }
      let configs ← configLoop o [] fstab configs
      pure (0, configs)

/-! ## The fstab read declaratively -/

namespace FstabEntry

/-- The entry as the loop leaves it: a logical partition that `fs_mgr` finds gets its device. -/
def updated (o : BootOracle) (e : FstabEntry) : FstabEntry :=
  if e.fsMgrFlags.logical then
    match o.logicalPartition e.blkDevice with
    | some p => { e with blkDevice := p }
    | none => e
  else e

/-- The loop aborts at `e`: a logical partition `fs_mgr` does not find, not marked `no_fail`. -/
def Fatal (o : BootOracle) (e : FstabEntry) : Prop :=
  e.fsMgrFlags.logical = true ∧ o.logicalPartition e.blkDevice = none ∧
    e.fsMgrFlags.noFail = false

instance (o : BootOracle) (e : FstabEntry) : Decidable (e.Fatal o) :=
  inferInstanceAs (Decidable (_ ∧ _ ∧ _))

/-- The disk source registered for a vold-managed removable entry: the default primary when
the entry says `no_emulated_sd` or `vold.debug.default_primary` is set. -/
def diskSource? (o : BootOracle) (e : FstabEntry) : Option DiskSource :=
  if e.fsMgrFlags.voldManaged = true ∧ e.fsMgrFlags.nonremovable = false then
    some ⟨e.blkDevice, e.label,
      if e.fsMgrFlags.noEmulatedSd || o.property "vold.debug.default_primary" then
        kDefaultPrimary else 0⟩
  else none

/-- The calls `registerEntry` makes. -/
def registerCalls (o : BootOracle) (e : FstabEntry) : List BootCall :=
  (if e.mountPoint = "/data" ∧ e.metadataKeyDir ≠ "" then [.defaultkeyPrecreateDmDevice]
    else []) ++
  (if e.fsMgrFlags.voldManaged = true ∧ e.fsMgrFlags.nonremovable = false ∧
      e.fsMgrFlags.noEmulatedSd = false then
    [.getBoolProperty "vold.debug.default_primary"] else []) ++
  (e.diskSource? o).toList.map .addDiskSource

/-- The calls the loop makes for an entry that is not fatal. -/
def calls (o : BootOracle) (e : FstabEntry) : List BootCall :=
  (if e.fsMgrFlags.logical then [.fsMgrUpdateLogicalPartition e.blkDevice] else []) ++
    (e.updated o).registerCalls o

end FstabEntry

/-- `c` with what any of `fstab` asks for noted: quota, reserved space and compression. -/
def VoldConfigs.note (c : VoldConfigs) (fstab : List FstabEntry) : VoldConfigs :=
  { c with
    hasQuota := c.hasQuota || fstab.any (·.fsMgrFlags.quota)
    hasReserved := c.hasReserved || fstab.any (·.reservedSize > 0)
    hasCompress := c.hasCompress || fstab.any (·.fsMgrFlags.fsCompress) }

/-- What `process_config` leaves in `configs` after reading `fstab`. -/
def fstabConfigs (fstab : List FstabEntry) : VoldConfigs where
  hasAdoptable := false
  hasQuota := fstab.any (·.fsMgrFlags.quota)
  hasReserved := fstab.any (·.reservedSize > 0)
  hasCompress := fstab.any (·.fsMgrFlags.fsCompress)

/-! ## The loop against the declarative reading -/

namespace FstabEntry

@[simp] theorem updated_mountPoint (o : BootOracle) (e : FstabEntry) :
    (e.updated o).mountPoint = e.mountPoint := by
  unfold updated; split <;> [split <;> rfl; rfl]

@[simp] theorem updated_metadataKeyDir (o : BootOracle) (e : FstabEntry) :
    (e.updated o).metadataKeyDir = e.metadataKeyDir := by
  unfold updated; split <;> [split <;> rfl; rfl]

@[simp] theorem updated_fsMgrFlags (o : BootOracle) (e : FstabEntry) :
    (e.updated o).fsMgrFlags = e.fsMgrFlags := by
  unfold updated; split <;> [split <;> rfl; rfl]

@[simp] theorem updated_label (o : BootOracle) (e : FstabEntry) :
    (e.updated o).label = e.label := by
  unfold updated; split <;> [split <;> rfl; rfl]

end FstabEntry

/-- The `logical` step: it aborts exactly at a fatal entry, and otherwise leaves the entry
updated in `fstab_default`, having called `fs_mgr` for a logical partition. -/
theorem updateEntry_spec (o : BootOracle) {done rest : List FstabEntry} {e : FstabEntry}
    {b : Boot} (hfs : b.fstabDefault = done ++ e :: rest) :
    updateEntry o done rest e b =
      if e.Fatal o then .abort (b.record (.fsMgrUpdateLogicalPartition e.blkDevice))
      else .next (e.updated o) { b with
        fstabDefault := done ++ e.updated o :: rest
        log := b.log ++ if e.fsMgrFlags.logical then
          [.fsMgrUpdateLogicalPartition e.blkDevice] else [] } := by
  unfold updateEntry FstabEntry.updated FstabEntry.Fatal
  by_cases hl : e.fsMgrFlags.logical = true
  · simp only [hl, if_true, fsMgrUpdateLogicalPartition, bind_apply, call_apply, true_and]
    cases hp : o.logicalPartition e.blkDevice <;> by_cases hn : e.fsMgrFlags.noFail = true <;>
      simp [hp, hn, setFstabDefault, hfs, Boot.record]
  · simp [hl, ← hfs]

/-- The rest of the body registers the entry's disk source, if any, and makes its calls. -/
theorem registerEntry_spec (o : BootOracle) (e : FstabEntry) (b : Boot) :
    registerEntry o e b = .next () { b with
      diskSources := b.diskSources ++ (e.diskSource? o).toList
      log := b.log ++ e.registerCalls o } := by
  unfold registerEntry FstabEntry.registerCalls FstabEntry.diskSource?
  by_cases hd : e.mountPoint = "/data" ∧ e.metadataKeyDir ≠ "" <;>
  cases hv : e.fsMgrFlags.voldManaged <;> cases hn : e.fsMgrFlags.nonremovable <;>
    cases he : e.fsMgrFlags.noEmulatedSd <;>
  simp [hd, hv, hn, he, defaultkeyPrecreateDmDevice, getBoolProperty, addDiskSource, Boot.record]

/-- The three `if`s at the top of the loop body note the entry into the configs. -/
theorem note_singleton (c : VoldConfigs) (e : FstabEntry) :
    (let c := if e.fsMgrFlags.quota then { c with hasQuota := true } else c
     let c := if e.reservedSize > 0 then { c with hasReserved := true } else c
     if e.fsMgrFlags.fsCompress then { c with hasCompress := true } else c) = c.note [e] := by
  by_cases hq : e.fsMgrFlags.quota = true <;> by_cases hr : e.reservedSize > 0 <;>
    by_cases hc : e.fsMgrFlags.fsCompress = true <;> simp [VoldConfigs.note, hq, hr, hc]

/-- Noting two parts of the fstab in turn is noting them together. -/
theorem note_append (c : VoldConfigs) (l l' : List FstabEntry) :
    (c.note l).note l' = c.note (l ++ l') := by
  simp [VoldConfigs.note, Bool.or_assoc]

/-- One pass of the loop: abort at a fatal entry, and otherwise the entry updated, noted and
registered. -/
theorem configEntry_spec (o : BootOracle) {done rest : List FstabEntry} {e : FstabEntry}
    (configs : VoldConfigs) {b : Boot} (hfs : b.fstabDefault = done ++ e :: rest) :
    configEntry o done rest e configs b =
      if e.Fatal o then .abort (b.record (.fsMgrUpdateLogicalPartition e.blkDevice))
      else .next (e.updated o, configs.note [e]) { b with
        fstabDefault := done ++ e.updated o :: rest
        diskSources := b.diskSources ++ ((e.updated o).diskSource? o).toList
        log := b.log ++ e.calls o } := by
  simp only [configEntry, bind_apply, updateEntry_spec o hfs, note_singleton]
  by_cases hf : e.Fatal o
  · simp only [if_pos hf]
  · simp [hf, registerEntry_spec, FstabEntry.calls]

/-- The loop over entries none of which is fatal: every entry updated in `fstab_default`, one
disk source per vold-managed removable entry, and the entries' calls, all in order. -/
theorem configLoop_ok (o : BootOracle) :
    ∀ (todo done : List FstabEntry) (configs : VoldConfigs) (b : Boot),
      b.fstabDefault = done ++ todo → (∀ e ∈ todo, ¬e.Fatal o) →
      configLoop o done todo configs b = .next (configs.note todo) { b with
        fstabDefault := done ++ todo.map fun e => e.updated o
        diskSources := b.diskSources ++ todo.filterMap fun e => (e.updated o).diskSource? o
        log := b.log ++ todo.flatMap fun e => e.calls o }
  | [], done, configs, b, hfs, _ => by simp [configLoop, ← hfs, VoldConfigs.note]
  | e :: rest, done, configs, b, hfs, hok => by
      rw [configLoop, bind_apply, configEntry_spec o configs hfs,
        if_neg (hok e (List.mem_cons_self e rest))]
      simp only
      rw [configLoop_ok o rest (done ++ [e.updated o]) _ _ (by simp)
        fun e' he' => hok e' (List.mem_cons_of_mem e he')]
      cases h : (e.updated o).diskSource? o <;>
        simp [note_append, List.filterMap_cons, h]

/-- The loop reaching a fatal entry `e` after entries `pre` that are not: it aborts there,
having registered the disk sources of `pre` only. -/
theorem configLoop_fatal (o : BootOracle) {e : FstabEntry} (he : e.Fatal o)
    (post : List FstabEntry) :
    ∀ (pre done : List FstabEntry) (configs : VoldConfigs) (b : Boot),
      b.fstabDefault = done ++ pre ++ e :: post → (∀ e' ∈ pre, ¬e'.Fatal o) →
      configLoop o done (pre ++ e :: post) configs b = .abort { b with
        fstabDefault := done ++ pre.map (fun e => e.updated o) ++ e :: post
        diskSources := b.diskSources ++ pre.filterMap fun e => (e.updated o).diskSource? o
        log := b.log ++ pre.flatMap (fun e => e.calls o) ++
          [.fsMgrUpdateLogicalPartition e.blkDevice] }
  | [], done, configs, b, hfs, _ => by
      rw [List.append_nil] at hfs
      rw [List.nil_append, configLoop, bind_apply, configEntry_spec o configs hfs, if_pos he]
      simp [Boot.record, ← hfs]
  | e' :: pre, done, configs, b, hfs, hok => by
      rw [List.cons_append, configLoop, bind_apply,
        configEntry_spec o configs (by simpa using hfs),
        if_neg (hok e' (List.mem_cons_self e' pre))]
      simp only
      rw [configLoop_fatal o he post pre (done ++ [e'.updated o]) _ _ (by simp)
        fun e'' he'' => hok e'' (List.mem_cons_of_mem e' he'')]
      cases h : (e'.updated o).diskSource? o <;>
        simp [List.filterMap_cons, h]

/-- An unreadable fstab: `process_config` returns `-1` and leaves `configs` as they were. -/
theorem processConfig_unreadable (o : BootOracle) (configs : VoldConfigs) (b : Boot)
    (h : o.fstab = none) :
    processConfig o configs b = .next (-1, configs) (b.record .readDefaultFstab) := by
  simp [processConfig, readDefaultFstab, h]

/-- A readable fstab goes to `fstab_default`, and the loop runs over it from cleared configs. -/
theorem processConfig_read (o : BootOracle) (configs : VoldConfigs) (b : Boot)
    {fstab : List FstabEntry} (h : o.fstab = some fstab) :
    processConfig o configs b = (configLoop o [] fstab ⟨false, false, false, false⟩ >>=
      fun c => pure (0, c)) { b.record .readDefaultFstab with fstabDefault := fstab } := by
  simp only [processConfig, readDefaultFstab, setFstabDefault, bind_apply, call_apply, h]

/-- The flags of an fstab entry that sets none of them. -/
def FsMgrFlags.none : FsMgrFlags := ⟨false, false, false, false, false, false, false⟩

/-- `/data` with quota, reserved space and metadata encryption. -/
def userdataEntry : FstabEntry :=
  ⟨"/dev/block/by-name/userdata", "/data", "", "/metadata/vold/metadata_encryption", 134217728,
    { FsMgrFlags.none with quota := true }⟩

/-- A logical partition that device-mapper knows. -/
def systemEntry : FstabEntry :=
  ⟨"system", "/system", "", "", 0, { FsMgrFlags.none with logical := true }⟩

/-- A vold-managed SD card slot. -/
def sdcardEntry : FstabEntry :=
  ⟨"/devices/platform/soc/8804000.sdhci/mmc_host*", "auto", "sdcard1", "", 0,
    { FsMgrFlags.none with voldManaged := true }⟩

/-- A start-up where every call succeeds. `vold` is given its four contexts, device-mapper
knows `system` only, and `/sys/block` holds a link to one disk with a `uevent` file. -/
def sampleBoot : BootOracle where
  getopt := [('b', "u:r:blkid:s0"), ('B', "u:r:blkid_untrusted:s0"), ('f', "u:r:fsck:s0"),
    ('F', "u:r:fsck_untrusted:s0")]
  sehandle := true
  volumeManager := true
  netlinkManager := true
  property _ := false
  volumeManagerStart := 0
  fstab := some [userdataEntry, systemEntry, sdcardEntry]
  logicalPartition p := if p = "system" then some "/dev/block/dm-0" else none
  voldNativeServiceStart := 0
  netlinkManagerStart := 0
  sysfs := ⟨fun d => if d = 0 then [⟨"mmcblk1", .lnk, some 1⟩] else [], fun d => d = 1,
    fun _ => some 0⟩
  joinThreadPoolReturns := false

/-- A readable fstab none of whose entries is fatal: `process_config` returns `0` with the
configs saying whether any entry asks for quota, reserved space and compression, and never
adoptable storage. `fstab_default` holds the entries updated, and one disk source is registered
per vold-managed removable entry, in fstab order. -/
theorem processConfig_ok (o : BootOracle) (configs : VoldConfigs) (b : Boot)
    {fstab : List FstabEntry} (h : o.fstab = some fstab) (hok : ∀ e ∈ fstab, ¬e.Fatal o) :
    processConfig o configs b = .next (0, fstabConfigs fstab) { b with
      fstabDefault := fstab.map fun e => e.updated o
      diskSources := b.diskSources ++ fstab.filterMap fun e => (e.updated o).diskSource? o
      log := b.log ++ .readDefaultFstab :: fstab.flatMap fun e => e.calls o } := by
  rw [processConfig_read o configs b h, bind_of_next (configLoop_ok o fstab [] _ _ rfl hok)]
  simp [VoldConfigs.note, fstabConfigs, Boot.record]

theorem processConfig_ok_sample :
    sampleBoot.fstab = some [userdataEntry, systemEntry, sdcardEntry] ∧
      (∀ e ∈ [userdataEntry, systemEntry, sdcardEntry], ¬e.Fatal sampleBoot) ∧
      processConfig sampleBoot .empty Boot.initial =
        .next (0, fstabConfigs [userdataEntry, systemEntry, sdcardEntry]) { Boot.initial with
          fstabDefault := [userdataEntry, systemEntry, sdcardEntry].map fun e => e.updated sampleBoot
          diskSources := Boot.initial.diskSources ++ [userdataEntry, systemEntry, sdcardEntry].filterMap
            fun e => (e.updated sampleBoot).diskSource? sampleBoot
          log := Boot.initial.log ++ .readDefaultFstab ::
            [userdataEntry, systemEntry, sdcardEntry].flatMap fun e => e.calls sampleBoot } :=
  ⟨rfl, by decide, processConfig_ok _ _ _ rfl (by decide)⟩

example : ([userdataEntry, systemEntry, sdcardEntry].filterMap
    fun e => (e.updated sampleBoot).diskSource? sampleBoot) =
      [⟨"/devices/platform/soc/8804000.sdhci/mmc_host*", "sdcard1", 0⟩] := by decide

/-- A readable fstab whose first fatal entry is `e`: `process_config` aborts there, having
registered the disk sources of the entries before it only. -/
theorem processConfig_fatal (o : BootOracle) (configs : VoldConfigs) (b : Boot)
    {pre post : List FstabEntry} {e : FstabEntry} (h : o.fstab = some (pre ++ e :: post))
    (hpre : ∀ e' ∈ pre, ¬e'.Fatal o) (he : e.Fatal o) :
    processConfig o configs b = .abort { b with
      fstabDefault := pre.map (fun e => e.updated o) ++ e :: post
      diskSources := b.diskSources ++ pre.filterMap fun e => (e.updated o).diskSource? o
      log := b.log ++ .readDefaultFstab :: pre.flatMap (fun e => e.calls o) ++
        [.fsMgrUpdateLogicalPartition e.blkDevice] } := by
  rw [processConfig_read o configs b h,
    bind_of_abort (configLoop_fatal o he post pre [] _ _ (by simp) hpre)]
  simp [Boot.record]

/-- A logical partition that device-mapper does not know, not marked `no_fail`. -/
def vendorEntry : FstabEntry :=
  ⟨"vendor", "/vendor", "", "", 0, { FsMgrFlags.none with logical := true }⟩

/-- `sampleBoot` with `vendor` in its fstab between `/data` and the SD card slot. -/
def vendorBoot : BootOracle :=
  { sampleBoot with fstab := some [userdataEntry, vendorEntry, sdcardEntry] }

theorem processConfig_fatal_vendor :
    vendorBoot.fstab = some ([userdataEntry] ++ vendorEntry :: [sdcardEntry]) ∧
      (∀ e' ∈ [userdataEntry], ¬e'.Fatal vendorBoot) ∧ vendorEntry.Fatal vendorBoot ∧
      processConfig vendorBoot .empty Boot.initial = .abort { Boot.initial with
        fstabDefault := [userdataEntry].map (fun e => e.updated vendorBoot) ++
          vendorEntry :: [sdcardEntry]
        diskSources := Boot.initial.diskSources ++
          [userdataEntry].filterMap fun e => (e.updated vendorBoot).diskSource? vendorBoot
        log := Boot.initial.log ++ .readDefaultFstab ::
          [userdataEntry].flatMap (fun e => e.calls vendorBoot) ++
            [.fsMgrUpdateLogicalPartition vendorEntry.blkDevice] } :=
  ⟨rfl, by decide, by decide, processConfig_fatal _ _ _ rfl (by decide) (by decide)⟩

/-- A fstab that is not all right has a first fatal entry. -/
theorem exists_first_fatal (o : BootOracle) : ∀ {l : List FstabEntry}, (∃ e ∈ l, e.Fatal o) →
    ∃ pre e post, l = pre ++ e :: post ∧ (∀ e' ∈ pre, ¬e'.Fatal o) ∧ e.Fatal o
  | [], ⟨_, h, _⟩ => absurd h (List.not_mem_nil _)
  | e :: l, h => by
      by_cases he : e.Fatal o
      · exact ⟨[], e, l, rfl, by simp, he⟩
      · obtain ⟨pre, e', post, rfl, hpre, he'⟩ := exists_first_fatal o (by simpa [he] using h)
        exact ⟨e :: pre, e', post, rfl, List.forall_mem_cons.mpr ⟨he, hpre⟩, he'⟩

end Vold
