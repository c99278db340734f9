import Vold.Mount

/-!
# `doFormat`

`doFormat` resolves the request in two passes, an `auto` pass that may query the device
size and an explicit pass that overrides it, wipes the device, and runs the picked
adapter's `Format`.
-/

namespace Vold

namespace PublicVolume

open Proc

/-- `enum { NONE, VFAT, EXFAT } fsPick`. -/
inductive FsPick where
  | none
  | vfat
  | exfat
  deriving DecidableEq, Repr

/-- `32896LL * 1024 * 1024` bytes: past this size an `auto` request picks exFAT when both
adapters are supported. -/
def exfatThreshold : Nat := 32896 * 1024 * 1024

/-- Lines 690-710: resolve an `auto` request; only with both adapters supported is the
device size queried, and a failed query returns its status. -/
def resolveAuto (o : Oracle) (fsType : String) : Proc FsPick := do
  if fsType = "auto" ∧ o.vfatSupported ∧ o.exfatSupported then
    let (res, size) ← getBlockDevSize o (← getVol).devPath
    if res ≠ OK then exit res
    pure (if size.toNat > exfatThreshold then .exfat else .vfat)
  else if fsType = "auto" ∧ o.exfatSupported then pure .exfat
  else if fsType = "auto" ∧ o.vfatSupported then pure .vfat
  else pure .none

/-- Lines 712-717: an explicit request for a supported adapter overrides the `auto` pass. -/
def resolveExplicit (fsType : String) (isVfatSup isExfatSup : Bool) (fsPick : FsPick) : FsPick :=
  if fsType = "vfat" ∧ isVfatSup then .vfat
  else if fsType = "exfat" ∧ isExfatSup then .exfat
  else fsPick

/-- Lines 719-737: wipe the device, then format it with the picked adapter. -/
def formatWith (o : Oracle) (fsPick : FsPick) : Proc Status := do
  let _ ← wipeBlockDevice o (← getVol).devPath
  let res ← match fsPick with
    | .vfat => format o .vfat (← getVol).devPath
    | .exfat => format o .exfat (← getVol).devPath
    | .none => exit (-EINVAL)
  if res ≠ OK then
    let e ← getErrno
    exit (-e)
  pure res

/-- `PublicVolume::doFormat`. -/
def doFormat (o : Oracle) (fsType : String) : Proc Status := body do
  formatWith o (resolveExplicit fsType o.vfatSupported o.exfatSupported (← resolveAuto o fsType))

/-- The adapter a pick formats with. -/
def FsPick.fs? : FsPick → Option Fs
  | .none => Option.none
  | .vfat => some .vfat
  | .exfat => some .exfat

/-- The `auto` pass once the size is known. -/
def autoPick (o : Oracle) (fsType : String) (size : UInt64) : FsPick :=
  if fsType = "auto" ∧ o.vfatSupported ∧ o.exfatSupported then
    if size.toNat > exfatThreshold then .exfat else .vfat
  else if fsType = "auto" ∧ o.exfatSupported then .exfat
  else if fsType = "auto" ∧ o.vfatSupported then .vfat
  else .none

/-- Whether `doFormat` queries the device size. -/
def QueriesSize (o : Oracle) (fsType : String) : Prop :=
  fsType = "auto" ∧ o.vfatSupported ∧ o.exfatSupported

instance (o : Oracle) (fsType : String) : Decidable (QueriesSize o fsType) :=
  inferInstanceAs (Decidable (_ ∧ _))

theorem resolveAuto_apply (o : Oracle) (fsType : String) (s : Sys) :
    resolveAuto o fsType s =
      if QueriesSize o fsType then
        if o.status s.log.length ≠ OK then
          .exit (o.status s.log.length)
            (s.record o (.getBlockDevSize s.vol.devPath) (o.status s.log.length))
        else .next (autoPick o fsType (o.size s.log.length))
            (s.record o (.getBlockDevSize s.vol.devPath) (o.status s.log.length))
      else .next (autoPick o fsType 0) s := by
  unfold resolveAuto autoPick QueriesSize
  split_ifs <;> simp_all [getBlockDevSize]

theorem formatWith_apply (o : Oracle) (p : FsPick) (s : Sys) :
    formatWith o p s =
      let s1 := s.record o (.wipeBlockDevice s.vol.devPath) (o.status s.log.length)
      match p.fs? with
      | none => .exit (-EINVAL) s1
      | some fs =>
          let s2 := s1.record o (.format fs s.vol.devPath) (o.status s1.log.length)
          if o.status s1.log.length ≠ OK then .exit (-s2.errno) s2
          else .next (o.status s1.log.length) s2 := by
  cases p <;> simp [formatWith, FsPick.fs?, wipeBlockDevice, format, invoke_apply] <;> split_ifs <;> simp_all

/-- `doFormat` formats with vfat: an explicit request with vfat supported, or `auto` with vfat
supported and either exFAT unsupported or the device no larger than the threshold. -/
def PicksVfat (o : Oracle) (fsType : String) (size : UInt64) : Prop :=
  (fsType = "vfat" ∧ o.vfatSupported) ∨
    (fsType = "auto" ∧ o.vfatSupported ∧ (¬o.exfatSupported ∨ size.toNat ≤ exfatThreshold))

/-- `doFormat` formats with exFAT: an explicit request with exFAT supported, or `auto` with
exFAT supported and either vfat unsupported or the device larger than the threshold. -/
def PicksExfat (o : Oracle) (fsType : String) (size : UInt64) : Prop :=
  (fsType = "exfat" ∧ o.exfatSupported) ∨
    (fsType = "auto" ∧ o.exfatSupported ∧ (¬o.vfatSupported ∨ size.toNat > exfatThreshold))

instance (o : Oracle) (fsType : String) (size : UInt64) : Decidable (PicksVfat o fsType size) :=
  inferInstanceAs (Decidable (_ ∨ _))

instance (o : Oracle) (fsType : String) (size : UInt64) : Decidable (PicksExfat o fsType size) :=
  inferInstanceAs (Decidable (_ ∨ _))

/-- The two passes together pick vfat, exFAT or nothing exactly as `PicksVfat` and
`PicksExfat` say. -/
theorem resolve_fs (o : Oracle) (fsType : String) (size : UInt64) :
    (resolveExplicit fsType o.vfatSupported o.exfatSupported (autoPick o fsType size)).fs? =
      if PicksVfat o fsType size then some .vfat
      else if PicksExfat o fsType size then some .exfat else none := by
  unfold resolveExplicit autoPick PicksVfat PicksExfat
  by_cases ha : fsType = "auto"
  · subst ha
    by_cases hs : exfatThreshold < size.toNat <;>
      rcases o with ⟨_ | _, _ | _⟩ <;> simp [FsPick.fs?, hs, ← Nat.not_lt]
  · simp only [ha, false_and, if_false, or_false]
    split_ifs <;> simp_all [FsPick.fs?]

theorem picks_exclusive {o : Oracle} {fsType : String} {size : UInt64}
    (h : PicksVfat o fsType size) : ¬PicksExfat o fsType size := by
  unfold PicksVfat PicksExfat at *
  rcases h with ⟨rfl, _⟩ | ⟨rfl, hv, h⟩
  · simp
  · rcases h with h | h <;> simp_all

/-- The adapters the calls among `es` formatted with, in order. -/
def formatCalls (es : List Event) : List Fs :=
  es.filterMap fun e => match e.call with
    | .format fs _ => some fs
    | _ => none

@[simp] theorem formatCalls_append (es es' : List Event) :
    formatCalls (es ++ es') = formatCalls es ++ formatCalls es' :=
  List.filterMap_append _ _ _

theorem autoPick_size_irrelevant {o : Oracle} {fsType : String} (h : ¬QueriesSize o fsType)
    (size size' : UInt64) : autoPick o fsType size = autoPick o fsType size' := by
  unfold QueriesSize at h
  simp only [autoPick, if_neg h]

/-- The size query `doFormat` makes from `s`, when it makes one. -/
def sizeQuery (o : Oracle) (s : Sys) : Event :=
  ⟨.getBlockDevSize s.vol.devPath, o.status s.log.length⟩

/-- The `auto` pass either returns the failed size query's status, or picks with the size it
read, having logged the query exactly when it made one. -/
theorem resolveAuto_spec (o : Oracle) (fsType : String) (s : Sys) :
    (QueriesSize o fsType ∧ o.status s.log.length ≠ OK ∧
        resolveAuto o fsType s = .exit (o.status s.log.length)
          (s.record o (sizeQuery o s).call (sizeQuery o s).status)) ∨
      (¬(QueriesSize o fsType ∧ o.status s.log.length ≠ OK) ∧ ∃ s1,
        resolveAuto o fsType s = .next (autoPick o fsType (o.size s.log.length)) s1 ∧
        s1.vol = s.vol ∧ Mounted [] s s1 ∧
        s1.log = s.log ++ (if QueriesSize o fsType then [sizeQuery o s] else [])) := by
  rw [resolveAuto_apply]
  by_cases hq : QueriesSize o fsType
  · by_cases hst : o.status s.log.length = 0
    · exact .inr ⟨by simp [hst], s.record o (sizeQuery o s).call (sizeQuery o s).status,
        by simp [hq, hst, sizeQuery], rfl, Mounted.record .., by simp [hq, sizeQuery]⟩
    · exact .inl ⟨hq, hst, by simp [hq, hst, sizeQuery]⟩
  · exact .inr ⟨by simp [hq], s, by simpa [hq] using autoPick_size_irrelevant hq _ _, rfl,
      Mounted.refl s, by simp [hq]⟩

/-- The calls `formatWith` makes: the wipe, then the picked adapter's `Format` if there is one. -/
def formatEvents (o : Oracle) (p : FsPick) (s : Sys) : List Event :=
  ⟨.wipeBlockDevice s.vol.devPath, o.status s.log.length⟩ ::
    match p.fs? with
    | none => []
    | some fs => [⟨.format fs s.vol.devPath, o.status (s.log.length + 1)⟩]

theorem formatWith_spec (o : Oracle) (p : FsPick) (s : Sys) :
    ∃ st s', (formatWith o p s = .exit st s' ∨ formatWith o p s = .next st s') ∧
      s'.log = s.log ++ formatEvents o p s ∧ (p.fs? = none → st = -EINVAL) ∧
      s'.vol = s.vol ∧ Mounted [] s s' := by
  rw [formatWith_apply]
  cases hp : p.fs? with
  | none => exact ⟨_, _, .inl rfl, by simp [formatEvents, hp], fun _ => rfl, rfl, Mounted.record ..⟩
  | some fs =>
      dsimp only
      split_ifs
      · exact ⟨_, _, .inl rfl, by simp [formatEvents, hp], by simp, rfl,
          (Mounted.record ..).trans (Mounted.record ..)⟩
      · exact ⟨_, _, .inr rfl, by simp [formatEvents, hp], by simp, rfl,
          (Mounted.record ..).trans (Mounted.record ..)⟩

theorem formatCalls_formatEvents (o : Oracle) (p : FsPick) (s : Sys) :
    formatCalls (formatEvents o p s) = p.fs?.toList := by
  cases hp : p.fs? <;> simp [formatCalls, formatEvents, hp]

/-- `doFormat` queries the size only for `auto` with both adapters supported, formats with
vfat or exFAT exactly under `PicksVfat` or `PicksExfat` unless that query failed, never with
two adapters, and otherwise returns the failed query's status or `-EINVAL`. -/
theorem doFormat_selects (o : Oracle) (fsType : String) (s : Sys) :
    ∃ st s', doFormat o fsType s = .next st s' ∧
      ((∃ e ∈ s.since s', e.call = .getBlockDevSize s.vol.devPath) ↔ QueriesSize o fsType) ∧
      (.vfat ∈ formatCalls (s.since s') ↔
        ¬(QueriesSize o fsType ∧ o.status s.log.length ≠ OK) ∧
          PicksVfat o fsType (o.size s.log.length)) ∧
      (.exfat ∈ formatCalls (s.since s') ↔
        ¬(QueriesSize o fsType ∧ o.status s.log.length ≠ OK) ∧
          PicksExfat o fsType (o.size s.log.length)) ∧
      (formatCalls (s.since s')).length ≤ 1 ∧
      (formatCalls (s.since s') = [] →
        st = if QueriesSize o fsType ∧ o.status s.log.length ≠ OK then o.status s.log.length
          else -EINVAL) := by
  rcases resolveAuto_spec o fsType s with ⟨hq, hst, h⟩ | ⟨hnf, s1, h1, hv1, -, hl1⟩
  · refine ⟨o.status s.log.length, s.record o (sizeQuery o s).call (sizeQuery o s).status,
      by simp [doFormat, h], ?_⟩
    simp [Sys.since, formatCalls, sizeQuery, hq, show o.status s.log.length ≠ 0 from hst]
  · have hpick := resolve_fs o fsType (o.size s.log.length)
    obtain ⟨st, s', hout, hl', hnone, -⟩ := formatWith_spec o
      (resolveExplicit fsType o.vfatSupported o.exfatSupported (autoPick o fsType (o.size s.log.length))) s1
    have hdo : doFormat o fsType s = .next st s' := by
      rcases hout with hout | hout <;> simp [doFormat, h1, hout]
    refine ⟨st, s', hdo, ?_⟩
    rw [Sys.since_append _ (by rw [hl', hl1, List.append_assoc])]
    rw [hpick] at hnone
    simp only [formatCalls_append, formatCalls_formatEvents, hpick, hnf, formatEvents, hv1]
    clear hout h1 hl' hl1 hdo
    by_cases hq : QueriesSize o fsType <;> split_ifs with hv he <;>
      simp_all [formatCalls, sizeQuery, picks_exclusive]

/-- `doFormat` returns, writes no field of the volume record and mounts nothing: only the
running daemons add to the mount table while it appends its calls to the log. -/
theorem doFormat_frame (o : Oracle) (fsType : String) (s : Sys) :
    ∃ st s', doFormat o fsType s = .next st s' ∧ s'.vol = s.vol ∧ Mounted [] s s' := by
  rcases resolveAuto_spec o fsType s with ⟨-, -, h⟩ | ⟨-, s1, h1, hv1, hm1, -⟩
  · exact ⟨o.status s.log.length, s.record o (sizeQuery o s).call (sizeQuery o s).status,
      by simp [doFormat, h], rfl, Mounted.record ..⟩
  · obtain ⟨st, s', hout, -, -, hv', hm'⟩ := formatWith_spec o
      (resolveExplicit fsType o.vfatSupported o.exfatSupported (autoPick o fsType (o.size s.log.length))) s1
    exact ⟨st, s', by rcases hout with hout | hout <;> simp [doFormat, h1, hout], hv'.trans hv1,
      hm1.trans hm'⟩

/-- A request for a filesystem no adapter handles is refused with `-EINVAL`, after the device
was already wiped. -/
theorem ntfs_request_wipes_device :
    ∃ st s', doFormat (.failingAt ⟨"", "", ""⟩ [] 0) "ntfs" ⟨create ⟨8, 1⟩ false, [], 0, [], []⟩ =
        .next st s' ∧
      st = -EINVAL ∧ ⟨.wipeBlockDevice "/dev/block/vold/public:8,1", 0⟩ ∈ s'.log :=
  Outcome.exists_of_returns (by decide)

/-- A vfat `Format` that fails while `errno` holds `0` is reported as `OK`; so is a `doMount`
whose `fs_prepare_dir` of the raw mount point fails with `errno` at `0`. -/
theorem failed_format_reports_ok :
    (∃ st s', doFormat (.failingAt ⟨"", "", ""⟩ [1] 0) "vfat" ⟨create ⟨8, 1⟩ false, [], 0, [], []⟩ =
        .next st s' ∧
      st = OK ∧ ⟨.format .vfat "/dev/block/vold/public:8,1", -1⟩ ∈ s'.log) ∧
    ∃ st s', doMount (.failingAt ⟨"vfat", "", ""⟩ [2] 0) ⟨⟨[0], by decide⟩, fun u => u⟩ 0
        ⟨create ⟨8, 1⟩ false, [], 0, [], []⟩ = .next st s' ∧
      st = OK ∧ ⟨.fsPrepareDir "/mnt/media_rw/public:8,1", -1⟩ ∈ s'.log :=
  ⟨Outcome.exists_of_returns (by decide), Outcome.exists_of_returns (by decide)⟩

end PublicVolume

end Vold
