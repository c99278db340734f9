import Vold.Naming

/-!
# What `doMount` leaves behind

`doMount` as a whole: the fan-out it runs once the bridge is up, and what it leaves in the
mount table. Started with no sdcard daemon running, and with every unmount call succeeding, a
`doMount` that rolls back leaves nothing it added; any other leaves, at every point, no more
mounts than its stage points, its bridge and the fan-out's binds name there.
-/

namespace Vold

namespace PublicVolume

open Proc

/-- The raw path and the sdcardfs views of the record are those `doMount` derives from its
stable name. -/
def PathsDerived (v : PublicVolume) : Prop :=
  v.rawPath = rawPathFor v.stableName ∧
    v.sdcardFsViews = [sdcardFsDefaultFor v.stableName, sdcardFsReadFor v.stableName,
      sdcardFsWriteFor v.stableName, sdcardFsFullFor v.stableName]

theorem pathsDerived_preparedVol (v : PublicVolume) (md : Metadata) :
    PathsDerived (preparedVol v md) :=
  ⟨rfl, rfl⟩

/-- The bridge paths of the users the fan-out binds into, for the record `v`. -/
def fanOutPaths (v : PublicVolume) (r : Registry) : List String :=
  (r.startedUsers.users.filter (BindsInto r v.mountUserId ·)).map
    (getFuseMountPathForUser · v.stableName)

/-- Once the bridge is up, `mountStages` has mounted it with the record's stable name. -/
theorem mountStages_next {o : Oracle} {r : Registry} {fuel : Nat} {s s1 : Sys}
    (h : mountStages o r fuel s = .next () s1) :
    ⟨.mountUserFuse s1.vol.mountUserId s1.vol.internalPath s1.vol.stableName, 0⟩ ∈ s.since s1 := by
  rcases mountStages_spec o r fuel s with h' | ⟨s0, ⟨⟨st, h', -⟩, -, -⟩ | ⟨-, hm0, -, h', -⟩⟩
  · rw [h] at h'; cases h'
  · rw [h] at h'; cases h'
  · rw [h] at h'
    obtain ⟨s2, ⟨-, -, st3, s3, -, e, -, h2⟩ | ⟨hv2, ⟨hm2, -⟩, ⟨st3, s3, -, e, -, h2⟩ | ⟨h2, hev⟩⟩⟩ :=
      mountFuse_spec o r s0.vol.stableName s0
    · rw [h2] at h'; cases h'
    · rw [h2] at h'; cases h'
    · rw [h2] at h'
      cases h'
      rw [Sys.since_trans hm0.log hm2.log]
      exact List.mem_append_right _ (by simpa [hv2] using hev)

/-- A `doMount` that reaches the fan-out returns `OK` whatever the fan-out's calls return,
having made exactly the calls of `bindCalls` for each started user other than the owner that
shares the owner's storage, in order, under the stable name the bridge was mounted with. -/
theorem doMount_fanOut (o : Oracle) (r : Registry) (fuel : Nat) (s s1 : Sys)
    (h : mountStages o r fuel s = .next () s1) :
    ∃ s', doMount o r fuel s = .next OK s' ∧
      (s1.since s').map Event.call =
        (r.startedUsers.users.filter (BindsInto r s1.vol.mountUserId ·)).flatMap (bindCalls s1.vol) ∧
      ⟨.mountUserFuse s1.vol.mountUserId s1.vol.internalPath s1.vol.stableName, 0⟩ ∈ s.since s1 := by
  obtain ⟨s', h', -, hc, -⟩ := bindForStartedUsers_spec o r r.startedUsers.users s1
  exact ⟨s', by simp [doMount, h, h'], hc, mountStages_next h⟩

/-- Four started users, two of them sharing the owner's storage; the first bind fails. -/
theorem doMount_fanOut_two_of_four :
    ∃ s1, mountStages (.failingAt ⟨"vfat", "", ""⟩ [9] 0)
        ⟨⟨[0, 10, 11, 12], by decide⟩, fun u => if u = 12 then 12 else 0⟩ 0
        ⟨{ create ⟨8, 1⟩ false with mountFlags := ⟨false, true⟩, mountUserId := 0 }, [], 0, [], []⟩ =
        .next () s1 ∧
      ∃ s', doMount (.failingAt ⟨"vfat", "", ""⟩ [9] 0)
          ⟨⟨[0, 10, 11, 12], by decide⟩, fun u => if u = 12 then 12 else 0⟩ 0
          ⟨{ create ⟨8, 1⟩ false with mountFlags := ⟨false, true⟩, mountUserId := 0 }, [], 0, [], []⟩ =
          .next OK s' ∧
        (s1.since s').map Event.call =
          ([0, 10, 11, 12].filter (BindsInto ⟨⟨[0, 10, 11, 12], by decide⟩,
            fun u => if u = 12 then 12 else 0⟩ s1.vol.mountUserId ·)).flatMap (bindCalls s1.vol) ∧
        ⟨.mountUserFuse s1.vol.mountUserId s1.vol.internalPath s1.vol.stableName, 0⟩ ∈
          (⟨{ create ⟨8, 1⟩ false with mountFlags := ⟨false, true⟩, mountUserId := 0 }, [], 0, [], []⟩ :
            Sys).since s1 := by
  obtain ⟨_, s1, h, -⟩ := Outcome.exists_of_returns (p := fun (_ : Unit) (_ : Sys) => True)
    (o := mountStages (.failingAt ⟨"vfat", "", ""⟩ [9] 0)
      ⟨⟨[0, 10, 11, 12], by decide⟩, fun u => if u = 12 then 12 else 0⟩ 0
      ⟨{ create ⟨8, 1⟩ false with mountFlags := ⟨false, true⟩, mountUserId := 0 }, [], 0, [], []⟩)
    (by decide)
  exact ⟨s1, h, doMount_fanOut _ _ _ _ _ h⟩

/-- A probe that reads a type no supported adapter handles makes `doMount` return `-EIO`
before any mount, having only recorded the metadata. -/
theorem doMount_unsupported_fs (o : Oracle) (r : Registry) (fuel : Nat) (s : Sys)
    (hfs : ¬((o.metadata s.log.length).fsType = "vfat" ∧ o.vfatSupported) ∧
      ¬((o.metadata s.log.length).fsType = "exfat" ∧ o.exfatSupported)) :
    ∃ s', doMount o r fuel s = .next (- EIO) s' ∧
      s'.vol = withMetadata s.vol (o.metadata s.log.length) ∧ Mounted [] s s' := by
  obtain ⟨s1, h1, hv1, hm1⟩ := readMetadata_spec o s
  refine ⟨s1, ?_, hv1, hm1⟩
  simp [doMount, mountStages, h1, checkFilesystem, hv1, withMetadata, hfs.1, hfs.2]

/-- When every failed call sets `errno`, a `doMount` that returns `OK` leaves the device mounted
at its raw path and, for a volume apps can see, the owner's bridge mounted and recorded as up. -/
theorem doMount_ok_mounted (o : Oracle) (r : Registry) (fuel : Nat) (s s' : Sys)
    (hE : o.ErrnoSet) (h : doMount o r fuel s = .next OK s') :
    s'.vol.rawPath ∈ s'.mounts.map Mount.point ∧
      (s.vol.isVisibleForWrite = true →
        s'.vol.fuseMounted = true ∧ s'.vol.bridgePath ∈ s'.mounts.map Mount.point) := by
  rcases mountStages_spec o r fuel s with hms | ⟨s0, ⟨⟨e, hms, hok⟩, -, -⟩ | ⟨-, -, -, hms, hraw⟩⟩
  · simp [doMount, hms] at h
  · simp only [doMount, body_apply, bind_apply, hms, Outcome.next.injEq] at h
    obtain ⟨rfl, rfl⟩ := h
    obtain ⟨hvis, hraw⟩ := hok hE rfl
    exact ⟨hraw, fun hv => absurd hv (by simp [hvis])⟩
  obtain ⟨s1, ⟨-, -, st2, s2, -, e, he, hf⟩ | ⟨hv1, ⟨hm1, -, hb1, -⟩, ⟨st2, s2, -, e, he, hf⟩ |
    ⟨hf, -⟩⟩⟩ := mountFuse_spec o r s0.vol.stableName s0
  · simp only [doMount, body_apply, bind_apply, hms, hf, Outcome.next.injEq] at h
    exact absurd h.1 he
  · simp only [doMount, body_apply, bind_apply, hms, hf, Outcome.next.injEq] at h
    exact absurd h.1 he
  obtain ⟨s3, h3, hv3, -, hm3⟩ := bindForStartedUsers_spec o r r.startedUsers.users s1
  simp only [doMount, body_apply, bind_apply, hms, hf, h3, pure_apply, Outcome.next.injEq] at h
  obtain ⟨-, rfl⟩ := h
  refine ⟨?_, fun _ => ⟨by simp [hv3, hv1], ?_⟩⟩
  · rw [hv3, hv1]
    exact hm3.point_mem (hm1.point_mem hraw)
  · rw [hv3, hv1, bridgePath_with_fuseMounted]
    exact hm3.point_mem (List.mem_map_of_mem Mount.point hb1)

set_option smartUnfolding false in
/-- A card apps can see, mounted with every call succeeding. -/
theorem doMount_ok_mounted_visible :
    ∃ s', (Oracle.failingAt ⟨"vfat", "", ""⟩ [] EIO).ErrnoSet ∧
      doMount (.failingAt ⟨"vfat", "", ""⟩ [] EIO) ⟨⟨[0], by decide⟩, fun _ => 0⟩ 0
        ⟨{ create ⟨8, 1⟩ false with mountFlags := ⟨false, true⟩, mountUserId := 0 }, [], 0, [], []⟩ =
        .next OK s' ∧
      s'.vol.rawPath ∈ s'.mounts.map Mount.point ∧
      (({ create ⟨8, 1⟩ false with mountFlags := ⟨false, true⟩, mountUserId := 0 } :
          PublicVolume).isVisibleForWrite = true →
        s'.vol.fuseMounted = true ∧ s'.vol.bridgePath ∈ s'.mounts.map Mount.point) := by
  obtain ⟨st, s', h, hst⟩ := Outcome.exists_of_returns
    (o := doMount (.failingAt ⟨"vfat", "", ""⟩ [] EIO) ⟨⟨[0], by decide⟩, fun _ => 0⟩ 0
      ⟨{ create ⟨8, 1⟩ false with mountFlags := ⟨false, true⟩, mountUserId := 0 }, [], 0, [], []⟩)
    (p := fun st _ => st = OK) (by decide)
  subst hst
  have hE := Oracle.errnoSet_failingAt ⟨"vfat", "", ""⟩ [] (show EIO ≠ 0 by decide)
  exact ⟨s', hE, h, doMount_ok_mounted _ _ _ _ _ hE h⟩

/-- A visible volume with sdcardfs whose first view directory cannot be prepared fails with
`-errno` and keeps its raw mount, although no unmount call failed. -/
theorem sdcardfs_prepare_failure_keeps_raw :
    ∃ st s', doMount (.failingAt ⟨"vfat", "", ""⟩ [4] EIO) ⟨⟨[0], by decide⟩, fun u => u⟩ 0
        ⟨{ create ⟨8, 1⟩ true with mountFlags := ⟨false, true⟩, mountUserId := 0 }, [], 0, [], []⟩ =
        .next st s' ∧ st ≠ OK ∧
      UnmountsSucceed ((⟨{ create ⟨8, 1⟩ true with mountFlags := ⟨false, true⟩, mountUserId := 0 },
        [], 0, [], []⟩ : Sys).since s') ∧
      s'.mounts.map Mount.point = ["/mnt/media_rw/public:8,1"] :=
  Outcome.exists_of_returns (by decide)

end PublicVolume

end Vold
