import Vold.Bridge

/-!
# The points a volume touches

The volume mounts at its raw path, its four sdcardfs views, the ASEC bind and the user paths of
its bridge. Once every probe reads a UUID that is empty or a single path component, each of
these is one level below a fixed parent or a user point. Then along every sequence of calls, in
any order and whatever the primitives return, the volume leaves every other point of the mount
table as it was. No calling discipline is needed here: a run that breaks the bridge record still
stays on the volume's points. The condition on the probes is needed: the UUID `..` puts the raw
mount on `/mnt`.
-/

namespace Vold

namespace PublicVolume

open Proc

/-- The directories the raw mounts, the sdcardfs views and the ASEC bind sit one level below. -/
def volumeParents : List String :=
  ["/mnt/media_rw", "/mnt/runtime/default", "/mnt/runtime/read", "/mnt/runtime/write",
    "/mnt/runtime/full", "/mnt/secure"]

/-- Whether `p` names a point the volume may mount at: one level below a volume parent, a user
point, or the empty path, at which no mount succeeds. -/
def IsVolumePoint (p : String) : Prop :=
  (Kernel.resolve p).drop 1 ∈ volumeParents.map Kernel.resolve ∨ IsUserPoint p ∨
    Kernel.resolve p = Kernel.resolve ""

instance : DecidablePred IsVolumePoint := fun _ => inferInstanceAs (Decidable (_ ∨ _ ∨ _))

theorem isVolumePoint_congr {p q : String} (h : Kernel.resolve p = Kernel.resolve q) :
    IsVolumePoint p ↔ IsVolumePoint q := by
  simp only [IsVolumePoint, IsUserPoint, h]

/-- Paths that all name volume points name no other point. -/
theorem countAt_of_volumePoints {ps : List String} (hps : ∀ p ∈ ps, IsVolumePoint p) {q : String}
    (hq : ¬IsVolumePoint q) : Kernel.countAt q ps = 0 :=
  Kernel.countAt_eq_zero.mpr fun p hp he => hq ((isVolumePoint_congr he).mp (hps p hp))

theorem isVolumePoint_empty : IsVolumePoint "" := .inr (.inr rfl)

theorem isVolumePoint_kAsecPath : IsVolumePoint kAsecPath := by decide

theorem isVolumePoint_append (parent : String) {n : String} (hparent : parent ∈ volumeParents)
    (hn : IsPathComponent n) : IsVolumePoint (parent ++ "/" ++ n) := by
  have hok : ∀ p ∈ volumeParents, p ≠ "" ∧ Char.ofNat 0 ∉ p.data := by decide
  refine .inl ?_
  rw [Kernel.resolve_append_component (hok _ hparent).1 (hok _ hparent).2 hn, List.drop_one,
    List.tail_cons]
  exact List.mem_map_of_mem _ hparent

/-- Under a single-component name, the raw path and the views the volume derives are volume
points. -/
theorem isVolumePoint_of_derived {n p : String} (hn : IsPathComponent n)
    (hp : p ∈ rawPathFor n :: [sdcardFsDefaultFor n, sdcardFsReadFor n, sdcardFsWriteFor n,
      sdcardFsFullFor n]) :
    IsVolumePoint p := by
  simp only [List.mem_cons, List.mem_singleton, List.not_mem_nil, or_false] at hp
  rcases hp with rfl | rfl | rfl | rfl | rfl
  · exact isVolumePoint_append "/mnt/media_rw" (by decide) hn
  · exact isVolumePoint_append "/mnt/runtime/default" (by decide) hn
  · exact isVolumePoint_append "/mnt/runtime/read" (by decide) hn
  · exact isVolumePoint_append "/mnt/runtime/write" (by decide) hn
  · exact isVolumePoint_append "/mnt/runtime/full" (by decide) hn

theorem isVolumePoint_fuse (u : UserId) {n : String} (hn : IsPathComponent n) :
    IsVolumePoint (getFuseMountPathForUser u n) :=
  .inr (.inl (isUserPoint_getFuseMountPathForUser u hn))

/-- What keeps a volume on its own points: single-component names, recorded raw and view paths
that are volume points, and no running sdcard daemon with a view to mount elsewhere. -/
structure OnOwnPoints (s : Sys) : Prop where
  names : NamesOk s.vol
  paths : ∀ p ∈ s.vol.rawPath :: s.vol.sdcardFsViews, IsVolumePoint p
  kids : ∀ q, ¬IsVolumePoint q → Kernel.countAt q s.childPoints = 0

/-- Away from the volume points, `s'` has the mounts of `s`. -/
def SameElsewhere (s s' : Sys) : Prop :=
  ∀ q, ¬IsVolumePoint q → Kernel.mountsAt q s'.mounts = Kernel.mountsAt q s.mounts

/-- A step that keeps the volume on its points, after a run that left the rest alone. -/
theorem SameElsewhere.then {s s1 s2 : Sys} (h1 : SameElsewhere s s1)
    (h2 : OnOwnPoints s2 ∧ SameElsewhere s1 s2) : OnOwnPoints s2 ∧ SameElsewhere s s2 :=
  ⟨h2.1, fun q hq => (h2.2 q hq).trans (h1 q hq)⟩

/-- Each record's stage points are volume points. -/
theorem volumePoints_stagePoints {v : PublicVolume}
    (hp : ∀ p ∈ v.rawPath :: v.sdcardFsViews, IsVolumePoint p) :
    ∀ p ∈ stagePoints v, IsVolumePoint p := fun p hp' => by
  simp only [stagePoints, List.mem_append, List.mem_cons, List.mem_singleton, List.not_mem_nil,
    or_false] at hp'
  rcases hp' with hp' | rfl | rfl
  · split_ifs at hp'
    · exact hp p (List.mem_cons_of_mem _ hp')
    · exact absurd hp' (List.not_mem_nil _)
  · exact isVolumePoint_kAsecPath
  · exact hp _ (List.mem_cons_self _ _)

/-- Every point `doUnmount` targets is a volume point. -/
theorem volumePoints_unmountTargets {v : PublicVolume} (r : Registry) (hn : NamesOk v)
    (hp : ∀ p ∈ v.rawPath :: v.sdcardFsViews, IsVolumePoint p) :
    ∀ p ∈ unmountTargets v r, IsVolumePoint p := fun p hp' => by
  have hstage := volumePoints_stagePoints hp p
  simp only [unmountTargets, fuseTargets, stagePoints, userBindPaths, List.mem_append,
    List.mem_cons, List.mem_singleton, List.not_mem_nil, or_false] at hp' hstage
  rcases hp' with (hp' | hp' | hp') | hp'
  · split_ifs at hp'
    · rcases List.mem_append.mp hp' with hp' | hp'
      · obtain ⟨u, -, rfl⟩ := List.mem_map.mp hp'
        exact isVolumePoint_fuse u hn.stableName
      · rw [List.mem_singleton.mp hp']
        exact isVolumePoint_fuse _ hn.stableName
    · exact absurd hp' (List.not_mem_nil _)
  all_goals exact hstage (by simp [hp'])

namespace OnOwnPoints

/-- A mount step at volume points keeps the volume on its points, and leaves the rest alone. -/
theorem of_mounted {ps : List String} {s s' : Sys} (h : OnOwnPoints s) (hm : Mounted ps s s')
    (hps : ∀ p ∈ ps, IsVolumePoint p) (hn : NamesOk s'.vol)
    (hp : ∀ p ∈ s'.vol.rawPath :: s'.vol.sdcardFsViews, IsVolumePoint p) :
    OnOwnPoints s' ∧ SameElsewhere s s' :=
  ⟨⟨hn, hp, fun q hq => hm.countAt_eq_zero (countAt_of_volumePoints hps hq) (h.kids q hq)⟩,
    fun q hq => hm.frame (countAt_of_volumePoints hps hq) (h.kids q hq)⟩

/-- An unmount step at volume points keeps the volume on its points, and leaves the rest alone. -/
theorem of_unmounted {ps : List String} {s s' : Sys} (h : OnOwnPoints s) (hu : Unmounted ps s s')
    (hps : ∀ p ∈ ps, IsVolumePoint p) (hn : NamesOk s'.vol)
    (hp : ∀ p ∈ s'.vol.rawPath :: s'.vol.sdcardFsViews, IsVolumePoint p) :
    OnOwnPoints s' ∧ SameElsewhere s s' :=
  ⟨⟨hn, hp, fun q hq => hu.countAt_eq_zero (h.kids q hq)⟩,
    fun q hq => hu.frame (countAt_of_volumePoints hps hq) (h.kids q hq)⟩

/-- `doUnmount` keeps the volume on its points, whatever its unmount calls return. -/
theorem doUnmount {o : Oracle} {r : Registry} {s s' : Sys} {st : Status} (h : OnOwnPoints s)
    (hu : doUnmount o r s = .next st s') : OnOwnPoints s' ∧ SameElsewhere s s' := by
  obtain ⟨_, _, h', hun, ⟨-, hv, -⟩ | ⟨-, -, hv, -⟩⟩ := doUnmount_spec o r s <;>
    rw [hu] at h' <;> cases h' <;>
    refine h.of_unmounted hun (volumePoints_unmountTargets r h.names h.paths) ?_ ?_ <;> rw [hv]
  · exact h.names.unmounted
  · rw [unmountedVol_rawPath, unmountedVol_sdcardFsViews]
    intro p hp
    split_ifs at hp
    · simp only [List.mem_cons, List.mem_singleton, List.not_mem_nil, or_false, or_self] at hp
      exact hp ▸ isVolumePoint_empty
    · rcases List.mem_cons.mp hp with rfl | hp
      · exact isVolumePoint_empty
      · exact h.paths p (List.mem_cons_of_mem _ hp)
  · exact h.names
  · exact h.paths

/-- `doMount` keeps the volume on its points, whatever the stages and the primitives return and
whatever the bridge record says. -/
theorem doMount {o : Oracle} (ho : o.ProbesNames) {r : Registry} {fuel : Nat} {s s' : Sys}
    {st : Status} (h : OnOwnPoints s) (hd : doMount o r fuel s = .next st s') :
    OnOwnPoints s' ∧ SameElsewhere s s' := by
  refine doMount_induction (fun t => OnOwnPoints t ∧ SameElsewhere s t) (fun s0 hm hv => ?_)
    (fun s0 s1 h0 hv hm => ?_) (fun s0 s1 h0 _ hv hm _ _ => ?_)
    (fun s1 s2 _ h1 hu => ?_) (fun s1 s3 h1 hv hm => ?_) hd
  · have hn : NamesOk s0.vol := by rcases hv with hv | hv <;> rw [hv] <;> exact ⟨h.names.id, ho _⟩
    have hp : ∀ p ∈ s0.vol.rawPath :: s0.vol.sdcardFsViews, IsVolumePoint p := by
      rcases hv with hv | hv
      · have hd := hv ▸ pathsDerived_preparedVol s.vol (o.metadata s.log.length)
        rw [hd.1, hd.2]
        exact fun p => isVolumePoint_of_derived hn.stableName
      · rw [hv]
        exact h.paths
    exact h.of_mounted hm (volumePoints_stagePoints hp) hn hp
  · exact h0.2.then (h0.1.of_mounted hm (by simp) (hv ▸ h0.1.names) (hv ▸ h0.1.paths))
  · exact h0.2.then (h0.1.of_mounted hm
      (by simpa using isVolumePoint_fuse _ h0.1.names.stableName)
      (by rw [hv]; exact ⟨h0.1.names.id, h0.1.names.uuid⟩) (by rw [hv]; exact h0.1.paths))
  · exact h1.2.then (h1.1.doUnmount hu)
  · refine h1.2.then (h1.1.of_mounted hm (fun p hp => ?_) (hv ▸ h1.1.names) (hv ▸ h1.1.paths))
    obtain ⟨u, -, rfl⟩ := List.mem_map.mp (List.mem_reverse.mp hp)
    exact isVolumePoint_fuse u h1.1.names.stableName

/-- `bindMountForUser` keeps the volume on its points, for any user. -/
theorem bind {o : Oracle} {u : UserId} {s s' : Sys} {st : Status} (h : OnOwnPoints s)
    (hb : bindMountForUser o u s = .next st s') : OnOwnPoints s' ∧ SameElsewhere s s' := by
  obtain ⟨_, s1, h1, hv, -, hm⟩ := bindMountForUser_spec o u s
  rw [hb] at h1
  cases h1
  exact h.of_mounted hm (by simpa using isVolumePoint_fuse u h.names.stableName)
    (hv ▸ h.names) (hv ▸ h.paths)

/-- Any call keeps the volume on its points. -/
theorem step {o : Oracle} (ho : o.ProbesNames) {op : Op} {s s' : Sys} {st : Status}
    (h : OnOwnPoints s) (hrun : op.run o s = .next st s') :
    OnOwnPoints s' ∧ SameElsewhere s s' := by
  cases op with
  | mount r fuel => exact h.doMount ho hrun
  | bind u => exact h.bind hrun
  | unmount r => exact h.doUnmount hrun

end OnOwnPoints

/-- A volume fresh from the constructor, with no daemon running. -/
theorem onOwnPoints_create (d : Device) (b : Bool) (flags : MountFlags) (u : UserId) (cb : Bool)
    (t : List Mount) (e : Int) (log : List Event) :
    OnOwnPoints ⟨{ create d b with
      mountFlags := flags, mountUserId := u, hasMountCallback := cb }, t, e, log, []⟩ where
  names := ⟨publicId_isPathComponent d, .inl rfl⟩
  paths p hp := by
    simp only [create, sdcardFsViews, List.mem_cons, List.mem_singleton, List.not_mem_nil,
      or_false, or_self] at hp
    exact hp ▸ isVolumePoint_empty
  kids _ _ := rfl

/-- Along every sequence of calls, in any order and whatever the primitives return, a volume
whose probes name their UUIDs well leaves every point but its own as it was at the start, and no
running sdcard daemon has a view to mount there. -/
theorem run_stays_on_own_points (o : Oracle) (ho : o.ProbesNames) (s0 s : Sys)
    (h0 : OnOwnPoints s0) (h : Reachable o (fun _ _ => True) s0 s) :
    OnOwnPoints s ∧ ∀ q, ¬IsVolumePoint q → Kernel.mountsAt q s.mounts = Kernel.mountsAt q s0.mounts := by
  induction h with
  | init => exact ⟨h0, fun _ _ => rfl⟩
  | step _ _ hrun ih => exact SameElsewhere.then ih.2 (ih.1.step ho hrun)

set_option smartUnfolding false in
/-- The retried `doMount` that leaves the bridge record wrong stays on the volume's points. -/
theorem run_stays_on_own_points_retried :
    ∃ s, Reachable { Oracle.failingAt ⟨"vfat", "", ""⟩ [7] EIO with ready := fun _ => false }
        (fun _ _ => True)
        ⟨{ create ⟨8, 1⟩ false with
          mountFlags := ⟨false, true⟩, mountUserId := 0, hasMountCallback := true }, [], 0, [], []⟩ s ∧
      s.vol.fuseMounted = false ∧ (Kernel.mountsAt s.vol.bridgePath s.mounts).length = 1 ∧
      (OnOwnPoints s ∧ ∀ q, ¬IsVolumePoint q → Kernel.mountsAt q s.mounts = []) := by
  obtain ⟨_, s1, h1, h⟩ := Outcome.exists_of_returns
    (o := doMount { Oracle.failingAt ⟨"vfat", "", ""⟩ [7] EIO with ready := fun _ => false }
      ⟨⟨[0], by decide⟩, fun _ => 0⟩ 0
      ⟨{ create ⟨8, 1⟩ false with
        mountFlags := ⟨false, true⟩, mountUserId := 0, hasMountCallback := true }, [], 0, [], []⟩)
    (p := fun _ s1 =>
      (doMount { Oracle.failingAt ⟨"vfat", "", ""⟩ [7] EIO with ready := fun _ => false }
        ⟨⟨[0], by decide⟩, fun _ => 0⟩ 0 s1).returns (fun _ s2 => s2.vol.fuseMounted = false ∧
          (Kernel.mountsAt s2.vol.bridgePath s2.mounts).length = 1) = true)
    (by decide)
  obtain ⟨_, s2, h2, hf, hlen⟩ := Outcome.exists_of_returns h
  have hr : Reachable { Oracle.failingAt ⟨"vfat", "", ""⟩ [7] EIO with ready := fun _ => false }
      (fun _ _ => True) _ s2 :=
    (Reachable.init.mount trivial h1).mount trivial h2
  have hon := run_stays_on_own_points _ (fun _ => Or.inl rfl) _ _
    (onOwnPoints_create _ _ _ _ _ _ _ _) hr
  exact ⟨s2, hr, hf, hlen, hon.1, hon.2⟩

end PublicVolume

end Vold
