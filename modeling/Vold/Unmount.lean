import Vold.Trace
import Vold.Paths

/-!
# `bindMountForUser` and `doUnmount`

`doUnmount` in the order of the source: kill the users of the public path, then, if the
bridge is up, the sibling binds and the owner's bridge, then the ASEC bind, the sdcardfs
views and the raw mount. A failed `UnmountUserFuse` is the only early return.
-/

namespace Vold

namespace PublicVolume

open Proc

/-- `PublicVolume::bindMountForUser`: bind the owner's bridge into the bridge path of
`userId`, under the stable name recomputed from the volume. -/
def bindMountForUser (o : Oracle) (userId : UserId) : Proc Status := do
  let v ← getVol
  let mountUserId := v.mountUserId
  let stableName := v.stableName
  let sourcePath := getFuseMountPathForUser mountUserId stableName
  let destPath := getFuseMountPathForUser userId stableName
  let _ ← prepareDir o destPath
  bindMount o sourcePath destPath

/-- Lines 632-641: unmount and remove the bridge path of every started user but the owner. -/
def removeUserBinds (o : Oracle) (userId : UserId) (stableName : String) :
    List UserId → Proc Unit
  | [] => pure ()
  | startedUser :: rest => do
      if startedUser ≠ userId then
        let mountPath := getFuseMountPathForUser startedUser stableName
        let _ ← forceUnmount o mountPath
        let _ ← rmdir o mountPath
      removeUserBinds o userId stableName rest

/-- Lines 622-649: with the bridge up, remove the sibling binds, then the owner's bridge;
a failed `UnmountUserFuse` returns `-errno` and keeps `mFuseMounted`. -/
def unmountFuse (o : Oracle) (r : Registry) : Proc Unit := do
  let v ← getVol
  if v.fuseMounted then
    let stableName := v.stableName
    removeUserBinds o v.mountUserId stableName r.startedUsers.users
    if (← unmountUserFuse o v.mountUserId v.internalPath stableName) ≠ OK then
      let e ← getErrno
      exit (-e)
    modifyVol fun v => { v with fuseMounted := false }

/-- Lines 653-668: force-unmount and remove the four views, then forget their paths. -/
def teardownSdcardFs (o : Oracle) : Proc Unit := do
  let v ← getVol
  let _ ← forceUnmount o v.sdcardFsDefault
  let _ ← forceUnmount o v.sdcardFsRead
  let _ ← forceUnmount o v.sdcardFsWrite
  let _ ← forceUnmount o v.sdcardFsFull
  let _ ← rmdir o v.sdcardFsDefault
  let _ ← rmdir o v.sdcardFsRead
  let _ ← rmdir o v.sdcardFsWrite
  let _ ← rmdir o v.sdcardFsFull
  modifyVol fun v =>
    { v with sdcardFsDefault := "", sdcardFsRead := "", sdcardFsWrite := "", sdcardFsFull := "" }

/-- Lines 670-673: force-unmount the raw path, falling back to a lazy detach. -/
def forceUnmountRaw (o : Oracle) : Proc Unit := do
  if (← forceUnmount o (← getVol).rawPath) ≠ 0 then
    let _ ← umount2Detach o (← getVol).rawPath

/-- Lines 674-678: remove the raw directory, killing its users if that fails, and forget the
path whatever happened. -/
def removeRawPath (o : Oracle) : Proc Unit := do
  if (← rmdir o (← getVol).rawPath) ≠ 0 then
    let _ ← killProcessesUsingPath o (← getVol).path
  modifyVol fun v => { v with rawPath := "" }

/-- Lines 670-678. -/
def unmountRaw (o : Oracle) : Proc Unit := do
  forceUnmountRaw o
  removeRawPath o

/-- `PublicVolume::doUnmount`. -/
def doUnmount (o : Oracle) (r : Registry) : Proc Status := body do
  let _ ← killProcessesUsingPath o (← getVol).path
  unmountFuse o r
  let _ ← forceUnmount o kAsecPath
  if (← getVol).useSdcardFs then
    teardownSdcardFs o
  unmountRaw o
  pure OK

/-- The bridge paths of the started users other than `userId`, in the order of `users`. -/
def userBindPaths (userId : UserId) (name : String) (users : List UserId) : List String :=
  (users.filter (· ≠ userId)).map (getFuseMountPathForUser · name)

/-- `bindMountForUser` prepares the user's bridge path and binds the owner's bridge onto it. -/
theorem bindMountForUser_spec (o : Oracle) (u : UserId) (s : Sys) :
    ∃ st s1, bindMountForUser o u s = .next st s1 ∧ s1.vol = s.vol ∧
      s1.log = s.log ++
        [⟨.prepareDir (getFuseMountPathForUser u s.vol.stableName), o.status s.log.length⟩,
          ⟨.bindMount s.vol.bridgePath (getFuseMountPathForUser u s.vol.stableName), st⟩] ∧
      Mounted [getFuseMountPathForUser u s.vol.stableName] s s1 := by
  obtain ⟨_, s1, h1, hv1, hl1, -, hst1, -⟩ :=
    invoke_spec o (.prepareDir (getFuseMountPathForUser u s.vol.stableName)) s
  obtain ⟨st, s2, h2, hv2, hl2, -, -, hm2, -, -⟩ := invokeMount_spec o
    (.bindMount (getFuseMountPathForUser s.vol.mountUserId s.vol.stableName)
      (getFuseMountPathForUser u s.vol.stableName)) (getFuseMountPathForUser u s.vol.stableName) s1
  exact ⟨st, s2, by simp [bindMountForUser, prepareDir, h1, hv1, bindMount, h2],
    by rw [hv2, hv1], by simp [hl2, hl1, hst1, bridgePath],
    ((Mounted.of_invoke h1).trans hm2).mono (by split <;> simp)⟩

theorem forceUnmount_spec (o : Oracle) (p : String) (s : Sys) :
    ∃ st s', forceUnmount o p s = .next st s' ∧ s'.vol = s.vol ∧
      s'.log = s.log ++ [⟨.forceUnmount p, st⟩] ∧ s'.errno = o.errno s.log.length ∧
      (Kernel.isMounted p s.mounts = false → st = 0) ∧
      Kernel.mountsAt p s'.mounts = Kernel.mountsAt p (s.tickMounts o) ++
        (if st = 0 then (Kernel.mountsAt p s.mounts).tail else Kernel.mountsAt p s.mounts) ∧
      (st ≠ 0 → s' = s.record o (.forceUnmount p) st) ∧ Unmounted [p] s s' :=
  invokeUnmount_spec o (c := .forceUnmount p) rfl 0 s

theorem removeUserBinds_spec (o : Oracle) (userId : UserId) (name : String)
    (users : List UserId) (s : Sys) :
    ∃ s', removeUserBinds o userId name users s = .next () s' ∧ s'.vol = s.vol ∧
      Unmounted (userBindPaths userId name users) s s' := by
  induction users generalizing s with
  | nil => exact ⟨s, rfl, rfl, Unmounted.refl s⟩
  | cons u rest ih =>
      by_cases hu : u = userId
      · obtain ⟨s', h, hv, hun⟩ := ih s
        refine ⟨s', ?_, hv, by simpa [userBindPaths, hu] using hun⟩
        simpa [removeUserBinds, hu] using h
      · obtain ⟨st1, s1, h1, hv1, -, -, -, -, -, hu1⟩ :=
          forceUnmount_spec o (getFuseMountPathForUser u name) s
        obtain ⟨s', h, hv, hun⟩ := ih (s1.record o (.rmdir (getFuseMountPathForUser u name))
          (o.status s1.log.length))
        refine ⟨s', ?_, by simp [hv, hv1], ?_⟩
        · simp [removeUserBinds, hu, h1, rmdir, invoke_apply, h]
        · simpa [userBindPaths, hu] using (hu1.trans (Unmounted.record _ _ _ s1)).trans hun

/-- The points `unmountFuse` unmounts: with the bridge up, the sibling binds, then the
owner's bridge. -/
def fuseTargets (v : PublicVolume) (r : Registry) : List String :=
  if v.fuseMounted then
    userBindPaths v.mountUserId v.stableName r.startedUsers.users ++ [v.bridgePath]
  else []

theorem with_fuseMounted_self {v : PublicVolume} {b : Bool} (h : v.fuseMounted = b) :
    { v with fuseMounted := b } = v := by
  cases v; simp_all

/-- `unmountFuse` either gets past the bridge, having popped it when it was up, or stops at a
failed `UnmountUserFuse` with the record as it was. At the bridge point, when no sibling bind
path names it and no running daemon has anything to mount there, the stack lost its top in the
first case and is untouched in the second. -/
theorem unmountFuse_spec (o : Oracle) (r : Registry) (s : Sys) :
    ∃ s', Unmounted (fuseTargets s.vol r) s s' ∧
      ((unmountFuse o r s = .next () s' ∧ s'.vol = { s.vol with fuseMounted := false } ∧
          (s.vol.fuseMounted →
            Kernel.countAt s.vol.bridgePath
              (userBindPaths s.vol.mountUserId s.vol.stableName r.startedUsers.users) = 0 →
            Kernel.countAt s.vol.bridgePath s.childPoints = 0 →
            Kernel.mountsAt s.vol.bridgePath s'.mounts =
              (Kernel.mountsAt s.vol.bridgePath s.mounts).tail)) ∨
        (unmountFuse o r s = .exit (-s'.errno) s' ∧ s.vol.fuseMounted ∧ s'.vol = s.vol ∧
          ¬UnmountsSucceed (s.since s') ∧
          (Kernel.countAt s.vol.bridgePath
              (userBindPaths s.vol.mountUserId s.vol.stableName r.startedUsers.users) = 0 →
            Kernel.countAt s.vol.bridgePath s.childPoints = 0 →
            Kernel.mountsAt s.vol.bridgePath s'.mounts =
              Kernel.mountsAt s.vol.bridgePath s.mounts))) := by
  by_cases hf : s.vol.fuseMounted
  · obtain ⟨s1, h1, hv1, hu1⟩ := removeUserBinds_spec o s.vol.mountUserId s.vol.stableName
      r.startedUsers.users s
    obtain ⟨st, s2, h2, hv2, hl2, -, -, hstk, -, hu2⟩ := invokeUnmount_spec o
      (c := .unmountUserFuse s.vol.mountUserId s.vol.internalPath s.vol.stableName) rfl 0 s1
    have hu := hu1.trans hu2
    have hb1 : Kernel.countAt s.vol.bridgePath
          (userBindPaths s.vol.mountUserId s.vol.stableName r.startedUsers.users) = 0 →
        Kernel.countAt s.vol.bridgePath s.childPoints = 0 →
        Kernel.countAt s.vol.bridgePath s1.childPoints = 0 ∧
          Kernel.mountsAt s.vol.bridgePath s2.mounts =
            (if st = 0 then (Kernel.mountsAt s.vol.bridgePath s.mounts).tail
              else Kernel.mountsAt s.vol.bridgePath s.mounts) := fun hb hk => by
      have hk1 : Kernel.countAt s.vol.bridgePath s1.childPoints = 0 := hu1.countAt_eq_zero hk
      have hstk' : Kernel.mountsAt s.vol.bridgePath s2.mounts =
          Kernel.mountsAt s.vol.bridgePath (s1.tickMounts o) ++
            (if st = 0 then (Kernel.mountsAt s.vol.bridgePath s1.mounts).tail
              else Kernel.mountsAt s.vol.bridgePath s1.mounts) := hstk
      rw [hstk', Sys.mountsAt_tickMounts hk1, List.nil_append, hu1.frame hb hk]
      exact ⟨hk1, rfl⟩
    by_cases hst : st = 0
    · refine ⟨{ s2 with vol := { s2.vol with fuseMounted := false } }, ?_,
        .inl ⟨?_, ?_, fun _ hb hk => ?_⟩⟩
      · simpa [fuseTargets, hf, PublicVolume.bridgePath] using hu.trans (Unmounted.setVol s2 _)
      · simp [unmountFuse, hf, h1, unmountUserFuse, h2, hst]
      · simp [hv2, hv1]
      · simpa [hst] using (hb1 hb hk).2
    · refine ⟨s2, by simpa [fuseTargets, hf, PublicVolume.bridgePath] using hu,
        .inr ⟨?_, hf, by simp [hv2, hv1], fun hs => hst ?_, fun hb hk => ?_⟩⟩
      · simp [unmountFuse, hf, h1, unmountUserFuse, h2, hst, OK]
      · rw [Sys.since_trans hu1.log hu2.log, UnmountsSucceed.append, Sys.since_append _ hl2] at hs
        exact hs.2 _ (List.mem_singleton_self _) rfl
      · simpa [hst] using (hb1 hb hk).2
  · refine ⟨s, by simpa [fuseTargets, hf] using Unmounted.refl s, .inl ⟨?_, ?_, fun h => absurd h hf⟩⟩
    · simp [unmountFuse, hf]
    · rw [with_fuseMounted_self (Bool.eq_false_iff.mpr hf)]

/-- The volume record with the four sdcardfs view paths forgotten. -/
def clearSdcardFs (v : PublicVolume) : PublicVolume :=
  { v with sdcardFsDefault := "", sdcardFsRead := "", sdcardFsWrite := "", sdcardFsFull := "" }

theorem teardownSdcardFs_spec (o : Oracle) (s : Sys) :
    ∃ s', teardownSdcardFs o s = .next () s' ∧ s'.vol = clearSdcardFs s.vol ∧
      Unmounted s.vol.sdcardFsViews s s' := by
  obtain ⟨_, s1, h1, hv1, -, -, -, -, -, hu1⟩ := forceUnmount_spec o s.vol.sdcardFsDefault s
  obtain ⟨_, s2, h2, hv2, -, -, -, -, -, hu2⟩ := forceUnmount_spec o s.vol.sdcardFsRead s1
  obtain ⟨_, s3, h3, hv3, -, -, -, -, -, hu3⟩ := forceUnmount_spec o s.vol.sdcardFsWrite s2
  obtain ⟨_, s4, h4, hv4, -, -, -, -, -, hu4⟩ := forceUnmount_spec o s.vol.sdcardFsFull s3
  obtain ⟨_, s5, h5, hv5, -, -, -, hu5⟩ := invoke_spec o (.rmdir s.vol.sdcardFsDefault) s4
  obtain ⟨_, s6, h6, hv6, -, -, -, hu6⟩ := invoke_spec o (.rmdir s.vol.sdcardFsRead) s5
  obtain ⟨_, s7, h7, hv7, -, -, -, hu7⟩ := invoke_spec o (.rmdir s.vol.sdcardFsWrite) s6
  obtain ⟨_, s8, h8, hv8, -, -, -, hu8⟩ := invoke_spec o (.rmdir s.vol.sdcardFsFull) s7
  simp only [teardownSdcardFs, bind_apply, getVol_apply, h1, h2, h3, h4, rmdir, h5, h6, h7, h8,
    modifyVol_apply, Outcome.next.injEq, true_and, exists_eq_left']
  exact ⟨by simp [hv1, hv2, hv3, hv4, hv5, hv6, hv7, hv8, clearSdcardFs],
    hu1.trans hu2 |>.trans hu3 |>.trans hu4 |>.trans hu5 |>.trans hu6 |>.trans hu7 |>.trans hu8
      |>.trans (Unmounted.setVol s8 _)⟩

theorem forceUnmountRaw_spec (o : Oracle) (s : Sys) :
    ∃ s', forceUnmountRaw o s = .next () s' ∧ s'.vol = s.vol ∧
      Unmounted [s.vol.rawPath] s s' := by
  obtain ⟨st1, s1, h1, hv1, hl1, -, -, -, hrec, hu1⟩ := forceUnmount_spec o s.vol.rawPath s
  by_cases hst : st1 = 0
  · exact ⟨s1, by simp [forceUnmountRaw, h1, hst], hv1, hu1⟩
  · obtain ⟨_, s2, h2, hv2, -, -, -, -, -, hu2⟩ := invokeUnmount_spec o
      (c := .umount2Detach s.vol.rawPath) rfl (-1) s1
    refine ⟨s2, by simp [forceUnmountRaw, h1, hst, umount2Detach, hv1, h2], by simp [hv2, hv1], ?_⟩
    rw [hrec hst] at hu2
    simpa using (Unmounted.record o _ _ s).trans hu2

theorem removeRawPath_spec (o : Oracle) (s : Sys) :
    ∃ s', removeRawPath o s = .next () s' ∧ s'.vol = { s.vol with rawPath := "" } ∧
      Unmounted [] s s' := by
  obtain ⟨st1, s1, h1, hv1, -, -, -, hu1⟩ := invoke_spec o (.rmdir s.vol.rawPath) s
  by_cases hst : st1 = 0
  · exact ⟨{ s1 with vol := { s1.vol with rawPath := "" } },
      by simp [removeRawPath, rmdir, h1, hst], by simp [hv1], hu1.trans (Unmounted.setVol s1 _)⟩
  · obtain ⟨_, s2, h2, hv2, -, -, -, hu2⟩ := invoke_spec o (.killProcessesUsingPath s.vol.path) s1
    exact ⟨{ s2 with vol := { s2.vol with rawPath := "" } },
      by simp [removeRawPath, rmdir, h1, hst, killProcessesUsingPath, hv1, h2],
      by simp [hv2, hv1], (hu1.trans hu2).trans (Unmounted.setVol s2 _)⟩

theorem unmountRaw_spec (o : Oracle) (s : Sys) :
    ∃ s', unmountRaw o s = .next () s' ∧ s'.vol = { s.vol with rawPath := "" } ∧
      Unmounted [s.vol.rawPath] s s' := by
  obtain ⟨s1, h1, hv1, hu1⟩ := forceUnmountRaw_spec o s
  obtain ⟨s2, h2, hv2, hu2⟩ := removeRawPath_spec o s1
  exact ⟨s2, by simp [unmountRaw, h1, h2], by rw [hv2, hv1], hu1.trans hu2⟩

/-- The points `doUnmount` unmounts, in order, when every unmount call succeeds. -/
def unmountTargets (v : PublicVolume) (r : Registry) : List String :=
  fuseTargets v r ++ kAsecPath :: (if v.useSdcardFs then v.sdcardFsViews else []) ++ [v.rawPath]

/-- The volume record once `doUnmount` got past the bridge. -/
def unmountedVol (v : PublicVolume) : PublicVolume :=
  { (if v.useSdcardFs then clearSdcardFs v else v) with fuseMounted := false, rawPath := "" }

@[simp] theorem unmountedVol_fuseMounted (v : PublicVolume) : (unmountedVol v).fuseMounted = false :=
  rfl

@[simp] theorem unmountedVol_rawPath (v : PublicVolume) : (unmountedVol v).rawPath = "" := rfl

@[simp] theorem unmountedVol_mountUserId (v : PublicVolume) :
    (unmountedVol v).mountUserId = v.mountUserId := by
  unfold unmountedVol clearSdcardFs
  split_ifs <;> rfl

@[simp] theorem unmountedVol_id (v : PublicVolume) : (unmountedVol v).id = v.id := by
  unfold unmountedVol clearSdcardFs
  split_ifs <;> rfl

@[simp] theorem unmountedVol_fsUuid (v : PublicVolume) : (unmountedVol v).fsUuid = v.fsUuid := by
  unfold unmountedVol clearSdcardFs
  split_ifs <;> rfl

@[simp] theorem unmountedVol_stableName (v : PublicVolume) :
    (unmountedVol v).stableName = v.stableName := by
  unfold unmountedVol clearSdcardFs
  split_ifs <;> rfl

@[simp] theorem unmountedVol_identity (v : PublicVolume) :
    (unmountedVol v).identity = v.identity := by
  unfold unmountedVol clearSdcardFs
  split_ifs <;> rfl

@[simp] theorem unmountedVol_sdcardFsViews (v : PublicVolume) :
    (unmountedVol v).sdcardFsViews = if v.useSdcardFs then ["", "", "", ""] else v.sdcardFsViews := by
  unfold unmountedVol clearSdcardFs
  split_ifs <;> rfl

/-- `doUnmount` returns; it either tears everything down and returns `OK`, or, with the bridge
up, stops at a failed `UnmountUserFuse` with `-errno` and the record untouched. At the bridge
point, when no other target and no running daemon names it, the stack lost its top in the first
case when the bridge was up, and is untouched in the second. -/
theorem doUnmount_spec (o : Oracle) (r : Registry) (s : Sys) :
    ∃ st s', doUnmount o r s = .next st s' ∧ Unmounted (unmountTargets s.vol r) s s' ∧
      ((st = OK ∧ s'.vol = unmountedVol s.vol ∧
          (s.vol.fuseMounted → Kernel.countAt s.vol.bridgePath (unmountTargets s.vol r) = 1 →
            Kernel.countAt s.vol.bridgePath s.childPoints = 0 →
            Kernel.mountsAt s.vol.bridgePath s'.mounts =
              (Kernel.mountsAt s.vol.bridgePath s.mounts).tail)) ∨
        (st = -s'.errno ∧ s.vol.fuseMounted ∧ s'.vol = s.vol ∧ ¬UnmountsSucceed (s.since s') ∧
          (Kernel.countAt s.vol.bridgePath
              (userBindPaths s.vol.mountUserId s.vol.stableName r.startedUsers.users) = 0 →
            Kernel.countAt s.vol.bridgePath s.childPoints = 0 →
            Kernel.mountsAt s.vol.bridgePath s'.mounts =
              Kernel.mountsAt s.vol.bridgePath s.mounts))) := by
  obtain ⟨_, s1, h1, hv1, -, -, -, hu1⟩ := invoke_spec o (.killProcessesUsingPath s.vol.path) s
  have hk : ∀ q, Kernel.countAt q s.childPoints = 0 →
      Kernel.countAt q s1.childPoints = 0 ∧ Kernel.mountsAt q s1.mounts = Kernel.mountsAt q s.mounts :=
    fun q h => ⟨hu1.countAt_eq_zero h, hu1.frame rfl h⟩
  obtain ⟨s2, hu2, ⟨h2, hv2, hb2⟩ | ⟨h2, hf, hv2, hfail, hb2⟩⟩ := unmountFuse_spec o r s1
  · obtain ⟨_, s3, h3, hv3, -, -, -, -, -, hu3⟩ := forceUnmount_spec o kAsecPath s2
    have hv3' : s3.vol = { s.vol with fuseMounted := false } := by rw [hv3, hv2, hv1]
    obtain ⟨s5, h5, hv5, hrest⟩ : ∃ s5, doUnmount o r s = .next OK s5 ∧
        s5.vol = unmountedVol s.vol ∧ Unmounted (kAsecPath ::
          ((if s.vol.useSdcardFs then s.vol.sdcardFsViews else []) ++ [s.vol.rawPath])) s2 s5 := by
      by_cases hsd : s.vol.useSdcardFs
      · obtain ⟨s4, h4, hv4, hu4⟩ := teardownSdcardFs_spec o s3
        obtain ⟨s5, h5, hv5, hu5⟩ := unmountRaw_spec o s4
        refine ⟨s5, ?_, ?_, (hu3.trans hu4 |>.trans hu5).mono ?_⟩
        · simp [doUnmount, killProcessesUsingPath, h1, hv1, h2, h3, hv3, hv2, hsd, h4, h5]
        · simp [unmountedVol, hv5, hv4, hv3', hsd, clearSdcardFs]
        · simp [hv3', hv4, hsd, sdcardFsViews, clearSdcardFs]
      · obtain ⟨s5, h5, hv5, hu5⟩ := unmountRaw_spec o s3
        refine ⟨s5, ?_, ?_, (hu3.trans hu5).mono ?_⟩
        · simp [doUnmount, killProcessesUsingPath, h1, hv1, h2, h3, hv3, hv2, hsd, h5]
        · simp [unmountedVol, hv5, hv3', hsd]
        · simp [hv3', hsd]
    refine ⟨_, s5, h5, (hu1.trans hu2 |>.trans hrest).mono (by simp [unmountTargets, hv1]),
      .inl ⟨rfl, hv5, fun hf hone hk0 => ?_⟩⟩
    have hcount := hone
    simp only [unmountTargets, fuseTargets, hf, if_true, Kernel.countAt_append, Kernel.countAt_cons,
      Kernel.countAt_nil, if_pos rfl] at hcount
    obtain ⟨hk1, hm1⟩ := hk _ hk0
    rw [← hv1] at hk1
    have hpop := hb2 (hv1 ▸ hf) (by rw [hv1]; omega) hk1
    rw [hv1] at hpop
    have hk2 : Kernel.countAt s.vol.bridgePath s2.childPoints = 0 :=
      hu2.countAt_eq_zero (hv1 ▸ hk1)
    rw [hrest.frame (by simp only [Kernel.countAt_append, Kernel.countAt_cons, Kernel.countAt_nil] at hcount ⊢; omega) hk2,
      hpop, hm1]
  · refine ⟨_, s2, ?_, (hu1.trans hu2).retarget (fun q => ?_) ?_,
      .inr ⟨rfl, hv1 ▸ hf, by rw [hv2, hv1], ?_, fun hb hk0 => ?_⟩⟩
    · simp [doUnmount, killProcessesUsingPath, h1, hv1, h2]
    · simp [unmountTargets, hv1]
    · exact not_succeed_of_later hu1.log hu2.log hfail
    · exact not_succeed_of_later hu1.log hu2.log hfail
    · obtain ⟨hk1, hm1⟩ := hk _ hk0
      rw [← hv1] at hb hk1
      rw [← hm1, ← hv1, hb2 hb hk1]

theorem doUnmount_ne_exit (o : Oracle) (r : Registry) (s : Sys) (st : Status) (s' : Sys) :
    doUnmount o r s ≠ .exit st s' := by
  obtain ⟨_, _, h, -⟩ := doUnmount_spec o r s
  rw [h]
  exact Outcome.noConfusion

theorem doUnmount_ne_hang (o : Oracle) (r : Registry) (s : Sys) : doUnmount o r s ≠ .hang := by
  obtain ⟨_, _, h, -⟩ := doUnmount_spec o r s
  rw [h]
  exact Outcome.noConfusion

/-- With the bridge recorded as down, `doUnmount` returns `OK` whatever its unmount calls
return, leaving the record with no raw path. -/
theorem doUnmount_ok_of_bridge_down (o : Oracle) (r : Registry) (s : Sys)
    (hf : s.vol.fuseMounted = false) :
    ∃ s', doUnmount o r s = .next OK s' ∧ s'.vol = unmountedVol s.vol := by
  obtain ⟨st, s', h, -, ⟨rfl, hv, -⟩ | ⟨-, hf', -⟩⟩ := doUnmount_spec o r s
  · exact ⟨s', h, hv⟩
  · simp [hf] at hf'

end PublicVolume

end Vold
