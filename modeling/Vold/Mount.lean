import Vold.Unmount

/-!
# `doMount`

`doMount` in its stages, each the lines of the source named in its docstring: probe and
check the device, mount it raw, stage ASEC on a primary volume, stop there for a volume
apps cannot see, spin up sdcardfs, mount the FUSE bridge, and bind it into the other
started users.

The sdcardfs poll loop has no bound of its own in the source; the model runs it for at
most `fuel` rounds and ends in `hang` past that.
-/

namespace Vold

namespace PublicVolume

open Proc

/-- `AID_MEDIA_RW`. -/
def aidMediaRw : Nat := 1023

/-- `AID_EXTERNAL_STORAGE`. -/
def aidExternalStorage : Nat := 1077

/-- `PublicVolume::doCreate`. -/
def doCreate (o : Oracle) : Proc Status := do
  createDeviceNode o (← getVol).devPath

/-- `PublicVolume::doDestroy`. -/
def doDestroy (o : Oracle) : Proc Status := do
  destroyDeviceNode o (← getVol).devPath

/-- The record with the type, UUID and label a probe read. -/
def withMetadata (v : PublicVolume) (md : Metadata) : PublicVolume :=
  { v with fsType := md.fsType, fsUuid := md.fsUuid, fsLabel := md.fsLabel }

@[simp] theorem identity_withMetadata (v : PublicVolume) (md : Metadata) :
    (withMetadata v md).identity = v.identity := rfl

/-- `PublicVolume::readMetadata`: probe the device and keep what the probe read. -/
def readMetadata (o : Oracle) : Proc Status := do
  let (res, md) ← readMetadataUntrusted o (← getVol).devPath
  modifyVol (withMetadata · md)
  pure res

/-- Lines 413-426: check the device with the adapter of the probed type. -/
def checkFilesystem (o : Oracle) : Proc Unit := do
  let v ← getVol
  if v.fsType = "vfat" ∧ o.vfatSupported then
    if (← check o .vfat v.devPath) ≠ 0 then exit (- EIO)
  else if v.fsType = "exfat" ∧ o.exfatSupported then
    if (← check o .exfat v.devPath) ≠ 0 then exit (- EIO)
  else exit (- EIO)

/-- Lines 428-465: derive the stable name and the paths from it, prepare the raw mount point
and mount the device there. -/
def mountRaw (o : Oracle) (isVisible : Bool) : Proc String := do
  let stableName := (← getVol).stableName
  modifyVol fun v => v.setMountPaths stableName isVisible
  let v ← getVol
  if (← fsPrepareDir o v.rawPath) ≠ 0 then
    let e ← getErrno
    exit (-e)
  let gid := if isVisible then aidMediaRw else aidExternalStorage
  if v.fsType = "vfat" then
    if (← adapterMount o .vfat v.devPath v.rawPath gid) ≠ 0 then exit (- EIO)
  else if v.fsType = "exfat" then
    if (← adapterMount o .exfat v.devPath v.rawPath gid) ≠ 0 then exit (- EIO)
  pure stableName

/-- Lines 382-388: recover the legacy secure directory. -/
def recoverLegacySecure (o : Oracle) (legacyPath securePath : String) : Proc Unit := do
  if (← access o legacyPath) = 0 then
    if (← access o securePath) ≠ 0 then
      let _ ← rename o legacyPath securePath

/-- `PublicVolume::initAsecStage`. `mkdir` stands for its `TEMP_FAILURE_RETRY` loop, whose
result is the first one that is not `EINTR`. -/
def initAsecStage (o : Oracle) : Proc Status := body do
  let v ← getVol
  let legacyPath := v.rawPath ++ "/android_secure"
  let securePath := v.rawPath ++ "/.android_secure"
  recoverLegacySecure o legacyPath securePath
  if (← mkdir o securePath) ≠ 0 then
    let e ← getErrno
    if e ≠ EEXIST then exit (-e)
  let _ ← bindMount o securePath kAsecPath
  pure OK

/-- `fs_prepare_dir(a) || fs_prepare_dir(b) || ...`: whether one failed; the first failure
stops the chain. -/
def prepareDirsFail (o : Oracle) : List String → Proc Bool
  | [] => pure false
  | p :: ps => do
      if (← fsPrepareDir o p) ≠ 0 then pure true else prepareDirsFail o ps

/-- The `execl` arguments of the sdcard daemon, lines 491-510. -/
def sdcardFsArgs (v : PublicVolume) (stableName : String) : List String :=
  [kSdcardFsPath, "-u", "1023", "-g", "1023", "-U", toString v.mountUserId] ++
    (if v.mountFlags.primary then ["-w"] else []) ++ [v.rawPath, stableName]

/-- Lines 525-535: poll the device of the full view every 50 ms until it differs from
`before`; past 5000 ms since `start`, return `-ETIMEDOUT`, leaving the daemon running. -/
def waitForSdcardFs (o : Oracle) (before : Nat) (start : Int) : Nat → Proc Unit
  | 0 => hang
  | fuel + 1 => do
      if before = (← getDevice o (← getVol).sdcardFsFull) then
        let _ ← usleep o
        let now ← systemTime o
        if (now - start).tdiv 1000000 > 5000 then exit (-ETIMEDOUT)
        waitForSdcardFs o before start fuel

/-- Lines 476-538: prepare the view mount points, fork the sdcard daemon and wait for its
full view to appear. The daemon is given the stable name, from which it mounts the four views
the record holds. -/
def spinUpSdcardFs (o : Oracle) (fuel : Nat) (stableName : String) : Proc Unit := do
  if (← prepareDirsFail o (← getVol).sdcardFsViews) then
    let e ← getErrno
    exit (-e)
  let before ← getDevice o (← getVol).sdcardFsFull
  if (← fork o (sdcardFsArgs (← getVol) stableName) (← getVol).sdcardFsViews) = -1 then
    let e ← getErrno
    exit (-e)
  let start ← systemTime o
  waitForSdcardFs o before start fuel
  let _ ← waitpid o

/-- Lines 540-568: mount the owner's FUSE bridge, ask the mount callback whether the volume is
ready, and tune the bridge; a failure unmounts what is up and returns. -/
def mountFuse (o : Oracle) (r : Registry) (stableName : String) : Proc Unit := do
  let userId := (← getVol).mountUserId
  let result ← mountUserFuse o userId (← getVol).internalPath stableName
  if result ≠ 0 then
    let _ ← doUnmount o r
    exit (-result)
  modifyVol fun v => { v with fuseMounted := true }
  if (← getVol).hasMountCallback then
    let isReady ← onVolumeChecking o (← getVol).path (← getVol).internalPath
    if !isReady then
      let _ ← doUnmount o r
      exit (- EIO)
  let _ ← configureReadAheadForFuse o (getFuseMountPathForUser userId stableName) 256
  let _ ← configureMaxDirtyRatioForFuse o (getFuseMountPathForUser userId stableName) 40

/-- Lines 570-593: bind the volume into every started user but the owner that shares storage
with the owner; failures are only logged. -/
def bindForStartedUsers (o : Oracle) (r : Registry) : List UserId → Proc Unit
  | [] => pure ()
  | startedUser :: rest => do
      let mountUserId := (← getVol).mountUserId
      if startedUser = mountUserId then
        bindForStartedUsers o r rest
      else if mountUserId ≠ r.sharedStorageUser startedUser then
        bindForStartedUsers o r rest
      else
        let _ ← prepareMountDirForUser o startedUser
        let _ ← bindMountForUser o startedUser
        bindForStartedUsers o r rest

/-- Lines 470-568: stop here for a volume apps cannot see; otherwise spin up sdcardfs when it is
used, then mount the FUSE bridge. -/
def mountForApps (o : Oracle) (r : Registry) (fuel : Nat) (isVisible : Bool)
    (stableName : String) : Proc Unit := do
  if !isVisible then exit OK
  if (← getVol).useSdcardFs then
    spinUpSdcardFs o fuel stableName
  mountFuse o r stableName

/-- Lines 410-568: everything `doMount` does before the bind fan-out. -/
def mountStages (o : Oracle) (r : Registry) (fuel : Nat) : Proc Unit := do
  let isVisible := (← getVol).isVisibleForWrite
  let _ ← readMetadata o
  checkFilesystem o
  let stableName ← mountRaw o isVisible
  if (← getVol).mountFlags.primary then
    let _ ← initAsecStage o
  mountForApps o r fuel isVisible stableName

/-- `PublicVolume::doMount`. -/
def doMount (o : Oracle) (r : Registry) (fuel : Nat) : Proc Status := body do
  mountStages o r fuel
  bindForStartedUsers o r r.startedUsers.users
  pure OK

theorem readMetadata_spec (o : Oracle) (s : Sys) :
    ∃ s1, readMetadata o s = .next (o.status s.log.length) s1 ∧
      s1.vol = withMetadata s.vol (o.metadata s.log.length) ∧ Mounted [] s s1 := by
  refine ⟨_, rfl, rfl, ?_⟩
  exact (Mounted.record _ _ _ s).trans (Mounted.setVol _ _)

/-- The check of a probed filesystem with adapter `fs`. -/
theorem checkWith_spec (o : Oracle) (fs : Fs) (s : Sys) :
    let s1 := s.record o (.check fs s.vol.devPath) (o.status s.log.length)
    (do if (← check o fs s.vol.devPath) ≠ 0 then exit (- EIO) : Proc Unit) s = .next () s1 ∨
      (do if (← check o fs s.vol.devPath) ≠ 0 then exit (- EIO) : Proc Unit) s = .exit (- EIO) s1 := by
  by_cases hst : o.status s.log.length = 0 <;> simp [check, invoke_apply, hst]

/-- The check passes only for a probed vfat or exFAT filesystem. -/
theorem checkFilesystem_spec (o : Oracle) (s : Sys) :
    ∃ s1, s1.vol = s.vol ∧ Mounted [] s s1 ∧
      (checkFilesystem o s = .next () s1 ∧ (s.vol.fsType = "vfat" ∨ s.vol.fsType = "exfat") ∨
        checkFilesystem o s = .exit (- EIO) s1) := by
  simp only [checkFilesystem, bind_apply, getVol_apply]
  split_ifs with hv he
  · exact ⟨_, Sys.record_vol .., Mounted.record .., (checkWith_spec o .vfat s).imp_left
      fun h => ⟨h, .inl hv.1⟩⟩
  · exact ⟨_, Sys.record_vol .., Mounted.record .., (checkWith_spec o .exfat s).imp_left
      fun h => ⟨h, .inr he.1⟩⟩
  · exact ⟨s, rfl, Mounted.refl s, .inr rfl⟩

/-- `mountRaw` sets the paths from the stable name and mounts at most the raw path. It returns
with a probed vfat or exFAT device mounted there, and fails with `-EIO` or with the `-errno` of
a failed call. -/
theorem mountRaw_spec (o : Oracle) (isVisible : Bool) (s : Sys) :
    ∃ s1, (mountRaw o isVisible s = .next s.vol.stableName s1 ∧
          (s.vol.fsType = "vfat" ∨ s.vol.fsType = "exfat" →
            rawPathFor s.vol.stableName ∈ s1.mounts.map Mount.point) ∨
        ∃ st, mountRaw o isVisible s = .exit st s1 ∧ (o.ErrnoSet → st ≠ OK)) ∧
      s1.vol = s.vol.setMountPaths s.vol.stableName isVisible ∧
      Mounted [rawPathFor s.vol.stableName] s s1 ∧ s.Settled s1 := by
  have hm1 := fun st => (Mounted.setVol s (s.vol.setMountPaths s.vol.stableName isVisible)).trans
    (Mounted.record o (.fsPrepareDir (rawPathFor s.vol.stableName)) st _)
  have hmount := fun fs => invokeMount_spec o (.mount fs s.vol.devPath (rawPathFor s.vol.stableName)
    (if isVisible then aidMediaRw else aidExternalStorage)) (rawPathFor s.vol.stableName)
    (Sys.record o (.fsPrepareDir (rawPathFor s.vol.stableName)) 0
      { s with vol := s.vol.setMountPaths s.vol.stableName isVisible })
  simp only [mountRaw, bind_apply, getVol_apply, modifyVol_apply, fsPrepareDir, invoke_apply,
    setMountPaths_rawPath, setMountPaths_fsType, setMountPaths_devPath]
  by_cases hp : o.status s.log.length = 0
  · by_cases hvf : s.vol.fsType = "vfat"
    · obtain ⟨st, s2, h2, hv2, -, -, -, hm2, hmt2, hk2⟩ := hmount .vfat
      refine ⟨s2, ?_, by simp [hv2], by simpa using (hm1 0).trans hm2.of_ite,
        (hm1 0).settled.trans hk2⟩
      by_cases hst : st = 0
      · exact .inl ⟨by simp [adapterMount, h2, hst, hp, hvf], fun _ => by simp [hmt2, hst]⟩
      · exact .inr ⟨- EIO, by simp [adapterMount, h2, hst, hp, hvf], fun _ => by decide⟩
    · by_cases hef : s.vol.fsType = "exfat"
      · obtain ⟨st, s2, h2, hv2, -, -, -, hm2, hmt2, hk2⟩ := hmount .exfat
        refine ⟨s2, ?_, by simp [hv2], by simpa using (hm1 0).trans hm2.of_ite,
          (hm1 0).settled.trans hk2⟩
        by_cases hst : st = 0
        · exact .inl ⟨by simp [adapterMount, h2, hst, hp, hvf, hef], fun _ => by simp [hmt2, hst]⟩
        · exact .inr ⟨- EIO, by simp [adapterMount, h2, hst, hp, hvf, hef], fun _ => by decide⟩
      · exact ⟨_, .inl ⟨by simp [hp, hvf, hef], fun h => (h.elim hvf hef).elim⟩, rfl,
          (hm1 0).mono List.nil_subperm, (hm1 0).settled⟩
  · exact ⟨_, .inr ⟨-o.errno s.log.length, by simp [hp], fun hE => by simpa using hE _ hp⟩, rfl,
      (hm1 (o.status s.log.length)).mono List.nil_subperm, (hm1 _).settled⟩

theorem recoverLegacySecure_spec (o : Oracle) (legacyPath securePath : String) (s : Sys) :
    ∃ s1, recoverLegacySecure o legacyPath securePath s = .next () s1 ∧ s1.vol = s.vol ∧
      Mounted [] s s1 := by
  obtain ⟨st1, s1, h1, hv1, -, -, -, -⟩ := invoke_spec o (.access legacyPath) s
  obtain ⟨st2, s2, h2, hv2, -, -, -, -⟩ := invoke_spec o (.access securePath) s1
  obtain ⟨st3, s3, h3, hv3, -, -, -, -⟩ := invoke_spec o (.rename legacyPath securePath) s2
  have hm2 := (Mounted.of_invoke h1).trans (Mounted.of_invoke h2)
  by_cases hst1 : st1 = 0
  · by_cases hst2 : st2 = 0
    · exact ⟨s2, by simp [recoverLegacySecure, access, h1, h2, hst1, hst2], by rw [hv2, hv1], hm2⟩
    · exact ⟨s3, by simp [recoverLegacySecure, access, rename, h1, h2, h3, hst1, hst2],
        by rw [hv3, hv2, hv1], hm2.trans (Mounted.of_invoke h3)⟩
  · exact ⟨s1, by simp [recoverLegacySecure, access, h1, hst1], hv1, Mounted.of_invoke h1⟩

theorem initAsecStage_spec (o : Oracle) (s : Sys) :
    ∃ st s1, initAsecStage o s = .next st s1 ∧ s1.vol = s.vol ∧ Mounted [kAsecPath] s s1 ∧
      s.Settled s1 := by
  obtain ⟨s1, h1, hv1, hm1⟩ := recoverLegacySecure_spec o (s.vol.rawPath ++ "/android_secure")
    (s.vol.rawPath ++ "/.android_secure") s
  obtain ⟨st2, s2, h2, hv2, -, -, -, -⟩ := invoke_spec o (.mkdir (s.vol.rawPath ++ "/.android_secure")) s1
  obtain ⟨st3, s3, h3, hv3, -, -, -, hm3, -, hk3⟩ := invokeMount_spec o
    (.bindMount (s.vol.rawPath ++ "/.android_secure") kAsecPath) kAsecPath s2
  have hm2 := hm1.trans (Mounted.of_invoke h2)
  have hbind : Mounted [kAsecPath] s s3 := by simpa using hm2.trans hm3.of_ite
  by_cases hst2 : st2 = 0
  · exact ⟨OK, s3, by simp [initAsecStage, h1, mkdir, h2, hst2, bindMount, hv1, h3],
      by rw [hv3, hv2, hv1], hbind, hm2.settled.trans hk3⟩
  · by_cases he : s2.errno = EEXIST
    · exact ⟨OK, s3, by simp [initAsecStage, h1, mkdir, h2, hst2, he, bindMount, hv1, h3],
        by rw [hv3, hv2, hv1], hbind, hm2.settled.trans hk3⟩
    · exact ⟨-s2.errno, s2, by simp [initAsecStage, h1, mkdir, h2, hst2, he, hv1],
        by rw [hv2, hv1], hm2.mono List.nil_subperm, hm2.settled⟩

/-- The chain mounts nothing; when it stops at a failure, `errno` is the failed call's. -/
theorem prepareDirsFail_spec (o : Oracle) (ps : List String) (s : Sys) :
    ∃ b s1, prepareDirsFail o ps s = .next b s1 ∧ s1.vol = s.vol ∧ Mounted [] s s1 ∧
      (b = true → o.ErrnoSet → s1.errno ≠ 0) := by
  induction ps generalizing s with
  | nil => exact ⟨false, s, rfl, rfl, Mounted.refl s, fun h => nomatch h⟩
  | cons p ps ih =>
      obtain ⟨st, s1, h1, hv1, -, he1, hst1, -⟩ := invoke_spec o (.fsPrepareDir p) s
      by_cases hst : st = 0
      · obtain ⟨b, s2, h2, hv2, hm2, he2⟩ := ih s1
        exact ⟨b, s2, by simp [prepareDirsFail, fsPrepareDir, h1, hst, h2], by rw [hv2, hv1],
          (Mounted.of_invoke h1).trans hm2, he2⟩
      · exact ⟨true, s1, by simp [prepareDirsFail, fsPrepareDir, h1, hst], hv1, Mounted.of_invoke h1,
          fun _ hE => he1 ▸ hE _ (hst1 ▸ hst)⟩

/-- The poll loop either runs out of fuel or ends; it mounts nothing itself, while the
running daemons go on mounting. -/
theorem waitForSdcardFs_spec (o : Oracle) (before : Nat) (start : Int) (fuel : Nat) (s : Sys) :
    waitForSdcardFs o before start fuel s = .hang ∨
      ∃ s1, s1.vol = s.vol ∧ Mounted [] s s1 ∧
        (∀ q, Kernel.countAt q s1.olderPoints ≤ Kernel.countAt q s.olderPoints) ∧
        (waitForSdcardFs o before start fuel s = .next () s1 ∨
          waitForSdcardFs o before start fuel s = .exit (-ETIMEDOUT) s1) := by
  induction fuel generalizing s with
  | zero => exact .inl rfl
  | succ fuel ih =>
      let s1 := s.record o (.getDevice s.vol.sdcardFsFull) 0
      let s3 := (s1.record o .usleep (o.status (s.log.length + 1))).record o .systemTime 0
      have hm1 : Mounted [] s s1 := Mounted.record ..
      have hm3 : Mounted [] s s3 := by
        simpa using hm1.trans (Mounted.record o .usleep (o.status (s.log.length + 1)) _)
          |>.trans (Mounted.record o .systemTime 0 _)
      have ho1 : ∀ q, Kernel.countAt q s1.olderPoints ≤ Kernel.countAt q s.olderPoints := fun q =>
        Sys.countAt_olderPoints_record ..
      have ho3 : ∀ q, Kernel.countAt q s3.olderPoints ≤ Kernel.countAt q s.olderPoints := fun q =>
        (Sys.countAt_olderPoints_record ..).trans ((Sys.countAt_olderPoints_record ..).trans (ho1 q))
      by_cases hb : o.device s.log.length = before
      · by_cases htime : (o.clock (s.log.length + 2) - start).tdiv 1000000 > 5000
        · refine .inr ⟨s3, rfl, hm3, ho3, .inr ?_⟩
          simp [s3, s1, waitForSdcardFs, getDevice, hb, usleep, invoke_apply, systemTime, htime]
        · rcases ih s3 with h | ⟨s5, hv5, hm5, ho5, h5⟩
          · exact .inl (by simp [s3, s1, waitForSdcardFs, getDevice, hb, usleep, invoke_apply,
              systemTime, htime] at h ⊢; exact h)
          · refine .inr ⟨s5, by simp [hv5, s3, s1], by simpa using hm3.trans hm5,
              fun q => (ho5 q).trans (ho3 q), ?_⟩
            simp only [s3, s1] at h5
            rcases h5 with h5 | h5 <;> simp [waitForSdcardFs, getDevice, hb, usleep,
              invoke_apply, systemTime, htime, h5]
      · exact .inr ⟨s1, rfl, hm1, ho1, .inl (by simp [s1, waitForSdcardFs, getDevice, Ne.symm hb])⟩

/-- Spinning up sdcardfs mounts nothing by its own calls; the daemon it forks is charged with
the four views. It returns once the daemon is reaped, or fails with `-ETIMEDOUT`, leaving the
daemon running, or with the `-errno` of a failed call. -/
theorem spinUpSdcardFs_spec (o : Oracle) (fuel : Nat) (stableName : String) (s : Sys) :
    spinUpSdcardFs o fuel stableName s = .hang ∨
      ∃ s1, s1.vol = s.vol ∧ Mounted s.vol.sdcardFsViews s s1 ∧
        (spinUpSdcardFs o fuel stableName s = .next () s1 ∧ s.Settled s1 ∨
          ∃ st, spinUpSdcardFs o fuel stableName s = .exit st s1 ∧ (o.ErrnoSet → st ≠ OK)) := by
  obtain ⟨b, s1, h1, hv1, hm1, he1⟩ := prepareDirsFail_spec o s.vol.sdcardFsViews s
  cases b
  · have hm2 := hm1.trans (Mounted.record o (.getDevice s1.vol.sdcardFsFull) 0 s1)
    obtain ⟨st3, s3, h3, hv3, -, he3, hst3, hm3', ho3⟩ := fork_spec o
      (sdcardFsArgs s1.vol stableName) s1.vol.sdcardFsViews
      (s1.record o (.getDevice s1.vol.sdcardFsFull) 0)
    have hm3 : Mounted s.vol.sdcardFsViews s s3 := by simpa [hv1] using hm2.trans hm3'
    by_cases hf : st3 = -1
    · have hne : o.status (s1.record o (.getDevice s1.vol.sdcardFsFull) 0).log.length ≠ 0 := by
        rw [← hst3, hf]; decide
      refine .inr ⟨s3, by simp [hv3, hv1], hm3, .inr ⟨-s3.errno, ?_,
        fun hE => by rw [he3]; simpa using hE _ hne⟩⟩
      simp only [spinUpSdcardFs, bind_apply, getVol_apply, h1, Bool.false_eq_true,
        if_false, getDevice, Sys.record_vol, h3, hf, if_true, getErrno_apply, exit_apply]
    · have hm4 := hm3.trans (Mounted.record o .systemTime 0 s3)
      rcases waitForSdcardFs_spec o (o.device s1.log.length) (o.clock s3.log.length) fuel
        (s3.record o .systemTime 0) with h | ⟨s5, hv5, hm5, ho5, h5 | h5⟩
      · exact .inl (by simp only [spinUpSdcardFs, bind_apply, getVol_apply, h1,
          Bool.false_eq_true, if_false, getDevice, Sys.record_vol, h3, hf, systemTime, h])
      · obtain ⟨_, s6, h6, hv6, -, hm6, ho6⟩ := waitpid_spec o s5
        refine .inr ⟨s6, by simp [hv6, hv5, hv3, hv1], by simpa using (hm4.trans hm5).trans hm6,
          .inl ⟨?_, fun q => ?_⟩⟩
        · simp only [spinUpSdcardFs, bind_apply, getVol_apply, h1, Bool.false_eq_true, if_false,
            getDevice, Sys.record_vol, h3, hf, systemTime, h5, h6, pure_apply]
        · have hk2 := hm2.settled q
          calc Kernel.countAt q s6.childPoints ≤ Kernel.countAt q s5.olderPoints := ho6 q
            _ ≤ Kernel.countAt q (s3.record o .systemTime 0).olderPoints := ho5 q
            _ ≤ Kernel.countAt q s3.olderPoints := Sys.countAt_olderPoints_record ..
            _ ≤ Kernel.countAt q (s1.record o (.getDevice s1.vol.sdcardFsFull) 0).childPoints := ho3 q
            _ ≤ Kernel.countAt q s.childPoints := hk2
      · refine .inr ⟨s5, by simp [hv5, hv3, hv1], by simpa using hm4.trans hm5,
          .inr ⟨-ETIMEDOUT, ?_, fun _ => by decide⟩⟩
        simp only [spinUpSdcardFs, bind_apply, getVol_apply, h1, Bool.false_eq_true, if_false,
          getDevice, Sys.record_vol, h3, hf, systemTime, h5]
  · exact .inr ⟨s1, hv1, hm1.mono List.nil_subperm, .inr ⟨-s1.errno,
      by simp only [spinUpSdcardFs, bind_apply, getVol_apply, h1, if_true, getErrno_apply,
        exit_apply], fun hE => by simpa using he1 rfl hE⟩⟩

/-- How `mountFuse` ends: the bridge mount failed and `doUnmount` ran; or the bridge came up and
was recorded in `mFuseMounted`, and then either the volume was not ready and `doUnmount` ran, or
`mountFuse` returned. `s1` is the state `doUnmount` started from, or the final state. Where no
running daemon has anything to mount, the bridge sits right on the stack it found. -/
theorem mountFuse_spec (o : Oracle) (r : Registry) (name : String) (s : Sys) :
    let bridge : Mount := ⟨getFuseMountPathForUser s.vol.mountUserId name, s.vol.id, s.log.length⟩
    ∃ s1, (s1.vol = s.vol ∧ Mounted [] s s1 ∧
          ∃ st s', doUnmount o r s1 = .next st s' ∧ ∃ e, e ≠ OK ∧ mountFuse o r name s = .exit e s') ∨
        (s1.vol = { s.vol with fuseMounted := true } ∧
          (Mounted [bridge.point] s s1 ∧ s.Settled s1 ∧ bridge ∈ s1.mounts ∧
            (Kernel.countAt bridge.point s.childPoints = 0 → Kernel.mountsAt bridge.point s1.mounts =
              bridge :: Kernel.mountsAt bridge.point s.mounts)) ∧
          ((∃ st s', doUnmount o r s1 = .next st s' ∧
              ∃ e, e ≠ OK ∧ mountFuse o r name s = .exit e s') ∨
            mountFuse o r name s = .next () s1 ∧
              ⟨.mountUserFuse s.vol.mountUserId s.vol.internalPath name, 0⟩ ∈ s.since s1)) := by
  intro bridge
  obtain ⟨st1, s1, h1, hv1, hl1, -, -, hm1, hmt1, hk1⟩ := invokeMount_spec o
    (.mountUserFuse s.vol.mountUserId s.vol.internalPath name)
    (getFuseMountPathForUser s.vol.mountUserId name) s
  by_cases hst1 : st1 = 0
  · have hup : ∀ v s2, Mounted [] { s1 with vol := v } s2 →
        Mounted [bridge.point] s s2 ∧ s.Settled s2 ∧ bridge ∈ s2.mounts ∧
          (Kernel.countAt bridge.point s.childPoints = 0 → Kernel.mountsAt bridge.point s2.mounts =
            bridge :: Kernel.mountsAt bridge.point s.mounts) := fun v s2 hm2 => by
      refine ⟨by simpa using (hm1.of_ite.trans (Mounted.setVol s1 _)).trans hm2,
        hk1.trans ((Mounted.setVol s1 v).settled.trans hm2.settled),
        hm2.mem (by simp [hmt1, hst1, bridge]), fun hk => ?_⟩
      rw [hm2.frame (by simp) (hk1.countAt_eq_zero hk)]
      simp only [hmt1, hst1, if_true, List.append_assoc, List.singleton_append,
        Kernel.mountsAt_append, Sys.mountsAt_tickMounts hk, List.nil_append]
      exact Kernel.mountsAt_cons_self rfl _
    have hrec := fun (c : Call) (st : Int) (s2 : Sys) => Mounted.record o c st s2
    have hrec2 := fun c st c' st' s2 => (hrec c st s2).trans (hrec c' st' _)
    by_cases hcb : s.vol.hasMountCallback
    · by_cases hready : o.ready s1.log.length
      · simp only [mountFuse, bind_apply, getVol_apply, mountUserFuse, h1, hst1, ne_eq,
          not_true_eq_false, if_false, pure_apply, modifyVol_apply, hv1, hcb, hready, if_true,
          onVolumeChecking, Bool.not_true, configureReadAheadForFuse, configureMaxDirtyRatioForFuse,
          invoke_apply]
        exact ⟨_, .inr ⟨by simp [hv1], hup _ _ ((hrec2 ..).trans (hrec ..)),
          .inr ⟨rfl, by simp [Sys.since, hl1, hst1]⟩⟩⟩
      · simp only [mountFuse, bind_apply, getVol_apply, mountUserFuse, h1, hst1, ne_eq,
          not_true_eq_false, if_false, pure_apply, modifyVol_apply, hv1, hcb, hready, if_true,
          onVolumeChecking, Bool.not_false]
        split
        · rename_i st2 s3 h3
          exact ⟨_, .inr ⟨by simp [hv1], hup _ _ (hrec _ _ _), .inl ⟨st2, s3, h3, _, by decide, rfl⟩⟩⟩
        · exact (doUnmount_ne_exit _ _ _ _ _ ‹_›).elim
        · exact (doUnmount_ne_hang _ _ _ ‹_›).elim
    · simp only [mountFuse, bind_apply, getVol_apply, mountUserFuse, h1, hst1, ne_eq,
        not_true_eq_false, if_false, pure_apply, modifyVol_apply, hv1, hcb, if_false,
        configureReadAheadForFuse, configureMaxDirtyRatioForFuse, invoke_apply]
      exact ⟨_, .inr ⟨by simp [hv1], hup _ _ (hrec2 ..), .inr ⟨rfl, by simp [Sys.since, hl1, hst1]⟩⟩⟩
  · obtain ⟨st2, s2, h2, -⟩ := doUnmount_spec o r s1
    refine ⟨s1, .inl ⟨hv1, by simpa [hst1] using hm1, st2, s2, h2, -st1,
      neg_ne_zero.mpr hst1, ?_⟩⟩
    simp [mountFuse, mountUserFuse, h1, hst1, h2]

theorem mountForApps_spec (o : Oracle) (r : Registry) (fuel : Nat) (isVisible : Bool)
    (name : String) (s : Sys) :
    mountForApps o r fuel isVisible name s = .hang ∨ ∃ s0, s0.vol = s.vol ∧
      Mounted (if s.vol.useSdcardFs then s.vol.sdcardFsViews else []) s s0 ∧
      ((∃ st, mountForApps o r fuel isVisible name s = .exit st s0 ∧
          (o.ErrnoSet → st = OK → isVisible = false)) ∨
        isVisible ∧ s.Settled s0 ∧ mountForApps o r fuel isVisible name s = mountFuse o r name s0) := by
  cases isVisible
  · exact .inr ⟨s, rfl, (Mounted.refl s).mono List.nil_subperm, .inl ⟨OK, rfl, fun _ _ => rfl⟩⟩
  by_cases hsd : s.vol.useSdcardFs
  · rcases spinUpSdcardFs_spec o fuel name s with h | ⟨s1, hv1, hm1, ⟨h1, hk1⟩ | ⟨st, h1, hst⟩⟩
    · exact .inl (by simp [mountForApps, hsd, h])
    · exact .inr ⟨s1, hv1, by simpa [hsd] using hm1,
        .inr ⟨rfl, hk1, by simp [mountForApps, hsd, h1]⟩⟩
    · exact .inr ⟨s1, hv1, by simpa [hsd] using hm1, .inl ⟨st, by simp [mountForApps, hsd, h1],
        fun hE hok => absurd hok (hst hE)⟩⟩
  · exact .inr ⟨s, rfl, by simpa [hsd] using Mounted.refl s,
      .inr ⟨rfl, Sys.Settled.refl s, by simp [mountForApps, hsd]⟩⟩

/-- The points the stages before the bridge may mount: the sdcardfs views, the ASEC bind and the
raw mount. -/
def stagePoints (v : PublicVolume) : List String :=
  (if v.useSdcardFs then v.sdcardFsViews else []) ++ [kAsecPath, v.rawPath]

/-- The record once `doMount` has read the metadata `md` and derived the paths from it. -/
def preparedVol (v : PublicVolume) (md : Metadata) : PublicVolume :=
  (withMetadata v md).setMountPaths (withMetadata v md).stableName v.isVisibleForWrite

@[simp] theorem identity_preparedVol (v : PublicVolume) (md : Metadata) :
    (preparedVol v md).identity = v.identity := rfl

/-- `mountStages` hangs in the poll loop, stops before the bridge having mounted only at the
stage points, or reaches `mountFuse` with the prepared record and its stable name and the raw
mount up. When every failed call sets `errno`, it stops with `OK` only for a volume apps cannot
see, with the raw mount up. -/
theorem mountStages_spec (o : Oracle) (r : Registry) (fuel : Nat) (s : Sys) :
    mountStages o r fuel s = .hang ∨ ∃ s0,
      ((∃ st, mountStages o r fuel s = .exit st s0 ∧
            (o.ErrnoSet → st = OK → s.vol.isVisibleForWrite = false ∧
              s0.vol.rawPath ∈ s0.mounts.map Mount.point)) ∧
          Mounted (stagePoints s0.vol) s s0 ∧
          (s0.vol = preparedVol s.vol (o.metadata s.log.length) ∨
            s0.vol = withMetadata s.vol (o.metadata s.log.length)) ∨
        s0.vol = preparedVol s.vol (o.metadata s.log.length) ∧
          Mounted (stagePoints s0.vol) s s0 ∧ s.Settled s0 ∧
          mountStages o r fuel s = mountFuse o r s0.vol.stableName s0 ∧
          s0.vol.rawPath ∈ s0.mounts.map Mount.point) := by
  obtain ⟨s1, h1, hv1, hm1⟩ := readMetadata_spec o s
  obtain ⟨s2, hv2, hm2, ⟨h2, hfs⟩ | h2⟩ := checkFilesystem_spec o s1
  · obtain ⟨s3, ⟨h3, hraw3⟩ | ⟨st, h3, hst3⟩, hv3, hm3, hk3⟩ :=
      mountRaw_spec o s.vol.isVisibleForWrite s2
    · have hm13 : Mounted [s3.vol.rawPath] s s3 := by simpa [hv3] using (hm1.trans hm2).trans hm3
      have hraw : s3.vol.rawPath ∈ s3.mounts.map Mount.point := by
        rw [hv3, setMountPaths_rawPath]
        exact hraw3 (by rwa [hv2])
      obtain ⟨s4, hrun, hv4, hm34, hk34⟩ : ∃ s4, mountStages o r fuel s =
          mountForApps o r fuel s.vol.isVisibleForWrite s2.vol.stableName s4 ∧ s4.vol = s3.vol ∧
          Mounted [kAsecPath] s3 s4 ∧ s3.Settled s4 := by
        by_cases hp : s3.vol.mountFlags.primary
        · obtain ⟨_, s4, h4, hv4, hm4, hk4⟩ := initAsecStage_spec o s3
          exact ⟨s4, by simp [mountStages, h1, h2, hv1, h3, hp, h4], hv4, hm4, hk4⟩
        · exact ⟨s3, by simp [mountStages, h1, h2, hv1, h3, hp], rfl,
            (Mounted.refl s3).mono List.nil_subperm, Sys.Settled.refl s3⟩
      have hm4 : Mounted [kAsecPath, s3.vol.rawPath] s s4 := hm13.trans hm34
      have hraw4 := hm34.point_mem hraw
      rcases mountForApps_spec o r fuel s.vol.isVisibleForWrite s2.vol.stableName s4 with
        h | ⟨s5, hv5, hm5, ⟨st, h5, hok5⟩ | ⟨-, hk5, h5⟩⟩
      · exact .inl (hrun ▸ h)
      · refine .inr ⟨s5, .inl ⟨⟨st, hrun ▸ h5, fun hE hok => ⟨hok5 hE hok, ?_⟩⟩,
          by simpa [stagePoints, hv5, hv4] using hm4.trans hm5,
          .inl (by rw [hv5, hv4, hv3, hv2, hv1]; rfl)⟩⟩
        rw [hv5, hv4]
        exact hm5.point_mem hraw4
      · refine .inr ⟨s5, .inr ⟨by rw [hv5, hv4, hv3, hv2, hv1]; rfl,
          by simpa [stagePoints, hv5, hv4] using hm4.trans hm5,
          ((hm1.trans hm2).settled.trans hk3).trans (hk34.trans hk5), ?_, ?_⟩⟩
        · rw [hrun, h5, hv5, hv4, hv3, setMountPaths_stableName]
        · rw [hv5, hv4]
          exact hm5.point_mem hraw4
    · exact .inr ⟨s3, .inl ⟨⟨st, by simp [mountStages, h1, h2, hv1, h3],
        fun hE hok => absurd hok (hst3 hE)⟩,
        ((hm1.trans hm2).trans hm3).mono (List.Sublist.subperm (by simp [stagePoints, hv3])),
        .inl (by rw [hv3, hv2, hv1]; rfl)⟩⟩
  · exact .inr ⟨s2, .inl ⟨⟨- EIO, by simp [mountStages, h1, h2], fun _ hok => absurd hok (by decide)⟩,
      (hm1.trans hm2).mono List.nil_subperm, .inr (by rw [hv2, hv1])⟩⟩

/-- Whether the fan-out binds the volume into `u`: a user other than the owner that shares the
owner's storage. -/
def BindsInto (r : Registry) (owner u : UserId) : Prop :=
  u ≠ owner ∧ r.sharedStorageUser u = owner

instance (r : Registry) (owner u : UserId) : Decidable (BindsInto r owner u) :=
  inferInstanceAs (Decidable (_ ∧ _))

/-- The calls one fan-out step makes for user `u`: its mount directory, its bridge path, and the
bind of the owner's bridge onto it. -/
def bindCalls (v : PublicVolume) (u : UserId) : List Call :=
  [.prepareMountDirForUser u, .prepareDir (getFuseMountPathForUser u v.stableName),
    .bindMount v.bridgePath (getFuseMountPathForUser u v.stableName)]

/-- The fan-out makes exactly the calls of `bindCalls` for the users it binds into, in order, and
mounts at most their bridge paths. -/
theorem bindForStartedUsers_spec (o : Oracle) (r : Registry) (users : List UserId) (s : Sys) :
    ∃ s1, bindForStartedUsers o r users s = .next () s1 ∧ s1.vol = s.vol ∧
      (s.since s1).map Event.call =
        (users.filter (BindsInto r s.vol.mountUserId ·)).flatMap (bindCalls s.vol) ∧
      Mounted ((users.filter (BindsInto r s.vol.mountUserId ·)).map
        (getFuseMountPathForUser · s.vol.stableName)).reverse s s1 := by
  induction users generalizing s with
  | nil => exact ⟨s, rfl, rfl, by simp [Sys.since], by simpa using Mounted.refl s⟩
  | cons u rest ih =>
      by_cases hb : BindsInto r s.vol.mountUserId u
      · obtain ⟨_, s1, h1, hv1, hl1, -, -, -⟩ := invoke_spec o (.prepareMountDirForUser u) s
        obtain ⟨_, s2, h2, hv2, hl2, hm2⟩ := bindMountForUser_spec o u s1
        obtain ⟨s3, h3, hv3, hc3, hm3⟩ := ih s2
        refine ⟨s3, ?_, by rw [hv3, hv2, hv1], ?_, ?_⟩
        · simp [bindForStartedUsers, hb.1, hb.2, prepareMountDirForUser, h1, hv1, h2, hv2, h3]
        · rw [hl1, List.append_assoc] at hl2
          rw [Sys.since_trans ⟨_, hl2.symm⟩ hm3.log, Sys.since_append _ hl2, List.map_append, hc3, hv2,
            hv1]
          simp [hb, bindCalls, bridgePath]
        · simpa [hb, hv2, hv1] using ((Mounted.of_invoke h1).trans hm2).trans hm3
      · obtain ⟨s1, h1, hv1, hc1, hm1⟩ := ih s
        refine ⟨s1, ?_, hv1, by simpa [hb] using hc1, by simpa [hb] using hm1⟩
        by_cases hu : u = s.vol.mountUserId
        · simp [bindForStartedUsers, hu, h1]
        · have hs : ¬s.vol.mountUserId = r.sharedStorageUser u := fun h => hb ⟨hu, h.symm⟩
          simp [bindForStartedUsers, hu, hs, h1]

end PublicVolume

end Vold
