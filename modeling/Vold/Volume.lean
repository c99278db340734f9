import Mathlib.Data.List.Sort

/-!
# Public volumes and the names they derive

The record a `PublicVolume` keeps and the paths it computes from its stable name. The
fields of `VolumeBase` that the public volume reads through getters (`getId`,
`getMountFlags`, `getMountUserId`, `getPath`, `getInternalPath`, `getMountCallback`)
are fields of the same record.

Paths are strings exactly as the source formats them. Which mount point a path names is
the kernel's business: `Vold.Kernel` resolves it.
-/

namespace Vold

/-- `status_t`: `OK` is zero, failures are negative `errno` values. -/
abbrev Status := Int

def OK : Status := 0

@[simp] theorem ok_eq_zero : OK = 0 := rfl

def EIO : Int := 5

def EEXIST : Int := 17

def EINVAL : Int := 22

def ETIMEDOUT : Int := 110

/-- `userid_t`. -/
abbrev UserId := Nat

/-- A `dev_t`, through the `major` and `minor` numbers the constructor prints. -/
structure Device where
  major : UInt32
  minor : UInt32
  deriving DecidableEq, Repr

/-- The two bits of `VolumeBase::MountFlags` the public volume tests. -/
structure MountFlags where
  primary : Bool
  visibleForWrite : Bool
  deriving DecidableEq, Repr

/-- Modelled from the spec: `GetFuseMountPathForUser` is declared in `Utils.h` without its
body; the bridge of user `u` for the name `name` lives at `/mnt/user/<u>/<name>`. -/
def getFuseMountPathForUser (u : UserId) (name : String) : String :=
  "/mnt/user/" ++ toString u ++ "/" ++ name

/-- The state of one `PublicVolume` object. -/
structure PublicVolume where
  id : String
  device : Device
  devPath : String
  fsType : String
  fsUuid : String
  fsLabel : String
  rawPath : String
  sdcardFsDefault : String
  sdcardFsRead : String
  sdcardFsWrite : String
  sdcardFsFull : String
  fuseMounted : Bool
  useSdcardFs : Bool
  path : String
  internalPath : String
  mountFlags : MountFlags
  mountUserId : UserId
  hasMountCallback : Bool
  deriving DecidableEq, Repr

namespace PublicVolume

def kSdcardFsPath : String := "/system/bin/sdcard"

def kAsecPath : String := "/mnt/secure/asec"

/-- `StringPrintf("public:%u,%u", major(device), minor(device))`. -/
def publicId (d : Device) : String :=
  "public:" ++ toString d.major ++ "," ++ toString d.minor

/-- `USER_UNKNOWN`, the mount user of a fresh `VolumeBase`. -/
def userUnknown : UserId := 4294967295

/-- The constructor; `sdcardfsUsed` is what `IsSdcardfsUsed()` answers. The other fields
take the defaults of `VolumeBase`. -/
def create (device : Device) (sdcardfsUsed : Bool) : PublicVolume where
  id := publicId device
  device := device
  devPath := "/dev/block/vold/" ++ publicId device
  fsType := ""
  fsUuid := ""
  fsLabel := ""
  rawPath := ""
  sdcardFsDefault := ""
  sdcardFsRead := ""
  sdcardFsWrite := ""
  sdcardFsFull := ""
  fuseMounted := false
  useSdcardFs := sdcardfsUsed
  path := ""
  internalPath := ""
  mountFlags := ⟨false, false⟩
  mountUserId := userUnknown
  hasMountCallback := false

def isVisibleForWrite (v : PublicVolume) : Bool := v.mountFlags.visibleForWrite

/-- The name `doMount`, `bindMountForUser` and `doUnmount` each compute: the filesystem UUID
if there is one, else the volume id. -/
def stableName (v : PublicVolume) : String :=
  if v.fsUuid = "" then v.id else v.fsUuid

def rawPathFor (name : String) : String := "/mnt/media_rw/" ++ name

def sdcardFsDefaultFor (name : String) : String := "/mnt/runtime/default/" ++ name

def sdcardFsReadFor (name : String) : String := "/mnt/runtime/read/" ++ name

def sdcardFsWriteFor (name : String) : String := "/mnt/runtime/write/" ++ name

def sdcardFsFullFor (name : String) : String := "/mnt/runtime/full/" ++ name

/-- Lines 434-446 of `doMount`: the mount paths, the internal path and the public path. -/
def setMountPaths (v : PublicVolume) (name : String) (isVisible : Bool) : PublicVolume :=
  { v with
    rawPath := rawPathFor name
    sdcardFsDefault := sdcardFsDefaultFor name
    sdcardFsRead := sdcardFsReadFor name
    sdcardFsWrite := sdcardFsWriteFor name
    sdcardFsFull := sdcardFsFullFor name
    internalPath := rawPathFor name
    path := if isVisible then "/storage/" ++ name else rawPathFor name }

/-- The four sdcardfs views in the order the sdcard daemon mounts them. -/
def sdcardFsViews (v : PublicVolume) : List String :=
  [v.sdcardFsDefault, v.sdcardFsRead, v.sdcardFsWrite, v.sdcardFsFull]

/-- Where this volume's owner sees the FUSE bridge. -/
def bridgePath (v : PublicVolume) : String :=
  getFuseMountPathForUser v.mountUserId v.stableName

/-- The fields no call of the public volume writes: what it is (`mId`, `mDevice`, `mDevPath`)
and what was set up before its calls (`mUseSdcardFs`, the mount flags, the mount user, the
mount callback). -/
structure Identity where
  id : String
  device : Device
  devPath : String
  useSdcardFs : Bool
  mountFlags : MountFlags
  mountUserId : UserId
  hasMountCallback : Bool
  deriving DecidableEq, Repr

def identity (v : PublicVolume) : Identity :=
  ⟨v.id, v.device, v.devPath, v.useSdcardFs, v.mountFlags, v.mountUserId, v.hasMountCallback⟩

@[simp] theorem identity_with_fuseMounted (v : PublicVolume) (b : Bool) :
    ({ v with fuseMounted := b } : PublicVolume).identity = v.identity := rfl

@[simp] theorem identity_setMountPaths (v : PublicVolume) (n : String) (b : Bool) :
    (v.setMountPaths n b).identity = v.identity := rfl

@[simp] theorem stableName_with_fuseMounted (v : PublicVolume) (b : Bool) :
    ({ v with fuseMounted := b } : PublicVolume).stableName = v.stableName := rfl

@[simp] theorem bridgePath_with_fuseMounted (v : PublicVolume) (b : Bool) :
    ({ v with fuseMounted := b } : PublicVolume).bridgePath = v.bridgePath := rfl

@[simp] theorem setMountPaths_id (v : PublicVolume) (n : String) (b : Bool) :
    (v.setMountPaths n b).id = v.id := rfl

@[simp] theorem setMountPaths_fsType (v : PublicVolume) (n : String) (b : Bool) :
    (v.setMountPaths n b).fsType = v.fsType := rfl

@[simp] theorem setMountPaths_devPath (v : PublicVolume) (n : String) (b : Bool) :
    (v.setMountPaths n b).devPath = v.devPath := rfl

@[simp] theorem setMountPaths_fsUuid (v : PublicVolume) (n : String) (b : Bool) :
    (v.setMountPaths n b).fsUuid = v.fsUuid := rfl

@[simp] theorem setMountPaths_rawPath (v : PublicVolume) (n : String) (b : Bool) :
    (v.setMountPaths n b).rawPath = rawPathFor n := rfl

@[simp] theorem setMountPaths_fuseMounted (v : PublicVolume) (n : String) (b : Bool) :
    (v.setMountPaths n b).fuseMounted = v.fuseMounted := rfl

@[simp] theorem setMountPaths_useSdcardFs (v : PublicVolume) (n : String) (b : Bool) :
    (v.setMountPaths n b).useSdcardFs = v.useSdcardFs := rfl

@[simp] theorem setMountPaths_mountFlags (v : PublicVolume) (n : String) (b : Bool) :
    (v.setMountPaths n b).mountFlags = v.mountFlags := rfl

@[simp] theorem setMountPaths_mountUserId (v : PublicVolume) (n : String) (b : Bool) :
    (v.setMountPaths n b).mountUserId = v.mountUserId := rfl

@[simp] theorem setMountPaths_stableName (v : PublicVolume) (n : String) (b : Bool) :
    (v.setMountPaths n b).stableName = v.stableName := rfl

@[simp] theorem setMountPaths_sdcardFsViews (v : PublicVolume) (n : String) (b : Bool) :
    (v.setMountPaths n b).sdcardFsViews =
      [sdcardFsDefaultFor n, sdcardFsReadFor n, sdcardFsWriteFor n, sdcardFsFullFor n] := rfl

end PublicVolume

/-- The `std::set<userid_t>` of started users, which iterates in ascending order. -/
structure UserSet where
  users : List UserId
  ascending : users.Sorted (· < ·)

/-- What `VolumeManager` answers during one call: the started users and, for each user,
the user whose storage it shares. -/
structure Registry where
  startedUsers : UserSet
  sharedStorageUser : UserId → UserId

end Vold
