import Vold.Coldboot
import Vold.Volume

/-!
# The daemon's start-up world

`main` brings `vold` up. It reads its arguments and opens the SELinux file contexts. It creates
the volume and netlink managers and reads the fstab. Then it starts the binder service and the
netlink listener, advertises what the fstab supports as system properties, and replays the
block devices' uevents with `coldboot`.

The world's answers are fixed for the run. Each call site of `main` runs at most once. The
system properties `vold` reads are ones it never writes. `fs_mgr_update_logical_partition`
looks a partition up by its name. Each call is appended to a log, and statements about the
order of the start-up read that log.
-/

namespace Vold

/-- The `fs_mgr_flags` of an fstab entry that `process_config` reads. -/
structure FsMgrFlags where
  quota : Bool
  fsCompress : Bool
  logical : Bool
  noFail : Bool
  voldManaged : Bool
  nonremovable : Bool
  noEmulatedSd : Bool
  deriving DecidableEq, Repr

/-- The fields of an `FstabEntry` that `process_config` reads or writes. -/
structure FstabEntry where
  blkDevice : String
  mountPoint : String
  label : String
  metadataKeyDir : String
  reservedSize : Int
  fsMgrFlags : FsMgrFlags
  deriving DecidableEq, Repr

/-- `struct vold_configs`. -/
structure VoldConfigs where
  hasAdoptable : Bool
  hasQuota : Bool
  hasReserved : Bool
  hasCompress : Bool
  deriving DecidableEq, Repr

/-- `VoldConfigs configs = {};` -/
def VoldConfigs.empty : VoldConfigs := ⟨false, false, false, false⟩

/-- `Disk::Flags::kDefaultPrimary`, `1 << 1` in `model/Disk.h`. -/
def kDefaultPrimary : Nat := 2

/-- `VolumeManager::DiskSource(sysPattern, nickname, flags)`. -/
structure DiskSource where
  sysPattern : String
  nickname : String
  flags : Nat
  deriving DecidableEq, Repr

/-- The four SELinux contexts of `Utils.h` that `parse_args` sets, `nullptr` until then. -/
structure Contexts where
  sBlkidContext : Option String
  sBlkidUntrustedContext : Option String
  sFsckContext : Option String
  sFsckUntrustedContext : Option String
  deriving DecidableEq, Repr

/-- Every external call of the start-up, with its arguments. -/
inductive BootCall where
  | selinuxAndroidFileContextHandle
  | selinuxAndroidSetSehandle
  | mkdir (path : String) (mode : Nat)
  | klogSetLevel (level : Nat)
  | volumeManagerInstance
  | netlinkManagerInstance
  | getBoolProperty (key : String)
  | setDebug (enable : Bool)
  | volumeManagerStart
  | readDefaultFstab
  | fsMgrUpdateLogicalPartition (blkDevice : String)
  | defaultkeyPrecreateDmDevice
  | addDiskSource (source : DiskSource)
  | configureRpcThreadpool (maxThreads : Nat) (callerWillJoin : Bool)
  | voldNativeServiceStart
  | netlinkManagerStart
  | setProperty (key value : String)
  | writeUevent (dir : Nat)
  | joinThreadPool
  deriving DecidableEq, Repr

/-- The world's answers to the start-up. `getopt` is what `getopt_long` returns for `argv`
until it returns `-1`: each option's value and its `optarg`. `property` is what
`GetBoolProperty(key, false)` reads. `logicalPartition` is the device `fs_mgr` finds for a
logical partition, if any. `sysfs` is the file system `coldboot` walks. -/
structure BootOracle where
  getopt : List (Char × String)
  sehandle : Bool
  volumeManager : Bool
  netlinkManager : Bool
  property : String → Bool
  volumeManagerStart : Int
  fstab : Option (List FstabEntry)
  logicalPartition : String → Option String
  voldNativeServiceStart : Int
  netlinkManagerStart : Int
  sysfs : Dirs
  joinThreadPoolReturns : Bool

/-- What the start-up has done so far: the contexts, the global `fstab_default`, the volume
manager's disk sources and debug flag, and the calls made. -/
structure Boot where
  contexts : Contexts
  fstabDefault : List FstabEntry
  diskSources : List DiskSource
  debug : Bool
  log : List BootCall

namespace Boot

/-- The state `main` starts in. -/
def initial : Boot := ⟨⟨none, none, none, none⟩, [], [], false, []⟩

/-- Log call `c`. -/
def record (c : BootCall) (b : Boot) : Boot := { b with log := b.log ++ [c] }

@[simp] theorem record_contexts (c : BootCall) (b : Boot) :
    (b.record c).contexts = b.contexts := rfl

@[simp] theorem record_fstabDefault (c : BootCall) (b : Boot) :
    (b.record c).fstabDefault = b.fstabDefault := rfl

@[simp] theorem record_diskSources (c : BootCall) (b : Boot) :
    (b.record c).diskSources = b.diskSources := rfl

@[simp] theorem record_debug (c : BootCall) (b : Boot) : (b.record c).debug = b.debug := rfl

@[simp] theorem record_log (c : BootCall) (b : Boot) : (b.record c).log = b.log ++ [c] := rfl

end Boot

/-- How a piece of the start-up ends: it falls through, calls `exit(code)`, aborts in a
`CHECK` or a `LOG(FATAL)`, stays in `joinThreadPool` serving binder calls, or runs out of the
fuel given to `coldboot`. -/
inductive BootOutcome (α : Type) where
  | next (a : α) (b : Boot)
  | exit (code : Int) (b : Boot)
  | abort (b : Boot)
  | serve (b : Boot)
  | hang

/-- The start-up's state where a run stops, unless the fuel ran out. -/
def BootOutcome.state? : BootOutcome α → Option Boot
  | .next _ b => some b
  | .exit _ b => some b
  | .abort b => some b
  | .serve b => some b
  | .hang => none

/-- Model code of the start-up. -/
def BootM (α : Type) : Type := Boot → BootOutcome α

namespace BootM

instance : Monad BootM where
  pure a b := .next a b
  bind m f b := match m b with
    | .next a b' => f a b'
    | .exit c b' => .exit c b'
    | .abort b' => .abort b'
    | .serve b' => .serve b'
    | .hang => .hang

/-- `exit(code)`. -/
def exit (code : Int) : BootM α := fun b => .exit code b

/-- `CHECK(cond)`, and the `PLOG(FATAL)` guarded by `!cond`: abort unless `cond`. -/
def check (cond : Bool) : BootM Unit := fun b => if cond then .next () b else .abort b

/-- A call answering `a`. -/
def call (c : BootCall) (a : α) : BootM α := fun b => .next a (b.record c)

@[simp] theorem pure_apply (a : α) (b : Boot) : (pure a : BootM α) b = .next a b := rfl

@[simp] theorem bind_apply (m : BootM α) (f : α → BootM β) (b : Boot) :
    (m >>= f) b = match m b with
      | .next a b' => f a b'
      | .exit c b' => .exit c b'
      | .abort b' => .abort b'
      | .serve b' => .serve b'
      | .hang => .hang := rfl

@[simp] theorem exit_apply (code : Int) (b : Boot) : (exit code : BootM α) b = .exit code b :=
  rfl

@[simp] theorem check_apply (cond : Bool) (b : Boot) :
    check cond b = if cond then .next () b else .abort b := rfl

@[simp] theorem call_apply (c : BootCall) (a : α) (b : Boot) :
    call c a b = .next a (b.record c) := rfl

theorem bind_of_next {m : BootM α} {f : α → BootM β} {b b' : Boot} {a : α}
    (h : m b = .next a b') : (m >>= f) b = f a b' := by
  simp [h]

theorem bind_of_exit {m : BootM α} {f : α → BootM β} {b b' : Boot} {c : Int}
    (h : m b = .exit c b') : (m >>= f) b = .exit c b' := by
  simp [h]

theorem bind_of_abort {m : BootM α} {f : α → BootM β} {b b' : Boot}
    (h : m b = .abort b') : (m >>= f) b = .abort b' := by
  simp [h]

end BootM

end Vold
