import Vold.Kernel

/-!
# Calls into the world

Everything the public volume asks of the system goes through one of the calls below.
Their answers come from an oracle indexed by the number of the call, so that every
combination of answers over a run is one oracle. Each call is appended to a log,
which is what statements about the calls made, their order and their arguments read.

Model code runs in `Proc`, a state monad over `Sys` whose computations either fall
through to the next statement, stop at a `return` of the source (`exit`), or run out
of the fuel given to the one unbounded loop of the source (`hang`).
-/

namespace Vold

/-- The filesystem adapters of `fs/Vfat` and `fs/Exfat`. -/
inductive Fs where
  | vfat
  | exfat
  deriving DecidableEq, Repr

/-- Every external call the modelled code makes, with its arguments. -/
inductive Call where
  | createDeviceNode (path : String)
  | destroyDeviceNode (path : String)
  | readMetadataUntrusted (path : String)
  | check (fs : Fs) (dev : String)
  | fsPrepareDir (path : String)
  | mount (fs : Fs) (dev path : String) (gid : Nat)
  | access (path : String)
  | rename (src dst : String)
  | mkdir (path : String)
  | bindMount (src dst : String)
  | getDevice (path : String)
  | fork (argv : List String)
  | usleep
  | systemTime
  | waitpid
  | mountUserFuse (user : UserId) (lower name : String)
  | onVolumeChecking (path internalPath : String)
  | configureReadAheadForFuse (path : String) (kb : Nat)
  | configureMaxDirtyRatioForFuse (path : String) (ratio : Nat)
  | prepareMountDirForUser (user : UserId)
  | prepareDir (path : String)
  | killProcessesUsingPath (path : String)
  | forceUnmount (path : String)
  | umount2Detach (path : String)
  | rmdir (path : String)
  | unmountUserFuse (user : UserId) (lower name : String)
  | getBlockDevSize (path : String)
  | wipeBlockDevice (path : String)
  | format (fs : Fs) (dev : String)
  deriving DecidableEq, Repr

/-- A logged call and the status it returned to the code (`0` for calls that return a value
other than a status). -/
structure Event where
  call : Call
  status : Int
  deriving DecidableEq, Repr

/-- What `ReadMetadataUntrusted` writes through its three out parameters. -/
structure Metadata where
  fsType : String
  fsUuid : String
  fsLabel : String
  deriving DecidableEq, Repr

/-- The world's answers. Call number `n` reads the fields at `n`; `vfatSupported` and
`exfatSupported` are what `IsSupported()` of each adapter answers. -/
structure Oracle where
  vfatSupported : Bool
  exfatSupported : Bool
  status : Nat → Int
  errno : Nat → Int
  metadata : Nat → Metadata
  ready : Nat → Bool
  size : Nat → UInt64
  device : Nat → Nat
  clock : Nat → Int
  /-- After call `n`, the sdcard daemon forked by call `f` mounts the next `daemon n f` of the
  views it has still to mount. -/
  daemon : Nat → Nat → Nat

/-- Both adapters supported, every probe reads `md`, and every call succeeds except those
numbered in `ks`, which return `-1` and leave `errno = err`. Devices are numbered by the call
that reads them, the clock stands still, and an sdcard daemon mounts its views at once. -/
def Oracle.failingAt (md : Metadata) (ks : List Nat) (err : Int) : Oracle where
  vfatSupported := true
  exfatSupported := true
  status n := if n ∈ ks then -1 else 0
  errno n := if n ∈ ks then err else 0
  metadata _ := md
  ready _ := true
  size _ := 0
  device n := n
  clock _ := 0
  daemon _ _ := 4

/-- Every call that fails leaves a nonzero `errno`, as the calls whose failure `doMount` reports
as `-errno` promise. -/
def Oracle.ErrnoSet (o : Oracle) : Prop := ∀ n, o.status n ≠ 0 → o.errno n ≠ 0

theorem Oracle.errnoSet_failingAt (md : Metadata) (ks : List Nat) {err : Int} (h : err ≠ 0) :
    (Oracle.failingAt md ks err).ErrnoSet := fun n hn => by
  simp only [Oracle.failingAt] at hn ⊢
  split_ifs at hn ⊢ with hk
  · exact h
  · exact absurd rfl hn

/-- An sdcard daemon `doMount` forked and has not reaped: the volume that forked it, the call
that forked it, and the views it has still to mount, in the order it mounts them. -/
structure SdcardChild where
  owner : String
  forkedAt : Nat
  pending : List String
  deriving DecidableEq, Repr

namespace SdcardChild

/-- What the daemon mounts right after call `n`, most recent first. -/
def mounted (o : Oracle) (n : Nat) (c : SdcardChild) : List Mount :=
  ((c.pending.take (o.daemon n c.forkedAt)).map fun p => ⟨p, c.owner, n⟩).reverse

/-- The daemon once it has made those mounts. -/
def advance (o : Oracle) (n : Nat) (c : SdcardChild) : SdcardChild :=
  { c with pending := c.pending.drop (o.daemon n c.forkedAt) }

/-- Each view the daemon had to mount is either mounted now or still to mount. -/
theorem countAt_mounted (o : Oracle) (n : Nat) (c : SdcardChild) (q : String) :
    Kernel.countAt q ((c.mounted o n).map Mount.point) + Kernel.countAt q (c.advance o n).pending =
      Kernel.countAt q c.pending := by
  have hp : ((c.mounted o n).map Mount.point) = (c.pending.take (o.daemon n c.forkedAt)).reverse := by
    simp [mounted, List.map_reverse, Function.comp_def]
  rw [hp, Kernel.countAt_reverse, advance, ← Kernel.countAt_append, List.take_append_drop]

end SdcardChild

/-- One volume, the kernel's mount table, `errno`, the calls made so far, and the sdcard
daemons forked and not reaped, oldest first. -/
structure Sys where
  vol : PublicVolume
  mounts : List Mount
  errno : Int
  log : List Event
  children : List SdcardChild

namespace Sys

/-- The views the running sdcard daemons have still to mount. -/
def childPoints (s : Sys) : List String := s.children.flatMap (·.pending)

/-- The mounts the running sdcard daemons make right after the call about to be logged. -/
def tickMounts (o : Oracle) (s : Sys) : List Mount :=
  s.children.flatMap (·.mounted o s.log.length)

/-- Log call `c` returning `st`; `errno` is whatever the world leaves after this call. Before
the next call, each running sdcard daemon mounts as many more of its views as the world lets
it. -/
def record (o : Oracle) (c : Call) (st : Int) (s : Sys) : Sys :=
  { s with
    errno := o.errno s.log.length
    log := s.log ++ [⟨c, st⟩]
    mounts := s.tickMounts o ++ s.mounts
    children := s.children.map (·.advance o s.log.length) }

/-- A mount made at `point` by the call about to be logged. -/
def push (point : String) (s : Sys) : Sys :=
  { s with mounts := ⟨point, s.vol.id, s.log.length⟩ :: s.mounts }

/-- The most recent mount at `point` goes away. -/
def pop (point : String) (s : Sys) : Sys :=
  { s with mounts := Kernel.unmountTop point s.mounts }

@[simp] theorem record_vol (o : Oracle) (c : Call) (st : Int) (s : Sys) :
    (s.record o c st).vol = s.vol := rfl

@[simp] theorem record_mounts (o : Oracle) (c : Call) (st : Int) (s : Sys) :
    (s.record o c st).mounts = s.tickMounts o ++ s.mounts := rfl

@[simp] theorem record_children (o : Oracle) (c : Call) (st : Int) (s : Sys) :
    (s.record o c st).children = s.children.map (·.advance o s.log.length) := rfl

@[simp] theorem record_log (o : Oracle) (c : Call) (st : Int) (s : Sys) :
    (s.record o c st).log = s.log ++ [⟨c, st⟩] := rfl

@[simp] theorem record_errno (o : Oracle) (c : Call) (st : Int) (s : Sys) :
    (s.record o c st).errno = o.errno s.log.length := rfl

@[simp] theorem push_vol (p : String) (s : Sys) : (s.push p).vol = s.vol := rfl

@[simp] theorem push_mounts (p : String) (s : Sys) :
    (s.push p).mounts = ⟨p, s.vol.id, s.log.length⟩ :: s.mounts := rfl

@[simp] theorem push_log (p : String) (s : Sys) : (s.push p).log = s.log := rfl

@[simp] theorem pop_vol (p : String) (s : Sys) : (s.pop p).vol = s.vol := rfl

@[simp] theorem pop_mounts (p : String) (s : Sys) :
    (s.pop p).mounts = Kernel.unmountTop p s.mounts := rfl

@[simp] theorem pop_log (p : String) (s : Sys) : (s.pop p).log = s.log := rfl

@[simp] theorem push_children (p : String) (s : Sys) : (s.push p).children = s.children := rfl

@[simp] theorem pop_children (p : String) (s : Sys) : (s.pop p).children = s.children := rfl

@[simp] theorem tickMounts_push (o : Oracle) (p : String) (s : Sys) :
    (s.push p).tickMounts o = s.tickMounts o := rfl

@[simp] theorem tickMounts_pop (o : Oracle) (p : String) (s : Sys) :
    (s.pop p).tickMounts o = s.tickMounts o := rfl

@[simp] theorem tickMounts_of_nil {o : Oracle} {s : Sys} (h : s.children = []) :
    s.tickMounts o = [] := by
  simp [tickMounts, h]

@[simp] theorem childPoints_record (o : Oracle) (c : Call) (st : Int) (s : Sys) :
    (s.record o c st).childPoints = (s.children.map (·.advance o s.log.length)).flatMap (·.pending) :=
  rfl

/-- After a call, each view a running daemon had to mount is either mounted or still to mount. -/
theorem countAt_tickMounts (o : Oracle) (c : Call) (st : Int) (s : Sys) (q : String) :
    Kernel.countAt q ((s.tickMounts o).map Mount.point) +
        Kernel.countAt q (s.record o c st).childPoints = Kernel.countAt q s.childPoints := by
  rw [childPoints_record, tickMounts, childPoints]
  induction s.children with
  | nil => rfl
  | cons ch cs ih =>
      simp only [List.flatMap_cons, List.map_cons, List.map_append, Kernel.countAt_append] at ih ⊢
      have := ch.countAt_mounted o s.log.length q
      omega

/-- The views the daemons forked before the newest one have still to mount. -/
def olderPoints (s : Sys) : List String := s.children.dropLast.flatMap (·.pending)

theorem countAt_advance_le (o : Oracle) (n : Nat) (cs : List SdcardChild) (q : String) :
    Kernel.countAt q ((cs.map (·.advance o n)).flatMap (·.pending)) ≤
      Kernel.countAt q (cs.flatMap (·.pending)) := by
  induction cs with
  | nil => exact le_rfl
  | cons c cs ih =>
      have := c.countAt_mounted o n q
      simp only [List.map_cons, List.flatMap_cons, Kernel.countAt_append]
      omega

theorem countAt_olderPoints_record (o : Oracle) (c : Call) (st : Int) (s : Sys) (q : String) :
    Kernel.countAt q (s.record o c st).olderPoints ≤ Kernel.countAt q s.olderPoints := by
  simpa [olderPoints, ← List.map_dropLast] using
    countAt_advance_le o s.log.length s.children.dropLast q

theorem stamp_of_mem_tickMounts {o : Oracle} {s : Sys} {m : Mount} (h : m ∈ s.tickMounts o) :
    m.stamp = s.log.length := by
  simp only [tickMounts, List.mem_flatMap, SdcardChild.mounted, List.mem_reverse, List.mem_map] at h
  obtain ⟨_, -, _, -, rfl⟩ := h
  rfl

end Sys

/-- How a piece of model code ends. -/
inductive Outcome (α : Type) where
  | next (a : α) (s : Sys)
  | exit (st : Status) (s : Sys)
  | hang

namespace Outcome

/-- The run returned, with a value and a final state satisfying `p`. -/
def returns (p : α → Sys → Prop) [∀ a s, Decidable (p a s)] : Outcome α → Bool
  | .next a s => decide (p a s)
  | _ => false

theorem exists_of_returns {p : α → Sys → Prop} [∀ a s, Decidable (p a s)] {o : Outcome α}
    (h : o.returns p = true) : ∃ a s, o = .next a s ∧ p a s := by
  cases o with
  | next a s => exact ⟨a, s, rfl, of_decide_eq_true h⟩
  | exit => cases h
  | hang => cases h

end Outcome

/-- Model code over the system state. -/
def Proc (α : Type) : Type := Sys → Outcome α

namespace Proc

instance : Monad Proc where
  pure a s := .next a s
  bind m f s := match m s with
    | .next a s' => f a s'
    | .exit st s' => .exit st s'
    | .hang => .hang

/-- A `return st;` of the source, leaving the current function. -/
def exit (st : Status) : Proc α := fun s => .exit st s

/-- Poll fuel ran out: the model gives no result. -/
def hang : Proc α := fun _ => .hang

/-- A source function: its `return`s become its result. -/
def body (m : Proc Status) : Proc Status := fun s =>
  match m s with
  | .next a s' => .next a s'
  | .exit st s' => .next st s'
  | .hang => .hang

@[simp] theorem pure_apply (a : α) (s : Sys) : (pure a : Proc α) s = .next a s := rfl

@[simp] theorem bind_apply (m : Proc α) (f : α → Proc β) (s : Sys) :
    (m >>= f) s = match m s with
      | .next a s' => f a s'
      | .exit st s' => .exit st s'
      | .hang => .hang := rfl

@[simp] theorem exit_apply (st : Status) (s : Sys) : (exit st : Proc α) s = .exit st s := rfl

@[simp] theorem hang_apply (s : Sys) : (hang : Proc α) s = .hang := rfl

@[simp] theorem body_apply (m : Proc Status) (s : Sys) :
    body m s = match m s with
      | .next a s' => .next a s'
      | .exit st s' => .next st s'
      | .hang => .hang := rfl

end Proc

open Proc

def getVol : Proc PublicVolume := fun s => .next s.vol s

def modifyVol (f : PublicVolume → PublicVolume) : Proc Unit := fun s =>
  .next () { s with vol := f s.vol }

def getErrno : Proc Int := fun s => .next s.errno s

@[simp] theorem getVol_apply (s : Sys) : getVol s = .next s.vol s := rfl

@[simp] theorem modifyVol_apply (f : PublicVolume → PublicVolume) (s : Sys) :
    modifyVol f s = .next () { s with vol := f s.vol } := rfl

@[simp] theorem getErrno_apply (s : Sys) : getErrno s = .next s.errno s := rfl

/-- A call whose only result is the status the world returns. -/
def invoke (o : Oracle) (c : Call) : Proc Int := fun s =>
  .next (o.status s.log.length) (s.record o c (o.status s.log.length))

/-- A call that mounts at `point` when it succeeds. -/
def invokeMount (o : Oracle) (c : Call) (point : String) : Proc Int := fun s =>
  let st := o.status s.log.length
  .next st ((if st = 0 then s.push point else s).record o c st)

/-- An unmount of `point`. With nothing mounted there it returns `idle` and changes nothing;
otherwise the world decides, and on success the most recent mount at `point` goes. -/
def invokeUnmount (o : Oracle) (c : Call) (point : String) (idle : Int) : Proc Int := fun s =>
  if Kernel.isMounted point s.mounts then
    let st := o.status s.log.length
    .next st ((if st = 0 then s.pop point else s).record o c st)
  else .next idle (s.record o c idle)

theorem invoke_apply (o : Oracle) (c : Call) (s : Sys) :
    invoke o c s = .next (o.status s.log.length) (s.record o c (o.status s.log.length)) := rfl

theorem invokeMount_apply (o : Oracle) (c : Call) (p : String) (s : Sys) :
    invokeMount o c p s = .next (o.status s.log.length)
      ((if o.status s.log.length = 0 then s.push p else s).record o c (o.status s.log.length)) :=
  rfl

theorem invokeUnmount_apply (o : Oracle) (c : Call) (p : String) (idle : Int) (s : Sys) :
    invokeUnmount o c p idle s =
      if Kernel.isMounted p s.mounts then
        .next (o.status s.log.length)
          ((if o.status s.log.length = 0 then s.pop p else s).record o c (o.status s.log.length))
      else .next idle (s.record o c idle) := rfl

def createDeviceNode (o : Oracle) (path : String) : Proc Int := invoke o (.createDeviceNode path)

def destroyDeviceNode (o : Oracle) (path : String) : Proc Int :=
  invoke o (.destroyDeviceNode path)

/-- Modelled from the spec: `ReadMetadataUntrusted` is declared in `Utils.h` without its body;
it parses the untrusted device best-effort and may yield any strings. -/
def readMetadataUntrusted (o : Oracle) (path : String) : Proc (Int × Metadata) := fun s =>
  .next (o.status s.log.length, o.metadata s.log.length)
    (s.record o (.readMetadataUntrusted path) (o.status s.log.length))

def check (o : Oracle) (fs : Fs) (dev : String) : Proc Int := invoke o (.check fs dev)

def fsPrepareDir (o : Oracle) (path : String) : Proc Int := invoke o (.fsPrepareDir path)

/-- `vfat::Mount` or `exfat::Mount` of `dev` at `path`, owned by root and group `gid`. -/
def adapterMount (o : Oracle) (fs : Fs) (dev path : String) (gid : Nat) : Proc Int :=
  invokeMount o (.mount fs dev path gid) path

def access (o : Oracle) (path : String) : Proc Int := invoke o (.access path)

def rename (o : Oracle) (src dst : String) : Proc Int := invoke o (.rename src dst)

def mkdir (o : Oracle) (path : String) : Proc Int := invoke o (.mkdir path)

/-- `BindMount(src, dst)`: on success a new mount at `dst`, stacked on whatever is mounted there
already. Stacking is a choice of the model: the kernel stacks a second bind at one point, and no
code here looks at what `dst` holds first, but the world could also refuse such a bind; the
model lets the status the world returns decide. -/
def bindMount (o : Oracle) (src dst : String) : Proc Int := invokeMount o (.bindMount src dst) dst

/-- The device of whatever is at `path`; only compared for equality. -/
def getDevice (o : Oracle) (path : String) : Proc Nat := fun s =>
  .next (o.device s.log.length) (s.record o (.getDevice path) 0)

/-- `fork()` as the parent sees it: `-1` on failure, else the pid of the child, which runs
`execl` with `argv`. The child is the sdcard daemon: from then on it mounts `views` in order,
as fast as the world lets it, until it is reaped. -/
def fork (o : Oracle) (argv views : List String) : Proc Int := fun s =>
  let pid := o.status s.log.length
  .next pid ((if pid = -1 then s
    else { s with children := s.children ++ [⟨s.vol.id, s.log.length, views⟩] }).record o
      (.fork argv) pid)

def usleep (o : Oracle) : Proc Int := invoke o .usleep

/-- `systemTime(SYSTEM_TIME_BOOTTIME)` in nanoseconds. -/
def systemTime (o : Oracle) : Proc Int := fun s =>
  .next (o.clock s.log.length) (s.record o .systemTime 0)

/-- `waitpid` on the daemon forked last: it returns once the daemon has exited, which mounts
nothing after that. -/
def waitpid (o : Oracle) : Proc Int := fun s =>
  let s' := s.record o .waitpid (o.status s.log.length)
  .next (o.status s.log.length) { s' with children := s'.children.dropLast }

/-- Modelled from the spec: `MountUserFuse` is declared in `Utils.h` without its body; on
success the bridge of `user` is mounted at `getFuseMountPathForUser user name`. -/
def mountUserFuse (o : Oracle) (user : UserId) (lower name : String) : Proc Int :=
  invokeMount o (.mountUserFuse user lower name) (getFuseMountPathForUser user name)

/-- The mount callback's `onVolumeChecking`, answering whether the volume is ready. -/
def onVolumeChecking (o : Oracle) (path internalPath : String) : Proc Bool := fun s =>
  .next (o.ready s.log.length) (s.record o (.onVolumeChecking path internalPath) 0)

def configureReadAheadForFuse (o : Oracle) (path : String) (kb : Nat) : Proc Int :=
  invoke o (.configureReadAheadForFuse path kb)

def configureMaxDirtyRatioForFuse (o : Oracle) (path : String) (ratio : Nat) : Proc Int :=
  invoke o (.configureMaxDirtyRatioForFuse path ratio)

def prepareMountDirForUser (o : Oracle) (user : UserId) : Proc Int :=
  invoke o (.prepareMountDirForUser user)

def prepareDir (o : Oracle) (path : String) : Proc Int := invoke o (.prepareDir path)

def killProcessesUsingPath (o : Oracle) (path : String) : Proc Int :=
  invoke o (.killProcessesUsingPath path)

/-- `ForceUnmount`: a point with nothing mounted counts as unmounted (`EINVAL` is `OK`). -/
def forceUnmount (o : Oracle) (path : String) : Proc Int :=
  invokeUnmount o (.forceUnmount path) path 0

/-- `umount2(path, MNT_DETACH)`: `-1` when nothing is mounted there. -/
def umount2Detach (o : Oracle) (path : String) : Proc Int :=
  invokeUnmount o (.umount2Detach path) path (-1)

def rmdir (o : Oracle) (path : String) : Proc Int := invoke o (.rmdir path)

/-- Modelled from the spec: `UnmountUserFuse` is declared in `Utils.h` without its body; it
unmounts the bridge of `user` at `getFuseMountPathForUser user name`, `OK` when none is there. -/
def unmountUserFuse (o : Oracle) (user : UserId) (lower name : String) : Proc Int :=
  invokeUnmount o (.unmountUserFuse user lower name) (getFuseMountPathForUser user name) 0

def getBlockDevSize (o : Oracle) (path : String) : Proc (Int × UInt64) := fun s =>
  .next (o.status s.log.length, o.size s.log.length)
    (s.record o (.getBlockDevSize path) (o.status s.log.length))

def wipeBlockDevice (o : Oracle) (path : String) : Proc Int := invoke o (.wipeBlockDevice path)

/-- `vfat::Format(dev, 0)` or `exfat::Format(dev)`. -/
def format (o : Oracle) (fs : Fs) (dev : String) : Proc Int := invoke o (.format fs dev)

end Vold
