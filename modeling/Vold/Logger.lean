import Mathlib.Data.List.Basic

/-!
# `VoldLogger`

`main` installs `VoldLogger` as the log sink of the whole daemon. Every message goes to `logd`.
Until `/data` is up, messages of severity `WARNING` and above are also copied to the kernel log,
so that early boot failures can be read from the serial console. The static `early_boot_done`
latches the first time such a message finds `/data/misc/vold` present and user 0's encryption
set up. That message is not copied, and neither is any later one.

Over a run, the kernel log is the `takeWhile` of the severe messages before that first one,
whatever `/data` does afterwards.
-/

namespace Vold

/-- `android::base::LogSeverity`, in its order. -/
inductive LogSeverity where
  | verbose
  | debug
  | info
  | warning
  | error
  | fatalWithoutAbort
  | fatal
  deriving DecidableEq, Repr

/-- The position of a severity in the enum. -/
def LogSeverity.toNat : LogSeverity → Nat
  | .verbose => 0
  | .debug => 1
  | .info => 2
  | .warning => 3
  | .error => 4
  | .fatalWithoutAbort => 5
  | .fatal => 6

/-- The arguments `VoldLogger` receives. -/
structure LogMessage where
  logBufferId : Nat
  severity : LogSeverity
  tag : String
  file : String
  line : Nat
  message : String
  deriving DecidableEq, Repr

/-- What the world shows when `VoldLogger` runs: whether `access("/data/misc/vold", F_OK)`
succeeds, and the global `fscrypt_init_user0_done`. -/
structure LogWorld where
  dataMiscVold : Bool
  fscryptInitUser0Done : Bool
  deriving DecidableEq, Repr

/-- The static `early_boot_done`, and what `logd_logger` and `KernelLogger` received. -/
structure LoggerState where
  earlyBootDone : Bool
  logd : List LogMessage
  kernel : List LogMessage
  deriving DecidableEq, Repr

/-- Before the first message: `static bool early_boot_done = false;`. -/
def LoggerState.initial : LoggerState := ⟨false, [], []⟩

/-- `severity >= android::base::WARNING`. -/
def LogMessage.severe (m : LogMessage) : Bool :=
  decide (m.severity.toNat ≥ LogSeverity.warning.toNat)

/-- `access("/data/misc/vold", F_OK) == 0 && fscrypt_init_user0_done`. -/
def LogWorld.ready (w : LogWorld) : Bool := w.dataMiscVold && w.fscryptInitUser0Done

/-- `VoldLogger(log_buffer_id, severity, tag, file, line, message)` in world `w`. -/
def voldLogger (w : LogWorld) (m : LogMessage) (s : LoggerState) : LoggerState :=
  let s := { s with logd := s.logd ++ [m] }
  if m.severe then
    if !s.earlyBootDone then
      if w.ready then { s with earlyBootDone := true }
      else { s with kernel := s.kernel ++ [m] }
    else s
  else s

/-- The logger over a run of messages, each with the world it was logged in. -/
def runLogger (run : List (LogWorld × LogMessage)) (s : LoggerState) : LoggerState :=
  run.foldl (fun s p => voldLogger p.1 p.2 s) s

/-- One message: `logd` always, the kernel log while `early_boot_done` is unset and the world
not ready, for a severe message. -/
theorem voldLogger_apply (w : LogWorld) (m : LogMessage) (s : LoggerState) :
    voldLogger w m s =
      ⟨s.earlyBootDone || (m.severe && w.ready), s.logd ++ [m],
        s.kernel ++ if m.severe && !s.earlyBootDone && !w.ready then [m] else []⟩ := by
  unfold voldLogger
  cases m.severe <;> cases s.earlyBootDone <;> cases w.ready <;> simp

/-- From any state, the run passes every message to `logd`; unless `early_boot_done` was set, it
copies to the kernel log the severe messages before the first one logged with the world ready,
and latches exactly when there is such a message. -/
theorem runLogger_eq (run : List (LogWorld × LogMessage)) (s : LoggerState) :
    runLogger run s =
      ⟨s.earlyBootDone || (run.filter (·.2.severe)).any (·.1.ready), s.logd ++ run.map (·.2),
        s.kernel ++ if s.earlyBootDone then [] else
          ((run.filter (·.2.severe)).takeWhile (!·.1.ready)).map (·.2)⟩ := by
  induction run generalizing s with
  | nil => cases s; simp [runLogger]
  | cons p run ih =>
      obtain ⟨w, m⟩ := p
      rw [runLogger, List.foldl_cons, ← runLogger, ih, voldLogger_apply]
      cases hs : m.severe <;> cases hd : s.earlyBootDone <;> cases hr : w.ready <;>
        simp [hs, hd, hr, List.filter_cons, List.takeWhile_cons]

/-- From the start of `vold`, every message reaches `logd`. The kernel log receives exactly
the `WARNING`-or-above messages logged before the first such message that finds
`/data/misc/vold` present and user 0 set up. `early_boot_done` is set exactly when there is
such a message. -/
theorem voldLogger_kernel_log (run : List (LogWorld × LogMessage)) :
    runLogger run .initial =
      ⟨(run.filter (·.2.severe)).any (·.1.ready), run.map (·.2),
        ((run.filter (·.2.severe)).takeWhile (!·.1.ready)).map (·.2)⟩ := by
  simp [runLogger_eq, LoggerState.initial]

example : (runLogger [(⟨false, false⟩, ⟨0, .error, "vold", "", 0, "a"⟩),
      (⟨true, true⟩, ⟨0, .info, "vold", "", 0, "b"⟩),
      (⟨true, true⟩, ⟨0, .warning, "vold", "", 0, "c"⟩),
      (⟨false, false⟩, ⟨0, .error, "vold", "", 0, "d"⟩)] .initial).kernel =
    [⟨0, .error, "vold", "", 0, "a"⟩] := by decide

end Vold
