import Vold.Mount

/-!
# The sdcardfs poll loop

The loop `doMount` runs while the sdcard daemon spins up has no bound of its own: every 50 ms it
reads the device of the full view again, and it stops when the device differs from `before` or
when the boot clock is more than 5000 ms past `start`.

Round `k` of a loop entered with `L` calls made reads the device at call `L + 3k` and, after its
sleep, the clock at call `L + 3k + 2`. The loop ends in its first stopping round; with a clock
that grows across every sleep there is one, and with 50 ms per sleep it is among the first 101.
-/

namespace Vold

namespace PublicVolume

open Proc

/-- The device identity round `k` reads, for a loop entered with `L` calls made: each round that
goes on makes three calls, `GetDevice`, `usleep` and `systemTime`. -/
def roundDevice (o : Oracle) (L k : Nat) : Nat := o.device (L + 3 * k)

/-- The boot time round `k` reads after its sleep. -/
def roundClock (o : Oracle) (L k : Nat) : Int := o.clock (L + 3 * k + 2)

/-- The clock readings the loop compares, in order: `start`, then one after each sleep. -/
def sleepReading (o : Oracle) (start : Int) (L : Nat) : Nat → Int
  | 0 => start
  | k + 1 => roundClock o L k

/-- Round `k` ends the loop: the device differs from `before`, or more than 5000 ms have passed
since `start`. -/
def RoundStops (o : Oracle) (before : Nat) (start : Int) (L k : Nat) : Prop :=
  before ≠ roundDevice o L k ∨ (roundClock o L k - start).tdiv 1000000 > 5000

instance (o : Oracle) (before : Nat) (start : Int) (L k : Nat) :
    Decidable (RoundStops o before start L k) :=
  inferInstanceAs (Decidable (_ ∨ _))

theorem roundStops_succ (o : Oracle) (before : Nat) (start : Int) (L j : Nat) :
    RoundStops o before start L (j + 1) ↔ RoundStops o before start (L + 3) j := by
  simp only [RoundStops, roundDevice, roundClock, show L + 3 * (j + 1) = L + 3 + 3 * j by omega]

/-- One round of the loop: it leaves when the device differs, times out past 5000 ms, and
otherwise hands on to the next round three calls later. -/
theorem waitForSdcardFs_succ (o : Oracle) (before : Nat) (start : Int) (fuel : Nat) (s : Sys) :
    ∃ s1 s3, s3.log.length = s.log.length + 3 ∧
      waitForSdcardFs o before start (fuel + 1) s =
        if before = o.device s.log.length then
          if (o.clock (s.log.length + 2) - start).tdiv 1000000 > 5000 then .exit (-ETIMEDOUT) s3
          else waitForSdcardFs o before start fuel s3
        else .next () s1 := by
  let s1 := s.record o (.getDevice s.vol.sdcardFsFull) 0
  let s3 := (s1.record o .usleep (o.status s1.log.length)).record o .systemTime 0
  refine ⟨s1, s3, by simp [s1, s3], ?_⟩
  simp only [waitForSdcardFs, bind_apply, getVol_apply, getDevice, usleep, invoke_apply,
    systemTime, s1, s3, Sys.record_log, List.length_append]
  split_ifs with hb ht
  · simp [invoke_apply, systemTime, ht]
  · simp [invoke_apply, systemTime, ht]
  · rfl

/-- Rounds that do not stop hand the loop on: after `k` of them it is the loop entered
`3k` calls later, with `k` rounds less of fuel. -/
theorem waitForSdcardFs_skip (o : Oracle) (before : Nat) (start : Int) (k : Nat) :
    ∀ (fuel : Nat) (s : Sys), (∀ j < k, ¬RoundStops o before start s.log.length j) →
      ∃ s', s'.log.length = s.log.length + 3 * k ∧
        waitForSdcardFs o before start (fuel + k) s = waitForSdcardFs o before start fuel s' := by
  induction k with
  | zero => exact fun fuel s _ => ⟨s, rfl, rfl⟩
  | succ k ih =>
      intro fuel s hk
      obtain ⟨s1, s3, hl3, h⟩ := waitForSdcardFs_succ o before start (fuel + k) s
      have h0 := hk 0 (Nat.succ_pos k)
      simp only [RoundStops, roundDevice, roundClock, not_or, not_not, Nat.mul_zero,
        Nat.add_zero] at h0
      obtain ⟨s', hl', h'⟩ := ih fuel s3 fun j hj => by
        rw [hl3, ← roundStops_succ]
        exact hk (j + 1) (by omega)
      refine ⟨s', by omega, ?_⟩
      rw [show fuel + (k + 1) = fuel + k + 1 by omega, h, if_pos h0.1, if_neg h0.2, h']

/-- Given more rounds of fuel than the index of its first stopping round `k`, the loop leaves
when the device of round `k` differs from `before`, and otherwise returns `-ETIMEDOUT`. -/
theorem waitForSdcardFs_first_stop (o : Oracle) (before : Nat) (start : Int) (s : Sys)
    {k fuel : Nat} (hpre : ∀ j < k, ¬RoundStops o before start s.log.length j)
    (hk : RoundStops o before start s.log.length k) (hfuel : k < fuel) :
    ∃ s', (before ≠ roundDevice o s.log.length k ∧
        waitForSdcardFs o before start fuel s = .next () s') ∨
      (before = roundDevice o s.log.length k ∧
        waitForSdcardFs o before start fuel s = .exit (-ETIMEDOUT) s') := by
  obtain ⟨m, rfl⟩ : ∃ m, fuel = m + 1 + k := ⟨fuel - k - 1, by omega⟩
  obtain ⟨s2, hl2, h2⟩ := waitForSdcardFs_skip o before start k (m + 1) s hpre
  obtain ⟨s1, s3, -, h⟩ := waitForSdcardFs_succ o before start m s2
  simp only [RoundStops, roundDevice, roundClock] at hk ⊢
  rw [h2, h, hl2]
  by_cases hb : before = o.device (s.log.length + 3 * k)
  · exact ⟨s3, .inr ⟨hb, by rw [if_pos hb, if_pos (hk.resolve_left (not_not.mpr hb))]⟩⟩
  · exact ⟨s1, .inl ⟨hb, by rw [if_neg hb]⟩⟩

/-- A clock that advances by at least `δ` across every sleep is `δ * k` past `start` at the
`k`-th reading. -/
theorem sleepReading_ge {o : Oracle} {start : Int} {L : Nat} {δ : Int}
    (h : ∀ k, sleepReading o start L k + δ ≤ sleepReading o start L (k + 1)) (k : Nat) :
    start + δ * k ≤ sleepReading o start L k := by
  induction k with
  | zero => simp [sleepReading]
  | succ k ih =>
      have := h k
      push_cast
      linarith

/-- Past 5001 ms after `start`, the loop's millisecond count exceeds 5000. -/
theorem timeout_of_le {o : Oracle} {start : Int} {L k : Nat}
    (h : start + 5001000000 ≤ roundClock o L k) :
    (roundClock o L k - start).tdiv 1000000 > 5000 := by
  rw [Int.tdiv_eq_ediv (by omega) (by decide)]
  omega

/-- For every sequence of device identities and every boot clock that grows across each sleep,
the poll loop has a first stopping round `k`: given more than `k` rounds it leaves there if the
device differs from `before`, and returns `-ETIMEDOUT` otherwise, 5000 ms having passed. When
each sleep advances the clock by at least 50 ms, `k` is at most 100: at most 101 rounds. -/
theorem sdcardFs_poll_terminates (o : Oracle) (before : Nat) (start : Int) (s : Sys)
    (hclock : ∀ k, sleepReading o start s.log.length k < sleepReading o start s.log.length (k + 1)) :
    ∃ k, (∀ j < k, ¬RoundStops o before start s.log.length j) ∧
      RoundStops o before start s.log.length k ∧
      (∀ fuel, k < fuel → ∃ s',
        (before ≠ roundDevice o s.log.length k ∧
          waitForSdcardFs o before start fuel s = .next () s') ∨
        (before = roundDevice o s.log.length k ∧
          waitForSdcardFs o before start fuel s = .exit (-ETIMEDOUT) s')) ∧
      ((∀ j, sleepReading o start s.log.length j + 50000000 ≤
          sleepReading o start s.log.length (j + 1)) → k ≤ 100) := by
  have hex : ∃ k, RoundStops o before start s.log.length k := by
    refine ⟨5000999999, .inr (timeout_of_le ?_)⟩
    have := sleepReading_ge (fun k => Int.add_one_le_of_lt (hclock k)) 5001000000
    simp only [sleepReading, Nat.cast_ofNat] at this
    linarith
  refine ⟨Nat.find hex, fun j hj => Nat.find_min hex hj, Nat.find_spec hex,
    fun fuel hf => waitForSdcardFs_first_stop o before start s
      (fun j hj => Nat.find_min hex hj) (Nat.find_spec hex) hf,
    fun h50 => Nat.find_min' hex (.inr (timeout_of_le ?_))⟩
  have := sleepReading_ge h50 101
  simp only [sleepReading, Nat.cast_ofNat] at this
  linarith

/-- A clock that runs 50 ms per call and a device that changes from the second round on. -/
theorem sdcardFs_poll_terminates_ticking :
    (∀ k, sleepReading { Oracle.failingAt ⟨"", "", ""⟩ [] 0 with clock := fun n => 50000000 * n } 0 0 k <
      sleepReading { Oracle.failingAt ⟨"", "", ""⟩ [] 0 with clock := fun n => 50000000 * n } 0 0
        (k + 1)) ∧
    ∃ k, (∀ j < k, ¬RoundStops
        { Oracle.failingAt ⟨"", "", ""⟩ [] 0 with clock := fun n => 50000000 * n } 0 0 0 j) ∧
      RoundStops { Oracle.failingAt ⟨"", "", ""⟩ [] 0 with clock := fun n => 50000000 * n } 0 0 0 k ∧
      (∀ fuel, k < fuel → ∃ s',
        (0 ≠ roundDevice
            { Oracle.failingAt ⟨"", "", ""⟩ [] 0 with clock := fun n => 50000000 * n } 0 k ∧
          waitForSdcardFs { Oracle.failingAt ⟨"", "", ""⟩ [] 0 with clock := fun n => 50000000 * n }
            0 0 fuel ⟨create ⟨8, 1⟩ true, [], 0, [], []⟩ = .next () s') ∨
        (0 = roundDevice
            { Oracle.failingAt ⟨"", "", ""⟩ [] 0 with clock := fun n => 50000000 * n } 0 k ∧
          waitForSdcardFs { Oracle.failingAt ⟨"", "", ""⟩ [] 0 with clock := fun n => 50000000 * n }
            0 0 fuel ⟨create ⟨8, 1⟩ true, [], 0, [], []⟩ = .exit (-ETIMEDOUT) s')) ∧
      ((∀ j, sleepReading
          { Oracle.failingAt ⟨"", "", ""⟩ [] 0 with clock := fun n => 50000000 * n } 0 0 j + 50000000 ≤
          sleepReading { Oracle.failingAt ⟨"", "", ""⟩ [] 0 with clock := fun n => 50000000 * n } 0 0
            (j + 1)) → k ≤ 100) := by
  have hclock : ∀ k, sleepReading
      { Oracle.failingAt ⟨"", "", ""⟩ [] 0 with clock := fun n => 50000000 * n } 0 0 k <
      sleepReading { Oracle.failingAt ⟨"", "", ""⟩ [] 0 with clock := fun n => 50000000 * n } 0 0
        (k + 1) := by
    intro k
    cases k <;> simp [sleepReading, roundClock]
  exact ⟨hclock, sdcardFs_poll_terminates _ 0 0 ⟨create ⟨8, 1⟩ true, [], 0, [], []⟩ hclock⟩

end PublicVolume

end Vold
