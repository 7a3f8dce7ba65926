/-
# The lockout tracker (`LockoutTracker.cpp`)

The failed-attempt counter of the fingerprint HAL with its two thresholds: five
failures lock the sensor for thirty seconds, twenty lock it for good.

The clock is `Util::getSystemNanoTime`, a monotonic count of nanoseconds since
boot; each operation takes its reading as the argument `now`.  The class `Util` of
the platform's default HAL is a parameter: what the tracker relies on is that a
duration has not elapsed before it is over, and that it does not come back.

`getMode` is not a query: reading an elapsed timed lockout clears it, so it returns
the tracker it leaves behind.  `mode` is the answer alone.

`mFailedCount` is a 32-bit signed integer and wraps here as the hardware does;
the facts about it that need an unbounded counter say so
(`failedCount_addFailedAttempt`).
-/
import Mathlib.Tactic

namespace Fingerprint

/-- `LockoutMode`. -/
inductive LockoutMode
  | none
  | timed
  | permanent
  deriving DecidableEq, Repr

/-- `LOCKOUT_TIMED_THRESHOLD`. -/
def lockoutTimedThreshold : Int32 := 5

/-- `LOCKOUT_TIMED_DURATION`, in milliseconds. -/
def lockoutTimedDuration : ℕ := 30 * 1000

/-- `LOCKOUT_PERMANENT_THRESHOLD`. -/
def lockoutPermanentThreshold : Int32 := 20

/-- Nanoseconds in a millisecond. -/
def nanosPerMilli : ℕ := 1000000

/-- `Util` of the platform. -/
class Util where
  /-- `hasElapsed(start, durationMillis)`, called at time `now`. -/
  hasElapsed : (now start durationMillis : ℕ) → Bool
  hasElapsed_of_lt : ∀ {now start durationMillis : ℕ},
    now < start + durationMillis * nanosPerMilli → hasElapsed now start durationMillis = false
  hasElapsed_mono : ∀ {now later start durationMillis : ℕ}, now ≤ later →
    hasElapsed now start durationMillis = true → hasElapsed later start durationMillis = true

/-- The default HAL's `Util`: more than `durationMillis` whole milliseconds have gone
by since `start`. -/
instance Util.default : Util where
  hasElapsed now start durationMillis :=
    decide (start ≤ now ∧ durationMillis < (now - start) / nanosPerMilli)
  hasElapsed_of_lt := by
    intro now start durationMillis h
    rw [decide_eq_false_iff_not]
    rintro ⟨hle, helapsed⟩
    have hover := (Nat.lt_div_iff_mul_lt (by decide)).1 helapsed
    unfold nanosPerMilli at *
    omega
  hasElapsed_mono := by
    intro now later start durationMillis hle h
    rw [decide_eq_true_eq] at h ⊢
    exact ⟨le_trans h.1 hle, lt_of_lt_of_le h.2 (Nat.div_le_div_right (by omega))⟩

/-- The members of `LockoutTracker`.  `mLockoutTimedStart` is a clock reading,
`0` when no timed lockout is running. -/
structure LockoutTracker where
  mFailedCount : Int32
  mLockoutTimedStart : ℕ
  mCurrentMode : LockoutMode
  deriving DecidableEq, Repr

namespace LockoutTracker

/-- The value-initialised tracker, `mLockoutTracker()` in `Fingerprint`'s
constructor: every member is zero, and `NONE` is the zero of `LockoutMode`. -/
def init : LockoutTracker where
  mFailedCount := 0
  mLockoutTimedStart := 0
  mCurrentMode := .none

/-- `LockoutTracker::reset`. -/
def reset (t : LockoutTracker) (clearAttemptCounter : Bool) : LockoutTracker where
  mFailedCount := if clearAttemptCounter then 0 else t.mFailedCount
  mLockoutTimedStart := 0
  mCurrentMode := .none

/-- `LockoutTracker::addFailedAttempt`.  Below both thresholds the mode and the
start time stay as they are. -/
def addFailedAttempt (t : LockoutTracker) (now : ℕ) : LockoutTracker :=
  let count := t.mFailedCount + 1
  if count ≥ lockoutPermanentThreshold then
    { t with mFailedCount := count, mCurrentMode := .permanent }
  else if count ≥ lockoutTimedThreshold then
    { mFailedCount := count, mLockoutTimedStart := now, mCurrentMode := .timed }
  else
    { t with mFailedCount := count }

/-- `LockoutTracker::getMode`: the mode, and the tracker after the call. -/
def getMode [Util] (t : LockoutTracker) (now : ℕ) : LockoutMode × LockoutTracker :=
  if t.mCurrentMode = .timed ∧ Util.hasElapsed now t.mLockoutTimedStart lockoutTimedDuration then
    (.none, { t with mLockoutTimedStart := 0, mCurrentMode := .none })
  else
    (t.mCurrentMode, t)

/-- What `getMode` answers at time `now`. -/
def mode [Util] (t : LockoutTracker) (now : ℕ) : LockoutMode := (t.getMode now).1

/-- `LockoutTracker::getLockoutTimeLeft`, in milliseconds. -/
def getLockoutTimeLeft (t : LockoutTracker) (now : ℕ) : ℤ :=
  if t.mLockoutTimedStart > 0 then
    (lockoutTimedDuration : ℤ) - ((now - t.mLockoutTimedStart) / nanosPerMilli : ℕ)
  else 0

variable (t : LockoutTracker) (now : ℕ)

/-! ## What the operations do to the counter -/

@[simp] theorem mFailedCount_getMode [Util] :
    (t.getMode now).2.mFailedCount = t.mFailedCount := by
  unfold getMode
  split <;> rfl

@[simp] theorem mFailedCount_addFailedAttempt :
    (t.addFailedAttempt now).mFailedCount = t.mFailedCount + 1 := by
  unfold addFailedAttempt
  simp only
  split
  · rfl
  · split <;> rfl

/-- Below `INT32_MAX` a failed attempt raises the counter by one. -/
theorem failedCount_addFailedAttempt (h : t.mFailedCount.toInt < 2 ^ 31 - 1) :
    (t.addFailedAttempt now).mFailedCount.toInt = t.mFailedCount.toInt + 1 := by
  have hlow := Int32.le_toInt t.mFailedCount
  have hone : (1 : Int32).toInt = 1 := by decide
  rw [mFailedCount_addFailedAttempt, Int32.toInt_add, hone, Int.bmod_eq_of_le] <;> omega

theorem permanentThreshold_le_iff (c : Int32) :
    c ≥ lockoutPermanentThreshold ↔ 20 ≤ c.toInt := by
  rw [ge_iff_le, Int32.le_iff_toInt_le]
  rfl

theorem timedThreshold_le_iff (c : Int32) :
    c ≥ lockoutTimedThreshold ↔ 5 ≤ c.toInt := by
  rw [ge_iff_le, Int32.le_iff_toInt_le]
  rfl

/-! ## What the operations do to the mode -/

section Mode

variable [Util]

/-- A permanent lockout does not depend on the clock. -/
theorem mode_eq_permanent_iff :
    t.mode now = .permanent ↔ t.mCurrentMode = .permanent := by
  unfold mode getMode
  split <;> simp_all

/-- A timed lockout is in force while its thirty seconds have not elapsed. -/
theorem mode_eq_timed_iff :
    t.mode now = .timed ↔ t.mCurrentMode = .timed ∧
      Util.hasElapsed now t.mLockoutTimedStart lockoutTimedDuration = false := by
  unfold mode getMode
  split <;> simp_all

theorem mCurrentMode_getMode : (t.getMode now).2.mCurrentMode = t.mode now := by
  unfold mode getMode
  split <;> rfl

/-- While `getMode` answers `TIMED` it leaves the tracker as it is. -/
theorem getMode_of_timed (h : t.mode now = .timed) : t.getMode now = (.timed, t) := by
  unfold mode at h
  unfold getMode at h ⊢
  split <;> simp_all

/-- `getMode` leaves a tracker that is not in `TIMED` mode as it is. -/
theorem getMode_of_ne_timed (h : t.mCurrentMode ≠ .timed) :
    t.getMode now = (t.mCurrentMode, t) := by
  simp [getMode, h]

/-- Reading the mode does not change what the mode is, then or later: a timed
lockout that has elapsed at `now` stays elapsed. -/
theorem mode_getMode {later : ℕ} (h : now ≤ later) :
    (t.getMode now).2.mode later = t.mode later := by
  by_cases helapsed : t.mCurrentMode = .timed ∧
      Util.hasElapsed now t.mLockoutTimedStart lockoutTimedDuration
  · have hlater : Util.hasElapsed later t.mLockoutTimedStart lockoutTimedDuration = true :=
      Util.hasElapsed_mono h helapsed.2
    simp [mode, getMode, helapsed, hlater]
  · simp [mode, getMode, helapsed]

theorem hasElapsed_self : Util.hasElapsed now now lockoutTimedDuration = false :=
  Util.hasElapsed_of_lt (by simp [lockoutTimedDuration, nanosPerMilli])

/-- A tracker in `TIMED` mode answers `TIMED` until thirty seconds after its
start. -/
theorem mode_timed_of_lt (hmode : t.mCurrentMode = .timed)
    (h : now < t.mLockoutTimedStart + lockoutTimedDuration * nanosPerMilli) :
    t.mode now = .timed :=
  (mode_eq_timed_iff t now).2 ⟨hmode, Util.hasElapsed_of_lt h⟩

end Mode

/-! ## A failed attempt, by the count it reaches -/

/-- The twentieth failure and every later one locks the sensor for good. -/
theorem addFailedAttempt_permanent (h : 20 ≤ (t.mFailedCount + 1).toInt) :
    t.addFailedAttempt now =
      { t with mFailedCount := t.mFailedCount + 1, mCurrentMode := .permanent } := by
  simp [addFailedAttempt, (permanentThreshold_le_iff _).2 h]

/-- The fifth to the nineteenth failure start a timed lockout, or start it
afresh. -/
theorem addFailedAttempt_timed (h5 : 5 ≤ (t.mFailedCount + 1).toInt)
    (h20 : (t.mFailedCount + 1).toInt < 20) :
    t.addFailedAttempt now =
      { mFailedCount := t.mFailedCount + 1, mLockoutTimedStart := now,
        mCurrentMode := .timed } := by
  have hperm : ¬ (t.mFailedCount + 1 ≥ lockoutPermanentThreshold) := by
    rw [permanentThreshold_le_iff]
    omega
  simp only [addFailedAttempt]
  rw [if_neg hperm, if_pos ((timedThreshold_le_iff _).2 h5)]

/-- Below the first threshold a failure only counts. -/
theorem addFailedAttempt_count (h5 : (t.mFailedCount + 1).toInt < 5) :
    t.addFailedAttempt now = { t with mFailedCount := t.mFailedCount + 1 } := by
  have hperm : ¬ (t.mFailedCount + 1 ≥ lockoutPermanentThreshold) := by
    rw [permanentThreshold_le_iff]
    omega
  have htimed : ¬ (t.mFailedCount + 1 ≥ lockoutTimedThreshold) := by
    rw [timedThreshold_le_iff]
    omega
  simp only [addFailedAttempt]
  rw [if_neg hperm, if_neg htimed]

/-- The three things a failed attempt can do. -/
theorem addFailedAttempt_cases :
    (20 ≤ (t.mFailedCount + 1).toInt ∧ t.addFailedAttempt now =
        { t with mFailedCount := t.mFailedCount + 1, mCurrentMode := .permanent }) ∨
    (5 ≤ (t.mFailedCount + 1).toInt ∧ (t.mFailedCount + 1).toInt < 20 ∧
      t.addFailedAttempt now =
        { mFailedCount := t.mFailedCount + 1, mLockoutTimedStart := now,
          mCurrentMode := .timed }) ∨
    ((t.mFailedCount + 1).toInt < 5 ∧
      t.addFailedAttempt now = { t with mFailedCount := t.mFailedCount + 1 }) := by
  by_cases h20 : 20 ≤ (t.mFailedCount + 1).toInt
  · exact Or.inl ⟨h20, addFailedAttempt_permanent t now h20⟩
  · by_cases h5 : 5 ≤ (t.mFailedCount + 1).toInt
    · exact Or.inr (Or.inl ⟨h5, by omega, addFailedAttempt_timed t now h5 (by omega)⟩)
    · exact Or.inr (Or.inr ⟨by omega, addFailedAttempt_count t now (by omega)⟩)

end LockoutTracker

end Fingerprint
