/-
# The shared wakelock (`HalProxy.cpp`)

One kernel wakelock stands behind all wake-up events and all `ScopedWakelock`s:
`mWakelockRefCount` counts them, and the lock is acquired when the count leaves
zero and released when it comes back to it.  After `kWakelockTimeoutNs` without a
new reference the count is reset to zero; references taken before the reset are
told apart by their creation time.

`held` is the kernel's side: whether `acquire_wake_lock` or `release_wake_lock`
came last.  `Agrees` says that the count knows it.
-/
import Mathlib.Tactic

namespace Sensors

/-- The members of `HalProxy` that `mWakelockMutex` guards, the flag its functions
read, and the state of the kernel's lock. -/
structure SharedWakelock where
  mThreadsRun : Bool
  mWakelockRefCount : ℕ
  mWakelockTimeoutStartTime : ℤ
  mWakelockTimeoutResetTime : ℤ
  held : Bool
  deriving DecidableEq, Repr

namespace SharedWakelock

/-- The wakelock of a proxy initialised at time `now`, its threads running. -/
def init (now : ℤ) : SharedWakelock where
  mThreadsRun := true
  mWakelockRefCount := 0
  mWakelockTimeoutStartTime := now
  mWakelockTimeoutResetTime := now
  held := false

/-- `HalProxy::incrementRefCountAndMaybeAcquireWakelock`.  On success it hands out
`mWakelockTimeoutStartTime`, the time of the call. -/
def incrementRefCountAndMaybeAcquireWakelock (w : SharedWakelock) (delta : ℕ) (now : ℤ) :
    Bool × SharedWakelock :=
  if !w.mThreadsRun then (false, w)
  else
    (true, { w with
      -- `acquire_wake_lock` does not wait to see whether `delta` is positive
      held := if w.mWakelockRefCount = 0 then true else w.held
      mWakelockTimeoutStartTime := now
      mWakelockRefCount := w.mWakelockRefCount + delta })

/-- `HalProxy::decrementRefCountAndMaybeReleaseWakelock`; `-1` stands for a
reference without a creation time. -/
def decrementRefCountAndMaybeReleaseWakelock (w : SharedWakelock) (delta : ℕ)
    (timeoutStart : ℤ) : SharedWakelock :=
  if !w.mThreadsRun then w
  else
    let timeoutStart := if timeoutStart = -1 then w.mWakelockTimeoutResetTime else timeoutStart
    if w.mWakelockRefCount = 0 ∨ timeoutStart < w.mWakelockTimeoutResetTime then w
    else
      let refCount := w.mWakelockRefCount - min w.mWakelockRefCount delta
      { w with
        mWakelockRefCount := refCount
        held := if refCount = 0 then false else w.held }

/-- `HalProxy::resetSharedWakelock`. -/
def resetSharedWakelock (w : SharedWakelock) (now : ℤ) : SharedWakelock :=
  { w.decrementRefCountAndMaybeReleaseWakelock w.mWakelockRefCount (-1) with
    mWakelockTimeoutResetTime := now }

/-- `HalProxy::sharedWakelockDidTimeout`, with `timeLeft`. -/
def sharedWakelockDidTimeout (w : SharedWakelock) (kWakelockTimeoutNs now : ℤ) : Bool × ℤ :=
  let duration := now - w.mWakelockTimeoutStartTime
  if duration > kWakelockTimeoutNs then (true, 0) else (false, kWakelockTimeoutNs - duration)

variable {w : SharedWakelock} {delta : ℕ} {now timeoutStart : ℤ}

/-! ## The count -/

theorem increment_of_running (h : w.mThreadsRun = true) (delta : ℕ) (now : ℤ) :
    w.incrementRefCountAndMaybeAcquireWakelock delta now =
      (true, { w with
        held := if w.mWakelockRefCount = 0 then true else w.held
        mWakelockTimeoutStartTime := now
        mWakelockRefCount := w.mWakelockRefCount + delta }) := by
  simp [incrementRefCountAndMaybeAcquireWakelock, h]

theorem mWakelockRefCount_increment (h : w.mThreadsRun = true) (delta : ℕ) (now : ℤ) :
    (w.incrementRefCountAndMaybeAcquireWakelock delta now).2.mWakelockRefCount =
      w.mWakelockRefCount + delta := by
  rw [increment_of_running h]

@[simp] theorem mThreadsRun_increment :
    (w.incrementRefCountAndMaybeAcquireWakelock delta now).2.mThreadsRun = w.mThreadsRun := by
  unfold incrementRefCountAndMaybeAcquireWakelock
  split <;> rfl

theorem mWakelockTimeoutResetTime_increment (w : SharedWakelock) (delta : ℕ) (now : ℤ) :
    (w.incrementRefCountAndMaybeAcquireWakelock delta now).2.mWakelockTimeoutResetTime =
      w.mWakelockTimeoutResetTime := by
  unfold incrementRefCountAndMaybeAcquireWakelock
  split <;> rfl

/-- Giving references back does nothing, or it takes them off a positive count. -/
theorem decrement_cases (w : SharedWakelock) (delta : ℕ) (timeoutStart : ℤ) :
    w.decrementRefCountAndMaybeReleaseWakelock delta timeoutStart = w ∨
    (0 < w.mWakelockRefCount ∧ w.decrementRefCountAndMaybeReleaseWakelock delta timeoutStart =
      { w with
        mWakelockRefCount := w.mWakelockRefCount - delta
        held := if w.mWakelockRefCount - delta = 0 then false else w.held }) := by
  have hmin : w.mWakelockRefCount - min w.mWakelockRefCount delta =
      w.mWakelockRefCount - delta := by omega
  rw [decrementRefCountAndMaybeReleaseWakelock, hmin]
  split
  · exact Or.inl rfl
  · by_cases hearly : w.mWakelockRefCount = 0 ∨
        (if timeoutStart = -1 then w.mWakelockTimeoutResetTime else timeoutStart) <
          w.mWakelockTimeoutResetTime
    · exact Or.inl (if_pos hearly)
    · exact Or.inr ⟨by omega, if_neg hearly⟩

@[simp] theorem mThreadsRun_decrement :
    (w.decrementRefCountAndMaybeReleaseWakelock delta timeoutStart).mThreadsRun =
      w.mThreadsRun := by
  rcases w.decrement_cases delta timeoutStart with h | ⟨-, h⟩ <;> rw [h]

theorem mWakelockTimeoutResetTime_decrement (w : SharedWakelock) (delta : ℕ)
    (timeoutStart : ℤ) :
    (w.decrementRefCountAndMaybeReleaseWakelock delta timeoutStart).mWakelockTimeoutResetTime =
      w.mWakelockTimeoutResetTime := by
  rcases w.decrement_cases delta timeoutStart with h | ⟨-, h⟩ <;> rw [h]

/-- Giving back nothing changes nothing. -/
theorem decrement_zero (w : SharedWakelock) (timeoutStart : ℤ) :
    w.decrementRefCountAndMaybeReleaseWakelock 0 timeoutStart = w := by
  rcases w.decrement_cases 0 timeoutStart with h | ⟨hpos, h⟩
  · exact h
  · rw [h, Nat.sub_zero, if_neg (by omega)]

/-- A reference that is not older than the last reset is given back. -/
theorem mWakelockRefCount_decrement (h : w.mThreadsRun = true) (delta : ℕ) (timeoutStart : ℤ)
    (hstart : timeoutStart = -1 ∨ w.mWakelockTimeoutResetTime ≤ timeoutStart) :
    (w.decrementRefCountAndMaybeReleaseWakelock delta timeoutStart).mWakelockRefCount =
      w.mWakelockRefCount - delta := by
  have hnot : ¬ ((if timeoutStart = -1 then w.mWakelockTimeoutResetTime else timeoutStart) <
      w.mWakelockTimeoutResetTime) := by
    split <;> omega
  by_cases hzero : w.mWakelockRefCount = 0
  · simp [decrementRefCountAndMaybeReleaseWakelock, h, hzero]
  · simp only [decrementRefCountAndMaybeReleaseWakelock, h, hzero, hnot, or_self, if_false,
      Bool.not_true, Bool.false_eq_true]
    omega

/-- An older one may be left in the count, but never more is given back than asked
for. -/
theorem le_mWakelockRefCount_decrement (w : SharedWakelock) (delta : ℕ) (timeoutStart : ℤ) :
    w.mWakelockRefCount - delta ≤
      (w.decrementRefCountAndMaybeReleaseWakelock delta timeoutStart).mWakelockRefCount := by
  rcases w.decrement_cases delta timeoutStart with h | ⟨-, h⟩
  · rw [h]
    exact Nat.sub_le _ _
  · rw [h]

/-! ## The count and the kernel's lock -/

/-- The kernel's lock is held exactly while the count is positive. -/
def Agrees (w : SharedWakelock) : Prop := w.held = true ↔ 0 < w.mWakelockRefCount

instance (w : SharedWakelock) : Decidable w.Agrees := inferInstanceAs (Decidable (_ ↔ _))

/-- Taking references keeps the agreement exactly if it leaves the count positive:
none taken at zero acquires the lock all the same. -/
theorem Agrees.increment_iff (h : w.Agrees) (hrun : w.mThreadsRun = true) :
    (w.incrementRefCountAndMaybeAcquireWakelock delta now).2.Agrees ↔
      ¬ (w.mWakelockRefCount = 0 ∧ delta = 0) := by
  rw [increment_of_running hrun]
  unfold Agrees at *
  by_cases hzero : w.mWakelockRefCount = 0
  · simp [hzero, Nat.pos_iff_ne_zero]
  · have hheld : w.held = true := h.2 (by omega)
    simp only [if_neg hzero, hheld, true_iff]
    omega

/-- Giving references back keeps the agreement. -/
theorem Agrees.decrement (h : w.Agrees) :
    (w.decrementRefCountAndMaybeReleaseWakelock delta timeoutStart).Agrees := by
  rcases w.decrement_cases delta timeoutStart with heq | ⟨hpos, heq⟩
  · rw [heq]
    exact h
  · have hheld : w.held = true := h.2 hpos
    rw [heq]
    show (if w.mWakelockRefCount - delta = 0 then false else w.held) = true ↔
      0 < w.mWakelockRefCount - delta
    rw [hheld]
    split
    · rename_i hzero
      simp [hzero]
    · rename_i hzero
      simpa using Nat.pos_of_ne_zero hzero

theorem Agrees.reset (h : w.Agrees) : (w.resetSharedWakelock now).Agrees :=
  (h.decrement : (w.decrementRefCountAndMaybeReleaseWakelock w.mWakelockRefCount (-1)).Agrees)

end SharedWakelock

end Sensors
