/-
# The lockout protocol of a session, on its own

What the framework sees of a session's lockout is decided by five events (a
reset, a check of the sensor, a match, a failed attempt, the expiry of a timer)
acting on a tracker, two flags and the sleeping timer threads.  This file states
that protocol apart from the rest of the session; `SessionRun.lean` shows that
every step of a session is one of these events or none (`step_lockout`).

Main facts, each by cases on the event:

* `Timers.apply` : at most one timer sleeps, and exactly when it is counted as
  started;
* `Permanent.apply` : a timer left from a timed lockout cannot lift a permanent
  one;
* `TimedFor.apply` : a timer started for the running timed lockout does not wake
  before its thirty seconds are over.
-/
import PongHal.LockoutTracker

namespace Fingerprint

/-- The callbacks that carry the outcome of a lockout or of a match. -/
inductive Signal
  | succeeded
  | lockoutTimed
  | lockoutPermanent
  | lockoutCleared
  deriving DecidableEq, Repr

/-- How the framework is told of a mode; it is not told that the sensor is free. -/
def LockoutMode.signals : LockoutMode → List Signal
  | .none => []
  | .timed => [.lockoutTimed]
  | .permanent => [.lockoutPermanent]

/-- Everything that touches the lockout of a session. -/
inductive LockoutEvent
  | quiet
  | reset
  | check
  | success
  | failure
  | expiry (i : ℕ)
  deriving DecidableEq, Repr

/-- The lockout part of a session: the tracker, `mIsLockoutTimerStarted`,
`mIsLockoutTimerAborted`, and the wake-up times of the sleeping timer threads. -/
structure Lockout where
  tracker : LockoutTracker
  started : Bool
  aborted : Bool
  timers : List ℕ
  deriving DecidableEq, Repr

/-- When a thread wakes that goes to sleep at `now` for `timeoutMillis`
milliseconds (not at all for a negative number of them). -/
def wakeTime (now : ℕ) (timeoutMillis : ℤ) : ℕ := now + timeoutMillis.toNat * nanosPerMilli

namespace Lockout

/-- The lockout of a session that has just been created. -/
def init : Lockout where
  tracker := .init
  started := false
  aborted := false
  timers := []

section Events

variable [Util]

/-- The mode of the lockout at time `now`. -/
def mode (L : Lockout) (now : ℕ) : LockoutMode := L.tracker.mode now

/-- A look at the sensor's lockout, which reports it and starts a timer for a
timed one unless one is already counted as started. -/
def check (L : Lockout) (now : ℕ) : Lockout × List Signal :=
  match L.tracker.mode now with
  | .permanent => ({ L with aborted := true }, [.lockoutPermanent])
  | .timed =>
      if L.started then (L, [.lockoutTimed])
      else
        ({ L with
            started := true
            aborted := false
            timers := L.timers ++ [wakeTime now (L.tracker.getLockoutTimeLeft now)] },
         [.lockoutTimed])
  | .none => ({ L with tracker := (L.tracker.getMode now).2 }, [])

/-- The lockout after an event at time `now`, and what the framework is told. -/
def apply (L : Lockout) (e : LockoutEvent) (now : ℕ) : Lockout × List Signal :=
  match e with
  | .quiet => (L, [])
  | .reset => ({ L with tracker := L.tracker.reset true, aborted := true }, [.lockoutCleared])
  | .check => L.check now
  | .success => ({ L with tracker := L.tracker.reset true }, [.succeeded])
  | .failure => { L with tracker := L.tracker.addFailedAttempt now }.check now
  | .expiry i =>
      ({ tracker := if L.aborted then L.tracker else L.tracker.reset false
         started := false
         aborted := false
         timers := L.timers.eraseIdx i },
       if L.aborted then [] else [.lockoutCleared])

variable {L : Lockout} {now : ℕ}

/-- The expiry of an aborted timer leaves the tracker alone. -/
theorem tracker_expiry_of_aborted (i now : ℕ) (h : L.aborted = true) :
    (L.apply (.expiry i) now).1.tracker = L.tracker := by
  simp [apply, h]

/-! ## What a check can do -/

theorem check_of_permanent (h : L.mode now = .permanent) :
    L.check now = ({ L with aborted := true }, [.lockoutPermanent]) := by
  unfold mode at h
  simp only [check, h]

theorem check_of_timed_started (h : L.mode now = .timed) (hs : L.started = true) :
    L.check now = (L, [.lockoutTimed]) := by
  unfold mode at h
  simp only [check, h, hs, if_true]

theorem check_of_timed_not_started (h : L.mode now = .timed) (hs : L.started = false) :
    L.check now =
      ({ L with
          started := true
          aborted := false
          timers := L.timers ++ [wakeTime now (L.tracker.getLockoutTimeLeft now)] },
       [.lockoutTimed]) := by
  unfold mode at h
  simp [check, h, hs]

theorem check_of_none (h : L.mode now = .none) :
    L.check now = ({ L with tracker := (L.tracker.getMode now).2 }, []) := by
  unfold mode at h
  simp only [check, h]

/-- A check of a timed lockout leaves the tracker alone. -/
theorem tracker_check_of_timed (h : L.mode now = .timed) :
    (L.check now).1.tracker = L.tracker := by
  cases hs : L.started with
  | true => rw [check_of_timed_started h hs]
  | false => rw [check_of_timed_not_started h hs]

/-- A check never changes the failed-attempt count. -/
theorem mFailedCount_check :
    (L.check now).1.tracker.mFailedCount = L.tracker.mFailedCount := by
  unfold check
  split
  · rfl
  · split <;> rfl
  · simp

/-- A check never changes the mode, then or later. -/
theorem mode_check {later : ℕ} (h : now ≤ later) :
    (L.check now).1.mode later = L.mode later := by
  unfold check
  split
  · rfl
  · split <;> rfl
  · exact L.tracker.mode_getMode now h

/-- What is in the tracker after a check is the mode the check found. -/
theorem mCurrentMode_check :
    (L.check now).1.tracker.mCurrentMode = L.mode now := by
  unfold check mode
  split
  case h_1 h => rw [h]; exact (LockoutTracker.mode_eq_permanent_iff _ _).1 h
  case h_2 h =>
    rw [h]
    split <;> exact ((LockoutTracker.mode_eq_timed_iff _ _).1 h).1
  case h_3 h => rw [h, LockoutTracker.mCurrentMode_getMode, h]

/-- A check reports the mode it found, and nothing when the sensor is free. -/
theorem signals_check : (L.check now).2 = (L.mode now).signals := by
  unfold check mode
  split
  case h_1 h => rw [h]; rfl
  case h_2 h => rw [h]; split <;> rfl
  case h_3 h => rw [h]; rfl

/-! ## What an event does to the count and tells the framework -/

/-- The failed-attempt count after an event. -/
theorem mFailedCount_apply (e : LockoutEvent) :
    (L.apply e now).1.tracker.mFailedCount =
      match e with
      | .reset | .success => 0
      | .failure => L.tracker.mFailedCount + 1
      | _ => L.tracker.mFailedCount := by
  cases e with
  | quiet => rfl
  | reset => rfl
  | success => rfl
  | check => exact mFailedCount_check
  | failure => exact mFailedCount_check.trans (L.tracker.mFailedCount_addFailedAttempt now)
  | expiry i => cases ha : L.aborted <;> simp [apply, ha, LockoutTracker.reset]

/-- Only a match is reported as one. -/
theorem succeeded_mem_apply (e : LockoutEvent) :
    .succeeded ∈ (L.apply e now).2 ↔ e = .success := by
  have hcheck : ∀ L : Lockout, .succeeded ∉ (L.check now).2 := by
    intro L
    rw [signals_check]
    cases L.mode now <;> simp [LockoutMode.signals]
  cases e with
  | check => simpa [apply] using hcheck L
  | failure => simpa [apply] using hcheck _
  | expiry i => cases ha : L.aborted <;> simp [apply, ha]
  | _ => simp [apply]

/-- The event finds a timed lockout in force and reports it: a check in `TIMED`
mode, or a failure that reaches or keeps it. -/
def ReportsTimed (L : Lockout) (e : LockoutEvent) (now : ℕ) : Prop :=
  match e with
  | .check => L.mode now = .timed
  | .failure => (L.tracker.addFailedAttempt now).mode now = .timed
  | _ => False

instance (L : Lockout) (e : LockoutEvent) (now : ℕ) : Decidable (L.ReportsTimed e now) :=
  match e with
  | .check => inferInstanceAs (Decidable (L.mode now = .timed))
  | .failure => inferInstanceAs (Decidable ((L.tracker.addFailedAttempt now).mode now = .timed))
  | .quiet | .reset | .success | .expiry _ => inferInstanceAs (Decidable False)

end Events

/-- The last lockout callback after some signals, given the last one before
them. -/
def newest (last : Option Signal) (sigs : List Signal) : Option Signal :=
  sigs.foldl (fun last s => if s = .succeeded then last else some s) last

theorem newest_append (last : Option Signal) (sigs sigs' : List Signal) :
    newest last (sigs ++ sigs') = newest (newest last sigs) sigs' :=
  List.foldl_append

/-! ## The timers -/

section Timers

variable {L : Lockout} {now : ℕ}

/-- At most one timer sleeps, and exactly when one is counted as started. -/
def Timers (L : Lockout) : Prop :=
  L.timers.length = if L.started then 1 else 0

theorem Timers.init : Timers .init := rfl

/-- A sleeping timer is counted as started. -/
theorem Timers.started_of_lt {i : ℕ} (h : Timers L) (hi : i < L.timers.length) :
    L.started = true := by
  by_contra hns
  rw [Timers, if_neg hns] at h
  omega

variable [Util]

theorem Timers.check (h : Timers L) : Timers (L.check now).1 := by
  unfold Timers at *
  cases hmode : L.mode now with
  | permanent => rw [check_of_permanent hmode]; exact h
  | none => rw [check_of_none hmode]; exact h
  | timed =>
      cases hs : L.started with
      | true => rw [check_of_timed_started hmode hs]; exact h
      | false =>
          rw [check_of_timed_not_started hmode hs]
          rw [hs] at h
          simpa using h

/-- Every event keeps the count of sleeping timers; a timer that expires must be
one of them. -/
theorem Timers.apply {e : LockoutEvent} (h : Timers L)
    (he : ∀ i, e = .expiry i → i < L.timers.length) : Timers (L.apply e now).1 := by
  cases e with
  | quiet => exact h
  | reset => exact h
  | check => exact h.check
  | success => exact h
  | failure =>
      have hfailed : Timers { L with tracker := L.tracker.addFailedAttempt now } := h
      exact hfailed.check
  | expiry i =>
      have hi := he i rfl
      unfold Timers at *
      simp only [Lockout.apply, List.length_eraseIdx_of_lt hi, h]
      split <;> rfl

end Timers

/-! ## The permanent lockout -/

section Permanent

variable {L : Lockout} {now : ℕ}

/-- Twenty failures stand behind a permanent lockout, and a timer that still
sleeps when it begins is aborted. -/
structure Permanent (L : Lockout) : Prop where
  count : L.tracker.mCurrentMode = .permanent → 20 ≤ L.tracker.mFailedCount.toInt
  aborted : L.tracker.mCurrentMode = .permanent → L.started = true → L.aborted = true

theorem Permanent.init : Permanent .init where
  count := by simp [Lockout.init, LockoutTracker.init]
  aborted := by simp [Lockout.init, LockoutTracker.init]

theorem Permanent.of_ne (h : L.tracker.mCurrentMode ≠ .permanent) : Permanent L where
  count := fun hp => absurd hp h
  aborted := fun hp => absurd hp h

variable [Util]

/-- After a check only the count can be missing for a permanent lockout: the check
itself aborts the timer. -/
theorem Permanent.check
    (hcount : L.tracker.mCurrentMode = .permanent → 20 ≤ L.tracker.mFailedCount.toInt) :
    Permanent (L.check now).1 := by
  by_cases hmode : L.mode now = .permanent
  · -- the flag is set whether a timer is asleep or not
    rw [check_of_permanent hmode]
    exact ⟨hcount, fun _ _ => rfl⟩
  · apply Permanent.of_ne
    rw [mCurrentMode_check]
    exact hmode

/-- Every event keeps the facts behind a permanent lockout while the counter does
not overflow. -/
theorem Permanent.apply {e : LockoutEvent} (h : Permanent L)
    (hcount : e = .failure → L.tracker.mFailedCount.toInt < 2 ^ 31 - 1) :
    Permanent (L.apply e now).1 := by
  cases e with
  | quiet => exact h
  | reset => exact .of_ne (by simp [Lockout.apply, LockoutTracker.reset])
  | check => exact .check h.count
  | success => exact .of_ne (by simp [Lockout.apply, LockoutTracker.reset])
  | failure =>
      have hlt := hcount rfl
      have hsucc := L.tracker.failedCount_addFailedAttempt now hlt
      -- the check after the attempt aborts the timer, so only the count is to be shown
      refine Permanent.check ?_
      intro hp
      show 20 ≤ (L.tracker.addFailedAttempt now).mFailedCount.toInt
      rcases L.tracker.addFailedAttempt_cases now with ⟨h20, heq⟩ | ⟨-, -, heq⟩ | ⟨-, heq⟩
      · rw [LockoutTracker.mFailedCount_addFailedAttempt]
        exact h20
      · simp [heq] at hp
      · have hold : L.tracker.mCurrentMode = .permanent := by simpa [heq] using hp
        have h20 := h.count hold
        omega
  | expiry i =>
      refine ⟨?_, fun _ hs => by simp [Lockout.apply] at hs⟩
      -- a live timer resets the tracker, and with it the permanent mode
      cases ha : L.aborted with
      | true => simpa [Lockout.apply, ha] using h.count
      | false => simp [Lockout.apply, ha, LockoutTracker.reset]

/-- A permanent lockout stays permanent under every event but a reset and a
match, and the expiry of a timer in particular does not lift it. -/
theorem Permanent.mode_apply {e : LockoutEvent} {later : ℕ} (h : Permanent L)
    (htimers : Timers L) (hp : L.mode now = .permanent)
    (hcount : e = .failure → L.tracker.mFailedCount.toInt < 2 ^ 31 - 1) (hle : now ≤ later)
    (he : ∀ i, e = .expiry i → i < L.timers.length)
    (hreset : e ≠ .reset) (hsuccess : e ≠ .success) :
    (L.apply e now).1.mode later = .permanent := by
  have hcur : L.tracker.mCurrentMode = .permanent :=
    (LockoutTracker.mode_eq_permanent_iff _ _).1 hp
  have hlater : L.mode later = .permanent :=
    (LockoutTracker.mode_eq_permanent_iff _ _).2 hcur
  cases e with
  | quiet => exact hlater
  | reset => exact absurd rfl hreset
  | success => exact absurd rfl hsuccess
  | check =>
      show (L.check now).1.mode later = .permanent
      rw [mode_check hle]
      exact hlater
  | failure =>
      have hsucc := L.tracker.failedCount_addFailedAttempt now (hcount rfl)
      have h20 := h.count hcur
      show (Lockout.check _ now).1.mode later = .permanent
      rw [mode_check hle]
      apply (LockoutTracker.mode_eq_permanent_iff _ _).2
      rw [LockoutTracker.addFailedAttempt_permanent]
      rw [← LockoutTracker.mFailedCount_addFailedAttempt _ now]
      omega
  | expiry i =>
      -- the sleeping timer is counted as started, so the lockout has aborted it
      have hstarted : L.started = true := htimers.started_of_lt (he i rfl)
      have haborted := h.aborted hcur hstarted
      rw [mode, tracker_expiry_of_aborted i now haborted]
      exact hlater

end Permanent

/-! ## The timed lockout -/

section TimedFor

variable {L : Lockout} {now : ℕ}

/-- What stands behind a timed lockout at time `now`: its count, its start, and
that a live timer does not wake before the thirty seconds from the start are
over. -/
structure TimedFor (L : Lockout) (now : ℕ) : Prop where
  count : L.tracker.mCurrentMode = .timed →
    5 ≤ L.tracker.mFailedCount.toInt ∧ L.tracker.mFailedCount.toInt < 20
  start : L.tracker.mCurrentMode = .timed →
    0 < L.tracker.mLockoutTimedStart ∧ L.tracker.mLockoutTimedStart ≤ now
  wake : L.tracker.mCurrentMode = .timed → L.started = true → L.aborted = false →
    ∀ w ∈ L.timers, L.tracker.mLockoutTimedStart + lockoutTimedDuration * nanosPerMilli ≤ w

theorem TimedFor.of_ne (h : L.tracker.mCurrentMode ≠ .timed) : TimedFor L now where
  count := fun ht => absurd ht h
  start := fun ht => absurd ht h
  wake := fun ht => absurd ht h

theorem TimedFor.init : TimedFor .init now :=
  .of_ne (by simp [Lockout.init, LockoutTracker.init])

theorem TimedFor.mono {later : ℕ} (h : TimedFor L now) (hle : now ≤ later) :
    TimedFor L later where
  count := h.count
  start := fun ht => ⟨(h.start ht).1, le_trans (h.start ht).2 hle⟩
  wake := h.wake

/-- A timer started by a check sleeps at least for the rest of the thirty
seconds: the time left is rounded up to whole milliseconds. -/
theorem le_wakeTime (hpos : 0 < L.tracker.mLockoutTimedStart)
    (hle : L.tracker.mLockoutTimedStart ≤ now) :
    L.tracker.mLockoutTimedStart + lockoutTimedDuration * nanosPerMilli ≤
      wakeTime now (L.tracker.getLockoutTimeLeft now) := by
  rw [wakeTime, LockoutTracker.getLockoutTimeLeft, if_pos hpos]
  unfold lockoutTimedDuration nanosPerMilli at *
  omega

variable [Util]

theorem TimedFor.check (h : TimedFor L now) (htimers : Timers L) :
    TimedFor (L.check now).1 now := by
  cases hmode : L.mode now with
  | permanent =>
      apply TimedFor.of_ne
      rw [mCurrentMode_check, hmode]
      simp
  | none =>
      apply TimedFor.of_ne
      rw [mCurrentMode_check, hmode]
      simp
  | timed =>
      cases hs : L.started with
      | true =>
          rw [check_of_timed_started hmode hs]
          exact h
      | false =>
          rw [check_of_timed_not_started hmode hs]
          refine ⟨h.count, h.start, ?_⟩
          intro ht _ _ w hw
          -- no timer was asleep, so the new one is the only one
          have hnone : L.timers = [] := by
            rw [Timers, hs] at htimers
            exact List.length_eq_zero_iff.1 htimers
          simp only [hnone, List.nil_append, List.mem_singleton] at hw
          rw [hw]
          exact le_wakeTime (h.start ht).1 (h.start ht).2

/-- A failed attempt is counted without harm to the running timed lockout when it
does not find a live timer. -/
theorem TimedFor.addFailedAttempt (h : TimedFor L now) (hpos : 0 < now)
    (hlive : (L.tracker.addFailedAttempt now).mode now = .timed →
      L.started = true → L.aborted = true) :
    TimedFor { L with tracker := L.tracker.addFailedAttempt now } now := by
  rcases L.tracker.addFailedAttempt_cases now with ⟨h20, heq⟩ | ⟨h5, h20, heq⟩ | ⟨h5, heq⟩
  · exact .of_ne (by simp [heq])
  · have htimed : (L.tracker.addFailedAttempt now).mode now = .timed := by
      apply (LockoutTracker.mode_eq_timed_iff _ _).2
      simp [heq, LockoutTracker.hasElapsed_self]
    refine ⟨fun _ => ?_, fun _ => ?_, fun _ hs ha => ?_⟩
    · show 5 ≤ (L.tracker.addFailedAttempt now).mFailedCount.toInt ∧ _
      rw [heq]
      exact ⟨h5, h20⟩
    · simpa [heq] using hpos
    · -- a timer that is asleep is aborted, so there is no live one
      have haborted := hlive htimed hs
      rw [haborted] at ha
      simp at ha
  · -- a timed lockout stands on five failures, so this attempt found none
    apply TimedFor.of_ne
    intro ht
    have hold : L.tracker.mCurrentMode = .timed := by simpa [heq] using ht
    have hcount := h.count hold
    have hsucc := L.tracker.failedCount_addFailedAttempt now (by omega)
    rw [LockoutTracker.mFailedCount_addFailedAttempt] at hsucc
    omega

/-- Every event keeps the facts behind a timed lockout, a failed attempt as long
as it does not find a live timer. -/
theorem TimedFor.apply {e : LockoutEvent} (h : TimedFor L now) (htimers : Timers L)
    (hpos : 0 < now)
    (hlive : e = .failure → (L.tracker.addFailedAttempt now).mode now = .timed →
      L.started = true → L.aborted = true) :
    TimedFor (L.apply e now).1 now := by
  cases e with
  | quiet => exact h
  | reset => exact .of_ne (by simp [Lockout.apply, LockoutTracker.reset])
  | check => exact h.check htimers
  | success => exact .of_ne (by simp [Lockout.apply, LockoutTracker.reset])
  | failure =>
      have hfailed := h.addFailedAttempt hpos (hlive rfl)
      exact hfailed.check htimers
  | expiry i =>
      cases ha : L.aborted with
      | false => exact .of_ne (by simp [Lockout.apply, ha, LockoutTracker.reset])
      | true =>
          have htracker := tracker_expiry_of_aborted i now ha
          refine ⟨?_, ?_, fun _ hs => by simp [Lockout.apply] at hs⟩
          · rw [htracker]
            exact h.count
          · rw [htracker]
            exact h.start

/-- A timed lockout that an event leaves behind started with that event, if it was
a failure, and otherwise before it. -/
theorem TimedFor.start_apply {e : LockoutEvent} (h : TimedFor L now)
    (ht : (L.apply e now).1.tracker.mCurrentMode = .timed) :
    if e = .failure then (L.apply e now).1.tracker.mLockoutTimedStart = now
    else L.tracker.mCurrentMode = .timed ∧
      (L.apply e now).1.tracker.mLockoutTimedStart = L.tracker.mLockoutTimedStart := by
  cases e with
  | quiet => exact ⟨ht, rfl⟩
  | reset => simp [Lockout.apply, LockoutTracker.reset] at ht
  | success => simp [Lockout.apply, LockoutTracker.reset] at ht
  | check =>
      have hmode : L.mode now = .timed := mCurrentMode_check.symm.trans ht
      have htracker : (L.apply .check now).1.tracker = L.tracker := tracker_check_of_timed hmode
      rw [htracker] at ht
      exact ⟨ht, by rw [htracker]⟩
  | failure =>
      have hmode : (L.tracker.addFailedAttempt now).mode now = .timed :=
        mCurrentMode_check.symm.trans ht
      have htracker : (L.apply .failure now).1.tracker = L.tracker.addFailedAttempt now :=
        tracker_check_of_timed hmode
      rw [if_pos rfl, htracker]
      have hcur := ((LockoutTracker.mode_eq_timed_iff _ _).1 hmode).1
      rcases L.tracker.addFailedAttempt_cases now with ⟨-, heq⟩ | ⟨-, -, heq⟩ | ⟨h5, heq⟩
      · simp [heq] at hcur
      · rw [heq]
      · -- below five failures the tracker would have been in `TIMED` mode before
        have hcount := h.count (by simpa [heq] using hcur)
        have hsucc := L.tracker.failedCount_addFailedAttempt now (by omega)
        rw [LockoutTracker.mFailedCount_addFailedAttempt] at hsucc
        omega
  | expiry i =>
      cases ha : L.aborted with
      | false => simp [Lockout.apply, ha, LockoutTracker.reset] at ht
      | true =>
          have htracker := tracker_expiry_of_aborted i now ha
          rw [htracker] at ht
          exact ⟨ht, by rw [htracker]⟩

/-- A timed lockout outlasts every event before its thirty seconds are over,
except a reset, a match and the failure that makes it permanent. -/
theorem TimedFor.mode_apply {e : LockoutEvent} {later : ℕ} (h : TimedFor L now)
    (htimers : Timers L) (ht : L.mode now = .timed) (hle : now ≤ later)
    (hlt : later < L.tracker.mLockoutTimedStart + lockoutTimedDuration * nanosPerMilli)
    (he : ∀ i, e = .expiry i → ∃ w, L.timers[i]? = some w ∧ w ≤ now)
    (hreset : e ≠ .reset) (hsuccess : e ≠ .success) :
    (L.apply e now).1.mode later = .timed ∨
      e = .failure ∧ (L.apply e now).1.mode later = .permanent := by
  have hcur : L.tracker.mCurrentMode = .timed :=
    ((LockoutTracker.mode_eq_timed_iff _ _).1 ht).1
  have hlater : L.mode later = .timed := LockoutTracker.mode_timed_of_lt _ _ hcur hlt
  cases e with
  | quiet => exact Or.inl hlater
  | reset => exact absurd rfl hreset
  | success => exact absurd rfl hsuccess
  | check =>
      left
      show (L.check now).1.mode later = .timed
      rw [mode_check hle]
      exact hlater
  | failure =>
      have hcount := h.count hcur
      have hsucc := L.tracker.failedCount_addFailedAttempt now (by omega)
      rw [LockoutTracker.mFailedCount_addFailedAttempt] at hsucc
      show (Lockout.check _ now).1.mode later = .timed ∨
        _ ∧ (Lockout.check _ now).1.mode later = .permanent
      rw [mode_check hle]
      rcases L.tracker.addFailedAttempt_cases now with ⟨h20, heq⟩ | ⟨h5, h20, heq⟩ | ⟨h5, heq⟩
      · right
        refine ⟨rfl, (LockoutTracker.mode_eq_permanent_iff _ _).2 ?_⟩
        simp [heq]
      · left
        -- the lockout starts afresh at `now`, which is not before its old start
        have hstart := (h.start hcur).2
        apply LockoutTracker.mode_timed_of_lt
        · simp [heq]
        · simp only [heq]
          omega
      · omega
  | expiry i =>
      left
      obtain ⟨w, hw, hwake⟩ := he i rfl
      have hi : i < L.timers.length := (List.getElem?_eq_some_iff.1 hw).1
      have hstarted : L.started = true := htimers.started_of_lt hi
      cases ha : L.aborted with
      | true =>
          rw [mode, tracker_expiry_of_aborted i now ha]
          exact hlater
      | false =>
          -- a live timer does not wake before the thirty seconds are over
          have hwle := h.wake hcur hstarted ha w (List.mem_of_getElem? hw)
          omega

end TimedFor

/-! ## A lockout that was never reset -/

section Counts

variable {L : Lockout} {now : ℕ}

/-- The mode that the `n`-th failure leads to when no match and no reset came before
it.  The counter has 32 bits and comes round to the timed lockout after `2 ^ 32`
failures; until it does, a lockout that is already permanent stays so. -/
def modeAfter (n : ℕ) : LockoutMode :=
  if n < 5 then .none
  else if 5 ≤ n % 2 ^ 32 ∧ n % 2 ^ 32 < 20 then .timed
  else .permanent

theorem modeAfter_eq_none {n : ℕ} : modeAfter n = .none ↔ n < 5 := by
  unfold modeAfter
  split
  · simpa
  · split <;> simpa using by omega

theorem modeAfter_eq_timed {n : ℕ} :
    modeAfter n = .timed ↔ 5 ≤ n % 2 ^ 32 ∧ n % 2 ^ 32 < 20 := by
  unfold modeAfter
  split
  · simp only [reduceCtorEq, false_iff]
    omega
  · split
    · rename_i hband
      exact iff_of_true rfl hband
    · rename_i hband
      exact iff_of_false (by simp) hband

theorem modeAfter_eq_permanent {n : ℕ} :
    modeAfter n = .permanent ↔ 5 ≤ n ∧ ¬ (5 ≤ n % 2 ^ 32 ∧ n % 2 ^ 32 < 20) := by
  unfold modeAfter
  split
  · simp only [reduceCtorEq, false_iff]
    omega
  · split
    · simp only [reduceCtorEq, false_iff]
      omega
    · simp only [true_iff]
      omega

/-- The lockout of a session that has seen `n` failures, no match and no reset. -/
structure Counts (n : ℕ) (L : Lockout) : Prop where
  count : L.tracker.mFailedCount = Int32.ofNat n
  free : modeAfter n = .none → L.tracker.mCurrentMode = .none
  locked : modeAfter n = .permanent → L.tracker.mCurrentMode = .permanent
  aborted : modeAfter n = .permanent → L.started = true → L.aborted = true

theorem Counts.init : Counts 0 .init := by
  refine ⟨rfl, fun _ => rfl, fun h => ?_, fun h => ?_⟩ <;> simp [modeAfter] at h

/-- The counter after the `n + 1`-st failure. -/
theorem Counts.count_succ {n : ℕ} (h : Counts n L) :
    L.tracker.mFailedCount + 1 = Int32.ofNat (n + 1) := by
  rw [h.count, Int32.ofNat_add]
  rfl

variable [Util]

/-- The mode right after the `n + 1`-st failure, before any time has passed. -/
theorem Counts.mode_addFailedAttempt {n : ℕ} (h : Counts n L) :
    (L.tracker.addFailedAttempt now).mode now = modeAfter (n + 1) := by
  have hval : (Int32.ofNat (n + 1)).toInt = ((n + 1 : ℕ) : ℤ).bmod (2 ^ 32) :=
    Int32.toInt_ofNat'
  rw [Int.bmod_def] at hval
  have hcases := L.tracker.addFailedAttempt_cases now
  rw [h.count_succ, hval] at hcases
  rcases hcases with ⟨h20, heq⟩ | ⟨h5, h20, heq⟩ | ⟨h5, heq⟩
  · rw [modeAfter_eq_permanent.2 (by split at h20 <;> omega)]
    exact (LockoutTracker.mode_eq_permanent_iff _ _).2 (by rw [heq])
  · rw [modeAfter_eq_timed.2 (by split at h5 <;> omega)]
    apply (LockoutTracker.mode_eq_timed_iff _ _).2
    simp [heq, LockoutTracker.hasElapsed_self]
  · -- the mode is the one before the failure, which has not come to a threshold
    have hmode : (L.tracker.addFailedAttempt now).mCurrentMode = L.tracker.mCurrentMode := by
      rw [heq]
    by_cases hfew : n + 1 < 5
    · rw [modeAfter_eq_none.2 hfew]
      have hfree := h.free (modeAfter_eq_none.2 (by omega))
      rw [LockoutTracker.mode, LockoutTracker.getMode_of_ne_timed _ _ (by simp [hmode, hfree])]
      exact hmode.trans hfree
    · -- the counter has wrapped to a negative value or has come round to zero
      have hround : 2 ^ 31 ≤ n + 1 ∧
          ((n + 1) % 2 ^ 32 < 5 ∨ 2 ^ 31 ≤ (n + 1) % 2 ^ 32) := by
        split at h5 <;> omega
      rw [modeAfter_eq_permanent.2 (by omega)]
      have hlocked := h.locked (modeAfter_eq_permanent.2 (by omega))
      exact (LockoutTracker.mode_eq_permanent_iff _ _).2 (hmode.trans hlocked)

/-- A check keeps the count and what stands on it. -/
theorem Counts.check {n : ℕ} (h : Counts n L) : Counts n (L.check now).1 := by
  refine ⟨?_, ?_, ?_, ?_⟩
  · rw [mFailedCount_check]
    exact h.count
  · intro hn
    have hfree := h.free hn
    rw [mCurrentMode_check, mode, LockoutTracker.mode,
      LockoutTracker.getMode_of_ne_timed _ _ (by simp [hfree])]
    exact hfree
  · intro hn
    rw [mCurrentMode_check]
    exact (LockoutTracker.mode_eq_permanent_iff _ _).2 (h.locked hn)
  · intro hn _
    have hmode : L.mode now = .permanent :=
      (LockoutTracker.mode_eq_permanent_iff _ _).2 (h.locked hn)
    rw [check_of_permanent hmode]

/-- The check that follows a failure leaves the mode the failure has led to, and
aborts a timer that is asleep if that mode is permanent. -/
theorem Counts.failure {n : ℕ} (h : Counts n L) :
    Counts (n + 1) (L.apply .failure now).1 := by
  have hmode : Lockout.mode { L with tracker := L.tracker.addFailedAttempt now } now =
      modeAfter (n + 1) := h.mode_addFailedAttempt
  refine ⟨?_, ?_, ?_, ?_⟩
  · rw [mFailedCount_apply]
    exact h.count_succ
  · intro hn
    exact (mCurrentMode_check.trans hmode).trans hn
  · intro hn
    exact (mCurrentMode_check.trans hmode).trans hn
  · intro hn _
    show (Lockout.check _ now).1.aborted = true
    rw [check_of_permanent (hmode.trans hn)]

/-- What a failure adds to the count, and every other event leaves of it. -/
theorem Counts.apply {n : ℕ} {e : LockoutEvent} (h : Counts n L) (htimers : Timers L)
    (he : ∀ i, e = .expiry i → i < L.timers.length)
    (hreset : e ≠ .reset) (hsuccess : e ≠ .success) :
    Counts (if e = .failure then n + 1 else n) (L.apply e now).1 := by
  cases e with
  | quiet => exact h
  | reset => exact absurd rfl hreset
  | success => exact absurd rfl hsuccess
  | check => exact h.check
  | failure => exact h.failure
  | expiry i =>
      have hstarted : L.started = true := htimers.started_of_lt (he i rfl)
      refine ⟨?_, ?_, ?_, fun _ hs => by simp [Lockout.apply] at hs⟩
      · rw [mFailedCount_apply]
        exact h.count
      · intro hn
        cases ha : L.aborted with
        | true =>
            rw [tracker_expiry_of_aborted i now ha]
            exact h.free hn
        | false => simp [Lockout.apply, ha, LockoutTracker.reset]
      · -- the failure that locked the sensor for good has aborted the timer
        intro hn
        rw [tracker_expiry_of_aborted i now (h.aborted hn hstarted)]
        exact h.locked hn

/-- What the framework is told of the `n + 1`-st failure. -/
theorem Counts.signals_failure {n : ℕ} (h : Counts n L) :
    (L.apply .failure now).2 = (modeAfter (n + 1)).signals := by
  show (Lockout.check _ now).2 = _
  rw [signals_check, mode, h.mode_addFailedAttempt]

end Counts

/-! ## The end of a timed lockout is announced -/

section ClearComing

variable {L : Lockout} {now : ℕ} [Util]

/-- When the framework was last told of a timed lockout, a live timer is going to
tell it of the end. -/
def ClearComing (last : Option Signal) (L : Lockout) : Prop :=
  last = some .lockoutTimed → L.started = true ∧ L.aborted = false

/-- A check that does not find an aborted timer in its way leaves a live one
behind every timed lockout it reports. -/
theorem ClearComing.check {last : Option Signal} (h : ClearComing last L)
    (hfree : L.mode now = .timed → ¬ (L.started = true ∧ L.aborted = true)) :
    ClearComing (newest last (L.check now).2) (L.check now).1 := by
  cases hmode : L.mode now with
  | permanent => simp [ClearComing, check_of_permanent hmode, newest]
  | none =>
      rw [check_of_none hmode]
      exact h
  | timed =>
      cases hs : L.started with
      | true =>
          have hlive : L.aborted = false := by
            by_contra ha
            exact hfree hmode ⟨hs, by simpa using ha⟩
          rw [check_of_timed_started hmode hs]
          exact fun _ => ⟨hs, hlive⟩
      | false =>
          rw [check_of_timed_not_started hmode hs]
          exact fun _ => ⟨rfl, rfl⟩

/-- Every event keeps the end of a timed lockout coming, as long as a timed
lockout is not reported past an aborted timer. -/
theorem ClearComing.apply {last : Option Signal} {e : LockoutEvent}
    (h : ClearComing last L)
    (hfree : L.ReportsTimed e now → ¬ (L.started = true ∧ L.aborted = true)) :
    ClearComing (newest last (L.apply e now).2) (L.apply e now).1 := by
  cases e with
  | quiet => exact h
  | reset => simp [ClearComing, Lockout.apply, newest]
  | check => exact h.check hfree
  | success => exact h
  | failure =>
      have hfailed : ClearComing last { L with tracker := L.tracker.addFailedAttempt now } := h
      exact hfailed.check hfree
  | expiry i =>
      cases ha : L.aborted with
      | false => simp [ClearComing, Lockout.apply, newest, ha]
      | true =>
          -- an aborted timer was not going to tell of an end
          intro hlast
          have hlast' : last = some .lockoutTimed := by
            simpa [Lockout.apply, newest, ha] using hlast
          have := (h hlast').2
          rw [ha] at this
          simp at this

/-- A timed lockout that is reported past an aborted timer leaves that timer as
the only one. -/
theorem not_clearComing_of_aborted (last : Option Signal) {e : LockoutEvent}
    (hreports : L.ReportsTimed e now) (hs : L.started = true) (ha : L.aborted = true) :
    ¬ ClearComing (newest last (L.apply e now).2) (L.apply e now).1 := by
  have hcheck : ∀ L : Lockout, L.mode now = .timed → L.started = true → L.aborted = true →
      ¬ ClearComing (newest last (L.check now).2) (L.check now).1 := by
    intro L hmode hs ha hcoming
    rw [check_of_timed_started hmode hs] at hcoming
    have := (hcoming rfl).2
    rw [ha] at this
    simp at this
  cases e with
  | check => exact hcheck L hreports hs ha
  | failure => exact hcheck _ hreports hs ha
  | quiet => exact absurd hreports id
  | reset => exact absurd hreports id
  | success => exact absurd hreports id
  | expiry i => exact absurd hreports id

end ClearComing

end Lockout

end Fingerprint
