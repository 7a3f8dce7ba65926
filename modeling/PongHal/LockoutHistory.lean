/-
# The lockout as a function of the history (`LockoutTracker.cpp`)

`LockoutTracker` keeps a mode that it brings up to date only when it is asked: `getMode`
clears a timed lockout that is over, `reset(false)` keeps the counter, and the next
failure enters the lockout again at once.  What the mode is to be does not need any of
this.  It follows from two things in the history: how many failures there were since the
counter was last cleared, and when the last failure was since the last reset of either
kind (`History.mode`).

`mode_refines_history`: at every call of `getMode` in every run the two agree, with the
platform's `Util`.  `Follows` is the invariant: the counter is that of the history, and
the stored mode is the right one or a timed lockout that is over.
-/
import PongHal.LockoutTracker
import PongHal.Machine

namespace Fingerprint

/-- The calls of the tracker. -/
inductive TrackerCall
  | addFailedAttempt
  | reset (clearAttemptCounter : Bool)
  | getMode
  | getLockoutTimeLeft
  deriving DecidableEq, Repr

/-- The call is not to change the lockout. -/
def TrackerCall.isQuery : TrackerCall → Bool
  | .getMode | .getLockoutTimeLeft => true
  | .addFailedAttempt | .reset _ => false

/-- What a call answers. -/
inductive TrackerAnswer
  | mode (mode : LockoutMode)
  | timeLeft (millis : ℤ)
  deriving DecidableEq, Repr

/-- A tracker and the last reading of the clock. -/
structure TrackerState where
  tracker : LockoutTracker
  now : ℕ
  deriving DecidableEq, Repr

/-- The tracker before its first call. -/
def TrackerState.init : TrackerState where
  tracker := .init
  now := 0

/-- A call with the reading of the clock that it takes, or would take: readings are
positive and do not go back. -/
def TrackerState.step (s : TrackerState) (l : ℕ × TrackerCall) :
    Option (TrackerState × List TrackerAnswer) :=
  if 0 < l.1 ∧ s.now ≤ l.1 then
    match l.2 with
    | .addFailedAttempt => some (⟨s.tracker.addFailedAttempt l.1, l.1⟩, [])
    | .reset clearAttemptCounter => some (⟨s.tracker.reset clearAttemptCounter, l.1⟩, [])
    | .getMode => some (⟨(s.tracker.getMode l.1).2, l.1⟩, [.mode (s.tracker.getMode l.1).1])
    | .getLockoutTimeLeft => some (⟨s.tracker, l.1⟩, [.timeLeft (s.tracker.getLockoutTimeLeft l.1)])
  else none

/-- The machine of the tracker. -/
def trackerMachine : Machine TrackerState (ℕ × TrackerCall) TrackerAnswer where
  step := TrackerState.step

/-- A step of the tracker's run. -/
abbrev TrackerTransition := Transition TrackerState (ℕ × TrackerCall) TrackerAnswer

/-! ## What the mode is to be -/

/-- The calls so far with their clock readings, the last one first. -/
abbrev History := List (ℕ × TrackerCall)

namespace History

/-- The failures since the counter was last cleared. -/
def failures (h : History) : ℕ :=
  (h.takeWhile fun l => l.2 ≠ .reset true).countP fun l => l.2 = .addFailedAttempt

/-- When the last failure was, if there was one since the last reset. -/
def lastFailure (h : History) : Option ℕ :=
  ((h.takeWhile fun l => l.2 ≠ .reset true ∧ l.2 ≠ .reset false).find?
    fun l => l.2 = .addFailedAttempt).map (·.1)

/-- The mode at time `now`. -/
def mode (h : History) (now : ℕ) : LockoutMode :=
  match h.lastFailure with
  | none => .none
  | some failed =>
      if h.failures < 5 then .none
      else if 20 ≤ h.failures then .permanent
      else if (now - failed) / nanosPerMilli ≤ 30000 then .timed
      else .none

@[simp] theorem failures_addFailedAttempt (h : History) (now : ℕ) :
    failures ((now, .addFailedAttempt) :: h) = failures h + 1 := by
  simp [failures]

@[simp] theorem lastFailure_addFailedAttempt (h : History) (now : ℕ) :
    lastFailure ((now, .addFailedAttempt) :: h) = some now := by
  simp [lastFailure]

@[simp] theorem failures_reset (h : History) (now : ℕ) (clearAttemptCounter : Bool) :
    failures ((now, .reset clearAttemptCounter) :: h) =
      if clearAttemptCounter then 0 else failures h := by
  cases clearAttemptCounter <;> simp [failures]

@[simp] theorem lastFailure_reset (h : History) (now : ℕ) (clearAttemptCounter : Bool) :
    lastFailure ((now, .reset clearAttemptCounter) :: h) = none := by
  cases clearAttemptCounter <;> simp [lastFailure]

theorem failures_query (h : History) {l : ℕ × TrackerCall} (hquery : l.2.isQuery = true) :
    failures (l :: h) = failures h := by
  obtain ⟨now, call⟩ := l
  cases call with
  | getMode => simp [failures]
  | getLockoutTimeLeft => simp [failures]
  | _ => exact Bool.noConfusion hquery

theorem lastFailure_query (h : History) {l : ℕ × TrackerCall} (hquery : l.2.isQuery = true) :
    lastFailure (l :: h) = lastFailure h := by
  obtain ⟨now, call⟩ := l
  cases call with
  | getMode => simp [lastFailure]
  | getLockoutTimeLeft => simp [lastFailure]
  | _ => exact Bool.noConfusion hquery

/-- There are no more failures than were ever counted. -/
theorem failures_le (h : History) : h.failures ≤ h.countP fun l => l.2 = .addFailedAttempt :=
  (List.takeWhile_sublist _).countP_le

end History

/-- The history of a run. -/
def history (ts : List TrackerTransition) : History := (ts.map (·.label)).reverse

@[simp] theorem history_append_singleton (ts : List TrackerTransition) (t : TrackerTransition) :
    history (ts ++ [t]) = t.label :: history ts := by
  simp [history]

/-! ## The invariant -/

/-- The tracker follows the history: it has its counter, and its stored mode is the one
the failures call for, or none once a timed lockout is over. -/
structure Follows (h : History) (s : TrackerState) : Prop where
  counted : s.tracker.mFailedCount.toInt = h.failures
  unlocked : h.lastFailure = none → s.tracker.mCurrentMode = .none
  locked : ∀ failed ∈ h.lastFailure, failed ≤ s.now ∧
    (h.failures < 5 ∧ s.tracker.mCurrentMode = .none ∨
      20 ≤ h.failures ∧ s.tracker.mCurrentMode = .permanent ∨
      (5 ≤ h.failures ∧ h.failures < 20) ∧
        (s.tracker.mCurrentMode = .timed ∧ s.tracker.mLockoutTimedStart = failed ∨
          s.tracker.mCurrentMode = .none ∧ 30000 < (s.now - failed) / nanosPerMilli))

variable {h : History} {s : TrackerState} {now : ℕ}

theorem hasElapsed_default (now start : ℕ) :
    Util.hasElapsed now start lockoutTimedDuration = true ↔
      start ≤ now ∧ 30000 < (now - start) / nanosPerMilli := by
  show decide _ = true ↔ _
  rw [decide_eq_true_iff]
  rfl

/-- What `getMode` answers is the mode of the history. -/
theorem Follows.mode_eq (hf : Follows h s) (hnow : s.now ≤ now) :
    s.tracker.mode now = h.mode now := by
  unfold History.mode
  cases hlast : h.lastFailure with
  | none =>
      have hnone := hf.unlocked hlast
      simp [LockoutTracker.mode, s.tracker.getMode_of_ne_timed now, hnone]
  | some failed =>
      obtain ⟨hpast, hcases⟩ := hf.locked failed hlast
      simp only
      rcases hcases with ⟨hfew, hmode⟩ | ⟨hmany, hmode⟩ |
        ⟨⟨hfive, htwenty⟩, ⟨hmode, hstart⟩ | ⟨hmode, helapsed⟩⟩
      · simp [LockoutTracker.mode, s.tracker.getMode_of_ne_timed now, hmode, hfew]
      · rw [if_neg (by omega), if_pos hmany]
        exact (s.tracker.mode_eq_permanent_iff now).2 hmode
      · rw [if_neg (by omega), if_neg (by omega)]
        by_cases hover : 30000 < (now - failed) / nanosPerMilli
        · have helapsed : Util.hasElapsed now failed lockoutTimedDuration = true :=
            (hasElapsed_default now failed).2 ⟨hpast.trans hnow, hover⟩
          rw [if_neg (not_le.2 hover)]
          simp [LockoutTracker.mode, LockoutTracker.getMode, hmode, hstart, helapsed]
        · have hruns : Util.hasElapsed now failed lockoutTimedDuration = false :=
            Bool.eq_false_iff.2 fun helapsed => hover ((hasElapsed_default now failed).1 helapsed).2
          rw [if_pos (not_lt.1 hover)]
          exact (s.tracker.mode_eq_timed_iff now).2 ⟨hmode, hstart ▸ hruns⟩
      · have hlater : (s.now - failed) / nanosPerMilli ≤ (now - failed) / nanosPerMilli :=
          Nat.div_le_div_right (by omega)
        rw [if_neg (by omega), if_neg (by omega), if_neg (by omega)]
        simp [LockoutTracker.mode, s.tracker.getMode_of_ne_timed now, hmode]

/-- A timed lockout has started in the past. -/
theorem Follows.start_le (hf : Follows h s) (hmode : s.tracker.mCurrentMode = .timed) :
    s.tracker.mLockoutTimedStart ≤ s.now := by
  cases hlast : h.lastFailure with
  | none => exact absurd (hmode.symm.trans (hf.unlocked hlast)) (by decide)
  | some failed =>
      obtain ⟨hpast, hcases⟩ := hf.locked failed hlast
      rcases hcases with ⟨-, hnone⟩ | ⟨-, hperm⟩ | ⟨-, ⟨-, hstart⟩ | ⟨hnone, -⟩⟩
      · exact absurd (hmode.symm.trans hnone) (by decide)
      · exact absurd (hmode.symm.trans hperm) (by decide)
      · rw [hstart]
        exact hpast
      · exact absurd (hmode.symm.trans hnone) (by decide)

/-- A failure is counted, and decides the mode anew. -/
theorem Follows.addFailedAttempt (hf : Follows h s) (hroom : h.failures + 1 < 2 ^ 31) :
    Follows ((now, .addFailedAttempt) :: h) ⟨s.tracker.addFailedAttempt now, now⟩ := by
  have hcount : (s.tracker.mFailedCount + 1).toInt = h.failures + 1 := by
    rw [← s.tracker.mFailedCount_addFailedAttempt now,
      s.tracker.failedCount_addFailedAttempt now (by have := hf.counted; omega), hf.counted]
  refine ⟨?_, by simp, ?_⟩
  · rw [LockoutTracker.mFailedCount_addFailedAttempt, hcount, History.failures_addFailedAttempt]
    norm_cast
  · intro failed hfailed
    rw [History.lastFailure_addFailedAttempt, Option.mem_some_iff] at hfailed
    subst hfailed
    refine ⟨le_rfl, ?_⟩
    rw [History.failures_addFailedAttempt]
    rcases s.tracker.addFailedAttempt_cases now with ⟨h20, heq⟩ | ⟨h5, h20, heq⟩ | ⟨h5, heq⟩
    · exact .inr (.inl ⟨by omega, by rw [heq]⟩)
    · exact .inr (.inr ⟨⟨by omega, by omega⟩, .inl ⟨by rw [heq], by rw [heq]⟩⟩)
    · -- below the first threshold the mode stays as it is, and it is `NONE`
      refine .inl ⟨by omega, ?_⟩
      rw [heq]
      cases hlast : h.lastFailure with
      | none => exact hf.unlocked hlast
      | some failed =>
          obtain ⟨-, hcases⟩ := hf.locked failed hlast
          rcases hcases with ⟨-, hmode⟩ | ⟨hmany, -⟩ | ⟨⟨hfive, -⟩, -⟩
          · exact hmode
          · omega
          · omega

theorem Follows.reset (hf : Follows h s) (clearAttemptCounter : Bool) :
    Follows ((now, .reset clearAttemptCounter) :: h)
      ⟨s.tracker.reset clearAttemptCounter, now⟩ := by
  refine ⟨?_, fun _ => rfl, by simp⟩
  cases clearAttemptCounter with
  | false => simpa [LockoutTracker.reset] using hf.counted
  | true => simp [LockoutTracker.reset]

/-- Time alone can only end a timed lockout. -/
theorem Follows.later {l : ℕ × TrackerCall} (hf : Follows h s) (hquery : l.2.isQuery = true)
    (hnow : s.now ≤ now) : Follows (l :: h) ⟨s.tracker, now⟩ := by
  refine ⟨?_, ?_, ?_⟩
  · rw [History.failures_query h hquery]
    exact hf.counted
  · rw [History.lastFailure_query h hquery]
    exact hf.unlocked
  · rw [History.lastFailure_query h hquery, History.failures_query h hquery]
    intro failed hfailed
    obtain ⟨hpast, hcases⟩ := hf.locked failed hfailed
    refine ⟨hpast.trans hnow, hcases.imp_right fun hmode => hmode.imp_right fun hmode => ?_⟩
    have hlater : (s.now - failed) / nanosPerMilli ≤ (now - failed) / nanosPerMilli :=
      Nat.div_le_div_right (by omega)
    exact ⟨hmode.1, hmode.2.imp_right fun ⟨hnone, hover⟩ => ⟨hnone, hover.trans_le hlater⟩⟩

/-- `getMode` clears a lockout that is over, and nothing else. -/
theorem Follows.getMode (hf : Follows h s) (hnow : s.now ≤ now) :
    Follows ((now, .getMode) :: h) ⟨(s.tracker.getMode now).2, now⟩ := by
  have hlater := hf.later (l := (now, .getMode)) rfl hnow
  unfold LockoutTracker.getMode
  split
  · rename_i helapsed
    refine ⟨hlater.counted, fun _ => rfl, fun failed hfailed => ?_⟩
    obtain ⟨hpast, hcases⟩ := hlater.locked failed hfailed
    refine ⟨hpast, ?_⟩
    rcases hcases with ⟨-, hmode⟩ | ⟨-, hmode⟩ | ⟨hcount, ⟨-, hstart⟩ | ⟨hmode, -⟩⟩
    · exact absurd (hmode.symm.trans helapsed.1) (by decide)
    · exact absurd (hmode.symm.trans helapsed.1) (by decide)
    · have hover := ((hasElapsed_default _ _).1 helapsed.2).2
      exact .inr (.inr ⟨hcount, .inr ⟨rfl, hstart ▸ hover⟩⟩)
    · exact absurd (hmode.symm.trans helapsed.1) (by decide)
  · exact hlater

/-! ## Runs -/

variable {ts : List TrackerTransition}

theorem follows_step {t : TrackerTransition} (hstep : trackerMachine.Takes t)
    (hroom : t.label.2 = .addFailedAttempt → h.failures + 1 < 2 ^ 31) (hf : Follows h t.pre) :
    Follows (t.label :: h) t.post := by
  obtain ⟨s, ⟨now, call⟩, out, s'⟩ := t
  have hstep' : s.step (now, call) = some (s', out) := hstep
  simp only [TrackerState.step, Option.ite_none_right_eq_some] at hstep'
  obtain ⟨⟨-, hnow⟩, hcall⟩ := hstep'
  cases call with
  | addFailedAttempt =>
      simp only [Option.some.injEq, Prod.mk.injEq] at hcall
      obtain ⟨rfl, -⟩ := hcall
      exact hf.addFailedAttempt (hroom rfl)
  | reset clearAttemptCounter =>
      simp only [Option.some.injEq, Prod.mk.injEq] at hcall
      obtain ⟨rfl, -⟩ := hcall
      exact hf.reset clearAttemptCounter
  | getMode =>
      simp only [Option.some.injEq, Prod.mk.injEq] at hcall
      obtain ⟨rfl, -⟩ := hcall
      exact hf.getMode hnow
  | getLockoutTimeLeft =>
      simp only [Option.some.injEq, Prod.mk.injEq] at hcall
      obtain ⟨rfl, -⟩ := hcall
      exact hf.later rfl hnow

/-- The number of failed attempts in a run. -/
def failedAttempts (ts : List TrackerTransition) : ℕ :=
  ts.countP fun t => t.label.2 = .addFailedAttempt

theorem failures_history_le (ts : List TrackerTransition) :
    (history ts).failures ≤ failedAttempts ts := by
  refine (History.failures_le _).trans ?_
  rw [history, List.countP_reverse, List.countP_map]
  exact le_rfl

/-- The tracker follows the history in every run with fewer than `2 ^ 31` failures. -/
theorem follows_history (hrun : trackerMachine.Run .init ts s)
    (hfew : failedAttempts ts < 2 ^ 31) : Follows (history ts) s := by
  refine hrun.history (I := fun ts s => failedAttempts ts < 2 ^ 31 → Follows (history ts) s)
    ?_ ?_ hfew
  · exact fun _ => ⟨rfl, fun _ => rfl, by simp [history, History.lastFailure]⟩
  · intro ts t _ hstep ih hfew
    have hsum : failedAttempts (ts ++ [t]) = failedAttempts ts + failedAttempts [t] :=
      List.countP_append
    have hle := failures_history_le ts
    rw [history_append_singleton]
    refine follows_step hstep (fun hfailed => ?_) (ih (by omega))
    have hone : failedAttempts [t] = 1 := by simp [failedAttempts, hfailed]
    omega

/-- While the lockout is timed the time left lies between 0 and its duration. -/
theorem getLockoutTimeLeft_of_timed {t : LockoutTracker} (hmode : t.mode now = .timed)
    (hstart : t.mLockoutTimedStart ≤ now) :
    0 ≤ t.getLockoutTimeLeft now ∧ t.getLockoutTimeLeft now ≤ 30000 := by
  obtain ⟨-, hruns⟩ := (t.mode_eq_timed_iff now).1 hmode
  have hover : ¬ 30000 < (now - t.mLockoutTimedStart) / nanosPerMilli := fun hover =>
    Bool.eq_false_iff.1 hruns ((hasElapsed_default _ _).2 ⟨hstart, hover⟩)
  rw [LockoutTracker.getLockoutTimeLeft, lockoutTimedDuration]
  generalize (now - t.mLockoutTimedStart) / nanosPerMilli = elapsed at hover
  split <;> omega

/-- **The tracker refines its history.**  Every `getMode` answers the mode that the
failures and resets so far call for; when that is `TIMED`, the time left is within the
duration of the lockout. -/
theorem mode_refines_history (hrun : trackerMachine.Run .init ts s)
    (hfew : failedAttempts ts < 2 ^ 31) :
    ∀ before t after, ts = before ++ t :: after → ∀ now, t.label = (now, .getMode) →
      t.out = [.mode ((history before).mode now)] ∧
      ((history before).mode now = .timed →
        0 ≤ t.post.tracker.getLockoutTimeLeft now ∧
          t.post.tracker.getLockoutTimeLeft now ≤ 30000) := by
  rintro before t after rfl now hlabel
  obtain ⟨hbefore, hstep, -⟩ := hrun.of_append_cons
  have hfew' : failedAttempts before < 2 ^ 31 := by
    rw [failedAttempts, List.countP_append] at hfew
    exact lt_of_le_of_lt (Nat.le_add_right _ _) hfew
  have hf := follows_history hbefore hfew'
  obtain ⟨s, l, out, s'⟩ := t
  obtain rfl : l = (now, .getMode) := hlabel
  have hstep' : s.step (now, .getMode) = some (s', out) := hstep
  simp only [TrackerState.step, Option.ite_none_right_eq_some, Option.some.injEq,
    Prod.mk.injEq] at hstep'
  obtain ⟨⟨-, hnow⟩, rfl, rfl⟩ := hstep'
  have hmode := hf.mode_eq hnow
  refine ⟨by rw [← hmode]; rfl, fun htimed => ?_⟩
  rw [htimed] at hmode
  rw [s.tracker.getMode_of_timed now hmode]
  exact getLockoutTimeLeft_of_timed hmode
    ((hf.start_le ((s.tracker.mode_eq_timed_iff now).1 hmode).1).trans hnow)

/-- Four failures, a reset that keeps the counter, and a fifth failure: the lockout is
timed, and over 31 seconds later. -/
theorem mode_refines_history_fifth :
    ∃ (ts : List TrackerTransition) (s : TrackerState), trackerMachine.Run .init ts s ∧
      ts.flatMap (·.out) = [.mode .none, .mode .timed, .timeLeft 29999, .mode .none] ∧
      ∀ before t after, ts = before ++ t :: after → ∀ now, t.label = (now, .getMode) →
        t.out = [.mode ((history before).mode now)] := by
  have hrun : ∃ (ts : List TrackerTransition) (s : TrackerState),
      trackerMachine.Run .init ts s ∧
      ts.flatMap (·.out) = [.mode .none, .mode .timed, .timeLeft 29999, .mode .none] ∧
      failedAttempts ts < 2 ^ 31 :=
    Machine.exists_run_of_exec [(1, .addFailedAttempt), (1, .addFailedAttempt),
      (1, .addFailedAttempt), (1, .addFailedAttempt), (2, .reset false), (2, .getMode),
      (3, .addFailedAttempt), (3, .getMode), (1000003, .getLockoutTimeLeft),
      (31000000003, .getMode)] (by decide)
  obtain ⟨ts, s, hrun, hout, hfew⟩ := hrun
  exact ⟨ts, s, hrun, hout, fun before t after hts now hlabel =>
    (mode_refines_history hrun hfew before t after hts now hlabel).1⟩

end Fingerprint
