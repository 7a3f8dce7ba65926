/-
# Lockout over the runs of a session

What the lockout protocol of `Lockout.lean` gives for whole runs of a session,
in every order of client calls, jobs, messages, timer expiries and waiting:

* `lockout_enforced_iff` : a lockout keeps matches out exactly as long as the
  device sends none, since the success path of `notify` does not look at it;
* `permanent_lockout_persists` : there is one timer at most, and none of them
  lifts a permanent lockout;
* `timed_lockout_lasts` : a timed lockout lasts its thirty seconds in the runs in
  which no failure meets a live timer; otherwise the old timer ends it early
  (`old_timer_cuts_lockout_short`);
* `clear_is_coming_iff` : the end of a timed lockout is announced exactly in the
  runs in which none is reported past an aborted timer.
-/
import PongHal.SessionRun

namespace Fingerprint

variable {userId : Int32} {boot : ℕ} {ts : List SessionTransition} {w : SessionWorld}

/-! ## Histories -/

/-- The failed attempts of a run. -/
def failures (ts : List SessionTransition) : ℕ :=
  ts.countP fun t => t.event = .failure

/-- The most recent failed attempt of a run. -/
def lastFailure (ts : List SessionTransition) : Option SessionTransition :=
  (ts.filter fun t => t.event = .failure).getLast?

/-- The last lockout callback of a run. -/
def lastLockout (ts : List SessionTransition) : Option Signal :=
  Lockout.newest none (ts.flatMap fun t => signals t.out)

theorem failures_append_singleton (t : SessionTransition) :
    failures (ts ++ [t]) = failures ts + if t.event = .failure then 1 else 0 := by
  by_cases h : t.event = .failure <;> simp [failures, List.countP_append, h]

theorem failures_le_of_append (ts₂ : List SessionTransition) :
    failures ts ≤ failures (ts ++ ts₂) := by
  simp [failures, List.countP_append]

theorem lastFailure_append_singleton (t : SessionTransition) :
    lastFailure (ts ++ [t]) = if t.event = .failure then some t else lastFailure ts := by
  by_cases h : t.event = .failure <;> simp [lastFailure, List.filter_append, h]

theorem lastLockout_append_singleton (t : SessionTransition) :
    lastLockout (ts ++ [t]) = Lockout.newest (lastLockout ts) (signals t.out) := by
  simp [lastLockout, List.flatMap_append, Lockout.newest_append]

/-! ## Matches during a lockout -/

/-- A match is signalled exactly when the callback for it is sent. -/
theorem succeeded_mem_signals (es : List Effect) :
    .succeeded ∈ signals es ↔
      ∃ fid hat, Effect.callback (.onAuthenticationSucceeded fid hat) ∈ es := by
  constructor
  · intro h
    obtain ⟨e, he, hsig⟩ := List.mem_filterMap.1 h
    cases e with
    | callback c =>
        cases c with
        | onAuthenticationSucceeded fid hat => exact ⟨fid, hat, he⟩
        | _ => simp [Callback.signal] at hsig
    | _ => simp at hsig
  · rintro ⟨fid, hat, he⟩
    exact List.mem_filterMap.2 ⟨_, he, rfl⟩

/-- Adding one to a positive 32-bit count does not give zero, even when it wraps. -/
theorem toInt_add_one_ne_zero {c : Int32} (h : 0 < c.toInt) : (c + 1).toInt ≠ 0 := by
  have hlt := Int32.toInt_lt c
  have hone : (1 : Int32).toInt = 1 := by decide
  rw [Int32.toInt_add, hone]
  by_cases hmax : c.toInt = 2 ^ 31 - 1
  · rw [hmax]
    decide
  · rw [Int.bmod_eq_of_le] <;> omega

section Matches

variable [Util]

/-- The step delivers a match to the framework exactly when its event is one. -/
theorem succeeded_iff_of_takes {t : SessionTransition} (h : sessionMachine.Takes t) :
    (∃ fid hat, Effect.callback (.onAuthenticationSucceeded fid hat) ∈ t.out) ↔
      t.event = .success := by
  rw [← succeeded_mem_signals, (step_lockout h).2]
  exact Lockout.succeeded_mem_apply _

/-- The failed-attempt count after a step. -/
theorem failedCount_of_takes {t : SessionTransition} (h : sessionMachine.Takes t) :
    t.post.state.session.mLockoutTracker.mFailedCount =
      match t.event with
      | .reset | .success => 0
      | .failure => t.pre.state.session.mLockoutTracker.mFailedCount + 1
      | _ => t.pre.state.session.mLockoutTracker.mFailedCount := by
  have hpost := congrArg Lockout.tracker (step_lockout h).1
  have hcount := congrArg LockoutTracker.mFailedCount hpost
  exact hcount.trans (Lockout.mFailedCount_apply t.event)

/-- **A lockout is enforced exactly against devices that send no match.**  In a
run, no step taken while the tracker is in `TIMED` or `PERMANENT` mode delivers
`onAuthenticationSucceeded` or clears the failed-attempt count other than by a
`resetLockout` job, if and only if no `FINGERPRINT_AUTHENTICATED` message with a
finger reaches the session while it is in one of these modes. -/
theorem lockout_enforced_iff (hrun : sessionMachine.Run (.init userId boot) ts w) :
    (∀ t ∈ ts, t.pre.mode ≠ .none →
      (∀ fid hat, Effect.callback (.onAuthenticationSucceeded fid hat) ∉ t.out) ∧
      (0 < t.pre.failedCount → t.post.failedCount = 0 → t.event = .reset)) ↔
    ∀ t ∈ ts, ¬ (t.event = .success ∧ t.pre.mode ≠ .none) := by
  constructor
  · rintro h t ht ⟨hsuccess, hlocked⟩
    obtain ⟨-, -, -, -, hstep⟩ := hrun.split_of_mem ht
    obtain ⟨fid, hat, hmem⟩ := (succeeded_iff_of_takes hstep).2 hsuccess
    exact (h t ht hlocked).1 fid hat hmem
  · intro h t ht hlocked
    obtain ⟨-, -, -, -, hstep⟩ := hrun.split_of_mem ht
    have hne : t.event ≠ .success := fun hs => h t ht ⟨hs, hlocked⟩
    refine ⟨fun fid hat hmem => hne ((succeeded_iff_of_takes hstep).1 ⟨fid, hat, hmem⟩), ?_⟩
    intro hpos hzero
    have hcount := failedCount_of_takes hstep
    unfold SessionWorld.failedCount at hpos hzero
    rw [hcount] at hzero
    cases hevent : t.event with
    | reset => rfl
    | success => exact absurd hevent hne
    | failure =>
        -- a wrap leads to the least integer, not to zero
        rw [hevent] at hzero
        exact absurd hzero (toInt_add_one_ne_zero hpos)
    | _ =>
        rw [hevent] at hzero
        simp only at hzero
        omega

end Matches

/-- The device reports a finger it does not know. -/
def failedAttempt : SessionLabel := .message (.authenticated ⟨0, 0⟩ .zero)

/-- The device reports a match of finger `1`. -/
def matchedFinger : SessionLabel := .message (.authenticated ⟨0, 1⟩ .zero)

/-- Five failures lock the sensor; the match that follows at once is delivered to
the framework and clears the count all the same. -/
theorem match_delivered_during_lockout :
    ∃ (ts : List SessionTransition) (w : SessionWorld),
      sessionMachine.Run (.init 0 0) ts w ∧
      ∃ t ∈ ts, t.pre.mode = .timed ∧
        .callback (.onAuthenticationSucceeded 1 (translateToAidl .little .zero .empty)) ∈ t.out ∧
        t.pre.failedCount = 5 ∧ t.post.failedCount = 0 ∧ t.event ≠ .reset :=
  Machine.exists_run_of_exec (List.replicate 5 failedAttempt ++ [matchedFinger]) (by decide)

/-- A run that waits out a timed lockout before the match meets the condition of
`lockout_enforced_iff`. -/
theorem lockout_enforced_after_waiting :
    ∃ (ts : List SessionTransition) (w : SessionWorld),
      sessionMachine.Run (.init 0 0) ts w ∧
      (∀ t ∈ ts, t.pre.mode ≠ .none →
        (∀ fid hat, Effect.callback (.onAuthenticationSucceeded fid hat) ∉ t.out) ∧
        (0 < t.pre.failedCount → t.post.failedCount = 0 → t.event = .reset)) := by
  obtain ⟨ts, w, hrun, hcond⟩ :
      ∃ (ts : List SessionTransition) (w : SessionWorld),
      sessionMachine.Run (.init 0 0) ts w ∧
        ∀ t ∈ ts, ¬ (t.event = .success ∧ t.pre.mode ≠ .none) :=
    Machine.exists_run_of_exec
      (List.replicate 5 failedAttempt ++ [.tick 31000000000, matchedFinger]) (by decide)
  exact ⟨ts, w, hrun, (lockout_enforced_iff hrun).2 hcond⟩

/-! ## The timer and the permanent lockout -/

section Permanent

variable [Util]

/-- There is one sleeping timer at most, in every run. -/
theorem timers_of_run (hrun : sessionMachine.Run (.init userId boot) ts w) :
    w.state.lockout.Timers := by
  refine hrun.invariant (I := fun w => w.state.lockout.Timers) ?_ ?_
  · exact Lockout.Timers.init
  intro (t : SessionTransition) hstep ih
  rw [(step_lockout hstep).1]
  exact ih.apply (lt_timers_of_expiry hstep)

/-- Below `2 ^ 31` failures the count is at most their number. -/
theorem failedCount_of_run (hrun : sessionMachine.Run (.init userId boot) ts w)
    (hfew : failures ts < 2 ^ 31) : 0 ≤ w.failedCount ∧ w.failedCount ≤ failures ts := by
  revert hfew
  refine hrun.history (I := fun ts w => failures ts < 2 ^ 31 →
    0 ≤ w.failedCount ∧ w.failedCount ≤ failures ts) ?_ ?_
  · exact fun _ => ⟨le_rfl, le_rfl⟩
  intro ts (t : SessionTransition) _ hstep ih hfew
  rw [failures_append_singleton] at hfew ⊢
  have hcount := failedCount_of_takes hstep
  have hih := ih (by omega)
  unfold SessionWorld.failedCount at hih ⊢
  rw [hcount]
  cases hevent : t.event with
  | failure =>
      -- the count has not reached the number of failures, so it does not wrap
      rw [hevent] at hfew
      simp only [if_true] at hfew ⊢
      have hsucc := LockoutTracker.failedCount_addFailedAttempt
        t.pre.state.session.mLockoutTracker t.pre.now (by omega)
      rw [LockoutTracker.mFailedCount_addFailedAttempt] at hsucc
      push_cast
      omega
  | reset => simp
  | success => simp
  | _ => simpa using hih

/-- Below `2 ^ 31` failures the facts behind a permanent lockout hold. -/
theorem permanent_of_run (hrun : sessionMachine.Run (.init userId boot) ts w)
    (hfew : failures ts < 2 ^ 31) : w.state.lockout.Permanent := by
  revert hfew
  refine hrun.history (I := fun ts w => failures ts < 2 ^ 31 → w.state.lockout.Permanent) ?_ ?_
  · exact fun _ => Lockout.Permanent.init
  intro ts (t : SessionTransition) hrun hstep ih hfew
  rw [failures_append_singleton] at hfew
  rw [(step_lockout hstep).1]
  refine (ih (by omega)).apply ?_
  intro hevent
  rw [if_pos hevent] at hfew
  have hcount := failedCount_of_run hrun (by omega)
  unfold SessionWorld.failedCount at hcount
  show t.pre.state.session.mLockoutTracker.mFailedCount.toInt < 2 ^ 31 - 1
  omega

/-- **One timer, and no way out of a permanent lockout.**  In every state a run
reaches, at most one lockout timer is pending, and one is exactly when
`mIsLockoutTimerStarted` is set; and a permanent lockout stays permanent under
every step that is neither a `resetLockout` job nor a match. -/
theorem permanent_lockout_persists (hrun : sessionMachine.Run (.init userId boot) ts w)
    (hfew : failures ts < 2 ^ 31) :
    (w.state.timers.length ≤ 1 ∧
      (w.state.timers.length = 1 ↔ w.state.session.mIsLockoutTimerStarted = true)) ∧
    ∀ t ∈ ts, t.pre.mode = .permanent → t.event ≠ .reset → t.event ≠ .success →
      t.post.mode = .permanent := by
  refine ⟨?_, ?_⟩
  · have htimers : w.state.timers.length =
        if w.state.session.mIsLockoutTimerStarted then 1 else 0 := timers_of_run hrun
    rw [htimers]
    cases w.state.session.mIsLockoutTimerStarted <;> simp
  · intro t ht hmode hreset hsuccess
    obtain ⟨ts₁, ts₂, rfl, hrun₁, hstep⟩ := hrun.split_of_mem ht
    have hlt : failures (ts₁ ++ [t]) < 2 ^ 31 := by
      have hle : failures (ts₁ ++ [t]) ≤ failures (ts₁ ++ [t] ++ ts₂) := failures_le_of_append ts₂
      rw [List.append_cons] at hfew
      omega
    rw [failures_append_singleton] at hlt
    have hcount := failedCount_of_run hrun₁ (by omega)
    unfold SessionWorld.failedCount at hcount
    show t.post.state.lockout.mode t.post.now = .permanent
    rw [(step_lockout hstep).1]
    refine (permanent_of_run hrun₁ (by omega)).mode_apply (timers_of_run hrun₁) hmode ?_
      (now_le_of_takes hstep) (lt_timers_of_expiry hstep) hreset hsuccess
    intro hevent
    rw [if_pos hevent] at hlt
    show t.pre.state.session.mLockoutTracker.mFailedCount.toInt < 2 ^ 31 - 1
    omega

end Permanent

/-- Twenty failures, then the timer of the timed lockout among them wakes up: the
lockout is still permanent. -/
theorem permanent_lockout_persists_past_timer :
    ∃ (ts : List SessionTransition) (w : SessionWorld),
      sessionMachine.Run (.init 0 0) ts w ∧ failures ts = 20 ∧
      (∃ t ∈ ts, t.pre.mode = .permanent ∧ t.event = .expiry 0) ∧
      ∀ t ∈ ts, t.pre.mode = .permanent → t.event ≠ .reset → t.event ≠ .success →
        t.post.mode = .permanent := by
  obtain ⟨ts, w, hrun, hfew, hexpiry⟩ :
      ∃ (ts : List SessionTransition) (w : SessionWorld),
        sessionMachine.Run (.init 0 0) ts w ∧ failures ts = 20 ∧
        ∃ t ∈ ts, t.pre.mode = .permanent ∧ t.event = .expiry 0 :=
    Machine.exists_run_of_exec
      (List.replicate 20 failedAttempt ++ [.tick 30000000000, .expire 0]) (by decide)
  have hlt : failures ts < 2 ^ 31 := by omega
  exact ⟨ts, w, hrun, hfew, hexpiry, (permanent_lockout_persists hrun hlt).2⟩

/-! ## How long a timed lockout lasts -/

section Timed

variable [Util]

/-- The step is a failed attempt that starts a timed lockout, or starts it afresh,
while the timer of an earlier one is asleep and not aborted. -/
def SessionTransition.MeetsLiveTimer (t : SessionTransition) : Prop :=
  t.event = .failure ∧
    (t.pre.state.session.mLockoutTracker.addFailedAttempt t.pre.now).mode t.pre.now = .timed ∧
    t.pre.state.session.mIsLockoutTimerStarted = true ∧
    t.pre.state.session.mIsLockoutTimerAborted = false

instance (t : SessionTransition) : Decidable t.MeetsLiveTimer :=
  inferInstanceAs (Decidable (_ ∧ _))

/-- In runs in which no failure meets a live timer, the facts behind a timed
lockout hold, and it started with the most recent failure. -/
theorem timedFor_of_run (hrun : sessionMachine.Run (.init userId boot) ts w)
    (hlive : ∀ t ∈ ts, ¬ t.MeetsLiveTimer) :
    (0 < w.now ∧ w.state.lockout.TimedFor w.now) ∧
    (w.state.lockout.tracker.mCurrentMode = .timed →
      ∃ f, lastFailure ts = some f ∧
        w.state.lockout.tracker.mLockoutTimedStart = f.pre.now) := by
  refine hrun.history_of_guard (G := fun t : SessionTransition => ¬ t.MeetsLiveTimer)
    (I := fun ts w => (0 < w.now ∧ w.state.lockout.TimedFor w.now) ∧
      (w.state.lockout.tracker.mCurrentMode = .timed →
        ∃ f, lastFailure ts = some f ∧
          w.state.lockout.tracker.mLockoutTimedStart = f.pre.now)) ?_ ?_ hlive
  · refine ⟨⟨Nat.succ_pos boot, Lockout.TimedFor.init⟩, ?_⟩
    intro ht
    simp [SessionWorld.init, Lockout.init, LockoutTracker.init] at ht
  · rintro ts (t : SessionTransition) hrun hstep hguard ⟨⟨hpos, htimed⟩, hstart⟩
    have hle := now_le_of_takes hstep
    have hafter : (t.pre.state.lockout.apply t.event t.pre.now).1.TimedFor t.pre.now := by
      refine htimed.apply (timers_of_run hrun) hpos ?_
      intro hevent hmode hs
      by_contra ha
      exact hguard ⟨hevent, hmode, hs, Bool.eq_false_of_not_eq_true ha⟩
    rw [(step_lockout hstep).1]
    -- the code ran at `t.pre.now`; a tick may have moved the clock since
    refine ⟨⟨lt_of_lt_of_le hpos hle, hafter.mono hle⟩, ?_⟩
    intro ht
    have hstarted := htimed.start_apply ht
    rw [lastFailure_append_singleton]
    by_cases hevent : t.event = .failure
    · rw [if_pos hevent] at hstarted ⊢
      exact ⟨t, rfl, hstarted⟩
    · rw [if_neg hevent] at hstarted ⊢
      obtain ⟨f, hf, hfstart⟩ := hstart hstarted.1
      exact ⟨f, hf, hstarted.2.trans hfstart⟩

/-- **A timed lockout lasts its thirty seconds.**  In a run in which no failed
attempt meets a live timer, take a step in `TIMED` mode that ends before thirty
seconds have gone by since the most recent failed attempt `f`, and that is neither
a match nor a `resetLockout` job: it leaves the mode `TIMED`, unless it is itself
the failed attempt that makes the lockout permanent. -/
theorem timed_lockout_lasts (hrun : sessionMachine.Run (.init userId boot) ts w)
    (hlive : ∀ t ∈ ts, ¬ t.MeetsLiveTimer) :
    ∀ before t after, ts = before ++ t :: after →
      ∀ f, lastFailure before = some f → t.pre.mode = .timed →
        t.post.now < f.pre.now + lockoutTimedDuration * nanosPerMilli →
        t.event ≠ .reset → t.event ≠ .success →
        t.post.mode = .timed ∨ (t.event = .failure ∧ t.post.mode = .permanent) := by
  rintro before (t : SessionTransition) after rfl f hf hmode hlt hreset hsuccess
  rw [List.append_cons] at hrun
  obtain ⟨w₁, hrun₁, -⟩ := hrun.of_append
  obtain ⟨hbefore, hstep, -⟩ := hrun₁.of_append_singleton
  obtain ⟨⟨hpos, htimed⟩, hstart⟩ := timedFor_of_run hbefore
    (fun t' ht' => hlive t' (List.mem_append_left _ ht'))
  have hcur := ((LockoutTracker.mode_eq_timed_iff _ _).1 hmode).1
  obtain ⟨f', hf', hstart'⟩ := hstart hcur
  obtain rfl : f' = f := Option.some.inj (hf'.symm.trans hf)
  show t.post.state.lockout.mode t.post.now = .timed ∨
    t.event = .failure ∧ t.post.state.lockout.mode t.post.now = .permanent
  rw [(step_lockout hstep).1]
  refine htimed.mode_apply (timers_of_run hbefore) hmode (now_le_of_takes hstep) ?_
    (expiry_of_takes hstep) hreset hsuccess
  rw [hstart']
  exact hlt

end Timed

/-- A sixth failure twenty seconds into a timed lockout starts it afresh, but the
timer of the fifth one ends it ten seconds later. -/
theorem old_timer_cuts_lockout_short :
    ∃ (ts : List SessionTransition) (t f : SessionTransition) (w : SessionWorld),
      sessionMachine.Run (.init 0 0) (ts ++ [t]) w ∧ lastFailure ts = some f ∧
      f.post.mode = .timed ∧ t.pre.mode = .timed ∧ t.event = .expiry 0 ∧
      t.post.now < f.pre.now + lockoutTimedDuration * nanosPerMilli ∧
      t.post.mode = .none := by
  obtain ⟨ts, w, hrun, t, ht, f, hf, hcond⟩ :
      ∃ (ts : List SessionTransition) (w : SessionWorld),
        sessionMachine.Run (.init 0 0) ts w ∧
        ∃ t ∈ ts.getLast?.toList, ∃ f ∈ (lastFailure ts.dropLast).toList,
          f.post.mode = .timed ∧ t.pre.mode = .timed ∧ SessionTransition.event t = .expiry 0 ∧
          t.post.now < f.pre.now + lockoutTimedDuration * nanosPerMilli ∧
          t.post.mode = .none :=
    Machine.exists_run_of_exec
      (List.replicate 5 failedAttempt ++
        [.tick 20000000000, failedAttempt, .tick 10000000000, .expire 0]) (by decide)
  rw [Option.mem_toList] at ht hf
  have hsplit : ts.dropLast ++ [t] = ts := List.dropLast_append_getLast? t ht
  refine ⟨ts.dropLast, t, f, w, ?_, hf, hcond⟩
  rw [hsplit]
  exact hrun

/-- A run in which the second timed lockout begins after the first one's timer is
gone: a step ten seconds into it leaves it in force. -/
theorem timed_lockout_lasts_afresh :
    ∃ (ts : List SessionTransition) (t : SessionTransition) (w : SessionWorld),
      sessionMachine.Run (.init 0 0) (ts ++ [t]) w ∧ failures ts = 6 ∧
      t.pre.mode = .timed ∧
      (t.post.mode = .timed ∨ (t.event = .failure ∧ t.post.mode = .permanent)) := by
  obtain ⟨ts, w, hrun, hlive, t, ht, f, hf, hsix, hmode, hlt, hreset, hsuccess⟩ :
      ∃ (ts : List SessionTransition) (w : SessionWorld),
        sessionMachine.Run (.init 0 0) ts w ∧
        (∀ t ∈ ts, ¬ SessionTransition.MeetsLiveTimer t) ∧
        ∃ t ∈ ts.getLast?.toList, ∃ f ∈ (lastFailure ts.dropLast).toList,
          failures ts.dropLast = 6 ∧ t.pre.mode = .timed ∧
          t.post.now < f.pre.now + lockoutTimedDuration * nanosPerMilli ∧
          SessionTransition.event t ≠ .reset ∧ SessionTransition.event t ≠ .success :=
    Machine.exists_run_of_exec
      (List.replicate 5 failedAttempt ++
        [.tick 30000000000, .expire 0, failedAttempt, .tick 10000000000]) (by decide)
  rw [Option.mem_toList] at ht hf
  have hsplit : ts.dropLast ++ [t] = ts := List.dropLast_append_getLast? t ht
  have hlast := timed_lockout_lasts hrun hlive ts.dropLast t [] hsplit.symm f hf hmode hlt
    hreset hsuccess
  refine ⟨ts.dropLast, t, w, ?_, hsix, hmode, hlast⟩
  rw [hsplit]
  exact hrun

/-! ## The announcement of the end of a timed lockout -/

section Announcement

variable [Util]

/-- The step reports a timed lockout while an aborted timer is still counted as
started, so that no new one is started for it. -/
def SessionTransition.MeetsAbortedTimer (t : SessionTransition) : Prop :=
  t.pre.state.lockout.ReportsTimed t.event t.pre.now ∧
    t.pre.state.session.mIsLockoutTimerStarted = true ∧
    t.pre.state.session.mIsLockoutTimerAborted = true

instance (t : SessionTransition) : Decidable t.MeetsAbortedTimer :=
  inferInstanceAs (Decidable (_ ∧ _))

/-- In runs in which no timed lockout is reported past an aborted timer, the end
of each one is coming. -/
theorem clearComing_of_run (hrun : sessionMachine.Run (.init userId boot) ts w)
    (hfree : ∀ t ∈ ts, ¬ t.MeetsAbortedTimer) :
    Lockout.ClearComing (lastLockout ts) w.state.lockout := by
  refine hrun.history_of_guard (G := fun t : SessionTransition => ¬ t.MeetsAbortedTimer)
    (I := fun ts w => Lockout.ClearComing (lastLockout ts) w.state.lockout) ?_ ?_ hfree
  · intro hlast
    simp [lastLockout, Lockout.newest] at hlast
  · intro ts (t : SessionTransition) _ hstep hguard ih
    rw [lastLockout_append_singleton, (step_lockout hstep).1, (step_lockout hstep).2]
    exact ih.apply (fun hreports hflags => hguard ⟨hreports, hflags⟩)

/-- **The end of a timed lockout is announced exactly past no aborted timer.**  In
every state of a run in which `onLockoutTimed` is the last lockout callback a timer
is pending, counted as started and not aborted, if and only if no step of the run
reports a timed lockout while an aborted timer is pending: no failed attempt that
reaches or keeps `TIMED` mode, and no pointer-down job that finds it. -/
theorem clear_is_coming_iff (hrun : sessionMachine.Run (.init userId boot) ts w) :
    (∀ before w₁, before <+: ts → sessionMachine.Run (.init userId boot) before w₁ →
      lastLockout before = some .lockoutTimed →
        w₁.state.timers ≠ [] ∧ w₁.state.session.mIsLockoutTimerStarted = true ∧
          w₁.state.session.mIsLockoutTimerAborted = false) ↔
    ∀ t ∈ ts, ¬ t.MeetsAbortedTimer := by
  constructor
  · -- the state right after such a step has no live timer
    rintro h t ht ⟨hreports, hs, ha⟩
    obtain ⟨ts₁, ts₂, rfl, hrun₁, hstep⟩ := hrun.split_of_mem ht
    have hbefore : ts₁ ++ [t] <+: ts₁ ++ t :: ts₂ := ⟨ts₂, by simp⟩
    have hcoming := h (ts₁ ++ [t]) t.post hbefore (hrun₁.next hstep)
    have hnot := Lockout.not_clearComing_of_aborted (lastLockout ts₁) hreports hs ha
    rw [← (step_lockout hstep).1, ← (step_lockout hstep).2, ← lastLockout_append_singleton] at hnot
    exact hnot fun hlast => (hcoming hlast).2
  · rintro hfree before w₁ ⟨after, rfl⟩ hrun₁ hlast
    have hcoming := clearComing_of_run hrun₁
      (fun t ht => hfree t (List.mem_append_left _ ht)) hlast
    refine ⟨?_, hcoming⟩
    have htimers : w₁.state.timers.length = _ := timers_of_run hrun₁
    rw [hcoming.1] at htimers
    intro hnil
    simp [hnil] at htimers

end Announcement

/-- The client resets a timed lockout, five more failures follow before the old
timer wakes up: the framework is told of a timed lockout that nothing will end,
since the old timer is aborted and no new one was started. -/
theorem lockout_without_end_after_reset :
    ∃ (ts : List SessionTransition) (w : SessionWorld),
      sessionMachine.Run (.init 0 0) ts w ∧ lastLockout ts = some .lockoutTimed ∧
      w.mode = .timed ∧ w.state.session.mIsLockoutTimerAborted = true :=
  Machine.exists_run_of_exec
    (List.replicate 5 failedAttempt ++ [.call .resetLockout true, .work .zero] ++
      List.replicate 5 failedAttempt) (by decide)

/-- A run with two timed lockouts and a reset between them in which the end of the
second one is coming: the old timer wakes up in time. -/
theorem clear_is_coming_after_reset :
    ∃ (ts : List SessionTransition) (w : SessionWorld),
      sessionMachine.Run (.init 0 0) ts w ∧ lastLockout ts = some .lockoutTimed ∧
      w.state.timers ≠ [] ∧ w.state.session.mIsLockoutTimerStarted = true ∧
      w.state.session.mIsLockoutTimerAborted = false := by
  obtain ⟨ts, w, hrun, hlast, hfree⟩ :
      ∃ (ts : List SessionTransition) (w : SessionWorld),
        sessionMachine.Run (.init 0 0) ts w ∧ lastLockout ts = some .lockoutTimed ∧
        ∀ t ∈ ts, ¬ SessionTransition.MeetsAbortedTimer t :=
    Machine.exists_run_of_exec
      (List.replicate 5 failedAttempt ++
        [.call .resetLockout true, .work .zero, .tick 30000000000, .expire 0] ++
        List.replicate 5 failedAttempt) (by decide)
  exact ⟨ts, w, hrun, hlast,
    (clear_is_coming_iff hrun).2 hfree ts w (List.prefix_refl ts) hrun hlast⟩

end Fingerprint
