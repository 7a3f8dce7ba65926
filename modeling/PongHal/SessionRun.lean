/-
# Runs of one session

A session is driven by its client's calls, by the worker thread, by its lockout
timers, by the device's messages and by the clock.  `sessionMachine` takes each
of these as one atomic step.  The worker's queue is shared with other sessions,
so whether a call's job still found room in it is part of the label.

Messages reach a session through `Fingerprint::notify`, which drops them once
the session is closed.

`step_lockout` is the link to `Lockout.lean`: every step acts on the lockout of
the session as the one event `event` names, and tells the framework exactly what
that event tells it.
-/
import PongHal.Machine
import PongHal.Lockout
import PongHal.Session

namespace Fingerprint

/-! ## A session with its timers -/

/-- A session and the wake-up times of its sleeping timer threads. -/
structure SessionState where
  session : Session
  timers : List ℕ
  deriving DecidableEq, Repr

/-- The wake-up times of the timer threads started by some effects. -/
def startedTimers (now : ℕ) (es : List Effect) : List ℕ :=
  es.filterMap fun
    | .startTimer timeoutMillis => some (wakeTime now timeoutMillis)
    | _ => none

/-- What a callback says about the lockout or about a match. -/
def Callback.signal : Callback → Option Signal
  | .onAuthenticationSucceeded _ _ => some .succeeded
  | .onLockoutTimed _ => some .lockoutTimed
  | .onLockoutPermanent => some .lockoutPermanent
  | .onLockoutCleared => some .lockoutCleared
  | _ => none

/-- What some effects tell the framework about the lockout or about a match. -/
def signals (es : List Effect) : List Signal :=
  es.filterMap fun
    | .callback c => c.signal
    | _ => none

namespace SessionState

/-- A session that has just been created. -/
def init (userId : Int32) : SessionState where
  session := (Session.create userId .init).1
  timers := []

/-- The state once the session's code has run with a result: the new members, and
the timer threads it started. -/
def absorb (st : SessionState) (now : ℕ) (s : Session) (es : List Effect) : SessionState where
  session := s
  timers := st.timers ++ startedTimers now es

/-- The `i`-th sleeping timer wakes up and runs `lockoutTimerExpired`. -/
def expire (st : SessionState) (i : ℕ) : SessionState where
  session := st.session.lockoutTimerExpired.1
  timers := st.timers.eraseIdx i

/-- The lockout part of a session's state. -/
def lockout (st : SessionState) : Lockout where
  tracker := st.session.mLockoutTracker
  started := st.session.mIsLockoutTimerStarted
  aborted := st.session.mIsLockoutTimerAborted
  timers := st.timers

@[simp] theorem lockout_init (userId : Int32) : (init userId).lockout = .init := rfl

end SessionState

/-! ## The lockout event of each piece of code -/

/-- The lockout event of a job. -/
def Session.Job.event : Session.Job → LockoutEvent
  | .resetLockout => .reset
  | .onPointerDown => .check
  | _ => .quiet

/-- The lockout event of a message that reaches the session. -/
def FingerprintMsg.event : FingerprintMsg → LockoutEvent
  | .authenticated finger _ => if finger.fid ≠ 0 then .success else .failure
  | _ => .quiet

/-- A message is a match, a failure or of no concern to the lockout. -/
theorem FingerprintMsg.event_cases (msg : FingerprintMsg) :
    msg.event = .success ∨ msg.event = .failure ∨ msg.event = .quiet := by
  cases msg with
  | authenticated finger hat => by_cases hfid : finger.fid = 0 <;> simp [event, hfid]
  | _ => simp [event]

theorem FingerprintMsg.event_ne_expiry (msg : FingerprintMsg) (i : ℕ) :
    msg.event ≠ .expiry i := by
  rcases msg.event_cases with h | h | h <;> simp [h]

variable (st : SessionState) (now : ℕ)

/-- No client call acts on the lockout. -/
theorem lockout_call (c : Session.Call) :
    (st.absorb now (st.session.call c).1 (st.session.call c).2.1).lockout = st.lockout ∧
    signals (st.session.call c).2.1 = [] := by
  cases c with
  | clientDeath =>
      by_cases hclosed : st.session.mClosed = true <;>
        simp [Session.call, Session.close, hclosed, SessionState.absorb, SessionState.lockout,
          startedTimers, signals, Callback.signal]
  | _ =>
      simp [Session.call, Session.close, SessionState.absorb, SessionState.lockout,
        startedTimers, signals, Callback.signal]

variable [Util]

/-- `checkSensorLockout` is a check of the lockout, whatever the members that are
no part of it. -/
theorem lockout_checkSensorLockout (s : Session) (timers : List ℕ) :
    (SessionState.absorb ⟨s, timers⟩ now (s.checkSensorLockout now).1
        (s.checkSensorLockout now).2.1).lockout =
      ((SessionState.lockout ⟨s, timers⟩).check now).1 ∧
    signals (s.checkSensorLockout now).2.1 =
      ((SessionState.lockout ⟨s, timers⟩).check now).2 := by
  cases hmode : s.mLockoutTracker.mode now with
  | permanent =>
      have hcur := (LockoutTracker.mode_eq_permanent_iff _ _).1 hmode
      have hget := s.mLockoutTracker.getMode_of_ne_timed now (by simp [hcur])
      rw [Lockout.check_of_permanent (L := SessionState.lockout ⟨s, timers⟩) hmode]
      simp [Session.checkSensorLockout, hget, hcur, SessionState.absorb, SessionState.lockout,
        startedTimers, signals, Callback.signal]
  | timed =>
      have hget := s.mLockoutTracker.getMode_of_timed now hmode
      cases hs : s.mIsLockoutTimerStarted with
      | true =>
          rw [Lockout.check_of_timed_started (L := SessionState.lockout ⟨s, timers⟩) hmode hs]
          simp [Session.checkSensorLockout, hget, hs, SessionState.absorb, SessionState.lockout,
            startedTimers, signals, Callback.signal]
      | false =>
          rw [Lockout.check_of_timed_not_started (L := SessionState.lockout ⟨s, timers⟩) hmode hs]
          simp [Session.checkSensorLockout, Session.startLockoutTimer, hget, hs,
            SessionState.absorb, SessionState.lockout, startedTimers, signals, Callback.signal]
  | none =>
      have hget : (s.mLockoutTracker.getMode now).1 = .none := hmode
      rw [Lockout.check_of_none (L := SessionState.lockout ⟨s, timers⟩) hmode]
      simp [Session.checkSensorLockout, hget, SessionState.absorb, SessionState.lockout,
        startedTimers, signals]

/-- A job acts on the lockout as its event. -/
theorem lockout_runJob (j : Session.Job) (r : DeviceReplies) :
    (st.absorb now (st.session.runJob j r now).1 (st.session.runJob j r now).2).lockout =
      (st.lockout.apply j.event now).1 ∧
    signals (st.session.runJob j r now).2 = (st.lockout.apply j.event now).2 := by
  cases j with
  | onPointerDown => exact lockout_checkSensorLockout now st.session st.timers
  | resetLockout => exact ⟨by simp [SessionState.absorb, SessionState.lockout, startedTimers,
      Session.runJob, Session.clearLockout, Session.Job.event, Lockout.apply], rfl⟩
  | removeEnrollments ids =>
      simp [Session.runJob, Session.Job.event, Lockout.apply, SessionState.absorb,
        SessionState.lockout, startedTimers, signals]
  | enroll hat =>
      by_cases hcode : r.code = 0 <;>
        simp [Session.runJob, hcode, Session.Job.event, Lockout.apply, SessionState.absorb,
          SessionState.lockout, startedTimers, signals, Callback.signal]
  | authenticate operationId =>
      by_cases hcode : r.code = 0 <;>
        simp [Session.runJob, hcode, Session.Job.event, Lockout.apply, SessionState.absorb,
          SessionState.lockout, startedTimers, signals, Callback.signal]
  | cancel =>
      by_cases hcode : r.code = 0 <;>
        simp [Session.runJob, hcode, Session.Job.event, Lockout.apply, SessionState.absorb,
          SessionState.lockout, startedTimers, signals, Callback.signal]
  | _ =>
      simp [Session.runJob, Session.Job.event, Lockout.apply, SessionState.absorb,
        SessionState.lockout, startedTimers, signals, Callback.signal]

/-- A message acts on the lockout as its event. -/
theorem lockout_notify (enrollments : List Int32) (msg : FingerprintMsg) :
    (st.absorb now (st.session.notify enrollments msg now).1
        (st.session.notify enrollments msg now).2.2).lockout =
      (st.lockout.apply msg.event now).1 ∧
    signals (st.session.notify enrollments msg now).2.2 =
      (st.lockout.apply msg.event now).2 := by
  cases msg with
  | authenticated finger hat =>
      by_cases hfid : finger.fid = 0
      · have hcheck := lockout_checkSensorLockout now
          { st.session with
            mLockoutTracker := st.session.mLockoutTracker.addFailedAttempt now } st.timers
        simp only [Session.notify, FingerprintMsg.event, hfid, ne_eq, not_true_eq_false,
          if_false]
        exact hcheck
      · simp [Session.notify, FingerprintMsg.event, hfid, Lockout.apply, SessionState.absorb,
          SessionState.lockout, startedTimers, signals, Callback.signal]
  | acquired info =>
      by_cases hvendor : (Session.vendorAcquiredFilter info).1 = .vendor <;>
        simp [Session.notify, hvendor, FingerprintMsg.event, Lockout.apply,
          SessionState.absorb, SessionState.lockout, startedTimers, signals, Callback.signal]
  | templateEnumerating finger remaining =>
      by_cases hlast : remaining = 0 <;>
        simp [Session.notify, hlast, FingerprintMsg.event, Lockout.apply,
          SessionState.absorb, SessionState.lockout, startedTimers, signals, Callback.signal]
  | _ =>
      simp [Session.notify, FingerprintMsg.event, Lockout.apply, SessionState.absorb,
        SessionState.lockout, startedTimers, signals, Callback.signal]

/-- A waking timer acts on the lockout as its expiry. -/
theorem lockout_expire (i : ℕ) :
    (st.expire i).lockout = (st.lockout.apply (.expiry i) now).1 ∧
    signals st.session.lockoutTimerExpired.2 = (st.lockout.apply (.expiry i) now).2 := by
  by_cases ha : st.session.mIsLockoutTimerAborted = true <;>
    simp [SessionState.expire, Session.lockoutTimerExpired, Session.clearLockout, ha,
      SessionState.lockout, Lockout.apply, signals, Callback.signal]

/-! ## The machine -/

/-- A session in its surroundings: the shared vector of `notify`, the jobs of this
session that wait for the worker, and the clock. -/
structure SessionWorld where
  state : SessionState
  enrollments : List Int32
  queue : List Session.Job
  now : ℕ
  deriving DecidableEq, Repr

/-- The steps of a session's surroundings. -/
inductive SessionLabel
  /-- Time passes. -/
  | tick (nanos : ℕ)
  /-- The client calls; `accepted` says whether the worker's queue had room. -/
  | call (c : Session.Call) (accepted : Bool)
  /-- The worker runs the session's next job. -/
  | work (r : DeviceReplies)
  /-- The `i`-th sleeping timer wakes up. -/
  | expire (i : ℕ)
  /-- The device sends a message. -/
  | message (msg : FingerprintMsg)
  deriving DecidableEq, Repr

namespace SessionWorld

/-- A session just created for a user, `boot + 1` nanoseconds after the clock
started to count. -/
def init (userId : Int32) (boot : ℕ) : SessionWorld where
  state := .init userId
  enrollments := []
  queue := []
  now := boot + 1

/-- The tracker's mode, `LockoutTracker::getMode` at this instant. -/
def mode (w : SessionWorld) : LockoutMode := w.state.lockout.mode w.now

/-- The failed-attempt count. -/
def failedCount (w : SessionWorld) : ℤ := w.state.session.mLockoutTracker.mFailedCount.toInt

/-- One step. -/
def step (w : SessionWorld) : SessionLabel → Option (SessionWorld × List Effect)
  | .tick nanos => some ({ w with now := w.now + nanos }, [])
  | .call c accepted =>
      let r := w.state.session.call c
      some ({ w with
          state := w.state.absorb w.now r.1 r.2.1
          queue := if accepted then w.queue ++ r.2.2.toList else w.queue },
        r.2.1)
  | .work replies =>
      match w.queue with
      | [] => none
      | j :: rest =>
          let r := w.state.session.runJob j replies w.now
          some ({ w with state := w.state.absorb w.now r.1 r.2, queue := rest }, r.2)
  | .expire i =>
      match w.state.timers[i]? with
      | none => none
      | some wake =>
          if wake ≤ w.now then
            some ({ w with state := w.state.expire i }, w.state.session.lockoutTimerExpired.2)
          else none
  | .message msg =>
      -- `Fingerprint::notify` drops what arrives for a closed session
      if w.state.session.mClosed then some (w, [])
      else
        let r := w.state.session.notify w.enrollments msg w.now
        some ({ w with state := w.state.absorb w.now r.1 r.2.2, enrollments := r.2.1 }, r.2.2)

/-- The lockout event of a step. -/
def event (w : SessionWorld) : SessionLabel → LockoutEvent
  | .tick _ => .quiet
  | .call _ _ => .quiet
  | .work _ => (w.queue.head?.map Session.Job.event).getD .quiet
  | .expire i => .expiry i
  | .message msg => if w.state.session.mClosed then .quiet else msg.event

end SessionWorld

/-- The machine of one session. -/
def sessionMachine : Machine SessionWorld SessionLabel Effect where
  step := SessionWorld.step

/-- A step of a session's run. -/
abbrev SessionTransition := Transition SessionWorld SessionLabel Effect

/-- The lockout event of a step of a run. -/
def SessionTransition.event (t : SessionTransition) : LockoutEvent := t.pre.event t.label

/-! ## The steps, by cases -/

/-- The steps of a session, one constructor for each thing that can happen. -/
inductive SessionStep : SessionTransition → Prop
  | tick (w : SessionWorld) (nanos : ℕ) :
      SessionStep ⟨w, .tick nanos, [], { w with now := w.now + nanos }⟩
  | call (w : SessionWorld) (c : Session.Call) (accepted : Bool) :
      SessionStep ⟨w, .call c accepted, (w.state.session.call c).2.1,
        { w with
          state := w.state.absorb w.now (w.state.session.call c).1 (w.state.session.call c).2.1
          queue := if accepted then w.queue ++ (w.state.session.call c).2.2.toList
            else w.queue }⟩
  | work (w : SessionWorld) (r : DeviceReplies) (j : Session.Job) (rest : List Session.Job)
      (hqueue : w.queue = j :: rest) :
      SessionStep ⟨w, .work r, (w.state.session.runJob j r w.now).2,
        { w with
          state := w.state.absorb w.now (w.state.session.runJob j r w.now).1
            (w.state.session.runJob j r w.now).2
          queue := rest }⟩
  | expire (w : SessionWorld) (i wake : ℕ) (hi : w.state.timers[i]? = some wake)
      (hwake : wake ≤ w.now) :
      SessionStep ⟨w, .expire i, w.state.session.lockoutTimerExpired.2,
        { w with state := w.state.expire i }⟩
  | dropped (w : SessionWorld) (msg : FingerprintMsg)
      (hclosed : w.state.session.mClosed = true) : SessionStep ⟨w, .message msg, [], w⟩
  | message (w : SessionWorld) (msg : FingerprintMsg)
      (hclosed : w.state.session.mClosed = false) :
      SessionStep ⟨w, .message msg, (w.state.session.notify w.enrollments msg w.now).2.2,
        { w with
          state := w.state.absorb w.now (w.state.session.notify w.enrollments msg w.now).1
            (w.state.session.notify w.enrollments msg w.now).2.2
          enrollments := (w.state.session.notify w.enrollments msg w.now).2.1 }⟩

/-- Every step of the machine is one of these. -/
theorem sessionStep_of_takes {t : SessionTransition} (h : sessionMachine.Takes t) :
    SessionStep t := by
  obtain ⟨w, l, out, w'⟩ := t
  have hstep : w.step l = some (w', out) := h
  cases l with
  | tick nanos =>
      simp only [SessionWorld.step, Option.some.injEq, Prod.mk.injEq] at hstep
      obtain ⟨rfl, rfl⟩ := hstep
      exact .tick w nanos
  | call c accepted =>
      simp only [SessionWorld.step, Option.some.injEq, Prod.mk.injEq] at hstep
      obtain ⟨rfl, rfl⟩ := hstep
      exact .call w c accepted
  | work replies =>
      simp only [SessionWorld.step] at hstep
      split at hstep
      · simp at hstep
      · rename_i j rest hqueue
        simp only [Option.some.injEq, Prod.mk.injEq] at hstep
        obtain ⟨rfl, rfl⟩ := hstep
        exact .work w replies j rest hqueue
  | expire i =>
      simp only [SessionWorld.step] at hstep
      split at hstep
      · simp at hstep
      · rename_i wake hi
        split at hstep
        · rename_i hwake
          simp only [Option.some.injEq, Prod.mk.injEq] at hstep
          obtain ⟨rfl, rfl⟩ := hstep
          exact .expire w i wake hi hwake
        · simp at hstep
  | message msg =>
      simp only [SessionWorld.step] at hstep
      split at hstep
      · rename_i hclosed
        simp only [Option.some.injEq, Prod.mk.injEq] at hstep
        obtain ⟨rfl, rfl⟩ := hstep
        exact .dropped w msg hclosed
      · rename_i hclosed
        simp only [Option.some.injEq, Prod.mk.injEq] at hstep
        obtain ⟨rfl, rfl⟩ := hstep
        exact .message w msg (Bool.eq_false_of_not_eq_true hclosed)

/-- **The session simulates the lockout protocol.**  A step acts on the lockout as
its event, and tells the framework what that event tells it. -/
theorem step_lockout {t : SessionTransition} (h : sessionMachine.Takes t) :
    t.post.state.lockout = (t.pre.state.lockout.apply t.event t.pre.now).1 ∧
    signals t.out = (t.pre.state.lockout.apply t.event t.pre.now).2 := by
  cases sessionStep_of_takes h with
  | tick w nanos => exact ⟨rfl, rfl⟩
  | call w c accepted => exact lockout_call w.state w.now c
  | work w r j rest hqueue =>
      simp only [SessionTransition.event, SessionWorld.event, hqueue, List.head?_cons,
        Option.map_some, Option.getD_some]
      exact lockout_runJob w.state w.now j r
  | expire w i wake hi hwake => exact lockout_expire w.state w.now i
  | dropped w msg hclosed =>
      simp only [SessionTransition.event, SessionWorld.event, hclosed, if_true]
      exact ⟨rfl, rfl⟩
  | message w msg hclosed =>
      simp only [SessionTransition.event, SessionWorld.event, hclosed, Bool.false_eq_true,
        if_false]
      exact lockout_notify w.state w.now w.enrollments msg

/-- The clock never goes back. -/
theorem now_le_of_takes {t : SessionTransition} (h : sessionMachine.Takes t) :
    t.pre.now ≤ t.post.now := by
  cases sessionStep_of_takes h with
  | tick w nanos => exact Nat.le_add_right _ _
  | _ => exact le_rfl

/-- Only a sleeping timer whose time has come expires. -/
theorem expiry_of_takes {t : SessionTransition} (h : sessionMachine.Takes t) :
    ∀ i, t.event = .expiry i → ∃ w, t.pre.state.timers[i]? = some w ∧ w ≤ t.pre.now := by
  intro i hevent
  cases sessionStep_of_takes h with
  | tick w nanos => simp [SessionTransition.event, SessionWorld.event] at hevent
  | call w c accepted => simp [SessionTransition.event, SessionWorld.event] at hevent
  | work w r j rest hqueue =>
      cases j <;>
        simp [SessionTransition.event, SessionWorld.event, hqueue, Session.Job.event] at hevent
  | expire w k wake hk hwake =>
      obtain rfl : k = i := by
        simpa [SessionTransition.event, SessionWorld.event] using hevent
      exact ⟨wake, hk, hwake⟩
  | dropped w msg hclosed =>
      simp [SessionTransition.event, SessionWorld.event, hclosed] at hevent
  | message w msg hclosed =>
      simp only [SessionTransition.event, SessionWorld.event, hclosed, Bool.false_eq_true,
        if_false] at hevent
      exact absurd hevent (msg.event_ne_expiry i)

theorem lt_timers_of_expiry {t : SessionTransition} (h : sessionMachine.Takes t) :
    ∀ i, t.event = .expiry i → i < t.pre.state.lockout.timers.length := by
  intro i hi
  obtain ⟨w, hw, -⟩ := expiry_of_takes h i hi
  exact (List.getElem?_eq_some_iff.1 hw).1

end Fingerprint
