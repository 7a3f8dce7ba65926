/-
# The fingerprint HAL (`Fingerprint.cpp`)

The service object with all the sessions it has created, the one worker thread
they share, and the device's active group.  `createSession` hands the service's
own `mLockoutTracker` to the new session by value and sets the device's group on
the binder thread; nothing ever writes the tracker back.

The worker takes jobs from a queue of `WORKER_QUEUE_SIZE` and performs their
effects one at a time, so that binder calls can fall between two device calls of
one job; the members of the session change when the job is taken.  A full queue
drops the job, and the call returns ok all the same.

`session_step` is the view of one session: whatever the rest of the HAL does, it
takes one event of the lockout protocol or none, and keeps its user.
-/
import PongHal.SessionEffects
import PongHal.SessionRun

namespace Fingerprint

/-- `WORKER_QUEUE_SIZE`. -/
def workerQueueSize : ℕ := 5

/-- `WorkerThread::schedule`: a job is dropped when the queue is full. -/
def schedule (queue : List (ℕ × Session.Job)) (job : ℕ × Session.Job) :
    List (ℕ × Session.Job) :=
  if queue.length < workerQueueSize then queue ++ [job] else queue

/-- The device's active group after an effect. -/
def Effect.groupAfter (group : Option UInt32) : Effect → Option UInt32
  | .device (.setActiveGroup gid _) => some gid
  | _ => group

/-- The service: its tracker, the sessions it has created, oldest first
(`mSession` is the last one), the shared vector of `notify`, the worker's queue
and the effects the running job has still to perform, each with the session it
belongs to, and the device's active group. -/
structure Hal where
  mLockoutTracker : LockoutTracker
  sessions : List SessionState
  enrollments : List Int32
  queue : List (ℕ × Session.Job)
  running : List (ℕ × Effect)
  activeGroup : Option UInt32
  now : ℕ
  deriving DecidableEq, Repr

/-- The steps of the service's surroundings. -/
inductive HalLabel
  /-- Time passes. -/
  | tick (nanos : ℕ)
  /-- `Fingerprint::createSession`. -/
  | createSession (userId : Int32)
  /-- A client calls session `i`, open or not. -/
  | call (i : ℕ) (c : Session.Call)
  /-- The worker, idle, takes the next job. -/
  | take (r : DeviceReplies)
  /-- The worker performs the next effect of its job. -/
  | perform
  /-- The `k`-th sleeping timer of session `i` wakes up. -/
  | expire (i k : ℕ)
  /-- The device sends a message. -/
  | message (msg : FingerprintMsg)
  deriving DecidableEq, Repr

namespace Hal

/-- The service after its construction, `boot + 1` nanoseconds after the clock
started to count. -/
def init (boot : ℕ) : Hal where
  mLockoutTracker := .init
  sessions := []
  enrollments := []
  queue := []
  running := []
  activeGroup := none
  now := boot + 1

/-- The open session, if there is one: `mSession` when it is not closed. -/
def openSession (h : Hal) : Option (ℕ × SessionState) :=
  match h.sessions.getLast? with
  | none => none
  | some st => if st.session.mClosed then none else some (h.sessions.length - 1, st)

/-- The open session is the last one. -/
theorem openSession_eq_some {h : Hal} {i : ℕ} {st : SessionState}
    (hopen : h.openSession = some (i, st)) :
    h.sessions[i]? = some st ∧ i + 1 = h.sessions.length ∧ st.session.mClosed = false := by
  unfold openSession at hopen
  cases hlast : h.sessions.getLast? with
  | none => simp [hlast] at hopen
  | some st' =>
      rw [hlast] at hopen
      simp only at hopen
      split at hopen
      · simp at hopen
      · rename_i hclosed
        simp only [Option.some.injEq, Prod.mk.injEq] at hopen
        obtain ⟨rfl, rfl⟩ := hopen
        have hne : h.sessions ≠ [] := by
          rintro hnil
          simp [hnil] at hlast
        have hpos : 0 < h.sessions.length := List.length_pos_iff.2 hne
        rw [List.getLast?_eq_getElem?] at hlast
        exact ⟨hlast, by omega, by simpa using hclosed⟩

/-- One step. -/
def step [Util] (h : Hal) : HalLabel → Option (Hal × List (ℕ × Effect))
  | .tick nanos => some ({ h with now := h.now + nanos }, [])
  | .createSession userId =>
      -- the `CHECK` at the top of `createSession` ends the process otherwise
      if h.openSession.isSome then none
      else
        let r := Session.create userId h.mLockoutTracker
        some ({ h with
            sessions := h.sessions ++ [⟨r.1, []⟩]
            activeGroup := r.2.foldl Effect.groupAfter h.activeGroup },
          r.2.map fun e => (h.sessions.length, e))
  | .call i c =>
      match h.sessions[i]? with
      | none => none
      | some st =>
          let r := st.session.call c
          some ({ h with
              sessions := h.sessions.set i (st.absorb h.now r.1 r.2.1)
              queue := match r.2.2 with
                | none => h.queue
                | some j => schedule h.queue (i, j) },
            r.2.1.map fun e => (i, e))
  | .take replies =>
      match h.running, h.queue with
      | [], (i, j) :: rest =>
          match h.sessions[i]? with
          | none => none
          | some st =>
              let r := st.session.runJob j replies h.now
              some ({ h with
                  sessions := h.sessions.set i (st.absorb h.now r.1 r.2)
                  queue := rest
                  running := r.2.map fun e => (i, e) }, [])
      | _, _ => none
  | .perform =>
      match h.running with
      | [] => none
      | e :: rest =>
          some ({ h with running := rest, activeGroup := e.2.groupAfter h.activeGroup }, [e])
  | .expire i k =>
      match h.sessions[i]? with
      | none => none
      | some st =>
          match st.timers[k]? with
          | none => none
          | some wake =>
              if wake ≤ h.now then
                some ({ h with sessions := h.sessions.set i (st.expire k) },
                  st.session.lockoutTimerExpired.2.map fun e => (i, e))
              else none
  | .message msg =>
      match h.openSession with
      | none => some (h, [])
      | some (i, st) =>
          let r := st.session.notify h.enrollments msg h.now
          some ({ h with
              sessions := h.sessions.set i (st.absorb h.now r.1 r.2.2)
              enrollments := r.2.1 },
            r.2.2.map fun e => (i, e))

/-- The lockout event a step is for session `k`. -/
def eventAt (h : Hal) (k : ℕ) : HalLabel → LockoutEvent
  | .take _ =>
      match h.running, h.queue with
      | [], (i, j) :: _ => if i = k then j.event else .quiet
      | _, _ => .quiet
  | .expire i timer => if i = k then .expiry timer else .quiet
  | .message msg =>
      match h.openSession with
      | none => .quiet
      | some (i, _) => if i = k then msg.event else .quiet
  | _ => .quiet

end Hal

/-- The machine of the service. -/
def halMachine [Util] : Machine Hal HalLabel (ℕ × Effect) where
  step := Hal.step

/-- A step of the service's run. -/
abbrev HalTransition := Transition Hal HalLabel (ℕ × Effect)

/-- The effects of a run, in order, each with its session. -/
def effects (ts : List HalTransition) : List (ℕ × Effect) := ts.flatMap fun t => t.out

theorem effects_append_singleton (ts : List HalTransition) (t : HalTransition) :
    effects (ts ++ [t]) = effects ts ++ t.out := by
  simp [effects, List.flatMap_append]

variable [Util]

/-! ## The steps, by cases

Every fact about a step below is proved by cases on `HalStep`, and none of them
unfolds `Hal.step`.
-/

/-- The steps of the service, one constructor for each thing that can happen. -/
inductive HalStep : HalTransition → Prop
  | tick (h : Hal) (nanos : ℕ) : HalStep ⟨h, .tick nanos, [], { h with now := h.now + nanos }⟩
  | createSession (h : Hal) (userId : Int32) (hopen : h.openSession = none) :
      HalStep ⟨h, .createSession userId,
        [(h.sessions.length, .device (.setActiveGroup userId.toUInt32 (Session.storePath userId)))],
        { h with
          sessions := h.sessions ++ [⟨(Session.create userId h.mLockoutTracker).1, []⟩]
          activeGroup := some userId.toUInt32 }⟩
  | call (h : Hal) (i : ℕ) (c : Session.Call) (st : SessionState)
      (hi : h.sessions[i]? = some st) :
      HalStep ⟨h, .call i c, (st.session.call c).2.1.map fun e => (i, e),
        { h with
          sessions := h.sessions.set i
            (st.absorb h.now (st.session.call c).1 (st.session.call c).2.1)
          queue := match (st.session.call c).2.2 with
            | none => h.queue
            | some j => schedule h.queue (i, j) }⟩
  | take (h : Hal) (r : DeviceReplies) (i : ℕ) (j : Session.Job) (rest : List (ℕ × Session.Job))
      (st : SessionState) (hrunning : h.running = []) (hqueue : h.queue = (i, j) :: rest)
      (hi : h.sessions[i]? = some st) :
      HalStep ⟨h, .take r, [],
        { h with
          sessions := h.sessions.set i
            (st.absorb h.now (st.session.runJob j r h.now).1 (st.session.runJob j r h.now).2)
          queue := rest
          running := (st.session.runJob j r h.now).2.map fun e => (i, e) }⟩
  | perform (h : Hal) (p : ℕ × Effect) (rest : List (ℕ × Effect))
      (hrunning : h.running = p :: rest) :
      HalStep ⟨h, .perform, [p],
        { h with running := rest, activeGroup := p.2.groupAfter h.activeGroup }⟩
  | expire (h : Hal) (i k : ℕ) (st : SessionState) (wake : ℕ) (hi : h.sessions[i]? = some st)
      (hk : st.timers[k]? = some wake) (hwake : wake ≤ h.now) :
      HalStep ⟨h, .expire i k, st.session.lockoutTimerExpired.2.map fun e => (i, e),
        { h with sessions := h.sessions.set i (st.expire k) }⟩
  | dropped (h : Hal) (msg : FingerprintMsg) (hopen : h.openSession = none) :
      HalStep ⟨h, .message msg, [], h⟩
  | message (h : Hal) (msg : FingerprintMsg) (i : ℕ) (st : SessionState)
      (hopen : h.openSession = some (i, st)) :
      HalStep ⟨h, .message msg,
        (st.session.notify h.enrollments msg h.now).2.2.map fun e => (i, e),
        { h with
          sessions := h.sessions.set i
            (st.absorb h.now (st.session.notify h.enrollments msg h.now).1
              (st.session.notify h.enrollments msg h.now).2.2)
          enrollments := (st.session.notify h.enrollments msg h.now).2.1 }⟩

/-- Every step of the machine is one of these. -/
theorem halStep_of_takes {t : HalTransition} (h : halMachine.Takes t) : HalStep t := by
  obtain ⟨hal, l, out, hal'⟩ := t
  have hstep : hal.step l = some (hal', out) := h
  cases l with
  | tick nanos =>
      simp only [Hal.step, Option.some.injEq, Prod.mk.injEq] at hstep
      obtain ⟨rfl, rfl⟩ := hstep
      exact .tick hal nanos
  | createSession userId =>
      simp only [Hal.step] at hstep
      split at hstep
      · simp at hstep
      · rename_i hopen
        simp only [Option.some.injEq, Prod.mk.injEq] at hstep
        obtain ⟨rfl, rfl⟩ := hstep
        exact .createSession hal userId (by simpa using hopen)
  | call i c =>
      simp only [Hal.step] at hstep
      split at hstep
      · simp at hstep
      · rename_i st hi
        simp only [Option.some.injEq, Prod.mk.injEq] at hstep
        obtain ⟨rfl, rfl⟩ := hstep
        exact .call hal i c st hi
  | take replies =>
      simp only [Hal.step] at hstep
      split at hstep
      · rename_i i j rest hrunning hqueue
        split at hstep
        · simp at hstep
        · rename_i st hi
          simp only [Option.some.injEq, Prod.mk.injEq] at hstep
          obtain ⟨rfl, rfl⟩ := hstep
          exact .take hal replies i j rest st hrunning hqueue hi
      · simp at hstep
  | perform =>
      simp only [Hal.step] at hstep
      split at hstep
      · simp at hstep
      · rename_i p rest hrunning
        simp only [Option.some.injEq, Prod.mk.injEq] at hstep
        obtain ⟨rfl, rfl⟩ := hstep
        exact .perform hal p rest hrunning
  | expire i k =>
      simp only [Hal.step] at hstep
      split at hstep
      · simp at hstep
      · rename_i st hi
        split at hstep
        · simp at hstep
        · rename_i wake hk
          split at hstep
          · rename_i hwake
            simp only [Option.some.injEq, Prod.mk.injEq] at hstep
            obtain ⟨rfl, rfl⟩ := hstep
            exact .expire hal i k st wake hi hk hwake
          · simp at hstep
  | message msg =>
      simp only [Hal.step] at hstep
      split at hstep
      · rename_i hopen
        simp only [Option.some.injEq, Prod.mk.injEq] at hstep
        obtain ⟨rfl, rfl⟩ := hstep
        exact .dropped hal msg hopen
      · rename_i i st hopen
        simp only [Option.some.injEq, Prod.mk.injEq] at hstep
        obtain ⟨rfl, rfl⟩ := hstep
        exact .message hal msg i st hopen

/-! ## What never changes in a session -/

omit [Util] in
/-- No client call changes the session's user. -/
theorem mUserId_call (s : Session) (c : Session.Call) :
    (s.call c).1.mUserId = s.mUserId := by
  cases c with
  | clientDeath =>
      unfold Session.call
      simp only
      split <;> rfl
  | _ => rfl

/-! ## The view of one session -/

omit [Util] in
/-- Looking up a session after one of them was replaced. -/
theorem getElem?_set_session {sessions : List SessionState} {i k : ℕ} {st st' : SessionState}
    (hk : sessions[k]? = some st) :
    (sessions.set i st')[k]? = some (if i = k then st' else st) := by
  have hlt := (List.getElem?_eq_some_iff.1 hk).1
  by_cases hik : i = k
  · subst hik
    simp [hlt]
  · rw [List.getElem?_set_ne hik, hk, if_neg hik]

/-- A session other than the one that was acted on stays as it is. -/
theorem session_acted {sessions : List SessionState} {i k now : ℕ} {st st₀ st' : SessionState}
    {e : LockoutEvent} (hi : sessions[i]? = some st₀) (hk : sessions[k]? = some st)
    (hact : st'.lockout = (st₀.lockout.apply e now).1)
    (huser : st'.session.mUserId = st₀.session.mUserId) :
    ∃ st₁, (sessions.set i st')[k]? = some st₁ ∧
      st₁.lockout = (st.lockout.apply (if i = k then e else .quiet) now).1 ∧
      st₁.session.mUserId = st.session.mUserId := by
  refine ⟨_, getElem?_set_session hk, ?_⟩
  by_cases hik : i = k
  · subst hik
    obtain rfl : st₀ = st := Option.some.inj (hi.symm.trans hk)
    simp only [if_true]
    exact ⟨hact, huser⟩
  · rw [if_neg hik, if_neg hik]
    exact ⟨rfl, rfl⟩

/-- **Each session takes one lockout event at a time.**  A step of the service acts
on a session's lockout as the event `eventAt` names for it, which is `quiet` for
every session but one, and it does not change the session's user. -/
theorem session_step {t : HalTransition} (h : halMachine.Takes t) {k : ℕ} {st : SessionState}
    (hk : t.pre.sessions[k]? = some st) :
    ∃ st', t.post.sessions[k]? = some st' ∧
      st'.lockout = (st.lockout.apply (t.pre.eventAt k t.label) t.pre.now).1 ∧
      st'.session.mUserId = st.session.mUserId := by
  cases halStep_of_takes h with
  | tick hal nanos => exact ⟨st, hk, rfl, rfl⟩
  | createSession hal userId hopen =>
      have hlt := (List.getElem?_eq_some_iff.1 hk).1
      exact ⟨st, by rw [List.getElem?_append_left hlt, hk], rfl, rfl⟩
  | call hal i c st₀ hi =>
      have hact : (st₀.absorb hal.now (st₀.session.call c).1
          (st₀.session.call c).2.1).lockout = (st₀.lockout.apply .quiet hal.now).1 :=
        (lockout_call st₀ hal.now c).1
      have hview := session_acted hi hk hact (mUserId_call st₀.session c)
      simpa [Hal.eventAt] using hview
  | take hal r i j rest st₀ hrunning hqueue hi =>
      have hview := session_acted hi hk (lockout_runJob st₀ hal.now j r).1
        (st₀.session.keeps_runJob j r hal.now).mUserId
      simpa [Hal.eventAt, hrunning, hqueue] using hview
  | perform hal p rest hrunning => exact ⟨st, hk, rfl, rfl⟩
  | expire hal i timer st₀ wake hi htimer hwake =>
      exact session_acted hi hk (lockout_expire st₀ hal.now timer).1
        st₀.session.keeps_lockoutTimerExpired.mUserId
  | dropped hal msg hopen =>
      simp only [Hal.eventAt, hopen]
      exact ⟨st, hk, rfl, rfl⟩
  | message hal msg i st₀ hopen =>
      have hi := (Hal.openSession_eq_some hopen).1
      simp only [Hal.eventAt, hopen]
      exact session_acted hi hk (lockout_notify st₀ hal.now hal.enrollments msg).1
        (st₀.session.keeps_notify hal.enrollments msg hal.now).mUserId

/-- Only a timer that is asleep expires. -/
theorem lt_timers_of_eventAt {t : HalTransition} (h : halMachine.Takes t) {k : ℕ}
    {st : SessionState} (hk : t.pre.sessions[k]? = some st) :
    ∀ i, t.pre.eventAt k t.label = .expiry i → i < st.lockout.timers.length := by
  intro i hevent
  cases halStep_of_takes h with
  | take hal r i' j rest st₀ hrunning hqueue hi =>
      simp only [Hal.eventAt, hrunning, hqueue] at hevent
      split at hevent
      · cases j <;> simp [Session.Job.event] at hevent
      · simp at hevent
  | expire hal i' timer st₀ wake hi htimer hwake =>
      simp only [Hal.eventAt] at hevent
      split at hevent
      · rename_i hik
        subst hik
        obtain rfl : timer = i := by simpa using hevent
        obtain rfl : st₀ = st := Option.some.inj (hi.symm.trans hk)
        exact (List.getElem?_eq_some_iff.1 htimer).1
      · simp at hevent
  | message hal msg i' st₀ hopen =>
      simp only [Hal.eventAt, hopen] at hevent
      split at hevent
      · exact absurd hevent (msg.event_ne_expiry i)
      · simp at hevent
  | dropped hal msg hopen => simp [Hal.eventAt, hopen] at hevent
  | _ => simp [Hal.eventAt] at hevent

/-- The sessions after a step: as many as before, and one more after
`createSession`, which starts from the service's tracker. -/
theorem sessions_step {t : HalTransition} (h : halMachine.Takes t) :
    (∃ userId, t.label = .createSession userId ∧ t.pre.openSession = none ∧
      t.post.sessions =
        t.pre.sessions ++ [⟨(Session.create userId t.pre.mLockoutTracker).1, []⟩]) ∨
    ((∀ userId, t.label ≠ .createSession userId) ∧
      t.post.sessions.length = t.pre.sessions.length) := by
  cases halStep_of_takes h with
  | createSession hal userId hopen => exact Or.inl ⟨userId, rfl, hopen, rfl⟩
  | _ => exact Or.inr ⟨by simp, by simp⟩

/-- Nothing writes the service's own tracker. -/
theorem mLockoutTracker_step {t : HalTransition} (h : halMachine.Takes t) :
    t.post.mLockoutTracker = t.pre.mLockoutTracker := by
  cases halStep_of_takes h <;> rfl

/-- In every run the service's tracker is the zero-initialised one. -/
theorem mLockoutTracker_of_run {boot : ℕ} {ts : List HalTransition} {hal : Hal}
    (hrun : halMachine.Run (.init boot) ts hal) : hal.mLockoutTracker = .init := by
  refine hrun.invariant (I := fun hal => hal.mLockoutTracker = .init) rfl ?_
  intro t hstep ih
  rw [mLockoutTracker_step hstep, ih]

end Fingerprint
