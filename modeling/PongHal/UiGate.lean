/-
# The gate of the pointer-down job (`Session.cpp`)

The job of `onPointerDown` waits for `mUiReady`, for at most 400 ms, before it tells the
device that the finger is down: the overlay is to light the finger first.  `onUiReady` opens
the gate; an `authenticate`, the ends of touches and operations, and terminal messages of the
device close it again, each on its own thread.

In the machine of the session the job is one step.  `gateMachine` takes the wait apart: the
worker begins the job, looks at `mUiReady` whenever it is woken up, and sends the command;
between these steps the client and the device go on, the other jobs do not.
`session_run_of_gateRun` : with the wait left out a run is one of the session's.

`uiReady_iff` : the gate is open exactly if `onUiReady` was called and nothing has closed it
since.  `pointer_down_gated` : so the device is told that the finger is down only when the
worker has seen the gate open, or 400 ms after it has begun the job.
-/
import PongHal.SessionEffects
import PongHal.SessionRun

namespace Fingerprint

/-- The `milliseconds(400)` of `onPointerDown`, in nanoseconds. -/
def uiReadyTimeout : ℕ := 400000000

/-! ## What opens and closes the gate -/

/-- The job closes the gate. -/
def Session.Job.closesGate : Session.Job → Bool
  | .onPointerUp | .cancel | .close => true
  | _ => false

/-- The message closes the gate. -/
def FingerprintMsg.closesGate : FingerprintMsg → Bool
  | .error _ | .authenticated _ _ => true
  | _ => false

/-- The call closes the gate. -/
def Session.Call.closesGate : Session.Call → Bool
  | .authenticate _ => true
  | _ => false

/-- The step opens the gate. -/
def SessionLabel.opensGate : SessionLabel → Bool
  | .call c _ => decide (c = .onUiReady)
  | _ => false

/-- The step closes the gate. -/
def SessionWorld.closesGate (w : SessionWorld) : SessionLabel → Bool
  | .call c _ => c.closesGate
  | .work _ => w.queue.head?.any Session.Job.closesGate
  | .message msg => !w.state.session.mClosed && msg.closesGate
  | .tick _ | .expire _ => false

section Bodies

variable (s : Session)

theorem Session.mUiReady_checkSensorLockout [Util] (now : ℕ) :
    (s.checkSensorLockout now).1.mUiReady = s.mUiReady := by
  unfold Session.checkSensorLockout
  simp only
  split
  · rfl
  · split <;> rfl
  · rfl

theorem Session.mUiReady_lockoutTimerExpired :
    s.lockoutTimerExpired.1.mUiReady = s.mUiReady := by
  unfold Session.lockoutTimerExpired
  simp only
  split <;> rfl

theorem Session.mUiReady_runJob [Util] (j : Session.Job) (r : DeviceReplies) (now : ℕ) :
    (s.runJob j r now).1.mUiReady = (s.mUiReady && !j.closesGate) := by
  cases j with
  | onPointerUp | cancel | close => simp [Session.runJob, Session.Job.closesGate]
  | onPointerDown =>
      exact (s.mUiReady_checkSensorLockout now).trans (Bool.and_true _).symm
  | _ => exact (Bool.and_true _).symm

theorem Session.mUiReady_notify [Util] (enrollments : List Int32) (msg : FingerprintMsg) (now : ℕ) :
    (s.notify enrollments msg now).1.mUiReady = (s.mUiReady && !msg.closesGate) := by
  cases msg with
  | error e => simp [Session.notify, FingerprintMsg.closesGate]
  | authenticated finger hat =>
      simp only [Session.notify, FingerprintMsg.closesGate, Bool.not_true, Bool.and_false]
      split <;> rfl
  | templateEnumerating finger remaining =>
      simp only [Session.notify, FingerprintMsg.closesGate, Bool.not_false, Bool.and_true]
      split <;> rfl
  | _ => exact (Bool.and_true _).symm

theorem Session.mUiReady_call (c : Session.Call) :
    (s.call c).1.mUiReady = (decide (c = .onUiReady) || (s.mUiReady && !c.closesGate)) := by
  cases c with
  | onUiReady => rfl
  | authenticate operationId => simp [Session.call, Session.Call.closesGate]
  | clientDeath =>
      simp only [Session.call, Session.Call.closesGate]
      split <;> simp [Session.close]
  | _ => simp [Session.call, Session.close, Session.Call.closesGate]

/-- The device is told that the finger is down. -/
def Effect.isFingerDown : Effect → Bool
  | .device (.goodixExtCmd cmd _) => cmd == 1
  | _ => false

theorem isFingerDown_checkSensorLockout [Util] (now : ℕ) :
    ∀ e ∈ (s.checkSensorLockout now).2.1, e.isFingerDown = false := by
  unfold Session.checkSensorLockout
  simp only
  split
  · simp [Effect.isFingerDown]
  · split <;> simp [Effect.isFingerDown, Session.startLockoutTimer]
  · simp

/-- No other job tells the device so. -/
theorem isFingerDown_runJob [Util] {j : Session.Job} (hj : j ≠ .onPointerDown)
    (r : DeviceReplies) (now : ℕ) : ∀ e ∈ (s.runJob j r now).2, e.isFingerDown = false := by
  cases j with
  | onPointerDown => exact absurd rfl hj
  | enroll hat =>
      simp only [Session.runJob]
      split <;> simp [Effect.isFingerDown]
  | authenticate operationId =>
      simp only [Session.runJob]
      split <;> simp [Effect.isFingerDown]
  | cancel =>
      simp only [Session.runJob]
      split <;> simp [Effect.isFingerDown]
  | removeEnrollments enrollmentIds => simp [Session.runJob, Effect.isFingerDown]
  | _ => simp [Session.runJob, Session.clearLockout, Effect.isFingerDown]

theorem isFingerDown_notify [Util] (enrollments : List Int32) (msg : FingerprintMsg) (now : ℕ) :
    ∀ e ∈ (s.notify enrollments msg now).2.2, e.isFingerDown = false := by
  cases msg with
  | authenticated finger hat =>
      unfold Session.notify
      simp only
      split
      · simp [Effect.isFingerDown]
      · intro e he
        rcases List.mem_cons.1 he with rfl | he
        · rfl
        · exact isFingerDown_checkSensorLockout _ now e he
  | acquired info =>
      simp only [Session.notify]
      split <;> simp [Effect.isFingerDown]
  | templateEnumerating finger remaining =>
      simp only [Session.notify]
      split <;> simp [Effect.isFingerDown]
  | _ => simp [Session.notify, Effect.isFingerDown]

end Bodies

section Runs

variable [Util]

/-- Only a job of the worker can tell the device that the finger is down, the pointer-down
job. -/
theorem pointerDown_of_isFingerDown {t : SessionTransition} (h : sessionMachine.Takes t)
    {e : Effect} (he : e ∈ t.out) (hdown : e.isFingerDown = true) :
    ∃ r rest, t.label = .work r ∧ t.pre.queue = .onPointerDown :: rest := by
  have hnot : ∀ {es : List Effect}, e ∈ es → (∀ e ∈ es, e.isFingerDown = false) → False := by
    intro es he hall
    rw [hall e he] at hdown
    cases hdown
  cases sessionStep_of_takes h with
  | tick w nanos | dropped w msg hclosed => cases he
  | call w c accepted =>
      rcases mem_call he with ⟨-, rfl⟩ | ⟨-, rfl⟩ <;> cases hdown
  | work w r j rest hqueue =>
      by_cases hj : j = .onPointerDown
      · exact ⟨r, rest, rfl, hj ▸ hqueue⟩
      · exact (hnot he (isFingerDown_runJob w.state.session hj r w.now)).elim
  | expire w i wake hi hwake =>
      rw [mem_lockoutTimerExpired he] at hdown
      cases hdown
  | message w msg hclosed =>
      exact (hnot he (isFingerDown_notify w.state.session w.enrollments msg w.now)).elim

/-- A step leaves the gate open exactly if it opens it, or does not close it. -/
theorem uiReady_step {t : SessionTransition} (h : sessionMachine.Takes t) :
    t.post.state.session.mUiReady = true ↔
      t.label.opensGate = true ∨
        (t.pre.state.session.mUiReady = true ∧ ¬ t.pre.closesGate t.label = true) := by
  cases sessionStep_of_takes h with
  | tick w nanos => simp [SessionLabel.opensGate, SessionWorld.closesGate]
  | call w c accepted =>
      simp [SessionState.absorb, w.state.session.mUiReady_call, SessionLabel.opensGate,
        SessionWorld.closesGate]
  | work w r j rest hqueue =>
      simp [SessionState.absorb, w.state.session.mUiReady_runJob, SessionLabel.opensGate,
        SessionWorld.closesGate, hqueue]
  | expire w i wake hi hwake =>
      simp [SessionState.expire, w.state.session.mUiReady_lockoutTimerExpired,
        SessionLabel.opensGate, SessionWorld.closesGate]
  | dropped w msg hclosed =>
      simp [SessionLabel.opensGate, SessionWorld.closesGate, hclosed]
  | message w msg hclosed =>
      simp [SessionState.absorb, w.state.session.mUiReady_notify, SessionLabel.opensGate,
        SessionWorld.closesGate, hclosed]

/-! ## The machine -/

/-- Where the worker is in the pointer-down job. -/
inductive Gate
  /-- It is in no such job. -/
  | idle
  /-- It waits since then; it has seen the gate closed. -/
  | waiting (since : ℕ)
  /-- The wait, begun then, is over. -/
  | passed (since : ℕ)
  deriving DecidableEq, Repr

/-- A session in its surroundings, and its worker's gate. -/
structure GateWorld where
  world : SessionWorld
  gate : Gate
  deriving DecidableEq, Repr

/-- The steps: those of the session but for the pointer-down job, and the parts of that. -/
inductive GateLabel
  | session (l : SessionLabel)
  /-- The worker takes the job and looks at the predicate. -/
  | begin
  /-- It is woken up, by a notification, the time-out or nothing, and looks again. -/
  | look
  /-- It sends the command and looks at the lockout. -/
  | send (r : DeviceReplies)
  deriving DecidableEq, Repr

namespace GateWorld

/-- The worker's next job is a pointer-down. -/
def pointerDownNext (w : GateWorld) : Bool := w.world.queue.head? == some .onPointerDown

/-- The step is a job of the worker. -/
def isWork : SessionLabel → Bool
  | .work _ => true
  | _ => false

/-- One step. -/
def step (w : GateWorld) : GateLabel → Option (GateWorld × List Effect)
  | .session l =>
      -- while the worker waits no other job runs
      if isWork l ∧ (w.gate ≠ .idle ∨ w.pointerDownNext) then none
      else (w.world.step l).map fun r => ({ w with world := r.1 }, r.2)
  | .begin =>
      if w.gate = .idle ∧ w.pointerDownNext then
        some ({ w with
          gate := if w.world.state.session.mUiReady then .passed w.world.now
            else .waiting w.world.now }, [])
      else none
  | .look =>
      match w.gate with
      | .waiting since =>
          -- after the time-out the predicate's value no longer matters
          if w.world.state.session.mUiReady ∨ since + uiReadyTimeout ≤ w.world.now then
            some ({ w with gate := .passed since }, [])
          else some (w, [])
      | _ => none
  | .send r =>
      match w.gate with
      | .passed _ =>
          (w.world.step (.work r)).map fun q => ({ world := q.1, gate := .idle }, q.2)
      | _ => none

/-- A session just created. -/
def init (userId : Int32) (boot : ℕ) : GateWorld := ⟨.init userId boot, .idle⟩

end GateWorld

/-- The machine of a session with its gate. -/
def gateMachine : Machine GateWorld GateLabel Effect where
  step := GateWorld.step

abbrev GateTransition := Transition GateWorld GateLabel Effect

/-- The steps by cases. -/
inductive GateStep : GateTransition → Prop
  | session (u : SessionTransition) (gate : Gate)
      (hwork : GateWorld.isWork u.label = true →
        gate = .idle ∧ (⟨u.pre, gate⟩ : GateWorld).pointerDownNext = false)
      (h : sessionMachine.Takes u) :
      GateStep ⟨⟨u.pre, gate⟩, .session u.label, u.out, ⟨u.post, gate⟩⟩
  | begunOpen (w : SessionWorld) (hready : w.state.session.mUiReady = true) :
      GateStep ⟨⟨w, .idle⟩, .begin, [], ⟨w, .passed w.now⟩⟩
  | begun (w : SessionWorld) (hready : w.state.session.mUiReady = false) :
      GateStep ⟨⟨w, .idle⟩, .begin, [], ⟨w, .waiting w.now⟩⟩
  | looked (w : SessionWorld) (since : ℕ)
      (hpassed : w.state.session.mUiReady = true ∨ since + uiReadyTimeout ≤ w.now) :
      GateStep ⟨⟨w, .waiting since⟩, .look, [], ⟨w, .passed since⟩⟩
  | lookedAgain (w : SessionWorld) (since : ℕ) :
      GateStep ⟨⟨w, .waiting since⟩, .look, [], ⟨w, .waiting since⟩⟩
  | sent (u : SessionTransition) (r : DeviceReplies) (since : ℕ) (hlabel : u.label = .work r)
      (h : sessionMachine.Takes u) :
      GateStep ⟨⟨u.pre, .passed since⟩, .send r, u.out, ⟨u.post, .idle⟩⟩

theorem gateStep_of_takes {t : GateTransition} (h : gateMachine.Takes t) : GateStep t := by
  obtain ⟨⟨w, gate⟩, l, out, w'⟩ := t
  have hstep : GateWorld.step ⟨w, gate⟩ l = some (w', out) := h
  cases l with
  | session l =>
      simp only [GateWorld.step, Option.ite_none_left_eq_some, Option.map_eq_some_iff] at hstep
      obtain ⟨hbusy, ⟨v, seen⟩, hsession, hr⟩ := hstep
      obtain ⟨rfl, rfl⟩ := Prod.mk.inj hr
      refine .session ⟨w, l, seen, v⟩ gate (fun hwork => ?_) hsession
      simpa [hwork] using hbusy
  | begin =>
      simp only [GateWorld.step, Option.ite_none_right_eq_some, Option.some.injEq,
        Prod.mk.injEq] at hstep
      obtain ⟨⟨rfl, -⟩, rfl, rfl⟩ := hstep
      cases hready : w.state.session.mUiReady with
      | true => exact .begunOpen w hready
      | false => exact .begun w hready
  | look =>
      cases gate with
      | idle | passed since => cases hstep
      | waiting since =>
          simp only [GateWorld.step] at hstep
          split at hstep
          · rename_i hpassed
            cases hstep
            exact .looked w since hpassed
          · cases hstep
            exact .lookedAgain w since
  | send r =>
      cases gate with
      | idle | waiting since => cases hstep
      | passed since =>
          simp only [GateWorld.step, Option.map_eq_some_iff] at hstep
          obtain ⟨⟨v, seen⟩, hwork, hr⟩ := hstep
          obtain ⟨rfl, rfl⟩ := Prod.mk.inj hr
          exact .sent ⟨w, .work r, seen, v⟩ r since rfl hwork

/-! ## The session in it -/

/-- What a step is to the session. -/
def GateTransition.sessionPart (t : GateTransition) : Option SessionTransition :=
  match t.label with
  | .session l => some ⟨t.pre.world, l, t.out, t.post.world⟩
  | .send r => some ⟨t.pre.world, .work r, t.out, t.post.world⟩
  | .begin | .look => none

variable {userId : Int32} {boot : ℕ} {ts ts₁ ts₂ : List GateTransition} {t : GateTransition}
  {w : GateWorld}

/-- The session sees nothing of the wait. -/
theorem session_run_of_gateRun (hrun : gateMachine.Run (.init userId boot) ts w) :
    sessionMachine.Run (.init userId boot) (ts.filterMap GateTransition.sessionPart) w.world := by
  refine hrun.project (f := GateWorld.world) ?_
  intro t hstep
  cases gateStep_of_takes hstep with
  | session u gate hwork h => exact .takes u h
  | sent u r since hlabel h =>
      have hpart : GateTransition.sessionPart
          ⟨⟨u.pre, .passed since⟩, .send r, u.out, ⟨u.post, .idle⟩⟩ = some u := by
        obtain ⟨pre, l, out, post⟩ := u
        obtain rfl : l = .work r := hlabel
        rfl
      rw [hpart]
      exact .takes u h
  | _ => exact .quiet _

/-! ## When the gate is open -/

/-- The step opens the gate. -/
def GateTransition.opensGate (t : GateTransition) : Bool :=
  match t.label with
  | .session l => l.opensGate
  | _ => false

/-- The step closes the gate. -/
def GateTransition.closesGate (t : GateTransition) : Bool :=
  match t.label with
  | .session l => t.pre.world.closesGate l
  | .send r => t.pre.world.closesGate (.work r)
  | _ => false

/-- `onUiReady` was called and nothing has closed the gate since. -/
def OpenAfter (ts : List GateTransition) : Prop :=
  ∃ ts₁ u ts₂, ts = ts₁ ++ u :: ts₂ ∧ u.opensGate = true ∧ ∀ t ∈ ts₂, t.closesGate = false

theorem uiReady_gateStep (h : gateMachine.Takes t) :
    t.post.world.state.session.mUiReady = true ↔
      t.opensGate = true ∨
        (t.pre.world.state.session.mUiReady = true ∧ ¬ t.closesGate = true) := by
  cases gateStep_of_takes h with
  | session u gate hwork hsession => exact uiReady_step hsession
  | sent u r since hlabel hsession =>
      have hone := uiReady_step hsession
      rw [hlabel] at hone
      exact hone
  | begunOpen | begun | looked | lookedAgain =>
      simp [GateTransition.opensGate, GateTransition.closesGate]

/-- **When the gate is open.**  In every state reached `mUiReady` is set exactly if
`onUiReady` was called and nothing has closed the gate since. -/
theorem uiReady_iff (hrun : gateMachine.Run (.init userId boot) ts w) :
    w.world.state.session.mUiReady = true ↔ OpenAfter ts := by
  have hlast := hrun.iff_of_guard (G := fun _ => True)
    (I := fun w => w.world.state.session.mUiReady = true)
    (fun t hstep _ => uiReady_gateStep hstep) fun _ _ => trivial
  have hstart : ¬ (GateWorld.init userId boot).world.state.session.mUiReady = true :=
    Bool.false_ne_true
  rw [hlast, or_iff_left fun hready => hstart hready.1]
  simp only [Bool.not_eq_true]
  rfl

/-! ## When the command is sent -/

/-- The step begins or ends a pointer-down job. -/
def GateLabel.bounds : GateLabel → Bool
  | .begin | .send _ => true
  | .session _ | .look => false

/-- The worker has begun a pointer-down job at that time, and is in it. -/
def BegunAt (ts : List GateTransition) (since : ℕ) : Prop :=
  ∃ ts₁ u ts₂, ts = ts₁ ++ u :: ts₂ ∧ u.label = .begin ∧ u.pre.world.now = since ∧
    ∀ t ∈ ts₂, t.label.bounds = false

/-- The worker has looked at the gate, in the job begun then, and found it open or the time
over. -/
def PassedAt (ts : List GateTransition) (since : ℕ) : Prop :=
  ∃ ts₁ u ts₂, ts = ts₁ ++ u :: ts₂ ∧ BegunAt (ts₁ ++ [u]) since ∧
    (OpenAfter ts₁ ∨ since + uiReadyTimeout ≤ u.pre.world.now) ∧
    ∀ t ∈ ts₂, t.label.bounds = false

omit [Util] in
theorem BegunAt.next {since : ℕ} (h : BegunAt ts since) (ht : t.label.bounds = false) :
    BegunAt (ts ++ [t]) since := by
  obtain ⟨ts₁, u, ts₂, rfl, hbegin, htime, hsame⟩ := h
  refine ⟨ts₁, u, ts₂ ++ [t], by simp, hbegin, htime, ?_⟩
  intro t' ht'
  rcases List.mem_append.1 ht' with ht' | ht'
  · exact hsame t' ht'
  · rw [List.mem_singleton.1 ht']
    exact ht

omit [Util] in
theorem PassedAt.next {since : ℕ} (h : PassedAt ts since) (ht : t.label.bounds = false) :
    PassedAt (ts ++ [t]) since := by
  obtain ⟨ts₁, u, ts₂, rfl, hbegun, hpassed, hsame⟩ := h
  refine ⟨ts₁, u, ts₂ ++ [t], by simp, hbegun, hpassed, ?_⟩
  intro t' ht'
  rcases List.mem_append.1 ht' with ht' | ht'
  · exact hsame t' ht'
  · rw [List.mem_singleton.1 ht']
    exact ht

/-- What a run has done when the worker is at the gate. -/
def GateWorld.History (ts : List GateTransition) (w : GateWorld) : Prop :=
  match w.gate with
  | .idle => True
  | .waiting since => BegunAt ts since
  | .passed since => PassedAt ts since

/-- A step keeps the history. -/
theorem history_step (hrun : gateMachine.Run (.init userId boot) ts t.pre)
    (h : gateMachine.Takes t) (hpre : t.pre.History ts) : t.post.History (ts ++ [t]) := by
  have hopen := uiReady_iff hrun
  have hhere : ∀ {since : ℕ}, BegunAt (ts ++ [t]) since →
      (t.pre.world.state.session.mUiReady = true ∨ since + uiReadyTimeout ≤ t.pre.world.now) →
      PassedAt (ts ++ [t]) since := fun hbegun hpassed =>
    ⟨ts, t, [], rfl, hbegun, hpassed.imp_left hopen.1, by simp⟩
  cases gateStep_of_takes h with
  | session u gate hwork hsession =>
      cases gate with
      | idle => trivial
      | waiting since => exact BegunAt.next hpre rfl
      | passed since => exact PassedAt.next hpre rfl
  | begunOpen w hready => exact hhere ⟨ts, _, [], rfl, rfl, rfl, by simp⟩ (.inl hready)
  | begun w hready => exact ⟨ts, _, [], rfl, rfl, rfl, by simp⟩
  | looked w since hpassed => exact hhere (BegunAt.next hpre rfl) hpassed
  | lookedAgain w since => exact BegunAt.next hpre rfl
  | sent u r since hlabel hsession => trivial

theorem history_of_run (hrun : gateMachine.Run (.init userId boot) ts w) : w.History ts := by
  refine hrun.history (I := fun ts w => w.History ts) trivial ?_
  intro ts t hbefore hstep ih
  exact history_step hbefore hstep ih

/-- **The finger-down command is gated.**  When, in a run, the device is told that the finger
is down, the worker has begun a pointer-down job before, and within it has looked at the
gate, at a point at which `onUiReady` had been called and nothing had closed the gate since,
or at least 400 ms after it began. -/
theorem pointer_down_gated (hrun : gateMachine.Run (.init userId boot) (ts₁ ++ t :: ts₂) w)
    {e : Effect} (he : e ∈ t.out) (hdown : e.isFingerDown = true) :
    ∃ since, PassedAt ts₁ since := by
  obtain ⟨hbefore, hstep, -⟩ := hrun.of_append_cons
  have hhistory := history_of_run hbefore
  cases gateStep_of_takes hstep with
  | session u gate hwork hsession =>
      -- the pointer-down job is no step of its own here
      obtain ⟨r, rest, hlabel, hqueue⟩ := pointerDown_of_isFingerDown hsession he hdown
      rw [hlabel] at hwork
      have hnext := (hwork rfl).2
      simp [GateWorld.pointerDownNext, hqueue] at hnext
  | sent u r since hlabel hsession => exact ⟨since, hhistory⟩
  | begunOpen | begun | looked | lookedAgain => cases he

end Runs

/-- The finger is down before the overlay is lit; the worker is woken up by `onUiReady`. -/
theorem pointer_down_gated_by_uiReady :
    ∃ (ts₁ : List GateTransition) (t : GateTransition) (ts₂ : List GateTransition)
      (w : GateWorld),
      gateMachine.Run (.init 0 0) (ts₁ ++ t :: ts₂) w ∧ .device (.goodixExtCmd 1 0) ∈ t.out ∧
      t.pre.world.now < uiReadyTimeout ∧ ∃ since, PassedAt ts₁ since := by
  obtain ⟨ts, w, hrun, t, ht, hdown, hsoon⟩ :
      ∃ (ts : List GateTransition) (w : GateWorld), gateMachine.Run (.init 0 0) ts w ∧
        ∃ t ∈ ts[6]?, .device (.goodixExtCmd 1 0) ∈ t.out ∧
          t.pre.world.now < uiReadyTimeout :=
    Machine.exists_run_of_exec
      [.session (.call .onPointerDown true), .begin, .look, .session (.tick 1000000),
        .session (.call .onUiReady true), .look, .send .zero] (by decide)
  rw [Machine.split_of_getElem? ht] at hrun
  exact ⟨_, t, _, w, hrun, hdown, hsoon, pointer_down_gated hrun hdown rfl⟩

end Fingerprint
