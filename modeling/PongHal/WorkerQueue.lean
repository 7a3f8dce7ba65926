/-
# The worker's queue

Most client calls hand a job to the worker and return ok.  The queue of the worker
holds `workerQueueSize` jobs; `schedule` drops what comes on top of that and says so
in a result that no caller looks at.

The jobs of a run are a stream through the queue: asked for by calls, kept in the
queue, given out to the worker, and lost where a call finds the queue full
(`streamStep_jobs`).  `jobs_executed_iff` is what follows for whole runs: every job is
executed, once and in the order of the calls, exactly in the runs in which no call
finds a full queue.
-/
import PongHal.CrossSession

namespace Fingerprint

variable {boot : ℕ} {ts : List HalTransition} {hal : Hal}

/-- The job a step asks the worker for. -/
def HalTransition.asked (t : HalTransition) : List (ℕ × Session.Job) :=
  match t.label with
  | .call i c =>
      match t.pre.sessions[i]? with
      | none => []
      | some st => (st.session.call c).2.2.toList.map fun j => (i, j)
  | _ => []

/-- The job the worker takes in a step. -/
def HalTransition.executed (t : HalTransition) : List (ℕ × Session.Job) :=
  match t.label with
  | .take _ => t.pre.queue.head?.toList
  | _ => []

/-- The job that a step asks for in vain. -/
def HalTransition.lostJobs (t : HalTransition) : List (ℕ × Session.Job) :=
  if t.pre.queue.length < workerQueueSize then [] else t.asked

/-- The jobs a run asks for, in the order of the calls. -/
def asked (ts : List HalTransition) : List (ℕ × Session.Job) := ts.flatMap HalTransition.asked

/-- The jobs the worker has taken in a run, in its order. -/
def executed (ts : List HalTransition) : List (ℕ × Session.Job) :=
  ts.flatMap HalTransition.executed

/-- The step is one of the worker. -/
def HalLabel.isWorker : HalLabel → Bool
  | .take _ | .perform => true
  | .tick _ | .createSession _ | .call _ _ | .expire _ _ | .message _ => false

/-- A step of the worker asks for nothing. -/
theorem asked_of_isWorker {t : HalTransition} (h : t.label.isWorker = true) : t.asked = [] := by
  obtain ⟨hal, l, out, hal'⟩ := t
  cases l with
  | take r => rfl
  | perform => rfl
  | _ => simp [HalLabel.isWorker] at h

section

variable [Util]

/-! ## The jobs as a stream -/

/-- One step of the stream of jobs. -/
theorem streamStep_jobs {t : HalTransition} (h : halMachine.Takes t) :
    Machine.StreamStep t.pre.queue t.asked t.executed t.lostJobs t.post.queue := by
  have hquiet : ∀ hal : Hal, Machine.StreamStep hal.queue [] []
      (if hal.queue.length < workerQueueSize then [] else []) hal.queue := by
    intro hal
    rw [ite_self]
    exact .quiet _
  cases halStep_of_takes h with
  | call hal i c st hi =>
      simp only [HalTransition.asked, HalTransition.executed, HalTransition.lostJobs, hi]
      cases hj : (st.session.call c).2.2 with
      | none => exact hquiet hal
      | some j =>
          simp only [schedule, Option.toList_some, List.map_cons, List.map_nil]
          split
          · exact .keep _ _
          · -- the queue is full
            exact (Machine.StreamStep.take hal.queue [(i, j)] 0 (fun hne => absurd rfl hne)).2
  | take hal r i j rest st hrunning hqueue hi =>
      simp only [HalTransition.asked, HalTransition.executed, HalTransition.lostJobs, ite_self]
      rw [hqueue]
      exact Machine.StreamStep.give [(i, j)] rest 1
  | _ => exact hquiet _

/-- The jobs taken and the jobs waiting are the jobs asked for, exactly if none was
lost. -/
theorem executed_append_queue_iff (hrun : halMachine.Run (.init boot) ts hal) :
    executed ts ++ hal.queue = asked ts ↔ ∀ t ∈ ts, t.lostJobs = [] :=
  hrun.append_eq_iff_of_steps fun _ _ _ hstep => streamStep_jobs hstep

/-! ## The worker catches up -/

/-- Every job in the queue belongs to a session that exists. -/
theorem queue_lt_of_run (hrun : halMachine.Run (.init boot) ts hal) :
    ∀ p ∈ hal.queue, p.1 < hal.sessions.length := by
  refine hrun.invariant (I := fun hal => ∀ p ∈ hal.queue, p.1 < hal.sessions.length) ?_ ?_
  · simp [Hal.init]
  · intro t hstep ih p hp
    have hgrow : t.pre.sessions.length ≤ t.post.sessions.length := by
      rcases sessions_step hstep with ⟨userId, -, -, hsessions⟩ | ⟨-, hlength⟩
      · simp [hsessions]
      · exact hlength.ge
    rcases mem_queue_step hstep hp with hold | ⟨c, st, -, hst, -⟩
    · exact (ih p hold).trans_le hgrow
    · exact (List.getElem?_eq_some_iff.1 hst).1.trans_le hgrow

/-- The worker can finish its job. -/
theorem exists_run_performed (hal : Hal) :
    ∃ ts' hal', halMachine.Run hal ts' hal' ∧ (∀ t ∈ ts', t.label.isWorker = true) ∧
      hal'.running = [] ∧ hal'.queue = hal.queue ∧ hal'.sessions = hal.sessions := by
  generalize hrunning : hal.running = running
  induction running generalizing hal with
  | nil => exact ⟨[], hal, .start, by simp, hrunning, rfl, rfl⟩
  | cons p rest ih =>
      have hstep : halMachine.Takes
          ⟨hal, .perform, [p],
            { hal with running := rest, activeGroup := p.2.groupAfter hal.activeGroup }⟩ := by
        simp [Machine.Takes, halMachine, Hal.step, hrunning]
      obtain ⟨ts', hal', hrun, hworker, hdone, hqueue, hsessions⟩ := ih
        { hal with running := rest, activeGroup := p.2.groupAfter hal.activeGroup } rfl
      refine ⟨_ :: ts', hal', .cons hstep hrun, ?_, hdone, hqueue, hsessions⟩
      intro t ht
      rcases List.mem_cons.1 ht with rfl | ht
      · rfl
      · exact hworker t ht

/-- An idle worker can take the first job of its queue. -/
theorem exists_take {i : ℕ} {j : Session.Job} {rest : List (ℕ × Session.Job)} {st : SessionState}
    (hrunning : hal.running = []) (hqueue : hal.queue = (i, j) :: rest)
    (hi : hal.sessions[i]? = some st) :
    ∃ hal', halMachine.Takes ⟨hal, .take .zero, [], hal'⟩ ∧ hal'.queue = rest ∧
      hal'.sessions.length = hal.sessions.length := by
  let r := st.session.runJob j .zero hal.now
  refine ⟨{ hal with
    sessions := hal.sessions.set i (st.absorb hal.now r.1 r.2)
    queue := rest
    running := r.2.map fun e => (i, e) }, ?_, rfl, by simp⟩
  show hal.step (.take .zero) = _
  simp only [Hal.step, hrunning, hqueue, hi]
  rfl

/-- The worker can empty its queue. -/
theorem exists_run_drained (hal : Hal) (hqueue : ∀ p ∈ hal.queue, p.1 < hal.sessions.length) :
    ∃ ts' hal', halMachine.Run hal ts' hal' ∧ (∀ t ∈ ts', t.label.isWorker = true) ∧
      hal'.queue = [] ∧ hal'.running = [] := by
  generalize hwaiting : hal.queue = queue
  induction queue generalizing hal with
  | nil =>
      obtain ⟨ts', hal', hrun, hworker, hdone, hsame, -⟩ := exists_run_performed hal
      exact ⟨ts', hal', hrun, hworker, hsame.trans hwaiting, hdone⟩
  | cons p rest ih =>
      obtain ⟨i, j⟩ := p
      -- the worker finishes its job and takes the first one of the queue
      obtain ⟨ts₁, hal₁, hrun₁, hworker₁, hdone, hsame, hsessions⟩ := exists_run_performed hal
      have hlt : i < hal₁.sessions.length := by
        rw [hsessions]
        exact hqueue (i, j) (by rw [hwaiting]; exact List.mem_cons_self)
      obtain ⟨st, hi⟩ : ∃ st, hal₁.sessions[i]? = some st := ⟨_, List.getElem?_eq_getElem hlt⟩
      have hfirst : hal₁.queue = (i, j) :: rest := hsame.trans hwaiting
      obtain ⟨hal₂, hstep, hqueue₂, hlength⟩ := exists_take hdone hfirst hi
      have hrest : ∀ p ∈ hal₂.queue, p.1 < hal₂.sessions.length := by
        intro p hp
        rw [hlength, hsessions]
        refine hqueue p ?_
        rw [hwaiting]
        exact List.mem_cons_of_mem _ (hqueue₂ ▸ hp)
      obtain ⟨ts₂, hal', hrun₂, hworker₂, hempty, hidle⟩ := ih hal₂ hrest hqueue₂
      refine ⟨ts₁ ++ _ :: ts₂, hal', hrun₁.trans (.cons hstep hrun₂), ?_, hempty, hidle⟩
      intro t ht
      rcases List.mem_append.1 ht with ht | ht
      · exact hworker₁ t ht
      · rcases List.mem_cons.1 ht with rfl | ht
        · rfl
        · exact hworker₂ t ht

/-- **Exactly when every job is executed.**  After every run the worker can, of its own,
finish its job and empty its queue.  What the worker has executed is a first part of
the jobs asked for, and whenever the run goes on without further jobs until the queue
is empty it is all of them, each once and in the order of the calls, if and only if
no call of the run asks for a job while `workerQueueSize` jobs are waiting. -/
theorem jobs_executed_iff (hrun : halMachine.Run (.init boot) ts hal) :
    (∃ ts' hal', halMachine.Run hal ts' hal' ∧ (∀ t ∈ ts', t.label.isWorker = true) ∧
      hal'.queue = [] ∧ hal'.running = []) ∧
    ((executed ts <+: asked ts ∧
      ∀ ts' hal', halMachine.Run hal ts' hal' → asked ts' = [] → hal'.queue = [] →
        executed (ts ++ ts') = asked ts) ↔
    ∀ t ∈ ts, t.asked ≠ [] → t.pre.queue.length < workerQueueSize) := by
  have hdrained := exists_run_drained hal (queue_lt_of_run hrun)
  refine ⟨hdrained, ?_, ?_⟩
  · rintro ⟨-, hall⟩ t ht hasked
    obtain ⟨ts', hal', hrun', hworker, hempty, -⟩ := hdrained
    have hnone : asked ts' = [] := List.flatMap_eq_nil_iff.2
      fun t ht => asked_of_isWorker (hworker t ht)
    have hsame : executed (ts ++ ts') ++ hal'.queue = asked (ts ++ ts') := by
      rw [hempty, List.append_nil, hall ts' hal' hrun' hnone hempty, asked, asked,
        List.flatMap_append]
      exact (List.append_nil _).symm.trans (congrArg _ hnone.symm)
    have hlost := (executed_append_queue_iff (hrun.trans hrun')).1 hsame t
      (List.mem_append_left _ ht)
    by_contra hfull
    rw [HalTransition.lostJobs, if_neg hfull] at hlost
    exact hasked hlost
  · intro hroom
    have hlost : ∀ t ∈ ts, t.lostJobs = [] := by
      intro t ht
      rw [HalTransition.lostJobs]
      split
      · rfl
      · rename_i hfull
        by_contra hasked
        exact hfull (hroom t ht hasked)
    refine ⟨⟨hal.queue, (executed_append_queue_iff hrun).2 hlost⟩, ?_⟩
    intro ts' hal' hrun' hnone hempty
    have hnone' : ∀ t ∈ ts', HalTransition.asked t = [] := List.flatMap_eq_nil_iff.1 hnone
    have hlost' : ∀ t ∈ ts ++ ts', HalTransition.lostJobs t = [] := by
      intro t ht
      rcases List.mem_append.1 ht with ht | ht
      · exact hlost t ht
      · rw [HalTransition.lostJobs, hnone' t ht, ite_self]
    have hall := (executed_append_queue_iff (hrun.trans hrun')).2 hlost'
    rw [hempty, List.append_nil] at hall
    rw [hall, asked, List.flatMap_append]
    exact (congrArg _ hnone).trans (List.append_nil _)

end

/-- Five calls in a row find room, and their jobs are executed. -/
theorem jobs_executed_iff_burst :
    ∃ (ts : List HalTransition) (hal : Hal), halMachine.Run (.init 0) ts hal ∧
      (asked ts).length = 5 ∧ executed ts <+: asked ts := by
  have hburst : ∃ (ts : List HalTransition) (hal : Hal), halMachine.Run (.init 0) ts hal ∧
      (asked ts).length = 5 ∧
      ∀ t ∈ ts, HalTransition.asked t ≠ [] → t.pre.queue.length < workerQueueSize :=
    Machine.exists_run_of_exec
      [.createSession 0, .call 0 .onPointerDown, .call 0 .onPointerUp, .call 0 .onPointerDown,
        .call 0 .onPointerUp, .call 0 .cancel, .take .zero] (by decide)
  obtain ⟨ts, hal, hrun, hlength, hroom⟩ := hburst
  exact ⟨ts, hal, hrun, hlength, ((jobs_executed_iff hrun).2.2 hroom).1⟩

/-- The sixth call of a burst, a `close`, returns ok, and its job is never executed. -/
theorem close_job_lost :
    ∃ (ts : List HalTransition) (hal : Hal), halMachine.Run (.init 0) ts hal ∧
      hal.queue = [] ∧ hal.running = [] ∧ (0, Session.Job.close) ∈ asked ts ∧
      (0, Session.Job.close) ∉ executed ts :=
  Machine.exists_run_of_exec
    [.createSession 0, .call 0 .onPointerUp, .call 0 .onPointerUp, .call 0 .onPointerUp,
      .call 0 .onPointerUp, .call 0 .onPointerUp, .call 0 .close,
      .take .zero, .perform, .take .zero, .perform, .take .zero, .perform,
      .take .zero, .perform, .take .zero, .perform] (by decide)

end Fingerprint
