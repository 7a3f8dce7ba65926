/-
# Cancellation signals (`CancellationSignal.cpp`)

Each call of `enroll`, `authenticate` or `detectInteraction` returns a signal, and
`CancellationSignal::cancel` calls `Session::cancel` of the session the signal was made
for.  It does not say which call the signal belongs to, so the cancel job cancels
whatever the device is running.

`signalMachine` is `sessionMachine` with the signals kept in view: signals are numbered
in the order of the calls that return them, jobs carry the number of the signal they
were scheduled for or with, and the device carries that of the operation it is running.
Every run of it is a run of the session (`takes_session`).  The queue is first in first
out, so a cancel job comes after the job of its signal's own operation
(`Signalled.order`), and `cancels_own_iff` says when the one cancels the other and
nothing else.
-/
import PongHal.OperationEnds

namespace Fingerprint

/-! ## Signals -/

/-- The call returns a cancellation signal. -/
def Session.Call.returnsSignal : Session.Call → Bool
  | .enroll _ | .authenticate _ | .detectInteraction => true
  | _ => false

/-- The job is that of a call that returns a signal. -/
def Session.Job.isOperation : Session.Job → Bool
  | .enroll _ | .authenticate _ | .detectInteraction => true
  | _ => false

/-- The job starts an operation on the device, if the device accepts it. -/
def Session.Job.startsOnDevice : Session.Job → Bool
  | .enroll _ | .authenticate _ => true
  | _ => false

/-- The steps of a session whose client has signals. -/
inductive SignalLabel
  /-- The client calls `cancel` of signal `n`; `accepted` says whether the worker's queue
  had room. -/
  | cancel (n : ℕ) (accepted : Bool)
  /-- Any other step of the session. -/
  | other (l : SessionLabel)
  deriving DecidableEq, Repr

/-- `CancellationSignal::cancel` is `Session::cancel`. -/
def SignalLabel.session : SignalLabel → SessionLabel
  | .cancel _ accepted => .call .cancel accepted
  | .other l => l

/-- A session with its signals: the jobs in its queue with the signals they were scheduled
for or with, how many signals it has returned, those whose own job the queue has dropped
and those whose own job the worker has run, the signal of the operation the device is
running, and how many accepted cancels the device has still to answer. -/
structure SignalWorld where
  world : SessionWorld
  jobs : List (Session.Job × Option ℕ)
  signals : ℕ
  dropped : List ℕ
  begun : List ℕ
  running : Option ℕ
  owed : ℕ
  deriving DecidableEq, Repr

namespace SignalWorld

/-- A session just created. -/
def init (userId : Int32) (boot : ℕ) : SignalWorld where
  world := .init userId boot
  jobs := []
  signals := 0
  dropped := []
  begun := []
  running := none
  owed := 0

/-- The operation of signal `n` has ended: its job has run, and the device is not running
it. -/
def Ended (s : SignalWorld) (n : ℕ) : Prop := n ∈ s.begun ∧ s.running ≠ some n

instance (s : SignalWorld) (n : ℕ) : Decidable (s.Ended n) := inferInstanceAs (Decidable (_ ∧ _))

/-- A client can only cancel with a signal it has got, and only with a signal. -/
def admits (s : SignalWorld) : SignalLabel → Bool
  | .cancel n _ => decide (n < s.signals)
  | .other (.call c _) => decide (c ≠ .cancel)
  | .other _ => true

/-- The signals after a client's call. -/
def called (s : SignalWorld) (c : Session.Call) (accepted : Bool) : SignalWorld :=
  let job := (s.world.state.session.call c).2.2
  if c.returnsSignal then
    { s with
      jobs := if accepted then s.jobs ++ job.toList.map fun j => (j, some s.signals) else s.jobs
      signals := s.signals + 1
      dropped := if accepted then s.dropped else s.dropped ++ [s.signals] }
  else
    { s with
      jobs := if accepted then s.jobs ++ job.toList.map fun j => (j, none) else s.jobs }

/-- The signals after the worker has run its next job.  If the device answers `0` it runs
the operation of the job, or has cancelled the one it was running. -/
def ran (s : SignalWorld) (r : DeviceReplies) : SignalWorld :=
  match s.jobs with
  | [] => s
  | (j, signal) :: rest =>
      { s with
        jobs := rest
        begun := s.begun ++ if j.isOperation then signal.toList else []
        running :=
          if r.code = 0 ∧ j.startsOnDevice = true then signal
          else if r.code = 0 ∧ j = .cancel then none
          else s.running
        owed := s.owed + if r.code = 0 ∧ j = .cancel ∧ s.running.isSome = true then 1 else 0 }

/-- The signals after a message: the answer to a cancel, or the end of the operation the
device is running. -/
def told (s : SignalWorld) (msg : FingerprintMsg) : SignalWorld :=
  if msg = .canceled ∧ 0 < s.owed then { s with owed := s.owed - 1 }
  else if msg.endsOperation then { s with running := none }
  else s

/-- The signals after a step. -/
def recorded (s : SignalWorld) : SignalLabel → SignalWorld
  | .cancel n accepted =>
      { s with jobs := if accepted then s.jobs ++ [(.cancel, some n)] else s.jobs }
  | .other (.call c accepted) => s.called c accepted
  | .other (.work r) => s.ran r
  | .other (.message msg) => s.told msg
  | .other (.tick _) | .other (.expire _) => s

/-- One step: that of the session, and what becomes of the signals. -/
def step [Util] (s : SignalWorld) (l : SignalLabel) : Option (SignalWorld × List Effect) :=
  if s.admits l then
    (s.world.step l.session).map fun r => ({ s.recorded l with world := r.1 }, r.2)
  else none

end SignalWorld

/-- The machine of a session with its signals. -/
def signalMachine [Util] : Machine SignalWorld SignalLabel Effect where
  step := SignalWorld.step

/-- A step of its run. -/
abbrev SignalTransition := Transition SignalWorld SignalLabel Effect

/-- The cancel job that the worker runs in a step, by the signal it was scheduled with. -/
def SignalTransition.cancels (t : SignalTransition) : Option ℕ :=
  match t.label, t.pre.jobs with
  | .other (.work _), (.cancel, some n) :: _ => some n
  | _, _ => none

/-- What a cancel job of signal `n` may do: it calls the device's `cancel` only if no other
operation is running, and it neither does that nor sends `onError(CANCELED)` if the
operation of its signal has ended. -/
def SignalTransition.CancelsOwn (t : SignalTransition) (n : ℕ) : Prop :=
  (.device .cancel ∈ t.out → t.pre.running = none ∨ t.pre.running = some n) ∧
  (t.pre.Ended n → .device .cancel ∉ t.out ∧ .callback .canceled ∉ t.out)

instance (t : SignalTransition) (n : ℕ) : Decidable (t.CancelsOwn n) :=
  inferInstanceAs (Decidable ((_ → _) ∧ (_ → _)))

/-! ## What holds in every run -/

section

variable [Util] {userId : Int32} {boot : ℕ} {ts : List SignalTransition} {s : SignalWorld}

/-- Every step is one of the session. -/
theorem takes_session {t : SignalTransition} (h : signalMachine.Takes t) :
    t.pre.admits t.label = true ∧
    sessionMachine.Takes ⟨t.pre.world, t.label.session, t.out, t.post.world⟩ ∧
    t.post = { t.pre.recorded t.label with world := t.post.world } := by
  obtain ⟨s, l, out, s'⟩ := t
  change s.step l = some (s', out) at h
  rw [SignalWorld.step] at h
  split at h
  · rename_i hadmits
    obtain ⟨⟨w, out'⟩, hstep, heq⟩ := Option.map_eq_some_iff.1 h
    cases heq
    exact ⟨hadmits, hstep, rfl⟩
  · cases h

/-- The signals and the queue: the jobs are those of the session's queue, and the own job
of every signal was dropped, has been run or is waiting, and if it is waiting then
before any cancel job of the signal. -/
structure SignalWorld.Signalled (s : SignalWorld) : Prop where
  queue : s.world.queue = s.jobs.map Prod.fst
  order : ∀ l n, l ++ [(.cancel, some n)] <+: s.jobs →
    n ∈ s.dropped ∨ n ∈ s.begun ∨ ∃ j, j.isOperation = true ∧ (j, some n) ∈ l
  known : ∀ n < s.signals,
    n ∈ s.dropped ∨ n ∈ s.begun ∨ ∃ j, j.isOperation = true ∧ (j, some n) ∈ s.jobs
  begun_lt : ∀ n ∈ s.begun, n < s.signals
  waiting_lt : ∀ j n, j.isOperation = true → (j, some n) ∈ s.jobs → n < s.signals
  dropped_only : ∀ n ∈ s.dropped, n < s.signals ∧ n ∉ s.begun ∧
    ∀ j, j.isOperation = true → (j, some n) ∉ s.jobs

namespace SignalWorld

omit [Util] in
/-- A step that leaves the signals alone. -/
theorem Signalled.quiet {s' : SignalWorld} (h : s.Signalled)
    (hqueue : s'.world.queue = s.world.queue)
    (hjobs : s'.jobs = s.jobs) (hsignals : s'.signals = s.signals)
    (hdropped : s'.dropped = s.dropped) (hbegun : s'.begun = s.begun) : s'.Signalled := by
  refine ⟨?_, ?_, ?_, ?_, ?_, ?_⟩
  · rw [hqueue, hjobs]
    exact h.queue
  · rw [hjobs, hdropped, hbegun]
    exact h.order
  · rw [hjobs, hdropped, hbegun, hsignals]
    exact h.known
  · rw [hbegun, hsignals]
    exact h.begun_lt
  · rw [hjobs, hsignals]
    exact h.waiting_lt
  · rw [hjobs, hdropped, hbegun, hsignals]
    exact h.dropped_only

omit [Util] in
/-- A job comes into the queue that is no operation of a signal. -/
theorem Signalled.push {s' : SignalWorld} {p : Session.Job × Option ℕ} (h : s.Signalled)
    (hqueue : s'.world.queue = s.world.queue ++ [p.1]) (hjobs : s'.jobs = s.jobs ++ [p])
    (hsignals : s'.signals = s.signals) (hdropped : s'.dropped = s.dropped)
    (hbegun : s'.begun = s.begun) (hp : p.1.isOperation = false ∨ p.2 = none)
    (hcancel : ∀ n, p = (.cancel, some n) → n < s.signals) : s'.Signalled := by
  have hnew : ∀ j n, j.isOperation = true → (j, some n) ∈ s.jobs ++ [p] → (j, some n) ∈ s.jobs := by
    intro j n hj hmem
    rcases List.mem_append.1 hmem with hold | hlast
    · exact hold
    · rw [← List.mem_singleton.1 hlast] at hp
      rcases hp with hnot | hnone
      · rw [hj] at hnot
        cases hnot
      · cases hnone
  refine ⟨?_, ?_, ?_, ?_, ?_, ?_⟩
  · rw [hqueue, hjobs, h.queue, List.map_append]
    rfl
  · rw [hjobs, hdropped, hbegun]
    intro l n hl
    rcases List.prefix_concat_iff.1 hl with heq | hold
    · -- the new job is the cancel job: the own job of its signal came before
      obtain ⟨rfl, hlast⟩ := List.append_inj' heq rfl
      exact h.known n (hcancel n (List.singleton_inj.1 hlast).symm)
    · exact h.order l n hold
  · rw [hjobs, hdropped, hbegun, hsignals]
    intro n hn
    rcases h.known n hn with hd | hb | ⟨j, hj, hmem⟩
    · exact .inl hd
    · exact .inr (.inl hb)
    · exact .inr (.inr ⟨j, hj, List.mem_append_left _ hmem⟩)
  · rw [hbegun, hsignals]
    exact h.begun_lt
  · rw [hjobs, hsignals]
    exact fun j n hj hmem => h.waiting_lt j n hj (hnew j n hj hmem)
  · rw [hjobs, hdropped, hbegun, hsignals]
    intro n hn
    obtain ⟨hlt, hnot, hnone⟩ := h.dropped_only n hn
    exact ⟨hlt, hnot, fun j hj hmem => hnone j hj (hnew j n hj hmem)⟩

omit [Util] in
/-- A call returns a new signal, and its job finds room. -/
theorem Signalled.issue {s' : SignalWorld} {j : Session.Job} (h : s.Signalled)
    (hj : j.isOperation = true) (hqueue : s'.world.queue = s.world.queue ++ [j])
    (hjobs : s'.jobs = s.jobs ++ [(j, some s.signals)]) (hsignals : s'.signals = s.signals + 1)
    (hdropped : s'.dropped = s.dropped) (hbegun : s'.begun = s.begun) : s'.Signalled := by
  have hcancel : j ≠ .cancel := by
    rintro rfl
    cases hj
  refine ⟨?_, ?_, ?_, ?_, ?_, ?_⟩
  · rw [hqueue, hjobs, h.queue, List.map_append]
    rfl
  · rw [hjobs, hdropped, hbegun]
    intro l n hl
    rcases List.prefix_concat_iff.1 hl with heq | hold
    · obtain ⟨-, hlast⟩ := List.append_inj' heq rfl
      exact absurd (congrArg Prod.fst (List.singleton_inj.1 hlast)).symm hcancel
    · exact h.order l n hold
  · rw [hjobs, hdropped, hbegun, hsignals]
    intro n hn
    rcases Nat.lt_succ_iff_lt_or_eq.1 hn with hlt | rfl
    · rcases h.known n hlt with hd | hb | ⟨j', hj', hmem⟩
      · exact .inl hd
      · exact .inr (.inl hb)
      · exact .inr (.inr ⟨j', hj', List.mem_append_left _ hmem⟩)
    · exact .inr (.inr ⟨j, hj, List.mem_append_right _ (List.mem_singleton_self _)⟩)
  · rw [hbegun, hsignals]
    exact fun n hn => Nat.lt_succ_of_lt (h.begun_lt n hn)
  · rw [hjobs, hsignals]
    intro j' n hj' hmem
    rcases List.mem_append.1 hmem with hold | hlast
    · exact Nat.lt_succ_of_lt (h.waiting_lt j' n hj' hold)
    · have heq : n = s.signals := Option.some.inj (Prod.mk.inj (List.mem_singleton.1 hlast)).2
      omega
  · rw [hjobs, hdropped, hbegun, hsignals]
    intro n hn
    obtain ⟨hlt, hnot, hnone⟩ := h.dropped_only n hn
    refine ⟨Nat.lt_succ_of_lt hlt, hnot, fun j' hj' hmem => ?_⟩
    rcases List.mem_append.1 hmem with hold | hlast
    · exact hnone j' hj' hold
    · have heq : n = s.signals := Option.some.inj (Prod.mk.inj (List.mem_singleton.1 hlast)).2
      omega

omit [Util] in
/-- A call returns a new signal, and its job is dropped. -/
theorem Signalled.drop {s' : SignalWorld} (h : s.Signalled)
    (hqueue : s'.world.queue = s.world.queue) (hjobs : s'.jobs = s.jobs)
    (hsignals : s'.signals = s.signals + 1) (hdropped : s'.dropped = s.dropped ++ [s.signals])
    (hbegun : s'.begun = s.begun) : s'.Signalled := by
  refine ⟨?_, ?_, ?_, ?_, ?_, ?_⟩
  · rw [hqueue, hjobs]
    exact h.queue
  · rw [hjobs, hdropped, hbegun]
    intro l n hl
    rcases h.order l n hl with hd | hrest
    · exact .inl (List.mem_append_left _ hd)
    · exact .inr hrest
  · rw [hjobs, hdropped, hbegun, hsignals]
    intro n hn
    rcases Nat.lt_succ_iff_lt_or_eq.1 hn with hlt | rfl
    · rcases h.known n hlt with hd | hrest
      · exact .inl (List.mem_append_left _ hd)
      · exact .inr hrest
    · exact .inl (List.mem_append_right _ (List.mem_singleton_self _))
  · rw [hbegun, hsignals]
    exact fun n hn => Nat.lt_succ_of_lt (h.begun_lt n hn)
  · rw [hjobs, hsignals]
    exact fun j n hj hmem => Nat.lt_succ_of_lt (h.waiting_lt j n hj hmem)
  · rw [hjobs, hdropped, hbegun, hsignals]
    intro n hn
    rcases List.mem_append.1 hn with hold | hlast
    · obtain ⟨hlt, hrest⟩ := h.dropped_only n hold
      exact ⟨Nat.lt_succ_of_lt hlt, hrest⟩
    · -- the new signal is known to nobody
      rw [List.mem_singleton.1 hlast]
      refine ⟨Nat.lt_succ_self _, fun hb => ?_, fun j hj hmem => ?_⟩
      · exact lt_irrefl _ (h.begun_lt _ hb)
      · exact lt_irrefl _ (h.waiting_lt j _ hj hmem)

omit [Util] in
/-- The worker runs the first job. -/
theorem Signalled.pop {s' : SignalWorld} {j : Session.Job} {signal : Option ℕ}
    {rest : List (Session.Job × Option ℕ)} (h : s.Signalled) (hfirst : s.jobs = (j, signal) :: rest)
    (hqueue : s'.world.queue = s.world.queue.tail) (hjobs : s'.jobs = rest)
    (hsignals : s'.signals = s.signals) (hdropped : s'.dropped = s.dropped)
    (hbegun : s'.begun = s.begun ++ if j.isOperation then signal.toList else []) :
    s'.Signalled := by
  have hold : ∀ p ∈ rest, p ∈ s.jobs := fun p hp => by
    rw [hfirst]
    exact List.mem_cons_of_mem _ hp
  have hran : ∀ n, n ∈ s'.begun ↔ n ∈ s.begun ∨ (j.isOperation = true ∧ signal = some n) := by
    intro n
    rw [hbegun, List.mem_append]
    cases hj : j.isOperation <;> simp
  -- what was ahead in the queue is run or is still ahead
  have hahead : ∀ n l, (∃ j', j'.isOperation = true ∧ (j', some n) ∈ (j, signal) :: l) →
      n ∈ s'.begun ∨ ∃ j', j'.isOperation = true ∧ (j', some n) ∈ l := by
    rintro n l ⟨j', hj', hmem⟩
    rcases List.mem_cons.1 hmem with heq | hlater
    · obtain ⟨rfl, hsignal⟩ := Prod.mk.inj heq
      exact .inl ((hran n).2 (.inr ⟨hj', hsignal.symm⟩))
    · exact .inr ⟨j', hj', hlater⟩
  refine ⟨?_, ?_, ?_, ?_, ?_, ?_⟩
  · rw [hqueue, hjobs, h.queue, hfirst]
    rfl
  · rw [hjobs, hdropped]
    intro l n hl
    have hprefix : ((j, signal) :: l) ++ [(.cancel, some n)] <+: s.jobs := by
      rw [hfirst, List.cons_append]
      exact List.cons_prefix_cons.2 ⟨rfl, hl⟩
    rcases h.order _ n hprefix with hd | hb | hmem
    · exact .inl hd
    · exact .inr (.inl ((hran n).2 (.inl hb)))
    · exact .inr (hahead n l hmem)
  · rw [hjobs, hdropped, hsignals]
    intro n hn
    rcases h.known n hn with hd | hb | hmem
    · exact .inl hd
    · exact .inr (.inl ((hran n).2 (.inl hb)))
    · rw [hfirst] at hmem
      exact .inr (hahead n rest hmem)
  · rw [hsignals]
    intro n hn
    rcases (hran n).1 hn with hb | ⟨hj, rfl⟩
    · exact h.begun_lt n hb
    · exact h.waiting_lt j n hj (by rw [hfirst]; exact List.mem_cons_self)
  · rw [hjobs, hsignals]
    exact fun j' n hj' hmem => h.waiting_lt j' n hj' (hold _ hmem)
  · rw [hjobs, hdropped, hsignals]
    intro n hn
    obtain ⟨hlt, hnot, hnone⟩ := h.dropped_only n hn
    refine ⟨hlt, fun hb => ?_, fun j' hj' hmem => hnone j' hj' (hold _ hmem)⟩
    rcases (hran n).1 hb with hb | ⟨hj, rfl⟩
    · exact hnot hb
    · exact hnone j hj (by rw [hfirst]; exact List.mem_cons_self)

end SignalWorld

/-! ## The queue of the session -/

/-- What a step does to the queue. -/
theorem queue_step {t : SessionTransition} (h : sessionMachine.Takes t) :
    match t.label with
    | .call c accepted => t.post.queue =
        if accepted then t.pre.queue ++ (t.pre.state.session.call c).2.2.toList else t.pre.queue
    | .work r => t.post.queue = t.pre.queue.tail ∧ ∃ j ∈ t.pre.queue.head?,
        t.out = (t.pre.state.session.runJob j r t.pre.now).2
    | .tick _ | .expire _ | .message _ => t.post.queue = t.pre.queue := by
  cases sessionStep_of_takes h with
  | work w r j rest hqueue => exact ⟨by simp [hqueue], j, by simp [hqueue], rfl⟩
  | _ => rfl

omit [Util] in
/-- A call that returns a signal schedules the job of its operation. -/
theorem job_of_returnsSignal {c : Session.Call} (hc : c.returnsSignal = true) (s : Session) :
    ∃ j, (s.call c).2.2 = some j ∧ j.isOperation = true := by
  cases c with
  | enroll hat => exact ⟨_, rfl, rfl⟩
  | authenticate operationId => exact ⟨_, rfl, rfl⟩
  | detectInteraction => exact ⟨_, rfl, rfl⟩
  | _ => cases hc

namespace SignalWorld

omit [Util] in
/-- What running a job does to the signals. -/
theorem ran_eq {j : Session.Job} {signal : Option ℕ} {rest : List (Session.Job × Option ℕ)}
    (hfirst : s.jobs = (j, signal) :: rest) (r : DeviceReplies) :
    (s.ran r).jobs = rest ∧ (s.ran r).signals = s.signals ∧ (s.ran r).dropped = s.dropped ∧
      (s.ran r).begun = s.begun ++ if j.isOperation then signal.toList else [] := by
  rw [ran, hfirst]
  exact ⟨rfl, rfl, rfl, rfl⟩

omit [Util] in
/-- A message does not concern the queue. -/
theorem told_eq (msg : FingerprintMsg) :
    (s.told msg).jobs = s.jobs ∧ (s.told msg).signals = s.signals ∧
      (s.told msg).dropped = s.dropped ∧ (s.told msg).begun = s.begun := by
  unfold told
  split
  · exact ⟨rfl, rfl, rfl, rfl⟩
  · split <;> exact ⟨rfl, rfl, rfl, rfl⟩

/-- One step keeps this. -/
theorem Signalled.step {t : SignalTransition} (h : signalMachine.Takes t)
    (ih : t.pre.Signalled) : t.post.Signalled := by
  obtain ⟨hadmits, hstep, hpost⟩ := takes_session h
  obtain ⟨s, l, out, s'⟩ := t
  have hqueue := queue_step hstep
  simp only at hadmits hqueue hpost ih
  generalize s'.world = w at hqueue hpost
  subst hpost
  cases l with
  | cancel n accepted =>
      cases accepted with
      | false => exact ih.quiet hqueue rfl rfl rfl rfl
      | true =>
          refine ih.push (p := (.cancel, some n)) hqueue rfl rfl rfl rfl (.inl rfl) ?_
          intro m hm
          obtain rfl : n = m := Option.some.inj (Prod.mk.inj hm).2
          simpa [admits] using hadmits
  | other l =>
      cases l with
      | tick nanos => exact ih.quiet hqueue rfl rfl rfl rfl
      | expire i => exact ih.quiet hqueue rfl rfl rfl rfl
      | message msg =>
          obtain ⟨hjobs, hsignals, hdropped, hbegun⟩ := told_eq (s := s) msg
          exact ih.quiet hqueue hjobs hsignals hdropped hbegun
      | work r =>
          obtain ⟨htail, j, hj, -⟩ := hqueue
          rw [ih.queue] at hj
          cases hfirst : s.jobs with
          | nil => simp [hfirst] at hj
          | cons p rest =>
              obtain ⟨hjobs, hsignals, hdropped, hbegun⟩ := ran_eq (s := s) hfirst r
              exact ih.pop hfirst htail hjobs hsignals hdropped hbegun
      | call c accepted =>
          cases hc : c.returnsSignal with
          | true =>
              obtain ⟨j, hj, hop⟩ := job_of_returnsSignal hc s.world.state.session
              simp only [SignalLabel.session, hj] at hqueue
              cases accepted with
              | true =>
                  refine ih.issue hop hqueue ?_ ?_ ?_ ?_ <;>
                    simp [recorded, called, hc, hj]
              | false =>
                  refine ih.drop hqueue ?_ ?_ ?_ ?_ <;> simp [recorded, called, hc]
          | false =>
              cases accepted with
              | false => refine ih.quiet hqueue ?_ ?_ ?_ ?_ <;> simp [recorded, called, hc]
              | true =>
                  cases hj : (s.world.state.session.call c).2.2 with
                  | none =>
                      simp only [SignalLabel.session, hj, Option.toList_none, List.append_nil,
                        if_true] at hqueue
                      refine ih.quiet hqueue ?_ ?_ ?_ ?_ <;> simp [recorded, called, hc, hj]
                  | some j =>
                      simp only [SignalLabel.session, hj, Option.toList_some, if_true] at hqueue
                      refine ih.push (p := (j, none)) hqueue ?_ ?_ ?_ ?_ (.inr rfl) (by simp) <;>
                        simp [recorded, called, hc, hj]

end SignalWorld

/-- It holds in every run. -/
theorem signalled_of_run (hrun : signalMachine.Run (.init userId boot) ts s) : s.Signalled := by
  refine hrun.invariant (I := SignalWorld.Signalled) ⟨rfl, ?_, ?_, ?_, ?_, ?_⟩ ?_
  · intro l n hl
    simp [SignalWorld.init] at hl
  · intro n hn
    simp [SignalWorld.init] at hn
  · intro n hn
    simp [SignalWorld.init] at hn
  · intro j n hj hmem
    simp [SignalWorld.init] at hmem
  · intro n hn
    simp [SignalWorld.init] at hn
  · intro t hstep ih
    exact ih.step hstep

omit [Util] in
theorem cancels_eq_some {t : SignalTransition} {n : ℕ} (h : t.cancels = some n) :
    ∃ r rest, t.label = .other (.work r) ∧ t.pre.jobs = (.cancel, some n) :: rest := by
  unfold SignalTransition.cancels at h
  split at h
  · rename_i r m rest hlabel hjobs
    obtain rfl : m = n := Option.some.inj h
    exact ⟨r, rest, hlabel, hjobs⟩
  · cases h

/-- A cancel job calls the device's `cancel`, whatever its signal. -/
theorem cancel_mem_out {t : SignalTransition} {n : ℕ} (h : signalMachine.Takes t)
    (hsignalled : t.pre.Signalled) (hcancels : t.cancels = some n) : .device .cancel ∈ t.out := by
  obtain ⟨r, rest, hlabel, hjobs⟩ := cancels_eq_some hcancels
  obtain ⟨-, hstep, -⟩ := takes_session h
  have hqueue := queue_step hstep
  simp only [hlabel, SignalLabel.session] at hqueue
  obtain ⟨-, j, hj, hout⟩ := hqueue
  obtain rfl : .cancel = j := by simpa [hsignalled.queue, hjobs] using hj
  rw [hout]
  simp [Session.runJob]

/-- **Exactly when a signal cancels its own operation.**  In a run of a session no cancel
job touches another operation on the device, and none whose operation has ended calls
the device's `cancel` or sends `onError(CANCELED)`, if and only if every cancel job that
the worker runs finds the device running the operation of its signal, or running
nothing when the queue had dropped the job of that operation. -/
theorem cancels_own_iff (hrun : signalMachine.Run (.init userId boot) ts s) :
    (∀ t ∈ ts, ∀ n, t.cancels = some n → t.CancelsOwn n) ↔
    ∀ t ∈ ts, ∀ n, t.cancels = some n →
      t.pre.running = some n ∨ (t.pre.running = none ∧ n ∈ t.pre.dropped) := by
  constructor
  · intro hown t ht n hcancels
    obtain ⟨ts₁, ts₂, rfl, hrun₁, hstep⟩ := hrun.split_of_mem ht
    have hsignalled := signalled_of_run hrun₁
    have hcalled := cancel_mem_out hstep hsignalled hcancels
    obtain ⟨hother, hended⟩ := hown t ht n hcancels
    rcases hother hcalled with hnone | hrunning
    swap
    · exact .inl hrunning
    refine .inr ⟨hnone, ?_⟩
    -- the job of the signal's operation came before, so it was dropped or has run
    obtain ⟨r, rest, -, hjobs⟩ := cancels_eq_some hcancels
    have hfirst : [] ++ [(.cancel, some n)] <+: t.pre.jobs := by
      rw [hjobs]
      exact ⟨rest, rfl⟩
    rcases hsignalled.order [] n hfirst with hdropped | hbegun | ⟨j, -, hmem⟩
    · exact hdropped
    · exact absurd hcalled (hended ⟨hbegun, by simp [hnone]⟩).1
    · exact absurd hmem List.not_mem_nil
  · intro hfinds t ht n hcancels
    obtain ⟨ts₁, ts₂, rfl, hrun₁, hstep⟩ := hrun.split_of_mem ht
    have hsignalled := signalled_of_run hrun₁
    rcases hfinds t ht n hcancels with hrunning | ⟨hnone, hdropped⟩
    · exact ⟨fun _ => .inr hrunning, fun hended => absurd hrunning hended.2⟩
    · exact ⟨fun _ => .inl hnone,
        fun hended => absurd hended.1 (hsignalled.dropped_only n hdropped).2.1⟩

end

/-- An authentication is cancelled while it runs. -/
theorem cancels_own_iff_running :
    ∃ (ts : List SignalTransition) (s : SignalWorld), signalMachine.Run (.init 0 0) ts s ∧
      (∃ t ∈ ts, SignalTransition.cancels t = some 0) ∧
      ∀ t ∈ ts, ∀ n, t.cancels = some n → t.CancelsOwn n := by
  have hrunning : ∃ (ts : List SignalTransition) (s : SignalWorld),
      signalMachine.Run (.init 0 0) ts s ∧
      (∃ t ∈ ts, SignalTransition.cancels t = some 0) ∧
      ∀ t ∈ ts, (SignalTransition.cancels t).all fun n => decide (t.pre.running = some n) :=
    Machine.exists_run_of_exec
      [.other (.call (.authenticate 1) true), .cancel 0 true, .other (.work .zero),
        .other (.work .zero)] (by decide)
  obtain ⟨ts, s, hrun, hcancels, hfinds⟩ := hrunning
  refine ⟨ts, s, hrun, hcancels, (cancels_own_iff hrun).2 fun t ht n hn => .inl ?_⟩
  simpa [hn] using hfinds t ht

/-- The first authentication times out and a second one is running when the signal of the
first is used: the second one is cancelled. -/
theorem late_cancel :
    ∃ (ts : List SignalTransition) (s : SignalWorld), signalMachine.Run (.init 0 0) ts s ∧
      ∃ t ∈ ts, SignalTransition.cancels t = some 0 ∧ t.pre.running = some 1 ∧
        t.pre.Ended 0 ∧ ¬ SignalTransition.CancelsOwn t 0 :=
  Machine.exists_run_of_exec
    [.other (.call (.authenticate 1) true), .other (.work .zero), .other (.message (.error 3)),
      .other (.call (.authenticate 2) true), .other (.work .zero), .cancel 0 true,
      .other (.work .zero)] (by decide)

end Fingerprint
