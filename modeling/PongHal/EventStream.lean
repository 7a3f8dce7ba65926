/-
# The stream of sensor events

What comes in through the posts leaves through the event FMQ by two ways, the
direct write of `postEventsToMessageQueue` and the chunks of the pending-writes
thread.  A direct write happens only when nothing is pending, so the two never
overtake each other, and this holds also while the pending-writes thread is
between its write and its commit: the entry it works on is still in the queue.

`remaining` is what is still to be written.  A chunk leaves it with the end of its
blocking write, not with its commit.
-/
import PongHal.WakelockHeld

namespace Sensors

/-- The events of a post. -/
def Observation.postedEvents : Observation → List Event
  | .posted events => events
  | _ => []

/-- The events of a write to the event FMQ. -/
def Observation.writtenEvents : Observation → List Event
  | .wrote events => events
  | _ => []

/-- The events that are lost. -/
def Observation.lostEvents : Observation → List Event
  | .refused events => events
  | .dropped events => events
  | _ => []

/-- A refusal or a failed write. -/
def Observation.isLoss : Observation → Bool
  | .refused _ => true
  | .dropped _ => true
  | _ => false

namespace ProxyTransition

/-- The events a step posts, in the order of the lock. -/
def posted (t : ProxyTransition) : List Event := t.out.flatMap Observation.postedEvents

/-- The batch that a sub-HAL posts in a step, as the callback hands it on. -/
def batch (t : ProxyTransition) : List Event :=
  match t.label with
  | .postEvents subHalIndex events _ _ => (processEvents t.pre.mSensors subHalIndex events).1
  | _ => []

/-- The events a step writes to the event FMQ. -/
def written (t : ProxyTransition) : List Event := t.out.flatMap Observation.writtenEvents

/-- The events a step refuses or drops. -/
def lost (t : ProxyTransition) : List Event := t.out.flatMap Observation.lostEvents

/-- No batch is refused in the step and no blocking write fails. -/
def Lossless (t : ProxyTransition) : Prop := ∀ o ∈ t.out, o.isLoss = false

instance (t : ProxyTransition) : Decidable t.Lossless :=
  inferInstanceAs (Decidable (∀ o ∈ t.out, _))

end ProxyTransition

/-- The events posted in a run. -/
def postedEvents (ts : List ProxyTransition) : List Event := ts.flatMap ProxyTransition.posted

/-- The events written to the event FMQ in a run. -/
def writtenEvents (ts : List ProxyTransition) : List Event := ts.flatMap ProxyTransition.written

/-- The pending events that are still to be written: all of them, without the front
chunk once its blocking write has ended. -/
def HalProxy.remaining (p : HalProxy) : List Event :=
  match p.mPendingWriteEventsQueue with
  | [] => []
  | (events, _) :: rest =>
      match p.writer with
      | .idle | .blocked => events ++ rest.flatMap Prod.fst
      | .wrote | .failed | .gaveBack =>
          events.drop p.mEventQueue.quantumCount ++ rest.flatMap Prod.fst

variable {kWakelockTimeoutNs : ℤ} {mSensors : SensorMap} {quantumCount now : ℕ}
  {ts : List ProxyTransition} {p : HalProxy}

/-- The pending-writes thread is busy only with an entry. -/
def HalProxy.Busy (p : HalProxy) : Prop :=
  p.writer ≠ .idle → p.mPendingWriteEventsQueue ≠ []

theorem remaining_of_nil (h : p.mPendingWriteEventsQueue = []) : p.remaining = [] := by
  simp [HalProxy.remaining, h]

/-- Before its blocking write has ended all of the front entry is to be written. -/
theorem remaining_of_whole {events : List Event} {num : ℕ} {rest : List (List Event × ℕ)}
    (hwriter : p.writer = .idle ∨ p.writer = .blocked)
    (hfront : p.mPendingWriteEventsQueue = (events, num) :: rest) :
    p.remaining = events ++ rest.flatMap Prod.fst := by
  rcases hwriter with h | h <;> simp [HalProxy.remaining, hfront, h]

/-- After it has ended the front chunk is not. -/
theorem remaining_of_ended {events : List Event} {num : ℕ} {rest : List (List Event × ℕ)}
    (hwriter : p.writer ≠ .idle ∧ p.writer ≠ .blocked)
    (hfront : p.mPendingWriteEventsQueue = (events, num) :: rest) :
    p.remaining = events.drop p.mEventQueue.quantumCount ++ rest.flatMap Prod.fst := by
  cases h : p.writer <;> simp_all [HalProxy.remaining]

/-- Without a chunk between write and commit everything that is pending is to be
written. -/
theorem remaining_of_settled (hwriter : p.writer = .idle ∨ p.writer = .blocked) :
    p.remaining = p.mPendingWriteEventsQueue.flatMap Prod.fst := by
  cases hpending : p.mPendingWriteEventsQueue with
  | nil => exact remaining_of_nil hpending
  | cons front rest => exact remaining_of_whole hwriter hpending

/-- What is pushed is written last. -/
theorem remaining_push (hbusy : p.Busy) (eventsLeft : List Event) (num : ℕ) :
    (p.push eventsLeft num).remaining = p.remaining ++ eventsLeft := by
  cases hpending : p.mPendingWriteEventsQueue with
  | nil =>
      -- with an empty queue the thread is idle, so the new front entry counts as a whole
      have hidle : p.writer = .idle := by
        by_contra hne
        exact hbusy hne hpending
      rw [remaining_of_settled (Or.inl hidle),
        remaining_of_settled (p := p.push eventsLeft num) (Or.inl hidle)]
      simp [HalProxy.push, hpending]
  | cons front rest =>
      cases hwriter : p.writer <;>
        simp [HalProxy.remaining, HalProxy.push, hpending, hwriter]

/-- Something is written directly only when nothing is pending. -/
theorem remaining_of_numToWrite {es : List Event} {writeOk : Bool}
    (h : es.take (p.numToWrite es writeOk) ≠ []) : p.remaining = [] := by
  apply remaining_of_nil
  by_contra hpending
  apply h
  simp [HalProxy.numToWrite, hpending]

/-! ## One step -/

/-- A post posts its batch. -/
theorem postedEvents_post (p : HalProxy) (es : List Event) (num : ℕ) (locked writeOk : Bool) :
    (p.postEventsToMessageQueue es num locked writeOk).2.flatMap Observation.postedEvents = es := by
  rcases p.postEventsToMessageQueue_cases es num locked writeOk with ⟨-, h⟩ | ⟨-, h⟩ | ⟨-, h⟩ <;>
    simp [h, Observation.postedEvents]

/-- A post takes no entry out of the queue. -/
theorem busy_post (hbusy : p.Busy) (es : List Event) (num : ℕ) (locked writeOk : Bool) :
    (p.postEventsToMessageQueue es num locked writeOk).1.Busy := by
  rcases p.postEventsToMessageQueue_cases es num locked writeOk
    with ⟨-, hpost⟩ | ⟨-, hpost⟩ | ⟨-, hpost⟩
  · rw [hpost]
    exact hbusy
  · rw [hpost]
    intro _
    simp [HalProxy.push]
  · rw [hpost]
    exact hbusy

/-- Only an entry in the queue makes the thread busy, after every step. -/
theorem busy_step {t : ProxyTransition} (h : (proxyMachine kWakelockTimeoutNs).Takes t)
    (hbusy : t.pre.Busy) : t.post.Busy := by
  cases proxyStep_of_takes h with
  | posted p i events wakelock writeOk es hes hne hlive =>
      exact busy_post hbusy es _ wakelock.isSome writeOk
  | selected p hwriter hpending => exact fun _ => hpending
  | wrote p events num rest hwriter hfront =>
      intro _
      simp [hfront]
  | failed p events num rest hwriter hfront =>
      intro _
      simp [hfront]
  | gaveBack p events num rest table hwriter hfront htable =>
      intro _
      simp [hfront]
  | committed p events num rest hwriter hfront => exact fun hne => absurd rfl hne
  | _ => exact hbusy

theorem busy_of_run
    (hrun : (proxyMachine kWakelockTimeoutNs).Run (.init mSensors quantumCount now) ts p) :
    p.Busy := by
  refine hrun.invariant (I := HalProxy.Busy) ?_ ?_
  · intro hne
    exact absurd rfl hne
  · exact fun t hstep hbusy => busy_step hstep hbusy

/-- What a step does to the stream of events. -/
def ProxyTransition.Streams (t : ProxyTransition) : Prop :=
  Machine.StreamStep t.pre.remaining t.posted t.written t.lost t.post.remaining

theorem streams_of {t : ProxyTransition} {kept posted written lost kept' : List Event}
    (h : Machine.StreamStep kept posted written lost kept') (hpre : t.pre.remaining = kept)
    (hposted : t.posted = posted) (hwritten : t.written = written) (hlost : t.lost = lost)
    (hpost : t.post.remaining = kept') : t.Streams := by
  rw [ProxyTransition.Streams, hpre, hposted, hwritten, hlost, hpost]
  exact h

/-- A step that neither posts nor writes nor loses anything. -/
theorem streams_of_quiet {t : ProxyTransition} (hposted : t.posted = [])
    (hwritten : t.written = []) (hlost : t.lost = [])
    (hremaining : t.post.remaining = t.pre.remaining) : t.Streams :=
  streams_of (.quiet _) rfl hposted hwritten hlost hremaining

/-- A call of `postEventsToMessageQueue` posts its batch; some of it is written, and the
rest is kept or lost. -/
theorem streams_post {t : ProxyTransition} (hbusy : t.pre.Busy) (es : List Event) (num : ℕ)
    (locked writeOk : Bool)
    (hpost : t.pre.postEventsToMessageQueue es num locked writeOk = (t.post, t.out)) :
    t.Streams := by
  obtain ⟨p, l, out, p'⟩ := t
  have hdirect : es.take (p.numToWrite es writeOk) ≠ [] → p.remaining = [] :=
    remaining_of_numToWrite
  obtain ⟨hkept, hlost⟩ := Machine.StreamStep.take p.remaining es _ hdirect
  rcases p.postEventsToMessageQueue_cases es num locked writeOk
    with ⟨hnil, hcase⟩ | ⟨-, hcase⟩ | ⟨-, hcase⟩
  · -- all of the batch is written: what would be lost of it is empty
    obtain ⟨rfl, rfl⟩ := Prod.mk.inj (hcase.symm.trans hpost)
    rw [hnil] at hlost
    exact streams_of hlost rfl (List.append_nil _) (List.append_nil _) rfl rfl
  · -- what is left goes behind everything that is still to be written
    obtain ⟨rfl, rfl⟩ := Prod.mk.inj (hcase.symm.trans hpost)
    exact streams_of hkept rfl (List.append_nil _) (List.append_nil _) rfl
      (remaining_push hbusy _ _)
  · obtain ⟨rfl, rfl⟩ := Prod.mk.inj (hcase.symm.trans hpost)
    exact streams_of hlost rfl (List.append_nil _) (List.append_nil _) (List.append_nil _) rfl

/-- **The step of the stream.**  What a step writes and what is then still to be
written was to be written before or has been posted, in this order; and together
with what the step loses that is everything. -/
theorem streams_of_takes {t : ProxyTransition} (h : (proxyMachine kWakelockTimeoutNs).Takes t)
    (hbusy : t.pre.Busy) : t.Streams := by
  cases proxyStep_of_takes h with
  | posted p i events wakelock writeOk es hes hne hlive =>
      exact streams_post hbusy es _ wakelock.isSome writeOk rfl
  | selected p hwriter hpending =>
      refine streams_of_quiet rfl rfl rfl ?_
      obtain ⟨front, rest, hfront⟩ := List.exists_cons_of_ne_nil hpending
      rw [remaining_of_whole (p := p) (Or.inl hwriter) hfront]
      exact remaining_of_whole (Or.inr rfl) hfront
  | wrote p events num rest hwriter hfront =>
      exact streams_of (.give events _ p.mEventQueue.quantumCount)
        (remaining_of_whole (Or.inr hwriter) hfront) rfl (List.append_nil _) rfl
        (remaining_of_ended (by simp) hfront)
  | failed p events num rest hwriter hfront =>
      exact streams_of (.lose events _ p.mEventQueue.quantumCount)
        (remaining_of_whole (Or.inr hwriter) hfront) rfl rfl (List.append_nil _)
        (remaining_of_ended (by simp) hfront)
  | gaveBack p events num rest table hwriter hfront htable =>
      refine streams_of_quiet rfl rfl rfl ?_
      rw [remaining_of_ended (p := p) (by simp [hwriter]) hfront]
      exact remaining_of_ended (by simp) hfront
  | committed p events num rest hwriter hfront =>
      refine streams_of_quiet rfl rfl rfl ?_
      have hended : p.writer ≠ .idle ∧ p.writer ≠ .blocked := by
        rcases hwriter with h | h <;> simp [h]
      -- the chunk that leaves the entry here was not counted since its write has ended
      rw [remaining_of_ended (p := p) hended hfront, remaining_of_settled (Or.inl rfl)]
      simp only [HalProxy.commit]
      split
      · rfl
      · rename_i hshort
        rw [List.drop_eq_nil_of_le (by omega), List.nil_append]
  | _ => exact streams_of_quiet rfl rfl rfl rfl

/-- A step without refusals and failed writes loses nothing. -/
theorem lost_of_lossless {t : ProxyTransition} (h : t.Lossless) : t.lost = [] := by
  rw [ProxyTransition.lost, List.flatMap_eq_nil_iff]
  intro o ho
  have hnot := h o ho
  cases o with
  | refused es => simp [Observation.isLoss] at hnot
  | dropped es => simp [Observation.isLoss] at hnot
  | _ => rfl

/-- A step posts the batch of its call, as long as the threads run. -/
theorem posted_eq_batch {t : ProxyTransition} (h : (proxyMachine kWakelockTimeoutNs).Takes t)
    (hthreads : t.pre.wakelock.mThreadsRun = true) : t.posted = t.batch := by
  cases proxyStep_of_takes h with
  | ignored p i events wakelock writeOk hignored =>
      rcases hignored with rfl | hstopped
      · rfl
      · exact Bool.noConfusion (hstopped.symm.trans hthreads)
  | posted p i events wakelock writeOk es hes hne hlive =>
      exact (postedEvents_post p es _ wakelock.isSome writeOk).trans hes
  | _ => rfl

/-! ## The run -/

/-- The posts of a run are the batches of its calls, in the order of the calls. -/
theorem postedEvents_eq_batches
    (hrun : (proxyMachine kWakelockTimeoutNs).Run (.init mSensors quantumCount now) ts p) :
    postedEvents ts = ts.flatMap ProxyTransition.batch := by
  rw [postedEvents, List.flatMap_def, List.flatMap_def]
  congr 1
  refine List.map_congr_left fun t ht => ?_
  obtain ⟨ts₁, ts₂, rfl, hbefore, hstep⟩ := hrun.split_of_mem ht
  exact posted_eq_batch hstep (mThreadsRun_of_run hbefore)

/-- **The event stream keeps its order.**  In every run the posted events are the batches
that the sub-HALs' calls of `postEvents` hand on, in the order of the calls, and the events
written to the event FMQ are a subsequence of them; and if no blocking write has failed and
no batch was refused, the written events followed by those still to be written are all the
posted ones. -/
theorem written_events_in_order
    (hrun : (proxyMachine kWakelockTimeoutNs).Run (.init mSensors quantumCount now) ts p) :
    postedEvents ts = ts.flatMap ProxyTransition.batch ∧
    (writtenEvents ts).Sublist (postedEvents ts) ∧
    ((∀ t ∈ ts, t.Lossless) → writtenEvents ts ++ p.remaining = postedEvents ts) := by
  have hstreams : ∀ (ts : List ProxyTransition) (t : ProxyTransition),
      (proxyMachine kWakelockTimeoutNs).Run (.init mSensors quantumCount now) ts t.pre →
      (proxyMachine kWakelockTimeoutNs).Takes t → t.Streams :=
    fun ts t hrun hstep => streams_of_takes hstep (busy_of_run hrun)
  refine ⟨postedEvents_eq_batches hrun, ?_, ?_⟩
  · have hsub : (writtenEvents ts ++ p.remaining).Sublist (postedEvents ts) :=
      hrun.sublist_of_steps hstreams
    exact (List.sublist_append_left _ _).trans hsub
  · intro hlossless
    exact hrun.append_eq_of_steps hstreams fun t ht => lost_of_lossless (hlossless t ht)

/-- An event of an accelerometer at time `n`. -/
def sampleEvent (n : Int64) : Event where
  timestamp := n
  sensorHandle := 1
  sensorType := 1
  u := 0

/-- Three events on a queue with two places, and one more while the third is being
written: the pending-writes thread has written it but not committed, and only the
fourth is still to be written. -/
theorem written_events_in_order_before_commit :
    ∃ (ts : List ProxyTransition) (p : HalProxy),
      (proxyMachine 0).Run (.init ∅ 2 0) ts p ∧ p.writer = .wrote ∧
      (writtenEvents ts).length = 3 ∧ (writtenEvents ts).Sublist (postedEvents ts) ∧
      writtenEvents ts ++ p.remaining = postedEvents ts := by
  obtain ⟨ts, p, hrun, hwriter, hlen, hlossless⟩ :
      ∃ (ts : List ProxyTransition) (p : HalProxy),
        (proxyMachine 0).Run (.init ∅ 2 0) ts p ∧ p.writer = .wrote ∧
        (writtenEvents ts).length = 3 ∧ ∀ t ∈ ts, t.Lossless :=
    Machine.exists_run_of_exec
      [.postEvents 0 [sampleEvent 1, sampleEvent 2, sampleEvent 3] none true, .select, .read 2,
        .postEvents 0 [sampleEvent 4] none true, .writeBlocking true] (by decide)
  have horder := written_events_in_order hrun
  exact ⟨ts, p, hrun, hwriter, hlen, horder.2.1, horder.2.2 hlossless⟩

end Sensors
