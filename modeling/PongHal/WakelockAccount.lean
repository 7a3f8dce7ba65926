/-
# The references of the shared wakelock

Is `mWakelockRefCount` large enough, so that the lock is not released too early?
`wakeups_covered`: yes in the runs in which no entry's last chunk fails with more
references recorded than it has wake-up events left.  The pending-writes thread
gives back the RECORDED number for a last chunk, and that is the number of the
whole batch, of which a part may have been written already.

The account is kept step by step (`covered_step`): references are taken with the
posted wake-up events, and given back with the lost and the acknowledged ones.
-/
import PongHal.EventStream
import PongHal.WakelockHeld

namespace Sensors

variable {kWakelockTimeoutNs : ℤ} {mSensors : SensorMap} {quantumCount now : ℕ}
  {ts : List ProxyTransition} {p : HalProxy}

/-! ## What the framework acknowledges -/

/-- The events of a read. -/
def Observation.readEvents : Observation → List Event
  | .read events => events
  | _ => []

/-- The number of wake-up events that are acknowledged. -/
def Observation.numAcknowledged : Observation → ℕ
  | .acknowledged n => n
  | _ => 0

/-- The number of acknowledgements that the wakelock thread processes. -/
def Observation.numProcessed : Observation → ℕ
  | .processed n => n
  | _ => 0

namespace ProxyTransition

/-- The events the framework reads in a step. -/
def read (t : ProxyTransition) : List Event := t.out.flatMap Observation.readEvents

def acknowledged (t : ProxyTransition) : ℕ := (t.out.map Observation.numAcknowledged).sum

def processed (t : ProxyTransition) : ℕ := (t.out.map Observation.numProcessed).sum

end ProxyTransition

/-- The events the framework has read in a run. -/
def readEvents (ts : List ProxyTransition) : List Event := ts.flatMap ProxyTransition.read

/-- The wake-up events the framework has acknowledged in a run. -/
def numAcknowledged (ts : List ProxyTransition) : ℕ :=
  (ts.map ProxyTransition.acknowledged).sum

/-- The acknowledgements the wakelock thread has processed in a run. -/
def numProcessed (ts : List ProxyTransition) : ℕ := (ts.map ProxyTransition.processed).sum

/-- The framework acknowledges only wake-up events it has read. -/
def Honest (mSensors : SensorMap) (ts : List ProxyTransition) : Prop :=
  ∀ before ∈ ts.inits, numAcknowledged before ≤ mSensors.wakeups (readEvents before)

instance (mSensors : SensorMap) (ts : List ProxyTransition) : Decidable (Honest mSensors ts) :=
  inferInstanceAs (Decidable (∀ before ∈ ts.inits, _))

/-- The acknowledgements on their way through the wake lock FMQ. -/
def HalProxy.numUnprocessed (p : HalProxy) : ℕ :=
  (match p.reader with
    | .acked n => n
    | _ => 0) + p.mWakeLockQueue.sum

/-- The events in the event FMQ. -/
def HalProxy.queued (p : HalProxy) : List Event := p.mEventQueue.contents

/-- What a call of `postEventsToMessageQueue` writes goes into the event FMQ. -/
theorem queue_streams_post {t : ProxyTransition} (es : List Event) (num : ℕ)
    (locked writeOk : Bool)
    (hpost : t.pre.postEventsToMessageQueue es num locked writeOk = (t.post, t.out)) :
    Machine.StreamStep t.pre.queued t.written t.read [] t.post.queued := by
  obtain ⟨p, l, out, p'⟩ := t
  have hkeep := Machine.StreamStep.keep p.queued (es.take (p.numToWrite es writeOk))
  rcases p.postEventsToMessageQueue_cases es num locked writeOk
    with ⟨-, hcase⟩ | ⟨-, hcase⟩ | ⟨-, hcase⟩ <;>
  · obtain ⟨rfl, rfl⟩ := Prod.mk.inj (hcase.symm.trans hpost)
    simpa [ProxyTransition.written, ProxyTransition.read, Observation.writtenEvents,
      Observation.readEvents, HalProxy.queued, HalProxy.writeDirectly, HalProxy.push]
      using hkeep

/-- What the framework reads are the events that were written, in their order. -/
theorem queue_streams {t : ProxyTransition} (h : (proxyMachine kWakelockTimeoutNs).Takes t) :
    Machine.StreamStep t.pre.queued t.written t.read [] t.post.queued := by
  cases proxyStep_of_takes h with
  | posted p i events wakelock writeOk es hes hne hlive =>
      exact queue_streams_post es _ wakelock.isSome writeOk rfl
  | wrote p events num rest hwriter hfront =>
      have hkeep := Machine.StreamStep.keep p.queued (events.take p.mEventQueue.quantumCount)
      simpa [ProxyTransition.written, ProxyTransition.read, Observation.writtenEvents,
        Observation.readEvents, HalProxy.queued] using hkeep
  | read p n hn =>
      have hgive := Machine.StreamStep.give p.queued [] n
      simpa [ProxyTransition.written, ProxyTransition.read, Observation.writtenEvents,
        Observation.readEvents, HalProxy.queued] using hgive
  | _ => exact .quiet _

/-- The events read and those still in the event FMQ are the written ones. -/
theorem readEvents_append
    (hrun : (proxyMachine kWakelockTimeoutNs).Run (.init mSensors quantumCount now) ts p) :
    readEvents ts ++ p.queued = writtenEvents ts := by
  have hstreams : ∀ (ts : List ProxyTransition) (t : ProxyTransition),
      (proxyMachine kWakelockTimeoutNs).Run (.init mSensors quantumCount now) ts t.pre →
      (proxyMachine kWakelockTimeoutNs).Takes t →
      Machine.StreamStep t.pre.queued t.written t.read [] t.post.queued :=
    fun _ _ _ hstep => queue_streams hstep
  exact hrun.append_eq_of_steps hstreams fun _ _ => rfl

/-- What a step acknowledges is on its way, until it is processed. -/
theorem numUnprocessed_step {t : ProxyTransition}
    (h : (proxyMachine kWakelockTimeoutNs).Takes t) :
    t.processed + t.post.numUnprocessed = t.pre.numUnprocessed + t.acknowledged := by
  cases proxyStep_of_takes h with
  | posted p i events wakelock writeOk es hes hne hlive =>
      rcases p.postEventsToMessageQueue_cases es (p.mSensors.wakeups es) wakelock.isSome writeOk
        with ⟨-, hpost⟩ | ⟨-, hpost⟩ | ⟨-, hpost⟩ <;>
      · rw [hpost]
        simp [ProxyTransition.processed, ProxyTransition.acknowledged, Observation.numProcessed,
          Observation.numAcknowledged, HalProxy.numUnprocessed, HalProxy.writeDirectly,
          HalProxy.push]
  | acknowledged p n =>
      simp only [ProxyTransition.processed, ProxyTransition.acknowledged,
        Observation.numProcessed, Observation.numAcknowledged, HalProxy.numUnprocessed,
        List.map_singleton, List.sum_singleton, List.sum_append]
      omega
  | woke p hreader =>
      simp [ProxyTransition.processed, ProxyTransition.acknowledged, HalProxy.numUnprocessed,
        hreader]
  | readAck p n rest hreader hqueue =>
      simp [ProxyTransition.processed, ProxyTransition.acknowledged, HalProxy.numUnprocessed,
        hreader, hqueue]
  | readNothing p hreader =>
      simp [ProxyTransition.processed, ProxyTransition.acknowledged, HalProxy.numUnprocessed,
        hreader]
  | processed p n hreader =>
      simp [ProxyTransition.processed, ProxyTransition.acknowledged, Observation.numProcessed,
        Observation.numAcknowledged, HalProxy.numUnprocessed, hreader]
  | _ => exact (Nat.zero_add _).trans (Nat.add_zero _).symm

/-- Acknowledgements are processed one by one and none is lost. -/
theorem numProcessed_add
    (hrun : (proxyMachine kWakelockTimeoutNs).Run (.init mSensors quantumCount now) ts p) :
    numProcessed ts + p.numUnprocessed = numAcknowledged ts := by
  refine hrun.history
    (I := fun ts p => numProcessed ts + p.numUnprocessed = numAcknowledged ts) rfl ?_
  intro ts (t : ProxyTransition) hrun hstep ih
  have hone := numUnprocessed_step hstep
  simp only [numProcessed, numAcknowledged, List.map_append, List.map_singleton, List.sum_append,
    List.sum_singleton] at ih ⊢
  omega

/-- An honest framework has had no more acknowledgements processed than wake-up
events were written. -/
theorem numProcessed_le
    (hrun : (proxyMachine kWakelockTimeoutNs).Run (.init mSensors quantumCount now) ts p)
    (hhonest : Honest mSensors ts) : numProcessed ts ≤ mSensors.wakeups (writtenEvents ts) := by
  have hacked := hhonest ts (by simp)
  have hprocessed := numProcessed_add hrun
  rw [← readEvents_append hrun, SensorMap.wakeups_append]
  omega

/-- A framework that was honest in a run was so in every part of it. -/
theorem Honest.of_append {ts₂ : List ProxyTransition} (h : Honest mSensors (ts ++ ts₂)) :
    Honest mSensors ts := by
  intro before hbefore
  apply h
  rw [List.mem_inits] at hbefore ⊢
  exact hbefore.trans (List.prefix_append ts ts₂)

/-! ## No reference is missing -/

/-- The references that the pending-writes thread is about to give back. -/
def HalProxy.due (p : HalProxy) : ℕ :=
  match p.writer, p.mPendingWriteEventsQueue with
  | .failed, (events, numWakeupEvents) :: _ => p.numGivenBack events numWakeupEvents
  | _, _ => 0

namespace ProxyTransition

/-- A sub-HAL posts wake-up events only with a locked wakelock. -/
def LocksWakeups (t : ProxyTransition) : Prop :=
  match t.label with
  | .postEvents subHalIndex events none _ =>
      (processEvents t.pre.mSensors subHalIndex events).2 = 0
  | _ => True

instance (t : ProxyTransition) : Decidable t.LocksWakeups :=
  match h : t.label with
  | .postEvents subHalIndex events none _ =>
      decidable_of_iff ((processEvents t.pre.mSensors subHalIndex events).2 = 0)
        (by simp [LocksWakeups, h])
  | .postEvents _ _ (some _) _ | .tick _ | .createScopedWakelock | .destroyScopedWakelock _
  | .select | .writeBlocking _ | .giveBack | .commit | .read _ | .acknowledge _
  | .checkTimeout | .readBlocking _ | .process =>
      isTrue (by simp [LocksWakeups, h])

/-- The step is one of a well-behaved sub-HAL, and no timeout resets the count. -/
def Counted (t : ProxyTransition) : Prop := t.LocksWakeups ∧ .timedOut ∉ t.out

instance (t : ProxyTransition) : Decidable t.Counted := inferInstanceAs (Decidable (_ ∧ _))

/-- If the blocking write of an entry's last chunk fails, the count recorded with the
entry is not above the wake-up events left in it. -/
def KeepsCount (t : ProxyTransition) : Prop :=
  t.label = .writeBlocking false → ∀ front ∈ t.pre.mPendingWriteEventsQueue.head?,
    front.1.length ≤ t.pre.mEventQueue.quantumCount →
      front.2 ≤ t.pre.mSensors.wakeups front.1

instance (t : ProxyTransition) : Decidable t.KeepsCount :=
  inferInstanceAs (Decidable (_ → ∀ front ∈ t.pre.mPendingWriteEventsQueue.head?, _))

end ProxyTransition

/-- What is given back for a chunk is not above its wake-up events, if the count of
the entry is not above those of a last chunk. -/
theorem numGivenBack_le {events : List Event} {num : ℕ}
    (h : events.length ≤ p.mEventQueue.quantumCount → num ≤ p.mSensors.wakeups events) :
    p.numGivenBack events num ≤
      p.mSensors.wakeups (events.take p.mEventQueue.quantumCount) := by
  unfold HalProxy.numGivenBack
  split
  · exact Nat.zero_le _
  · split
    · exact le_rfl
    · rename_i hshort
      rw [List.take_of_length_le (by omega)]
      exact h (by omega)

theorem due_of_writer (h : p.writer ≠ .failed) : p.due = 0 := by
  unfold HalProxy.due
  split
  · rename_i hfailed hfront
    exact absurd hfailed h
  · rfl

theorem due_of_failed {events : List Event} {num : ℕ} {rest : List (List Event × ℕ)}
    (hwriter : p.writer = .failed) (hfront : p.mPendingWriteEventsQueue = (events, num) :: rest) :
    p.due = p.numGivenBack events num := by
  simp [HalProxy.due, hwriter, hfront]

/-- A post does not change what is due. -/
theorem due_post (hbusy : p.Busy) (es : List Event) (num : ℕ) (locked writeOk : Bool) :
    (p.postEventsToMessageQueue es num locked writeOk).1.due = p.due := by
  rcases p.postEventsToMessageQueue_cases es num locked writeOk
    with ⟨-, hpost⟩ | ⟨-, hpost⟩ | ⟨-, hpost⟩
  · rw [hpost]
    rfl
  · rw [hpost]
    by_cases hwriter : p.writer = .failed
    · -- the thread is busy with the front entry, and the post adds at the back
      obtain ⟨front, rest, hfront⟩ :=
        List.exists_cons_of_ne_nil (hbusy (by rw [hwriter]; simp))
      have hpushed : ((p.writeDirectly es num locked writeOk).push
          (es.drop (p.numToWrite es writeOk)) num).mPendingWriteEventsQueue =
          front :: (rest ++ [(es.drop (p.numToWrite es writeOk), num)]) := by
        simp [HalProxy.push, HalProxy.writeDirectly, hfront]
      rw [due_of_failed hwriter hfront]
      exact due_of_failed hwriter hpushed
    · rw [due_of_writer hwriter]
      exact due_of_writer hwriter
  · rw [hpost]
    rfl

/-- A post with a wakelock where it is needed takes a reference for each of its wake-up
events. -/
theorem covered_of_post (es : List Event) (locked writeOk : Bool)
    (hthreads : p.wakelock.mThreadsRun = true)
    (hlocked : locked = false → p.mSensors.wakeups es = 0) :
    p.wakelock.mWakelockRefCount + p.mSensors.wakeups es ≤
      (p.postEventsToMessageQueue es (p.mSensors.wakeups es) locked
        writeOk).1.wakelock.mWakelockRefCount := by
  rw [p.wakelock_postEventsToMessageQueue]
  cases locked with
  | false =>
      -- an unlocked wakelock takes no reference, and there is no event that needs one
      rw [hlocked rfl]
      exact le_rfl
  | true => exact (SharedWakelock.mWakelockRefCount_increment hthreads _ _).ge

/-- **The step of the account, from below.**  A step takes at least as many references
as it posts wake-up events and creates scoped wakelocks, and gives back at most as
many as it loses wake-up events, destroys scoped wakelocks and processes
acknowledgements. -/
theorem covered_step {t : ProxyTransition} (h : (proxyMachine kWakelockTimeoutNs).Takes t)
    (hbusy : t.pre.Busy) (hthreads : t.pre.wakelock.mThreadsRun = true)
    (hlocks : t.LocksWakeups) (hreset : .timedOut ∉ t.out) (hkeeps : t.KeepsCount) :
    t.post.scopedWakelocks.length + t.post.due + t.pre.mSensors.wakeups t.posted +
        t.pre.wakelock.mWakelockRefCount ≤
      t.pre.scopedWakelocks.length + t.pre.due + t.pre.mSensors.wakeups t.lost +
        t.post.wakelock.mWakelockRefCount + t.processed := by
  cases proxyStep_of_takes h with
  | created p hrun =>
      have htaken := SharedWakelock.mWakelockRefCount_increment hrun 1 p.now
      show (p.scopedWakelocks ++ [_]).length + p.due + 0 + p.wakelock.mWakelockRefCount ≤
        p.scopedWakelocks.length + p.due + 0 +
          (p.wakelock.incrementRefCountAndMaybeAcquireWakelock 1 p.now).2.mWakelockRefCount + 0
      rw [List.length_append, List.length_singleton]
      omega
  | destroyed p i createdAt hi =>
      have hback := p.wakelock.le_mWakelockRefCount_decrement 1 createdAt
      have hlt : i < p.scopedWakelocks.length := (List.getElem?_eq_some_iff.1 hi).1
      show (p.scopedWakelocks.eraseIdx i).length + p.due + 0 + p.wakelock.mWakelockRefCount ≤
        p.scopedWakelocks.length + p.due + 0 +
          (p.wakelock.decrementRefCountAndMaybeReleaseWakelock 1 createdAt).mWakelockRefCount + 0
      rw [List.length_eraseIdx_of_lt hlt]
      omega
  | posted p i events wakelock writeOk es hes hne hlive =>
      have hdue := due_post hbusy es (p.mSensors.wakeups es) wakelock.isSome writeOk
      have hframe := p.frame_postEventsToMessageQueue es (p.mSensors.wakeups es)
        wakelock.isSome writeOk
      have hposted := postedEvents_post p es (p.mSensors.wakeups es) wakelock.isSome writeOk
      have hlocked : wakelock.isSome = false → p.mSensors.wakeups es = 0 := by
        intro hnone
        rw [Option.isSome_eq_false_iff, Option.isNone_iff_eq_none] at hnone
        subst hnone
        rw [hes, ← processEvents_snd]
        exact hlocks
      have htaken := covered_of_post (p := p) es wakelock.isSome writeOk hthreads hlocked
      simp only [ProxyTransition.posted, hposted, hframe.2.1, hdue]
      omega
  | selected p hwriter hpending =>
      rw [due_of_writer (p := p) (by simp [hwriter]), due_of_writer (by simp)]
      exact le_rfl
  | wrote p events num rest hwriter hfront =>
      rw [due_of_writer (p := p) (by simp [hwriter]), due_of_writer (by simp)]
      exact le_rfl
  | failed p events num rest hwriter hfront =>
      have hdue : p.numGivenBack events num ≤
          p.mSensors.wakeups (events.take p.mEventQueue.quantumCount) := by
        apply numGivenBack_le
        exact hkeeps rfl (events, num) (by simp [hfront])
      have hpost : HalProxy.due { p with writer := .failed } = p.numGivenBack events num :=
        due_of_failed rfl hfront
      show p.scopedWakelocks.length + HalProxy.due { p with writer := .failed } + 0 +
          p.wakelock.mWakelockRefCount ≤
        p.scopedWakelocks.length + p.due +
          p.mSensors.wakeups (events.take p.mEventQueue.quantumCount ++ []) +
          p.wakelock.mWakelockRefCount + 0
      rw [hpost, List.append_nil]
      omega
  | gaveBack p events num rest table hwriter hfront htable =>
      have hback := p.wakelock.le_mWakelockRefCount_decrement (p.numGivenBack events num) (-1)
      rw [due_of_failed (p := p) hwriter hfront, due_of_writer (by simp)]
      show p.scopedWakelocks.length + 0 + 0 + p.wakelock.mWakelockRefCount ≤
        p.scopedWakelocks.length + p.numGivenBack events num + 0 +
          (p.wakelock.decrementRefCountAndMaybeReleaseWakelock
            (p.numGivenBack events num) (-1)).mWakelockRefCount + 0
      omega
  | committed p events num rest hwriter hfront =>
      have hnot : p.writer ≠ .failed := by
        rcases hwriter with h | h <;> simp [h]
      rw [due_of_writer (p := p) hnot, due_of_writer (by simp)]
      exact le_rfl
  | timedOut p hpos => simp at hreset
  | processed p n hreader =>
      have hback := p.wakelock.le_mWakelockRefCount_decrement n (-1)
      show p.scopedWakelocks.length + p.due + 0 + p.wakelock.mWakelockRefCount ≤
        p.scopedWakelocks.length + p.due + 0 +
          (p.wakelock.decrementRefCountAndMaybeReleaseWakelock n (-1)).mWakelockRefCount + n
      omega
  | _ => exact le_rfl

/-- No wake-up event comes from nowhere or gets lost unseen. -/
theorem wakeups_streams {t : ProxyTransition} (h : t.Streams) (mSensors : SensorMap) :
    mSensors.wakeups t.written + mSensors.wakeups t.lost + mSensors.wakeups t.post.remaining =
      mSensors.wakeups t.pre.remaining + mSensors.wakeups t.posted := by
  have hcount := h.complete.countP_eq mSensors.isWakeup
  simp only [List.countP_append] at hcount
  exact hcount

theorem writtenEvents_append_singleton (t : ProxyTransition) :
    writtenEvents (ts ++ [t]) = writtenEvents ts ++ t.written := by
  simp [writtenEvents]

theorem numProcessed_append_singleton (t : ProxyTransition) :
    numProcessed (ts ++ [t]) = numProcessed ts + t.processed := by
  simp [numProcessed]

/-- The references cover the scoped wakelocks, the written wake-up events that are
not acknowledged, those still to be written, and what is about to be given back. -/
theorem covered_of_run
    (hrun : (proxyMachine kWakelockTimeoutNs).Run (.init mSensors quantumCount now) ts p)
    (hcounted : ∀ t ∈ ts, t.Counted) (hkeeps : ∀ t ∈ ts, t.KeepsCount) :
    p.scopedWakelocks.length + mSensors.wakeups (writtenEvents ts) +
        mSensors.wakeups p.remaining + p.due ≤
      p.wakelock.mWakelockRefCount + numProcessed ts := by
  refine hrun.history_of_guard (G := fun t : ProxyTransition => t.Counted ∧ t.KeepsCount)
    (I := fun ts p => p.scopedWakelocks.length + mSensors.wakeups (writtenEvents ts) +
        mSensors.wakeups p.remaining + p.due ≤ p.wakelock.mWakelockRefCount + numProcessed ts)
    (Nat.zero_le _) ?_ (fun t ht => ⟨hcounted t ht, hkeeps t ht⟩)
  rintro ts (t : ProxyTransition) hrun hstep ⟨⟨hlocks, hreset⟩, hkeeps⟩ ih
  have hbusy := busy_of_run hrun
  have hevents := wakeups_streams (streams_of_takes hstep hbusy) mSensors
  have hrefs := covered_step hstep hbusy (mThreadsRun_of_run hrun) hlocks hreset hkeeps
  rw [wakeups_of_run hrun] at hrefs
  rw [writtenEvents_append_singleton, numProcessed_append_singleton, SensorMap.wakeups_append]
  -- the references move with the events: what `hevents` says of these, `hrefs` says of those
  omega

/-- **No premature release.**  Take a run in which the sub-HALs post wake-up events with
a locked wakelock, the framework acknowledges only what it has read, and no timeout
resets the count.  If no blocking write of an entry's last chunk fails with more
references recorded for the entry than it has wake-up events left, then
`mWakelockRefCount` is at least the number of written wake-up events whose
acknowledgement is not processed plus the number of those still to be written. -/
theorem wakeups_covered
    (hrun : (proxyMachine kWakelockTimeoutNs).Run (.init mSensors quantumCount now) ts p)
    (hcounted : ∀ t ∈ ts, t.Counted) (hhonest : Honest mSensors ts)
    (hkeeps : ∀ t ∈ ts, t.KeepsCount) :
    (mSensors.wakeups (writtenEvents ts) - numProcessed ts) + mSensors.wakeups p.remaining ≤
      p.wakelock.mWakelockRefCount := by
  have hcovered := covered_of_run hrun hcounted hkeeps
  have hprocessed := numProcessed_le hrun hhonest
  omega

/-- Two wake-up events on a queue with one place: the first is written directly, the
second is left with a count of two.  When its write fails two references are given
back, and none is left for the first event, which nobody has read yet. -/
theorem released_before_acknowledged :
    ∃ (ts : List ProxyTransition) (p : HalProxy),
      (proxyMachine 1000000000).Run (.init pickUpSensors 1 0) ts p ∧
      (∀ t ∈ ts, ProxyTransition.Counted t) ∧ Honest pickUpSensors ts ∧
      pickUpSensors.wakeups (writtenEvents ts) = 1 ∧ numProcessed ts = 0 ∧
      p.wakelock.mWakelockRefCount = 0 ∧ p.wakelock.held = false :=
  Machine.exists_run_of_exec
    [.createScopedWakelock, .postEvents 0 [pickUpEvent true, pickUpEvent true] (some 0) true,
      .destroyScopedWakelock 0, .select, .writeBlocking false, .giveBack, .commit] (by decide)

/-- Three wake-up events on a queue with one place: the second is dropped with its one
reference, and two are left for the first and the third. -/
theorem wakeups_covered_after_failure :
    ∃ (ts : List ProxyTransition) (p : HalProxy),
      (proxyMachine 1000000000).Run (.init pickUpSensors 1 0) ts p ∧
      (∃ t ∈ ts, .dropped [pickUpEvent true] ∈ t.out) ∧
      pickUpSensors.wakeups (writtenEvents ts) = 1 ∧
      pickUpSensors.wakeups p.remaining = 1 ∧
      (pickUpSensors.wakeups (writtenEvents ts) - numProcessed ts) +
        pickUpSensors.wakeups p.remaining ≤ p.wakelock.mWakelockRefCount := by
  obtain ⟨ts, p, hrun, hcounted, hhonest, hkeeps, hdropped, hwritten, hremaining⟩ :
      ∃ (ts : List ProxyTransition) (p : HalProxy),
        (proxyMachine 1000000000).Run (.init pickUpSensors 1 0) ts p ∧
        (∀ t ∈ ts, ProxyTransition.Counted t) ∧ Honest pickUpSensors ts ∧
        (∀ t ∈ ts, ProxyTransition.KeepsCount t) ∧
        (∃ t ∈ ts, .dropped [pickUpEvent true] ∈ t.out) ∧
        pickUpSensors.wakeups (writtenEvents ts) = 1 ∧
        pickUpSensors.wakeups p.remaining = 1 :=
    Machine.exists_run_of_exec
      [.createScopedWakelock,
        .postEvents 0 [pickUpEvent true, pickUpEvent true, pickUpEvent true] (some 0) true,
        .destroyScopedWakelock 0, .select, .writeBlocking false, .giveBack, .commit] (by decide)
  exact ⟨ts, p, hrun, hdropped, hwritten, hremaining,
    wakeups_covered hrun hcounted hhonest hkeeps⟩

end Sensors
