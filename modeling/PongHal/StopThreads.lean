/-
# How the two threads of the proxy wait and stop (`HalProxy.cpp`)

`handlePendingWrites` and `handleWakelocks` wait on their condition variables for pending
events and for references, or for `mThreadsRun` to be off.  Pending events and references
come under the mutex of the condition variable; `stopThreads` turns the flag off and calls
`notify_one` without it, and then waits for the threads to end.

Both are threads of the library's kind, on the data of the HAL with its callbacks, where
the steps of the threads are those of `callbackMachine`.

`thread_serves` : neither thread waits while it has something to do, and it comes to do it.
`stopThreads_ends_or_stuck` : `stopThreads` gets past its `join` unless the notification comes
when the thread has looked at the predicate and not blocked yet.
-/
import PongHal.ClientStream
import PongHal.WaitLoop

namespace Sensors

/-- The threads of the proxy. -/
inductive HalThread
  /-- `handlePendingWrites`, with `mEventQueueWriteMutex`. -/
  | pendingWrites
  /-- `handleWakelocks`, with `mWakelockMutex`. -/
  | wakelocks
  deriving DecidableEq, Repr

/-- `postEventsToMessageQueue` leaves events to the pending-writes thread. -/
def HalProxy.pushes (p : HalProxy) (events : List Event) (writeOk : Bool) : Bool :=
  let numToWrite := p.numToWrite events writeOk
  decide (numToWrite < events.length ∧
    p.mSizePendingWriteEventsQueue + (events.length - numToWrite) ≤ kMaxSizePendingWriteEventsQueue)

/-- `incrementRefCountAndMaybeAcquireWakelock` takes the first reference. -/
def SharedWakelock.acquires (w : SharedWakelock) : Bool :=
  w.mThreadsRun && w.mWakelockRefCount == 0

/-- How many steps the pending-writes thread has before it takes the lock again. -/
def Writer.rest : Writer → ℕ
  | .idle => 0
  | .wrote | .gaveBack => 1
  | .failed => 2
  | .blocked => 3

theorem Writer.rest_eq_zero_iff {w : Writer} : w.rest = 0 ↔ w = .idle := by
  cases w <;> simp [rest]

/-- How many steps the wakelock thread has before it takes the lock again. -/
def Reader.rest : Reader → ℕ
  | .waiting => 0
  | .acked _ => 1
  | .reading => 2

theorem Reader.rest_eq_zero_iff {r : Reader} : r.rest = 0 ↔ r = .waiting := by
  cases r <;> simp [rest]

/-- The pending-writes thread: its `mEventQueueWriteCV` is notified with every push. -/
def pendingWritesLoop : LoopThread CallbackHal CallbackLabel where
  running s := s.hal.proxy.wakelock.mThreadsRun
  ready s := !s.hal.proxy.mPendingWriteEventsQueue.isEmpty
  rest s := s.hal.proxy.writer.rest
  alive s := s.hal.mPendingWritesThread
  role
    | .hal (.proxy .select) => .enter
    | .hal (.proxy (.writeBlocking _)) | .hal (.proxy .giveBack) | .hal (.proxy .commit) => .body
    | .hal .pendingWritesThreadEnds => .finish
    | .hal .startThreads => .start
    -- `initializeCommon` clears the queue without the mutex, when the thread has ended
    | .postEventsToMessageQueue .. | .hal .clearPendingWrites => .locked
    | _ => .free
  notifies s
    | .postEventsToMessageQueue k writeOk =>
        s.calls[k]?.any fun c => s.hal.proxy.pushes c.events writeOk
    | _ => false

/-- The wakelock thread: its `mWakelockCV` is notified with the first reference. -/
def wakelocksLoop : LoopThread CallbackHal CallbackLabel where
  running s := s.hal.proxy.wakelock.mThreadsRun
  ready s := decide (0 < s.hal.proxy.wakelock.mWakelockRefCount)
  rest s := s.hal.proxy.reader.rest
  alive s := s.hal.mWakelockThread
  role
    | .hal (.proxy .checkTimeout) => .enter
    | .hal (.proxy (.readBlocking _)) | .hal (.proxy .process) => .body
    | .hal .wakelockThreadEnds => .finish
    | .hal .startThreads => .start
    | .hal (.proxy .createScopedWakelock) | .hal (.proxy (.destroyScopedWakelock _))
    | .hal (.proxy .giveBack) | .hal .clearPendingWrites | .postEventsToMessageQueue .. =>
        .locked
    | _ => .free
  notifies s
    | .hal (.proxy .createScopedWakelock) => s.hal.proxy.wakelock.acquires
    | .postEventsToMessageQueue k _ =>
        s.calls[k]?.any fun c => c.locked && s.hal.proxy.wakelock.acquires
    | _ => false

/-- The loop of a thread. -/
def HalThread.loop : HalThread → LoopThread CallbackHal CallbackLabel
  | .pendingWrites => pendingWritesLoop
  | .wakelocks => wakelocksLoop

variable {kWakelockTimeoutNs : ℤ} {mSubHalList : List SubHal} {now : ℕ}

/-! ## The flag -/

/-- Only the start of the threads turns the flag on. -/
theorem mThreadsRun_callbackStep {t : CallbackTransition}
    (h : (callbackMachine kWakelockTimeoutNs).Takes t)
    (hnot : t.label ≠ .hal .startThreads)
    (hstopped : t.pre.hal.proxy.wakelock.mThreadsRun = false) :
    t.post.hal.proxy.wakelock.mThreadsRun = false := by
  cases callbackStep_of_takes h with
  | hal t calls hpost hstep =>
      cases multiStep_of_takes hstep with
      | proxy p u hpre hcan hproxy =>
          rw [show p.proxy = u.pre from hpre.symm] at hstopped
          exact (mThreadsRun_step hproxy).trans hstopped
      | called p hno => rfl
      | wakelockThreadEnded p hoff => exact SharedWakelock.mThreadsRun_decrement.trans hstopped
      | cleared p hoff hjoined => exact SharedWakelock.mThreadsRun_decrement.trans hstopped
      | threadsStarted p hexchanged => exact absurd rfl hnot
      | _ => exact hstopped
  | ignored | checked => exact hstopped
  | handed s k writeOk c p seen hk hpost =>
      have hflag := mThreadsRun_postEventsToMessageQueue s.hal.proxy c.events c.numWakeupEvents
        c.locked writeOk
      rw [hpost] at hflag
      exact hflag.trans hstopped

/-! ## The pending-writes thread -/

/-- What a post leaves of the pending-writes thread, and what it pushes. -/
theorem pending_postEventsToMessageQueue (p : HalProxy) (es : List Event) (num : ℕ)
    (locked writeOk : Bool) :
    (p.postEventsToMessageQueue es num locked writeOk).1.writer = p.writer ∧
      (p.pushes es writeOk = false →
        (p.postEventsToMessageQueue es num locked writeOk).1.mPendingWriteEventsQueue =
          p.mPendingWriteEventsQueue) := by
  refine ⟨p.writer_postEventsToMessageQueue es num locked writeOk, ?_⟩
  rcases p.postEventsToMessageQueue_cases es num locked writeOk
    with ⟨-, hcase⟩ | ⟨hleft, hcase⟩ | ⟨-, hcase⟩
  · rw [hcase]
    exact fun _ => rfl
  · rw [hcase]
    intro hpushes
    -- events are left over and were not refused
    exfalso
    unfold HalProxy.postEventsToMessageQueue at hcase
    rw [ne_eq, List.drop_eq_nil_iff, not_le] at hleft
    simp only [HalProxy.pushes, decide_eq_false_iff_not, not_and] at hpushes
    have hroom := hpushes hleft
    have hsize : (p.writeDirectly es num locked writeOk).mSizePendingWriteEventsQueue =
        p.mSizePendingWriteEventsQueue := rfl
    simp only [if_pos hleft, hsize, if_neg hroom] at hcase
    simpa using congrArg (fun r => r.2.length) hcase
  · rw [hcase]
    exact fun _ => rfl

/-- The steps keep the discipline of the pending-writes thread. -/
theorem obeys_pendingWrites {t : CallbackTransition}
    (h : (callbackMachine kWakelockTimeoutNs).Takes t) : pendingWritesLoop.Obeys t := by
  have hrunning : pendingWritesLoop.role t.label ≠ .start →
      pendingWritesLoop.running t.pre = false → pendingWritesLoop.running t.post = false := by
    intro hrole
    refine mThreadsRun_callbackStep h fun hlabel => ?_
    rw [hlabel] at hrole
    exact hrole rfl
  cases callbackStep_of_takes h with
  | hal t calls hpost hstep =>
      cases multiStep_of_takes hstep with
      | proxy p u hpre hcan hproxy =>
          obtain ⟨q, l, out, q'⟩ := u
          obtain rfl : q = p.proxy := hpre
          cases proxyStep_of_takes hproxy with
          | posted | ignored => cases hpost
          | wrote q events num rest hwriter hfront =>
              refine ⟨hrunning, rfl, ?_, by simp [pendingWritesLoop], by simp [pendingWritesLoop]⟩
              simp [pendingWritesLoop, Writer.rest, hwriter]
          | failed q events num rest hwriter hfront =>
              refine ⟨hrunning, rfl, ?_, by simp [pendingWritesLoop], by simp [pendingWritesLoop]⟩
              simp [pendingWritesLoop, Writer.rest, hwriter]
          | gaveBack q events num rest table hwriter hfront htable =>
              refine ⟨hrunning, rfl, ?_, by simp [pendingWritesLoop], by simp [pendingWritesLoop]⟩
              simp [pendingWritesLoop, Writer.rest, hwriter]
          | committed q events num rest hwriter hfront =>
              refine ⟨hrunning, rfl, ?_, by simp [pendingWritesLoop], by simp [pendingWritesLoop]⟩
              rcases hwriter with hwriter | hwriter <;> simp [pendingWritesLoop, Writer.rest, hwriter]
          | selected q hwriter hpending =>
              exact ⟨hrunning, rfl, trivial, by simp [pendingWritesLoop],
                by simp [pendingWritesLoop]⟩
          | _ => exact ⟨hrunning, rfl, rfl, fun _ => rfl, by simp [pendingWritesLoop]⟩
      | pendingWritesThreadEnded p hidle =>
          exact ⟨hrunning, rfl, rfl, by simp [pendingWritesLoop], by simp [pendingWritesLoop]⟩
      | cleared p hstopped hjoined =>
          refine ⟨hrunning, rfl, rfl, by simp [pendingWritesLoop], ?_⟩
          simp [pendingWritesLoop, MultiHal.clearPendingWrites]
      | threadsStarted p hexchanged =>
          exact ⟨hrunning, rfl, rfl, by simp [pendingWritesLoop], by simp [pendingWritesLoop]⟩
      | _ => exact ⟨hrunning, rfl, rfl, fun _ => rfl, by simp [pendingWritesLoop]⟩
  | ignored | checked =>
      exact ⟨hrunning, rfl, rfl, fun _ => rfl, by simp [pendingWritesLoop]⟩
  | handed s k writeOk c p seen hk hpost =>
      obtain ⟨hwriter, hpending⟩ := pending_postEventsToMessageQueue s.hal.proxy c.events
        c.numWakeupEvents c.locked writeOk
      simp only [hpost] at hwriter hpending
      refine ⟨hrunning, rfl, congrArg Writer.rest hwriter, by simp [pendingWritesLoop], ?_⟩
      · intro _ hready
        by_cases hpushes : s.hal.proxy.pushes c.events writeOk = true
        · exact .inr (by simp [pendingWritesLoop, hk, hpushes])
        · rw [Bool.not_eq_true] at hpushes
          refine .inl ?_
          rw [← hready]
          exact congrArg (fun queue => !List.isEmpty queue) (hpending hpushes).symm

/-- The pending-writes thread can take its steps. -/
theorem pendingWrites_lawful :
    pendingWritesLoop.Lawful (callbackMachine kWakelockTimeoutNs) (.construct mSubHalList now) := by
  refine ⟨rfl, rfl, fun _ _ _ hstep => obeys_pendingWrites hstep, ?_, ?_, ?_⟩
  · intro us s hrun halive hrest hready hflag
    refine ⟨.hal (.proxy .select), rfl, ?_⟩
    simp only [pendingWritesLoop] at halive hrest hready hflag
    have hwriter := Writer.rest_eq_zero_iff.1 hrest
    cases hpending : s.hal.proxy.mPendingWriteEventsQueue with
    | nil => simp [hpending] at hready
    | cons front rest =>
        simp [callbackMachine, CallbackHal.step, MultiLabel.isPost, MultiHal.step,
          MultiHal.canTake, halive, hflag, HalProxy.step, hwriter, hpending]
  · intro us s hrun halive hrest
    simp only [pendingWritesLoop] at halive hrest
    have hpending := (writerFits_of_run writerFits_construct hrun).busy
    cases hfront : s.hal.proxy.mPendingWriteEventsQueue with
    | nil =>
        exact absurd hfront (hpending (mt Writer.rest_eq_zero_iff.2 hrest))
    | cons front rest =>
        cases hwriter : s.hal.proxy.writer with
        | idle =>
            rw [hwriter] at hrest
            exact absurd rfl hrest
        | blocked =>
            refine ⟨.hal (.proxy (.writeBlocking false)), rfl, ?_⟩
            simp [callbackMachine, CallbackHal.step, MultiLabel.isPost, MultiHal.step,
              MultiHal.canTake, halive, HalProxy.step, hwriter, hfront]
        | failed =>
            refine ⟨.hal (.proxy .giveBack), rfl, ?_⟩
            simp [callbackMachine, CallbackHal.step, MultiLabel.isPost, MultiHal.step,
              MultiHal.canTake, halive, HalProxy.step, hwriter, hfront]
        | wrote =>
            refine ⟨.hal (.proxy .commit), rfl, ?_⟩
            simp [callbackMachine, CallbackHal.step, MultiLabel.isPost, MultiHal.step,
              MultiHal.canTake, halive, HalProxy.step, hwriter, hfront]
        | gaveBack =>
            refine ⟨.hal (.proxy .commit), rfl, ?_⟩
            simp [callbackMachine, CallbackHal.step, MultiLabel.isPost, MultiHal.step,
              MultiHal.canTake, halive, HalProxy.step, hwriter, hfront]
  · intro us s hrun halive hrest hstopped
    refine ⟨.hal .pendingWritesThreadEnds, rfl, ?_⟩
    simp only [pendingWritesLoop] at halive hrest hstopped
    have hwriter := Writer.rest_eq_zero_iff.1 hrest
    simp [callbackMachine, CallbackHal.step, MultiLabel.isPost, MultiHal.step, halive, hstopped,
      hwriter]

/-! ## The wakelock thread -/

/-- No reference is there after some were given back that was not before. -/
theorem SharedWakelock.mWakelockRefCount_decrement_le (w : SharedWakelock) (delta : ℕ)
    (timeoutStart : ℤ) :
    (w.decrementRefCountAndMaybeReleaseWakelock delta timeoutStart).mWakelockRefCount ≤
      w.mWakelockRefCount := by
  rcases w.decrement_cases delta timeoutStart with h | ⟨-, h⟩
  · rw [h]
  · rw [h]
    exact Nat.sub_le _ _

/-- The steps keep the discipline of the wakelock thread. -/
theorem obeys_wakelocks {t : CallbackTransition}
    (h : (callbackMachine kWakelockTimeoutNs).Takes t) : wakelocksLoop.Obeys t := by
  have hrunning : wakelocksLoop.role t.label ≠ .start →
      wakelocksLoop.running t.pre = false → wakelocksLoop.running t.post = false := by
    intro hrole
    refine mThreadsRun_callbackStep h fun hlabel => ?_
    rw [hlabel] at hrole
    exact hrole rfl
  cases callbackStep_of_takes h with
  | hal t calls hpost hstep =>
      cases multiStep_of_takes hstep with
      | proxy p u hpre hcan hproxy =>
          obtain ⟨q, l, out, q'⟩ := u
          obtain rfl : q = p.proxy := hpre
          cases proxyStep_of_takes hproxy with
          | posted | ignored => cases hpost
          | created q hflag =>
              refine ⟨hrunning, rfl, rfl, by simp [wakelocksLoop], fun _ _ => ?_⟩
              by_cases hnone : p.proxy.wakelock.mWakelockRefCount = 0
              · exact .inr (by simp [wakelocksLoop, SharedWakelock.acquires, hflag, hnone])
              · exact .inl (by simpa [wakelocksLoop, Nat.pos_iff_ne_zero] using hnone)
          | notCreated q hflag =>
              exact ⟨hrunning, rfl, rfl, fun _ => rfl, fun _ hready => .inl hready⟩
          | destroyed q i createdAt hi =>
              refine ⟨hrunning, rfl, rfl, by simp [wakelocksLoop], fun _ hready => .inl ?_⟩
              have hle := p.proxy.wakelock.mWakelockRefCount_decrement_le 1 createdAt
              simp only [wakelocksLoop, decide_eq_true_iff] at hready ⊢
              exact hready.trans_le hle
          | gaveBack q events num rest table hwriter hfront htable =>
              refine ⟨hrunning, rfl, rfl, by simp [wakelocksLoop], fun _ hready => .inl ?_⟩
              have hle := p.proxy.wakelock.mWakelockRefCount_decrement_le
                (p.proxy.numGivenBack events num) (-1)
              simp only [wakelocksLoop, decide_eq_true_iff] at hready ⊢
              exact hready.trans_le hle
          | timedOut | woke =>
              exact ⟨hrunning, rfl, trivial, by simp [wakelocksLoop], by simp [wakelocksLoop]⟩
          | readAck q n rest hreader hqueue =>
              refine ⟨hrunning, rfl, ?_, by simp [wakelocksLoop], by simp [wakelocksLoop]⟩
              simp [wakelocksLoop, Reader.rest, hreader]
          | readNothing q hreader =>
              refine ⟨hrunning, rfl, ?_, by simp [wakelocksLoop], by simp [wakelocksLoop]⟩
              simp [wakelocksLoop, Reader.rest, hreader]
          | processed q n hreader =>
              refine ⟨hrunning, rfl, ?_, by simp [wakelocksLoop], by simp [wakelocksLoop]⟩
              simp [wakelocksLoop, Reader.rest, hreader]
          | _ => exact ⟨hrunning, rfl, rfl, fun _ => rfl, by simp [wakelocksLoop]⟩
      | wakelockThreadEnded p hstopped =>
          exact ⟨hrunning, rfl, rfl, by simp [wakelocksLoop], by simp [wakelocksLoop]⟩
      | cleared p hstopped hjoined =>
          refine ⟨hrunning, rfl, rfl, by simp [wakelocksLoop], fun _ hready => .inl ?_⟩
          have hle := p.proxy.wakelock.mWakelockRefCount_decrement_le
            p.proxy.wakelock.mWakelockRefCount (-1)
          simp only [wakelocksLoop, decide_eq_true_iff] at hready ⊢
          exact hready.trans_le hle
      | threadsStarted p hexchanged =>
          exact ⟨hrunning, rfl, rfl, by simp [wakelocksLoop], by simp [wakelocksLoop]⟩
      | _ => exact ⟨hrunning, rfl, rfl, fun _ => rfl, by simp [wakelocksLoop]⟩
  | ignored | checked => exact ⟨hrunning, rfl, rfl, fun _ => rfl, by simp [wakelocksLoop]⟩
  | handed s k writeOk c p seen hk hpost =>
      obtain ⟨hreader, hwakelock⟩ :
          p.reader = s.hal.proxy.reader ∧
            p.wakelock = if c.locked then
              (s.hal.proxy.wakelock.incrementRefCountAndMaybeAcquireWakelock c.numWakeupEvents
                s.hal.proxy.now).2
            else s.hal.proxy.wakelock := by
        have hafter := s.hal.proxy.wakelock_postEventsToMessageQueue c.events c.numWakeupEvents
          c.locked writeOk
        rw [hpost] at hafter
        refine ⟨?_, hafter⟩
        rcases s.hal.proxy.postEventsToMessageQueue_cases c.events c.numWakeupEvents c.locked writeOk
          with ⟨-, hcase⟩ | ⟨-, hcase⟩ | ⟨-, hcase⟩ <;>
        · obtain ⟨rfl, -⟩ := Prod.mk.inj (hpost.symm.trans hcase)
          rfl
      refine ⟨hrunning, rfl, congrArg Reader.rest hreader, by simp [wakelocksLoop], ?_⟩
      intro _ hready
      by_cases hnone : s.hal.proxy.wakelock.mWakelockRefCount = 0
      · -- the first reference was taken, by a call with a locked wakelock
        refine .inr ?_
        simp only [wakelocksLoop, decide_eq_true_iff, hwakelock] at hready
        by_cases hlocked : c.locked = true
        · rw [if_pos hlocked] at hready
          by_cases hflag : s.hal.proxy.wakelock.mThreadsRun = true
          · simp [wakelocksLoop, hk, hlocked, SharedWakelock.acquires, hflag, hnone]
          · simp [SharedWakelock.incrementRefCountAndMaybeAcquireWakelock, hflag, hnone] at hready
        · rw [if_neg hlocked, hnone] at hready
          cases hready
      · exact .inl (by simpa [wakelocksLoop, Nat.pos_iff_ne_zero] using hnone)

/-- The wakelock thread can take its steps. -/
theorem wakelocks_lawful :
    wakelocksLoop.Lawful (callbackMachine kWakelockTimeoutNs) (.construct mSubHalList now) := by
  refine ⟨rfl, rfl, fun _ _ _ hstep => obeys_wakelocks hstep, ?_, ?_, ?_⟩
  · intro us s hrun halive hrest hready hflag
    refine ⟨.hal (.proxy .checkTimeout), rfl, ?_⟩
    simp only [wakelocksLoop, decide_eq_true_iff] at halive hrest hready hflag
    have hreader := Reader.rest_eq_zero_iff.1 hrest
    by_cases htimeout : (s.hal.proxy.wakelock.sharedWakelockDidTimeout kWakelockTimeoutNs
        s.hal.proxy.now).1 = true
    · simp [callbackMachine, CallbackHal.step, MultiLabel.isPost, MultiHal.step,
        MultiHal.canTake, halive, hflag, HalProxy.step, hreader, hready, htimeout]
    · simp [callbackMachine, CallbackHal.step, MultiLabel.isPost, MultiHal.step,
        MultiHal.canTake, halive, hflag, HalProxy.step, hreader, hready, htimeout]
  · intro us s hrun halive hrest
    simp only [wakelocksLoop] at halive hrest
    cases hreader : s.hal.proxy.reader with
    | waiting =>
        rw [hreader] at hrest
        exact absurd rfl hrest
    | reading =>
        refine ⟨.hal (.proxy (.readBlocking false)), rfl, ?_⟩
        simp [callbackMachine, CallbackHal.step, MultiLabel.isPost, MultiHal.step,
          MultiHal.canTake, halive, HalProxy.step, hreader]
    | acked n =>
        refine ⟨.hal (.proxy .process), rfl, ?_⟩
        simp [callbackMachine, CallbackHal.step, MultiLabel.isPost, MultiHal.step,
          MultiHal.canTake, halive, HalProxy.step, hreader]
  · intro us s hrun halive hrest hstopped
    refine ⟨.hal .wakelockThreadEnds, rfl, ?_⟩
    simp only [wakelocksLoop] at halive hrest hstopped
    have hreader := Reader.rest_eq_zero_iff.1 hrest
    simp [callbackMachine, CallbackHal.step, MultiLabel.isPost, MultiHal.step, halive, hstopped,
      hreader]

/-! ## Both threads -/

/-- The HAL with its callbacks and a thread's place in its loop. -/
abbrev ThreadState := LoopState CallbackHal

abbrev ThreadTransition := Transition ThreadState (LoopLabel CallbackLabel) MultiObservation

/-- The machine of a thread. -/
def HalThread.machine (kWakelockTimeoutNs : ℤ) (i : HalThread) :
    Machine ThreadState (LoopLabel CallbackLabel) MultiObservation :=
  loopMachine (callbackMachine kWakelockTimeoutNs) i.loop

/-- The proxy just constructed; the threads are not started. -/
def ThreadState.construct (mSubHalList : List SubHal) (now : ℕ) : ThreadState :=
  ⟨.construct mSubHalList now, .ended⟩

variable {i : HalThread} {ts₁ ts₂ : List ThreadTransition} {t : ThreadTransition}
  {s₁ s : ThreadState}

theorem HalThread.lawful (i : HalThread) :
    i.loop.Lawful (callbackMachine kWakelockTimeoutNs) (.construct mSubHalList now) := by
  cases i with
  | pendingWrites => exact pendingWrites_lawful
  | wakelocks => exact wakelocks_lawful

theorem HalThread.rest_le (i : HalThread) (s : CallbackHal) : i.loop.rest s ≤ 3 := by
  cases i with
  | pendingWrites =>
      simp only [HalThread.loop, pendingWritesLoop]
      cases s.hal.proxy.writer <;> simp [Writer.rest]
  | wakelocks =>
      simp only [HalThread.loop, wakelocksLoop]
      cases s.hal.proxy.reader <;> simp [Reader.rest]

/-- **No wake-up is lost while the threads run.**  A thread of the proxy never waits while
events are pending, or references held.  In a stretch of any run in which this is so, the
flag is on and the thread does not begin the body of its loop, it takes at most six steps
of its own, and it can always take the next. -/
theorem thread_serves
    (hrun : (i.machine kWakelockTimeoutNs).Run (.construct mSubHalList now) (ts₁ ++ ts₂) s)
    (hserves : ∀ t ∈ ts₂, i.loop.ready t.pre.data = true ∧ i.loop.running t.pre.data = true ∧
      i.loop.enters t.label = false)
    (hready : i.loop.ready s.data = true) :
    s.pc.waits = false ∧ ownSteps i.loop ts₂ ≤ 6 ∧
      (i.loop.alive s.data = true →
        ∃ l, i.loop.own l = true ∧ ((i.machine kWakelockTimeoutNs).step s l).isSome = true) := by
  obtain ⟨s₁, hrun₁, hrun₂⟩ := hrun.of_append
  have hfits := fits_of_run i.lawful hrun
  have hwaits : s.pc.waits = false := by
    rw [← Bool.not_eq_true]
    intro hwaits
    rw [hfits.waits hwaits] at hready
    cases hready
  refine ⟨hwaits, ?_, fun halive => ?_⟩
  · have hsteps := steps_le_of_ready i.lawful hrun₁ hrun₂ hserves
    have hmost : i.loop.stepsToEnter s₁ ≤ 6 := by
      have hrest := i.rest_le s₁.data
      rw [LoopThread.stepsToEnter]
      split <;> omega
    omega
  · refine exists_own_step i.lawful hrun ?_ hwaits
    rw [ne_eq, hfits.ended, halive]
    exact Bool.noConfusion

/-- The pending-writes thread was blocked when two events came for a queue with one place:
it is woken up and looks at the predicate again. -/
theorem thread_serves_pending :
    ∃ (ts₁ ts₂ : List ThreadTransition) (s : ThreadState),
      (HalThread.pendingWrites.machine 1000).Run (.construct [] 0) (ts₁ ++ ts₂) s ∧
      s.pc = .passed ∧ s.pc.waits = false ∧ ownSteps HalThread.pendingWrites.loop ts₂ ≤ 6 := by
  obtain ⟨ts, s, hrun, hpc, hserves, hready⟩ :
      ∃ (ts : List ThreadTransition) (s : ThreadState),
        (HalThread.pendingWrites.machine 1000).Run (.construct [] 0) ts s ∧ s.pc = .passed ∧
        (∀ t ∈ ts.drop 11, HalThread.pendingWrites.loop.ready t.pre.data = true ∧
          HalThread.pendingWrites.loop.running t.pre.data = true ∧
          HalThread.pendingWrites.loop.enters t.label = false) ∧
        HalThread.pendingWrites.loop.ready s.data = true :=
    Machine.exists_run_of_exec
      [.data (.hal .initializeCommon), .data (.hal .clearPendingWrites),
        .data (.hal (.exchangeQueues 1)), .data (.hal .startThreads), .data (.hal .initialized),
        .acquire, .loop, .test, .block, .data (.postEvents 0 [sampleEvent 1, sampleEvent 2] none),
        .data (.postEventsToMessageQueue 0 true), .relock, .test] (by decide)
  rw [← List.take_append_drop 11 ts] at hrun
  obtain ⟨hwaits, hsteps, -⟩ := thread_serves hrun hserves hready
  exact ⟨_, _, s, hrun, hpc, hwaits, hsteps⟩

/-- **When `stopThreads` gets past its `join`.**  `mThreadsRun` is off and `stopThreads`
notifies the thread, which is notified no more.  If the thread has looked at the predicate
of its wait before and has not blocked yet, it waits from then on, and the threads are never
started again.  If not, it takes at most four steps of its own to its end, and it can take
the next until it is there. -/
theorem stopThreads_ends_or_stuck
    (hrun : (i.machine kWakelockTimeoutNs).Run (.construct mSubHalList now)
      (ts₁ ++ t :: ts₂) s)
    (ht : t.label = .notify) (hstopped : t.pre.data.hal.proxy.wakelock.mThreadsRun = false)
    (hwakes : ∀ t' ∈ ts₂, i.loop.wakes t' = false) :
    (t.pre.pc = .entering →
      s.pc.waits = true ∧ ∀ t' ∈ ts₂, i.loop.starts t'.label = false) ∧
    (t.pre.pc ≠ .entering → (∀ t' ∈ ts₂, i.loop.starts t'.label = false) →
      ownSteps i.loop ts₂ ≤ 4 ∧ (i.loop.alive s.data = false ∨
        ∃ l, i.loop.own l = true ∧ ((i.machine kWakelockTimeoutNs).step s l).isSome = true)) := by
  obtain ⟨hrun₁, hstep, hrun₂⟩ := hrun.of_append_cons
  have hbefore : (i.machine kWakelockTimeoutNs).Run (.construct mSubHalList now) (ts₁ ++ [t])
      t.post := hrun₁.next hstep
  have hpost : t.post = ⟨t.pre.data, t.pre.pc.notified⟩ := by
    cases loopStep_of_takes hstep with
    | notified d pc => rfl
    | _ => cases ht
  constructor
  · intro hentering
    have hwaits : t.post.pc.waits = true := by
      rw [hpost, hentering]
      rfl
    refine ⟨stuck_of_waits hrun₂ hwakes hwaits, fun t' ht' => ?_⟩
    obtain ⟨before, after, rfl, hto, hstep'⟩ := hrun₂.split_of_mem ht'
    -- a thread that waits is not started
    have hstuck := stuck_of_waits hto (fun u hu => hwakes u (List.mem_append_left _ hu)) hwaits
    cases loopStep_of_takes hstep' with
    | started u hrole hdata => cases hstuck
    | entered u hrole _ _ | worked u hrole _ | finished u hrole _ _ | locked u _ hrole _ _
    | free u _ hrole _ => simp [LoopThread.starts, hrole]
    | _ => rfl
  · intro hnot hstarts
    have hstopping : i.loop.Stopping t.post := by
      rw [hpost]
      refine ⟨?_, ?_⟩
      · cases i <;> exact hstopped
      · cases hpc : t.pre.pc with
        | entering => exact absurd hpc hnot
        | _ => rfl
    obtain ⟨-, hsteps, hend⟩ := ends_of_stopping i.lawful hbefore hrun₂ hstarts hstopping
    refine ⟨?_, hend.imp_left (fits_of_run i.lawful hrun).ended.1⟩
    have hmost : i.loop.stepsToEnd t.post ≤ 4 := by
      have hrest := i.rest_le t.post.data
      rw [LoopThread.stepsToEnd]
      split <;> omega
    omega

/-- The second client calls `initialize` when the pending-writes thread has looked at the
predicate: the thread blocks after the notification and is never joined. -/
theorem stopThreads_ends_or_stuck_pending :
    ∃ (ts₁ : List ThreadTransition) (t : ThreadTransition) (ts₂ : List ThreadTransition)
      (s : ThreadState),
      (HalThread.pendingWrites.machine 1000).Run (.construct [] 0) (ts₁ ++ t :: ts₂) s ∧
      t.label = .notify ∧ t.pre.data.hal.initializing = .stopThreads ∧
      s.data.hal.mWakelockThread = false ∧ s.pc = .blocked ∧
      ∀ t' ∈ ts₂, HalThread.pendingWrites.loop.starts t'.label = false := by
  obtain ⟨ts, s, hrun, t, ht, hlabel, hinit, hstopped, hentering, hended, hpc, hwakes⟩ :
      ∃ (ts : List ThreadTransition) (s : ThreadState),
        (HalThread.pendingWrites.machine 1000).Run (.construct [] 0) ts s ∧
        ∃ t ∈ ts[9]?, t.label = .notify ∧ t.pre.data.hal.initializing = .stopThreads ∧
          t.pre.data.hal.proxy.wakelock.mThreadsRun = false ∧ t.pre.pc = .entering ∧
          s.data.hal.mWakelockThread = false ∧ s.pc = .blocked ∧
          ∀ t' ∈ ts.drop 10, HalThread.pendingWrites.loop.wakes t' = false :=
    Machine.exists_run_of_exec
      [.data (.hal .initializeCommon), .data (.hal .clearPendingWrites),
        .data (.hal (.exchangeQueues 1)), .data (.hal .startThreads), .data (.hal .initialized),
        .acquire, .loop, .test, .data (.hal .initializeCommon), .notify, .block,
        .data (.hal .wakelockThreadEnds)] (by decide)
  rw [Machine.split_of_getElem? ht] at hrun
  exact ⟨_, t, _, s, hrun, hlabel, hinit, hended, hpc,
    ((stopThreads_ends_or_stuck hrun hlabel hstopped hwakes).1 hentering).2⟩

end Sensors
