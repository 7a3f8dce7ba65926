/-
# The sensors HAL proxy with its two threads (`HalProxy.cpp`)

Events come in through `postEvents`, on the sub-HALs' threads, and leave through
the event FMQ that the framework reads.  What does not fit waits in
`mPendingWriteEventsQueue` for the pending-writes thread, which gives up
`mEventQueueWriteMutex` while it is blocked in a write.  Every wake-up event holds
a reference of the shared wakelock until the framework has acknowledged it through
the wake lock FMQ, read by the wakelock thread, which gives up `mWakelockMutex`
while it is blocked in a read.

`proxyMachine` takes every piece of code between two such points as one step.  The
FMQs are bounded FIFOs whose writes are all or nothing; whether a write succeeds is
part of the label, and so is every choice of the sub-HALs, of the framework and of
the scheduler.  A run lies between two calls of `initialize`: it begins when the proxy has
been initialised and its threads have been started, these run throughout, and every
`ScopedWakelock` created in it is a locked one.

`ProxyStep` lists the steps once more, one constructor for each thing that can
happen; the facts about runs are proved by cases on it.
-/
import PongHal.Machine
import PongHal.SensorEvents
import PongHal.SharedWakelock

namespace Sensors

/-- `kMaxSizePendingWriteEventsQueue`. -/
def kMaxSizePendingWriteEventsQueue : ℕ := 100000

/-- Subtraction of `size_t` values. -/
def sizeSub (a b : ℕ) : ℕ := (a + 2 ^ 64 - b) % 2 ^ 64

/-- The event FMQ: its `getQuantumCount` and its contents, oldest first. -/
structure EventQueue where
  quantumCount : ℕ
  contents : List Event
  deriving DecidableEq, Repr

/-- `availableToWrite`. -/
def EventQueue.availableToWrite (q : EventQueue) : ℕ := q.quantumCount - q.contents.length

/-- Where the pending-writes thread is in the body of its loop. -/
inductive Writer
  /-- It waits, or is about to look at the front entry. -/
  | idle
  /-- It has chosen the front chunk and given up the lock for `writeBlocking`. -/
  | blocked
  /-- The write has succeeded; the lock is not taken again yet. -/
  | wrote
  /-- The write has failed; the references are not given back yet. -/
  | failed
  /-- The write has failed and the references are given back. -/
  | gaveBack
  deriving DecidableEq, Repr

/-- Where the wakelock thread is in the body of its loop. -/
inductive Reader
  /-- It waits for a reference, or is about to look at the timeout. -/
  | waiting
  /-- It has given up the lock for `readBlocking`. -/
  | reading
  /-- It has read a number of processed wake locks and not taken the lock again. -/
  | acked (numWakeLocksProcessed : ℕ)
  deriving DecidableEq, Repr

/-- The proxy: its members, the two FMQs, its two threads, and the creation times
of the locked `ScopedWakelock`s that are alive. -/
structure HalProxy where
  mSensors : SensorMap
  wakelock : SharedWakelock
  scopedWakelocks : List ℤ
  mEventQueue : EventQueue
  mPendingWriteEventsQueue : List (List Event × ℕ)
  mSizePendingWriteEventsQueue : ℕ
  mMostEventsObservedPendingWriteEventsQueue : ℕ
  writer : Writer
  mWakeLockQueue : List ℕ
  reader : Reader
  now : ℕ

/-- What can be seen of a step: events posted to the message queue, written to the
event FMQ, refused for want of room, dropped after a failed write, read by the
framework; acknowledgements sent by the framework and processed by the wakelock
thread; and the resets after a timeout. -/
inductive Observation
  | posted (events : List Event)
  | wrote (events : List Event)
  | refused (events : List Event)
  | dropped (events : List Event)
  | read (events : List Event)
  | acknowledged (n : ℕ)
  | processed (n : ℕ)
  | timedOut
  deriving DecidableEq, Repr

/-- The steps of the sub-HALs, of the proxy's threads, of the framework and of the
clock. -/
inductive ProxyLabel
  /-- Time passes. -/
  | tick (nanos : ℕ)
  /-- A sub-HAL calls `createScopedWakelock(true)`. -/
  | createScopedWakelock
  /-- The `i`-th locked `ScopedWakelock` is destroyed. -/
  | destroyScopedWakelock (i : ℕ)
  /-- A sub-HAL calls `postEvents`, with the `i`-th locked `ScopedWakelock` or with
  an unlocked one; `writeOk` says whether a direct write succeeds. -/
  | postEvents (subHalIndex : ℕ) (events : List Event) (wakelock : Option ℕ) (writeOk : Bool)
  /-- The pending-writes thread chooses the front chunk and gives up the lock. -/
  | select
  /-- Its `writeBlocking` returns. -/
  | writeBlocking (success : Bool)
  /-- It gives back the references of a chunk it could not write. -/
  | giveBack
  /-- It takes the lock again and removes the chunk from the queue. -/
  | commit
  /-- The framework reads `n` events. -/
  | read (n : ℕ)
  /-- The framework acknowledges `n` wake-up events. -/
  | acknowledge (n : ℕ)
  /-- The wakelock thread wakes up and looks at the timeout. -/
  | checkTimeout
  /-- Its `readBlocking` returns. -/
  | readBlocking (success : Bool)
  /-- It takes the lock again and processes what it has read. -/
  | process
  deriving DecidableEq, Repr

namespace HalProxy

/-- A proxy just initialised at time `now`, with the sensors of its sub-HALs and an
event FMQ of `quantumCount` places. -/
def init (mSensors : SensorMap) (quantumCount now : ℕ) : HalProxy where
  mSensors := mSensors
  wakelock := .init now
  scopedWakelocks := []
  mEventQueue := ⟨quantumCount, []⟩
  mPendingWriteEventsQueue := []
  mSizePendingWriteEventsQueue := 0
  mMostEventsObservedPendingWriteEventsQueue := 0
  writer := .idle
  mWakeLockQueue := []
  reader := .waiting
  now := now

/-- The `numToWrite` of `postEventsToMessageQueue`: events are written directly only
when none are pending. -/
def numToWrite (p : HalProxy) (events : List Event) (writeOk : Bool) : ℕ :=
  -- a failed `write` writes nothing and sets `numToWrite` back to zero
  if p.mPendingWriteEventsQueue.isEmpty ∧ writeOk then
    min events.length p.mEventQueue.availableToWrite
  else 0

/-- The first half of `postEventsToMessageQueue`: the references are taken if the
wakelock is locked, and what can be written directly is written. -/
def writeDirectly (p : HalProxy) (events : List Event) (numWakeupEvents : ℕ)
    (locked writeOk : Bool) : HalProxy :=
  { p with
    wakelock :=
      if locked then (p.wakelock.incrementRefCountAndMaybeAcquireWakelock numWakeupEvents p.now).2
      else p.wakelock
    mEventQueue := { p.mEventQueue with
      contents := p.mEventQueue.contents ++ events.take (p.numToWrite events writeOk) } }

/-- The second half, when there is room: the other events are left to the
pending-writes thread, with the count of the WHOLE batch. -/
def push (p : HalProxy) (eventsLeft : List Event) (numWakeupEvents : ℕ) : HalProxy :=
  let size := p.mSizePendingWriteEventsQueue + eventsLeft.length
  { p with
    mPendingWriteEventsQueue := p.mPendingWriteEventsQueue ++ [(eventsLeft, numWakeupEvents)]
    mSizePendingWriteEventsQueue := size
    mMostEventsObservedPendingWriteEventsQueue :=
      max p.mMostEventsObservedPendingWriteEventsQueue size }

/-- `HalProxy::postEventsToMessageQueue`, with a wakelock that is locked or not.
Events for which there is no room are dropped without a word. -/
def postEventsToMessageQueue (p : HalProxy) (events : List Event) (numWakeupEvents : ℕ)
    (locked writeOk : Bool) : HalProxy × List Observation :=
  let numToWrite := p.numToWrite events writeOk
  let numLeft := events.length - numToWrite
  let eventsLeft := events.drop numToWrite
  let seen : List Observation := [.posted events, .wrote (events.take numToWrite)]
  let p := p.writeDirectly events numWakeupEvents locked writeOk
  if numToWrite < events.length then
    if p.mSizePendingWriteEventsQueue + numLeft ≤ kMaxSizePendingWriteEventsQueue then
      (p.push eventsLeft numWakeupEvents, seen)
    -- the references of the refused events have been taken above
    else (p, seen ++ [.refused eventsLeft])
  else (p, seen)

/-- `HalProxyCallbackBase::postEvents`.  Its assertions on the wakelock are compiled
out of release builds. -/
def postEvents (p : HalProxy) (subHalIndex : ℕ) (events : List Event) (locked writeOk : Bool) :
    HalProxy × List Observation :=
  if events.isEmpty ∨ !p.wakelock.mThreadsRun then (p, [])
  else
    let processed := processEvents p.mSensors subHalIndex events
    p.postEventsToMessageQueue processed.1 processed.2 locked writeOk

/-- The references given back after the write of the front chunk has failed, and the
sensor table after they were counted. -/
def giveBack (p : HalProxy) (pendingWriteEvents : List Event) (numWakeupEvents : ℕ) : HalProxy :=
  let eventQueueSize := p.mEventQueue.quantumCount
  if numWakeupEvents > 0 then
    -- only where events are left over are those of the chunk counted
    if pendingWriteEvents.length > eventQueueSize then
      let counted := countNumWakeupEvents p.mSensors pendingWriteEvents eventQueueSize
      { p with
        mSensors := counted.2
        wakelock := p.wakelock.decrementRefCountAndMaybeReleaseWakelock counted.1 (-1) }
    else
      { p with
        wakelock := p.wakelock.decrementRefCountAndMaybeReleaseWakelock numWakeupEvents (-1) }
  else p

/-- The end of the loop body of `handlePendingWrites`, with the lock taken again: the
chunk is removed from the front entry `(pendingWriteEvents, numWakeupEvents)`, or
the entry from the queue. -/
def commit (p : HalProxy) (pendingWriteEvents : List Event) (numWakeupEvents : ℕ)
    (rest : List (List Event × ℕ)) : HalProxy :=
  let eventQueueSize := p.mEventQueue.quantumCount
  { p with
    mSizePendingWriteEventsQueue :=
      sizeSub p.mSizePendingWriteEventsQueue (min pendingWriteEvents.length eventQueueSize)
    mPendingWriteEventsQueue :=
      -- the count stays as it is, whatever the erased events were
      if pendingWriteEvents.length > eventQueueSize then
        (pendingWriteEvents.drop eventQueueSize, numWakeupEvents) :: rest
      else rest }

/-- One step.  While the pending-writes thread is busy with the front entry the
entry stays where it is, since posts add at the back: what the thread has in its
local variables is what it finds there. -/
def step (kWakelockTimeoutNs : ℤ) (p : HalProxy) :
    ProxyLabel → Option (HalProxy × List Observation)
  | .tick nanos => some ({ p with now := p.now + nanos }, [])
  | .createScopedWakelock =>
      -- the constructor stays unlocked when the increment fails
      let r := p.wakelock.incrementRefCountAndMaybeAcquireWakelock 1 p.now
      if r.1 then
        some ({ p with
          wakelock := r.2
          scopedWakelocks := p.scopedWakelocks ++ [r.2.mWakelockTimeoutStartTime] }, [])
      else some (p, [])
  | .destroyScopedWakelock i =>
      match p.scopedWakelocks[i]? with
      | none => none
      | some createdAt =>
          some ({ p with
            wakelock := p.wakelock.decrementRefCountAndMaybeReleaseWakelock 1 createdAt
            scopedWakelocks := p.scopedWakelocks.eraseIdx i }, [])
  | .postEvents subHalIndex events wakelock writeOk =>
      match wakelock with
      | none => some (p.postEvents subHalIndex events false writeOk)
      | some i =>
          if i < p.scopedWakelocks.length then
            some (p.postEvents subHalIndex events true writeOk)
          else none
  | .select =>
      match p.writer, p.mPendingWriteEventsQueue with
      | .idle, _ :: _ => some ({ p with writer := .blocked }, [])
      | _, _ => none
  | .writeBlocking success =>
      match p.writer, p.mPendingWriteEventsQueue with
      | .blocked, (events, _) :: _ =>
          let chunk := events.take p.mEventQueue.quantumCount
          if success then
            if chunk.length ≤ p.mEventQueue.availableToWrite then
              some ({ p with
                writer := .wrote
                mEventQueue := { p.mEventQueue with
                  contents := p.mEventQueue.contents ++ chunk } }, [.wrote chunk])
            else none
          else some ({ p with writer := .failed }, [.dropped chunk])
      | _, _ => none
  | .giveBack =>
      match p.writer, p.mPendingWriteEventsQueue with
      | .failed, (events, numWakeupEvents) :: _ =>
          some ({ p.giveBack events numWakeupEvents with writer := .gaveBack }, [])
      | _, _ => none
  | .commit =>
      match p.mPendingWriteEventsQueue with
      | [] => none
      | (events, numWakeupEvents) :: rest =>
          if p.writer = .wrote ∨ p.writer = .gaveBack then
            some ({ p.commit events numWakeupEvents rest with writer := .idle }, [])
          else none
  | .read n =>
      if n ≤ p.mEventQueue.contents.length then
        some ({ p with mEventQueue := { p.mEventQueue with
            contents := p.mEventQueue.contents.drop n } },
          [.read (p.mEventQueue.contents.take n)])
      else none
  | .acknowledge n =>
      some ({ p with mWakeLockQueue := p.mWakeLockQueue ++ [n] }, [.acknowledged n])
  | .checkTimeout =>
      -- the condition variable's predicate, `mWakelockRefCount > 0`
      if p.reader = .waiting ∧ 0 < p.wakelock.mWakelockRefCount then
        if (p.wakelock.sharedWakelockDidTimeout kWakelockTimeoutNs p.now).1 then
          some ({ p with wakelock := p.wakelock.resetSharedWakelock p.now }, [.timedOut])
        else some ({ p with reader := .reading }, [])
      else none
  | .readBlocking success =>
      match p.reader with
      | .reading =>
          if success then
            match p.mWakeLockQueue with
            | [] => none
            | n :: rest => some ({ p with reader := .acked n, mWakeLockQueue := rest }, [])
          else some ({ p with reader := .waiting }, [])
      | _ => none
  | .process =>
      match p.reader with
      | .acked n =>
          some ({ p with
            wakelock := p.wakelock.decrementRefCountAndMaybeReleaseWakelock n (-1)
            reader := .waiting }, [.processed n])
      | _ => none

end HalProxy

/-- The machine of the proxy.  `kWakelockTimeoutNs` is a constant of the
multi-HAL's headers. -/
def proxyMachine (kWakelockTimeoutNs : ℤ) : Machine HalProxy ProxyLabel Observation where
  step := HalProxy.step kWakelockTimeoutNs

/-- A step of the proxy's run. -/
abbrev ProxyTransition := Transition HalProxy ProxyLabel Observation

/-! ## What giving back does -/

/-- The number of references that the pending-writes thread gives back for the front
entry when its write has failed. -/
def HalProxy.numGivenBack (p : HalProxy) (events : List Event) (numWakeupEvents : ℕ) : ℕ :=
  if numWakeupEvents = 0 then 0
  else if events.length > p.mEventQueue.quantumCount then
    p.mSensors.wakeups (events.take p.mEventQueue.quantumCount)
  else numWakeupEvents

/-- Giving references back changes the wakelock and enters sensors into the table,
which no lookup shows. -/
theorem HalProxy.giveBack_eq (p : HalProxy) (events : List Event) (num : ℕ) :
    ∃ table : SensorMap, table.getSensorInfo = p.mSensors.getSensorInfo ∧
      p.giveBack events num = { p with
        mSensors := table
        wakelock := p.wakelock.decrementRefCountAndMaybeReleaseWakelock
          (p.numGivenBack events num) (-1) } := by
  unfold HalProxy.giveBack HalProxy.numGivenBack
  by_cases hnum : num = 0
  · refine ⟨p.mSensors, rfl, ?_⟩
    simp [hnum, SharedWakelock.decrement_zero]
  · -- counting reads the table with `mSensors[...]`, which may enter sensors into it
    simp only [if_neg hnum, gt_iff_lt, Nat.pos_of_ne_zero hnum, if_true]
    split
    · refine ⟨_, getSensorInfo_countNumWakeupEvents p.mSensors events p.mEventQueue.quantumCount,
        ?_⟩
      rw [countNumWakeupEvents_fst]
    · exact ⟨p.mSensors, rfl, rfl⟩

/-! ## The steps, by cases -/

/-- The steps of the proxy, one constructor for each thing that can happen. -/
inductive ProxyStep (kWakelockTimeoutNs : ℤ) : ProxyTransition → Prop
  | tick (p : HalProxy) (nanos : ℕ) :
      ProxyStep kWakelockTimeoutNs ⟨p, .tick nanos, [], { p with now := p.now + nanos }⟩
  | created (p : HalProxy) (hrun : p.wakelock.mThreadsRun = true) :
      ProxyStep kWakelockTimeoutNs ⟨p, .createScopedWakelock, [],
        { p with
          wakelock := (p.wakelock.incrementRefCountAndMaybeAcquireWakelock 1 p.now).2
          scopedWakelocks := p.scopedWakelocks ++ [(p.now : ℤ)] }⟩
  | notCreated (p : HalProxy) (hrun : p.wakelock.mThreadsRun = false) :
      ProxyStep kWakelockTimeoutNs ⟨p, .createScopedWakelock, [], p⟩
  | destroyed (p : HalProxy) (i : ℕ) (createdAt : ℤ)
      (hi : p.scopedWakelocks[i]? = some createdAt) :
      ProxyStep kWakelockTimeoutNs ⟨p, .destroyScopedWakelock i, [],
        { p with
          wakelock := p.wakelock.decrementRefCountAndMaybeReleaseWakelock 1 createdAt
          scopedWakelocks := p.scopedWakelocks.eraseIdx i }⟩
  | ignored (p : HalProxy) (subHalIndex : ℕ) (events : List Event) (wakelock : Option ℕ)
      (writeOk : Bool) (hignored : events = [] ∨ p.wakelock.mThreadsRun = false) :
      ProxyStep kWakelockTimeoutNs ⟨p, .postEvents subHalIndex events wakelock writeOk, [], p⟩
  | posted (p : HalProxy) (subHalIndex : ℕ) (events : List Event) (wakelock : Option ℕ)
      (writeOk : Bool) (es : List Event)
      (hes : es = (processEvents p.mSensors subHalIndex events).1)
      (hne : events ≠ []) (hlive : ∀ i ∈ wakelock, i < p.scopedWakelocks.length) :
      ProxyStep kWakelockTimeoutNs ⟨p, .postEvents subHalIndex events wakelock writeOk,
        (p.postEventsToMessageQueue es (p.mSensors.wakeups es) wakelock.isSome writeOk).2,
        (p.postEventsToMessageQueue es (p.mSensors.wakeups es) wakelock.isSome writeOk).1⟩
  | selected (p : HalProxy) (hwriter : p.writer = .idle)
      (hpending : p.mPendingWriteEventsQueue ≠ []) :
      ProxyStep kWakelockTimeoutNs ⟨p, .select, [], { p with writer := .blocked }⟩
  | wrote (p : HalProxy) (events : List Event) (numWakeupEvents : ℕ)
      (rest : List (List Event × ℕ)) (hwriter : p.writer = .blocked)
      (hfront : p.mPendingWriteEventsQueue = (events, numWakeupEvents) :: rest) :
      ProxyStep kWakelockTimeoutNs ⟨p, .writeBlocking true,
        [.wrote (events.take p.mEventQueue.quantumCount)],
        { p with
          writer := .wrote
          mEventQueue := { p.mEventQueue with
            contents := p.mEventQueue.contents ++ events.take p.mEventQueue.quantumCount } }⟩
  | failed (p : HalProxy) (events : List Event) (numWakeupEvents : ℕ)
      (rest : List (List Event × ℕ)) (hwriter : p.writer = .blocked)
      (hfront : p.mPendingWriteEventsQueue = (events, numWakeupEvents) :: rest) :
      ProxyStep kWakelockTimeoutNs ⟨p, .writeBlocking false,
        [.dropped (events.take p.mEventQueue.quantumCount)], { p with writer := .failed }⟩
  | gaveBack (p : HalProxy) (events : List Event) (numWakeupEvents : ℕ)
      (rest : List (List Event × ℕ)) (table : SensorMap) (hwriter : p.writer = .failed)
      (hfront : p.mPendingWriteEventsQueue = (events, numWakeupEvents) :: rest)
      (htable : table.getSensorInfo = p.mSensors.getSensorInfo) :
      ProxyStep kWakelockTimeoutNs ⟨p, .giveBack, [],
        { p with
          mSensors := table
          wakelock := p.wakelock.decrementRefCountAndMaybeReleaseWakelock
            (p.numGivenBack events numWakeupEvents) (-1)
          writer := .gaveBack }⟩
  | committed (p : HalProxy) (events : List Event) (numWakeupEvents : ℕ)
      (rest : List (List Event × ℕ)) (hwriter : p.writer = .wrote ∨ p.writer = .gaveBack)
      (hfront : p.mPendingWriteEventsQueue = (events, numWakeupEvents) :: rest) :
      ProxyStep kWakelockTimeoutNs ⟨p, .commit, [],
        { p.commit events numWakeupEvents rest with writer := .idle }⟩
  | read (p : HalProxy) (n : ℕ) (hn : n ≤ p.mEventQueue.contents.length) :
      ProxyStep kWakelockTimeoutNs ⟨p, .read n, [.read (p.mEventQueue.contents.take n)],
        { p with mEventQueue := { p.mEventQueue with
          contents := p.mEventQueue.contents.drop n } }⟩
  | acknowledged (p : HalProxy) (n : ℕ) :
      ProxyStep kWakelockTimeoutNs ⟨p, .acknowledge n, [.acknowledged n],
        { p with mWakeLockQueue := p.mWakeLockQueue ++ [n] }⟩
  | timedOut (p : HalProxy) (hpos : 0 < p.wakelock.mWakelockRefCount) :
      ProxyStep kWakelockTimeoutNs ⟨p, .checkTimeout, [.timedOut],
        { p with wakelock := p.wakelock.resetSharedWakelock p.now }⟩
  | woke (p : HalProxy) (hreader : p.reader = .waiting) :
      ProxyStep kWakelockTimeoutNs ⟨p, .checkTimeout, [], { p with reader := .reading }⟩
  | readAck (p : HalProxy) (n : ℕ) (rest : List ℕ) (hreader : p.reader = .reading)
      (hqueue : p.mWakeLockQueue = n :: rest) :
      ProxyStep kWakelockTimeoutNs ⟨p, .readBlocking true, [],
        { p with reader := .acked n, mWakeLockQueue := rest }⟩
  | readNothing (p : HalProxy) (hreader : p.reader = .reading) :
      ProxyStep kWakelockTimeoutNs ⟨p, .readBlocking false, [], { p with reader := .waiting }⟩
  | processed (p : HalProxy) (n : ℕ) (hreader : p.reader = .acked n) :
      ProxyStep kWakelockTimeoutNs ⟨p, .process, [.processed n],
        { p with
          wakelock := p.wakelock.decrementRefCountAndMaybeReleaseWakelock n (-1)
          reader := .waiting }⟩

/-- Every step of the machine is one of these. -/
theorem proxyStep_of_takes {kWakelockTimeoutNs : ℤ} {t : ProxyTransition}
    (h : (proxyMachine kWakelockTimeoutNs).Takes t) : ProxyStep kWakelockTimeoutNs t := by
  obtain ⟨p, l, out, p'⟩ := t
  have hstep : p.step kWakelockTimeoutNs l = some (p', out) := h
  cases l with
  | tick nanos =>
      simp only [HalProxy.step, Option.some.injEq, Prod.mk.injEq] at hstep
      obtain ⟨rfl, rfl⟩ := hstep
      exact .tick p nanos
  | createScopedWakelock =>
      cases hrun : p.wakelock.mThreadsRun with
      | true =>
          simp only [HalProxy.step, SharedWakelock.increment_of_running hrun, if_true,
            Option.some.injEq, Prod.mk.injEq] at hstep
          obtain ⟨rfl, rfl⟩ := hstep
          have hcreated : ProxyStep kWakelockTimeoutNs _ := .created p hrun
          rw [SharedWakelock.increment_of_running hrun] at hcreated
          exact hcreated
      | false =>
          simp only [HalProxy.step, SharedWakelock.incrementRefCountAndMaybeAcquireWakelock,
            hrun, Bool.not_false, if_true, Bool.false_eq_true, if_false, Option.some.injEq,
            Prod.mk.injEq] at hstep
          obtain ⟨rfl, rfl⟩ := hstep
          exact .notCreated p hrun
  | destroyScopedWakelock i =>
      simp only [HalProxy.step] at hstep
      split at hstep
      · simp at hstep
      · rename_i createdAt hi
        simp only [Option.some.injEq, Prod.mk.injEq] at hstep
        obtain ⟨rfl, rfl⟩ := hstep
        exact .destroyed p i createdAt hi
  | postEvents subHalIndex events wakelock writeOk =>
      obtain ⟨hlive, hpost⟩ : (∀ i ∈ wakelock, i < p.scopedWakelocks.length) ∧
          p.postEvents subHalIndex events wakelock.isSome writeOk = (p', out) := by
        cases wakelock with
        | none => exact ⟨by simp, by simpa [HalProxy.step] using hstep⟩
        | some i =>
            simp only [HalProxy.step] at hstep
            split at hstep
            · rename_i hi
              exact ⟨by simpa using hi, by simpa using hstep⟩
            · simp at hstep
      rw [HalProxy.postEvents] at hpost
      split at hpost
      · rename_i hignored
        obtain ⟨rfl, rfl⟩ := Prod.mk.inj hpost
        exact .ignored p subHalIndex events wakelock writeOk (by simpa using hignored)
      · rename_i hgo
        simp only [processEvents_snd] at hpost
        have hposted : ProxyStep kWakelockTimeoutNs _ :=
          .posted p subHalIndex events wakelock writeOk _ rfl
            (fun hnil => hgo (Or.inl (by simp [hnil]))) hlive
        rw [hpost] at hposted
        exact hposted
  | select =>
      simp only [HalProxy.step] at hstep
      split at hstep
      · rename_i hwriter hfront
        simp only [Option.some.injEq, Prod.mk.injEq] at hstep
        obtain ⟨rfl, rfl⟩ := hstep
        exact .selected p hwriter (by simp [hfront])
      · simp at hstep
  | writeBlocking success =>
      simp only [HalProxy.step] at hstep
      split at hstep
      · rename_i events numWakeupEvents rest hwriter hfront
        cases success with
        | true =>
            simp only [if_true] at hstep
            split at hstep
            · simp only [Option.some.injEq, Prod.mk.injEq] at hstep
              obtain ⟨rfl, rfl⟩ := hstep
              exact .wrote p events numWakeupEvents rest hwriter hfront
            · simp at hstep
        | false =>
            simp only [Bool.false_eq_true, if_false, Option.some.injEq, Prod.mk.injEq] at hstep
            obtain ⟨rfl, rfl⟩ := hstep
            exact .failed p events numWakeupEvents rest hwriter hfront
      · simp at hstep
  | giveBack =>
      simp only [HalProxy.step] at hstep
      split at hstep
      · rename_i events numWakeupEvents rest hwriter hfront
        simp only [Option.some.injEq, Prod.mk.injEq] at hstep
        obtain ⟨rfl, rfl⟩ := hstep
        obtain ⟨table, htable, heq⟩ := p.giveBack_eq events numWakeupEvents
        have hgave : ProxyStep kWakelockTimeoutNs _ :=
          .gaveBack p events numWakeupEvents rest table hwriter hfront htable
        rw [heq]
        exact hgave
      · simp at hstep
  | commit =>
      simp only [HalProxy.step] at hstep
      split at hstep
      · simp at hstep
      · rename_i events numWakeupEvents rest hfront
        split at hstep
        · rename_i hwriter
          simp only [Option.some.injEq, Prod.mk.injEq] at hstep
          obtain ⟨rfl, rfl⟩ := hstep
          exact .committed p events numWakeupEvents rest hwriter hfront
        · simp at hstep
  | read n =>
      simp only [HalProxy.step] at hstep
      split at hstep
      · rename_i hn
        simp only [Option.some.injEq, Prod.mk.injEq] at hstep
        obtain ⟨rfl, rfl⟩ := hstep
        exact .read p n hn
      · simp at hstep
  | acknowledge n =>
      simp only [HalProxy.step, Option.some.injEq, Prod.mk.injEq] at hstep
      obtain ⟨rfl, rfl⟩ := hstep
      exact .acknowledged p n
  | checkTimeout =>
      simp only [HalProxy.step] at hstep
      split at hstep
      · rename_i hready
        split at hstep
        · simp only [Option.some.injEq, Prod.mk.injEq] at hstep
          obtain ⟨rfl, rfl⟩ := hstep
          exact .timedOut p hready.2
        · simp only [Option.some.injEq, Prod.mk.injEq] at hstep
          obtain ⟨rfl, rfl⟩ := hstep
          exact .woke p hready.1
      · simp at hstep
  | readBlocking success =>
      simp only [HalProxy.step] at hstep
      split at hstep
      · rename_i hreader
        cases success with
        | true =>
            simp only [if_true] at hstep
            split at hstep
            · simp at hstep
            · rename_i n rest hqueue
              simp only [Option.some.injEq, Prod.mk.injEq] at hstep
              obtain ⟨rfl, rfl⟩ := hstep
              exact .readAck p n rest hreader hqueue
        | false =>
            simp only [Bool.false_eq_true, if_false, Option.some.injEq, Prod.mk.injEq] at hstep
            obtain ⟨rfl, rfl⟩ := hstep
            exact .readNothing p hreader
      · simp at hstep
  | process =>
      simp only [HalProxy.step] at hstep
      split at hstep
      · rename_i n hreader
        simp only [Option.some.injEq, Prod.mk.injEq] at hstep
        obtain ⟨rfl, rfl⟩ := hstep
        exact .processed p n hreader
      · simp at hstep

/-! ## What a post does -/

/-- A post writes all it has, leaves some to the pending-writes thread, or drops
some. -/
theorem HalProxy.postEventsToMessageQueue_cases (p : HalProxy) (es : List Event) (num : ℕ)
    (locked writeOk : Bool) :
    (es.drop (p.numToWrite es writeOk) = [] ∧
      p.postEventsToMessageQueue es num locked writeOk =
        (p.writeDirectly es num locked writeOk,
          [.posted es, .wrote (es.take (p.numToWrite es writeOk))])) ∨
    (es.drop (p.numToWrite es writeOk) ≠ [] ∧
      p.postEventsToMessageQueue es num locked writeOk =
        ((p.writeDirectly es num locked writeOk).push (es.drop (p.numToWrite es writeOk)) num,
          [.posted es, .wrote (es.take (p.numToWrite es writeOk))])) ∨
    (kMaxSizePendingWriteEventsQueue <
        p.mSizePendingWriteEventsQueue + (es.drop (p.numToWrite es writeOk)).length ∧
      p.postEventsToMessageQueue es num locked writeOk =
        (p.writeDirectly es num locked writeOk,
          [.posted es, .wrote (es.take (p.numToWrite es writeOk)),
            .refused (es.drop (p.numToWrite es writeOk))])) := by
  unfold HalProxy.postEventsToMessageQueue
  simp only
  split
  · rename_i hlt
    split
    · rename_i hroom
      refine Or.inr (Or.inl ⟨?_, rfl⟩)
      intro hnil
      rw [List.drop_eq_nil_iff] at hnil
      omega
    · rename_i hroom
      refine Or.inr (Or.inr ⟨?_, rfl⟩)
      rw [List.length_drop]
      exact Nat.lt_of_not_le hroom
  · rename_i hlt
    refine Or.inl ⟨?_, rfl⟩
    rw [List.drop_eq_nil_iff]
    omega

/-- A post takes its references, whatever becomes of its events. -/
theorem HalProxy.wakelock_postEventsToMessageQueue (p : HalProxy) (es : List Event) (num : ℕ)
    (locked writeOk : Bool) :
    (p.postEventsToMessageQueue es num locked writeOk).1.wakelock =
      if locked then (p.wakelock.incrementRefCountAndMaybeAcquireWakelock num p.now).2
      else p.wakelock := by
  rcases p.postEventsToMessageQueue_cases es num locked writeOk with ⟨-, h⟩ | ⟨-, h⟩ | ⟨-, h⟩ <;>
    rw [h] <;> rfl

/-- What a post leaves alone. -/
theorem HalProxy.frame_postEventsToMessageQueue (p : HalProxy) (es : List Event) (num : ℕ)
    (locked writeOk : Bool) :
    (p.postEventsToMessageQueue es num locked writeOk).1.mSensors = p.mSensors ∧
    (p.postEventsToMessageQueue es num locked writeOk).1.scopedWakelocks = p.scopedWakelocks ∧
    (p.postEventsToMessageQueue es num locked writeOk).1.now = p.now := by
  rcases p.postEventsToMessageQueue_cases es num locked writeOk with ⟨-, h⟩ | ⟨-, h⟩ | ⟨-, h⟩ <;>
    rw [h] <;> exact ⟨rfl, rfl, rfl⟩

end Sensors
