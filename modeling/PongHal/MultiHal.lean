/-
# The sensors HAL across its clients (`HalProxy.cpp`)

A client of the framework calls `initialize` before anything else; after a crash the
next client calls it again, and `initializeCommon` has to leave nothing of the former
one: it stops the two threads and waits for their end, disables all sensors, clears
what is pending and connected, starts the threads again with the new queues, and
initialises the sub-HALs.

`multiMachine` puts the proxy and its threads into this frame.  The call of
`initialize` is several steps, between which everything else goes on as it can:
`mThreadsRun` is set to false, each thread runs to its end, what is pending is cleared,
the queues are exchanged, the threads are started, and, the sub-HALs being initialised,
the call returns.

`reinitialised_clean_iff`: the queue, the dynamic sensors and the operation mode are
always those of a new proxy, the shared wakelock is not.  `resetSharedWakelock` is
called twice, by the wakelock thread at its end and by `initializeCommon`, both times
after `mThreadsRun` was set to false, and then
`decrementRefCountAndMaybeReleaseWakelock` returns at once.
-/
import PongHal.SensorRouting
import PongHal.WakelockHeld

namespace Sensors

/-- Where the client's thread is in `initializeCommon`. -/
inductive Initializing
  /-- No call is running. -/
  | no
  /-- In `stopThreads`, waiting for the threads' end. -/
  | stopThreads
  /-- Behind the clearing of what was pending and connected. -/
  | cleared
  /-- Behind the exchange of the queues. -/
  | exchanged
  /-- In the loop that initialises the sub-HALs. -/
  | subHals
  deriving DecidableEq, Repr

/-- Before `mThreadsRun` is set to true. -/
def Initializing.halted : Initializing → Bool
  | .stopThreads | .cleared | .exchanged => true
  | .no | .subHals => false

/-- After the clearing. -/
def Initializing.hasCleared : Initializing → Bool
  | .cleared | .exchanged | .subHals => true
  | .no | .stopThreads => false

/-- The proxy with its sub-HALs, what `HalProxy` leaves out of its members, and
whether the two threads exist. -/
structure MultiHal where
  mSubHalList : List SubHal
  proxy : HalProxy
  mDynamicSensors : SensorMap
  mCurrentOperationMode : OperationMode
  /-- `mEventQueue` and `mWakeLockQueue` are not null. -/
  hasQueues : Bool
  mPendingWritesThread : Bool
  mWakelockThread : Bool
  initializing : Initializing

/-- What can be seen of a step: what can be seen of the proxy's, the events that
`stopThreads` takes out of the event FMQ, what the calls that disable the sensors
come to, the calls of `setOperationMode` and its result, and what the client is told
about dynamic sensors. -/
inductive MultiObservation
  | proxy (seen : Observation)
  | drained (events : List Event)
  | disabled (outcomes : List Outcome)
  | operationMode (calls : List (ℕ × OperationMode)) (result : Result)
  | dynamicSensorsConnected (sensors : List SensorInfo)
  | dynamicSensorsDisconnected (sensorHandles : List Int32)
  deriving DecidableEq, Repr

/-- The steps: those of the proxy, the calls of the client and of the sub-HALs, and
the parts of `initializeCommon`. -/
inductive MultiLabel
  | proxy (l : ProxyLabel)
  /-- `answers` are what the sub-HALs answer. -/
  | setOperationMode (mode : OperationMode) (answers : List Result)
  | onDynamicSensorsConnected (dynamicSensorsAdded : List SensorInfo) (subHalIndex : ℕ)
  | onDynamicSensorsDisconnected (dynamicSensorHandlesRemoved : List Int32) (subHalIndex : ℕ)
  /-- `initialize` or `initialize_2_1` is called; `mThreadsRun` is set to false. -/
  | initializeCommon
  | pendingWritesThreadEnds
  | wakelockThreadEnds
  /-- Both threads are joined; the sensors are disabled, and what is pending or connected
  is cleared. -/
  | clearPendingWrites
  /-- The queues are exchanged for those of the client, an event FMQ of `quantumCount`
  places. -/
  | exchangeQueues (quantumCount : ℕ)
  /-- `mThreadsRun` is set to true and the threads are started. -/
  | startThreads
  /-- The call of `initialize` returns. -/
  | initialized
  deriving DecidableEq, Repr

/-! ## The calls -/

/-- The body of the loop of `onDynamicSensorsConnected`: the table, and the sensors the
client is told about. -/
def connectDynamicSensor (subHalIndex : ℕ) (acc : SensorMap × List SensorInfo)
    (sensor : SensorInfo) : SensorMap × List SensorInfo :=
  if !subHalIndexIsClear sensor.sensorHandle then acc
  else
    let sensor :=
      { sensor with sensorHandle := HalProxy.setSubHalIndex sensor.sensorHandle subHalIndex }
    (acc.1.insert sensor.sensorHandle sensor, acc.2 ++ [sensor])

/-- `HalProxy::onDynamicSensorsConnected`. -/
def onDynamicSensorsConnected (mDynamicSensors : SensorMap)
    (dynamicSensorsAdded : List SensorInfo) (subHalIndex : ℕ) : SensorMap × List SensorInfo :=
  dynamicSensorsAdded.foldl (connectDynamicSensor subHalIndex) (mDynamicSensors, [])

/-- The body of the loop of `onDynamicSensorsDisconnected`. -/
def disconnectDynamicSensor (subHalIndex : ℕ) (acc : SensorMap × List Int32)
    (sensorHandle : Int32) : SensorMap × List Int32 :=
  if !subHalIndexIsClear sensorHandle then acc
  else
    let sensorHandle := HalProxy.setSubHalIndex sensorHandle subHalIndex
    if acc.1.contains sensorHandle then (acc.1.erase sensorHandle, acc.2 ++ [sensorHandle])
    else acc

/-- `HalProxy::onDynamicSensorsDisconnected`. -/
def onDynamicSensorsDisconnected (mDynamicSensors : SensorMap)
    (dynamicSensorHandlesRemoved : List Int32) (subHalIndex : ℕ) : SensorMap × List Int32 :=
  dynamicSensorHandlesRemoved.foldl (disconnectDynamicSensor subHalIndex) (mDynamicSensors, [])

/-- `HalProxy::setOperationMode`, with what the sub-HALs answer: the mode after it, the
calls of the sub-HALs and the result. -/
def setOperationMode (mCurrentOperationMode mode : OperationMode) (answers : List Result) :
    OperationMode × List (ℕ × OperationMode) × Result :=
  -- the loop stops at the first sub-HAL that refuses
  let subHalIndex := (answers.takeWhile (· == .ok)).length
  match answers[subHalIndex]? with
  | none => (mode, (List.range subHalIndex).map (·, mode), .ok)
  | some result =>
      (mCurrentOperationMode,
        (List.range (subHalIndex + 1)).map (·, mode) ++
          (List.range subHalIndex).map (·, mCurrentOperationMode), result)

namespace MultiHal

/-- `HalProxy::disableAllSensors`. -/
def disableAllSensors (p : MultiHal) : List Outcome :=
  (p.proxy.mSensors.keys ++ p.mDynamicSensors.keys).map fun sensorHandle =>
    activate p.mSubHalList sensorHandle false

/-- The proxy just constructed.  Nothing looks at `mThreadsRun` or at the wakelock
before the first call of `initialize`. -/
def construct (mSubHalList : List SubHal) (now : ℕ) : MultiHal where
  mSubHalList := mSubHalList
  proxy :=
    { HalProxy.init (initializeSensorList mSubHalList).mSensors 0 now with
      wakelock := { SharedWakelock.init 0 with mThreadsRun := false } }
  mDynamicSensors := ∅
  mCurrentOperationMode := .normal
  hasQueues := false
  mPendingWritesThread := false
  mWakelockThread := false
  initializing := .no

/-- Whether the proxy can take a step: its threads exist and look at `mThreadsRun`
before each round of their loops, and sub-HALs and framework know the proxy once it
was initialised. -/
def canTake (p : MultiHal) : ProxyLabel → Bool
  | .tick _ => true
  | .createScopedWakelock | .destroyScopedWakelock _ | .postEvents .. | .read _ | .acknowledge _ =>
      p.hasQueues
  | .select => p.mPendingWritesThread && p.proxy.wakelock.mThreadsRun
  | .writeBlocking _ | .giveBack | .commit => p.mPendingWritesThread
  | .checkTimeout => p.mWakelockThread && p.proxy.wakelock.mThreadsRun
  | .readBlocking _ | .process => p.mWakelockThread

/-- `HalProxy::stopThreads` up to the first `join`: the event FMQ is emptied and an
empty acknowledgement written, so that no thread stays blocked. -/
def stopThreads (p : MultiHal) : MultiHal :=
  { p with
    proxy := { p.proxy with
      wakelock := { p.proxy.wakelock with mThreadsRun := false }
      mEventQueue := { p.proxy.mEventQueue with contents := [] }
      mWakeLockQueue :=
        if p.hasQueues then p.proxy.mWakeLockQueue ++ [0] else p.proxy.mWakeLockQueue }
    initializing := .stopThreads }

/-- `initializeCommon` from the end of `stopThreads` to the clearing of
`mDynamicSensors`. -/
def clearPendingWrites (p : MultiHal) : MultiHal :=
  -- `mThreadsRun` is still false here
  let wakelock := p.proxy.wakelock.resetSharedWakelock p.proxy.now
  { p with
    proxy := { p.proxy with
      wakelock := wakelock
      mPendingWriteEventsQueue := []
      mSizePendingWriteEventsQueue := 0 }
    mDynamicSensors := ∅
    initializing := .cleared }

/-- `initializeCommon` from there to `mThreadsRun.store`.  Nothing is locked: a call of
`postEventsToMessageQueue` may have come in between, or may come now. -/
def exchangeQueues (p : MultiHal) (quantumCount : ℕ) : MultiHal :=
  { p with
    proxy := { p.proxy with
      mEventQueue := ⟨quantumCount, []⟩
      mWakeLockQueue := [] }
    hasQueues := true
    initializing := .exchanged }

/-- `initializeCommon` from there to the start of the threads. -/
def startThreads (p : MultiHal) : MultiHal :=
  { p with
    proxy := { p.proxy with
      wakelock := { p.proxy.wakelock with mThreadsRun := true }
      writer := .idle
      reader := .waiting }
    mPendingWritesThread := true
    mWakelockThread := true
    initializing := .subHals }

/-- One step. -/
def step (kWakelockTimeoutNs : ℤ) (p : MultiHal) :
    MultiLabel → Option (MultiHal × List MultiObservation)
  | .proxy l =>
      if p.canTake l then
        (p.proxy.step kWakelockTimeoutNs l).map fun r =>
          ({ p with proxy := r.1 }, r.2.map .proxy)
      else none
  | .setOperationMode mode answers =>
      -- the service has one thread for its client's calls
      if p.initializing = .no ∧ answers.length = p.mSubHalList.length then
        let r := Sensors.setOperationMode p.mCurrentOperationMode mode answers
        some ({ p with mCurrentOperationMode := r.1 }, [.operationMode r.2.1 r.2.2])
      else none
  | .onDynamicSensorsConnected dynamicSensorsAdded subHalIndex =>
      if p.hasQueues then
        let r := Sensors.onDynamicSensorsConnected p.mDynamicSensors dynamicSensorsAdded
          subHalIndex
        some ({ p with mDynamicSensors := r.1 }, [.dynamicSensorsConnected r.2])
      else none
  | .onDynamicSensorsDisconnected dynamicSensorHandlesRemoved subHalIndex =>
      if p.hasQueues then
        let r := Sensors.onDynamicSensorsDisconnected p.mDynamicSensors
          dynamicSensorHandlesRemoved subHalIndex
        some ({ p with mDynamicSensors := r.1 }, [.dynamicSensorsDisconnected r.2])
      else none
  | .initializeCommon =>
      if p.initializing = .no then
        some (p.stopThreads, [.drained p.proxy.mEventQueue.contents])
      else none
  | .pendingWritesThreadEnds =>
      -- only between two rounds of its loop
      if p.mPendingWritesThread ∧ !p.proxy.wakelock.mThreadsRun ∧ p.proxy.writer = .idle then
        some ({ p with mPendingWritesThread := false }, [])
      else none
  | .wakelockThreadEnds =>
      if p.mWakelockThread ∧ !p.proxy.wakelock.mThreadsRun ∧ p.proxy.reader = .waiting then
        -- the call of `resetSharedWakelock` behind the loop of `handleWakelocks`
        let wakelock := p.proxy.wakelock.resetSharedWakelock p.proxy.now
        some ({ p with
          proxy := { p.proxy with wakelock := wakelock }
          mWakelockThread := false }, [])
      else none
  | .clearPendingWrites =>
      if p.initializing = .stopThreads ∧ !p.mPendingWritesThread ∧ !p.mWakelockThread then
        some (p.clearPendingWrites, [.disabled p.disableAllSensors])
      else none
  | .exchangeQueues quantumCount =>
      if p.initializing = .cleared then some (p.exchangeQueues quantumCount, []) else none
  | .startThreads =>
      if p.initializing = .exchanged then some (p.startThreads, []) else none
  | .initialized =>
      if p.initializing = .subHals then
        some ({ p with
          mCurrentOperationMode := .normal
          initializing := .no }, [])
      else none

end MultiHal

/-- The machine of the HAL. -/
def multiMachine (kWakelockTimeoutNs : ℤ) : Machine MultiHal MultiLabel MultiObservation where
  step := MultiHal.step kWakelockTimeoutNs

/-- A step of the HAL's run. -/
abbrev MultiTransition := Transition MultiHal MultiLabel MultiObservation

variable {kWakelockTimeoutNs : ℤ}

/-! ## The steps, by cases -/

/-- The steps of the HAL, one constructor for each thing that can happen. -/
inductive MultiStep (kWakelockTimeoutNs : ℤ) : MultiTransition → Prop
  | proxy (p : MultiHal) (t : ProxyTransition) (hpre : t.pre = p.proxy)
      (hcan : p.canTake t.label = true) (hstep : (proxyMachine kWakelockTimeoutNs).Takes t) :
      MultiStep kWakelockTimeoutNs
        ⟨p, .proxy t.label, t.out.map .proxy, { p with proxy := t.post }⟩
  | setOperationMode (p : MultiHal) (mode : OperationMode) (answers : List Result)
      (hno : p.initializing = .no) :
      MultiStep kWakelockTimeoutNs
        ⟨p, .setOperationMode mode answers,
          [.operationMode (setOperationMode p.mCurrentOperationMode mode answers).2.1
            (setOperationMode p.mCurrentOperationMode mode answers).2.2],
          { p with
            mCurrentOperationMode := (setOperationMode p.mCurrentOperationMode mode answers).1 }⟩
  | connected (p : MultiHal) (sensors : List SensorInfo) (subHalIndex : ℕ) :
      MultiStep kWakelockTimeoutNs
        ⟨p, .onDynamicSensorsConnected sensors subHalIndex,
          [.dynamicSensorsConnected
            (onDynamicSensorsConnected p.mDynamicSensors sensors subHalIndex).2],
          { p with
            mDynamicSensors :=
              (onDynamicSensorsConnected p.mDynamicSensors sensors subHalIndex).1 }⟩
  | disconnected (p : MultiHal) (handles : List Int32) (subHalIndex : ℕ) :
      MultiStep kWakelockTimeoutNs
        ⟨p, .onDynamicSensorsDisconnected handles subHalIndex,
          [.dynamicSensorsDisconnected
            (onDynamicSensorsDisconnected p.mDynamicSensors handles subHalIndex).2],
          { p with
            mDynamicSensors :=
              (onDynamicSensorsDisconnected p.mDynamicSensors handles subHalIndex).1 }⟩
  | called (p : MultiHal) (hno : p.initializing = .no) :
      MultiStep kWakelockTimeoutNs
        ⟨p, .initializeCommon, [.drained p.proxy.mEventQueue.contents], p.stopThreads⟩
  | pendingWritesThreadEnded (p : MultiHal) (hidle : p.proxy.writer = .idle) :
      MultiStep kWakelockTimeoutNs
        ⟨p, .pendingWritesThreadEnds, [], { p with mPendingWritesThread := false }⟩
  | wakelockThreadEnded (p : MultiHal) (hstopped : p.proxy.wakelock.mThreadsRun = false) :
      MultiStep kWakelockTimeoutNs
        ⟨p, .wakelockThreadEnds, [],
          { p with
            proxy := { p.proxy with
              wakelock := p.proxy.wakelock.resetSharedWakelock p.proxy.now }
            mWakelockThread := false }⟩
  | cleared (p : MultiHal) (hstopped : p.initializing = .stopThreads)
      (hjoined : p.mPendingWritesThread = false) :
      MultiStep kWakelockTimeoutNs
        ⟨p, .clearPendingWrites, [.disabled p.disableAllSensors], p.clearPendingWrites⟩
  | exchanged (p : MultiHal) (quantumCount : ℕ) (hcleared : p.initializing = .cleared) :
      MultiStep kWakelockTimeoutNs
        ⟨p, .exchangeQueues quantumCount, [], p.exchangeQueues quantumCount⟩
  | threadsStarted (p : MultiHal) (hexchanged : p.initializing = .exchanged) :
      MultiStep kWakelockTimeoutNs ⟨p, .startThreads, [], p.startThreads⟩
  | returned (p : MultiHal) (hsubHals : p.initializing = .subHals) :
      MultiStep kWakelockTimeoutNs
        ⟨p, .initialized, [],
          { p with
            mCurrentOperationMode := .normal
            initializing := .no }⟩

/-- Every step of the machine is one of these. -/
theorem multiStep_of_takes {t : MultiTransition} (h : (multiMachine kWakelockTimeoutNs).Takes t) :
    MultiStep kWakelockTimeoutNs t := by
  obtain ⟨p, l, out, p'⟩ := t
  have hstep : p.step kWakelockTimeoutNs l = some (p', out) := h
  cases l with
  | proxy l =>
      simp only [MultiHal.step, Option.ite_none_right_eq_some, Option.map_eq_some_iff] at hstep
      obtain ⟨hcan, ⟨q, seen⟩, hproxy, hr⟩ := hstep
      obtain ⟨rfl, rfl⟩ := Prod.mk.inj hr
      exact .proxy p ⟨p.proxy, l, seen, q⟩ rfl hcan hproxy
  | setOperationMode mode answers =>
      simp only [MultiHal.step, Option.ite_none_right_eq_some, Option.some.injEq,
        Prod.mk.injEq] at hstep
      obtain ⟨⟨hno, -⟩, rfl, rfl⟩ := hstep
      exact .setOperationMode p mode answers hno
  | onDynamicSensorsConnected sensors subHalIndex =>
      simp only [MultiHal.step, Option.ite_none_right_eq_some, Option.some.injEq,
        Prod.mk.injEq] at hstep
      obtain ⟨-, rfl, rfl⟩ := hstep
      exact .connected p sensors subHalIndex
  | onDynamicSensorsDisconnected handles subHalIndex =>
      simp only [MultiHal.step, Option.ite_none_right_eq_some, Option.some.injEq,
        Prod.mk.injEq] at hstep
      obtain ⟨-, rfl, rfl⟩ := hstep
      exact .disconnected p handles subHalIndex
  | initializeCommon =>
      simp only [MultiHal.step, Option.ite_none_right_eq_some, Option.some.injEq,
        Prod.mk.injEq] at hstep
      obtain ⟨hno, rfl, rfl⟩ := hstep
      exact .called p hno
  | pendingWritesThreadEnds =>
      simp only [MultiHal.step, Option.ite_none_right_eq_some, Option.some.injEq,
        Prod.mk.injEq] at hstep
      obtain ⟨⟨-, -, hidle⟩, rfl, rfl⟩ := hstep
      exact .pendingWritesThreadEnded p hidle
  | wakelockThreadEnds =>
      simp only [MultiHal.step, Option.ite_none_right_eq_some, Option.some.injEq,
        Prod.mk.injEq] at hstep
      obtain ⟨⟨-, hstopped, -⟩, rfl, rfl⟩ := hstep
      exact .wakelockThreadEnded p (by simpa using hstopped)
  | clearPendingWrites =>
      simp only [MultiHal.step, Option.ite_none_right_eq_some, Option.some.injEq,
        Prod.mk.injEq] at hstep
      obtain ⟨⟨hstopped, hjoined, -⟩, rfl, rfl⟩ := hstep
      exact .cleared p hstopped (by simpa using hjoined)
  | exchangeQueues quantumCount =>
      simp only [MultiHal.step, Option.ite_none_right_eq_some, Option.some.injEq,
        Prod.mk.injEq] at hstep
      obtain ⟨hcleared, rfl, rfl⟩ := hstep
      exact .exchanged p quantumCount hcleared
  | startThreads =>
      simp only [MultiHal.step, Option.ite_none_right_eq_some, Option.some.injEq,
        Prod.mk.injEq] at hstep
      obtain ⟨hexchanged, rfl, rfl⟩ := hstep
      exact .threadsStarted p hexchanged
  | initialized =>
      simp only [MultiHal.step, Option.ite_none_right_eq_some, Option.some.injEq,
        Prod.mk.injEq] at hstep
      obtain ⟨hsubHals, rfl, rfl⟩ := hstep
      exact .returned p hsubHals

/-! ## What a call of `initialize` is to leave behind -/

/-- The count is zero and the kernel's lock released. -/
def SharedWakelock.Idle (w : SharedWakelock) : Prop :=
  w.mWakelockRefCount = 0 ∧ w.held = false

/-- `delta` references are all there are, and they can be given back: the threads are to
run, and the references are not older than the last reset. -/
def SharedWakelock.Last (w : SharedWakelock) (delta : ℕ) (timeoutStart : ℤ) : Prop :=
  w.mThreadsRun = true ∧ 0 < w.mWakelockRefCount ∧ w.mWakelockRefCount ≤ delta ∧
    (timeoutStart = -1 ∨ w.mWakelockTimeoutResetTime ≤ timeoutStart)

instance (w : SharedWakelock) : Decidable w.Idle := inferInstanceAs (Decidable (_ ∧ _))

instance (w : SharedWakelock) (delta : ℕ) (timeoutStart : ℤ) :
    Decidable (w.Last delta timeoutStart) :=
  inferInstanceAs (Decidable (_ ∧ _ ∧ _ ∧ _))

/-- The references that a step of the proxy asks to give back, and the time from which
they have been held (-1 for any time). -/
def HalProxy.givenBack (kWakelockTimeoutNs : ℤ) (p : HalProxy) : ProxyLabel → Option (ℕ × ℤ)
  | .destroyScopedWakelock i => p.scopedWakelocks[i]?.map fun createdAt => (1, createdAt)
  | .giveBack => p.mPendingWriteEventsQueue.head?.map fun front =>
      (p.numGivenBack front.1 front.2, -1)
  | .checkTimeout =>
      if (p.wakelock.sharedWakelockDidTimeout kWakelockTimeoutNs p.now).1 then
        some (p.wakelock.mWakelockRefCount, -1)
      else none
  | .process =>
      match p.reader with
      | .acked n => some (n, -1)
      | _ => none
  | _ => none

/-- The step asks to give the last references back, and can. -/
def HalProxy.LastGivenBack (kWakelockTimeoutNs : ℤ) (p : HalProxy) (l : ProxyLabel) : Prop :=
  ∃ given ∈ p.givenBack kWakelockTimeoutNs l, p.wakelock.Last given.1 given.2

instance (kWakelockTimeoutNs : ℤ) (p : HalProxy) (l : ProxyLabel) :
    Decidable (p.LastGivenBack kWakelockTimeoutNs l) :=
  inferInstanceAs (Decidable (∃ given ∈ p.givenBack kWakelockTimeoutNs l, _))

namespace MultiHal

/-- Nothing is pending and no dynamic sensor connected. -/
def Fresh (p : MultiHal) : Prop :=
  p.proxy.mPendingWriteEventsQueue = [] ∧ p.proxy.mSizePendingWriteEventsQueue = 0 ∧
    p.mDynamicSensors.isEmpty = true

/-- Nothing is left of the former client. -/
def Clean (p : MultiHal) : Prop :=
  p.Fresh ∧ p.mCurrentOperationMode = .normal ∧ p.proxy.wakelock.Idle

instance (p : MultiHal) : Decidable p.Fresh := inferInstanceAs (Decidable (_ ∧ _ ∧ _))

instance (p : MultiHal) : Decidable p.Clean := inferInstanceAs (Decidable (_ ∧ _ ∧ _))

/-- The flag is off until the threads are started. -/
def Halted (p : MultiHal) : Prop :=
  p.initializing.halted = true → p.proxy.wakelock.mThreadsRun = false

/-- What holds during a call without posts and connections: the flag is off until the
threads are started, and the state is fresh from the clearing on. -/
def Reinitialising (p : MultiHal) : Prop :=
  p.Halted ∧ (p.initializing.hasCleared = true → p.Fresh)

end MultiHal

/-- A sub-HAL neither posts events nor connects dynamic sensors. -/
def MultiLabel.quiet : MultiLabel → Bool
  | .proxy (.postEvents ..) | .onDynamicSensorsConnected .. => false
  | _ => true

/-- A sub-HAL gets a locked wakelock. -/
def MultiTransition.TakesReference (t : MultiTransition) : Prop :=
  t.label = .proxy .createScopedWakelock ∧ t.pre.proxy.wakelock.mThreadsRun = true

instance (t : MultiTransition) : Decidable t.TakesReference := inferInstanceAs (Decidable (_ ∧ _))

/-- The step gives the last references of the wakelock back. -/
def MultiTransition.GivesLastBack (kWakelockTimeoutNs : ℤ) (t : MultiTransition) : Prop :=
  ∃ l, t.label = .proxy l ∧ t.pre.proxy.LastGivenBack kWakelockTimeoutNs l

/-! ## The wakelock in one step -/

namespace SharedWakelock

variable {w : SharedWakelock}

/-- Once the threads are to stop, no reference is given back. -/
theorem decrement_of_not_running (h : w.mThreadsRun = false) (delta : ℕ) (timeoutStart : ℤ) :
    w.decrementRefCountAndMaybeReleaseWakelock delta timeoutStart = w := by
  simp [decrementRefCountAndMaybeReleaseWakelock, h]

/-- Nor are references older than the last reset. -/
theorem decrement_of_old {timeoutStart : ℤ}
    (hold : ¬ (timeoutStart = -1 ∨ w.mWakelockTimeoutResetTime ≤ timeoutStart)) (delta : ℕ) :
    w.decrementRefCountAndMaybeReleaseWakelock delta timeoutStart = w := by
  obtain ⟨hne, hlt⟩ := not_or.1 hold
  simp [decrementRefCountAndMaybeReleaseWakelock, hne, not_le.1 hlt]

/-- After references were given back the lock is idle exactly if these were the last, or
if it was idle before. -/
theorem idle_decrement_iff (w : SharedWakelock) (delta : ℕ) (timeoutStart : ℤ) :
    (w.decrementRefCountAndMaybeReleaseWakelock delta timeoutStart).Idle ↔
      w.Last delta timeoutStart ∨ w.Idle := by
  cases hrun : w.mThreadsRun with
  | false =>
      rw [decrement_of_not_running hrun, Last]
      simp [hrun]
  | true =>
      by_cases hstart : timeoutStart = -1 ∨ w.mWakelockTimeoutResetTime ≤ timeoutStart
      · have hcount := mWakelockRefCount_decrement hrun delta timeoutStart hstart
        rcases w.decrement_cases delta timeoutStart with h | ⟨hpos, h⟩
        · rw [h] at hcount ⊢
          exact ⟨.inr, fun hidle => hidle.resolve_left fun ⟨_, hpos, hle, _⟩ => by omega⟩
        · rw [h]
          simp only [Idle, Last, hrun, hpos, hstart, true_and, and_true]
          constructor
          · rintro ⟨hzero, -⟩
            exact .inl (by omega)
          · rintro (hle | ⟨hzero, -⟩)
            · have hnone : w.mWakelockRefCount - delta = 0 := by omega
              exact ⟨hnone, by simp [hnone]⟩
            · omega
      · rw [decrement_of_old hstart]
        exact ⟨.inr, fun hidle => hidle.resolve_left fun hlast => hstart hlast.2.2.2⟩

theorem idle_reset_iff (w : SharedWakelock) (now : ℤ) :
    (w.resetSharedWakelock now).Idle ↔ w.Last w.mWakelockRefCount (-1) ∨ w.Idle :=
  w.idle_decrement_iff w.mWakelockRefCount (-1)

theorem not_idle_increment (h : w.mThreadsRun = true) (now : ℤ) :
    ¬ (w.incrementRefCountAndMaybeAcquireWakelock 1 now).2.Idle := by
  rintro ⟨hzero, -⟩
  rw [mWakelockRefCount_increment h] at hzero
  omega

/-- A reset changes nothing but its time once the threads are to stop. -/
theorem reset_of_not_running (h : w.mThreadsRun = false) (now : ℤ) :
    w.resetSharedWakelock now = { w with mWakelockTimeoutResetTime := now } := by
  rw [resetSharedWakelock, decrement_of_not_running h]

end SharedWakelock

/-- Whether the wakelock's thread finds that it has timed out. -/
theorem timedOut_mem_iff {t : ProxyTransition} (h : (proxyMachine kWakelockTimeoutNs).Takes t)
    (hlabel : t.label = .checkTimeout) :
    .timedOut ∈ t.out ↔
      (t.pre.wakelock.sharedWakelockDidTimeout kWakelockTimeoutNs t.pre.now).1 = true := by
  obtain ⟨p, l, out, p'⟩ := t
  obtain rfl : l = .checkTimeout := hlabel
  have hstep : p.step kWakelockTimeoutNs .checkTimeout = some (p', out) := h
  simp only [HalProxy.step] at hstep
  split at hstep
  · split at hstep
    · rename_i htimeout
      simp only [Option.some.injEq, Prod.mk.injEq] at hstep
      simp [← hstep.2, htimeout]
    · rename_i htimeout
      simp only [Option.some.injEq, Prod.mk.injEq] at hstep
      simp [← hstep.2, htimeout]
  · simp at hstep

theorem idle_iff_of_wakelock_eq {t : ProxyTransition} (hlabel : t.label ≠ .createScopedWakelock)
    (hnone : t.pre.givenBack kWakelockTimeoutNs t.label = none)
    (hwakelock : t.post.wakelock = t.pre.wakelock) :
    t.post.wakelock.Idle ↔
      t.pre.LastGivenBack kWakelockTimeoutNs t.label ∨
      (t.pre.wakelock.Idle ∧
        ¬ (t.label = .createScopedWakelock ∧ t.pre.wakelock.mThreadsRun = true)) := by
  simp [hwakelock, HalProxy.LastGivenBack, hnone, hlabel]

/-- A step that gives references back leaves the lock idle exactly if they are the last,
or if the lock was idle. -/
theorem idle_iff_of_givenBack {t : ProxyTransition} (given : ℕ × ℤ)
    (hlabel : t.label ≠ .createScopedWakelock)
    (hgiven : t.pre.givenBack kWakelockTimeoutNs t.label = some given)
    (hidle : t.post.wakelock.Idle ↔ t.pre.wakelock.Last given.1 given.2 ∨ t.pre.wakelock.Idle) :
    t.post.wakelock.Idle ↔
      t.pre.LastGivenBack kWakelockTimeoutNs t.label ∨
      (t.pre.wakelock.Idle ∧
        ¬ (t.label = .createScopedWakelock ∧ t.pre.wakelock.mThreadsRun = true)) := by
  rw [hidle]
  simp [HalProxy.LastGivenBack, hgiven, hlabel]

/-- A step of the proxy, no post, leaves the lock idle exactly if it gives the last
references back, or if the lock was idle and no wakelock was created. -/
theorem idle_proxyStep_iff {t : ProxyTransition} (h : (proxyMachine kWakelockTimeoutNs).Takes t)
    (hquiet : (MultiLabel.proxy t.label).quiet = true) :
    t.post.wakelock.Idle ↔
      t.pre.LastGivenBack kWakelockTimeoutNs t.label ∨
      (t.pre.wakelock.Idle ∧
        ¬ (t.label = .createScopedWakelock ∧ t.pre.wakelock.mThreadsRun = true)) := by
  have htimeout := timedOut_mem_iff h
  cases proxyStep_of_takes h with
  | created p hrun =>
      have hnot := SharedWakelock.not_idle_increment hrun p.now
      simp [HalProxy.LastGivenBack, HalProxy.givenBack, hnot, hrun]
  | notCreated p hrun => simp [HalProxy.LastGivenBack, HalProxy.givenBack, hrun]
  | destroyed p i createdAt hi =>
      exact idle_iff_of_givenBack (1, createdAt) (by simp) (by simp [HalProxy.givenBack, hi])
        (p.wakelock.idle_decrement_iff 1 createdAt)
  | gaveBack p events num rest table hwriter hfront htable =>
      exact idle_iff_of_givenBack (p.numGivenBack events num, -1) (by simp)
        (by simp [HalProxy.givenBack, hfront])
        (p.wakelock.idle_decrement_iff (p.numGivenBack events num) (-1))
  | processed p n hreader =>
      exact idle_iff_of_givenBack (n, -1) (by simp) (by simp [HalProxy.givenBack, hreader])
        (p.wakelock.idle_decrement_iff n (-1))
  | timedOut p hpos =>
      have hdid := (htimeout rfl).1 (by simp)
      exact idle_iff_of_givenBack (p.wakelock.mWakelockRefCount, -1) (by simp)
        (by simp [HalProxy.givenBack, hdid])
        (p.wakelock.idle_reset_iff p.now)
  | woke p hreader =>
      have hdid := mt (htimeout rfl).2 (by simp)
      exact idle_iff_of_wakelock_eq (by simp) (by simp [HalProxy.givenBack, hdid]) rfl
  | ignored p i events wakelock writeOk hignored => simp [MultiLabel.quiet] at hquiet
  | posted p i events wakelock writeOk es hes hne hlive => simp [MultiLabel.quiet] at hquiet
  | tick | selected | wrote | failed | committed | read | acknowledged | readAck | readNothing =>
      exact idle_iff_of_wakelock_eq (by simp) rfl rfl

/-! ## The sensors in a call -/

/-- A sensor of the table is disabled at its sub-HAL. -/
theorem MultiHal.mem_disableAllSensors {p : MultiHal} (hsize : p.mSubHalList.length ≤ 128)
    {subHalIndex : ℕ} {sensorHandle : Int32}
    (hsensor : Accepted p.mSubHalList subHalIndex sensorHandle)
    (hknown : HalProxy.setSubHalIndex sensorHandle subHalIndex ∈ p.proxy.mSensors ∨
      HalProxy.setSubHalIndex sensorHandle subHalIndex ∈ p.mDynamicSensors) :
    .passedTo subHalIndex (.activate sensorHandle false) ∈ p.disableAllSensors := by
  rw [disableAllSensors, List.mem_map]
  refine ⟨HalProxy.setSubHalIndex sensorHandle subHalIndex, ?_,
    callSubHal_of_accepted hsize hsensor _⟩
  rw [List.mem_append, Std.TreeMap.mem_keys, Std.TreeMap.mem_keys]
  exact hknown

/-! ## A step of a call -/

/-- Where nothing is pending, a step of the proxy that is no post leaves it so. -/
theorem pending_proxyStep {t : ProxyTransition} (h : (proxyMachine kWakelockTimeoutNs).Takes t)
    (hquiet : (MultiLabel.proxy t.label).quiet = true)
    (hpending : t.pre.mPendingWriteEventsQueue = []) :
    t.post.mPendingWriteEventsQueue = [] ∧
      t.post.mSizePendingWriteEventsQueue = t.pre.mSizePendingWriteEventsQueue := by
  cases proxyStep_of_takes h with
  | posted | ignored => simp [MultiLabel.quiet] at hquiet
  | committed p events num rest hwriter hfront => simp [hfront] at hpending
  | _ => exact ⟨hpending, rfl⟩

theorem isEmpty_onDynamicSensorsDisconnected {mDynamicSensors : SensorMap}
    (hempty : mDynamicSensors.isEmpty = true) (handles : List Int32) (subHalIndex : ℕ) :
    (onDynamicSensorsDisconnected mDynamicSensors handles subHalIndex).1.isEmpty = true := by
  refine List.foldlRecOn (motive := fun acc : SensorMap × List Int32 => acc.1.isEmpty = true)
    _ _ hempty ?_
  intro acc hacc sensorHandle _
  rw [disconnectDynamicSensor]
  split
  · exact hacc
  · simp only [Std.TreeMap.contains_of_isEmpty hacc, Bool.false_eq_true, if_false]
    exact hacc

/-- Only the start of the threads turns the flag on. -/
theorem halted_step {t : MultiTransition} (h : (multiMachine kWakelockTimeoutNs).Takes t)
    (hpre : t.pre.Halted) : t.post.Halted := by
  cases multiStep_of_takes h with
  | proxy p t hproxy hcan hstep =>
      have hflag := mThreadsRun_step hstep
      rw [hproxy] at hflag
      exact fun hhalted => hflag.trans (hpre hhalted)
  | called p hno => exact fun _ => rfl
  | wakelockThreadEnded p hstopped =>
      exact fun _ => SharedWakelock.mThreadsRun_decrement.trans hstopped
  | cleared p hstopped hjoined =>
      have hoff := hpre (by rw [hstopped]; rfl)
      exact fun _ => SharedWakelock.mThreadsRun_decrement.trans hoff
  | exchanged p quantumCount hcleared => exact fun _ => hpre (by rw [hcleared]; rfl)
  | threadsStarted p hexchanged => exact fun hhalted => by cases hhalted
  | returned p hsubHals => exact fun hhalted => by cases hhalted
  | setOperationMode | connected | disconnected | pendingWritesThreadEnded => exact hpre

/-- Whatever happens during a call, short of posts and connections, keeps what holds
during it. -/
theorem reinitialising_step {t : MultiTransition} (h : (multiMachine kWakelockTimeoutNs).Takes t)
    (hquiet : t.label.quiet = true) (hpre : t.pre.Reinitialising) : t.post.Reinitialising := by
  refine ⟨halted_step h hpre.1, ?_⟩
  cases multiStep_of_takes h with
  | proxy p t hproxy hcan hstep =>
      intro hcleared
      obtain ⟨hpending, hsize, hdynamic⟩ := hpre.2 hcleared
      rw [← hproxy] at hpending hsize
      obtain ⟨hpending', hsize'⟩ := pending_proxyStep hstep hquiet hpending
      exact ⟨hpending', hsize'.trans hsize, hdynamic⟩
  | connected p sensors subHalIndex => simp [MultiLabel.quiet] at hquiet
  | disconnected p handles subHalIndex =>
      intro hcleared
      obtain ⟨hpending, hsize, hdynamic⟩ := hpre.2 hcleared
      exact ⟨hpending, hsize, isEmpty_onDynamicSensorsDisconnected hdynamic handles subHalIndex⟩
  | called p hno => exact fun hcleared => by cases hcleared
  | cleared p hstopped hjoined => exact fun _ => ⟨rfl, rfl, Std.TreeMap.isEmpty_emptyc⟩
  | exchanged p quantumCount hcleared => exact fun _ => hpre.2 (by rw [hcleared]; rfl)
  | threadsStarted p hexchanged => exact fun _ => hpre.2 (by rw [hexchanged]; rfl)
  | returned p hsubHals => exact fun hcleared => by cases hcleared
  | setOperationMode | pendingWritesThreadEnded | wakelockThreadEnded => exact hpre.2

/-- During a call the lock is idle after a step exactly if the step gives the last
reference back, or if it was idle and no wakelock was created: no part of
`initializeCommon` releases it. -/
theorem idle_step_iff {t : MultiTransition} (h : (multiMachine kWakelockTimeoutNs).Takes t)
    (hquiet : t.label.quiet = true) (hpre : t.pre.Reinitialising) :
    t.post.proxy.wakelock.Idle ↔
      t.GivesLastBack kWakelockTimeoutNs ∨ (t.pre.proxy.wakelock.Idle ∧ ¬ t.TakesReference) := by
  have hsame : (∀ l, t.label ≠ .proxy l) →
      t.post.proxy.wakelock.mWakelockRefCount = t.pre.proxy.wakelock.mWakelockRefCount →
      t.post.proxy.wakelock.held = t.pre.proxy.wakelock.held →
      (t.post.proxy.wakelock.Idle ↔ t.GivesLastBack kWakelockTimeoutNs ∨
        (t.pre.proxy.wakelock.Idle ∧ ¬ t.TakesReference)) := by
    intro hlabel hcount hheld
    have hnot : ¬ t.GivesLastBack kWakelockTimeoutNs := fun ⟨l, hl, _⟩ => hlabel l hl
    have hnone : ¬ t.TakesReference := fun htakes => hlabel _ htakes.1
    rw [SharedWakelock.Idle, hcount, hheld]
    simp [hnot, hnone, SharedWakelock.Idle]
  cases multiStep_of_takes h with
  | proxy p t hproxy hcan hstep =>
      have hidle := idle_proxyStep_iff hstep hquiet
      rw [hproxy] at hidle
      simpa [MultiTransition.GivesLastBack, MultiTransition.TakesReference] using hidle
  | wakelockThreadEnded p hstopped =>
      -- the thread resets the wakelock after it has seen that the flag is off
      have hreset := SharedWakelock.reset_of_not_running hstopped p.proxy.now
      refine hsame (by simp) ?_ ?_
      all_goals
        simp only
        rw [hreset]
  | cleared p hstopped hjoined =>
      -- and `initializeCommon` before it turns the flag on again
      have hoff := hpre.1 (by rw [hstopped]; rfl)
      have hreset := SharedWakelock.reset_of_not_running hoff p.proxy.now
      refine hsame (by simp) ?_ ?_
      all_goals
        simp only [MultiHal.clearPendingWrites]
        rw [hreset]
  | setOperationMode | connected | disconnected | called | pendingWritesThreadEnded
  | exchanged | threadsStarted | returned => exact hsame (by simp) rfl rfl

/-! ## The whole call -/

/-- The transitions from a call of `initialize` to its return, or to that of a later
one, between which no sub-HAL posts events or connects dynamic sensors. -/
structure Reinitialisation (ts : List MultiTransition) : Prop where
  called : ts.head?.map (·.label) = some .initializeCommon
  returned : ts.getLast?.map (·.label) = some .initialized
  quiet : ∀ t ∈ ts, t.label.quiet = true

instance (ts : List MultiTransition) : Decidable (Reinitialisation ts) :=
  decidable_of_iff (ts.head?.map (·.label) = some .initializeCommon ∧
    ts.getLast?.map (·.label) = some .initialized ∧ ∀ t ∈ ts, t.label.quiet = true)
    ⟨fun ⟨h₁, h₂, h₃⟩ => ⟨h₁, h₂, h₃⟩, fun ⟨h₁, h₂, h₃⟩ => ⟨h₁, h₂, h₃⟩⟩

variable {p s : MultiHal} {ts : List MultiTransition}

/-- A call begins when no other one is running. -/
theorem initializing_of_called (hrun : (multiMachine kWakelockTimeoutNs).Run p ts s)
    (hcalled : ts.head?.map (·.label) = some .initializeCommon) : p.initializing = .no := by
  cases ts with
  | nil => simp at hcalled
  | cons t ts =>
      have hsplit : (multiMachine kWakelockTimeoutNs).Run p ([] ++ t :: ts) s := hrun
      obtain ⟨hstart, hstep, -⟩ := hsplit.of_append_cons
      have hp : t.pre = p := by
        rcases hstart.eq_start_or_exists_post with h | ⟨t', ht', -⟩
        · exact h
        · simp at ht'
      rw [List.head?_cons, Option.map_some, Option.some.injEq] at hcalled
      rw [← hp]
      cases multiStep_of_takes hstep with
      | called p hno => exact hno
      | _ => simp at hcalled

theorem reinitialising_of_run (hno : p.initializing = .no)
    (hrun : (multiMachine kWakelockTimeoutNs).Run p ts s)
    (hquiet : ∀ t ∈ ts, t.label.quiet = true) : s.Reinitialising := by
  refine hrun.invariant_of_guard (G := fun t => t.label.quiet = true)
    (I := MultiHal.Reinitialising) ?_ ?_ hquiet
  · exact ⟨by simp [MultiHal.Halted, hno, Initializing.halted],
      by simp [hno, Initializing.hasCleared]⟩
  · intro t hstep hquiet hpre
    exact reinitialising_step hstep hquiet hpre

/-- Whatever the state before it, a call leaves nothing pending, no dynamic sensor
connected, and the mode normal. -/
theorem fresh_of_reinitialisation (hrun : (multiMachine kWakelockTimeoutNs).Run p ts s)
    (hts : Reinitialisation ts) : s.Fresh ∧ s.mCurrentOperationMode = .normal := by
  have hno := initializing_of_called hrun hts.called
  obtain ⟨ret, hlast, hret⟩ := Option.map_eq_some_iff.1 hts.returned
  obtain ⟨during, rfl⟩ := List.getLast?_eq_some_iff.1 hlast
  obtain ⟨hduring, hstep, rfl⟩ := hrun.of_append_singleton
  have hpre := reinitialising_of_run hno hduring fun t ht =>
    hts.quiet t (List.mem_append_left _ ht)
  cases multiStep_of_takes hstep with
  | returned q hsubHals => exact ⟨hpre.2 (by rw [hsubHals]; rfl), rfl⟩
  | _ => simp at hret

/-- **A call of `initialize` leaves a clean state exactly if the shared wakelock was
idle and no sub-HAL has created one during the call, or if the last references were given
back during the call, the threads running again, and none was taken since.** -/
theorem reinitialised_clean_iff (hrun : (multiMachine kWakelockTimeoutNs).Run p ts s)
    (hts : Reinitialisation ts) :
    s.Clean ↔
      (∃ ts₁ t ts₂, ts = ts₁ ++ t :: ts₂ ∧ t.GivesLastBack kWakelockTimeoutNs ∧
        ∀ t' ∈ ts₂, ¬ t'.TakesReference) ∨
      (p.proxy.wakelock.Idle ∧ ∀ t ∈ ts, ¬ t.TakesReference) := by
  have hno := initializing_of_called hrun hts.called
  have hduring : ∀ t ∈ ts, t.label.quiet = true ∧ t.pre.Reinitialising := by
    intro t ht
    obtain ⟨ts₁, ts₂, rfl, hbefore, -⟩ := hrun.split_of_mem ht
    exact ⟨hts.quiet t ht, reinitialising_of_run hno hbefore fun t' ht' =>
      hts.quiet t' (List.mem_append_left _ ht')⟩
  have hidle := hrun.iff_of_guard (I := fun s => s.proxy.wakelock.Idle)
    (fun t hstep hg => idle_step_iff hstep hg.1 hg.2) hduring
  rw [← hidle]
  constructor
  · rintro ⟨-, -, hclean⟩
    exact hclean
  · intro hclean
    obtain ⟨hfresh, hnormal⟩ := fresh_of_reinitialisation hrun hts
    exact ⟨hfresh, hnormal, hclean⟩

/-- An event is pending, a dynamic sensor connected and the mode not normal when the
second client calls; nothing of it is left. -/
theorem reinitialised_clean_iff_idle :
    ∃ (before : List MultiTransition) (p : MultiHal) (ts : List MultiTransition) (s : MultiHal),
      (multiMachine 1000).Run (.construct [] 0) before p ∧ (multiMachine 1000).Run p ts s ∧
      p.proxy.mPendingWriteEventsQueue.length = 1 ∧ p.mDynamicSensors.size = 1 ∧
      p.mCurrentOperationMode = .dataInjection ∧ s.Clean := by
  have hcall : ∃ (before : List MultiTransition) (p : MultiHal) (ts : List MultiTransition)
      (s : MultiHal),
      (multiMachine 1000).Run (.construct [] 0) before p ∧ (multiMachine 1000).Run p ts s ∧
      p.proxy.mPendingWriteEventsQueue.length = 1 ∧ p.mDynamicSensors.size = 1 ∧
      p.mCurrentOperationMode = .dataInjection ∧ Reinitialisation ts ∧
      p.proxy.wakelock.Idle ∧ ∀ t ∈ ts, ¬ t.TakesReference :=
    Machine.exists_runs_of_exec
      [.initializeCommon, .clearPendingWrites, .exchangeQueues 0, .startThreads, .initialized,
        .setOperationMode .dataInjection [],
        .onDynamicSensorsConnected [{ sensorHandle := 1 }] 0,
        .proxy (.postEvents 0 [⟨0, 2, 0, 0⟩] none true)]
      [.initializeCommon, .wakelockThreadEnds, .pendingWritesThreadEnds, .clearPendingWrites,
        .exchangeQueues 10, .startThreads, .initialized] (by decide)
  obtain ⟨before, p, ts, s, hbefore, hrun, hpending, hdynamic, hmode, hts, hidle⟩ := hcall
  exact ⟨before, p, ts, s, hbefore, hrun, hpending, hdynamic, hmode,
    (reinitialised_clean_iff hrun hts).2 (.inr hidle)⟩

/-- A sub-HAL holds a wakelock when the second client calls.  The client finds the
kernel's lock held, and the destruction of that wakelock no longer gives anything back. -/
theorem reinitialised_with_wakelock_held :
    ∃ (before : List MultiTransition) (p : MultiHal) (ts : List MultiTransition) (s : MultiHal),
      (multiMachine 1000).Run (.construct [] 0) before p ∧ (multiMachine 1000).Run p ts s ∧
      Reinitialisation ts ∧ ¬ s.Clean ∧ s.proxy.wakelock.mWakelockRefCount = 1 ∧
      s.proxy.wakelock.held = true ∧ ∀ createdAt ∈ s.proxy.scopedWakelocks,
        s.proxy.wakelock.decrementRefCountAndMaybeReleaseWakelock 1 createdAt =
          s.proxy.wakelock :=
  Machine.exists_runs_of_exec
    [.initializeCommon, .clearPendingWrites, .exchangeQueues 10, .startThreads, .initialized,
      .proxy .createScopedWakelock, .proxy (.tick 1)]
    [.initializeCommon, .wakelockThreadEnds, .pendingWritesThreadEnds, .clearPendingWrites,
      .exchangeQueues 10, .startThreads, .initialized] (by decide)

end Sensors
