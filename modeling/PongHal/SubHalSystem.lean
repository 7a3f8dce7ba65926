/-
# The sub-HAL of this device behind the proxy (`SensorsSubHal.cpp`)

`SensorsSubHal` has three sensors, each with a thread of its own, and hands what they
post on to the proxy: `SensorsSubHal::postEvents` creates a `ScopedWakelock`, calls the
proxy's callback with it, and the wakelock is destroyed when that returns.  Anything can
happen between these three, except that the thread of a sensor calls `postEvents` with
the sensor's mutex held: no call gets at the sensor meanwhile.

`systemMachine` puts the sensors, the calls of `postEvents` under way and the proxy
together.  The calls of the framework come in with the handles of the proxy's list.  The
other sub-HALs are there as steps of the proxy.  A `ScopedWakelock` is known by its
creation time, as in the source; two of the same time cannot be told apart, and need not
be.  As for the proxy alone, a run lies between two calls of `initialize`, and begins with
no call of `postEvents` under way.

`proxy_run_of_systemRun` and `sensor_run_of_systemRun` : what the system does is a run of
the proxy and a run of each of the three sensors.
-/
import PongHal.HalProxy
import PongHal.SensorCalls
import PongHal.SensorRouting

namespace Sensors

/-! ## The sensors -/

/-- The sensors that the constructor adds, in this order. -/
inductive SubHalSensor
  | udfps
  | singleTap
  | doubleTap
  deriving DecidableEq, Repr

namespace SubHalSensor

/-- The handles that `AddSensor` gives out: `mNextHandle` starts at one. -/
def sensorHandle : SubHalSensor → Int32
  | udfps => 1
  | singleTap => 2
  | doubleTap => 3

/-- The class of the sensor. -/
def sensorClass : SubHalSensor → PollSensorClass
  | udfps => udfpsSensor
  | singleTap => singleTapSensor
  | doubleTap => doubleTapSensor

/-- `mSensors`, in the order of the handles. -/
def mSensors : List SubHalSensor := [udfps, singleTap, doubleTap]

/-- `mSensors.find`. -/
def find (handle : Int32) : Option SubHalSensor :=
  mSensors.find? fun i => i.sensorHandle = handle

/-- `getSensorInfo`. -/
def sensorInfo (i : SubHalSensor) : SensorInfo :=
  (PollSensor.construct i.sensorClass i.sensorHandle true true false).mSensorInfo

theorem mem_mSensors (i : SubHalSensor) : i ∈ mSensors := by
  cases i <;> decide

theorem sensorHandle_injective : Function.Injective sensorHandle := by
  intro i j
  cases i <;> cases j <;> decide

/-- A handle leads to the sensor that has it. -/
theorem find_eq_some_iff {handle : Int32} {i : SubHalSensor} :
    find handle = some i ↔ i.sensorHandle = handle := by
  constructor
  · intro h
    simpa using List.find?_some h
  · rintro rfl
    cases i <;> rfl

theorem subHalIndexIsClear_sensorHandle (i : SubHalSensor) :
    subHalIndexIsClear i.sensorHandle = true := by
  cases i <;> decide

end SubHalSensor

/-- `SensorsSubHal`, with what `getSensorsList_2_1` reports. -/
def sensorsSubHal : SubHal := ⟨SubHalSensor.mSensors.map SubHalSensor.sensorInfo⟩

/-- The sub-HALs that the proxy has loaded, and which of them is `SensorsSubHal`. -/
structure LoadedSubHals where
  mSubHalList : List SubHal
  subHalIndex : ℕ
  /-- The index must fit into the first byte of a handle. -/
  length_le : mSubHalList.length ≤ 128
  loaded : mSubHalList[subHalIndex]? = some sensorsSubHal

/-! ## The calls of `postEvents` -/

/-- `ScopedWakelock`. -/
structure ScopedWakelock where
  mLocked : Bool
  mCreatedAtTimeNs : ℤ
  deriving DecidableEq, Repr

/-- Who calls `SensorsSubHal::postEvents`. -/
inductive Poster
  /-- The thread of a sensor, which holds its `mRunMutex`. -/
  | thread (i : SubHalSensor)
  /-- `injectEvent`, on a thread of the framework. -/
  | injectEvent (i : SubHalSensor)
  deriving DecidableEq, Repr

/-- How far a call has come. -/
inductive PostStage
  | called
  | created (wakelock : ScopedWakelock)
  /-- The callback's `postEvents` has returned, the wakelock is still there. -/
  | posted (wakelock : ScopedWakelock)
  deriving DecidableEq, Repr

/-- A call of `SensorsSubHal::postEvents` under way. -/
structure PostCall where
  poster : Poster
  events : List Event
  wakeup : Bool
  stage : PostStage
  deriving DecidableEq, Repr

/-- An event of a sensor as the proxy gets it.  `u` is the first word of the union: the
first of the data as a float, or what the memory held. -/
def GestureEvent.toEvent (u : UInt32) (event : GestureEvent) : Event where
  timestamp := event.timestamp
  sensorHandle := event.sensorHandle
  sensorType := event.sensorType
  u := u

namespace PostCall

/-- The call that a sensor makes, if it makes one. -/
def ofAction (i : SubHalSensor) (u : UInt32) : SensorAction → Option PostCall
  | .posted events wakeup => some ⟨.thread i, events.map (GestureEvent.toEvent u), wakeup, .called⟩
  | .injected events wakeup => some ⟨.injectEvent i, events, wakeup, .called⟩
  | .wroteGestureEnable _ _ | .returned _ => none

/-- The creation time of the wakelock, if the call has a locked one. -/
def lockTime (c : PostCall) : Option ℤ :=
  match c.stage with
  | .called => none
  | .created w | .posted w => if w.mLocked then some w.mCreatedAtTimeNs else none

end PostCall

/-! ## The system -/

/-- The proxy, the three sensors, and the calls of `postEvents` under way. -/
structure SubHalSystem where
  proxy : HalProxy
  sensors : SubHalSensor → PollSensor
  posts : List PostCall

/-- What can be seen of a step. -/
inductive SystemObservation
  | proxy (o : Observation)
  | sensor (i : SubHalSensor) (a : SensorAction)
  | returned (result : Result)
  deriving DecidableEq, Repr

/-- What happens next. -/
inductive SystemLabel
  /-- The framework calls `activate`. -/
  | activate (sensorHandle : Int32) (enabled : Bool)
  | batch (sensorHandle : Int32) (samplingPeriodNs maxReportLatencyNs : Int64)
  | flush (sensorHandle : Int32)
  /-- The framework calls `injectSensorData`, with the proxy in this mode. -/
  | injectSensorData (mCurrentOperationMode : OperationMode) (event : Event)
  /-- The loop of `SensorsSubHal::setOperationMode` comes to this sensor. -/
  | setOperationMode (i : SubHalSensor) (mode : OperationMode)
  /-- The thread of a sensor starts. -/
  | start (i : SubHalSensor)
  | wake (i : SubHalSensor)
  /-- The thread of a sensor is in `Sensor::run` and comes to the head of its loop. -/
  | sample (i : SubHalSensor) (now timestamp : Int64) (u : UInt32)
  /-- The `poll` of a sensor's thread returns. -/
  | poll (i : SubHalSensor) (rc : ℤ) (pipeRevents nodeRevents : ℕ) (node : NodeRead)
      (timestamp : Int64) (u : UInt32)
  /-- The `k`-th call of `postEvents` takes its next step; `writeOk` is for the one in
  which it calls the proxy's callback. -/
  | postEvents (k : ℕ) (writeOk : Bool)
  /-- A step of the proxy's threads, of the other sub-HALs, of the framework at the
  queues, or of the clock. -/
  | proxy (l : ProxyLabel)
  deriving DecidableEq, Repr

namespace SubHalSystem

/-- The system when the proxy is initialised. -/
def init (L : LoadedSubHals) (hasPipe hasNode inBase : SubHalSensor → Bool)
    (quantumCount now : ℕ) : SubHalSystem where
  proxy := .init (initializeSensorList L.mSubHalList).mSensors quantumCount now
  sensors := fun i => .construct i.sensorClass i.sensorHandle (hasPipe i) (hasNode i) (inBase i)
  posts := []

/-- The thread of the sensor is in a call of `postEvents`, with the mutex. -/
def posting (s : SubHalSystem) (i : SubHalSensor) : Bool :=
  s.posts.any fun c => c.poster = .thread i

/-- The creation times of the wakelocks that calls have locked. -/
def lockTimes (s : SubHalSystem) : List ℤ := s.posts.filterMap PostCall.lockTime

/-- What a step is to the parts of the system. -/
inductive Move
  /-- A call of the framework that comes to no sensor, and what the proxy or this sub-HAL
  answers. -/
  | answered (returns : List Result)
  /-- A call on a sensor or a step of its thread. -/
  | sensor (i : SubHalSensor) (l : SensorLabel) (u : UInt32) (returns : List Result)
  /-- A call of `postEvents` goes on without the proxy. -/
  | advanced (posts : List PostCall)
  /-- A step of the proxy, and the calls of `postEvents` after it. -/
  | proxy (l : ProxyLabel) (posts : List PostCall)

/-- The functions of `SensorsSubHal` that the proxy calls for the framework. -/
def answer : Request → Move
  | .activate sensorHandle enabled =>
      match SubHalSensor.find sensorHandle with
      | none => .answered [.badValue]
      | some i => .sensor i (.activate enabled) 0 [.ok]
  | .batch sensorHandle _ _ =>
      match SubHalSensor.find sensorHandle with
      | none => .answered [.badValue]
      -- `OneShotSensor::batch` does nothing
      | some _ => .answered [.ok]
  | .flush sensorHandle =>
      match SubHalSensor.find sensorHandle with
      | none => .answered [.badValue]
      -- `OneShotSensor::flush` refuses, enabled or not
      | some _ => .answered [.badValue]
  | .injectSensorData event =>
      match SubHalSensor.find event.sensorHandle with
      | none => .answered [.badValue]
      | some i => .sensor i (.injectEvent event) 0 []

/-- What becomes of a call of the framework. -/
def outcome (L : LoadedSubHals) : Outcome → Move
  | .returned result => .answered [result]
  | .passedTo subHalIndex request =>
      if subHalIndex = L.subHalIndex then answer request
      -- another sub-HAL is called
      else .answered []

/-- `SensorsSubHal::postEvents`: the next of its three steps. -/
def advance (L : LoadedSubHals) (s : SubHalSystem) (k : ℕ) (c : PostCall) (writeOk : Bool) : Move :=
  match c.stage with
  | .called =>
      let r := s.proxy.wakelock.incrementRefCountAndMaybeAcquireWakelock 1 s.proxy.now
      if c.wakeup then
        .proxy .createScopedWakelock
          (s.posts.set k { c with stage := .created ⟨r.1, r.2.mWakelockTimeoutStartTime⟩ })
      else .advanced (s.posts.set k { c with stage := .created ⟨false, 0⟩ })
  | .created w =>
      .proxy
        (.postEvents L.subHalIndex c.events
          (if w.mLocked then some (s.proxy.scopedWakelocks.idxOf w.mCreatedAtTimeNs) else none)
          writeOk)
        (s.posts.set k { c with stage := .posted w })
  | .posted w =>
      if w.mLocked then
        .proxy (.destroyScopedWakelock (s.proxy.scopedWakelocks.idxOf w.mCreatedAtTimeNs))
          (s.posts.eraseIdx k)
      else .advanced (s.posts.eraseIdx k)

/-- A step of another sub-HAL has that sub-HAL's index, and a wakelock that is none of
those that calls here have locked. -/
def others (L : LoadedSubHals) (s : SubHalSystem) : ProxyLabel → Bool
  | .destroyScopedWakelock i =>
      decide (s.lockTimes.Subperm (s.proxy.scopedWakelocks.eraseIdx i))
  | .postEvents subHalIndex _ wakelock _ =>
      decide (subHalIndex < L.mSubHalList.length ∧ subHalIndex ≠ L.subHalIndex ∧
        ∀ i ∈ wakelock, s.lockTimes.Subperm (s.proxy.scopedWakelocks.eraseIdx i))
  | _ => true

/-- Whose step it is. -/
def move (L : LoadedSubHals) (s : SubHalSystem) : SystemLabel → Option Move
  | .activate sensorHandle enabled =>
      some (outcome L (Sensors.activate L.mSubHalList sensorHandle enabled))
  | .batch sensorHandle samplingPeriodNs maxReportLatencyNs =>
      some (outcome L
        (Sensors.batch L.mSubHalList sensorHandle samplingPeriodNs maxReportLatencyNs))
  | .flush sensorHandle => some (outcome L (Sensors.flush L.mSubHalList sensorHandle))
  | .injectSensorData mode event =>
      some (outcome L (Sensors.injectSensorData L.mSubHalList mode event))
  | .setOperationMode i mode => some (.sensor i (.setOperationMode mode) 0 [])
  | .start i => some (.sensor i .start 0 [])
  | .wake i => some (.sensor i .wake 0 [])
  | .sample i now timestamp u => some (.sensor i (.sample now timestamp) u [])
  | .poll i rc pipeRevents nodeRevents node timestamp u =>
      some (.sensor i (.poll rc pipeRevents nodeRevents node timestamp) u [])
  | .postEvents k writeOk => s.posts[k]?.map fun c => advance L s k c writeOk
  | .proxy l => if others L s l then some (.proxy l s.posts) else none

/-- What comes of it. -/
def perform (kWakelockTimeoutNs : ℤ) (s : SubHalSystem) :
    Move → Option (SubHalSystem × List SystemObservation)
  | .answered returns => some (s, returns.map .returned)
  | .sensor i l u returns =>
      if s.posting i && l.takesLock then none
      else
        ((s.sensors i).step i.sensorClass l).map fun r =>
          ({ s with
              sensors := Function.update s.sensors i r.1
              -- what a sensor posts becomes a call of `postEvents`
              posts := s.posts ++ r.2.filterMap (PostCall.ofAction i u) },
            r.2.map (.sensor i) ++ returns.map .returned)
  | .advanced posts => some ({ s with posts := posts }, [])
  | .proxy l posts =>
      (s.proxy.step kWakelockTimeoutNs l).map fun r =>
        ({ s with proxy := r.1, posts := posts }, r.2.map .proxy)

/-- One step. -/
def step (L : LoadedSubHals) (kWakelockTimeoutNs : ℤ) (s : SubHalSystem) (l : SystemLabel) :
    Option (SubHalSystem × List SystemObservation) :=
  (move L s l).bind (perform kWakelockTimeoutNs s)

end SubHalSystem

/-- The machine of the system. -/
def systemMachine (L : LoadedSubHals) (kWakelockTimeoutNs : ℤ) :
    Machine SubHalSystem SystemLabel SystemObservation where
  step := SubHalSystem.step L kWakelockTimeoutNs

/-- A step of the system's run. -/
abbrev SystemTransition := Transition SubHalSystem SystemLabel SystemObservation

variable {L : LoadedSubHals} {kWakelockTimeoutNs : ℤ}

/-! ## The steps, by cases -/

/-- The steps of the system, one constructor for each kind of move. -/
inductive SystemStep (L : LoadedSubHals) (kWakelockTimeoutNs : ℤ) : SystemTransition → Prop
  | answered (s : SubHalSystem) (l : SystemLabel) (returns : List Result)
      (hmove : s.move L l = some (.answered returns)) :
      SystemStep L kWakelockTimeoutNs ⟨s, l, returns.map .returned, s⟩
  | sensor (s : SubHalSystem) (l : SystemLabel) (i : SubHalSensor) (call : SensorLabel)
      (u : UInt32) (returns : List Result) (sensor : PollSensor) (acts : List SensorAction)
      (hmove : s.move L l = some (.sensor i call u returns))
      (hlock : call.takesLock = true → s.posting i = false)
      (hstep : (pollMachine i.sensorClass).Takes ⟨s.sensors i, call, acts, sensor⟩) :
      SystemStep L kWakelockTimeoutNs ⟨s, l, acts.map (.sensor i) ++ returns.map .returned,
        { s with
          sensors := Function.update s.sensors i sensor
          posts := s.posts ++ acts.filterMap (PostCall.ofAction i u) }⟩
  | advanced (s : SubHalSystem) (l : SystemLabel) (posts : List PostCall)
      (hmove : s.move L l = some (.advanced posts)) :
      SystemStep L kWakelockTimeoutNs ⟨s, l, [], { s with posts := posts }⟩
  | proxy (s : SubHalSystem) (l : SystemLabel) (call : ProxyLabel) (posts : List PostCall)
      (p : HalProxy) (seen : List Observation)
      (hmove : s.move L l = some (.proxy call posts))
      (hstep : (proxyMachine kWakelockTimeoutNs).Takes ⟨s.proxy, call, seen, p⟩) :
      SystemStep L kWakelockTimeoutNs
        ⟨s, l, seen.map .proxy, { s with proxy := p, posts := posts }⟩

/-- The machine takes no other steps. -/
theorem systemStep_of_takes {t : SystemTransition}
    (h : (systemMachine L kWakelockTimeoutNs).Takes t) : SystemStep L kWakelockTimeoutNs t := by
  obtain ⟨s, l, out, s'⟩ := t
  change SubHalSystem.step L kWakelockTimeoutNs s l = some (s', out) at h
  rw [SubHalSystem.step, Option.bind_eq_some_iff] at h
  obtain ⟨m, hmove, hperform⟩ := h
  cases m with
  | answered returns =>
      cases hperform
      exact .answered s l returns hmove
  | sensor i call u returns =>
      rw [SubHalSystem.perform] at hperform
      split at hperform
      · cases hperform
      rename_i hlock
      obtain ⟨⟨sensor, acts⟩, hstep, heq⟩ := Option.map_eq_some_iff.1 hperform
      cases heq
      refine .sensor s l i call u returns sensor acts hmove ?_ hstep
      intro htakes
      simpa [htakes] using hlock
  | advanced posts =>
      cases hperform
      exact .advanced s l posts hmove
  | proxy call posts =>
      obtain ⟨⟨p, seen⟩, hstep, heq⟩ := Option.map_eq_some_iff.1 hperform
      cases heq
      exact .proxy s l call posts p seen hmove hstep

/-! ## The parts -/

/-- What is seen of the proxy. -/
def SystemObservation.ofProxy : SystemObservation → Option Observation
  | .proxy o => some o
  | .sensor _ _ | .returned _ => none

/-- What is seen of a sensor. -/
def SystemObservation.ofSensor (i : SubHalSensor) : SystemObservation → Option SensorAction
  | .sensor j a => if j = i then some a else none
  | .proxy _ | .returned _ => none

namespace SystemTransition

/-- What the step is to the proxy. -/
def proxyPart (L : LoadedSubHals) (t : SystemTransition) : Option ProxyTransition :=
  match t.pre.move L t.label with
  | some (.proxy call _) =>
      some ⟨t.pre.proxy, call, t.out.filterMap SystemObservation.ofProxy, t.post.proxy⟩
  | _ => none

/-- What the step is to a sensor. -/
def sensorPart (L : LoadedSubHals) (i : SubHalSensor) (t : SystemTransition) :
    Option SensorTransition :=
  match t.pre.move L t.label with
  | some (.sensor j call _ _) =>
      if j = i then
        some ⟨t.pre.sensors i, call, t.out.filterMap (SystemObservation.ofSensor i),
          t.post.sensors i⟩
      else none
  | _ => none

end SystemTransition

theorem filterMap_ofProxy (seen : List Observation) :
    (seen.map SystemObservation.proxy).filterMap SystemObservation.ofProxy = seen := by
  rw [List.filterMap_map]
  simp [Function.comp_def, SystemObservation.ofProxy]

/-- What the framework is told is not seen of a sensor. -/
theorem filterMap_ofSensor (i : SubHalSensor) (acts : List SensorAction)
    (returns : List Result) :
    (acts.map (SystemObservation.sensor i) ++ returns.map SystemObservation.returned).filterMap
      (SystemObservation.ofSensor i) = acts := by
  rw [List.filterMap_append, List.filterMap_map, List.filterMap_map]
  simp [Function.comp_def, SystemObservation.ofSensor]

/-- A step of the system is a step of the proxy or leaves it alone. -/
theorem proxyPart_of_takes {t : SystemTransition}
    (h : (systemMachine L kWakelockTimeoutNs).Takes t) :
    Machine.PartStep (proxyMachine kWakelockTimeoutNs) t.pre.proxy (t.proxyPart L)
      t.post.proxy := by
  cases systemStep_of_takes h with
  | proxy s l call posts p seen hmove hstep =>
      simp only [SystemTransition.proxyPart, hmove, filterMap_ofProxy]
      exact .takes _ hstep
  | answered s l returns hmove =>
      simp only [SystemTransition.proxyPart, hmove]
      exact .quiet _
  | sensor s l j call u returns sensor acts hmove hlock hstep =>
      simp only [SystemTransition.proxyPart, hmove]
      exact .quiet _
  | advanced s l posts hmove =>
      simp only [SystemTransition.proxyPart, hmove]
      exact .quiet _

/-- A step of the system is a step of the sensor or leaves it alone. -/
theorem sensorPart_of_takes {t : SystemTransition} (i : SubHalSensor)
    (h : (systemMachine L kWakelockTimeoutNs).Takes t) :
    Machine.PartStep (pollMachine i.sensorClass) (t.pre.sensors i) (t.sensorPart L i)
      (t.post.sensors i) := by
  cases systemStep_of_takes h with
  | sensor s l j call u returns sensor acts hmove hlock hstep =>
      simp only [SystemTransition.sensorPart, hmove]
      by_cases hj : j = i
      · subst hj
        simp only [if_true, filterMap_ofSensor, Function.update_self]
        exact .takes _ hstep
      · rw [if_neg hj, Function.update_of_ne (Ne.symm hj)]
        exact .quiet _
  | answered s l returns hmove =>
      simp only [SystemTransition.sensorPart, hmove]
      exact .quiet _
  | advanced s l posts hmove =>
      simp only [SystemTransition.sensorPart, hmove]
      exact .quiet _
  | proxy s l call posts p seen hmove hstep =>
      simp only [SystemTransition.sensorPart, hmove]
      exact .quiet _

variable {s₀ s : SubHalSystem} {ts : List SystemTransition}

/-- The proxy's part of a run is a run of the proxy. -/
theorem proxy_run_of_systemRun (hrun : (systemMachine L kWakelockTimeoutNs).Run s₀ ts s) :
    (proxyMachine kWakelockTimeoutNs).Run s₀.proxy
      (ts.filterMap (SystemTransition.proxyPart L)) s.proxy :=
  hrun.project (f := SubHalSystem.proxy) fun _ hstep => proxyPart_of_takes hstep

/-- A sensor's part of a run is a run of the sensor. -/
theorem sensor_run_of_systemRun (i : SubHalSensor)
    (hrun : (systemMachine L kWakelockTimeoutNs).Run s₀ ts s) :
    (pollMachine i.sensorClass).Run (s₀.sensors i)
      (ts.filterMap (SystemTransition.sensorPart L i)) (s.sensors i) :=
  hrun.project (f := fun s => s.sensors i) fun _ hstep => sensorPart_of_takes i hstep

end Sensors
