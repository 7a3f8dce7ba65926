/-
# The polling one-shot sensors (`Sensor.cpp`)

`UdfpsSensor`, `SingleTapSensor` and `DoubleTapSensor` share one design: a thread
waits in `poll` for a touch controller node and for a pipe, reads the node when the
controller reports something, and then disables the sensor and posts one event.
The classes differ in the node they read, in what they read from it, and in whether
they write a gesture enable node: that is `PollSensorClass`, and each class is one
value of it.

`mRunMutex` is held except in `poll` and in the condition variable's waits, so a step
of the thread goes from the return of one of these to the next call of one of them
(`loop`, `baseLoop`).  What `poll` reports, what the node reads and when the thread
wakes is in the label.  The destructor comes in `SensorDestructor`.

`Sensor::Sensor` starts the thread, while the object is still a `Sensor`.  If the thread
comes to its virtual call of `run` before the class's own constructor has begun, it gets
`Sensor::run`, and stays there: a loop that knows neither the node nor the pipe, and
posts an event whenever it finds the sensor on.  Which of the two the thread has entered
is an argument of `construct`.
-/
import PongHal.Machine
import PongHal.SensorEvents

namespace Sensors

/-! ## Reading the node -/

/-- What a read of the polled node meets: what `lseek` and `read` return, the first
character, what `sscanf` returns, and the numbers it finds. -/
structure NodeRead where
  seek : ℤ
  count : ℤ
  c : Char
  scanned : ℤ
  screenX : Int32
  screenY : Int32
  state : Int32
  deriving DecidableEq, Repr

/-- `readBool`. -/
def readBool (r : NodeRead) : Bool :=
  if r.seek ≠ 0 then false
  else if r.count ≠ 1 then false
  else decide (r.c ≠ '0')

/-- `readFpState`, with `screenX` and `screenY` before and after: `sscanf` assigns as
many numbers as it says it has. -/
def readFpState (r : NodeRead) (screen : Int32 × Int32) : Bool × Int32 × Int32 :=
  if r.seek ≠ 0 then (false, screen)
  else if r.count < 0 then (false, screen)
  else
    let state := if r.scanned ≥ 3 then r.state else 0
    let screen := (if r.scanned ≥ 1 then r.screenX else screen.1,
      if r.scanned ≥ 2 then r.screenY else screen.2)
    if r.scanned < 0 then (false, screen) else (decide (state > 0), screen)

/-! ## The classes -/

/-- What the three classes differ in. -/
structure PollSensorClass where
  type : SensorType
  typeAsString : String
  /-- The gesture enable node, for the classes that write one. -/
  enablePath : Option String
  /-- The test of the node, with `mScreenX` and `mScreenY` before and after. -/
  readNode : NodeRead → Int32 × Int32 → Bool × Int32 × Int32
  /-- The words `readEvents` puts into `u.data`. -/
  eventData : Int32 × Int32 → List Int32

/-- `UdfpsSensor`: it reports where the finger is, and has no gesture to enable. -/
def udfpsSensor : PollSensorClass where
  type := devicePrivateBase + 1
  typeAsString := "org.lineageos.sensor.udfps"
  enablePath := none
  readNode := readFpState
  eventData := fun screen => [screen.1, screen.2]

/-- `SingleTapSensor`. -/
def singleTapSensor : PollSensorClass where
  type := devicePrivateBase + 2
  typeAsString := "org.lineageos.sensor.single_touch"
  enablePath := some "/sys/devices/platform/goodix_ts.0/gesture/single_en"
  readNode := fun r screen => (readBool r, screen)
  eventData := fun _ => []

/-- `DoubleTapSensor`. -/
def doubleTapSensor : PollSensorClass where
  type := devicePrivateBase + 3
  typeAsString := "org.lineageos.sensor.double_touch"
  enablePath := some "/sys/devices/platform/goodix_ts.0/gesture/double_en"
  readNode := fun r screen => (readBool r, screen)
  eventData := fun _ => []

/-! ## The sensor and its thread -/

/-- Where the thread is in the class's own `run`, or in `Sensor::run`. -/
inductive RunThread
  /-- It has not taken the lock for the first time. -/
  | starting
  /-- It is in the condition variable's wait. -/
  | waiting
  /-- It is in `poll`, without the lock. -/
  | polling
  /-- It is in `Sensor::run` and has not taken the lock for the first time. -/
  | baseStarting
  /-- It is in the wait of `Sensor::run`. -/
  | baseWaiting
  /-- It is in the `wait_for` of `Sensor::run`, the wait for the next sample. -/
  | sampling
  /-- It has left the loop. -/
  | stopped
  deriving DecidableEq, Repr

/-- The thread is in `Sensor::run`. -/
def RunThread.inBase : RunThread → Bool
  | .baseStarting | .baseWaiting | .sampling => true
  | .starting | .waiting | .polling | .stopped => false

/-- The members of a sensor, the bytes in its wait pipe (if it has one), and its
thread. -/
structure PollSensor where
  mSensorInfo : SensorInfo
  mIsEnabled : Bool
  mSamplingPeriodNs : Int64
  mLastSampleTimeNs : Int64
  mMode : OperationMode
  mStopThread : Bool
  mScreen : Int32 × Int32
  hasPipe : Bool
  waitPipe : ℕ
  thread : RunThread
  deriving DecidableEq, Repr

/-- An event of a sensor.  `data` are the words that `readEvents` sets in `u.data`,
before they become floats. -/
structure GestureEvent where
  timestamp : Int64
  sensorHandle : Int32
  sensorType : SensorType
  data : List Int32
  deriving DecidableEq, Repr

/-- What can be seen of a sensor: events it posts of its own and events it posts on
for `injectEvent`, each with the wake-up flag, writes to its gesture enable node,
and what `injectEvent` returns. -/
inductive SensorAction
  | posted (events : List GestureEvent) (wakeup : Bool)
  | injected (events : List Event) (wakeup : Bool)
  | wroteGestureEnable (path : String) (enable : Bool)
  | returned (result : Result)
  deriving DecidableEq, Repr

/-- The calls on a sensor and the steps of its thread. -/
inductive SensorLabel
  | activate (enable : Bool)
  | setOperationMode (mode : OperationMode)
  | injectEvent (event : Event)
  /-- The thread takes the lock for the first time. -/
  | start
  /-- The condition variable's wait returns. -/
  | wake
  /-- A thread in `Sensor::run` takes the lock, for the first time or after one of its
  waits, and finds the clock at `now` if it reads it; `timestamp` is for the event it
  may post. -/
  | sample (now timestamp : Int64)
  /-- `poll` returns `rc` and sets the `revents` of the pipe and of the node; the
  rest is what the thread meets if it reads the node and posts. -/
  | poll (rc : ℤ) (pipeRevents nodeRevents : ℕ) (node : NodeRead) (timestamp : Int64)
  deriving DecidableEq, Repr

/-- `POLLIN`, the events asked of the pipe. -/
def pollIn : ℕ := 0x1

/-- `POLLERR | POLLPRI`, the events asked of the node. -/
def pollErrPri : ℕ := 0x8 ||| 0x2

namespace PollSensor

variable (K : PollSensorClass)

/-- A sensor just constructed: `Sensor`, `OneShotSensor` and the class itself.  If the
pipe or the node could not be opened the thread is told to stop.  `inBase` : the thread
has come to its call of `run` before the class's own constructor. -/
def construct (sensorHandle : Int32) (hasPipe hasNode inBase : Bool) : PollSensor where
  mSensorInfo :=
    { sensorHandle := sensorHandle
      type := K.type
      typeAsString := K.typeAsString
      flags := 0 ||| oneShotMode ||| wakeUp }
  mIsEnabled := false
  -- `OneShotSensor::batch` does nothing: the period stays what it is
  mSamplingPeriodNs := 0
  mLastSampleTimeNs := 0
  mMode := .normal
  mStopThread := !(hasPipe && hasNode)
  mScreen := (0, 0)
  hasPipe := hasPipe
  waitPipe := 0
  thread := if inBase then .baseStarting else .starting

/-- `Sensor::isWakeUpSensor`. -/
def isWakeUpSensor (s : PollSensor) : Bool := s.mSensorInfo.flags &&& wakeUp != 0

/-- `Sensor::supportsDataInjection`. -/
def supportsDataInjection (s : PollSensor) : Bool :=
  s.mSensorInfo.flags &&& dataInjectionFlag != 0

/-- `interruptPoll`: a byte for the pipe. -/
def interruptPoll (s : PollSensor) : PollSensor :=
  if s.hasPipe then { s with waitPipe := s.waitPipe + 1 } else s

/-- `writeGestureEnable`, for the classes that call it. -/
def writeGestureEnable (enable : Bool) : List SensorAction :=
  match K.enablePath with
  | none => []
  | some path => [.wroteGestureEnable path enable]

/-- `activate`. -/
def activate (s : PollSensor) (enable : Bool) : PollSensor × List SensorAction :=
  if s.mIsEnabled ≠ enable then
    (interruptPoll { s with mIsEnabled := enable }, writeGestureEnable K enable)
  else (s, [])

/-- `setOperationMode`.  The pipe is written whether the mode has changed or not. -/
def setOperationMode (s : PollSensor) (mode : OperationMode) : PollSensor :=
  interruptPoll { s with mMode := mode }

/-- `Sensor::injectEvent`. -/
def injectEvent (s : PollSensor) (event : Event) : List SensorAction :=
  if event.sensorType = additionalInfo then [.returned .ok]
  else if !s.supportsDataInjection then [.returned .invalidOperation]
  else if s.mMode = .dataInjection then
    [.injected [event] s.isWakeUpSensor, .returned .ok]
  else [.returned .badValue]

/-- `readEvents`. -/
def readEvents (s : PollSensor) (timestamp : Int64) : List GestureEvent :=
  [{ timestamp := timestamp
     sensorHandle := s.mSensorInfo.sensorHandle
     sensorType := s.mSensorInfo.type
     data := K.eventData s.mScreen }]

/-- The loop of `run` from its head, with the lock held, to where the lock is given
up.  The wait is entered only where its predicate is false. -/
def loop (s : PollSensor) : PollSensor :=
  if s.mStopThread then { s with thread := .stopped }
  else if s.mIsEnabled = false ∨ s.mMode = .dataInjection then { s with thread := .waiting }
  else { s with thread := .polling }

/-- The predicate of the condition variable. -/
def canRun (s : PollSensor) : Bool :=
  (s.mIsEnabled && decide (s.mMode = .normal)) || s.mStopThread

/-- A thread in `Sensor::run` comes to the head of the loop: it starts, its wait returns,
or its `wait_for` does, which it may at any time. -/
def canSample (s : PollSensor) : Bool :=
  match s.thread with
  | .baseStarting | .sampling => true
  | .baseWaiting => s.canRun
  | .starting | .waiting | .polling | .stopped => false

/-- The loop of `Sensor::run` from its head to its next wait.  The calls go to the class's
own functions by then. -/
def baseLoop (s : PollSensor) (now timestamp : Int64) : PollSensor × List SensorAction :=
  if s.mStopThread then ({ s with thread := .stopped }, [])
  else if s.mIsEnabled = false ∨ s.mMode = .dataInjection then
    ({ s with thread := .baseWaiting }, [])
  else if s.mLastSampleTimeNs + s.mSamplingPeriodNs ≤ now then
    ({ s with mLastSampleTimeNs := now, thread := .sampling },
      [.posted (readEvents K s timestamp) s.isWakeUpSensor])
  else ({ s with thread := .sampling }, [])

/-- The body of `run` after `poll`, without the way back to the head of the loop. -/
def polled (s : PollSensor) (rc : ℤ) (pipeRevents nodeRevents : ℕ) (node : NodeRead)
    (timestamp : Int64) : Option (PollSensor × List SensorAction) :=
  if rc < 0 then some ({ s with mStopThread := true }, [])
  else
    -- the node is read only when the controller has reported something
    let gesture := decide (nodeRevents = pollErrPri) && (K.readNode node s.mScreen).1
    let s := if nodeRevents = pollErrPri then { s with mScreen := (K.readNode node s.mScreen).2 }
      else s
    if gesture then
      let s := { s with mIsEnabled := false }
      some (s, writeGestureEnable K false ++ [.posted (readEvents K s timestamp) s.isWakeUpSensor])
    else if pipeRevents = pollIn then
      -- a read of an empty pipe does not return
      if s.waitPipe = 0 then none else some ({ s with waitPipe := s.waitPipe - 1 }, [])
    else some (s, [])

/-- One step. -/
def step (s : PollSensor) : SensorLabel → Option (PollSensor × List SensorAction)
  | .activate enable => some (s.activate K enable)
  | .setOperationMode mode => some (s.setOperationMode mode, [])
  | .injectEvent event => some (s, s.injectEvent event)
  | .start => if s.thread = .starting then some (s.loop, []) else none
  | .wake => if s.thread = .waiting ∧ s.canRun then some (s.loop, []) else none
  | .sample now timestamp => if s.canSample then some (s.baseLoop K now timestamp) else none
  | .poll rc pipeRevents nodeRevents node timestamp =>
      if s.thread = .polling then
        (s.polled K rc pipeRevents nodeRevents node timestamp).map fun r => (r.1.loop, r.2)
      else none

end PollSensor

/-- The machine of a sensor. -/
def pollMachine (K : PollSensorClass) : Machine PollSensor SensorLabel SensorAction where
  step := PollSensor.step K

/-- A step of a sensor's run. -/
abbrev SensorTransition := Transition PollSensor SensorLabel SensorAction

end Sensors
