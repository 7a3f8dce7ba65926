/-
# Sensor events and the sensor table (`HalProxyCallback.cpp`)

What a sub-HAL posts passes through `processEvents` before it comes to the
queues: every event gets the index of its sub-HAL into the first byte of its
handle, events of a pick-up sensor that do not carry a one are dropped, and the
events of wake-up sensors among the rest are counted.

The table `mSensors` is a `std::map`.  `getSensorInfo` looks a handle up and
answers a sensor without flags for an unknown one; `mSensors[...]`, which
`countNumWakeupEvents` uses, also ENTERS that sensor into the table
(`operatorIndex`).  No later lookup can tell (`getSensorInfo_operatorIndex`), so
which events are wake-up events never changes.
-/
import Mathlib.Tactic

namespace Sensors

/-- `V2_1::SensorType`, an open enumeration: vendors have their own values. -/
abbrev SensorType := Int32

/-- `SensorType::PICK_UP_GESTURE`. -/
def pickUpGesture : SensorType := 25

/-- `SensorType::ADDITIONAL_INFO`. -/
def additionalInfo : SensorType := 33

/-- `SensorType::DEVICE_PRIVATE_BASE`. -/
def devicePrivateBase : SensorType := 0x10000

/-- `V1_0::Result`. -/
inductive Result
  | ok
  | permissionDenied
  | noMemory
  | badValue
  | invalidOperation
  deriving DecidableEq, Repr

/-- `V1_0::OperationMode`. -/
inductive OperationMode
  | normal
  | dataInjection
  deriving DecidableEq, Repr

/-- `SensorFlagBits::WAKE_UP`. -/
def wakeUp : UInt32 := 1

/-- `SensorFlagBits::ONE_SHOT_MODE`. -/
def oneShotMode : UInt32 := 4

/-- `SensorFlagBits::DATA_INJECTION`. -/
def dataInjectionFlag : UInt32 := 0x10

/-- The bits of the float `1`. -/
def floatOne : UInt32 := 0x3F800000

/-- `V2_1::Event`.  `u` is the first word of the union of that name: the bits of
`u.scalar`. -/
structure Event where
  timestamp : Int64
  sensorHandle : Int32
  sensorType : SensorType
  u : UInt32
  deriving DecidableEq, Repr

/-- The fields of `V2_1::SensorInfo` that the proxy reads or writes. -/
structure SensorInfo where
  sensorHandle : Int32 := 0
  type : SensorType := 0
  typeAsString : String := ""
  flags : UInt32 := 0
  deriving DecidableEq, Repr, Inhabited

/-- The type of `mSensors`. -/
abbrev SensorMap := Std.TreeMap Int32 SensorInfo

namespace SensorMap

variable (mSensors : SensorMap)

/-- `HalProxy::getSensorInfo`: an unknown handle gets a sensor of zeros. -/
def getSensorInfo (sensorHandle : Int32) : SensorInfo := mSensors.getD sensorHandle {}

/-- The table after `mSensors[sensorHandle]` was read. -/
def operatorIndex (sensorHandle : Int32) : SensorMap := mSensors.insertIfNew sensorHandle {}

/-- The test `(mSensors[event.sensorHandle].flags & WAKE_UP) != 0` of both
counting functions: the event is one of a wake-up sensor. -/
def isWakeup (event : Event) : Bool :=
  (mSensors.getSensorInfo event.sensorHandle).flags &&& wakeUp != 0

/-- The number of wake-up events. -/
def wakeups (events : List Event) : ℕ := events.countP mSensors.isWakeup

@[simp] theorem wakeups_nil : mSensors.wakeups [] = 0 := rfl

@[simp] theorem wakeups_cons (event : Event) (es : List Event) :
    mSensors.wakeups (event :: es) =
      mSensors.wakeups es + if mSensors.isWakeup event then 1 else 0 :=
  List.countP_cons

@[simp] theorem wakeups_append (es es' : List Event) :
    mSensors.wakeups (es ++ es') = mSensors.wakeups es + mSensors.wakeups es' :=
  List.countP_append

/-- Tables with the same lookups have the same wake-up events. -/
theorem isWakeup_congr {m m' : SensorMap} (h : m.getSensorInfo = m'.getSensorInfo) :
    m.isWakeup = m'.isWakeup := by
  funext event
  rw [isWakeup, isWakeup, h]

/-- Reading an entry with `[]` changes no lookup. -/
theorem getSensorInfo_operatorIndex (sensorHandle : Int32) :
    (mSensors.operatorIndex sensorHandle).getSensorInfo = mSensors.getSensorInfo := by
  funext h
  rw [getSensorInfo, operatorIndex, Std.TreeMap.getD_insertIfNew, getSensorInfo]
  split
  · rename_i hnew
    have hh : sensorHandle = h := Std.LawfulEqCmp.eq_of_compare hnew.1
    rw [← hh, Std.TreeMap.getD_eq_fallback (by simpa using hnew.2)]
  · rfl

end SensorMap

/-- `kBitsAfterSubHalIndex`. -/
def kBitsAfterSubHalIndex : Int32 := 24

/-- `setSubHalIndex`. -/
def setSubHalIndex (sensorHandle : Int32) (subHalIndex : ℕ) : Int32 :=
  sensorHandle ||| (Int32.ofNat subHalIndex <<< kBitsAfterSubHalIndex)

/-- `HalProxyCallbackBase::processEvents`: the events that go on, and how many of
them are wake-up events. -/
def processEvents (mSensors : SensorMap) (subHalIndex : ℕ) : List Event → List Event × ℕ
  | [] => ([], 0)
  | event :: events =>
      let event := { event with sensorHandle := setSubHalIndex event.sensorHandle subHalIndex }
      let sensor := mSensors.getSensorInfo event.sensorHandle
      let out := processEvents mSensors subHalIndex events
      if sensor.type = pickUpGesture ∧ event.u ≠ floatOne then out
      else
        (event :: out.1, if mSensors.isWakeup event then out.2 + 1 else out.2)

/-- The body of the loop of `HalProxy::countNumWakeupEvents`: the count and the
table after one more event. -/
def countWakeupEvent (acc : ℕ × SensorMap) (event : Event) : ℕ × SensorMap :=
  (if acc.2.isWakeup event then acc.1 + 1 else acc.1, acc.2.operatorIndex event.sensorHandle)

/-- `HalProxy::countNumWakeupEvents` of the first `n` events, and the table after
it.  Its callers pass at least `n` events. -/
def countNumWakeupEvents (mSensors : SensorMap) (events : List Event) (n : ℕ) : ℕ × SensorMap :=
  (events.take n).foldl countWakeupEvent (0, mSensors)

variable (mSensors : SensorMap)

/-- The count that goes with the processed events is the number of wake-up events
among them. -/
theorem processEvents_snd (subHalIndex : ℕ) (events : List Event) :
    (processEvents mSensors subHalIndex events).2 =
      mSensors.wakeups (processEvents mSensors subHalIndex events).1 := by
  induction events with
  | nil => rfl
  | cons event events ih =>
      rw [processEvents]
      simp only
      split
      · exact ih
      · rw [SensorMap.wakeups_cons, ← ih]
        split <;> rfl

/-- The loop adds the number of wake-up events to the count and changes no
lookup, from any table that differs from `mSensors` in no lookup. -/
theorem foldl_countWakeupEvent (events : List Event) (acc : ℕ × SensorMap)
    (hacc : acc.2.getSensorInfo = mSensors.getSensorInfo) :
    (events.foldl countWakeupEvent acc).1 = acc.1 + mSensors.wakeups events ∧
      (events.foldl countWakeupEvent acc).2.getSensorInfo = mSensors.getSensorInfo := by
  induction events generalizing acc with
  | nil => exact ⟨rfl, hacc⟩
  | cons event events ih =>
      have hnext : (countWakeupEvent acc event).2.getSensorInfo = mSensors.getSensorInfo := by
        rw [countWakeupEvent, SensorMap.getSensorInfo_operatorIndex, hacc]
      obtain ⟨hcount, htable⟩ := ih (countWakeupEvent acc event) hnext
      refine ⟨?_, htable⟩
      rw [List.foldl_cons, hcount, SensorMap.wakeups_cons, ← SensorMap.isWakeup_congr hacc]
      show (if acc.2.isWakeup event then acc.1 + 1 else acc.1) + _ = _
      split <;> omega

theorem countNumWakeupEvents_fst (events : List Event) (n : ℕ) :
    (countNumWakeupEvents mSensors events n).1 = mSensors.wakeups (events.take n) := by
  have hcount := (foldl_countWakeupEvent mSensors (events.take n) (0, mSensors) rfl).1
  simpa [countNumWakeupEvents] using hcount

/-- Counting changes no lookup. -/
theorem getSensorInfo_countNumWakeupEvents (events : List Event) (n : ℕ) :
    (countNumWakeupEvents mSensors events n).2.getSensorInfo = mSensors.getSensorInfo :=
  (foldl_countWakeupEvent mSensors (events.take n) (0, mSensors) rfl).2

/-- The count of a whole list. -/
theorem countNumWakeupEvents_length (events : List Event) :
    (countNumWakeupEvents mSensors events events.length).1 = mSensors.wakeups events := by
  rw [countNumWakeupEvents_fst, List.take_length]

/-- **The two counts agree.**  Whatever a sub-HAL posts, known sensors or not: the number
that `processEvents` gives with its events is the one that `countNumWakeupEvents` finds in
them; and if they are split in two, the counts of the parts add up to it, also if the
second part is counted with the table that counting the first one has left. -/
theorem wakeup_counts_agree (subHalIndex : ℕ) (events : List Event) :
    (countNumWakeupEvents mSensors (processEvents mSensors subHalIndex events).1
        (processEvents mSensors subHalIndex events).1.length).1 =
      (processEvents mSensors subHalIndex events).2 ∧
    ∀ front back, (processEvents mSensors subHalIndex events).1 = front ++ back →
      (countNumWakeupEvents mSensors front front.length).1 +
          (countNumWakeupEvents mSensors back back.length).1 =
        (processEvents mSensors subHalIndex events).2 ∧
      (countNumWakeupEvents mSensors front front.length).1 +
          (countNumWakeupEvents (countNumWakeupEvents mSensors front front.length).2 back
            back.length).1 =
        (processEvents mSensors subHalIndex events).2 := by
  rw [processEvents_snd]
  constructor
  · exact countNumWakeupEvents_length mSensors _
  · intro front back hsplit
    have htable := getSensorInfo_countNumWakeupEvents mSensors front front.length
    have hback : (countNumWakeupEvents mSensors front front.length).2.wakeups back =
        mSensors.wakeups back := by
      rw [SensorMap.wakeups, SensorMap.wakeups, SensorMap.isWakeup_congr htable]
    rw [countNumWakeupEvents_length, countNumWakeupEvents_length, countNumWakeupEvents_length,
      hback, hsplit, SensorMap.wakeups_append]
    exact ⟨rfl, rfl⟩

end Sensors
