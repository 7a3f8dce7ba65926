/-
# What the pick-up filter drops (`HalProxyCallback.cpp`)

`processEvents` keeps events of pick-up sensors back unless they carry a one.  It reads
`event.u.scalar` for that, whatever the event is: in a flush-complete event the union
holds `u.meta.what`, in an additional-info event `u.additional`, and neither is a one as
a float.  So a pick-up sensor that is flushed never says so (`pick_up_filter_iff`).

The sub-HAL does not know of the filter.  It locks the wakelock for the events that it
posts, and `postEvents` asserts that it is locked exactly if wake-up events are left;
`wakelock_asserts_iff` says when they are.
-/
import PongHal.SensorTypes

namespace Sensors

/-! ## The filter -/

/-- The event as it goes on, with the index of its sub-HAL in the handle. -/
def Event.ofSubHal (subHalIndex : ℕ) (event : Event) : Event :=
  { event with sensorHandle := setSubHalIndex event.sensorHandle subHalIndex }

/-- The sensor of the event is a pick-up sensor. -/
def SensorMap.isPickUp (mSensors : SensorMap) (event : Event) : Bool :=
  decide ((mSensors.getSensorInfo event.sensorHandle).type = pickUpGesture)

/-- The test of `processEvents`, which does not look at the type of the event. -/
def SensorMap.passes (mSensors : SensorMap) (event : Event) : Bool :=
  !(mSensors.isPickUp event && decide (event.u ≠ floatOne))

/-- The events that are to go on: all but the data of a pick-up sensor without a one. -/
def SensorMap.wanted (mSensors : SensorMap) (event : Event) : Bool :=
  !(decide (IsDataType event.sensorType) && mSensors.isPickUp event &&
    decide (event.u ≠ floatOne))

theorem SensorMap.passes_eq_false_iff (mSensors : SensorMap) (event : Event) :
    mSensors.passes event = false ↔
      (mSensors.getSensorInfo event.sensorHandle).type = pickUpGesture ∧ event.u ≠ floatOne := by
  simp [SensorMap.passes, SensorMap.isPickUp]

variable (mSensors : SensorMap) (subHalIndex : ℕ) (events : List Event)

/-- The loop of `processEvents` on the events that go on. -/
theorem processEvents_cons_fst (event : Event) :
    (processEvents mSensors subHalIndex (event :: events)).1 =
      if mSensors.passes (event.ofSubHal subHalIndex) then
        event.ofSubHal subHalIndex :: (processEvents mSensors subHalIndex events).1
      else (processEvents mSensors subHalIndex events).1 := by
  have htest := mSensors.passes_eq_false_iff (event.ofSubHal subHalIndex)
  cases hpass : mSensors.passes (event.ofSubHal subHalIndex) with
  | false =>
      have hdrop := htest.1 hpass
      rw [if_neg Bool.false_ne_true]
      exact congrArg Prod.fst (if_pos hdrop)
  | true =>
      have hkeep := mt htest.2 (by simp [hpass])
      rw [if_pos rfl]
      exact congrArg Prod.fst (if_neg hkeep)

/-- `processEvents` is a filter. -/
theorem processEvents_fst :
    (processEvents mSensors subHalIndex events).1 =
      (events.map (Event.ofSubHal subHalIndex)).filter mSensors.passes := by
  induction events with
  | nil => rfl
  | cons event events ih => rw [processEvents_cons_fst, List.map_cons, List.filter_cons, ih]

/-- Two filters keep the same of a list exactly if they agree on its members. -/
theorem filter_eq_filter_iff {α : Type*} {p q : α → Bool} {l : List α} :
    l.filter p = l.filter q ↔ ∀ x ∈ l, p x = q x := by
  constructor
  · intro h x hx
    have hmem : x ∈ l.filter p ↔ x ∈ l.filter q := by rw [h]
    rw [List.mem_filter, List.mem_filter] at hmem
    rw [Bool.eq_iff_iff]
    simpa [hx] using hmem
  · exact List.filter_congr

/-- The filter drops an event that is to go on exactly if it is none of data. -/
theorem SensorMap.passes_eq_wanted_iff (event : Event) :
    mSensors.passes event = mSensors.wanted event ↔
      (¬ IsDataType event.sensorType → mSensors.isPickUp event = true →
        event.u = floatOne) := by
  unfold SensorMap.passes SensorMap.wanted
  by_cases hdata : IsDataType event.sensorType <;>
    by_cases hpick : mSensors.isPickUp event <;> simp [hdata, hpick]

/-- **Exactly when the filter drops pick-up data only.**  `processEvents` forwards, in
order and with a new handle, the events other than data of a pick-up sensor without a
one, if and only if no other event of a pick-up sensor in the list is without a one. -/
theorem pick_up_filter_iff :
    (processEvents mSensors subHalIndex events).1 =
        (events.map (Event.ofSubHal subHalIndex)).filter mSensors.wanted ↔
      ∀ event ∈ events, ¬ IsDataType event.sensorType →
        mSensors.isPickUp (event.ofSubHal subHalIndex) = true → event.u = floatOne := by
  rw [processEvents_fst, filter_eq_filter_iff, List.forall_mem_map]
  refine forall₂_congr fun event _ => ?_
  exact mSensors.passes_eq_wanted_iff _

/-- A wrist tilt sensor, shown as a pick-up sensor, is flushed: the flush-complete event
that it posts has the value `META_DATA_FLUSH_COMPLETE`, `1` as an integer, and is
dropped. -/
theorem flush_complete_dropped :
    processEvents (initializeSensorList [wristTiltSubHal]).mSensors 0 [⟨0, 1, metaData, 1⟩] =
        ([], 0) ∧
      ([⟨0, 1, metaData, 1⟩].map (Event.ofSubHal 0)).filter
        (initializeSensorList [wristTiltSubHal]).mSensors.wanted = [⟨0, 1, metaData, 1⟩] := by
  decide

/-! ## The wakelock of a post -/

/-- The assertion that `postEvents` checks for some number of wake-up events. -/
def wakelockAssert (numWakeupEvents : ℕ) (isLocked : Bool) : Bool :=
  if numWakeupEvents > 0 then isLocked else !isLocked

/-- The assertion says that the wakelock is locked exactly if there are wake-up events. -/
theorem wakelockAssert_iff (numWakeupEvents : ℕ) (isLocked : Bool) :
    wakelockAssert numWakeupEvents isLocked = true ↔
      (0 < numWakeupEvents ↔ isLocked = true) := by
  unfold wakelockAssert
  split
  · rename_i hpos
    exact (iff_true_left hpos).symm
  · rename_i hzero
    rw [iff_false_left hzero, Bool.not_eq_true', Bool.not_eq_true]

/-- There are wake-up events to count exactly if one of the list passes the filter. -/
theorem processEvents_snd_pos_iff :
    0 < (processEvents mSensors subHalIndex events).2 ↔
      ∃ e ∈ events.map (Event.ofSubHal subHalIndex),
        mSensors.isWakeup e = true ∧ mSensors.passes e = true := by
  rw [processEvents_snd, processEvents_fst, SensorMap.wakeups, List.countP_pos_iff]
  simp only [List.mem_filter]
  constructor
  · rintro ⟨e, ⟨he, hpass⟩, hwake⟩
    exact ⟨e, he, hwake, hpass⟩
  · rintro ⟨e, he, hwake, hpass⟩
    exact ⟨e, ⟨he, hpass⟩, hwake⟩

/-- **Exactly when the assertions of `postEvents` hold.**  If the sub-HAL locks the
wakelock for the lists that have an event of a wake-up sensor, then the assertion about
the list holds if and only if the filter leaves one of these events, where there are
any. -/
theorem wakelock_asserts_iff (isLocked : Bool)
    (hlocked : isLocked = true ↔
      ∃ e ∈ events.map (Event.ofSubHal subHalIndex), mSensors.isWakeup e = true) :
    wakelockAssert (processEvents mSensors subHalIndex events).2 isLocked = true ↔
      ((∃ e ∈ events.map (Event.ofSubHal subHalIndex), mSensors.isWakeup e = true) →
        ∃ e ∈ events.map (Event.ofSubHal subHalIndex),
          mSensors.isWakeup e = true ∧ mSensors.passes e = true) := by
  rw [wakelockAssert_iff, processEvents_snd_pos_iff, hlocked]
  constructor
  · exact Iff.mpr
  · intro hleft
    refine ⟨?_, hleft⟩
    rintro ⟨e, he, hwake, -⟩
    exact ⟨e, he, hwake⟩

/-- A sub-HAL with a wrist tilt sensor that wakes the device up, and a sensor that does
not. -/
def wakeUpTiltSubHal : SubHal :=
  ⟨[{ sensorHandle := 1, type := 26, typeAsString := "android.sensor.wrist_tilt_gesture",
      flags := wakeUp },
    { sensorHandle := 2, type := 5 }]⟩

/-- A pick-up with a one, between events of the other sensor: the wakelock is locked, and
there is a wake-up event. -/
theorem wakelock_asserts_iff_pick_up :
    wakelockAssert (processEvents (initializeSensorList [wakeUpTiltSubHal]).mSensors 0
      [⟨0, 2, 5, 0⟩, ⟨1, 1, 26, floatOne⟩, ⟨2, 2, 5, 0⟩]).2 true = true :=
  (wakelock_asserts_iff _ 0 [⟨0, 2, 5, 0⟩, ⟨1, 1, 26, floatOne⟩, ⟨2, 2, 5, 0⟩] true
    (by decide)).2 (by decide)

/-- A pick-up without a one is all that is posted: the wakelock is locked, and there is no
wake-up event left. -/
theorem wakelock_locked_for_dropped_event :
    (∃ e ∈ [⟨0, 1, 26, 0⟩].map (Event.ofSubHal 0),
      (initializeSensorList [wakeUpTiltSubHal]).mSensors.isWakeup e = true) ∧
    (processEvents (initializeSensorList [wakeUpTiltSubHal]).mSensors 0
      [⟨0, 1, 26, 0⟩]).2 = 0 ∧
    wakelockAssert (processEvents (initializeSensorList [wakeUpTiltSubHal]).mSensors 0
      [⟨0, 1, 26, 0⟩]).2 true = false := by
  decide

end Sensors
