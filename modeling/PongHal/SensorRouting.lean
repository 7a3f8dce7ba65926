/-
# Sensor handles and the sub-HALs they lead to (`HalProxy.cpp`)

A sub-HAL has its own handles, whose first byte must be clear; the framework sees
them with the index of the sub-HAL in that byte.  The index is put in in two places,
in the sensor list that the proxy loads once and in every event that a sub-HAL posts,
each with its own copy of `setSubHalIndex`, and it is taken out again in every call
of the framework.

`handle_routing`: for up to 128 sub-HALs what comes out is what was put in, and a
call with a handle that has no sub-HAL reaches none.  The first byte holds the sign of
a handle: the index of a negative one, converted to a `size_t`, is out of reach
(`le_extractSubHalIndex_of_neg`).
-/
import PongHal.SensorEvents
import PongHal.TaggedWord

namespace Sensors

/-! ## The index in a handle -/

/-- `kSensorHandleSubHalIndexMask`. -/
def kSensorHandleSubHalIndexMask : Int32 := 0xFF000000

/-- `setSubHalIndex`, the copy of `HalProxy.cpp`. -/
def HalProxy.setSubHalIndex (sensorHandle : Int32) (subHalIndex : ℕ) : Int32 :=
  sensorHandle ||| (Int32.ofNat subHalIndex <<< kBitsAfterSubHalIndex)

/-- `extractSubHalIndex`: the shift is arithmetic, and its result is converted to a
`size_t`. -/
def extractSubHalIndex (sensorHandle : Int32) : ℕ :=
  ((sensorHandle >>> kBitsAfterSubHalIndex).toInt % 2 ^ 64).toNat

/-- `HalProxy::clearSubHalIndex`. -/
def clearSubHalIndex (sensorHandle : Int32) : Int32 :=
  sensorHandle &&& ~~~ kSensorHandleSubHalIndexMask

/-- `HalProxy::subHalIndexIsClear`. -/
def subHalIndexIsClear (sensorHandle : Int32) : Bool :=
  sensorHandle &&& kSensorHandleSubHalIndexMask == 0

/-! ## Loading the sensors -/

/-- A sub-HAL, with the sensors that its `getSensorsList` reports; none if the call
fails. -/
structure SubHal where
  sensorsList : List SensorInfo

/-- What `initializeSensorList` fills in: the sensors, and the index of the sub-HAL
that `mDirectChannelSubHal` points to. -/
structure LoadedSensors where
  mSensors : SensorMap
  mDirectChannelSubHal : Option ℕ

/-- `SensorFlagBits::MASK_DIRECT_REPORT`. -/
def maskDirectReport : UInt32 := 0x380

/-- `SensorFlagBits::MASK_DIRECT_CHANNEL`. -/
def maskDirectChannel : UInt32 := 0xC00

/-- `HalProxy::setDirectChannelFlags`: only the first sub-HAL with a sensor for direct
channels keeps them. -/
def setDirectChannelFlags (mDirectChannelSubHal : Option ℕ) (sensorInfo : SensorInfo)
    (subHalIndex : ℕ) : Option ℕ × SensorInfo :=
  let sensorSupportsDirectChannel :=
    sensorInfo.flags &&& (maskDirectReport ||| maskDirectChannel) != 0
  if mDirectChannelSubHal = none ∧ sensorSupportsDirectChannel then (some subHalIndex, sensorInfo)
  else if mDirectChannelSubHal ≠ none ∧ some subHalIndex ≠ mDirectChannelSubHal then
    (mDirectChannelSubHal,
      { sensorInfo with
        flags := sensorInfo.flags &&& ~~~ (maskDirectReport ||| maskDirectChannel) })
  else (mDirectChannelSubHal, sensorInfo)

/-- The patch of the spacewar pickup sensor. -/
def standardizePickup (sensor : SensorInfo) : SensorInfo :=
  if sensor.typeAsString = "android.sensor.wrist_tilt_gesture" then
    { sensor with
      type := pickUpGesture
      typeAsString := "android.sensor.pick_up_gesture" }
  else sensor

/-- The body of the inner loop of `initializeSensorList`. -/
def loadSensor (subHalIndex : ℕ) (loaded : LoadedSensors) (sensor : SensorInfo) :
    LoadedSensors :=
  if !subHalIndexIsClear sensor.sensorHandle then loaded
  else
    let sensor :=
      { sensor with sensorHandle := HalProxy.setSubHalIndex sensor.sensorHandle subHalIndex }
    let flagged := setDirectChannelFlags loaded.mDirectChannelSubHal sensor subHalIndex
    let sensor := standardizePickup flagged.2
    ⟨loaded.mSensors.insert sensor.sensorHandle sensor, flagged.1⟩

/-- The body of the outer loop: the sensors of one sub-HAL. -/
def loadSubHal (loaded : LoadedSensors) (subHal : SubHal × ℕ) : LoadedSensors :=
  subHal.1.sensorsList.foldl (loadSensor subHal.2) loaded

/-- `HalProxy::initializeSensorList`. -/
def initializeSensorList (mSubHalList : List SubHal) : LoadedSensors :=
  mSubHalList.zipIdx.foldl loadSubHal ⟨∅, none⟩

/-! ## The calls of the framework -/

/-- A call of a sub-HAL. -/
inductive Request
  | activate (sensorHandle : Int32) (enabled : Bool)
  | batch (sensorHandle : Int32) (samplingPeriodNs maxReportLatencyNs : Int64)
  | flush (sensorHandle : Int32)
  | injectSensorData (event : Event)
  deriving DecidableEq, Repr

/-- What becomes of a call of the framework: the proxy answers it itself, and it
reaches no sub-HAL, or one sub-HAL is called, whose answer is the answer. -/
inductive Outcome
  | returned (result : Result)
  | passedTo (subHalIndex : ℕ) (request : Request)
  deriving DecidableEq, Repr

section Calls

variable (mSubHalList : List SubHal)

/-- `HalProxy::isSubHalIndexValid`. -/
def isSubHalIndexValid (sensorHandle : Int32) : Bool :=
  extractSubHalIndex sensorHandle < mSubHalList.length

/-- The check that all calls make, and the call of `getSubHalForSensorHandle`'s
sub-HAL with the handle cleared. -/
def callSubHal (sensorHandle : Int32) (request : Int32 → Request) : Outcome :=
  if !isSubHalIndexValid mSubHalList sensorHandle then .returned .badValue
  else .passedTo (extractSubHalIndex sensorHandle) (request (clearSubHalIndex sensorHandle))

/-- `HalProxy::activate`. -/
def activate (sensorHandle : Int32) (enabled : Bool) : Outcome :=
  callSubHal mSubHalList sensorHandle fun handle => .activate handle enabled

/-- `HalProxy::batch`. -/
def batch (sensorHandle : Int32) (samplingPeriodNs maxReportLatencyNs : Int64) : Outcome :=
  callSubHal mSubHalList sensorHandle fun handle =>
    .batch handle samplingPeriodNs maxReportLatencyNs

/-- `HalProxy::flush`. -/
def flush (sensorHandle : Int32) : Outcome := callSubHal mSubHalList sensorHandle .flush

/-- `HalProxy::injectSensorData`. -/
def injectSensorData (mCurrentOperationMode : OperationMode) (event : Event) : Outcome :=
  if mCurrentOperationMode = .normal ∧ event.sensorType ≠ additionalInfo then .returned .badValue
  else
    callSubHal mSubHalList event.sensorHandle fun handle =>
      .injectSensorData { event with sensorHandle := handle }

/-- `HalProxy::injectSensorData_2_1`; the old event has the same data. -/
def injectSensorData_2_1 (mCurrentOperationMode : OperationMode) (event : Event) : Outcome :=
  injectSensorData mSubHalList mCurrentOperationMode event

end Calls

/-! ## Putting the index in and taking it out -/

open TaggedWord

theorem toBitVec_setSubHalIndex (sensorHandle : Int32) (subHalIndex : ℕ) :
    (HalProxy.setSubHalIndex sensorHandle subHalIndex).toBitVec =
      tag 24 sensorHandle.toBitVec subHalIndex := rfl

theorem toBitVec_clearSubHalIndex (sensorHandle : Int32) :
    (clearSubHalIndex sensorHandle).toBitVec = untag 24 sensorHandle.toBitVec := by
  rw [clearSubHalIndex, untag, show mask 32 24 = kSensorHandleSubHalIndexMask.toBitVec from rfl]
  rfl

theorem extractSubHalIndex_eq (sensorHandle : Int32) :
    extractSubHalIndex sensorHandle = (index 24 sensorHandle.toBitVec % 2 ^ 64).toNat := rfl

/-- The two copies of `setSubHalIndex` are the same function. -/
theorem setSubHalIndex_eq : setSubHalIndex = HalProxy.setSubHalIndex := rfl

theorem subHalIndexIsClear_iff (sensorHandle : Int32) :
    subHalIndexIsClear sensorHandle = true ↔ sensorHandle.toBitVec.toNat < 2 ^ 24 := by
  rw [← and_mask_eq_zero_iff _ (by omega), subHalIndexIsClear, beq_iff_eq, ← Int32.toBitVec_inj,
    show mask 32 24 = kSensorHandleSubHalIndexMask.toBitVec from rfl]
  rfl

variable {sensorHandle : Int32} {subHalIndex : ℕ}

/-- Clearing gives back the handle of the sub-HAL. -/
theorem clearSubHalIndex_setSubHalIndex (hclear : subHalIndexIsClear sensorHandle = true)
    (subHalIndex : ℕ) :
    clearSubHalIndex (HalProxy.setSubHalIndex sensorHandle subHalIndex) = sensorHandle := by
  apply Int32.toBitVec_inj.1
  rw [toBitVec_clearSubHalIndex, toBitVec_setSubHalIndex]
  exact untag_tag subHalIndex (by omega) ((subHalIndexIsClear_iff _).1 hclear)

/-- Extracting gives back the index of the sub-HAL. -/
theorem extractSubHalIndex_setSubHalIndex (hclear : subHalIndexIsClear sensorHandle = true)
    (hindex : subHalIndex < 128) :
    extractSubHalIndex (HalProxy.setSubHalIndex sensorHandle subHalIndex) = subHalIndex := by
  have hread : index 24 (tag 24 sensorHandle.toBitVec subHalIndex) = subHalIndex :=
    index_tag (by omega) ((subHalIndexIsClear_iff _).1 hclear) (by omega)
  rw [extractSubHalIndex_eq, toBitVec_setSubHalIndex, hread]
  omega

/-- A handle that is not negative is the one of exactly this sub-HAL and sensor. -/
theorem setSubHalIndex_extractSubHalIndex (hnonneg : 0 ≤ sensorHandle.toInt) :
    HalProxy.setSubHalIndex (clearSubHalIndex sensorHandle) (extractSubHalIndex sensorHandle) =
      sensorHandle := by
  have hindex : (index 24 sensorHandle.toBitVec % 2 ^ 64).toNat =
      (index 24 sensorHandle.toBitVec).toNat := by
    have hle : sensorHandle.toInt < 2 ^ 31 := Int32.toInt_lt sensorHandle
    rw [index_eq_div, show sensorHandle.toBitVec.toInt = sensorHandle.toInt from rfl]
    omega
  apply Int32.toBitVec_inj.1
  rw [toBitVec_setSubHalIndex, toBitVec_clearSubHalIndex, extractSubHalIndex_eq, hindex]
  exact tag_untag (by omega) hnonneg

/-- Converted to a `size_t`, the index of a negative handle is out of reach. -/
theorem le_extractSubHalIndex_of_neg (hneg : sensorHandle.toInt < 0) :
    2 ^ 64 - 128 ≤ extractSubHalIndex sensorHandle := by
  have hindex : index 24 sensorHandle.toBitVec < 0 := index_neg hneg
  have hle : -2 ^ 7 ≤ index 24 sensorHandle.toBitVec := neg_le_index _ (by omega)
  rw [extractSubHalIndex_eq]
  omega

theorem subHalIndexIsClear_clearSubHalIndex (sensorHandle : Int32) :
    subHalIndexIsClear (clearSubHalIndex sensorHandle) = true := by
  rw [subHalIndexIsClear_iff, toBitVec_clearSubHalIndex, toNat_untag _ (by omega)]
  omega

/-! ## The loaded sensors -/

/-- The sub-HAL at this index reports a sensor with this handle, and the handle is
accepted. -/
def Accepted (mSubHalList : List SubHal) (subHalIndex : ℕ) (sensorHandle : Int32) : Prop :=
  subHalIndexIsClear sensorHandle = true ∧
    ∃ subHal ∈ mSubHalList[subHalIndex]?, ∃ sensor ∈ subHal.sensorsList,
      sensor.sensorHandle = sensorHandle

/-- Every sensor is stored under its own handle. -/
def LoadedSensors.Keyed (loaded : LoadedSensors) : Prop :=
  ∀ (key : Int32) (info : SensorInfo), loaded.mSensors[key]? = some info → info.sensorHandle = key

@[simp] theorem sensorHandle_setDirectChannelFlags (direct : Option ℕ) (sensor : SensorInfo)
    (subHalIndex : ℕ) :
    (setDirectChannelFlags direct sensor subHalIndex).2.sensorHandle = sensor.sensorHandle := by
  rw [setDirectChannelFlags]
  split
  · rfl
  · split <;> rfl

@[simp] theorem sensorHandle_standardizePickup (sensor : SensorInfo) :
    (standardizePickup sensor).sensorHandle = sensor.sensorHandle := by
  rw [standardizePickup]
  split <;> rfl

/-- A sensor is stored under the handle with the index, or skipped. -/
theorem mSensors_loadSensor (loaded : LoadedSensors) (sensor : SensorInfo) (subHalIndex : ℕ) :
    (subHalIndexIsClear sensor.sensorHandle = false ∧
      loadSensor subHalIndex loaded sensor = loaded) ∨
    (subHalIndexIsClear sensor.sensorHandle = true ∧
      ∃ info, info.sensorHandle = HalProxy.setSubHalIndex sensor.sensorHandle subHalIndex ∧
        (loadSensor subHalIndex loaded sensor).mSensors =
          loaded.mSensors.insert info.sensorHandle info) := by
  rw [loadSensor]
  cases hclear : subHalIndexIsClear sensor.sensorHandle with
  | false => exact .inl ⟨rfl, rfl⟩
  | true => exact .inr ⟨rfl, _, by simp, rfl⟩

theorem LoadedSensors.Keyed.loadSensor {loaded : LoadedSensors} (h : loaded.Keyed)
    (sensor : SensorInfo) (subHalIndex : ℕ) :
    (Sensors.loadSensor subHalIndex loaded sensor).Keyed := by
  rcases mSensors_loadSensor loaded sensor subHalIndex with ⟨-, hskip⟩ | ⟨-, info, -, hstore⟩
  · rw [hskip]
    exact h
  · rw [LoadedSensors.Keyed, hstore]
    intro key info' hget
    rw [Std.TreeMap.getElem?_insert] at hget
    split at hget
    · rename_i hkey
      obtain rfl := Option.some.inj hget
      exact Std.LawfulEqCmp.eq_of_compare hkey
    · exact h key info' hget

theorem keyed_initializeSensorList (mSubHalList : List SubHal) :
    (initializeSensorList mSubHalList).Keyed := by
  refine List.foldlRecOn (motive := LoadedSensors.Keyed) _ _ ?_ ?_
  · intro key info hget
    simp at hget
  · intro loaded hloaded subHal _
    exact List.foldlRecOn (motive := LoadedSensors.Keyed) _ _ hloaded
      fun _ h sensor _ => h.loadSensor sensor subHal.2

/-- The handles stored after the sensors of one sub-HAL. -/
theorem mem_foldl_loadSensor (sensors : List SensorInfo) (subHalIndex : ℕ)
    (loaded : LoadedSensors) (key : Int32) :
    key ∈ (sensors.foldl (loadSensor subHalIndex) loaded).mSensors ↔
      key ∈ loaded.mSensors ∨ ∃ sensor ∈ sensors, subHalIndexIsClear sensor.sensorHandle = true ∧
        key = HalProxy.setSubHalIndex sensor.sensorHandle subHalIndex := by
  induction sensors generalizing loaded with
  | nil => simp
  | cons sensor sensors ih =>
      rw [List.foldl_cons, ih]
      rcases mSensors_loadSensor loaded sensor subHalIndex with
        ⟨hclear, hskip⟩ | ⟨hclear, info, hinfo, hstore⟩
      · rw [hskip]
        simp [hclear]
      · rw [hstore, hinfo, Std.TreeMap.mem_insert, Std.LawfulEqCmp.compare_eq_iff_eq]
        simp only [List.mem_cons, exists_eq_or_imp, hclear, true_and]
        rw [eq_comm (b := key)]
        tauto

/-- The handles stored after all the sub-HALs. -/
theorem mem_foldl_loadSubHal (subHals : List (SubHal × ℕ)) (loaded : LoadedSensors)
    (key : Int32) :
    key ∈ (subHals.foldl loadSubHal loaded).mSensors ↔
      key ∈ loaded.mSensors ∨ ∃ subHal ∈ subHals, ∃ sensor ∈ subHal.1.sensorsList,
        subHalIndexIsClear sensor.sensorHandle = true ∧
          key = HalProxy.setSubHalIndex sensor.sensorHandle subHal.2 := by
  induction subHals generalizing loaded with
  | nil => simp
  | cons subHal subHals ih =>
      rw [List.foldl_cons, ih, loadSubHal, mem_foldl_loadSensor]
      simp only [List.mem_cons, exists_eq_or_imp]
      rw [or_assoc]

/-- The handles of the sensor list are those of the accepted sensors. -/
theorem mem_initializeSensorList (mSubHalList : List SubHal) (key : Int32) :
    key ∈ (initializeSensorList mSubHalList).mSensors ↔
      ∃ (subHalIndex : ℕ) (sensorHandle : Int32), Accepted mSubHalList subHalIndex sensorHandle ∧
        key = HalProxy.setSubHalIndex sensorHandle subHalIndex := by
  rw [initializeSensorList, mem_foldl_loadSubHal]
  constructor
  · rintro (hempty | ⟨⟨subHal, subHalIndex⟩, hsubHal, sensor, hsensor, hclear, hkey⟩)
    · simp at hempty
    · rw [List.mem_zipIdx_iff_getElem?] at hsubHal
      exact ⟨subHalIndex, sensor.sensorHandle,
        ⟨hclear, subHal, hsubHal, sensor, hsensor, rfl⟩, hkey⟩
  · rintro ⟨subHalIndex, _, ⟨hclear, subHal, hsubHal, sensor, hsensor, rfl⟩, hkey⟩
    right
    refine ⟨(subHal, subHalIndex), ?_, sensor, hsensor, hclear, hkey⟩
    rwa [List.mem_zipIdx_iff_getElem?]

theorem Accepted.lt_length {mSubHalList : List SubHal}
    (h : Accepted mSubHalList subHalIndex sensorHandle) : subHalIndex < mSubHalList.length := by
  obtain ⟨-, subHal, hsubHal, -⟩ := h
  exact (List.getElem?_eq_some_iff.1 hsubHal).1

/-! ## Calls and events -/

/-- A call whose handle has no sub-HAL reaches none. -/
theorem callSubHal_of_le {mSubHalList : List SubHal}
    (h : mSubHalList.length ≤ extractSubHalIndex sensorHandle) (request : Int32 → Request) :
    callSubHal mSubHalList sensorHandle request = .returned .badValue := by
  rw [callSubHal, isSubHalIndexValid]
  simp [h]

/-- The handles that reach a sub-HAL are its own with its index put in, whether it has
such a sensor or not. -/
theorem callSubHal_eq_passedTo_iff {mSubHalList : List SubHal}
    (hsize : mSubHalList.length ≤ 128) (request : Int32 → Request) (r : Request) :
    callSubHal mSubHalList sensorHandle request = .passedTo subHalIndex r ↔
      subHalIndex < mSubHalList.length ∧ ∃ handle, subHalIndexIsClear handle = true ∧
        sensorHandle = HalProxy.setSubHalIndex handle subHalIndex ∧ r = request handle := by
  constructor
  · intro hcall
    rw [callSubHal, isSubHalIndexValid] at hcall
    split at hcall
    · simp at hcall
    · rename_i hvalid
      simp only [Outcome.passedTo.injEq] at hcall
      obtain ⟨rfl, rfl⟩ := hcall
      have hlt : extractSubHalIndex sensorHandle < mSubHalList.length := by simpa using hvalid
      have hnonneg : 0 ≤ sensorHandle.toInt := by
        by_contra hneg
        have hfar := le_extractSubHalIndex_of_neg (not_le.1 hneg)
        omega
      exact ⟨hlt, _, subHalIndexIsClear_clearSubHalIndex sensorHandle,
        (setSubHalIndex_extractSubHalIndex hnonneg).symm, rfl⟩
  · rintro ⟨hlt, handle, hclear, rfl, rfl⟩
    have hindex : subHalIndex < 128 := by omega
    rw [callSubHal, isSubHalIndexValid, extractSubHalIndex_setSubHalIndex hclear hindex,
      clearSubHalIndex_setSubHalIndex hclear]
    simp [hlt]

/-- A call with the handle of a sensor reaches its sub-HAL, with its handle there. -/
theorem callSubHal_of_accepted {mSubHalList : List SubHal} (hsize : mSubHalList.length ≤ 128)
    (h : Accepted mSubHalList subHalIndex sensorHandle) (request : Int32 → Request) :
    callSubHal mSubHalList (HalProxy.setSubHalIndex sensorHandle subHalIndex) request =
      .passedTo subHalIndex (request sensorHandle) :=
  (callSubHal_eq_passedTo_iff hsize request _).2 ⟨h.lt_length, sensorHandle, h.1, rfl, rfl⟩

/-- A forwarded event is a posted one, with the index of the sub-HAL in its handle. -/
theorem exists_of_mem_processEvents {mSensors : SensorMap} {events : List Event} {e : Event}
    (he : e ∈ (processEvents mSensors subHalIndex events).1) :
    ∃ event ∈ events,
      e = { event with sensorHandle := setSubHalIndex event.sensorHandle subHalIndex } := by
  induction events with
  | nil => simp [processEvents] at he
  | cons event events ih =>
      rw [processEvents] at he
      simp only at he
      split at he
      · obtain ⟨event', hevent', heq⟩ := ih he
        exact ⟨event', List.mem_cons_of_mem _ hevent', heq⟩
      · rcases List.mem_cons.1 he with rfl | htail
        · exact ⟨event, List.mem_cons_self, rfl⟩
        · obtain ⟨event', hevent', heq⟩ := ih htail
          exact ⟨event', List.mem_cons_of_mem _ hevent', heq⟩

/-! ## The round trip -/

/-- The sensors of the sub-HALs are told apart by their handles, and the handles lead
back to them. -/
structure RoundTrip (mSubHalList : List SubHal) : Prop where
  /-- An accepted sensor is in the list under the handle with its index. -/
  stored : ∀ i h, Accepted mSubHalList i h →
    ∃ info, (initializeSensorList mSubHalList).mSensors[HalProxy.setSubHalIndex h i]? = some info ∧
      info.sensorHandle = HalProxy.setSubHalIndex h i
  /-- Two sensors have two handles. -/
  distinct : ∀ i h j h', Accepted mSubHalList i h → Accepted mSubHalList j h' →
    (i, h) ≠ (j, h') → HalProxy.setSubHalIndex h i ≠ HalProxy.setSubHalIndex h' j
  /-- The calls with a sensor's handle reach its sub-HAL, with its handle there. -/
  calls : ∀ i h, Accepted mSubHalList i h →
    (∀ enabled, activate mSubHalList (HalProxy.setSubHalIndex h i) enabled =
      .passedTo i (.activate h enabled)) ∧
    (∀ samplingPeriodNs maxReportLatencyNs,
      batch mSubHalList (HalProxy.setSubHalIndex h i) samplingPeriodNs maxReportLatencyNs =
        .passedTo i (.batch h samplingPeriodNs maxReportLatencyNs)) ∧
    flush mSubHalList (HalProxy.setSubHalIndex h i) = .passedTo i (.flush h)
  /-- So do events to inject that the operation mode admits. -/
  injected : ∀ i h mode (event : Event), Accepted mSubHalList i h →
    event.sensorHandle = HalProxy.setSubHalIndex h i →
    (mode = .normal → event.sensorType = additionalInfo) →
    injectSensorData mSubHalList mode event =
        .passedTo i (.injectSensorData { event with sensorHandle := h }) ∧
      injectSensorData_2_1 mSubHalList mode event =
        .passedTo i (.injectSensorData { event with sensorHandle := h })
  /-- The events that a sub-HAL posts go on with the handles of their sensors. -/
  events : ∀ (mSensors : SensorMap) i (posted : List Event),
    ∀ e ∈ (processEvents mSensors i posted).1, ∃ event ∈ posted,
      e = { event with sensorHandle := HalProxy.setSubHalIndex event.sensorHandle i }
  /-- A handle that has no sub-HAL reaches none. -/
  rejected : ∀ handle, mSubHalList.length ≤ extractSubHalIndex handle →
    (∀ enabled, activate mSubHalList handle enabled = .returned .badValue) ∧
    (∀ samplingPeriodNs maxReportLatencyNs,
      batch mSubHalList handle samplingPeriodNs maxReportLatencyNs = .returned .badValue) ∧
    flush mSubHalList handle = .returned .badValue ∧
    ∀ mode (event : Event), event.sensorHandle = handle →
      injectSensorData mSubHalList mode event = .returned .badValue ∧
        injectSensorData_2_1 mSubHalList mode event = .returned .badValue

/-- Two accepted sensors with the same handle in the list are the same. -/
theorem Accepted.eq_of_setSubHalIndex_eq {mSubHalList : List SubHal}
    (hsize : mSubHalList.length ≤ 128) {i j : ℕ} {h h' : Int32}
    (hi : Accepted mSubHalList i h) (hj : Accepted mSubHalList j h')
    (heq : HalProxy.setSubHalIndex h i = HalProxy.setSubHalIndex h' j) : (i, h) = (j, h') := by
  have hi' : i < 128 := hi.lt_length.trans_le hsize
  have hj' : j < 128 := hj.lt_length.trans_le hsize
  have hindex := extractSubHalIndex_setSubHalIndex hi.1 hi'
  have hhandle := clearSubHalIndex_setSubHalIndex hi.1 i
  rw [heq, extractSubHalIndex_setSubHalIndex hj.1 hj'] at hindex
  rw [heq, clearSubHalIndex_setSubHalIndex hj.1] at hhandle
  rw [hindex, hhandle]

/-- An event that the mode does not admit, or whose handle has no sub-HAL, is not
injected. -/
theorem injectSensorData_of_le {mSubHalList : List SubHal} (mode : OperationMode) (event : Event)
    (h : mSubHalList.length ≤ extractSubHalIndex event.sensorHandle) :
    injectSensorData mSubHalList mode event = .returned .badValue := by
  rw [injectSensorData]
  split
  · rfl
  · exact callSubHal_of_le h _

theorem injectSensorData_of_accepted {mSubHalList : List SubHal}
    (hsize : mSubHalList.length ≤ 128) {i : ℕ} {h : Int32} {mode : OperationMode} {event : Event}
    (hi : Accepted mSubHalList i h) (hkey : event.sensorHandle = HalProxy.setSubHalIndex h i)
    (hmode : mode = .normal → event.sensorType = additionalInfo) :
    injectSensorData mSubHalList mode event =
      .passedTo i (.injectSensorData { event with sensorHandle := h }) := by
  have hadmitted : ¬ (mode = .normal ∧ event.sensorType ≠ additionalInfo) := by
    rintro ⟨hnormal, htype⟩
    exact htype (hmode hnormal)
  rw [injectSensorData, if_neg hadmitted, hkey, callSubHal_of_accepted hsize hi]

/-- **Handle routing.**  With up to 128 sub-HALs every sensor is found again from its
handle, in calls and in events. -/
theorem handle_routing (mSubHalList : List SubHal) (hsize : mSubHalList.length ≤ 128) :
    RoundTrip mSubHalList where
  stored i h hi := by
    have hmem : HalProxy.setSubHalIndex h i ∈ (initializeSensorList mSubHalList).mSensors :=
      (mem_initializeSensorList mSubHalList _).2 ⟨i, h, hi, rfl⟩
    obtain ⟨info, hinfo⟩ := Option.isSome_iff_exists.1 (Std.TreeMap.isSome_getElem?_iff_mem.2 hmem)
    exact ⟨info, hinfo, keyed_initializeSensorList mSubHalList _ info hinfo⟩
  distinct i h j h' hi hj hne heq := hne (hi.eq_of_setSubHalIndex_eq hsize hj heq)
  calls i h hi :=
    ⟨fun _ => callSubHal_of_accepted hsize hi _, fun _ _ => callSubHal_of_accepted hsize hi _,
      callSubHal_of_accepted hsize hi _⟩
  injected i h mode event hi hkey hmode :=
    have hsent := injectSensorData_of_accepted hsize hi hkey hmode
    ⟨hsent, hsent⟩
  events mSensors i posted e he := by
    rw [← setSubHalIndex_eq]
    exact exists_of_mem_processEvents he
  rejected handle hle := by
    refine ⟨fun _ => callSubHal_of_le hle _, fun _ _ => callSubHal_of_le hle _,
      callSubHal_of_le hle _, ?_⟩
    rintro mode event rfl
    exact ⟨injectSensorData_of_le mode event hle, injectSensorData_of_le mode event hle⟩

/-- Two sub-HALs with a sensor of the same handle, and one that is not accepted. -/
theorem handle_routing_twoSubHals :
    RoundTrip [⟨[{ sensorHandle := 1 }]⟩,
      ⟨[{ sensorHandle := 1 }, { sensorHandle := 0x01000001 }]⟩] :=
  handle_routing _ (by decide)

end Sensors
