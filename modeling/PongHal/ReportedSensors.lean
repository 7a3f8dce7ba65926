/-
# The sensor list, said from what the sub-HALs report (`HalProxy::initializeSensorList`)

The proxy loads the sensors of one sub-HAL after the other into one table, rewrites
them, and chooses the sub-HAL for direct channels on the way.  Each entry can be said
from the reports alone (`getElem?_initializeSensorList`): a handle shows the sensor that
was reported last under it; its flags for direct channels are kept if its sub-HAL is the
first that reports any; and a wrist tilt sensor is shown as a pick-up sensor.
-/
import PongHal.SensorRouting

namespace Sensors

/-! ## Reports -/

/-- A sensor as a sub-HAL reports it, with the index of the sub-HAL. -/
structure ReportedSensor where
  subHalIndex : ℕ
  sensor : SensorInfo
  deriving DecidableEq, Repr

/-- The handle under which the framework sees the sensor. -/
def ReportedSensor.handle (r : ReportedSensor) : Int32 :=
  HalProxy.setSubHalIndex r.sensor.sensorHandle r.subHalIndex

/-- The sensor has a flag for direct channels: `sensorSupportsDirectChannel`. -/
def supportsDirectChannel (sensor : SensorInfo) : Bool :=
  sensor.flags &&& (maskDirectReport ||| maskDirectChannel) != 0

/-- The sensor without these flags. -/
def withoutDirectChannel (sensor : SensorInfo) : SensorInfo :=
  { sensor with flags := sensor.flags &&& ~~~ (maskDirectReport ||| maskDirectChannel) }

section Lists

variable (mSubHalList : List SubHal)

/-- All sensors that the sub-HALs report, in the order of the loops. -/
def reportedSensors : List ReportedSensor :=
  mSubHalList.zipIdx.flatMap fun subHal =>
    subHal.1.sensorsList.map fun sensor => ⟨subHal.2, sensor⟩

/-- Those that are not skipped. -/
def acceptedSensors : List ReportedSensor :=
  (reportedSensors mSubHalList).filter fun r => subHalIndexIsClear r.sensor.sensorHandle

/-- The sub-HAL of the first sensor for direct channels. -/
def directChannelOwner : Option ℕ :=
  ((acceptedSensors mSubHalList).find? fun r => supportsDirectChannel r.sensor).map
    (·.subHalIndex)

/-- The sensor reported last under a handle of the framework. -/
def lastReported (sensorHandle : Int32) : Option ReportedSensor :=
  (acceptedSensors mSubHalList).reverse.find? fun r => r.handle = sensorHandle

end Lists

/-- What the framework is shown of a sensor, if `owner` is the sub-HAL for direct
channels. -/
def ReportedSensor.published (owner : Option ℕ) (r : ReportedSensor) : SensorInfo :=
  let sensor := { r.sensor with sensorHandle := r.handle }
  standardizePickup (if owner = some r.subHalIndex then sensor else withoutDirectChannel sensor)

/-! ## The flags -/

theorem and_not_eq_self {x m : UInt32} (h : x &&& m = 0) : x &&& ~~~ m = x := by
  rw [← UInt32.toBitVec_inj] at h ⊢
  refine BitVec.eq_of_getLsbD_eq fun i hi => ?_
  have hbit : (x &&& m).toBitVec.getLsbD i = false := by simp [h]
  simp only [UInt32.toBitVec_and, BitVec.getLsbD_and, UInt32.toBitVec_not, BitVec.getLsbD_not,
    hi, decide_true, Bool.true_and] at hbit ⊢
  cases hx : x.toBitVec.getLsbD i with
  | false => rfl
  | true => simpa [hx] using hbit

theorem and_not_and_eq_zero (x m : UInt32) : x &&& ~~~ m &&& m = 0 := by
  rw [← UInt32.toBitVec_inj]
  refine BitVec.eq_of_getLsbD_eq fun i hi => ?_
  simp [hi]

theorem withoutDirectChannel_of_not {sensor : SensorInfo}
    (h : supportsDirectChannel sensor = false) : withoutDirectChannel sensor = sensor := by
  rw [supportsDirectChannel, bne_eq_false_iff_eq] at h
  rw [withoutDirectChannel, and_not_eq_self h]

@[simp] theorem supportsDirectChannel_withoutDirectChannel (sensor : SensorInfo) :
    supportsDirectChannel (withoutDirectChannel sensor) = false := by
  rw [supportsDirectChannel, bne_eq_false_iff_eq, withoutDirectChannel]
  exact and_not_and_eq_zero _ _

@[simp] theorem supportsDirectChannel_standardizePickup (sensor : SensorInfo) :
    supportsDirectChannel (standardizePickup sensor) = supportsDirectChannel sensor := by
  unfold standardizePickup
  split <;> rfl

theorem type_standardizePickup (sensor : SensorInfo) :
    (standardizePickup sensor).type =
      if sensor.typeAsString = "android.sensor.wrist_tilt_gesture" then pickUpGesture
      else sensor.type := by
  unfold standardizePickup
  split <;> rfl

/-- The sub-HAL for direct channels is the first one that has use for them, and all
others lose the flags. -/
theorem setDirectChannelFlags_eq (direct : Option ℕ) (sensor : SensorInfo) (subHalIndex : ℕ) :
    setDirectChannelFlags direct sensor subHalIndex =
      let direct' := direct.or (if supportsDirectChannel sensor then some subHalIndex else none)
      (direct', if direct' = some subHalIndex then sensor else withoutDirectChannel sensor) := by
  rw [setDirectChannelFlags, ← supportsDirectChannel, ← withoutDirectChannel]
  cases direct with
  | none =>
      cases hsupports : supportsDirectChannel sensor with
      | true => simp
      | false => simp [withoutDirectChannel_of_not hsupports]
  | some owner =>
      by_cases howner : owner = subHalIndex
      · simp [howner]
      · simp [howner, Ne.symm howner]

/-! ## What is published -/

namespace ReportedSensor

variable (owner : Option ℕ) (r : ReportedSensor)

@[simp] theorem sensorHandle_published : (r.published owner).sensorHandle = r.handle := by
  rw [published, sensorHandle_standardizePickup]
  split <;> rfl

theorem type_published :
    (r.published owner).type =
      if r.sensor.typeAsString = "android.sensor.wrist_tilt_gesture" then pickUpGesture
      else r.sensor.type := by
  rw [published, type_standardizePickup]
  split <;> rfl

/-- Only sensors of the sub-HAL for direct channels are published with their flags. -/
theorem supportsDirectChannel_published :
    supportsDirectChannel (r.published owner) = true ↔
      owner = some r.subHalIndex ∧ supportsDirectChannel r.sensor = true := by
  rw [published, supportsDirectChannel_standardizePickup]
  split
  · rename_i howner
    simp [howner, supportsDirectChannel]
  · rename_i howner
    simp [howner]

/-- For a sensor without such flags it does not matter which sub-HAL that is. -/
theorem published_of_not {r : ReportedSensor} (h : supportsDirectChannel r.sensor = false)
    (owner owner' : Option ℕ) : r.published owner = r.published owner' := by
  have hsame : withoutDirectChannel { r.sensor with sensorHandle := r.handle } =
      { r.sensor with sensorHandle := r.handle } := withoutDirectChannel_of_not h
  simp [published, hsame]

end ReportedSensor

/-! ## The table -/

/-- The body of the inner loop, for a sensor with its sub-HAL. -/
def loadReported (loaded : LoadedSensors) (r : ReportedSensor) : LoadedSensors :=
  loadSensor r.subHalIndex loaded r.sensor

/-- The two loops are one over all accepted sensors. -/
theorem initializeSensorList_eq (mSubHalList : List SubHal) :
    initializeSensorList mSubHalList =
      (acceptedSensors mSubHalList).foldl loadReported ⟨∅, none⟩ := by
  have hskip : ∀ (loaded : LoadedSensors) (r : ReportedSensor),
      (if subHalIndexIsClear r.sensor.sensorHandle then loadReported loaded r else loaded) =
        loadReported loaded r := by
    intro loaded r
    cases hclear : subHalIndexIsClear r.sensor.sensorHandle with
    | true => rfl
    | false => simp [loadReported, loadSensor, hclear]
  rw [acceptedSensors, List.foldl_filter]
  simp only [hskip]
  rw [reportedSensors, List.foldl_flatMap, initializeSensorList]
  simp only [List.foldl_map]
  rfl

theorem loadReported_of_clear {r : ReportedSensor}
    (hclear : subHalIndexIsClear r.sensor.sensorHandle = true) (loaded : LoadedSensors) :
    loadReported loaded r =
      let owner := loaded.mDirectChannelSubHal.or
        (if supportsDirectChannel r.sensor then some r.subHalIndex else none)
      ⟨loaded.mSensors.insert r.handle (r.published owner), owner⟩ := by
  have hsame : supportsDirectChannel { r.sensor with sensorHandle := r.handle } =
      supportsDirectChannel r.sensor := rfl
  rw [loadReported, loadSensor, hclear]
  simp only [Bool.not_true, Bool.false_eq_true, if_false, sensorHandle_standardizePickup,
    sensorHandle_setDirectChannelFlags]
  rw [← ReportedSensor.handle, setDirectChannelFlags_eq, hsame]
  rfl

/-- The loop over accepted sensors: the sub-HAL for direct channels, and the entries of
the table. -/
theorem foldl_loadReported {rs : List ReportedSensor}
    (hclear : ∀ r ∈ rs, subHalIndexIsClear r.sensor.sensorHandle = true) :
    let owner := (rs.find? fun r => supportsDirectChannel r.sensor).map (·.subHalIndex)
    (rs.foldl loadReported ⟨∅, none⟩).mDirectChannelSubHal = owner ∧
      ∀ sensorHandle : Int32, (rs.foldl loadReported ⟨∅, none⟩).mSensors[sensorHandle]? =
        (rs.reverse.find? fun r => r.handle = sensorHandle).map (·.published owner) := by
  induction rs using List.reverseRecOn with
  | nil => simp
  | append_singleton rs r ih =>
      obtain ⟨hdirect, htable⟩ := ih fun r' hr' => hclear r' (List.mem_append_left _ hr')
      simp only [List.foldl_append, List.foldl_cons, List.foldl_nil]
      rw [loadReported_of_clear (hclear r (by simp)), hdirect]
      have howner : ((rs ++ [r]).find? fun r => supportsDirectChannel r.sensor).map
          (·.subHalIndex) =
          ((rs.find? fun r => supportsDirectChannel r.sensor).map (·.subHalIndex)).or
            (if supportsDirectChannel r.sensor then some r.subHalIndex else none) := by
        rw [List.find?_append, Option.map_or]
        congr 1
        cases hr : supportsDirectChannel r.sensor <;> simp [hr]
      rw [howner]
      refine ⟨rfl, fun sensorHandle => ?_⟩
      simp only [Std.TreeMap.getElem?_insert, List.reverse_append, List.reverse_singleton,
        List.singleton_append, List.find?_cons]
      by_cases hr : r.handle = sensorHandle
      · simp [hr]
      · have hcmp : compare r.handle sensorHandle ≠ .eq := by
          rwa [ne_eq, Std.LawfulEqCmp.compare_eq_iff_eq]
        simp only [hr, hcmp, decide_false, if_false, htable]
        refine Option.map_congr fun r' hr' => ?_
        have hmem : r' ∈ rs := List.mem_reverse.1 (List.mem_of_find?_eq_some hr')
        cases hfirst : rs.find? fun r => supportsDirectChannel r.sensor with
        | some _ => simp
        | none =>
            -- none of the sensors before this one has such flags
            have hnot := List.find?_eq_none.1 hfirst r' hmem
            exact ReportedSensor.published_of_not (by simpa using hnot) _ _

section Table

variable (mSubHalList : List SubHal)

theorem clear_of_mem_acceptedSensors {r : ReportedSensor}
    (h : r ∈ acceptedSensors mSubHalList) :
    subHalIndexIsClear r.sensor.sensorHandle = true :=
  (List.mem_filter.1 h).2

/-- The sub-HAL for direct channels is the first that reports such a sensor. -/
theorem mDirectChannelSubHal_initializeSensorList :
    (initializeSensorList mSubHalList).mDirectChannelSubHal = directChannelOwner mSubHalList := by
  rw [initializeSensorList_eq]
  exact (foldl_loadReported fun _ => clear_of_mem_acceptedSensors mSubHalList).1

/-- A handle shows the sensor that was reported last under it. -/
theorem getElem?_initializeSensorList (sensorHandle : Int32) :
    (initializeSensorList mSubHalList).mSensors[sensorHandle]? =
      (lastReported mSubHalList sensorHandle).map
        (·.published (directChannelOwner mSubHalList)) := by
  rw [initializeSensorList_eq]
  exact (foldl_loadReported fun _ => clear_of_mem_acceptedSensors mSubHalList).2 sensorHandle

end Table

theorem handle_of_lastReported {mSubHalList : List SubHal} {sensorHandle : Int32}
    {r : ReportedSensor} (h : lastReported mSubHalList sensorHandle = some r) :
    r.handle = sensorHandle ∧ r ∈ acceptedSensors mSubHalList := by
  have hhandle := List.find?_some h
  exact ⟨by simpa using hhandle, List.mem_reverse.1 (List.mem_of_find?_eq_some h)⟩

/-! ## The lists -/

/-- `HalProxy::getSensorsList_2_1`. -/
def getSensorsList_2_1 (mSensors : SensorMap) : List SensorInfo :=
  mSensors.toList.map (·.2)

/-- `HalProxy::getSensorsList`, for a client of version 2.0. -/
def getSensorsList (convertToOldSensorInfo : SensorInfo → SensorInfo) (mSensors : SensorMap) :
    List SensorInfo :=
  mSensors.toList.map fun entry => convertToOldSensorInfo entry.2

/-- The list has the sensors of the table. -/
theorem mem_getSensorsList_2_1 {mSensors : SensorMap} {info : SensorInfo} :
    info ∈ getSensorsList_2_1 mSensors ↔ ∃ key : Int32, mSensors[key]? = some info := by
  simp [getSensorsList_2_1]

end Sensors
