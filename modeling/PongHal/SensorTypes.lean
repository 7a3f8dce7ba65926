/-
# The types of sensors and of their events (`HalProxy.cpp`, `HalProxyCallback.cpp`)

`initializeSensorList` shows a wrist tilt sensor as a pick-up sensor, and the callback
knows pick-up sensors by the type in the list.  But it leaves the type in an event as
the sub-HAL has set it: the events of a wrist tilt sensor come with the type of one,
for a handle of which the list says that it is a pick-up sensor.

`sensor_types_agree_iff`: types in events are those of the list exactly if no sensor is
shown with another type than one of its events has.
-/
import PongHal.MultiHal
import PongHal.ReportedSensors

namespace Sensors

/-- `SensorType::META_DATA`. -/
def metaData : SensorType := 0

/-- Events of this type are data of a sensor. -/
def IsDataType (type : SensorType) : Prop := type ≠ metaData ∧ type ≠ additionalInfo

instance (type : SensorType) : Decidable (IsDataType type) := inferInstanceAs (Decidable (_ ∧ _))

/-- The data events have the types that the sub-HAL has reported for their handles. -/
def PostedAsReported (mSubHalList : List SubHal) (subHalIndex : ℕ) (events : List Event) : Prop :=
  ∀ event ∈ events, IsDataType event.sensorType →
    ∃ r ∈ reportedSensors mSubHalList, r.subHalIndex = subHalIndex ∧
      r.sensor.sensorHandle = event.sensorHandle ∧ r.sensor.type = event.sensorType

namespace MultiTransition

/-- If the step is a post, its data events have the reported types. -/
def PostsAsReported (mSubHalList : List SubHal) (t : MultiTransition) : Prop :=
  ∀ subHalIndex events wakelock writeOk,
    t.label = .proxy (.postEvents subHalIndex events wakelock writeOk) →
    PostedAsReported mSubHalList subHalIndex events

/-- The events that a post forwards: none before the threads run. -/
def forwarded (t : MultiTransition) : List Event :=
  match t.label with
  | .proxy (.postEvents subHalIndex events ..) =>
      if t.pre.proxy.wakelock.mThreadsRun then
        (processEvents t.pre.proxy.mSensors subHalIndex events).1
      else []
  | _ => []

/-- The data events that a post forwards have the types that the list has for their
handles.  The list is the loaded one: sensors of zeros that later lookups enter into the
table are no sensors of a sub-HAL. -/
def TypesAgree (mSubHalList : List SubHal) (t : MultiTransition) : Prop :=
  ∀ e ∈ t.forwarded, IsDataType e.sensorType →
    ∀ info ∈ getSensorsList_2_1 (initializeSensorList mSubHalList).mSensors,
      info.sensorHandle = e.sensorHandle → e.sensorType = info.type

end MultiTransition

/-- No sensor with data events shares its handle with a wrist tilt sensor, or a sensor of
another type, that was reported after it; nor is it a wrist tilt sensor itself, unless it
has the type of a pick-up sensor. -/
def TypesKept (mSubHalList : List SubHal) : Prop :=
  ∀ r ∈ reportedSensors mSubHalList, IsDataType r.sensor.type →
    ∀ last, lastReported mSubHalList r.handle = some last →
      if last.sensor.typeAsString = "android.sensor.wrist_tilt_gesture" then
        r.sensor.type = pickUpGesture
      else r.sensor.type = last.sensor.type

/-! ## The list -/

/-- The sensors of the list are those reported last under their handles. -/
theorem mem_loadedList_iff {mSubHalList : List SubHal} {info : SensorInfo} :
    info ∈ getSensorsList_2_1 (initializeSensorList mSubHalList).mSensors ↔
      ∃ last, lastReported mSubHalList info.sensorHandle = some last ∧
        info = last.published (directChannelOwner mSubHalList) := by
  simp only [mem_getSensorsList_2_1, getElem?_initializeSensorList, Option.map_eq_some_iff]
  constructor
  · rintro ⟨key, last, hlast, rfl⟩
    refine ⟨last, ?_, rfl⟩
    rwa [last.sensorHandle_published, (handle_of_lastReported hlast).1]
  · rintro ⟨last, hlast, heq⟩
    exact ⟨_, last, hlast, heq.symm⟩

/-- What `TypesKept` asks of a sensor is that it is shown with its own type. -/
theorem eq_type_published_iff (last : ReportedSensor) (owner : Option ℕ) (type : SensorType) :
    type = (last.published owner).type ↔
      if last.sensor.typeAsString = "android.sensor.wrist_tilt_gesture" then
        type = pickUpGesture
      else type = last.sensor.type := by
  rw [last.type_published]
  split <;> rfl

/-! ## The events -/

theorem typesAgree_of_kept {mSubHalList : List SubHal} (hkept : TypesKept mSubHalList)
    {t : MultiTransition} (hposts : t.PostsAsReported mSubHalList) : t.TypesAgree mSubHalList := by
  intro e he hdata info hinfo hhandle
  unfold MultiTransition.forwarded at he
  split at he
  · rename_i subHalIndex events wakelock writeOk hlabel
    split at he
    · obtain ⟨event, hevent, rfl⟩ := exists_of_mem_processEvents he
      obtain ⟨r, hr, rfl, hsame, htype⟩ := hposts _ _ _ _ hlabel event hevent hdata
      obtain ⟨last, hlast, rfl⟩ := mem_loadedList_iff.1 hinfo
      rw [hhandle, setSubHalIndex_eq, ← hsame] at hlast
      rw [← htype] at hdata ⊢
      exact (eq_type_published_iff _ _ _).2 (hkept r hr hdata last hlast)
    · simp at he
  · simp at he

theorem postsAsReported_of_label {mSubHalList : List SubHal} {t : MultiTransition}
    {subHalIndex : ℕ} {events : List Event} {wakelock : Option ℕ} {writeOk : Bool}
    (hlabel : t.label = .proxy (.postEvents subHalIndex events wakelock writeOk))
    (hposted : PostedAsReported mSubHalList subHalIndex events) :
    t.PostsAsReported mSubHalList := by
  intro i events' wakelock' writeOk' hlabel'
  rw [hlabel] at hlabel'
  simp only [MultiLabel.proxy.injEq, ProxyLabel.postEvents.injEq] at hlabel'
  obtain ⟨rfl, rfl, -⟩ := hlabel'
  exact hposted

/-- An event with the value 1 passes, whatever the sensor. -/
theorem processEvents_singleton (mSensors : SensorMap) (subHalIndex : ℕ) {event : Event}
    (hu : event.u = floatOne) :
    (processEvents mSensors subHalIndex [event]).1 =
      [{ event with sensorHandle := setSubHalIndex event.sensorHandle subHalIndex }] := by
  simp [processEvents, hu]

/-- Every sub-HAL can post any events, once the proxy was initialised. -/
theorem exists_post (kWakelockTimeoutNs : ℤ) (mSubHalList : List SubHal) (now subHalIndex : ℕ)
    (events : List Event) :
    ∃ (ts : List MultiTransition) (p : MultiHal), ∃ t ∈ ts,
      (multiMachine kWakelockTimeoutNs).Run (.construct mSubHalList now) ts p ∧
      t.label = .proxy (.postEvents subHalIndex events none true) ∧
      t.pre.proxy.wakelock.mThreadsRun = true := by
  let p₁ := (MultiHal.construct mSubHalList now).stopThreads
  let p₂ := (p₁.clearPendingWrites.exchangeQueues 0).startThreads
  have hexchanged : (multiMachine kWakelockTimeoutNs).Run (.construct mSubHalList now) _
      (p₁.clearPendingWrites.exchangeQueues 0) :=
    ((Machine.Run.start.next (l := .initializeCommon) rfl).next (l := .clearPendingWrites)
      rfl).next (l := .exchangeQueues 0) rfl
  have hstarted : (multiMachine kWakelockTimeoutNs).Run (.construct mSubHalList now) _ p₂ :=
    hexchanged.next (l := .startThreads) rfl
  exact ⟨_, _, _, List.mem_append_right _ (List.mem_singleton_self _),
    hstarted.next (l := .proxy (.postEvents subHalIndex events none true)) rfl, rfl, rfl⟩

/-- **The data events of a sensor come with the type that the list has for it, whenever
the sub-HALs post them with the types they have reported, exactly if no sensor is shown
with another type than it, or another one with its handle, was reported with.** -/
theorem sensor_types_agree_iff (kWakelockTimeoutNs : ℤ) (mSubHalList : List SubHal) (now : ℕ) :
    (∀ (ts : List MultiTransition) (p : MultiHal),
      (multiMachine kWakelockTimeoutNs).Run (.construct mSubHalList now) ts p →
      ∀ t ∈ ts, t.PostsAsReported mSubHalList → t.TypesAgree mSubHalList) ↔
    TypesKept mSubHalList := by
  constructor
  · intro hagree r hr hdata last hlast
    -- the sensor posts an event that is not dropped
    let event : Event := ⟨0, r.sensor.sensorHandle, r.sensor.type, floatOne⟩
    obtain ⟨ts, p, t, ht, hrun, hlabel, hruns⟩ :=
      exists_post kWakelockTimeoutNs mSubHalList now r.subHalIndex [event]
    have hposts : t.PostsAsReported mSubHalList := by
      refine postsAsReported_of_label hlabel ?_
      intro e he _
      rw [List.mem_singleton.1 he]
      exact ⟨r, hr, rfl, rfl, rfl⟩
    have hforwarded : t.forwarded = [{ event with sensorHandle := r.handle }] := by
      rw [MultiTransition.forwarded, hlabel]
      simp only [hruns, if_true]
      exact processEvents_singleton _ _ rfl
    have hshown := (last.sensorHandle_published (directChannelOwner mSubHalList)).trans
      (handle_of_lastReported hlast).1
    have htype := hagree ts p hrun t ht hposts { event with sensorHandle := r.handle }
      (by rw [hforwarded]; exact List.mem_singleton_self _) hdata
      (last.published (directChannelOwner mSubHalList))
      (mem_loadedList_iff.2 ⟨last, by rwa [hshown], rfl⟩) hshown
    exact (eq_type_published_iff _ _ _).1 htype
  · intro hkept ts p _ t _ hposts
    exact typesAgree_of_kept hkept hposts

/-- A sub-HAL with one sensor, a wrist tilt sensor. -/
def wristTiltSubHal : SubHal :=
  ⟨[{ sensorHandle := 1, type := 26, typeAsString := "android.sensor.wrist_tilt_gesture" }]⟩

/-- The sensor posts an event of its type, 26, and the list says 25. -/
theorem wrist_tilt_types :
    ∃ (ts : List MultiTransition) (p : MultiHal),
      (multiMachine 1000).Run (.construct [wristTiltSubHal] 0) ts p ∧
      ∃ t ∈ ts, t.PostsAsReported [wristTiltSubHal] ∧
        t.forwarded = [⟨0, 1, 26, floatOne⟩] ∧ ¬ t.TypesAgree [wristTiltSubHal] := by
  have hpost : ∃ (ts : List MultiTransition) (p : MultiHal),
      (multiMachine 1000).Run (.construct [wristTiltSubHal] 0) ts p ∧
      ∃ t ∈ ts, t.label = .proxy (.postEvents 0 [⟨0, 1, 26, floatOne⟩] none true) ∧
        t.forwarded = [⟨0, 1, 26, floatOne⟩] :=
    Machine.exists_run_of_exec
      [.initializeCommon, .clearPendingWrites, .exchangeQueues 10, .startThreads, .initialized,
        .proxy (.postEvents 0 [⟨0, 1, 26, floatOne⟩] none true)]
      (by decide)
  obtain ⟨ts, p, hrun, t, ht, hlabel, hforwarded⟩ := hpost
  refine ⟨ts, p, hrun, t, ht, ?_, hforwarded, fun hagree => ?_⟩
  · refine postsAsReported_of_label hlabel ?_
    unfold PostedAsReported
    decide
  · have hshown : (⟨1, 25, "android.sensor.pick_up_gesture", 0⟩ : SensorInfo) ∈
        getSensorsList_2_1 (initializeSensorList [wristTiltSubHal]).mSensors := by decide
    have htype := hagree _ (by rw [hforwarded]; exact List.mem_singleton_self _) (by decide) _
      hshown rfl
    simp at htype

end Sensors
