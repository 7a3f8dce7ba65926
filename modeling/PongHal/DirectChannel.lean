/-
# Direct channels (`HalProxy::setDirectChannelFlags`, `HalProxy::configDirectReport`)

One sub-HAL serves all direct channels, and `configDirectReport` asks that one, whatever
the handle.  So the sensors of all others must be shown without their flags for direct
channels.  `initializeSensorList` sees to it (`DirectRouted` of the whole list, the
handle -1 apart, which `configDirectReport` takes for all sensors), but
`onDynamicSensorsConnected` shows a dynamic sensor as the sub-HAL describes it.

`direct_channel_routed_iff` says when every sensor the framework was told about leads
back to its own sub-HAL.
-/
import PongHal.DynamicSensors
import PongHal.ReportedSensors

namespace Sensors

/-! ## The call -/

/-- `RateLevel`. -/
inductive RateLevel
  | stop
  | normal
  | fast
  | veryFast
  deriving DecidableEq, Repr

/-- What becomes of a call of `configDirectReport`: it is answered with a result and a
report token, or passed to a sub-HAL. -/
inductive DirectReport
  | returned (result : Result) (reportToken : Int32)
  | passedTo (subHalIndex : ℕ) (sensorHandle channelHandle : Int32) (rate : RateLevel)
  deriving DecidableEq, Repr

/-- `HalProxy::configDirectReport`. -/
def configDirectReport (mDirectChannelSubHal : Option ℕ) (sensorHandle channelHandle : Int32)
    (rate : RateLevel) : DirectReport :=
  match mDirectChannelSubHal with
  | none => .returned .invalidOperation (-1)
  | some subHalIndex =>
      if sensorHandle = -1 ∧ rate ≠ .stop then .returned .badValue (-1)
      else
        -- -1 denotes all sensors
        let sensorHandle := if sensorHandle ≠ -1 then clearSubHalIndex sensorHandle else sensorHandle
        .passedTo subHalIndex sensorHandle channelHandle rate

/-- The sub-HAL that `mDirectChannelSubHal` points to: it is set while the proxy is
constructed, and never again. -/
def MultiHal.mDirectChannelSubHal (p : MultiHal) : Option ℕ :=
  (initializeSensorList p.mSubHalList).mDirectChannelSubHal

/-! ## What it is to be -/

/-- If the sensor that the framework was told about has flags for direct channels, it
was reported by the sub-HAL for these, and a call with its handle gets there with the
handle it was reported with. -/
def DirectRouted (mDirectChannelSubHal : Option ℕ) (info : SensorInfo) (r : ReportedSensor) :
    Prop :=
  supportsDirectChannel info = true →
    mDirectChannelSubHal = some r.subHalIndex ∧
      ∀ channelHandle rate, configDirectReport mDirectChannelSubHal info.sensorHandle channelHandle
        rate = .passedTo r.subHalIndex r.sensor.sensorHandle channelHandle rate

/-- Every sensor of the list with such flags. -/
def MultiHal.ListRouted (p : MultiHal) (list : List SensorInfo) : Prop :=
  ∀ info ∈ list, supportsDirectChannel info = true →
    ∃ r, lastReported p.mSubHalList info.sensorHandle = some r ∧
      DirectRouted p.mDirectChannelSubHal info r

/-- Every dynamic sensor that the client is told about in this step. -/
def MultiTransition.ConnectedRouted (t : MultiTransition) : Prop :=
  ∀ dynamicSensorsAdded subHalIndex sensors,
    t.label = .onDynamicSensorsConnected dynamicSensorsAdded subHalIndex →
    .dynamicSensorsConnected sensors ∈ t.out →
    ∀ info ∈ sensors, ∃ sensor ∈ dynamicSensorsAdded,
      info = { sensor with
        sensorHandle := HalProxy.setSubHalIndex sensor.sensorHandle subHalIndex } ∧
      DirectRouted t.pre.mDirectChannelSubHal info ⟨subHalIndex, sensor⟩

/-! ## When it is -/

/-- The sensor that was reported last under the handle -1, if there is one, is none of
the sub-HAL's for direct channels with such flags. -/
def ListSafe (mSubHalList : List SubHal) : Prop :=
  ∀ r, lastReported mSubHalList (-1) = some r → supportsDirectChannel r.sensor = true →
    directChannelOwner mSubHalList ≠ some r.subHalIndex

/-- Dynamic sensors with such flags are connected by the sub-HAL for direct channels
only, and none of them under the handle -1. -/
def MultiLabel.ConnectsSafely (mSubHalList : List SubHal) : MultiLabel → Prop
  | .onDynamicSensorsConnected dynamicSensorsAdded subHalIndex =>
      ∀ sensor ∈ dynamicSensorsAdded, subHalIndexIsClear sensor.sensorHandle = true →
        supportsDirectChannel sensor = true →
        directChannelOwner mSubHalList = some subHalIndex ∧
          HalProxy.setSubHalIndex sensor.sensorHandle subHalIndex ≠ -1
  | _ => True

instance (mSubHalList : List SubHal) (l : MultiLabel) : Decidable (l.ConnectsSafely mSubHalList) :=
  match l with
  | .onDynamicSensorsConnected dynamicSensorsAdded _ =>
      inferInstanceAs (Decidable (∀ _ ∈ dynamicSensorsAdded, _))
  | .proxy _ | .setOperationMode .. | .onDynamicSensorsDisconnected .. | .initializeCommon
  | .pendingWritesThreadEnds | .wakelockThreadEnds | .clearPendingWrites | .exchangeQueues _
  | .startThreads | .initialized =>
      inferInstanceAs (Decidable True)

/-! ## One sensor -/

/-- A handle other than -1 gets to the sub-HAL for direct channels, without its index. -/
theorem configDirectReport_of_ne {sensorHandle : Int32} (hne : sensorHandle ≠ -1)
    (subHalIndex : ℕ) (channelHandle : Int32) (rate : RateLevel) :
    configDirectReport (some subHalIndex) sensorHandle channelHandle rate =
      .passedTo subHalIndex (clearSubHalIndex sensorHandle) channelHandle rate := by
  simp [configDirectReport, hne]

/-- A sensor leads back exactly if it is of the sub-HAL for direct channels and is not
taken for all sensors. -/
theorem directRouted_iff {owner : Option ℕ} {info : SensorInfo} {r : ReportedSensor}
    (hclear : subHalIndexIsClear r.sensor.sensorHandle = true)
    (hhandle : info.sensorHandle = r.handle) :
    DirectRouted owner info r ↔
      (supportsDirectChannel info = true → owner = some r.subHalIndex ∧ r.handle ≠ -1) := by
  constructor
  · intro h hdirect
    obtain ⟨rfl, hcall⟩ := h hdirect
    refine ⟨rfl, fun hall => ?_⟩
    have hrefused := hcall 0 .normal
    rw [hhandle, hall] at hrefused
    simp [configDirectReport] at hrefused
  · intro h hdirect
    obtain ⟨rfl, hne⟩ := h hdirect
    refine ⟨rfl, fun channelHandle rate => ?_⟩
    rw [hhandle, configDirectReport_of_ne hne, ReportedSensor.handle,
      clearSubHalIndex_setSubHalIndex hclear]

/-! ## The list -/

theorem supportsDirectChannel_default : supportsDirectChannel {} = false := by decide

/-- Tables with the same lookups have the same sensors with such flags: the ones entered
by lookups have no flags. -/
theorem getElem?_of_same {m m' : SensorMap} (hsame : m.getSensorInfo = m'.getSensorInfo)
    {key : Int32} {info : SensorInfo} (hdirect : supportsDirectChannel info = true)
    (hget : m[key]? = some info) : m'[key]? = some info := by
  have hlookup : m'.getSensorInfo key = info := by
    rw [← hsame, SensorMap.getSensorInfo, Std.TreeMap.getD_eq_getD_getElem?, hget]
    rfl
  rw [SensorMap.getSensorInfo, Std.TreeMap.getD_eq_getD_getElem?] at hlookup
  cases hget' : m'[key]? with
  | none =>
      rw [hget'] at hlookup
      rw [← hlookup, Option.getD_none, supportsDirectChannel_default] at hdirect
      simp at hdirect
  | some info' =>
      rw [hget'] at hlookup
      rw [← hlookup, Option.getD_some]

variable {p : MultiHal}

/-- The list leads back exactly if no sensor of it is taken for all sensors. -/
theorem listRouted_iff
    (hsame : p.proxy.mSensors.getSensorInfo =
      SensorMap.getSensorInfo (initializeSensorList p.mSubHalList).mSensors) :
    p.ListRouted (getSensorsList_2_1 p.proxy.mSensors) ↔ ListSafe p.mSubHalList := by
  have howner := mDirectChannelSubHal_initializeSensorList p.mSubHalList
  have hloaded := getElem?_initializeSensorList p.mSubHalList
  rw [MultiHal.ListRouted, MultiHal.mDirectChannelSubHal, howner]
  constructor
  · intro hlist r hr hsupports hcontra
    have hdirect : supportsDirectChannel
        (r.published (directChannelOwner p.mSubHalList)) = true :=
      (r.supportsDirectChannel_published _).2 ⟨hcontra, hsupports⟩
    have hentry := hloaded (-1)
    rw [hr, Option.map_some] at hentry
    obtain ⟨r', hr', hrouted⟩ := hlist _
      (mem_getSensorsList_2_1.2 ⟨-1, getElem?_of_same hsame.symm hdirect hentry⟩) hdirect
    obtain ⟨hhandle, hmem⟩ := handle_of_lastReported hr
    rw [ReportedSensor.sensorHandle_published, hhandle, hr, Option.some.injEq] at hr'
    subst hr'
    have hclear := clear_of_mem_acceptedSensors _ hmem
    exact ((directRouted_iff hclear (r.sensorHandle_published _)).1 hrouted hdirect).2 hhandle
  · intro hsafe info hinfo hdirect
    obtain ⟨key, hkey⟩ := mem_getSensorsList_2_1.1 hinfo
    have hentry := getElem?_of_same hsame hdirect hkey
    rw [hloaded, Option.map_eq_some_iff] at hentry
    obtain ⟨r, hr, rfl⟩ := hentry
    obtain ⟨rfl, hmem⟩ := handle_of_lastReported hr
    have hclear := clear_of_mem_acceptedSensors _ hmem
    refine ⟨r, by rwa [r.sensorHandle_published], ?_⟩
    refine (directRouted_iff hclear (r.sensorHandle_published _)).2 fun _ => ?_
    obtain ⟨hfirst, hsupports⟩ := (r.supportsDirectChannel_published _).1 hdirect
    refine ⟨hfirst, fun hall => ?_⟩
    rw [hall] at hr
    exact hsafe r hr hsupports hfirst

/-- A conversion for clients of version 2.0 keeps what matters here. -/
structure KeepsDirectChannel (convertToOldSensorInfo : SensorInfo → SensorInfo) : Prop where
  sensorHandle_eq : ∀ info, (convertToOldSensorInfo info).sensorHandle = info.sensorHandle
  flags_eq : ∀ info, (convertToOldSensorInfo info).flags = info.flags

/-- The list for clients of version 2.0 leads back where the other one does. -/
theorem listRouted_getSensorsList_iff {convertToOldSensorInfo : SensorInfo → SensorInfo}
    (hkeeps : KeepsDirectChannel convertToOldSensorInfo) (mSensors : SensorMap) :
    p.ListRouted (getSensorsList convertToOldSensorInfo mSensors) ↔
      p.ListRouted (getSensorsList_2_1 mSensors) := by
  have hdirect : ∀ info, supportsDirectChannel (convertToOldSensorInfo info) =
      supportsDirectChannel info := by
    intro info
    rw [supportsDirectChannel, hkeeps.flags_eq, supportsDirectChannel]
  have hlist : getSensorsList convertToOldSensorInfo mSensors =
      (getSensorsList_2_1 mSensors).map convertToOldSensorInfo := by
    simp [getSensorsList, getSensorsList_2_1]
  rw [hlist, MultiHal.ListRouted, MultiHal.ListRouted, List.forall_mem_map]
  simp only [DirectRouted, hdirect, hkeeps.sensorHandle_eq]

/-! ## The steps -/

/-- The sub-HALs stay the same. -/
theorem mSubHalList_step {kWakelockTimeoutNs : ℤ} {t : MultiTransition}
    (h : (multiMachine kWakelockTimeoutNs).Takes t) :
    t.post.mSubHalList = t.pre.mSubHalList := by
  cases multiStep_of_takes h <;> rfl

/-- So do all lookups in the table. -/
theorem getSensorInfo_multiStep {kWakelockTimeoutNs : ℤ} {t : MultiTransition}
    (h : (multiMachine kWakelockTimeoutNs).Takes t) :
    t.post.proxy.mSensors.getSensorInfo = t.pre.proxy.mSensors.getSensorInfo := by
  cases multiStep_of_takes h with
  | proxy p t hproxy hcan hstep =>
      rw [← hproxy]
      exact getSensorInfo_step hstep
  | _ => rfl

theorem sensors_of_run {kWakelockTimeoutNs : ℤ} {mSubHalList : List SubHal} {now : ℕ}
    {ts : List MultiTransition}
    (hrun : (multiMachine kWakelockTimeoutNs).Run (.construct mSubHalList now) ts p) :
    p.mSubHalList = mSubHalList ∧ p.proxy.mSensors.getSensorInfo =
      SensorMap.getSensorInfo (initializeSensorList mSubHalList).mSensors := by
  refine hrun.invariant (I := fun p => p.mSubHalList = mSubHalList ∧
    p.proxy.mSensors.getSensorInfo =
      SensorMap.getSensorInfo (initializeSensorList mSubHalList).mSensors) ⟨rfl, rfl⟩ ?_
  rintro t hstep ⟨hsubHals, hlookup⟩
  exact ⟨(mSubHalList_step hstep).trans hsubHals, (getSensorInfo_multiStep hstep).trans hlookup⟩

/-- What the client is told in a step about connected sensors. -/
theorem out_of_connected {kWakelockTimeoutNs : ℤ} {t : MultiTransition}
    (h : (multiMachine kWakelockTimeoutNs).Takes t) {dynamicSensorsAdded : List SensorInfo}
    {subHalIndex : ℕ}
    (hlabel : t.label = .onDynamicSensorsConnected dynamicSensorsAdded subHalIndex) :
    t.out = [.dynamicSensorsConnected
      (onDynamicSensorsConnected t.pre.mDynamicSensors dynamicSensorsAdded subHalIndex).2] := by
  cases multiStep_of_takes h with
  | connected p sensors i =>
      simp only [MultiLabel.onDynamicSensorsConnected.injEq] at hlabel
      rw [hlabel.1, hlabel.2]
  | _ => simp at hlabel

/-- The dynamic sensors of a call lead back exactly if they are connected safely. -/
theorem connectedRouted_iff {kWakelockTimeoutNs : ℤ} {t : MultiTransition}
    (h : (multiMachine kWakelockTimeoutNs).Takes t) :
    t.ConnectedRouted ↔ t.label.ConnectsSafely t.pre.mSubHalList := by
  have howner : t.pre.mDirectChannelSubHal = directChannelOwner t.pre.mSubHalList :=
    mDirectChannelSubHal_initializeSensorList _
  rw [MultiTransition.ConnectedRouted, howner]
  constructor
  · intro hrouted
    cases hlabel : t.label with
    | onDynamicSensorsConnected added subHalIndex =>
        intro sensor hsensor hclear hdirect
        have hout := out_of_connected h hlabel
        rw [onDynamicSensorsConnected_snd] at hout
        obtain ⟨sensor', -, heq, hback⟩ := hrouted added subHalIndex _ hlabel
          (by rw [hout]; exact List.mem_singleton_self _) _
          (List.mem_map_of_mem (List.mem_filter.2 ⟨hsensor, hclear⟩))
        obtain ⟨hfirst, hcall⟩ := hback hdirect
        refine ⟨hfirst, fun hall => ?_⟩
        -- a call for all sensors is refused unless it stops them
        have hrefused := hcall 0 .normal
        rw [hfirst, hall] at hrefused
        simp [configDirectReport] at hrefused
    | _ => exact trivial
  · intro hsafe added subHalIndex sensors hlabel hsensors info hinfo
    rw [out_of_connected h hlabel, List.mem_singleton, onDynamicSensorsConnected_snd,
      MultiObservation.dynamicSensorsConnected.injEq] at hsensors
    rw [hsensors] at hinfo
    obtain ⟨sensor, hmem, rfl⟩ := List.mem_map.1 hinfo
    obtain ⟨hsensor, hclear⟩ := List.mem_filter.1 hmem
    rw [hlabel] at hsafe
    refine ⟨sensor, hsensor, rfl, (directRouted_iff hclear rfl).2 fun hdirect => ?_⟩
    exact hsafe sensor hsensor hclear hdirect

/-! ## Runs -/

/-- **Every sensor with flags for direct channels that the framework is told about, in a
list or as a dynamic one, leads back to its own sub-HAL exactly if only the first sub-HAL
that reports such sensors connects such dynamic sensors, and none of its handles is -1
for the framework.** -/
theorem direct_channel_routed_iff {convertToOldSensorInfo : SensorInfo → SensorInfo}
    (hkeeps : KeepsDirectChannel convertToOldSensorInfo) {kWakelockTimeoutNs : ℤ}
    {mSubHalList : List SubHal} {now : ℕ} {ts : List MultiTransition}
    (hrun : (multiMachine kWakelockTimeoutNs).Run (.construct mSubHalList now) ts p) :
    ((∀ ts₁ p₁, ts₁ <+: ts →
        (multiMachine kWakelockTimeoutNs).Run (.construct mSubHalList now) ts₁ p₁ →
        p₁.ListRouted (getSensorsList_2_1 p₁.proxy.mSensors) ∧
          p₁.ListRouted (getSensorsList convertToOldSensorInfo p₁.proxy.mSensors)) ∧
      ∀ t ∈ ts, t.ConnectedRouted) ↔
    ListSafe mSubHalList ∧ ∀ t ∈ ts, t.label.ConnectsSafely mSubHalList := by
  have hlist : ∀ {ts₁ p₁},
      (multiMachine kWakelockTimeoutNs).Run (.construct mSubHalList now) ts₁ p₁ →
      (p₁.ListRouted (getSensorsList_2_1 p₁.proxy.mSensors) ↔ ListSafe mSubHalList) := by
    intro ts₁ p₁ hrun₁
    obtain ⟨rfl, hsame⟩ := sensors_of_run hrun₁
    exact listRouted_iff hsame
  have hconnected : ∀ t ∈ ts, (t.ConnectedRouted ↔ t.label.ConnectsSafely mSubHalList) := by
    intro t ht
    obtain ⟨ts₁, ts₂, -, hbefore, hstep⟩ := hrun.split_of_mem ht
    rw [connectedRouted_iff hstep, (sensors_of_run hbefore).1]
  constructor
  · rintro ⟨hlists, hdynamic⟩
    refine ⟨(hlist .start).1 (hlists [] _ (List.nil_prefix) .start).1, fun t ht => ?_⟩
    exact (hconnected t ht).1 (hdynamic t ht)
  · rintro ⟨hsafe, hconnects⟩
    refine ⟨fun ts₁ p₁ _ hrun₁ => ?_, fun t ht => (hconnected t ht).2 (hconnects t ht)⟩
    have hrouted := (hlist hrun₁).2 hsafe
    exact ⟨hrouted, (listRouted_getSensorsList_iff hkeeps _).2 hrouted⟩

/-- The sub-HAL for direct channels connects a sensor for them, and another sub-HAL one
without. -/
theorem direct_channel_routed_iff_owner :
    ∃ (ts : List MultiTransition) (p : MultiHal),
      (multiMachine 1000).Run
        (.construct [⟨[{ sensorHandle := 1, flags := 0x400 }]⟩, ⟨[]⟩] 0) ts p ∧
      p.mDynamicSensors.size = 2 ∧ ∀ t ∈ ts, t.ConnectedRouted := by
  have hcalls : ∃ (ts : List MultiTransition) (p : MultiHal),
      (multiMachine 1000).Run
        (.construct [⟨[{ sensorHandle := 1, flags := 0x400 }]⟩, ⟨[]⟩] 0) ts p ∧
      p.mDynamicSensors.size = 2 ∧ ∀ t ∈ ts,
        t.label.ConnectsSafely [⟨[{ sensorHandle := 1, flags := 0x400 }]⟩, ⟨[]⟩] :=
    Machine.exists_run_of_exec
      [.initializeCommon, .clearPendingWrites, .exchangeQueues 10, .startThreads, .initialized,
        .onDynamicSensorsConnected [{ sensorHandle := 2, flags := 0x400 }] 0,
        .onDynamicSensorsConnected [{ sensorHandle := 2 }] 1]
      (by decide)
  obtain ⟨ts, p, hrun, hsize, hsafe⟩ := hcalls
  have hlist : ListSafe [⟨[{ sensorHandle := 1, flags := 0x400 }]⟩, ⟨[]⟩] := by
    intro r hr
    simp [show lastReported [⟨[{ sensorHandle := 1, flags := 0x400 }]⟩, ⟨[]⟩] (-1) = none by
      decide] at hr
  have hkeeps : KeepsDirectChannel id := ⟨fun _ => rfl, fun _ => rfl⟩
  exact ⟨ts, p, hrun, hsize, ((direct_channel_routed_iff hkeeps hrun).2 ⟨hlist, hsafe⟩).2⟩

/-- The second sub-HAL connects a sensor for direct channels.  The framework is told so,
and its call gets to the first one, which knows nothing of the sensor. -/
theorem direct_channel_astray :
    ∃ (ts : List MultiTransition) (p : MultiHal),
      (multiMachine 1000).Run
        (.construct [⟨[{ sensorHandle := 1, flags := 0x400 }]⟩, ⟨[]⟩] 0) ts p ∧
      (∃ t ∈ ts, .dynamicSensorsConnected [{ sensorHandle := 0x01000002, flags := 0x400 }] ∈
        t.out ∧ ¬ t.ConnectedRouted) ∧
      configDirectReport p.mDirectChannelSubHal 0x01000002 7 .normal = .passedTo 0 2 7 .normal := by
  have hcall : ∃ (ts : List MultiTransition) (p : MultiHal),
      (multiMachine 1000).Run
        (.construct [⟨[{ sensorHandle := 1, flags := 0x400 }]⟩, ⟨[]⟩] 0) ts p ∧
      (∃ t ∈ ts, .dynamicSensorsConnected [{ sensorHandle := 0x01000002, flags := 0x400 }] ∈
        t.out ∧ ¬ t.label.ConnectsSafely t.pre.mSubHalList) ∧
      configDirectReport p.mDirectChannelSubHal 0x01000002 7 .normal = .passedTo 0 2 7 .normal :=
    Machine.exists_run_of_exec
      [.initializeCommon, .clearPendingWrites, .exchangeQueues 10, .startThreads, .initialized,
        .onDynamicSensorsConnected [{ sensorHandle := 2, flags := 0x400 }] 1]
      (by decide)
  obtain ⟨ts, p, hrun, ⟨t, ht, hout, hunsafe⟩, hcall⟩ := hcall
  obtain ⟨ts₁, ts₂, -, -, hstep⟩ := hrun.split_of_mem ht
  exact ⟨ts, p, hrun, ⟨t, ht, hout, mt (connectedRouted_iff hstep).1 hunsafe⟩, hcall⟩

end Sensors
