/-
# What the sub-HAL of this device posts (`SensorsSubHal.cpp`, `Sensor.cpp`)

Each call of `SensorsSubHal::postEvents` has one gesture of one of its sensors, and all
three sensors are wake-up sensors: the call locks a wakelock, and the proxy counts its
event (`own_of_run`, `processEvents_own`).  So this sub-HAL keeps to what the proxy
asserts of its callers, and never makes the proxy take the kernel's lock for nothing.
-/
import PongHal.PickUpFilter
import PongHal.SubHalSystem
import PongHal.WakelockHeld

namespace Sensors

/-! ## The sensors in the proxy's list -/

namespace SubHalSensor

theorem sensorInfo_mem (i : SubHalSensor) : i.sensorInfo ∈ sensorsSubHal.sensorsList :=
  List.mem_map_of_mem i.mem_mSensors

theorem wakeUp_sensorInfo (i : SubHalSensor) : (i.sensorInfo.flags &&& wakeUp != 0) = true := by
  cases i <;> decide

/-- Each sensor is shown as it is, whichever sub-HAL has the direct channels. -/
theorem published_sensorInfo (i : SubHalSensor) (subHalIndex : ℕ) (owner : Option ℕ) :
    ReportedSensor.published owner ⟨subHalIndex, i.sensorInfo⟩ =
      { i.sensorInfo with sensorHandle := HalProxy.setSubHalIndex i.sensorHandle subHalIndex } := by
  have hdirect : supportsDirectChannel i.sensorInfo = false := by
    cases i <;> decide
  have hown : ReportedSensor.published owner ⟨subHalIndex, i.sensorInfo⟩ =
      ReportedSensor.published (some subHalIndex) ⟨subHalIndex, i.sensorInfo⟩ :=
    ReportedSensor.published_of_not hdirect _ _
  rw [hown, ReportedSensor.published, if_pos rfl, standardizePickup]
  cases i <;> rfl

end SubHalSensor

namespace LoadedSubHals

variable (L : LoadedSubHals)

/-- The handle under which the framework knows the sensor. -/
def handle (i : SubHalSensor) : Int32 := HalProxy.setSubHalIndex i.sensorHandle L.subHalIndex

theorem accepted (i : SubHalSensor) : Accepted L.mSubHalList L.subHalIndex i.sensorHandle :=
  ⟨i.subHalIndexIsClear_sensorHandle, sensorsSubHal, L.loaded, i.sensorInfo, i.sensorInfo_mem, rfl⟩

/-- No sensor but this one has the handle. -/
theorem eq_of_handle_eq {i : SubHalSensor} {subHalIndex : ℕ} {sensorHandle : Int32}
    (hclear : subHalIndexIsClear sensorHandle = true)
    (hindex : subHalIndex < L.mSubHalList.length)
    (heq : HalProxy.setSubHalIndex sensorHandle subHalIndex = L.handle i) :
    subHalIndex = L.subHalIndex ∧ sensorHandle = i.sensorHandle := by
  have hlt : subHalIndex < 128 := hindex.trans_le L.length_le
  have hlt' : L.subHalIndex < 128 := (L.accepted i).lt_length.trans_le L.length_le
  have hextract := extractSubHalIndex_setSubHalIndex hclear hlt
  have hcleared := clearSubHalIndex_setSubHalIndex hclear subHalIndex
  rw [heq, handle, extractSubHalIndex_setSubHalIndex i.subHalIndexIsClear_sensorHandle hlt']
    at hextract
  rw [heq, handle, clearSubHalIndex_setSubHalIndex i.subHalIndexIsClear_sensorHandle] at hcleared
  exact ⟨hextract.symm, hcleared.symm⟩

/-- The sensor that was reported last under the handle is this one. -/
theorem lastReported_handle (i : SubHalSensor) :
    lastReported L.mSubHalList (L.handle i) = some ⟨L.subHalIndex, i.sensorInfo⟩ := by
  have hstored : L.handle i ∈ (initializeSensorList L.mSubHalList).mSensors :=
    (mem_initializeSensorList L.mSubHalList _).2 ⟨L.subHalIndex, i.sensorHandle, L.accepted i, rfl⟩
  obtain ⟨info, hinfo⟩ := Option.isSome_iff_exists.1
    (Std.TreeMap.isSome_getElem?_iff_mem.2 hstored)
  rw [getElem?_initializeSensorList, Option.map_eq_some_iff] at hinfo
  obtain ⟨r, hlast, -⟩ := hinfo
  obtain ⟨hhandle, haccepted⟩ := handle_of_lastReported hlast
  -- the handle tells which sub-HAL reported it, and as which of its sensors
  obtain ⟨hreported, hclear⟩ := List.mem_filter.1 haccepted
  obtain ⟨⟨subHal, subHalIndex⟩, hsubHal, hr⟩ := List.mem_flatMap.1 hreported
  obtain ⟨sensor, hsensor, rfl⟩ := List.mem_map.1 hr
  rw [List.mem_zipIdx_iff_getElem?] at hsubHal
  have hindex : subHalIndex < L.mSubHalList.length := (List.getElem?_eq_some_iff.1 hsubHal).1
  obtain ⟨rfl, hsame⟩ := L.eq_of_handle_eq hclear hindex hhandle
  rw [L.loaded, Option.some.injEq] at hsubHal
  subst hsubHal
  obtain ⟨j, -, rfl⟩ := List.mem_map.1 hsensor
  obtain rfl := SubHalSensor.sensorHandle_injective hsame
  exact hlast

/-- The proxy's list has the sensor under its handle, as the sub-HAL has reported it. -/
theorem getSensorInfo_handle (i : SubHalSensor) :
    (initializeSensorList L.mSubHalList).mSensors.getSensorInfo (L.handle i) =
      { i.sensorInfo with sensorHandle := L.handle i } := by
  rw [SensorMap.getSensorInfo, Std.TreeMap.getD_eq_getD_getElem?, getElem?_initializeSensorList,
    L.lastReported_handle, Option.map_some, Option.getD_some, i.published_sensorInfo]
  rfl

end LoadedSubHals

/-! ## The events -/

/-- An event of one of the sensors goes on and is counted. -/
theorem processEvents_ownEvent {L : LoadedSubHals} {mSensors : SensorMap}
    (htable : mSensors.getSensorInfo =
      (initializeSensorList L.mSubHalList).mSensors.getSensorInfo)
    {i : SubHalSensor} {event : Event} (hevent : event.sensorHandle = i.sensorHandle) :
    processEvents mSensors L.subHalIndex [event] =
      ([{ event with sensorHandle := L.handle i }], 1) := by
  have hhandle : setSubHalIndex event.sensorHandle L.subHalIndex = L.handle i := by
    rw [hevent]
    rfl
  have hinfo : mSensors.getSensorInfo (L.handle i) =
      { i.sensorInfo with sensorHandle := L.handle i } := by
    rw [htable, L.getSensorInfo_handle]
  have htype : i.sensorInfo.type ≠ pickUpGesture := by
    cases i <;> decide
  simp [processEvents, SensorMap.isWakeup, hhandle, hinfo, htype, i.wakeUp_sensorInfo]

/-! ## The calls -/

/-- The wakelock of the call is locked, once it has one. -/
def PostStage.Locked : PostStage → Prop
  | .called => True
  | .created w | .posted w => w.mLocked = true

/-- The calls of `postEvents` that the sensors make: each is the thread of a sensor, with a
gesture. -/
inductive PostCall.Own : PostCall → Prop
  | gesture (i : SubHalSensor) (timestamp : Int64) (u : UInt32) (stage : PostStage)
      (hlocked : stage.Locked) :
      Own ⟨.thread i, [⟨timestamp, i.sensorHandle, i.sensorClass.type, u⟩], true, stage⟩

namespace PostCall

variable {c : PostCall}

theorem Own.wakeup (h : c.Own) : c.wakeup = true := by
  cases h
  rfl

theorem Own.locked (h : c.Own) : c.stage.Locked := by
  cases h
  assumption

theorem Own.events_eq (h : c.Own) :
    ∃ (i : SubHalSensor) (event : Event), c.events = [event] ∧
      event.sensorHandle = i.sensorHandle := by
  cases h
  exact ⟨_, _, rfl, rfl⟩

/-- A call stays what it is when it goes on. -/
theorem Own.withStage (h : c.Own) {stage : PostStage} (hlocked : stage.Locked) :
    PostCall.Own { c with stage := stage } := by
  cases h with
  | gesture i timestamp u _ _ => exact .gesture i timestamp u stage hlocked

end PostCall

/-- Writing the enable node calls nothing. -/
theorem filterMap_ofAction_writeGestureEnable (K : PollSensorClass) (enable : Bool)
    (i : SubHalSensor) (u : UInt32) :
    (PollSensor.writeGestureEnable K enable).filterMap (PostCall.ofAction i u) = [] := by
  rw [PollSensor.writeGestureEnable]
  split <;> rfl

/-- A step of a sensor calls `postEvents` if it posts, with the gesture. -/
theorem filterMap_ofAction_of_takes {i : SubHalSensor} {t : SensorTransition}
    (h : (pollMachine i.sensorClass).Takes t) (hinfo : t.pre.mSensorInfo = i.sensorInfo)
    (u : UInt32) :
    (t.posts = 0 ∧ t.out.filterMap (PostCall.ofAction i u) = []) ∨
    (t.posts = 1 ∧ t.label.takesLock = true ∧ ∃ timestamp,
      t.out.filterMap (PostCall.ofAction i u) =
        [⟨.thread i, [⟨timestamp, i.sensorHandle, i.sensorClass.type, u⟩], true, .called⟩]) := by
  have hinject : t.pre.supportsDataInjection = false := by
    rw [PollSensor.supportsDataInjection, hinfo]
    exact supportsDataInjection_construct
  rw [posts_step h hinject]
  cases sensorStep_of_takes h with
  | switched s enable hne => exact .inl ⟨rfl, filterMap_ofAction_writeGestureEnable _ _ _ _⟩
  | asked s event =>
      refine .inl ⟨rfl, ?_⟩
      simp only [PollSensor.injectEvent]
      split
      · rfl
      · have hnot : s.supportsDataInjection = false := hinject
        simp [hnot, PostCall.ofAction]
  | passed s s' rc pipeRevents nodeRevents node timestamp hpoll hquiet hinfo' henabled =>
      refine .inl ⟨?_, rfl⟩
      simp [SensorTransition.fires, SensorTransition.samples, hquiet]
  | fired s s' rc pipeRevents nodeRevents node timestamp hpoll hfires hinfo' henabled =>
      refine .inr ⟨by simp [SensorTransition.fires, hfires], rfl, timestamp, ?_⟩
      have hsame : s'.mSensorInfo = i.sensorInfo := hinfo'.trans hinfo
      have hwakeUp : s'.isWakeUpSensor = true := by
        rw [PollSensor.isWakeUpSensor, hsame, i.wakeUp_sensorInfo]
      rw [List.filterMap_append, filterMap_ofAction_writeGestureEnable, hwakeUp]
      simp only [List.nil_append, List.filterMap_cons, List.filterMap_nil, PostCall.ofAction,
        PollSensor.readEvents, List.map_cons, List.map_nil, GestureEvent.toEvent, hsame]
      rfl
  | sampled s now timestamp hcan hdue =>
      refine .inr ⟨by simp [SensorTransition.samples, hdue], rfl, timestamp, ?_⟩
      have hsame : s.mSensorInfo = i.sensorInfo := hinfo
      have hwakeUp : s.isWakeUpSensor = true := by
        rw [PollSensor.isWakeUpSensor, hsame, i.wakeUp_sensorInfo]
      rw [hwakeUp]
      simp only [List.filterMap_cons, List.filterMap_nil, PostCall.ofAction,
        PollSensor.readEvents, List.map_cons, List.map_nil, GestureEvent.toEvent, hsame]
      rfl
  | turned s now timestamp thread hcan hquiet hplace =>
      refine .inl ⟨?_, rfl⟩
      simp [SensorTransition.fires, SensorTransition.samples, hquiet]
  | _ => exact .inl ⟨rfl, rfl⟩

/-! ## What a step does to the calls -/

variable {L : LoadedSubHals} {kWakelockTimeoutNs : ℤ}

/-- What holds of the calls in every state of a run. -/
structure SubHalSystem.OwnPosts (s : SubHalSystem) : Prop where
  own : ∀ c ∈ s.posts, c.Own
  infos : ∀ i, (s.sensors i).mSensorInfo = i.sensorInfo
  running : s.proxy.wakelock.mThreadsRun = true

/-- The moves, by who makes them. -/
inductive MoveBy (L : LoadedSubHals) (s : SubHalSystem) :
    SystemLabel → SubHalSystem.Move → Prop
  | answered (l : SystemLabel) (returns : List Result) : MoveBy L s l (.answered returns)
  | sensor (l : SystemLabel) (i : SubHalSensor) (call : SensorLabel) (u : UInt32)
      (returns : List Result) : MoveBy L s l (.sensor i call u returns)
  | call (l : SystemLabel) (k : ℕ) (c : PostCall) (writeOk : Bool) (m : SubHalSystem.Move)
      (hk : s.posts[k]? = some c) (hm : s.advance L k c writeOk = m) : MoveBy L s l m
  | other (call : ProxyLabel) (hother : s.others L call = true) :
      MoveBy L s (.proxy call) (.proxy call s.posts)

theorem moveBy_answer (s : SubHalSystem) (l : SystemLabel) (request : Request) :
    MoveBy L s l (SubHalSystem.answer request) := by
  cases request with
  | activate sensorHandle enabled =>
      simp only [SubHalSystem.answer]
      split
      · exact .answered _ _
      · exact .sensor _ _ _ _ _
  | batch sensorHandle samplingPeriodNs maxReportLatencyNs =>
      simp only [SubHalSystem.answer]
      split <;> exact .answered _ _
  | flush sensorHandle =>
      simp only [SubHalSystem.answer]
      split <;> exact .answered _ _
  | injectSensorData event =>
      simp only [SubHalSystem.answer]
      split
      · exact .answered _ _
      · exact .sensor _ _ _ _ _

theorem moveBy_outcome (s : SubHalSystem) (l : SystemLabel) (o : Outcome) :
    MoveBy L s l (SubHalSystem.outcome L o) := by
  cases o with
  | returned result => exact .answered _ _
  | passedTo subHalIndex request =>
      simp only [SubHalSystem.outcome]
      split
      · exact moveBy_answer s l request
      · exact .answered _ _

theorem moveBy_of_move {s : SubHalSystem} {l : SystemLabel} {m : SubHalSystem.Move}
    (h : s.move L l = some m) : MoveBy L s l m := by
  cases l with
  | activate | batch | flush | injectSensorData =>
      cases h
      exact moveBy_outcome _ _ _
  | setOperationMode | start | wake | sample | poll =>
      cases h
      exact .sensor _ _ _ _ _
  | postEvents k writeOk =>
      obtain ⟨c, hk, hm⟩ := Option.map_eq_some_iff.1 h
      exact .call _ k c writeOk m hk hm
  | proxy call =>
      simp only [SubHalSystem.move, Option.ite_none_right_eq_some, Option.some.injEq] at h
      obtain ⟨hother, rfl⟩ := h
      exact .other call hother

/-- The number of gestures that the thread of a sensor posts in a step. -/
def SystemTransition.gestures (L : LoadedSubHals) (i : SubHalSensor) (t : SystemTransition) : ℕ :=
  (t.sensorPart L i).elim 0 SensorTransition.posts

/-- The steps, by what they do to the calls of `postEvents` and to the proxy. -/
inductive PostStep (L : LoadedSubHals) (t : SystemTransition) : Prop
  /-- Neither is touched. -/
  | quiet (hproxy : t.proxyPart L = none) (hposts : t.post.posts = t.pre.posts)
      (hgestures : ∀ i, t.gestures L i = 0)
  /-- A sensor calls `postEvents`. -/
  | called (c : PostCall) (hown : c.Own) (hstage : c.stage = .called)
      (hfree : ∀ i, c.poster = .thread i → t.pre.posting i = false)
      (hproxy : t.proxyPart L = none) (hposts : t.post.posts = t.pre.posts ++ [c])
      (hgestures : ∀ i, t.gestures L i = if c.poster = .thread i then 1 else 0)
  /-- A call gets its wakelock. -/
  | created (k : ℕ) (c : PostCall) (p : ProxyTransition) (hk : t.pre.posts[k]? = some c)
      (hstage : c.stage = .called) (hproxy : t.proxyPart L = some p)
      (hlabel : p.label = .createScopedWakelock)
      (hposts : t.post.posts =
        t.pre.posts.set k { c with stage := .created ⟨true, t.pre.proxy.now⟩ })
      (hgestures : ∀ i, t.gestures L i = 0)
  /-- A call comes to the callback. -/
  | posted (k : ℕ) (c : PostCall) (w : ScopedWakelock) (writeOk : Bool) (p : ProxyTransition)
      (hk : t.pre.posts[k]? = some c) (hstage : c.stage = .created w)
      (hproxy : t.proxyPart L = some p)
      (hlabel : p.label = .postEvents L.subHalIndex c.events
        (some (t.pre.proxy.scopedWakelocks.idxOf w.mCreatedAtTimeNs)) writeOk)
      (hposts : t.post.posts = t.pre.posts.set k { c with stage := .posted w })
      (hgestures : ∀ i, t.gestures L i = 0)
  /-- The wakelock of a call is destroyed and the call returns. -/
  | destroyed (k : ℕ) (c : PostCall) (w : ScopedWakelock) (p : ProxyTransition)
      (hk : t.pre.posts[k]? = some c) (hstage : c.stage = .posted w)
      (hproxy : t.proxyPart L = some p)
      (hlabel : p.label =
        .destroyScopedWakelock (t.pre.proxy.scopedWakelocks.idxOf w.mCreatedAtTimeNs))
      (hposts : t.post.posts = t.pre.posts.eraseIdx k)
      (hgestures : ∀ i, t.gestures L i = 0)
  /-- A step of the proxy that has nothing to do with the calls here. -/
  | other (p : ProxyTransition) (hproxy : t.proxyPart L = some p) (hlabel : t.label = .proxy p.label)
      (hother : t.pre.others L p.label = true) (hposts : t.post.posts = t.pre.posts)
      (hgestures : ∀ i, t.gestures L i = 0)

/-- The next step of a call of the sensors, which has a locked wakelock once it has one. -/
theorem advance_of_own {s : SubHalSystem} {k : ℕ} {c : PostCall} (hown : c.Own)
    (hrunning : s.proxy.wakelock.mThreadsRun = true) (writeOk : Bool) :
    s.advance L k c writeOk =
      match c.stage with
      | .called => .proxy .createScopedWakelock
          (s.posts.set k { c with stage := .created ⟨true, s.proxy.now⟩ })
      | .created w => .proxy (.postEvents L.subHalIndex c.events
          (some (s.proxy.scopedWakelocks.idxOf w.mCreatedAtTimeNs)) writeOk)
          (s.posts.set k { c with stage := .posted w })
      | .posted w => .proxy
          (.destroyScopedWakelock (s.proxy.scopedWakelocks.idxOf w.mCreatedAtTimeNs))
          (s.posts.eraseIdx k) := by
  have hlocked := hown.locked
  rw [SubHalSystem.advance]
  cases hstage : c.stage with
  | called => simp only [hown.wakeup, if_true, SharedWakelock.increment_of_running hrunning]
  | created w =>
      rw [hstage] at hlocked
      simp only [show w.mLocked = true from hlocked, if_true]
  | posted w =>
      rw [hstage] at hlocked
      simp only [show w.mLocked = true from hlocked, if_true]

/-- A step that is none of a sensor posts no gesture. -/
theorem gestures_of_move {t : SystemTransition} {m : SubHalSystem.Move}
    (hmove : t.pre.move L t.label = some m)
    (hm : ∀ i call u returns, m ≠ .sensor i call u returns) (i : SubHalSensor) :
    t.gestures L i = 0 := by
  rw [SystemTransition.gestures, SystemTransition.sensorPart, hmove]
  cases m with
  | sensor j call u returns => exact absurd rfl (hm j call u returns)
  | _ => rfl

/-- While the calls are the sensors' own, these are all the steps. -/
theorem postStep_of_takes {t : SystemTransition}
    (h : (systemMachine L kWakelockTimeoutNs).Takes t) (hown : t.pre.OwnPosts) :
    PostStep L t := by
  cases systemStep_of_takes h with
  | answered s l returns hmove =>
      refine .quiet ?_ rfl (gestures_of_move hmove (by simp))
      simp only [SystemTransition.proxyPart, hmove]
  | sensor s l i call u returns sensor acts hmove hlock hstep =>
      have hgestures : ∀ j, SystemTransition.gestures L j ⟨s, l, acts.map (.sensor i) ++
          returns.map .returned, { s with
            sensors := Function.update s.sensors i sensor
            posts := s.posts ++ acts.filterMap (PostCall.ofAction i u) }⟩ =
          if i = j then SensorTransition.posts ⟨s.sensors i, call, acts, sensor⟩ else 0 := by
        intro j
        simp only [SystemTransition.gestures, SystemTransition.sensorPart, hmove]
        by_cases hij : i = j
        · subst hij
          simp only [if_true, filterMap_ofSensor, Function.update_self]
          rfl
        · simp only [if_neg hij]
          rfl
      rcases filterMap_ofAction_of_takes hstep (hown.infos i) u with
        ⟨hposts, hnone⟩ | ⟨hposts, htakes, timestamp, hone⟩
      · refine .quiet (by simp only [SystemTransition.proxyPart, hmove]) (by simp [hnone]) ?_
        intro j
        rw [hgestures, hposts, ite_self]
      · refine .called _ (.gesture i timestamp u .called trivial) rfl ?_
          (by simp only [SystemTransition.proxyPart, hmove]) (by simp [hone]) ?_
        · rintro j ⟨⟩
          exact hlock htakes
        · intro j
          rw [hgestures, hposts]
          simp
  | advanced s l posts hmove =>
      cases moveBy_of_move hmove with
      | call _ k c writeOk m hk hm =>
          rw [advance_of_own (s := s) (hown.own c (List.mem_of_getElem? hk)) hown.running] at hm
          split at hm <;> cases hm
  | proxy s l call posts p seen hmove hstep =>
      have hproxy : SystemTransition.proxyPart L
          ⟨s, l, seen.map .proxy, { s with proxy := p, posts := posts }⟩ =
          some ⟨s.proxy, call, seen, p⟩ := by
        simp only [SystemTransition.proxyPart, hmove, filterMap_ofProxy]
      have hnone := gestures_of_move
        (t := ⟨s, l, seen.map .proxy, { s with proxy := p, posts := posts }⟩) hmove (by simp)
      cases moveBy_of_move hmove with
      | call _ k c writeOk m hk hm =>
          rw [advance_of_own (s := s) (hown.own c (List.mem_of_getElem? hk)) hown.running] at hm
          split at hm
          · rename_i hstage
            cases hm
            exact .created k c _ hk hstage hproxy rfl rfl hnone
          · rename_i w hstage
            cases hm
            exact .posted k c w writeOk _ hk hstage hproxy rfl rfl hnone
          · rename_i w hstage
            cases hm
            exact .destroyed k c w _ hk hstage hproxy rfl rfl hnone
      | other _ hother => exact .other _ hproxy rfl hother rfl hnone

/-! ## What holds of the calls in every run -/

variable {hasPipe hasNode inBase : SubHalSensor → Bool} {quantumCount now : ℕ}
  {ts : List SystemTransition} {s : SubHalSystem}

/-- The proxy takes the step that it is said to take. -/
theorem takes_of_proxyPart {t : SystemTransition}
    (h : (systemMachine L kWakelockTimeoutNs).Takes t) {p : ProxyTransition}
    (hp : t.proxyPart L = some p) :
    (proxyMachine kWakelockTimeoutNs).Takes p ∧ p.pre = t.pre.proxy ∧ p.post = t.post.proxy := by
  have hpart := proxyPart_of_takes h
  rw [hp] at hpart
  generalize t.pre.proxy = pre at hpart ⊢
  generalize t.post.proxy = post at hpart ⊢
  cases hpart with
  | takes _ htakes => exact ⟨htakes, rfl, rfl⟩

theorem proxy_eq_of_proxyPart {t : SystemTransition}
    (h : (systemMachine L kWakelockTimeoutNs).Takes t) (hp : t.proxyPart L = none) :
    t.post.proxy = t.pre.proxy := by
  have hpart := proxyPart_of_takes h
  rw [hp] at hpart
  generalize t.pre.proxy = pre at hpart ⊢
  generalize t.post.proxy = post at hpart ⊢
  cases hpart
  rfl

/-- No step changes what a sensor says of itself. -/
theorem infos_step {t : SystemTransition} (h : (systemMachine L kWakelockTimeoutNs).Takes t)
    (i : SubHalSensor) : (t.post.sensors i).mSensorInfo = (t.pre.sensors i).mSensorInfo := by
  have hpart := sensorPart_of_takes i h
  generalize t.pre.sensors i = pre at hpart ⊢
  generalize t.post.sensors i = post at hpart ⊢
  generalize t.sensorPart L i = part at hpart
  cases hpart with
  | quiet => rfl
  | takes t' htakes => exact mSensorInfo_step htakes

theorem running_step {t : SystemTransition} (h : (systemMachine L kWakelockTimeoutNs).Takes t) :
    t.post.proxy.wakelock.mThreadsRun = t.pre.proxy.wakelock.mThreadsRun := by
  cases hp : t.proxyPart L with
  | none => rw [proxy_eq_of_proxyPart h hp]
  | some p =>
      obtain ⟨htakes, hpre, hpost⟩ := takes_of_proxyPart h hp
      rw [← hpre, ← hpost, mThreadsRun_step htakes]

theorem own_step {t : SystemTransition} (h : (systemMachine L kWakelockTimeoutNs).Takes t)
    (hown : t.pre.OwnPosts) : ∀ c ∈ t.post.posts, c.Own := by
  intro c hc
  cases postStep_of_takes h hown with
  | quiet hproxy hposts hgestures | other p hproxy hlabel hother hposts hgestures =>
      rw [hposts] at hc
      exact hown.own c hc
  | called c' hown' hstage hfree hproxy hposts hgestures =>
      rw [hposts, List.mem_append, List.mem_singleton] at hc
      rcases hc with hc | rfl
      · exact hown.own c hc
      · exact hown'
  | created k c' p hk hstage hproxy hlabel hposts hgestures =>
      rw [hposts] at hc
      rcases List.mem_or_eq_of_mem_set hc with hc | rfl
      · exact hown.own c hc
      · exact (hown.own c' (List.mem_of_getElem? hk)).withStage rfl
  | posted k c' w writeOk p hk hstage hproxy hlabel hposts hgestures =>
      have hcall := hown.own c' (List.mem_of_getElem? hk)
      have hlocked : w.mLocked = true := by
        have hlocked := hcall.locked
        rw [hstage] at hlocked
        exact hlocked
      rw [hposts] at hc
      rcases List.mem_or_eq_of_mem_set hc with hc | rfl
      · exact hown.own c hc
      · exact hcall.withStage hlocked
  | destroyed k c' w p hk hstage hproxy hlabel hposts hgestures =>
      rw [hposts] at hc
      exact hown.own c (List.mem_of_mem_eraseIdx hc)

/-- The calls of a run are those of the sensors. -/
theorem own_of_run
    (hrun : (systemMachine L kWakelockTimeoutNs).Run
      (.init L hasPipe hasNode inBase quantumCount now) ts s) : s.OwnPosts := by
  refine hrun.invariant (I := SubHalSystem.OwnPosts) ⟨by simp [SubHalSystem.init], ?_, rfl⟩ ?_
  · intro i
    rfl
  · intro t hstep hown
    refine ⟨own_step hstep hown, fun i => ?_, ?_⟩
    · rw [infos_step hstep, hown.infos]
    · rw [running_step hstep, hown.running]

/-- The proxy of a run shows the sensors as they were loaded. -/
theorem table_of_run
    (hrun : (systemMachine L kWakelockTimeoutNs).Run
      (.init L hasPipe hasNode inBase quantumCount now) ts s) :
    s.proxy.mSensors.getSensorInfo =
      (initializeSensorList L.mSubHalList).mSensors.getSensorInfo := by
  refine (proxy_run_of_systemRun hrun).invariant
    (I := fun p => p.mSensors.getSensorInfo =
      (initializeSensorList L.mSubHalList).mSensors.getSensorInfo) rfl ?_
  intro t hstep ih
  rw [getSensorInfo_step hstep, ih]

/-! ## The wakelocks of the calls -/

/-- What a call of a sensor is about to post is counted by the proxy. -/
theorem processEvents_own
    (hrun : (systemMachine L kWakelockTimeoutNs).Run
      (.init L hasPipe hasNode inBase quantumCount now) ts s)
    {c : PostCall} (hown : c.Own) :
    (processEvents s.proxy.mSensors L.subHalIndex c.events).2 = 1 := by
  obtain ⟨i, event, hevents, hevent⟩ := hown.events_eq
  rw [hevents, processEvents_ownEvent (table_of_run hrun) hevent]

/-- **This sub-HAL keeps to the proxy's assertions.**  Whenever, in a run, it calls the
proxy's callback, the wakelock that it hands over is locked, and the proxy counts exactly
one wake-up event: neither assertion of `HalProxyCallbackBase::postEvents` can fail. -/
theorem own_posts_asserted
    (hrun : (systemMachine L kWakelockTimeoutNs).Run
      (.init L hasPipe hasNode inBase quantumCount now) ts s) :
    ∀ t ∈ ts, ∀ p ∈ t.proxyPart L, ∀ events wakelock writeOk,
      p.label = .postEvents L.subHalIndex events wakelock writeOk →
      (processEvents p.pre.mSensors L.subHalIndex events).2 = 1 ∧ wakelock.isSome = true ∧
        wakelockAssert (processEvents p.pre.mSensors L.subHalIndex events).2
          wakelock.isSome = true := by
  intro t ht p hp events wakelock writeOk hlabel
  obtain ⟨ts₁, ts₂, rfl, hbefore, hstep⟩ := hrun.split_of_mem ht
  have hown := own_of_run hbefore
  have hpre : p.pre = t.pre.proxy := (takes_of_proxyPart hstep hp).2.1
  have hcall : (processEvents p.pre.mSensors L.subHalIndex events).2 = 1 ∧
      wakelock.isSome = true := by
    cases postStep_of_takes hstep hown with
    | quiet hproxy | called c hown' hstage hfree hproxy =>
        rw [hproxy] at hp
        cases hp
    | created k c p' hk hstage hproxy hlabel' hposts hgestures
    | destroyed k c w p' hk hstage hproxy hlabel' hposts hgestures =>
        rw [hproxy] at hp
        cases hp
        rw [hlabel'] at hlabel
        cases hlabel
    | posted k c w writeOk' p' hk hstage hproxy hlabel' hposts hgestures =>
        rw [hproxy] at hp
        cases hp
        rw [hlabel'] at hlabel
        cases hlabel
        rw [hpre]
        exact ⟨processEvents_own hbefore (hown.own c (List.mem_of_getElem? hk)), rfl⟩
    | other p' hproxy hcall hother hposts hgestures =>
        -- the other sub-HALs post under their own indices
        rw [hproxy] at hp
        cases hp
        rw [hlabel] at hother
        simp [SubHalSystem.others] at hother
  obtain ⟨hone, hlocked⟩ := hcall
  refine ⟨hone, hlocked, ?_⟩
  rw [hone, hlocked]
  rfl

/-- The sub-HALs of this device: one from the vendor, with a wrist tilt sensor, and this
one. -/
def pongSubHals : LoadedSubHals where
  mSubHalList := [wakeUpTiltSubHal, sensorsSubHal]
  subHalIndex := 1
  length_le := by decide
  loaded := rfl

/-- A tap: the sensor is activated, its thread posts, and the framework reads the event. -/
def tapLabels : List SystemLabel :=
  [.start .singleTap, .activate 0x01000002 true, .wake .singleTap,
    .poll .singleTap 1 0 pollErrPri tapped 100 0,
    .postEvents 0 true, .postEvents 0 true, .postEvents 0 true, .proxy (.read 1)]

/-- The callback is called with the wakelock of the tap. -/
theorem own_posts_asserted_tap :
    ∃ (ts : List SystemTransition) (s : SubHalSystem),
      (systemMachine pongSubHals 1000).Run
        (.init pongSubHals (fun _ => true) (fun _ => true) (fun _ => false) 4 0) ts s ∧
      ∃ t ∈ ts, ∃ p ∈ t.proxyPart pongSubHals,
        p.label = .postEvents 1 [⟨100, 2, 65538, 0⟩] (some 0) true ∧
        (processEvents p.pre.mSensors 1 [⟨100, 2, 65538, 0⟩]).2 = 1 ∧
        wakelockAssert (processEvents p.pre.mSensors 1 [⟨100, 2, 65538, 0⟩]).2 true = true := by
  have htap : ∃ (ts : List SystemTransition) (s : SubHalSystem),
      (systemMachine pongSubHals 1000).Run
        (.init pongSubHals (fun _ => true) (fun _ => true) (fun _ => false) 4 0) ts s ∧
      ∃ t ∈ ts, ∃ p ∈ t.proxyPart pongSubHals,
        p.label = .postEvents 1 [⟨100, 2, 65538, 0⟩] (some 0) true :=
    Machine.exists_run_of_exec tapLabels (by decide)
  obtain ⟨ts, s, hrun, t, ht, p, hp, hlabel⟩ := htap
  have hasserted := own_posts_asserted hrun t ht p hp _ _ _ hlabel
  exact ⟨ts, s, hrun, t, ht, p, hp, hlabel, hasserted.1, hasserted.2.2⟩

/-! ## The kernel's lock -/

/-- Another sub-HAL makes the proxy take the kernel's lock for nothing: it posts with a
locked wakelock, at a count of zero, events of which none is counted. -/
def SystemTransition.OtherTakesNothing (t : SystemTransition) : Prop :=
  match t.label with
  | .proxy call => ProxyTransition.TakesNothing ⟨t.pre.proxy, call, [], t.pre.proxy⟩
  | _ => False

theorem takesNothing_congr {p : ProxyTransition} {pre : HalProxy} {call : ProxyLabel}
    (hpre : p.pre = pre) (hlabel : p.label = call) :
    p.TakesNothing ↔ ProxyTransition.TakesNothing ⟨pre, call, [], pre⟩ := by
  subst hpre hlabel
  exact Iff.rfl

/-- A step that is not one of this sub-HAL is a step of the proxy. -/
theorem proxyPart_of_label {t : SystemTransition}
    (h : (systemMachine L kWakelockTimeoutNs).Takes t) {call : ProxyLabel}
    (hlabel : t.label = .proxy call) : ∃ p ∈ t.proxyPart L, p.label = call := by
  obtain ⟨s, l, out, s'⟩ := t
  subst hlabel
  cases systemStep_of_takes h with
  | proxy _ _ call' posts p seen hmove hstep =>
      refine ⟨⟨s.proxy, call', seen, p⟩, ?_, ?_⟩
      · simp only [SystemTransition.proxyPart, hmove, filterMap_ofProxy, Option.mem_def]
      · simp only [SubHalSystem.move, Option.ite_none_right_eq_some, Option.some.injEq,
          SubHalSystem.Move.proxy.injEq] at hmove
        exact hmove.2.1.symm
  | answered _ _ returns hmove | sensor _ _ i call' u returns sensor acts hmove
  | advanced _ _ posts hmove =>
      simp [SubHalSystem.move] at hmove

instance (t : SystemTransition) : Decidable t.OtherTakesNothing :=
  match h : t.label with
  | .proxy call =>
      decidable_of_iff (ProxyTransition.TakesNothing ⟨t.pre.proxy, call, [], t.pre.proxy⟩)
        (by simp [SystemTransition.OtherTakesNothing, h])
  | .activate _ _ | .batch _ _ _ | .flush _ | .injectSensorData _ _ | .setOperationMode _ _
  | .start _ | .wake _ | .sample _ _ _ _ | .poll _ _ _ _ _ _ _ | .postEvents _ _ =>
      isFalse (by simp [SystemTransition.OtherTakesNothing, h])

/-- A step that makes the proxy take nothing is one of another sub-HAL. -/
theorem takesNothing_iff
    (hrun : (systemMachine L kWakelockTimeoutNs).Run
      (.init L hasPipe hasNode inBase quantumCount now) ts s)
    {t : SystemTransition} (hpre : t.pre = s)
    (h : (systemMachine L kWakelockTimeoutNs).Takes t) :
    (∃ p ∈ t.proxyPart L, p.TakesNothing) ↔ t.OtherTakesNothing := by
  subst hpre
  constructor
  · rintro ⟨p, hp, hnothing⟩
    have hproxy := (takes_of_proxyPart h hp).2.1
    cases postStep_of_takes h (own_of_run hrun) with
    | quiet hnone | called c hown hstage hfree hnone =>
        rw [hnone] at hp
        cases hp
    | created k c p' hk hstage hsome hlabel hposts hgestures
    | destroyed k c w p' hk hstage hsome hlabel hposts hgestures =>
        rw [hsome] at hp
        cases hp
        rw [takesNothing_congr hproxy hlabel] at hnothing
        exact hnothing.elim
    | posted k c w writeOk p' hk hstage hsome hlabel hposts hgestures =>
        rw [hsome] at hp
        cases hp
        rw [takesNothing_congr hproxy hlabel] at hnothing
        have hone := processEvents_own hrun ((own_of_run hrun).own c (List.mem_of_getElem? hk))
        have hzero := hnothing.2.2
        rw [hone] at hzero
        cases hzero
    | other p' hsome hlabel hother hposts hgestures =>
        rw [hsome] at hp
        cases hp
        rw [SystemTransition.OtherTakesNothing, hlabel]
        exact (takesNothing_congr hproxy rfl).1 hnothing
  · intro hnothing
    rw [SystemTransition.OtherTakesNothing] at hnothing
    split at hnothing
    · rename_i call hlabel
      obtain ⟨p, hp, hcall⟩ := proxyPart_of_label h hlabel
      exact ⟨p, hp, (takesNothing_congr (takes_of_proxyPart h hp).2.1 hcall).2 hnothing⟩
    · exact hnothing.elim

/-- A step keeps the agreement of count and lock exactly if no other sub-HAL spoils it. -/
theorem agrees_systemStep_iff
    (hrun : (systemMachine L kWakelockTimeoutNs).Run
      (.init L hasPipe hasNode inBase quantumCount now) ts s)
    {t : SystemTransition} (hpre : t.pre = s)
    (h : (systemMachine L kWakelockTimeoutNs).Takes t)
    (hagrees : t.pre.proxy.wakelock.Agrees) :
    t.post.proxy.wakelock.Agrees ↔ ¬ t.OtherTakesNothing := by
  rw [← takesNothing_iff hrun hpre h]
  cases hp : t.proxyPart L with
  | none =>
      rw [proxy_eq_of_proxyPart h hp]
      exact iff_of_true hagrees (by simp)
  | some p =>
      obtain ⟨htakes, hsame, hpost⟩ := takes_of_proxyPart h hp
      have hrunning : p.pre.wakelock.mThreadsRun = true := by
        rw [hsame, hpre]
        exact (own_of_run hrun).running
      rw [← hsame] at hagrees
      rw [← hpost, agrees_step_iff htakes hrunning hagrees]
      simp

/-- At first the lock is free and nothing is counted. -/
theorem agrees_init :
    (SubHalSystem.init L hasPipe hasNode inBase quantumCount now).proxy.wakelock.Agrees := by
  show false = true ↔ 0 < 0
  simp

theorem agrees_of_systemRun
    (hrun : (systemMachine L kWakelockTimeoutNs).Run
      (.init L hasPipe hasNode inBase quantumCount now) ts s)
    (hothers : ∀ t ∈ ts, ¬ t.OtherTakesNothing) : s.proxy.wakelock.Agrees := by
  refine hrun.history_of_guard (G := fun t : SystemTransition => ¬ t.OtherTakesNothing)
    (I := fun _ s => s.proxy.wakelock.Agrees) agrees_init ?_ hothers
  intro ts t hbefore hstep hguard hagrees
  exact (agrees_systemStep_iff hbefore rfl hstep hagrees).2 hguard

end Sensors
