/-
# Is the published sensor list stable? (`HalProxy.cpp`)

`getSensorsList_2_1` shows the framework the table `mSensors`, which
`initializeSensorList` has filled and which nothing is to change.  One path does:
`countNumWakeupEvents`, called for a chunk that could not be written, looks its events up
with `mSensors[...]`, and an event of a sensor that is not in the table, such as a
dynamic one, enters a sensor of zeros.

`published_list_stable_iff`: the list stays the one that was loaded exactly if every
chunk that is counted so has events of listed sensors only.
-/
import PongHal.DirectChannel

namespace Sensors

/-! ## What counting does to the table -/

namespace SensorMap

/-- The tables have the same entries. -/
def SameEntries (m m' : SensorMap) : Prop := ∀ h : Int32, m[h]? = m'[h]?

/-- Tables with the same entries have them in the same order. -/
theorem SameEntries.toList_eq {m m' : SensorMap} (h : m.SameEntries m') :
    m.toList = m'.toList := by
  have hnodup : ∀ m : SensorMap, m.toList.Nodup := by
    intro m
    refine m.distinct_keys_toList.imp ?_
    rintro a _ hne rfl
    exact hne Std.ReflCmp.compare_self
  rw [← Std.TreeMap.equiv_iff_toList_eq, Std.TreeMap.equiv_iff_toList_perm,
    List.perm_ext_iff_of_nodup (hnodup m) (hnodup m')]
  rintro ⟨k, info⟩
  rw [Std.TreeMap.mem_toList_iff_getElem?_eq_some, Std.TreeMap.mem_toList_iff_getElem?_eq_some,
    h k]

theorem SameEntries.mem_iff {m m' : SensorMap} (h : m.SameEntries m') (k : Int32) :
    k ∈ m ↔ k ∈ m' := by
  rw [← Std.TreeMap.isSome_getElem?_iff_mem, h k, Std.TreeMap.isSome_getElem?_iff_mem]

theorem SameEntries.size_eq {m m' : SensorMap} (h : m.SameEntries m') : m.size = m'.size := by
  rw [← Std.TreeMap.length_toList, h.toList_eq, Std.TreeMap.length_toList]

/-- Reading the entry of a listed sensor leaves the table as it is. -/
theorem sameEntries_operatorIndex {m : SensorMap} {sensorHandle : Int32}
    (hmem : sensorHandle ∈ m) : (m.operatorIndex sensorHandle).SameEntries m := by
  intro h
  rw [operatorIndex, Std.TreeMap.getElem?_insertIfNew, if_neg]
  rintro ⟨-, hnew⟩
  exact hnew hmem

theorem size_operatorIndex (m : SensorMap) (sensorHandle : Int32) :
    (m.operatorIndex sensorHandle).size = if sensorHandle ∈ m then m.size else m.size + 1 :=
  Std.TreeMap.size_insertIfNew

end SensorMap

/-- Counting events of listed sensors leaves the table as it is. -/
theorem sameEntries_foldl_countWakeupEvent {events : List Event} {acc : ℕ × SensorMap}
    (h : ∀ e ∈ events, e.sensorHandle ∈ acc.2) :
    (events.foldl countWakeupEvent acc).2.SameEntries acc.2 := by
  induction events generalizing acc with
  | nil => exact fun _ => rfl
  | cons event events ih =>
      rw [List.forall_mem_cons] at h
      have hsame := SensorMap.sameEntries_operatorIndex h.1
      have hrest := @ih (countWakeupEvent acc event) fun e he =>
        (hsame.mem_iff _).2 (h.2 e he)
      exact fun k => (hrest k).trans (hsame k)

/-- Counting takes no sensor out of the table. -/
theorem size_le_foldl_countWakeupEvent (events : List Event) (acc : ℕ × SensorMap) :
    acc.2.size ≤ (events.foldl countWakeupEvent acc).2.size := by
  induction events generalizing acc with
  | nil => exact le_rfl
  | cons event events ih =>
      refine le_trans ?_ (ih (countWakeupEvent acc event))
      show acc.2.size ≤ (acc.2.operatorIndex event.sensorHandle).size
      rw [SensorMap.size_operatorIndex]
      split <;> omega

/-- Counting an event of a sensor that is not listed makes the table grow. -/
theorem size_lt_foldl_countWakeupEvent {events : List Event} {acc : ℕ × SensorMap}
    (h : ∃ e ∈ events, e.sensorHandle ∉ acc.2) :
    acc.2.size < (events.foldl countWakeupEvent acc).2.size := by
  induction events generalizing acc with
  | nil => simp at h
  | cons event events ih =>
      have hsize := acc.2.size_operatorIndex event.sensorHandle
      by_cases hmem : event.sensorHandle ∈ acc.2
      · -- the first event is of a listed sensor, so one of the others is not
        have hsame := SensorMap.sameEntries_operatorIndex hmem
        rw [List.exists_mem_cons_iff, or_iff_right (not_not_intro hmem)] at h
        obtain ⟨e, he, hnew⟩ := h
        have hlt := @ih (countWakeupEvent acc event)
          ⟨e, he, fun hold => hnew ((hsame.mem_iff _).1 hold)⟩
        rw [if_pos hmem] at hsize
        exact hsize.symm.trans_lt hlt
      · have hle := size_le_foldl_countWakeupEvent events (countWakeupEvent acc event)
        rw [if_neg hmem] at hsize
        exact (Nat.lt_succ_self _).trans_le (hsize.symm.trans_le hle)

/-! ## The HAL with its client's calls -/

/-- The steps of the HAL, and the client's calls that go to a sub-HAL. -/
inductive ClientLabel
  | hal (l : MultiLabel)
  | activate (sensorHandle : Int32) (enabled : Bool)
  | batch (sensorHandle : Int32) (samplingPeriodNs maxReportLatencyNs : Int64)
  | flush (sensorHandle : Int32)
  deriving DecidableEq, Repr

/-- What can be seen of a step, and what becomes of a call. -/
inductive ClientObservation
  | hal (seen : MultiObservation)
  | outcome (outcome : Outcome)
  deriving DecidableEq, Repr

/-- One step.  The calls leave the proxy as it is. -/
def MultiHal.clientStep (kWakelockTimeoutNs : ℤ) (p : MultiHal) :
    ClientLabel → Option (MultiHal × List ClientObservation)
  | .hal l => (p.step kWakelockTimeoutNs l).map fun r => (r.1, r.2.map .hal)
  | .activate sensorHandle enabled =>
      some (p, [.outcome (activate p.mSubHalList sensorHandle enabled)])
  | .batch sensorHandle samplingPeriodNs maxReportLatencyNs =>
      some (p, [.outcome (batch p.mSubHalList sensorHandle samplingPeriodNs maxReportLatencyNs)])
  | .flush sensorHandle => some (p, [.outcome (flush p.mSubHalList sensorHandle)])

/-- The machine of the HAL and its client. -/
def clientMachine (kWakelockTimeoutNs : ℤ) : Machine MultiHal ClientLabel ClientObservation where
  step := MultiHal.clientStep kWakelockTimeoutNs

/-- A step of its run. -/
abbrev ClientTransition := Transition MultiHal ClientLabel ClientObservation

/-- If the step counts the events of a chunk that could not be written, all of them are of
sensors in the table `listed`. -/
def ClientTransition.CountsListed (listed : SensorMap) (t : ClientTransition) : Prop :=
  t.label = .hal (.proxy .giveBack) →
    ∀ front ∈ t.pre.proxy.mPendingWriteEventsQueue.head?, 0 < front.2 →
      t.pre.proxy.mEventQueue.quantumCount < front.1.length →
      ∀ e ∈ front.1.take t.pre.proxy.mEventQueue.quantumCount, e.sensorHandle ∈ listed

instance (listed : SensorMap) (t : ClientTransition) : Decidable (t.CountsListed listed) := by
  unfold ClientTransition.CountsListed
  infer_instance

/-! ## The steps -/

variable {kWakelockTimeoutNs : ℤ}

/-- Only giving back after a failed write can change the table. -/
theorem mSensors_proxyStep {t : ProxyTransition} (h : (proxyMachine kWakelockTimeoutNs).Takes t) :
    (t.label ≠ .giveBack ∧ t.post.mSensors = t.pre.mSensors) ∨
    ∃ front, t.label = .giveBack ∧ t.pre.mPendingWriteEventsQueue.head? = some front ∧
      t.post.mSensors = (t.pre.giveBack front.1 front.2).mSensors := by
  by_cases hlabel : t.label = .giveBack
  · obtain ⟨p, l, out, p'⟩ := t
    obtain rfl : l = .giveBack := hlabel
    have hstep : p.step kWakelockTimeoutNs .giveBack = some (p', out) := h
    simp only [HalProxy.step] at hstep
    split at hstep
    · rename_i events numWakeupEvents rest hwriter hfront
      simp only [Option.some.injEq, Prod.mk.injEq] at hstep
      obtain ⟨rfl, rfl⟩ := hstep
      exact .inr ⟨(events, numWakeupEvents), rfl, by rw [hfront, List.head?_cons], rfl⟩
    · simp at hstep
  · refine .inl ⟨hlabel, ?_⟩
    cases proxyStep_of_takes h with
    | gaveBack => exact absurd rfl hlabel
    | posted p subHalIndex events wakelock writeOk es hes hne hlive =>
        exact (p.frame_postEventsToMessageQueue es _ wakelock.isSome writeOk).1
    | _ => rfl

/-- So it is in the HAL. -/
theorem mSensors_clientStep {t : ClientTransition}
    (h : (clientMachine kWakelockTimeoutNs).Takes t) :
    (t.label ≠ .hal (.proxy .giveBack) ∧ t.post.proxy.mSensors = t.pre.proxy.mSensors) ∨
    ∃ front, t.label = .hal (.proxy .giveBack) ∧
      t.pre.proxy.mPendingWriteEventsQueue.head? = some front ∧
      t.post.proxy.mSensors = (t.pre.proxy.giveBack front.1 front.2).mSensors := by
  obtain ⟨p, l, out, p'⟩ := t
  have hstep : p.clientStep kWakelockTimeoutNs l = some (p', out) := h
  cases l with
  | hal l =>
      obtain ⟨⟨q, seen⟩, hmulti, hr⟩ := Option.map_eq_some_iff.1 hstep
      obtain ⟨rfl, -⟩ := Prod.mk.inj hr
      have htakes : (multiMachine kWakelockTimeoutNs).Takes ⟨p, l, seen, q⟩ := hmulti
      cases multiStep_of_takes htakes with
      | proxy p t hpre hcan hproxy =>
          rcases mSensors_proxyStep hproxy with ⟨hlabel, hsame⟩ | ⟨front, hlabel, hfront, htable⟩
          · exact .inl ⟨by simpa using hlabel, by rw [← hpre]; exact hsame⟩
          · exact .inr ⟨front, by rw [hlabel], by rw [← hpre]; exact hfront,
              by rw [← hpre]; exact htable⟩
      | _ => exact .inl ⟨by simp, rfl⟩
  | _ =>
      obtain ⟨rfl, -⟩ := Prod.mk.inj (Option.some.inj hstep)
      exact .inl ⟨by simp, rfl⟩

/-- What giving back a chunk of listed sensors does to the table: nothing. -/
theorem sameEntries_giveBack {p : HalProxy} {front : List Event × ℕ}
    (h : 0 < front.2 → p.mEventQueue.quantumCount < front.1.length →
      ∀ e ∈ front.1.take p.mEventQueue.quantumCount, e.sensorHandle ∈ p.mSensors) :
    (p.giveBack front.1 front.2).mSensors.SameEntries p.mSensors := by
  unfold HalProxy.giveBack
  simp only
  split
  · rename_i hnum
    split
    · rename_i hlong
      exact sameEntries_foldl_countWakeupEvent (h hnum hlong)
    · exact fun _ => rfl
  · exact fun _ => rfl

/-- If one of the counted events is of another sensor, the table grows. -/
theorem size_lt_giveBack {p : HalProxy} {front : List Event × ℕ} (hnum : 0 < front.2)
    (hlong : p.mEventQueue.quantumCount < front.1.length)
    (hnew : ∃ e ∈ front.1.take p.mEventQueue.quantumCount, e.sensorHandle ∉ p.mSensors) :
    p.mSensors.size < (p.giveBack front.1 front.2).mSensors.size := by
  have hlt := @size_lt_foldl_countWakeupEvent _ (0, p.mSensors) hnew
  unfold HalProxy.giveBack
  simp only
  rw [if_pos hnum, if_pos hlong]
  exact hlt

/-- Giving back takes no sensor out of the table. -/
theorem size_le_giveBack (p : HalProxy) (front : List Event × ℕ) :
    p.mSensors.size ≤ (p.giveBack front.1 front.2).mSensors.size := by
  by_cases h : 0 < front.2 → p.mEventQueue.quantumCount < front.1.length →
      ∀ e ∈ front.1.take p.mEventQueue.quantumCount, e.sensorHandle ∈ p.mSensors
  · exact (sameEntries_giveBack h).size_eq.ge
  · push Not at h
    obtain ⟨hnum, hlong, hnew⟩ := h
    exact (size_lt_giveBack hnum hlong hnew).le

/-! ## The list of a run -/

section

variable {mSubHalList : List SubHal} {now : ℕ} {ts : List ClientTransition} {p : MultiHal}

/-- The table has the entries that were loaded, or more sensors than were loaded. -/
def SensorMap.LoadedOrGrown (listed m : SensorMap) : Prop :=
  m.SameEntries listed ∨ listed.size < m.size

theorem loadedOrGrown_step {listed : SensorMap} {t : ClientTransition}
    (h : (clientMachine kWakelockTimeoutNs).Takes t)
    (hpre : listed.LoadedOrGrown t.pre.proxy.mSensors) :
    listed.LoadedOrGrown t.post.proxy.mSensors := by
  rcases mSensors_clientStep h with ⟨-, hsame⟩ | ⟨front, -, -, htable⟩
  · rwa [hsame]
  · rw [htable]
    rcases hpre with hpre | hpre
    · by_cases hlisted : 0 < front.2 → t.pre.proxy.mEventQueue.quantumCount < front.1.length →
          ∀ e ∈ front.1.take t.pre.proxy.mEventQueue.quantumCount,
            e.sensorHandle ∈ t.pre.proxy.mSensors
      · exact .inl fun k => (sameEntries_giveBack hlisted k).trans (hpre k)
      · push Not at hlisted
        obtain ⟨hnum, hlong, hnew⟩ := hlisted
        exact .inr (hpre.size_eq.ge.trans_lt (size_lt_giveBack hnum hlong hnew))
    · exact .inr (hpre.trans_le (size_le_giveBack _ front))

/-- A step keeps the loaded entries exactly if it counts listed sensors only. -/
theorem sameEntries_step_iff {listed : SensorMap} {t : ClientTransition}
    (h : (clientMachine kWakelockTimeoutNs).Takes t)
    (hpre : t.pre.proxy.mSensors.SameEntries listed) :
    t.post.proxy.mSensors.SameEntries listed ↔ t.CountsListed listed := by
  rcases mSensors_clientStep h with ⟨hlabel, hsame⟩ | ⟨front, hlabel, hfront, htable⟩
  · rw [hsame]
    exact iff_of_true hpre fun hgive => absurd hgive hlabel
  · have hcounts : t.CountsListed listed ↔
        (0 < front.2 → t.pre.proxy.mEventQueue.quantumCount < front.1.length →
          ∀ e ∈ front.1.take t.pre.proxy.mEventQueue.quantumCount,
            e.sensorHandle ∈ t.pre.proxy.mSensors) := by
      unfold ClientTransition.CountsListed
      simp only [hlabel, hfront, true_imp_iff, Option.mem_some_iff, forall_eq', hpre.mem_iff]
    rw [hcounts, htable]
    constructor
    · intro hkept hnum hlong
      by_contra hnew
      push Not at hnew
      have hlt := size_lt_giveBack hnum hlong hnew
      rw [hkept.size_eq, hpre.size_eq] at hlt
      exact lt_irrefl _ hlt
    · intro hlisted k
      exact (sameEntries_giveBack hlisted k).trans (hpre k)

/-- The list of a table that a run has reached tells whether it has the loaded entries. -/
theorem getSensorsList_2_1_eq_iff
    (hrun : (clientMachine kWakelockTimeoutNs).Run (.construct mSubHalList now) ts p) :
    getSensorsList_2_1 p.proxy.mSensors =
        getSensorsList_2_1 (initializeSensorList mSubHalList).mSensors ↔
      p.proxy.mSensors.SameEntries (initializeSensorList mSubHalList).mSensors := by
  have hall : SensorMap.LoadedOrGrown (initializeSensorList mSubHalList).mSensors
      p.proxy.mSensors := by
    refine hrun.invariant (I := fun p => SensorMap.LoadedOrGrown
      (initializeSensorList mSubHalList).mSensors p.proxy.mSensors) (.inl fun _ => rfl) ?_
    intro t hstep hpre
    exact loadedOrGrown_step hstep hpre
  constructor
  · intro hlist
    rcases hall with hloaded | hgrown
    · exact hloaded
    · have hlength := congrArg List.length hlist
      simp only [getSensorsList_2_1, List.length_map, Std.TreeMap.length_toList] at hlength
      omega
  · intro hsame
    unfold getSensorsList_2_1
    rw [hsame.toList_eq]

/-- **Exactly when the published list is stable.**  In every state of a run the list is
the one computed by `initializeSensorList` if and only if every chunk of which the events
are counted after a failed write has events of listed sensors only. -/
theorem published_list_stable_iff
    (hrun : (clientMachine kWakelockTimeoutNs).Run (.construct mSubHalList now) ts p) :
    (∀ ts₁ p₁, ts₁ <+: ts →
      (clientMachine kWakelockTimeoutNs).Run (.construct mSubHalList now) ts₁ p₁ →
      getSensorsList_2_1 p₁.proxy.mSensors =
        getSensorsList_2_1 (initializeSensorList mSubHalList).mSensors) ↔
    ∀ t ∈ ts, t.CountsListed (initializeSensorList mSubHalList).mSensors := by
  rw [← hrun.states_iff_of_steps (I := fun p =>
    p.proxy.mSensors.SameEntries (initializeSensorList mSubHalList).mSensors) (fun _ => rfl)
    fun _ t _ _ _ hstep hpre => sameEntries_step_iff hstep hpre]
  refine forall₂_congr fun ts₁ p₁ => imp_congr_right fun _ => ?_
  exact forall_congr' fun hrun₁ => getSensorsList_2_1_eq_iff hrun₁

end

/-- A sub-HAL with one sensor, which wakes the device up. -/
def oneWakeUpSubHal : SubHal := ⟨[{ sensorHandle := 1, type := 5, flags := wakeUp }]⟩

/-- The write of the first of two events of the sensor fails, and the list stays. -/
theorem published_list_stable_iff_listed :
    ∃ (ts : List ClientTransition) (p : MultiHal),
      (clientMachine 1000).Run (.construct [oneWakeUpSubHal] 0) ts p ∧
      ts.getLast?.map (·.label) = some (.hal (.proxy .giveBack)) ∧
      getSensorsList_2_1 p.proxy.mSensors =
        getSensorsList_2_1 (initializeSensorList [oneWakeUpSubHal]).mSensors := by
  have hlisted : ∃ (ts : List ClientTransition) (p : MultiHal),
      (clientMachine 1000).Run (.construct [oneWakeUpSubHal] 0) ts p ∧
      ts.getLast?.map (·.label) = some (.hal (.proxy .giveBack)) ∧
      ∀ t ∈ ts, t.CountsListed (initializeSensorList [oneWakeUpSubHal]).mSensors :=
    Machine.exists_run_of_exec
      [.hal .initializeCommon, .hal .clearPendingWrites, .hal (.exchangeQueues 1),
        .hal .startThreads, .hal .initialized, .activate 1 true,
        .hal (.proxy .createScopedWakelock),
        .hal (.proxy (.postEvents 0 [⟨0, 1, 5, 0⟩, ⟨1, 1, 5, 0⟩] (some 0) false)),
        .hal (.proxy .select), .hal (.proxy (.writeBlocking false)), .hal (.proxy .giveBack)]
      (by decide)
  obtain ⟨ts, p, hrun, hlast, hcounts⟩ := hlisted
  exact ⟨ts, p, hrun, hlast,
    (published_list_stable_iff hrun).2 hcounts ts p (List.prefix_refl ts) hrun⟩

/-- An event of a dynamic sensor is posted with one of the listed sensor, and the write
fails: the framework is shown a sensor of zeros next to the other. -/
theorem published_list_grows :
    ∃ (ts : List ClientTransition) (p : MultiHal),
      (clientMachine 1000).Run (.construct [oneWakeUpSubHal] 0) ts p ∧
      getSensorsList_2_1 (initializeSensorList [oneWakeUpSubHal]).mSensors =
        [⟨1, 5, "", wakeUp⟩] ∧
      getSensorsList_2_1 p.proxy.mSensors = [⟨1, 5, "", wakeUp⟩, {}] :=
  Machine.exists_run_of_exec
    [.hal .initializeCommon, .hal .clearPendingWrites, .hal (.exchangeQueues 1),
      .hal .startThreads, .hal .initialized,
      .hal (.onDynamicSensorsConnected [{ sensorHandle := 9, type := 5 }] 0),
      .hal (.proxy .createScopedWakelock),
      .hal (.proxy (.postEvents 0 [⟨0, 9, 5, 0⟩, ⟨1, 1, 5, 0⟩] (some 0) false)),
      .hal (.proxy .select), .hal (.proxy (.writeBlocking false)), .hal (.proxy .giveBack)]
    (by decide)

end Sensors
