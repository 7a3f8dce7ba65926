/-
# Dynamic sensors and what the framework knows of them (`HalProxy.cpp`)

A sub-HAL connects and disconnects dynamic sensors with calls of its own.  The proxy
updates `mDynamicSensors` under a lock, and calls the framework after it has given the
lock back, so that the framework may hear of two sub-HALs' calls the other way round.

`dynamicMachine` has the two halves of a call as two steps.  The handles of a sub-HAL
carry its index, so that every sub-HAL changes keys of its own only, and one call after
the other: the framework's view is a view of `mDynamicSensors` in the sense of
`DeferredView`.  `dynamic_view_agrees`: it is `mDynamicSensors` whenever no call is
running, and no sensor is disconnected that is not connected.
-/
import PongHal.DeferredView
import PongHal.MultiHal

namespace Sensors

open DeferredView

/-! ## The calls and their callbacks -/

/-- A callback of the framework. -/
inductive DynamicCallback
  | onDynamicSensorsConnected (sensors : List SensorInfo)
  | onDynamicSensorsDisconnected (sensorHandles : List Int32)
  deriving DecidableEq, Repr

/-- The sensors, and for each sub-HAL the callback that its running call has still to
make; none if no call of it is running. -/
structure DynamicSensors where
  mDynamicSensors : SensorMap
  inFlight : List (Option DynamicCallback)

/-- The halves of a call: a sub-HAL calls, and the table is updated; the framework is
called, and the call returns. -/
inductive DynamicLabel
  | onDynamicSensorsConnected (dynamicSensorsAdded : List SensorInfo) (subHalIndex : ℕ)
  | onDynamicSensorsDisconnected (dynamicSensorHandlesRemoved : List Int32) (subHalIndex : ℕ)
  | callback (subHalIndex : ℕ)
  deriving DecidableEq, Repr

namespace DynamicSensors

/-- The proxy just initialised, with `n` sub-HALs. -/
def init (n : ℕ) : DynamicSensors := ⟨∅, List.replicate n none⟩

/-- One step.  The calls of one sub-HAL come one after the other. -/
def step (s : DynamicSensors) : DynamicLabel → Option (DynamicSensors × List DynamicCallback)
  | .onDynamicSensorsConnected dynamicSensorsAdded subHalIndex =>
      if s.inFlight[subHalIndex]? = some none then
        let r := Sensors.onDynamicSensorsConnected s.mDynamicSensors dynamicSensorsAdded subHalIndex
        some (⟨r.1, s.inFlight.set subHalIndex (some (.onDynamicSensorsConnected r.2))⟩, [])
      else none
  | .onDynamicSensorsDisconnected dynamicSensorHandlesRemoved subHalIndex =>
      if s.inFlight[subHalIndex]? = some none then
        let r := Sensors.onDynamicSensorsDisconnected s.mDynamicSensors
          dynamicSensorHandlesRemoved subHalIndex
        some (⟨r.1, s.inFlight.set subHalIndex (some (.onDynamicSensorsDisconnected r.2))⟩, [])
      else none
  | .callback subHalIndex =>
      match s.inFlight[subHalIndex]? with
      | some (some callback) =>
          some ({ s with inFlight := s.inFlight.set subHalIndex none }, [callback])
      | _ => none

end DynamicSensors

/-- The machine of the calls. -/
def dynamicMachine : Machine DynamicSensors DynamicLabel DynamicCallback where
  step := DynamicSensors.step

/-- A step of a run. -/
abbrev DynamicTransition := Transition DynamicSensors DynamicLabel DynamicCallback

/-- What a callback changes. -/
def DynamicCallback.change : DynamicCallback → Change Int32
  | .onDynamicSensorsConnected sensors => .add (sensors.map (·.sensorHandle))
  | .onDynamicSensorsDisconnected sensorHandles => .remove sensorHandles

/-- The sensors that are connected for the framework after these callbacks. -/
def replay (callbacks : List DynamicCallback) : Set Int32 :=
  callbacks.foldl (fun view callback => callback.change.apply view) ∅

@[simp] theorem replay_append_singleton (callbacks : List DynamicCallback)
    (callback : DynamicCallback) :
    replay (callbacks ++ [callback]) = callback.change.apply (replay callbacks) := by
  simp [replay]

/-! ## What a call does to the table -/

/-- The framework is told about the sensors with accepted handles. -/
theorem onDynamicSensorsConnected_snd (mDynamicSensors : SensorMap)
    (dynamicSensorsAdded : List SensorInfo) (subHalIndex : ℕ) :
    (onDynamicSensorsConnected mDynamicSensors dynamicSensorsAdded subHalIndex).2 =
      (dynamicSensorsAdded.filter fun sensor => subHalIndexIsClear sensor.sensorHandle).map
        fun sensor => { sensor with
          sensorHandle := HalProxy.setSubHalIndex sensor.sensorHandle subHalIndex } := by
  have hloop : ∀ acc : SensorMap × List SensorInfo,
      (dynamicSensorsAdded.foldl (connectDynamicSensor subHalIndex) acc).2 =
        acc.2 ++ (dynamicSensorsAdded.filter fun sensor =>
          subHalIndexIsClear sensor.sensorHandle).map fun sensor => { sensor with
            sensorHandle := HalProxy.setSubHalIndex sensor.sensorHandle subHalIndex } := by
    induction dynamicSensorsAdded with
    | nil => simp
    | cons sensor rest ih =>
        intro acc
        rw [List.foldl_cons, ih, connectDynamicSensor]
        cases hclear : subHalIndexIsClear sensor.sensorHandle with
        | false => simp [hclear]
        | true => simp [hclear]
  exact hloop (mDynamicSensors, [])

section Call

variable {mDynamicSensors : SensorMap} {subHalIndex : ℕ}

/-- The keys after sensors were connected. -/
theorem mem_onDynamicSensorsConnected (dynamicSensorsAdded : List SensorInfo)
    (sensorHandle : Int32) :
    sensorHandle ∈
        (onDynamicSensorsConnected mDynamicSensors dynamicSensorsAdded subHalIndex).1 ↔
      sensorHandle ∈ mDynamicSensors ∨ sensorHandle ∈
        (onDynamicSensorsConnected mDynamicSensors dynamicSensorsAdded subHalIndex).2.map
          (·.sensorHandle) := by
  refine List.foldlRecOn (motive := fun acc : SensorMap × List SensorInfo =>
    sensorHandle ∈ acc.1 ↔ sensorHandle ∈ mDynamicSensors ∨
      sensorHandle ∈ acc.2.map (·.sensorHandle)) _ _ ?_ ?_
  · simp
  · intro acc hacc sensor _
    unfold connectDynamicSensor
    split
    · exact hacc
    · simp only [Std.TreeMap.mem_insert, Std.LawfulEqCmp.compare_eq_iff_eq, hacc, List.map_append,
        List.map_singleton, List.mem_append, List.mem_singleton]
      rw [eq_comm (b := sensorHandle)]
      tauto

/-- What holds of the table and of the handles in the loop of a disconnection. -/
structure Disconnecting (mDynamicSensors : SensorMap) (subHalIndex : ℕ)
    (acc : SensorMap × List Int32) : Prop where
  nodup : acc.2.Nodup
  known : ∀ h ∈ acc.2, h ∈ mDynamicSensors
  own : ∀ h ∈ acc.2, ∃ sensorHandle, subHalIndexIsClear sensorHandle = true ∧
    h = HalProxy.setSubHalIndex sensorHandle subHalIndex
  rest : ∀ h, h ∈ acc.1 ↔ h ∈ mDynamicSensors ∧ h ∉ acc.2

/-- Sensors are disconnected once, if they are connected, and they are the sub-HAL's. -/
theorem disconnecting_onDynamicSensorsDisconnected (handles : List Int32) :
    Disconnecting mDynamicSensors subHalIndex
      (onDynamicSensorsDisconnected mDynamicSensors handles subHalIndex) := by
  refine List.foldlRecOn (motive := Disconnecting mDynamicSensors subHalIndex) _ _ ?_ ?_
  · exact ⟨by simp, by simp, by simp, by simp⟩
  · intro acc hacc sensorHandle _
    unfold disconnectDynamicSensor
    split
    · exact hacc
    · rename_i hclear
      simp only
      split
      · rename_i hcontains
        have hmem := (hacc.rest _).1 (Std.TreeMap.mem_iff_contains.2 hcontains)
        refine ⟨?_, ?_, ?_, fun h => ?_⟩
        · exact List.nodup_append_comm.1 (List.nodup_cons.2 ⟨hmem.2, hacc.nodup⟩)
        · simpa [or_imp, forall_and] using ⟨hacc.known, hmem.1⟩
        · intro h hh
          rcases List.mem_append.1 hh with hh | hh
          · exact hacc.own h hh
          · exact ⟨sensorHandle, by simpa using hclear, by simpa using hh⟩
        · simp only [Std.TreeMap.mem_erase, ne_eq, Std.LawfulEqCmp.compare_eq_iff_eq, hacc.rest h,
            List.mem_append, List.mem_singleton]
          rw [eq_comm (b := h)]
          tauto
      · exact hacc

end Call

/-! ## The steps, by cases -/

/-- The steps, with what a sub-HAL's call needs. -/
inductive DynamicStep : DynamicTransition → Prop
  | connected (s : DynamicSensors) (sensors : List SensorInfo) (subHalIndex : ℕ)
      (hidle : s.inFlight[subHalIndex]? = some none) :
      DynamicStep ⟨s, .onDynamicSensorsConnected sensors subHalIndex, [],
        ⟨(onDynamicSensorsConnected s.mDynamicSensors sensors subHalIndex).1,
          s.inFlight.set subHalIndex (some (.onDynamicSensorsConnected
            (onDynamicSensorsConnected s.mDynamicSensors sensors subHalIndex).2))⟩⟩
  | disconnected (s : DynamicSensors) (handles : List Int32) (subHalIndex : ℕ)
      (hidle : s.inFlight[subHalIndex]? = some none) :
      DynamicStep ⟨s, .onDynamicSensorsDisconnected handles subHalIndex, [],
        ⟨(onDynamicSensorsDisconnected s.mDynamicSensors handles subHalIndex).1,
          s.inFlight.set subHalIndex (some (.onDynamicSensorsDisconnected
            (onDynamicSensorsDisconnected s.mDynamicSensors handles subHalIndex).2))⟩⟩
  | calledBack (s : DynamicSensors) (subHalIndex : ℕ) (callback : DynamicCallback)
      (hcall : s.inFlight[subHalIndex]? = some (some callback)) :
      DynamicStep ⟨s, .callback subHalIndex, [callback],
        { s with inFlight := s.inFlight.set subHalIndex none }⟩

theorem dynamicStep_of_takes {t : DynamicTransition} (h : dynamicMachine.Takes t) :
    DynamicStep t := by
  obtain ⟨s, l, out, s'⟩ := t
  have hstep : s.step l = some (s', out) := h
  cases l with
  | onDynamicSensorsConnected sensors subHalIndex =>
      simp only [DynamicSensors.step, Option.ite_none_right_eq_some, Option.some.injEq,
        Prod.mk.injEq] at hstep
      obtain ⟨hidle, rfl, rfl⟩ := hstep
      exact .connected s sensors subHalIndex hidle
  | onDynamicSensorsDisconnected handles subHalIndex =>
      simp only [DynamicSensors.step, Option.ite_none_right_eq_some, Option.some.injEq,
        Prod.mk.injEq] at hstep
      obtain ⟨hidle, rfl, rfl⟩ := hstep
      exact .disconnected s handles subHalIndex hidle
  | callback subHalIndex =>
      simp only [DynamicSensors.step] at hstep
      split at hstep
      · rename_i callback hcall
        simp only [Option.some.injEq, Prod.mk.injEq] at hstep
        obtain ⟨rfl, rfl⟩ := hstep
        exact .calledBack s subHalIndex callback hcall
      · simp at hstep

/-! ## The view follows the table -/

namespace DynamicSensors

/-- The change that a sub-HAL's running call has still to tell the framework. -/
def pending (s : DynamicSensors) (subHalIndex : ℕ) : Option (Change Int32) :=
  s.inFlight[subHalIndex]?.join.map (·.change)

/-- The framework's view, after these callbacks, is one of the connected sensors. -/
def Followed (s : DynamicSensors) (callbacks : List DynamicCallback) : Prop :=
  InStep extractSubHalIndex {h | h ∈ s.mDynamicSensors} (replay callbacks) s.pending

variable {s : DynamicSensors} {subHalIndex : ℕ}

theorem pending_of_idle (hidle : s.inFlight[subHalIndex]? = some none) :
    s.pending subHalIndex = none := by
  simp [pending, hidle]

theorem pending_set {inFlight : List (Option DynamicCallback)} {old : Option DynamicCallback}
    (hold : inFlight[subHalIndex]? = some old) (mDynamicSensors : SensorMap)
    (call : Option DynamicCallback) :
    pending ⟨mDynamicSensors, inFlight.set subHalIndex call⟩ subHalIndex =
      call.map (·.change) := by
  have hlt := (List.getElem?_eq_some_iff.1 hold).1
  simp [pending, List.getElem?_set_self hlt]

theorem pending_set_of_ne {j : ℕ} (hj : j ≠ subHalIndex) (mDynamicSensors : SensorMap)
    (call : Option DynamicCallback) :
    pending ⟨mDynamicSensors, s.inFlight.set subHalIndex call⟩ j = s.pending j := by
  simp [pending, List.getElem?_set_ne hj.symm]

/-- The first half of a call: the table changes as the framework will be told. -/
theorem Followed.call {callbacks : List DynamicCallback} (h : s.Followed callbacks)
    (hidle : s.inFlight[subHalIndex]? = some none) {callback : DynamicCallback}
    {mDynamicSensors : SensorMap}
    (howned : ∀ k ∈ callback.change.keys, extractSubHalIndex k = subHalIndex)
    (hsound : callback.change.Sound {k | k ∈ s.mDynamicSensors})
    (htable : {k | k ∈ mDynamicSensors} = callback.change.apply {k | k ∈ s.mDynamicSensors}) :
    Followed ⟨mDynamicSensors, s.inFlight.set subHalIndex (some callback)⟩ callbacks := by
  rw [Followed, htable]
  exact h.update (pending_of_idle hidle) howned hsound (pending_set hidle _ (some callback))
    fun j hj => pending_set_of_ne hj _ _

/-- The second half: the framework is told. -/
theorem Followed.callback {callbacks : List DynamicCallback} (h : s.Followed callbacks)
    {callback : DynamicCallback} (hcall : s.inFlight[subHalIndex]? = some (some callback)) :
    callback.change.Sound (replay callbacks) ∧
      Followed { s with inFlight := s.inFlight.set subHalIndex none }
        (callbacks ++ [callback]) := by
  have hpending : s.pending subHalIndex = some callback.change := by simp [pending, hcall]
  rw [Followed, replay_append_singleton]
  exact h.deliver hpending (pending_set hcall _ none) fun j hj => pending_set_of_ne hj _ _

theorem length_inFlight_step {t : DynamicTransition} (h : dynamicMachine.Takes t) :
    t.post.inFlight.length = t.pre.inFlight.length := by
  cases dynamicStep_of_takes h <;> simp

end DynamicSensors

/-- A step keeps the view one of the connected sensors, and what it tells the framework
is sound. -/
theorem followed_step {t : DynamicTransition} {callbacks : List DynamicCallback}
    (h : dynamicMachine.Takes t) (hsize : t.pre.inFlight.length ≤ 128)
    (hpre : t.pre.Followed callbacks) :
    (∀ callback ∈ t.out, callback.change.Sound (replay callbacks)) ∧
      t.post.Followed (callbacks ++ t.out) := by
  cases dynamicStep_of_takes h with
  | connected s sensors subHalIndex hidle =>
      have hindex : subHalIndex < 128 := (List.getElem?_eq_some_iff.1 hidle).1.trans_le hsize
      simp only [List.append_nil]
      refine ⟨by simp, hpre.call hidle ?_ trivial ?_⟩
      · simp only [DynamicCallback.change, Change.keys, onDynamicSensorsConnected_snd,
          List.mem_map, List.mem_filter]
        rintro k ⟨info, ⟨sensor, ⟨-, hclear⟩, rfl⟩, rfl⟩
        exact extractSubHalIndex_setSubHalIndex hclear hindex
      · ext k
        exact mem_onDynamicSensorsConnected sensors k
  | disconnected s handles subHalIndex hidle =>
      have hindex : subHalIndex < 128 := (List.getElem?_eq_some_iff.1 hidle).1.trans_le hsize
      have hloop : Disconnecting s.mDynamicSensors subHalIndex
          (onDynamicSensorsDisconnected s.mDynamicSensors handles subHalIndex) :=
        disconnecting_onDynamicSensorsDisconnected handles
      simp only [List.append_nil]
      refine ⟨by simp, hpre.call hidle ?_ ⟨hloop.nodup, hloop.known⟩ ?_⟩
      · intro k hk
        obtain ⟨sensorHandle, hclear, rfl⟩ := hloop.own k hk
        exact extractSubHalIndex_setSubHalIndex hclear hindex
      · ext k
        exact hloop.rest k
  | calledBack s subHalIndex callback hcall =>
      obtain ⟨hsound, hfollowed⟩ := hpre.callback hcall
      exact ⟨by simpa using hsound, hfollowed⟩

theorem followed_init (n : ℕ) : (DynamicSensors.init n).Followed [] := by
  have hpending : (DynamicSensors.init n).pending = fun _ => none := by
    funext i
    simp only [DynamicSensors.pending, DynamicSensors.init, List.getElem?_replicate]
    split <;> rfl
  have hempty : {h | h ∈ (DynamicSensors.init n).mDynamicSensors} = (∅ : Set Int32) := by
    ext h
    simp [DynamicSensors.init]
  rw [DynamicSensors.Followed, hpending, hempty]
  exact InStep.start _ _

variable {n : ℕ} {ts : List DynamicTransition} {s : DynamicSensors}

theorem followed_of_run (hsize : n ≤ 128) (hrun : dynamicMachine.Run (.init n) ts s) :
    s.inFlight.length ≤ 128 ∧ s.Followed (ts.flatMap (·.out)) := by
  refine hrun.history (I := fun ts s => s.inFlight.length ≤ 128 ∧
    s.Followed (ts.flatMap (·.out))) ?_ ?_
  · exact ⟨by simpa [DynamicSensors.init] using hsize, followed_init n⟩
  · rintro ts t - hstep ⟨hlength, hfollowed⟩
    rw [List.flatMap_append, List.flatMap_singleton, DynamicSensors.length_inFlight_step hstep]
    exact ⟨hlength, (followed_step hstep hlength hfollowed).2⟩

/-! ## Calls with nothing in between

In `multiMachine` both halves of a call are one step.  Up to the next call of
`initialize` its runs are runs of `dynamicMachine`.
-/

/-- The callback that is seen in a step of the proxy. -/
def MultiObservation.callback? : MultiObservation → Option DynamicCallback
  | .dynamicSensorsConnected sensors => some (.onDynamicSensorsConnected sensors)
  | .dynamicSensorsDisconnected sensorHandles => some (.onDynamicSensorsDisconnected sensorHandles)
  | _ => none

/-- The step is no part of `initialize` that clears the table, and comes from one of `n`
sub-HALs if it is a call of one. -/
def MultiLabel.KeepsDynamicSensors (n : ℕ) : MultiLabel → Prop
  | .onDynamicSensorsConnected _ subHalIndex | .onDynamicSensorsDisconnected _ subHalIndex =>
      subHalIndex < n
  | .clearPendingWrites => False
  | _ => True

/-- The table of the proxy, with no call of `n` sub-HALs running. -/
def MultiHal.dynamicSensors (p : MultiHal) (n : ℕ) : DynamicSensors :=
  ⟨p.mDynamicSensors, List.replicate n none⟩

/-- Both halves of a call, the second right after the first. -/
theorem run_call {mDynamicSensors table : SensorMap} {n subHalIndex : ℕ} {l : DynamicLabel}
    {callback : DynamicCallback} (hindex : subHalIndex < n)
    (hcall : dynamicMachine.step ⟨mDynamicSensors, List.replicate n none⟩ l =
      some (⟨table, (List.replicate n none).set subHalIndex (some callback)⟩, [])) :
    ∃ ts, dynamicMachine.Run ⟨mDynamicSensors, List.replicate n none⟩ ts
        ⟨table, List.replicate n none⟩ ∧ ts.flatMap (·.out) = [callback] := by
  have hreturn : dynamicMachine.step
      ⟨table, (List.replicate n none).set subHalIndex (some callback)⟩ (.callback subHalIndex) =
      some (⟨table, List.replicate n none⟩, [callback]) := by
    simp [dynamicMachine, DynamicSensors.step, hindex]
  exact ⟨_, (Machine.Run.start.next hcall).next hreturn, rfl⟩

/-- A step of the proxy is a call, or nothing, for the table. -/
theorem run_multiStep {kWakelockTimeoutNs : ℤ} {t : MultiTransition} {n : ℕ}
    (h : (multiMachine kWakelockTimeoutNs).Takes t) (hkeeps : t.label.KeepsDynamicSensors n) :
    ∃ ts, dynamicMachine.Run (t.pre.dynamicSensors n) ts (t.post.dynamicSensors n) ∧
      ts.flatMap (·.out) = t.out.filterMap (·.callback?) := by
  cases multiStep_of_takes h with
  | connected p sensors subHalIndex =>
      refine run_call hkeeps (l := .onDynamicSensorsConnected sensors subHalIndex) ?_
      simp [dynamicMachine, DynamicSensors.step, show subHalIndex < n from hkeeps]
  | disconnected p handles subHalIndex =>
      refine run_call hkeeps (l := .onDynamicSensorsDisconnected handles subHalIndex) ?_
      simp [dynamicMachine, DynamicSensors.step, show subHalIndex < n from hkeeps]
  | proxy p t hproxy hcan hstep =>
      refine ⟨[], .start, ?_⟩
      simp [List.filterMap_map, MultiObservation.callback?]
  | cleared => exact hkeeps.elim
  | _ => exact ⟨[], .start, rfl⟩

/-- Up to the next `initialize` the proxy tells the framework, and does to the table,
what a run of `dynamicMachine` does. -/
theorem run_of_multiRun {kWakelockTimeoutNs : ℤ} {p p' : MultiHal} {ts : List MultiTransition}
    {n : ℕ} (hrun : (multiMachine kWakelockTimeoutNs).Run p ts p')
    (hkeeps : ∀ t ∈ ts, t.label.KeepsDynamicSensors n) :
    ∃ ts', dynamicMachine.Run (p.dynamicSensors n) ts' (p'.dynamicSensors n) ∧
      ts'.flatMap (·.out) = (ts.flatMap (·.out)).filterMap (·.callback?) := by
  refine hrun.simulate (f := fun p => p.dynamicSensors n)
    (G := fun t => t.label.KeepsDynamicSensors n) ?_ hkeeps
  intro t hstep hkeeps
  exact run_multiStep hstep hkeeps

/-! ## The framework's view -/

/-- **The framework's view is the table of connected sensors whenever all calls have
returned, and a callback disconnects sensors that are connected in it, each once.** -/
theorem dynamic_view_agrees (hsize : n ≤ 128) (hrun : dynamicMachine.Run (.init n) ts s) :
    ((∀ call ∈ s.inFlight, call = none) →
      replay (ts.flatMap (·.out)) = {h | h ∈ s.mDynamicSensors}) ∧
    ∀ ts₁ t ts₂ sensorHandles, ts = ts₁ ++ t :: ts₂ →
      .onDynamicSensorsDisconnected sensorHandles ∈ t.out →
      sensorHandles.Nodup ∧ ∀ h ∈ sensorHandles, h ∈ replay (ts₁.flatMap (·.out)) := by
  refine ⟨fun hidle => ?_, ?_⟩
  · refine (followed_of_run hsize hrun).2.eq_of_idle fun i => ?_
    unfold DynamicSensors.pending
    cases hcall : s.inFlight[i]? with
    | none => rfl
    | some call => simp [hidle call (List.mem_of_getElem? hcall)]
  · rintro ts₁ t ts₂ sensorHandles rfl hout
    obtain ⟨hbefore, hstep, -⟩ := hrun.of_append_cons
    obtain ⟨hlength, hfollowed⟩ := followed_of_run hsize hbefore
    exact (followed_step hstep hlength hfollowed).1 _ hout

/-- Two sub-HALs' calls are told the other way round, and one of them disconnects its
sensor again, naming it twice. -/
theorem dynamic_view_agrees_crossed :
    ∃ (ts : List DynamicTransition) (s : DynamicSensors),
      dynamicMachine.Run (.init 2) ts s ∧
      (∀ call ∈ s.inFlight, call = none) ∧ s.mDynamicSensors.keys = [0x01000005] ∧
      replay (ts.flatMap (·.out)) = {h | h ∈ s.mDynamicSensors} := by
  have hcalls : ∃ (ts : List DynamicTransition) (s : DynamicSensors),
      dynamicMachine.Run (.init 2) ts s ∧
      (∀ call ∈ s.inFlight, call = none) ∧ s.mDynamicSensors.keys = [0x01000005] :=
    Machine.exists_run_of_exec
      [.onDynamicSensorsConnected [{ sensorHandle := 5 }] 0,
        .onDynamicSensorsConnected [{ sensorHandle := 5 }, { sensorHandle := 0x01000006 }] 1,
        .callback 1, .callback 0, .onDynamicSensorsDisconnected [5, 5, 7] 0, .callback 0]
      (by decide)
  obtain ⟨ts, s, hrun, hidle, hkeys⟩ := hcalls
  exact ⟨ts, s, hrun, hidle, hkeys, (dynamic_view_agrees (by decide) hrun).1 hidle⟩

end Sensors
