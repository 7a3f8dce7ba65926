/-
# The operation mode of the proxy and of its sub-HALs (`HalProxy::setOperationMode`)

`setOperationMode` asks one sub-HAL after the other, and stops at the first that
refuses; those it has asked before it then sets back to `mCurrentOperationMode`.
`initializeCommon` starts every sub-HAL anew, and with it the mode.

`ModalSubHal` is what the proxy may take for granted of a sub-HAL, whatever else it
does; `SensorsSubHal`, the sub-HAL of this device, is one.  `operation_modes_agree`: all
sub-HALs are in the mode of the proxy after every call, and a refused change is undone,
wherever in the list it was refused.
-/
import PongHal.MultiHal
import PongHal.PollSensor

namespace Sensors

/-! ## Sub-HALs -/

/-- A sub-HAL with states `σ`, as far as its mode goes. -/
structure ModalSubHal (σ : Type*) where
  mode : σ → OperationMode
  setOperationMode : σ → OperationMode → σ × Result
  initializeSubHal : σ → σ × Result
  mode_of_ok : ∀ {s m}, (setOperationMode s m).2 = .ok → mode (setOperationMode s m).1 = m
  mode_of_refused : ∀ {s m}, (setOperationMode s m).2 ≠ .ok →
    mode (setOperationMode s m).1 = mode s
  /-- Going back to the mode it was in is accepted. -/
  back : ∀ {s m}, (setOperationMode s m).2 = .ok →
    (setOperationMode (setOperationMode s m).1 (mode s)).2 = .ok
  mode_initializeSubHal : ∀ {s}, (initializeSubHal s).2 = .ok →
    mode (initializeSubHal s).1 = .normal

variable {σ : Type*} (H : ModalSubHal σ)

/-! ## The loops -/

/-- The first loop of `HalProxy::setOperationMode`: the sub-HALs after it, `result`, and
`subHalIndex`. -/
def setModes (mode : OperationMode) : List σ → List σ × Result × ℕ
  | [] => ([], .ok, 0)
  | subHal :: rest =>
      let r := H.setOperationMode subHal mode
      if r.2 ≠ .ok then (r.1 :: rest, r.2, 0)
      else
        let after := setModes mode rest
        (r.1 :: after.1, after.2.1, after.2.2 + 1)

/-- The second loop, over the first `subHalIndex` sub-HALs. -/
def resetModes (mode : OperationMode) (subHalIndex : ℕ) (subHals : List σ) : List σ :=
  (subHals.take subHalIndex).map (fun subHal => (H.setOperationMode subHal mode).1) ++
    subHals.drop subHalIndex

/-- The loop of `initializeCommon` over the sub-HALs. -/
def initializeSubHals : List σ → List σ × Result
  | [] => ([], .ok)
  | subHal :: rest =>
      let r := H.initializeSubHal subHal
      if r.2 ≠ .ok then (r.1 :: rest, r.2)
      else
        let after := initializeSubHals rest
        (r.1 :: after.1, after.2)

/-- The proxy's mode and the states of its sub-HALs. -/
structure ModalHal (σ : Type*) where
  mCurrentOperationMode : OperationMode
  subHals : List σ

namespace ModalHal

/-- `HalProxy::setOperationMode`. -/
def setOperationMode (p : ModalHal σ) (mode : OperationMode) : ModalHal σ × Result :=
  let r := setModes H mode p.subHals
  if r.2.1 ≠ .ok then
    ({ p with subHals := resetModes H p.mCurrentOperationMode r.2.2 r.1 }, r.2.1)
  else (⟨mode, r.1⟩, r.2.1)

/-- The end of `HalProxy::initializeCommon`; `queues` is the result so far, of setting up
the queues. -/
def initializeCommon (p : ModalHal σ) (queues : Result) : ModalHal σ × Result :=
  let r := initializeSubHals H p.subHals
  (⟨.normal, r.1⟩, if r.2 ≠ .ok then r.2 else queues)

end ModalHal

/-- The calls of the framework, and what a sub-HAL does by itself. -/
inductive ModalLabel (σ : Type*)
  | setOperationMode (mode : OperationMode)
  | initializeCommon (queues : Result)
  | subHal (subHalIndex : ℕ) (state : σ)

/-- One step.  A sub-HAL does not change its mode by itself. -/
def ModalHal.step (p : ModalHal σ) : ModalLabel σ → Option (ModalHal σ × List Result)
  | .setOperationMode mode =>
      let r := p.setOperationMode H mode
      some (r.1, [r.2])
  | .initializeCommon queues =>
      let r := p.initializeCommon H queues
      some (r.1, [r.2])
  | .subHal subHalIndex state =>
      match p.subHals[subHalIndex]? with
      | none => none
      | some old =>
          if H.mode state = H.mode old then
            some ({ p with subHals := p.subHals.set subHalIndex state }, [])
          else none

/-- The machine of the proxy and its sub-HALs. -/
def modalMachine : Machine (ModalHal σ) (ModalLabel σ) Result where
  step := ModalHal.step H

/-- A step of a run. -/
abbrev ModalTransition (σ : Type*) := Transition (ModalHal σ) (ModalLabel σ) Result

/-! ## What the loops do -/

section Loops

variable {H} {mode : OperationMode} {subHals : List σ}

theorem mode_setModes_of_ok (h : (setModes H mode subHals).2.1 = .ok) :
    ∀ s ∈ (setModes H mode subHals).1, H.mode s = mode := by
  induction subHals with
  | nil => simp [setModes]
  | cons subHal rest ih =>
      rw [setModes] at h ⊢
      simp only at h ⊢
      split at h
      · rename_i hrefused
        exact absurd h hrefused
      · rename_i hok
        rw [if_neg hok]
        intro s hs
        rcases List.mem_cons.1 hs with rfl | hs
        · exact H.mode_of_ok (not_not.1 hok)
        · exact ih h s hs

/-- The second loop undoes the first: it goes as far as sub-HALs were changed. -/
theorem mode_resetModes_of_refused {old : OperationMode} (hold : ∀ s ∈ subHals, H.mode s = old)
    (h : (setModes H mode subHals).2.1 ≠ .ok) :
    (resetModes H old (setModes H mode subHals).2.2 (setModes H mode subHals).1).map H.mode =
      subHals.map H.mode := by
  induction subHals with
  | nil => simp [setModes] at h
  | cons subHal rest ih =>
      rw [setModes] at h ⊢
      simp only at h ⊢
      split at h
      · rename_i hrefused
        rw [if_pos hrefused]
        simp [resetModes, H.mode_of_refused hrefused]
      · rename_i hok
        rw [if_neg hok]
        have hhead : H.mode subHal = old := hold subHal List.mem_cons_self
        have hback := H.back (not_not.1 hok)
        rw [hhead] at hback
        have hrest := ih (fun s hs => hold s (List.mem_cons_of_mem _ hs)) h
        simp only [resetModes, List.take_succ_cons, List.drop_succ_cons, List.map_cons,
          List.cons_append] at hrest ⊢
        rw [hrest, H.mode_of_ok hback, hhead]

theorem mode_initializeSubHals (h : (initializeSubHals H subHals).2 = .ok) :
    ∀ s ∈ (initializeSubHals H subHals).1, H.mode s = .normal := by
  induction subHals with
  | nil => simp [initializeSubHals]
  | cons subHal rest ih =>
      rw [initializeSubHals] at h ⊢
      simp only at h ⊢
      split at h
      · rename_i hrefused
        exact absurd h hrefused
      · rename_i hok
        rw [if_neg hok]
        intro s hs
        rcases List.mem_cons.1 hs with rfl | hs
        · exact H.mode_initializeSubHal (not_not.1 hok)
        · exact ih h s hs

end Loops

/-! ## The calls -/

/-- What the sub-HALs answer to a call with `mode`. -/
def modeAnswers (mode : OperationMode) (subHals : List σ) : List Result :=
  subHals.map fun subHal => (H.setOperationMode subHal mode).2

/-- The first loop stops behind the answers that are `OK`, and there is its result. -/
theorem setModes_eq (mode : OperationMode) (subHals : List σ) :
    (setModes H mode subHals).2.2 = ((modeAnswers H mode subHals).takeWhile (· == .ok)).length ∧
    (modeAnswers H mode subHals)[(setModes H mode subHals).2.2]? =
      if (setModes H mode subHals).2.1 = .ok then none else some (setModes H mode subHals).2.1 := by
  induction subHals with
  | nil => simp [setModes, modeAnswers]
  | cons subHal rest ih =>
      unfold modeAnswers at ih ⊢
      rw [setModes]
      simp only
      split
      · rename_i hrefused
        simp [hrefused]
      · rename_i hok
        simpa [not_not.1 hok] using ih

namespace ModalHal

variable {H} {p : ModalHal σ} {mode : OperationMode}

/-- With its sub-HALs the proxy comes to the mode and the result to which it comes with
their answers. -/
theorem setOperationMode_eq (p : ModalHal σ) (mode : OperationMode) :
    ((p.setOperationMode H mode).1.mCurrentOperationMode, (p.setOperationMode H mode).2) =
      ((Sensors.setOperationMode p.mCurrentOperationMode mode (modeAnswers H mode p.subHals)).1,
        (Sensors.setOperationMode p.mCurrentOperationMode mode
          (modeAnswers H mode p.subHals)).2.2) := by
  obtain ⟨hindex, hanswer⟩ := setModes_eq H mode p.subHals
  rw [Sensors.setOperationMode, setOperationMode, ← hindex, hanswer]
  by_cases hok : (setModes H mode p.subHals).2.1 = .ok
  · simp [hok]
  · simp [hok]

/-- All sub-HALs are in the mode of the proxy. -/
def Agree (H : ModalSubHal σ) (p : ModalHal σ) : Prop :=
  ∀ s ∈ p.subHals, H.mode s = p.mCurrentOperationMode

/-- The mode of the proxy and of each sub-HAL are the same in both states. -/
def SameModes (H : ModalSubHal σ) (p p' : ModalHal σ) : Prop :=
  p'.mCurrentOperationMode = p.mCurrentOperationMode ∧
    p'.subHals.map H.mode = p.subHals.map H.mode

theorem SameModes.agree {p' : ModalHal σ} (h : SameModes H p p') (hagree : p.Agree H) :
    p'.Agree H := by
  intro s hs
  have hmode : H.mode s ∈ p.subHals.map H.mode := by
    rw [← h.2]
    exact List.mem_map_of_mem hs
  obtain ⟨s', hs', heq⟩ := List.mem_map.1 hmode
  rw [← heq, h.1]
  exact hagree s' hs'

/-- The result is that of the first loop. -/
theorem setOperationMode_snd :
    (p.setOperationMode H mode).2 = (setModes H mode p.subHals).2.1 := by
  rw [setOperationMode]
  split <;> rfl

theorem agree_setOperationMode_of_ok (h : (p.setOperationMode H mode).2 = .ok) :
    (p.setOperationMode H mode).1.Agree H := by
  have hok : (setModes H mode p.subHals).2.1 = .ok := setOperationMode_snd.symm.trans h
  unfold setOperationMode
  simp only [hok, ne_eq, not_true_eq_false, if_false]
  exact mode_setModes_of_ok hok

/-- A call that fails leaves the modes as they were. -/
theorem sameModes_setOperationMode_of_refused (hagree : p.Agree H)
    (h : (p.setOperationMode H mode).2 ≠ .ok) :
    SameModes H p (p.setOperationMode H mode).1 := by
  have hrefused : (setModes H mode p.subHals).2.1 ≠ .ok := by
    rwa [setOperationMode_snd] at h
  unfold setOperationMode
  simp only [hrefused, ne_eq, not_false_eq_true, if_true]
  exact ⟨rfl, mode_resetModes_of_refused hagree hrefused⟩

theorem agree_initializeCommon_of_ok {queues : Result}
    (h : (p.initializeCommon H queues).2 = .ok) : (p.initializeCommon H queues).1.Agree H := by
  have hok : (initializeSubHals H p.subHals).2 = .ok := by
    unfold initializeCommon at h
    simp only at h
    split at h
    · rename_i hrefused
      exact absurd h hrefused
    · rename_i hok
      exact not_not.1 hok
  unfold initializeCommon
  exact mode_initializeSubHals hok

/-- A sub-HAL that keeps its mode. -/
theorem sameModes_set {subHalIndex : ℕ} {old state : σ}
    (hold : p.subHals[subHalIndex]? = some old) (hmode : H.mode state = H.mode old) :
    SameModes H p { p with subHals := p.subHals.set subHalIndex state } := by
  refine ⟨rfl, ?_⟩
  rw [List.map_set, hmode]
  obtain ⟨hlt, hget⟩ := List.getElem?_eq_some_iff.1 hold
  rw [← hget, ← List.getElem_map H.mode (h := by simpa using hlt)]
  exact List.set_getElem_self _

end ModalHal

/-! ## The steps, by cases -/

/-- The steps, with what the calls return. -/
inductive ModalStep : ModalTransition σ → Prop
  | setOperationMode (p : ModalHal σ) (mode : OperationMode) :
      ModalStep ⟨p, .setOperationMode mode, [(p.setOperationMode H mode).2],
        (p.setOperationMode H mode).1⟩
  | initializeCommon (p : ModalHal σ) (queues : Result) :
      ModalStep ⟨p, .initializeCommon queues, [(p.initializeCommon H queues).2],
        (p.initializeCommon H queues).1⟩
  | subHal (p : ModalHal σ) (subHalIndex : ℕ) (old state : σ)
      (hold : p.subHals[subHalIndex]? = some old) (hmode : H.mode state = H.mode old) :
      ModalStep ⟨p, .subHal subHalIndex state, [],
        { p with subHals := p.subHals.set subHalIndex state }⟩

variable {H}

theorem modalStep_of_takes {t : ModalTransition σ} (h : (modalMachine H).Takes t) :
    ModalStep H t := by
  obtain ⟨p, l, out, p'⟩ := t
  have hstep : p.step H l = some (p', out) := h
  cases l with
  | setOperationMode mode =>
      obtain ⟨rfl, rfl⟩ := Prod.mk.inj (Option.some.inj hstep)
      exact .setOperationMode p mode
  | initializeCommon queues =>
      obtain ⟨rfl, rfl⟩ := Prod.mk.inj (Option.some.inj hstep)
      exact .initializeCommon p queues
  | subHal subHalIndex state =>
      simp only [ModalHal.step] at hstep
      split at hstep
      · simp at hstep
      · rename_i old hold
        simp only [Option.ite_none_right_eq_some, Option.some.injEq, Prod.mk.injEq] at hstep
        obtain ⟨hmode, rfl, rfl⟩ := hstep
        exact .subHal p subHalIndex old state hold hmode

/-! ## Agreement -/

/-- Whether a step is a call of `initialize`. -/
def ModalLabel.isInitialize : ModalLabel σ → Bool
  | .initializeCommon _ => true
  | _ => false

/-- The step is no call of `initialize`, or one that returns `OK`. -/
def ModalTransition.InitializesWell (t : ModalTransition σ) : Prop :=
  t.label.isInitialize = true → t.out = [.ok]

instance (t : ModalTransition σ) : Decidable t.InitializesWell :=
  inferInstanceAs (Decidable (_ → _))

theorem agree_step {t : ModalTransition σ} (h : (modalMachine H).Takes t)
    (hwell : t.InitializesWell) (hagree : t.pre.Agree H) : t.post.Agree H := by
  cases modalStep_of_takes h with
  | setOperationMode p mode =>
      by_cases hok : (p.setOperationMode H mode).2 = .ok
      · exact ModalHal.agree_setOperationMode_of_ok hok
      · exact (ModalHal.sameModes_setOperationMode_of_refused hagree hok).agree hagree
  | initializeCommon p queues =>
      have hok := hwell rfl
      exact ModalHal.agree_initializeCommon_of_ok (by simpa using hok)
  | subHal p subHalIndex old state hold hmode =>
      exact (ModalHal.sameModes_set hold hmode).agree hagree

theorem sameModes_step_of_refused {t : ModalTransition σ} (h : (modalMachine H).Takes t)
    (hagree : t.pre.Agree H) {mode : OperationMode} (hlabel : t.label = .setOperationMode mode)
    (hout : t.out ≠ [.ok]) : ModalHal.SameModes H t.pre t.post := by
  cases modalStep_of_takes h with
  | setOperationMode p mode =>
      exact ModalHal.sameModes_setOperationMode_of_refused hagree (by simpa using hout)
  | initializeCommon | subHal => simp at hlabel

/-! ## The sub-HAL of this device -/

/-- `SensorsSubHal`, as far as its mode goes: its sensors are in the mode it is in. -/
structure SensorsSubHal where
  mSensors : List PollSensor
  mCurrentOperationMode : OperationMode
  sensors_mode : ∀ sensor ∈ mSensors, sensor.mMode = mCurrentOperationMode

theorem PollSensor.mMode_setOperationMode (s : PollSensor) (mode : OperationMode) :
    (s.setOperationMode mode).mMode = mode := by
  rw [setOperationMode, interruptPoll]
  split <;> rfl

namespace SensorsSubHal

/-- `SensorsSubHal::setOperationMode`. -/
def setOperationMode (s : SensorsSubHal) (mode : OperationMode) : SensorsSubHal × Result :=
  (⟨s.mSensors.map (·.setOperationMode mode), mode, by
    intro sensor hsensor
    obtain ⟨sensor, -, rfl⟩ := List.mem_map.1 hsensor
    exact sensor.mMode_setOperationMode mode⟩, .ok)

/-- `SensorsSubHal::initialize`. -/
def initializeSubHal (s : SensorsSubHal) : SensorsSubHal × Result :=
  ((s.setOperationMode .normal).1, .ok)

/-- `SensorsSubHal` is what the proxy takes for granted. -/
def modal : ModalSubHal SensorsSubHal where
  mode := mCurrentOperationMode
  setOperationMode := setOperationMode
  initializeSubHal := initializeSubHal
  mode_of_ok := fun _ => rfl
  mode_of_refused := fun h => absurd rfl h
  back := fun _ => rfl
  mode_initializeSubHal := fun _ => rfl

end SensorsSubHal

/-! ## All calls -/

/-- **After each call every sub-HAL is in the mode of the proxy, and a call of
`setOperationMode` that fails leaves all the modes as they were.** -/
theorem operation_modes_agree {subHals : List σ} {ts : List (ModalTransition σ)} {p : ModalHal σ}
    (hstart : ∀ s ∈ subHals, H.mode s = .normal)
    (hrun : (modalMachine H).Run ⟨.normal, subHals⟩ ts p)
    (hwell : ∀ t ∈ ts, t.InitializesWell) :
    ∀ t ∈ ts, t.post.Agree H ∧
      ∀ mode, t.label = .setOperationMode mode → t.out ≠ [.ok] →
        ModalHal.SameModes H t.pre t.post := by
  intro t ht
  obtain ⟨ts₁, ts₂, rfl, hbefore, hstep⟩ := hrun.split_of_mem ht
  have hagree : t.pre.Agree H := by
    refine hbefore.invariant_of_guard (G := ModalTransition.InitializesWell)
      (I := ModalHal.Agree H) ?_ ?_ fun t' ht' => hwell t' (List.mem_append_left _ ht')
    · exact hstart
    · intro t hstep hwell hagree
      exact agree_step hstep hwell hagree
  exact ⟨agree_step hstep (hwell t ht) hagree, fun _ hlabel hout =>
    sameModes_step_of_refused hstep hagree hlabel hout⟩

/-- A sub-HAL that is its mode, or has none and stays normal. -/
def plainSubHal : ModalSubHal (Option OperationMode) where
  mode := fun s => s.getD .normal
  setOperationMode := fun s mode =>
    if s = none ∧ mode = .dataInjection then (s, .invalidOperation)
    else (s.map fun _ => mode, .ok)
  initializeSubHal := fun s => (s.map fun _ => .normal, .ok)
  mode_of_ok := by
    intro s mode
    cases s <;> cases mode <;> simp
  mode_of_refused := by
    intro s mode
    split <;> simp
  back := by
    intro s mode
    cases s <;> simp
  mode_initializeSubHal := by
    intro s _
    cases s <;> simp

/-- The last of three sub-HALs refuses data injection: the other two are set back. -/
theorem operation_modes_agree_third_refuses :
    ∃ (ts : List (ModalTransition (Option OperationMode))) (p : ModalHal (Option OperationMode)),
      (modalMachine plainSubHal).Run ⟨.normal, [some .normal, some .normal, none]⟩ ts p ∧
      ts.map (·.out) = [[.ok], [.ok], [.invalidOperation]] ∧
      ∀ t ∈ ts, t.post.Agree plainSubHal ∧
        ∀ mode, t.label = .setOperationMode mode → t.out ≠ [.ok] →
          ModalHal.SameModes plainSubHal t.pre t.post := by
  have hcalls : ∃ (ts : List (ModalTransition (Option OperationMode)))
      (p : ModalHal (Option OperationMode)),
      (modalMachine plainSubHal).Run ⟨.normal, [some .normal, some .normal, none]⟩ ts p ∧
      ts.map (·.out) = [[.ok], [.ok], [.invalidOperation]] ∧ ∀ t ∈ ts, t.InitializesWell :=
    Machine.exists_run_of_exec
      [.initializeCommon .ok, .setOperationMode .normal, .setOperationMode .dataInjection]
      (by decide)
  obtain ⟨ts, p, hrun, hout, hwell⟩ := hcalls
  exact ⟨ts, p, hrun, hout, operation_modes_agree (by decide) hrun hwell⟩

end Sensors
