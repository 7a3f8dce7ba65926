/-
# Which rate a request gets (`LtpoControl::setTargetHz`)

A request passes through the mode and the touch boost to its effective target, and the
answer is the least rate of `kSteps` that is not below it.  `setTargetHz_picks_best` says
so in the terms of the table alone (`IsBestHz`), together with what is written for it.

The answer is that rate whether or not the panel gets it: the record `mCurrentHz`, which
`getCurrentHz` answers with, is left as it is if the write fails, if there is no node to
write to, or if the HAL is disabled.  `answers_truth_iff` says when the two agree.
-/
import PongHal.LtpoControl

namespace Ltpo

/-! ## The best rate -/

/-- The rate is the least one of the table that is not below the target, or 120 Hz if
there is none. -/
def IsBestHz (targetHz hz : ℤ) : Prop :=
  IsLeast {hz | hz ∈ LtpoControl.getSupportedHz ∧ targetHz ≤ hz} hz ∨
    ((∀ hz ∈ LtpoControl.getSupportedHz, hz < targetHz) ∧ hz = 120)

theorem mem_getSupportedHz {step : SfmStep} (h : step ∈ kSteps) :
    step.hz ∈ LtpoControl.getSupportedHz := List.mem_map_of_mem h

theorem isBestHz_bestStep (targetHz : ℤ) : IsBestHz targetHz (bestStep targetHz).hz := by
  by_cases h : targetHz ≤ 120
  · refine .inl ⟨⟨mem_getSupportedHz (bestStep_mem targetHz), le_hz_bestStep h⟩, ?_⟩
    rintro hz ⟨hmem, hle⟩
    obtain ⟨step, hstep, rfl⟩ := List.mem_map.1 hmem
    exact hz_bestStep_le hstep hle
  · have hlow : ∀ hz ∈ LtpoControl.getSupportedHz, hz ≤ 120 := by decide
    rw [bestStep_of_ge (not_le.1 h).le]
    exact .inr ⟨fun hz hmem => (hlow hz hmem).trans_lt (not_le.1 h), rfl⟩

/-- There is one best rate for a target, and `bestStep` finds it. -/
theorem isBestHz_iff {targetHz hz : ℤ} : IsBestHz targetHz hz ↔ hz = (bestStep targetHz).hz := by
  constructor
  · intro h
    rcases h with h | ⟨hnone, rfl⟩ <;>
      rcases isBestHz_bestStep targetHz with h' | ⟨hnone', h'⟩
    · exact h.unique h'
    · exact absurd (hnone' hz h.1.1) (not_lt.2 h.1.2)
    · exact absurd (hnone _ h'.1.1) (not_lt.2 h'.1.2)
    · exact h'.symm
  · rintro rfl
    exact isBestHz_bestStep targetHz

instance (targetHz hz : ℤ) : Decidable (IsBestHz targetHz hz) :=
  decidable_of_iff _ isBestHz_iff.symm

/-- A higher target has no lower best rate. -/
theorem hz_bestStep_mono {targetHz higher : ℤ} (h : targetHz ≤ higher) :
    (bestStep targetHz).hz ≤ (bestStep higher).hz := by
  by_cases hfull : higher ≤ 120
  · exact hz_bestStep_le (bestStep_mem higher) (h.trans (le_hz_bestStep hfull))
  · have hlow : ∀ step ∈ kSteps, step.hz ≤ fullRate.hz := by decide
    rw [bestStep_of_ge (not_le.1 hfull).le]
    exact hlow _ (bestStep_mem targetHz)

/-! ## The effective target -/

namespace LtpoControl

variable (c : LtpoControl) (targetHz : ℤ) (env : Env) (now : ℕ)

/-- What the mode makes of the request, raised to 120 Hz while the boost window is
open. -/
def effectiveTarget : ℤ :=
  if effectiveHz env.sfmMode targetHz < 120 ∧ now < c.mBoostUntil then 120
  else effectiveHz env.sfmMode targetHz

theorem touchBoost_snd : (c.touchBoost targetHz now).2 =
    if targetHz < 120 ∧ now < c.mBoostUntil then 120 else targetHz := by
  by_cases hlow : targetHz < 120
  · rw [c.touchBoost_of_lt targetHz now hlow]
    simp [hlow]
  · rw [touchBoost, if_pos (not_lt.1 hlow), if_neg fun h => hlow h.1]

/-- A request is served with its effective target, from a state with the same record. -/
theorem setTargetHz_eq_serve (h : c.mEnabled = true) :
    c.setTargetHz targetHz env now =
      (c.touchBoost (effectiveHz env.sfmMode targetHz) now).1.serve
        (c.effectiveTarget targetHz env now) env now := by
  rw [c.setTargetHz_of_enabled targetHz env now h, touchBoost_snd]
  rfl

theorem setTargetHz_answer (h : c.mEnabled = true) :
    (c.setTargetHz targetHz env now).2 = (bestStep (c.effectiveTarget targetHz env now)).hz := by
  rw [c.setTargetHz_eq_serve targetHz env now h]
  rfl

/-- The modes keep the order of the requests. -/
theorem effectiveHz_mono {higher : ℤ} (h : targetHz ≤ higher) :
    effectiveHz env.sfmMode targetHz ≤ effectiveHz env.sfmMode higher := by
  unfold effectiveHz
  split
  · by_cases hone : higher ≤ 1
    · rw [if_pos hone, if_pos (h.trans hone)]
    · rw [if_neg hone]
      split <;> omega
  · exact h

/-- So does the boost. -/
theorem effectiveTarget_mono {higher : ℤ} (h : targetHz ≤ higher) :
    c.effectiveTarget targetHz env now ≤ c.effectiveTarget higher env now := by
  have hasked := effectiveHz_mono targetHz env h
  unfold effectiveTarget
  by_cases hopen : now < c.mBoostUntil
  · simp only [hopen, and_true]
    split <;> split <;> omega
  · simp only [hopen, and_false, if_false]
    exact hasked

/-- In the mode `idle` there are two targets. -/
theorem effectiveTarget_of_idle (h : isVrrMode env.sfmMode = false) :
    c.effectiveTarget targetHz env now = 1 ∨ c.effectiveTarget targetHz env now = 120 := by
  have hasked : effectiveHz env.sfmMode targetHz = 1 ∨ effectiveHz env.sfmMode targetHz = 120 := by
    unfold effectiveHz
    simp only [h, Bool.not_false, if_true]
    split
    · exact .inl rfl
    · exact .inr rfl
  unfold effectiveTarget
  split
  · exact .inr rfl
  · exact hasked

/-- In the mode `idle` the best step is that of 1 Hz or that of 120 Hz. -/
theorem hz_bestStep_of_idle (h : isVrrMode env.sfmMode = false) :
    (bestStep (c.effectiveTarget targetHz env now)).hz = 1 ∨
      (bestStep (c.effectiveTarget targetHz env now)).hz = 120 := by
  rcases c.effectiveTarget_of_idle targetHz env now h with htarget | htarget
  · rw [htarget]
    exact .inl rfl
  · rw [htarget]
    exact .inr rfl

/-! ## What is written -/

/-- The indices written for a step: its own, if there is a node. -/
theorem indices_applyStep (step : SfmStep) :
    (c.applyStep step env now).2.map (·.index) =
      if 0 ≤ c.mSfmFd then [step.sfmIndex] else [] := by
  unfold applyStep writeSfm
  by_cases hfd : c.mSfmFd < 0
  · simp [hfd]
  · simp [hfd, not_lt.1 hfd]

/-- The indices written for a request: that of its best step, unless the record has it. -/
theorem indices_setTargetHz (h : c.mEnabled = true) :
    (c.setTargetHz targetHz env now).1.2.map (·.index) =
      if c.mCurrentHz ≠ (bestStep (c.effectiveTarget targetHz env now)).hz ∧ 0 ≤ c.mSfmFd then
        [(bestStep (c.effectiveTarget targetHz env now)).sfmIndex]
      else [] := by
  rw [c.setTargetHz_eq_serve targetHz env now h, serve, touchBoost_fst]
  simp only
  split
  · rename_i hne
    rw [indices_applyStep]
    simp [hne]
  · rename_i hsame
    simp [hsame]

/-- In the mode `idle` every call writes the index of 1 Hz or that of 120 Hz. -/
theorem rate_of_mem_handle_idle (h : isVrrMode env.sfmMode = false) (call : Call) {w : SfmWrite}
    (hw : w ∈ (c.handle call env now).1.2) :
    sfmRate w.index = some 1 ∨ sfmRate w.index = some 120 := by
  rcases c.handle_cases env now call with ⟨enabled, -, heq⟩ | ⟨targetHz, -, heq, -⟩ | ⟨-, heq⟩
  · rw [heq] at hw
    cases enabled with
    | true => simp [setEnabled] at hw
    | false =>
        rw [(of_mem_applyStep _ fullRate env now hw).1]
        exact .inr (sfmRate_of_mem (by decide))
  · rw [heq] at hw
    cases henabled : c.mEnabled with
    | false =>
        rw [c.setTargetHz_of_disabled targetHz env now henabled] at hw
        simp at hw
    | true =>
        rw [c.setTargetHz_eq_serve targetHz env now henabled] at hw
        rw [(of_mem_serve _ _ env now hw).1, sfmRate_of_mem (bestStep_mem _)]
        exact (c.hz_bestStep_of_idle targetHz env now h).imp (congrArg some) (congrArg some)
  · rw [heq] at hw
    simp at hw

end LtpoControl

/-! ## The choice of a rate -/

/-- The step is a call in the mode `idle`, if it is a call. -/
def DisplayLabel.inIdleMode : DisplayLabel → Bool
  | .call _ env => !isVrrMode env.sfmMode
  | .tick _ | .start _ | .stop => true

/-- In a run in the mode `idle` the panel is asked for 1 Hz and 120 Hz only. -/
theorem rate_of_mem_run_idle {d s : Display} {ts : List DisplayTransition}
    (hrun : displayMachine.Run d ts s) (hidle : ∀ t ∈ ts, t.label.inIdleMode = true) :
    ∀ t ∈ ts, ∀ w, .wrote w ∈ t.out → sfmRate w.index = some 1 ∨ sfmRate w.index = some 120 := by
  intro t ht w hw
  obtain ⟨-, -, -, -, hstep⟩ := hrun.split_of_mem ht
  have hmode := hidle t ht
  cases displayStep_of_takes hstep with
  | called d call env c hc =>
      refine c.rate_of_mem_handle_idle env d.now (by simpa [DisplayLabel.inIdleMode] using hmode)
        call ?_
      simpa using hw
  | _ => simp at hw

/-- **`setTargetHz` picks the right step.**  Whatever the request, the mode, the clock and
the boost window, an enabled HAL answers with the best rate for the effective target; it
writes the index of that rate, and only if its record is another one; in the mode `idle`
the answer is 1 or 120, and nothing else is ever written; and a higher request is not
answered with a lower rate. -/
theorem setTargetHz_picks_best (c : LtpoControl) (targetHz : ℤ) (env : Env) (now : ℕ)
    (henabled : c.mEnabled = true) :
    IsBestHz (c.effectiveTarget targetHz env now) (c.setTargetHz targetHz env now).2 ∧
    (∃ sfmIndex, ⟨(c.setTargetHz targetHz env now).2, sfmIndex⟩ ∈ kSteps ∧
      (c.setTargetHz targetHz env now).1.2.map (·.index) =
        if c.mCurrentHz ≠ (c.setTargetHz targetHz env now).2 ∧ 0 ≤ c.mSfmFd then [sfmIndex]
        else []) ∧
    (isVrrMode env.sfmMode = false →
      (c.setTargetHz targetHz env now).2 = 1 ∨ (c.setTargetHz targetHz env now).2 = 120) ∧
    (∀ (d s : Display) (ts : List DisplayTransition), displayMachine.Run d ts s →
      (∀ t ∈ ts, t.label.inIdleMode = true) →
      ∀ t ∈ ts, ∀ w, .wrote w ∈ t.out →
        sfmRate w.index = some 1 ∨ sfmRate w.index = some 120) ∧
    ∀ higher, targetHz ≤ higher →
      (c.setTargetHz targetHz env now).2 ≤ (c.setTargetHz higher env now).2 := by
  have hanswer := c.setTargetHz_answer targetHz env now henabled
  refine ⟨?_, ⟨(bestStep (c.effectiveTarget targetHz env now)).sfmIndex, ?_, ?_⟩, ?_, ?_, ?_⟩
  · rw [hanswer]
    exact isBestHz_bestStep _
  · rw [hanswer]
    exact bestStep_mem _
  · rw [hanswer]
    exact c.indices_setTargetHz targetHz env now henabled
  · intro hidle
    rw [hanswer]
    exact c.hz_bestStep_of_idle targetHz env now hidle
  · intro d s ts hrun hidle
    exact rate_of_mem_run_idle hrun hidle
  · intro higher hle
    rw [hanswer, c.setTargetHz_answer higher env now henabled]
    exact hz_bestStep_mono (c.effectiveTarget_mono targetHz env now hle)

/-- A film at 24 frames in the mode `vrr`: 24 Hz is written with its index. -/
theorem setTargetHz_picks_best_film :
    IsBestHz 20 24 ∧
      ((⟨3, true, 120, 0⟩ : LtpoControl).setTargetHz 20 ⟨"vrr", 0, true⟩ 5).1.2.map (·.index) =
        [9] := by
  have h := setTargetHz_picks_best ⟨3, true, 120, 0⟩ 20 ⟨"vrr", 0, true⟩ 5 rfl
  refine ⟨h.1, ?_⟩
  obtain ⟨sfmIndex, hmem, hindices⟩ := h.2.1
  have hone : ∀ i, (⟨24, i⟩ : SfmStep) ∈ kSteps → i = 9 := by
    intro i hi
    simpa [kSteps, fullRate] using hi
  rw [hindices, hone sfmIndex hmem]
  decide

/-! ## The answer and the record -/

namespace DisplayTransition

/-- If the step is a call of `setTargetHz`, its answer is what `getCurrentHz` answers right
after it. -/
def AnswersTruth (t : DisplayTransition) : Prop :=
  match t.label with
  | .call (.setTargetHz _) _ =>
      ∀ c ∈ t.post.service, t.out.getLast? = some (.answered c.getCurrentHz)
  | _ => True

/-- If the step is a call of `setTargetHz`, then the record of a disabled HAL is 120, and
that of an enabled one is the best rate for the request, or else the node is open and the
write succeeds. -/
def CanTellTruth (t : DisplayTransition) : Prop :=
  match t.label with
  | .call (.setTargetHz targetHz) env =>
      ∀ c ∈ t.pre.service,
        if c.mEnabled then
          IsBestHz (c.effectiveTarget targetHz env t.pre.now) c.mCurrentHz ∨
            (0 ≤ c.mSfmFd ∧ env.pwrite = true)
        else c.mCurrentHz = 120
  | _ => True

instance (t : DisplayTransition) : Decidable t.CanTellTruth := by
  unfold CanTellTruth
  split <;> infer_instance

end DisplayTransition

namespace LtpoControl

variable (c : LtpoControl) (targetHz : ℤ) (env : Env) (now : ℕ)

/-- A request is served to the full exactly if the record has the rate already or comes
to have it. -/
theorem serve_answer_iff :
    (c.serve targetHz env now).2 = (c.serve targetHz env now).1.1.mCurrentHz ↔
      c.mCurrentHz = (bestStep targetHz).hz ∨ (0 ≤ c.mSfmFd ∧ env.pwrite = true) := by
  unfold serve
  simp only
  by_cases hsame : c.mCurrentHz = (bestStep targetHz).hz
  · rw [if_neg (not_not_intro hsame)]
    exact iff_of_true hsame.symm (.inl hsame)
  · rw [if_pos hsame, or_iff_right hsame]
    rcases c.applyStep_cases (bestStep targetHz) env now with
      ⟨hfd, h⟩ | ⟨hwrite, h⟩ | ⟨hwrite, h⟩
    · rw [h]
      exact iff_of_false (Ne.symm hsame) fun hopen => absurd hopen.1 (not_le.2 hfd)
    · rw [h]
      exact iff_of_false (Ne.symm hsame) (by simp [hwrite])
    · by_cases hfd : c.mSfmFd < 0
      · rw [c.applyStep_of_closed _ env now hfd]
        exact iff_of_false (Ne.symm hsame) fun hopen => absurd hopen.1 (not_le.2 hfd)
      · rw [h]
        exact iff_of_true rfl ⟨not_lt.1 hfd, hwrite⟩

/-- When the answer of `setTargetHz` is what the record says after it. -/
theorem setTargetHz_answer_iff :
    (c.setTargetHz targetHz env now).2 = (c.setTargetHz targetHz env now).1.1.mCurrentHz ↔
      if c.mEnabled then
        IsBestHz (c.effectiveTarget targetHz env now) c.mCurrentHz ∨
          (0 ≤ c.mSfmFd ∧ env.pwrite = true)
      else c.mCurrentHz = 120 := by
  cases henabled : c.mEnabled with
  | false =>
      rw [c.setTargetHz_of_disabled targetHz env now henabled, if_neg Bool.false_ne_true]
      exact eq_comm
  | true =>
      rw [c.setTargetHz_eq_serve targetHz env now henabled, serve_answer_iff, touchBoost_fst,
        if_pos rfl, isBestHz_iff]

end LtpoControl

theorem answersTruth_step_iff {t : DisplayTransition} (h : displayMachine.Takes t) :
    t.AnswersTruth ↔ t.CanTellTruth := by
  cases displayStep_of_takes h with
  | called d call env c hc =>
      cases call with
      | setTargetHz targetHz =>
          simp only [DisplayTransition.AnswersTruth, DisplayTransition.CanTellTruth, hc,
            Option.mem_some_iff, forall_eq', LtpoControl.handle, LtpoControl.getCurrentHz,
            Option.toList_some, List.map_singleton, List.getLast?_append, List.getLast?_singleton,
            Option.some_or, Option.some.injEq, DisplayObservation.answered.injEq]
          exact c.setTargetHz_answer_iff targetHz env d.now
      | _ => exact Iff.rfl
  | _ => exact Iff.rfl

/-- **Exactly when `setTargetHz` reports the truth.**  In a run from the first boot every
answer is the rate that `getCurrentHz` reports after it if and only if every request meets
a HAL that is disabled with 120 Hz on record, or enabled with the best rate for the
request on record, or with an open node and a write that succeeds. -/
theorem answers_truth_iff {ts : List DisplayTransition} {s : Display}
    (hrun : displayMachine.Run .firstBoot ts s) :
    (∀ t ∈ ts, t.AnswersTruth) ↔ ∀ t ∈ ts, t.CanTellTruth := by
  refine forall₂_congr fun t ht => ?_
  obtain ⟨-, -, -, -, hstep⟩ := hrun.split_of_mem ht
  exact answersTruth_step_iff hstep

/-- Requests whose writes go well, and one that writes nothing. -/
theorem answers_truth_iff_written :
    ∃ (ts : List DisplayTransition) (s : Display), displayMachine.Run .firstBoot ts s ∧
      ts.length = 4 ∧ ∀ t ∈ ts, t.AnswersTruth := by
  have hwritten : ∃ (ts : List DisplayTransition) (s : Display),
      displayMachine.Run .firstBoot ts s ∧ ts.length = 4 ∧ ∀ t ∈ ts, t.CanTellTruth :=
    Machine.exists_run_of_exec [.start 3, .call (.setTargetHz 60) ⟨"vrr", 0, true⟩,
      .call (.setTargetHz 24) ⟨"vrr", 0, true⟩, .call (.setTargetHz 24) ⟨"vrr", 0, false⟩]
      (by decide)
  obtain ⟨ts, s, hrun, hlength, htell⟩ := hwritten
  exact ⟨ts, s, hrun, hlength, (answers_truth_iff hrun).2 htell⟩

/-- A request for 60 Hz is answered with 60 though its write fails, and the record stays
at 120. -/
theorem answer_of_failed_write :
    ∃ (ts : List DisplayTransition) (s : Display), displayMachine.Run .firstBoot ts s ∧
      ts.getLast?.map (·.label) = some (.call (.setTargetHz 60) ⟨"vrr", 0, false⟩) ∧
      ts.getLast?.bind (·.out.getLast?) = some (.answered 60) ∧
      s.service.map (·.getCurrentHz) = some 120 :=
  Machine.exists_run_of_exec [.start 3, .call (.setTargetHz 60) ⟨"vrr", 0, false⟩] (by decide)

end Ltpo
