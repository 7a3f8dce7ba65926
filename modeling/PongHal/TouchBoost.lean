/-
# The touch boost over whole runs (`LtpoControl::setTargetHz`)

A request for 120 Hz opens a window of 200 ms in which lower requests are raised.  The
window is one moment, `mBoostUntil`; it is not touched when the HAL is disabled, and the
mode only changes what a request asks for.

`Held` is what holds along every run: `mBoostUntil` is the end of the last window
opened, and no window ends later, since the clock does not go back.  `touch_boost` reads
off that nothing below 120 Hz is written before a window closes, and that the first
lower request after it is served as it is.
-/
import PongHal.LtpoControl

namespace Ltpo

/-! ## One call -/

theorem not_below120_fullRate {w : SfmWrite} (h : w.index = fullRate.sfmIndex) : ¬ w.Below120 := by
  have hrate : sfmRate fullRate.sfmIndex = some 120 := sfmRate_of_mem (by decide)
  rintro ⟨hz, hhz, hlow⟩
  rw [h, hrate] at hhz
  obtain rfl := Option.some.inj hhz
  exact absurd hlow (by decide)

namespace LtpoControl

variable (c : LtpoControl) (call : Call) (env : Env) (now : ℕ)

/-- A request for 120 Hz opens the window; no other call touches it. -/
theorem mBoostUntil_handle :
    (c.handle call env now).1.1.mBoostUntil =
      if ∃ hz ∈ c.served call env, 120 ≤ hz then now + kBoostHold else c.mBoostUntil := by
  cases hserved : c.served call env with
  | none => simpa using (c.handle_of_not_served env now call hserved).1
  | some hz =>
      rw [(c.handle_of_served env now call hserved).1, mBoostUntil_serve, touchBoost_fst]
      simp

/-- An index of a lower rate is written for a lower request, after the window. -/
theorem below120_of_mem_handle {w : SfmWrite} (hw : w ∈ (c.handle call env now).1.2)
    (hlow : w.Below120) :
    (∃ hz ∈ c.served call env, hz < 120) ∧ c.mBoostUntil ≤ now := by
  cases hserved : c.served call env with
  | none =>
      have hfull := ((c.handle_of_not_served env now call hserved).2 w hw).1
      exact absurd hlow (not_below120_fullRate hfull)
  | some hz =>
      rw [(c.handle_of_served env now call hserved).1] at hw
      have hindex := (of_mem_serve _ _ env now hw).1
      by_cases hfull : 120 ≤ hz
      · rw [touchBoost, if_pos hfull, bestStep_of_ge hfull] at hindex
        exact absurd hlow (not_below120_fullRate hindex)
      · refine ⟨⟨hz, rfl, not_le.1 hfull⟩, ?_⟩
        by_contra hopen
        rw [c.touchBoost_of_lt hz now (not_le.1 hfull), if_pos (not_le.1 hopen),
          bestStep_of_ge le_rfl] at hindex
        exact not_below120_fullRate hindex hlow

theorem time_of_mem_handle {w : SfmWrite} (hw : w ∈ (c.handle call env now).1.2) :
    w.time = now + env.elapsed := by
  cases hserved : c.served call env with
  | none => exact ((c.handle_of_not_served env now call hserved).2 w hw).2
  | some hz =>
      rw [(c.handle_of_served env now call hserved).1] at hw
      exact (of_mem_serve _ _ env now hw).2

end LtpoControl

/-! ## Runs -/

namespace DisplayTransition

/-- The effective target of the request that is processed in the step. -/
def served (t : DisplayTransition) : Option ℤ :=
  match t.label with
  | .call call env => t.pre.service.bind fun c => c.served call env
  | .tick _ | .start _ | .stop => none

/-- A request for at least 120 Hz is processed. -/
def Boosts (t : DisplayTransition) : Prop := ∃ hz ∈ t.served, 120 ≤ hz

instance (t : DisplayTransition) : Decidable t.Boosts :=
  inferInstanceAs (Decidable (∃ hz ∈ t.served, 120 ≤ hz))

/-- The writes of the step. -/
def writes (t : DisplayTransition) : List SfmWrite :=
  t.out.filterMap fun
    | .wrote w => some w
    | .answered _ => none

/-- What the step answers. -/
def answers (t : DisplayTransition) : List ℤ :=
  t.out.filterMap fun
    | .wrote _ => none
    | .answered hz => some hz

end DisplayTransition

variable {fd panelHz : ℤ} {now : ℕ} {ts : List DisplayTransition} {d s : Display}

/-- The window in a run: time has only gone on, and `mBoostUntil` is the end of the window
that was opened last. -/
structure Held (ts : List DisplayTransition) (d : Display) : Prop where
  past : ∀ t ∈ ts, t.pre.now ≤ d.now ∧ ∀ w ∈ t.writes, w.time ≤ d.now
  window : ∃ c, d.service = some c ∧
    (∀ t ∈ ts, t.Boosts → t.pre.now + kBoostHold ≤ c.mBoostUntil) ∧
    (c.mBoostUntil = 0 ∨ ∃ t ∈ ts, t.Boosts ∧ c.mBoostUntil = t.pre.now + kBoostHold)

/-- A step keeps this if it lets time go on, and opens a window where it is to. -/
theorem Held.next {t : DisplayTransition} {c' : LtpoControl} (h : Held ts t.pre)
    (hc' : t.post.service = some c') (hnow : t.pre.now ≤ t.post.now)
    (hwrites : ∀ w ∈ t.writes, w.time ≤ t.post.now)
    (hwindow : ∀ c, t.pre.service = some c →
      c'.mBoostUntil = if t.Boosts then t.pre.now + kBoostHold else c.mBoostUntil) :
    Held (ts ++ [t]) t.post := by
  obtain ⟨c, hc, hle, hlast⟩ := h.window
  have hend := hwindow c hc
  refine ⟨fun t' ht' => ?_, c', hc', fun t' ht' hboosts => ?_, ?_⟩
  · rcases List.mem_append.1 ht' with hold | hnew
    · obtain ⟨hpre, hpast⟩ := h.past t' hold
      exact ⟨hpre.trans hnow, fun w hw => (hpast w hw).trans hnow⟩
    · rw [List.mem_singleton.1 hnew]
      exact ⟨hnow, hwrites⟩
  · rcases List.mem_append.1 ht' with hold | hnew
    · -- the clock has not gone back since `t'`
      have hpast : t'.pre.now ≤ t.pre.now := (h.past t' hold).1
      have hopen := hle t' hold hboosts
      rw [hend]
      split <;> omega
    · obtain rfl := List.mem_singleton.1 hnew
      rw [hend, if_pos hboosts]
  · rw [hend]
    split
    · rename_i hboosts
      exact .inr ⟨t, by simp, hboosts, rfl⟩
    · exact hlast.imp_right fun ⟨t', ht', hboosts, heq⟩ =>
        ⟨t', List.mem_append_left _ ht', hboosts, heq⟩

/-- The step is one of the calls, or time goes by. -/
theorem held_step {t : DisplayTransition} (h : displayMachine.Takes t)
    (hcall : t.label.isCall = true) (hpre : Held ts t.pre) : Held (ts ++ [t]) t.post := by
  cases displayStep_of_takes h with
  | ticked d nanos =>
      obtain ⟨c, hc, -⟩ := hpre.window
      refine hpre.next hc (Nat.le_add_right _ _) (by simp [DisplayTransition.writes]) ?_
      intro c' hc'
      obtain rfl := Option.some.inj (hc.symm.trans hc')
      simp [DisplayTransition.Boosts, DisplayTransition.served]
  | called d call env c hc =>
      refine hpre.next rfl (Nat.le_add_right _ _) (fun w hw => ?_) ?_
      · have hmem : w ∈ (c.handle call env d.now).1.2 := by
          simpa [DisplayTransition.writes, List.filterMap_append] using hw
        exact (c.time_of_mem_handle call env d.now hmem).le
      · intro c' hc'
        obtain rfl := Option.some.inj (hc.symm.trans hc')
        rw [c.mBoostUntil_handle call env d.now]
        simp [DisplayTransition.Boosts, DisplayTransition.served, hc]
  | started => exact Bool.noConfusion hcall
  | runs => exact Bool.noConfusion hcall
  | stopped => exact Bool.noConfusion hcall

/-- Every part of a run before one of its steps is held. -/
theorem held_of_run (hrun : displayMachine.Run (.running fd panelHz now) ts s)
    (hcalls : ∀ t ∈ ts, t.label.isCall = true) {before after : List DisplayTransition}
    {t : DisplayTransition} (hts : ts = before ++ t :: after) :
    Held before t.pre ∧ displayMachine.Takes t := by
  subst hts
  obtain ⟨hbefore, hstep, -⟩ := hrun.of_append_cons
  refine ⟨?_, hstep⟩
  refine hbefore.history_of_guard (G := fun t => t.label.isCall = true) (I := Held) ?_
    (fun ts t _ hstep hcall ih => held_step hstep hcall ih) fun t' ht' =>
      hcalls t' (List.mem_append_left _ ht')
  exact ⟨by simp, .construct fd, rfl, by simp, .inl rfl⟩

/-- An index of a lower rate is written for a lower request, after the window. -/
theorem below120_of_mem_writes {t : DisplayTransition} (h : displayMachine.Takes t)
    {c : LtpoControl} (hc : t.pre.service = some c) {w : SfmWrite} (hw : w ∈ t.writes)
    (hlow : w.Below120) :
    (∃ hz ∈ t.served, hz < 120) ∧ c.mBoostUntil ≤ t.pre.now ∧ t.pre.now ≤ w.time := by
  cases displayStep_of_takes h with
  | called d call env c' hc' =>
      obtain rfl := Option.some.inj (hc.symm.trans hc')
      have hmem : w ∈ (c.handle call env d.now).1.2 := by
        simpa [DisplayTransition.writes, List.filterMap_append] using hw
      obtain ⟨hserved, hclosed⟩ := c.below120_of_mem_handle call env d.now hmem hlow
      have htime := c.time_of_mem_handle call env d.now hmem
      refine ⟨?_, hclosed, ?_⟩
      · simpa [DisplayTransition.served, hc'] using hserved
      · rw [htime]
        exact Nat.le_add_right _ _
  | _ => simp [DisplayTransition.writes] at hw

/-- The request of the step is not raised: the boost does nothing, and what is written
and answered is the step for its own target. -/
structure DisplayTransition.NotRaised (t : DisplayTransition) (hz : ℤ) : Prop where
  boost : ∀ c ∈ t.pre.service, c.touchBoost hz t.pre.now = (c, hz)
  writes : ∀ w ∈ t.writes, w.index = (bestStep hz).sfmIndex
  answers : ∀ answer ∈ t.answers, answer = (bestStep hz).hz

theorem notRaised_of_closed {t : DisplayTransition} (h : displayMachine.Takes t)
    {c : LtpoControl} (hc : t.pre.service = some c) {hz : ℤ} (hserved : hz ∈ t.served)
    (hlow : hz < 120) (hclosed : c.mBoostUntil ≤ t.pre.now) : t.NotRaised hz := by
  cases displayStep_of_takes h with
  | called d call env c' hc' =>
      obtain rfl := Option.some.inj (hc.symm.trans hc')
      have hboost : c.touchBoost hz d.now = (c, hz) := by
        rw [c.touchBoost_of_lt hz d.now hlow, if_neg (not_lt.2 hclosed)]
      have hcall : c.served call env = some hz := by
        simpa [DisplayTransition.served, hc'] using hserved
      obtain ⟨hdone, hanswer⟩ := c.handle_of_served env d.now call hcall
      rw [hboost] at hdone hanswer
      refine ⟨fun c' hc' => ?_, fun w hw => ?_, fun answer ha => ?_⟩
      · obtain rfl := Option.some.inj (hc.symm.trans hc')
        exact hboost
      · have hmem : w ∈ (c.handle call env d.now).1.2 := by
          simpa [DisplayTransition.writes, List.filterMap_append] using hw
        rw [hdone] at hmem
        exact (c.of_mem_serve hz env d.now hmem).1
      · refine hanswer answer ?_
        simpa [DisplayTransition.answers, List.filterMap_append] using ha
  | _ => simp [DisplayTransition.served] at hserved

/-- **The touch boost.**  From a request for 120 Hz on, no lower rate is written until its
window closes (what was written before it was written no later than the request), and a
lower request after all windows is served as it is. -/
theorem touch_boost (hrun : displayMachine.Run (.running fd panelHz now) ts s)
    (hcalls : ∀ t ∈ ts, t.label.isCall = true) :
    (∀ before t after, ts = before ++ t :: after → t.Boosts →
      (∀ u ∈ t :: after, ∀ w ∈ u.writes, w.Below120 → t.pre.now + kBoostHold ≤ w.time) ∧
      ∀ u ∈ before, ∀ w ∈ u.writes, w.time ≤ t.pre.now) ∧
    ∀ before u after, ts = before ++ u :: after → ∀ hz ∈ u.served, hz < 120 →
      (∀ t ∈ before, t.Boosts → t.pre.now + kBoostHold ≤ u.pre.now) → u.NotRaised hz := by
  constructor
  · intro before t after hts hboosts
    obtain ⟨hheld, hstep⟩ := held_of_run hrun hcalls hts
    refine ⟨fun u hu w hw hlow => ?_, fun u hu => (hheld.past u hu).2⟩
    rcases List.mem_cons.1 hu with rfl | hu
    · -- the request itself writes 120 Hz
      obtain ⟨c, hc, -⟩ := hheld.window
      obtain ⟨⟨hz, hserved, hless⟩, -⟩ := below120_of_mem_writes hstep hc hw hlow
      obtain ⟨hz', hserved', hge⟩ := hboosts
      obtain rfl := Option.some.inj (Option.mem_def.1 hserved ▸ hserved')
      omega
    · obtain ⟨after₁, after₂, rfl⟩ := List.append_of_mem hu
      have hts' : ts = (before ++ t :: after₁) ++ u :: after₂ := by simp [hts]
      obtain ⟨hheld', hstep'⟩ := held_of_run hrun hcalls hts'
      obtain ⟨c, hc, hle, -⟩ := hheld'.window
      have hopen := hle t (by simp) hboosts
      obtain ⟨-, hclosed, htime⟩ := below120_of_mem_writes hstep' hc hw hlow
      omega
  · intro before u after hts hz hserved hlow hafter
    obtain ⟨hheld, hstep⟩ := held_of_run hrun hcalls hts
    obtain ⟨c, hc, -, hlast⟩ := hheld.window
    refine notRaised_of_closed hstep hc hserved hlow ?_
    rcases hlast with hnone | ⟨t, ht, hboosts, hend⟩
    · omega
    · rw [hend]
      exact hafter t ht hboosts

/-- A touch, a request for 60 Hz in its window, and another one after it. -/
theorem touch_boost_then_video :
    ∃ (ts : List DisplayTransition) (s : Display),
      displayMachine.Run (.running 3 120 0) ts s ∧
      ts.map (fun t => t.answers) = [[], [], [120], [], [60]] ∧ s.panelHz = 60 ∧
      ∀ before t after, ts = before ++ t :: after → t.Boosts →
        ∀ u ∈ t :: after, ∀ w ∈ u.writes, w.Below120 → t.pre.now + kBoostHold ≤ w.time := by
  have hrun : ∃ (ts : List DisplayTransition) (s : Display),
      displayMachine.Run (.running 3 120 0) ts s ∧
      ts.map (fun t => t.answers) = [[], [], [120], [], [60]] ∧ s.panelHz = 60 ∧
      ∀ t ∈ ts, t.label.isCall = true :=
    Machine.exists_run_of_exec [.call .onActive ⟨"vrr", 0, true⟩, .tick 100000000,
      .call (.setTargetHz 60) ⟨"vrr", 0, true⟩, .tick 100000000,
      .call (.setTargetHz 60) ⟨"vrr", 5, true⟩] (by decide)
  obtain ⟨ts, s, hrun, hanswers, hpanel, hcalls⟩ := hrun
  exact ⟨ts, s, hrun, hanswers, hpanel, fun before t after hts hboosts =>
    ((touch_boost hrun hcalls).1 before t after hts hboosts).1⟩

end Ltpo
