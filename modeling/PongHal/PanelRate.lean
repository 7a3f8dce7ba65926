/-
# The record of the panel's rate

`mCurrentHz` is what the HAL takes for the rate of the panel: a rate it has already is
not written again.  Every call keeps record and panel together (`handle_follows`), but
the record starts at 120 with each process, and init, which stops the service by
killing it, does not let the destructor write 120 Hz back (`record_agrees_iff`).

A failed write while the HAL is being disabled is not made up for either: the flag is
off and the panel stays where it was, while `setTargetHz` answers 120
(`disabled_full_rate_iff`).
-/
import PongHal.LtpoControl

namespace Ltpo

variable {fd : ℤ} {now : ℕ} {ts : List DisplayTransition} {s : Display}

/-! ## Across services -/

/-- The record of a service that has opened the node is the rate of the panel. -/
def Display.RecordAgrees (d : Display) : Prop :=
  ∀ c ∈ d.service, 0 ≤ c.mSfmFd → c.mCurrentHz = d.panelHz

/-- Init starts the service, and `open` finds the node. -/
def DisplayLabel.opensNode : DisplayLabel → Bool
  | .start fd => decide (0 ≤ fd)
  | _ => false

/-- If the step starts a service that opens the node, the panel is at 120 Hz. -/
def DisplayTransition.StartsAtFullRate (t : DisplayTransition) : Prop :=
  t.label.opensNode = true → t.pre.service = none → t.pre.panelHz = 120

instance (t : DisplayTransition) : Decidable t.StartsAtFullRate :=
  inferInstanceAs (Decidable (_ → _ → _))

/-- The record stays right, but for a start at another rate. -/
theorem recordAgrees_step_iff {t : DisplayTransition} (h : displayMachine.Takes t)
    (hpre : t.pre.RecordAgrees) : t.post.RecordAgrees ↔ t.StartsAtFullRate := by
  cases displayStep_of_takes h with
  | ticked d nanos => exact iff_of_true hpre fun hopens => Bool.noConfusion hopens
  | runs d fd c hc => exact iff_of_true hpre (by simp [DisplayTransition.StartsAtFullRate, hc])
  | stopped d =>
      refine iff_of_true ?_ fun hopens => Bool.noConfusion hopens
      simp [Display.RecordAgrees]
  | started d fd hnone =>
      simp [Display.RecordAgrees, DisplayTransition.StartsAtFullRate, DisplayLabel.opensNode,
        LtpoControl.construct, hnone, eq_comm]
  | called d call env c hc =>
      refine iff_of_true ?_ fun hopens => Bool.noConfusion hopens
      intro c' hc' hopen
      obtain rfl := Option.some.inj hc'
      rw [LtpoControl.mSfmFd_handle] at hopen
      exact c.handle_follows d.panelHz env d.now call (hpre c hc hopen)

/-- **The record is the rate of the panel in every state of a run exactly if every
service that opens the node is started with the panel at 120 Hz.** -/
theorem record_agrees_iff (hrun : displayMachine.Run .firstBoot ts s) :
    (∀ before d, before <+: ts → displayMachine.Run .firstBoot before d → d.RecordAgrees) ↔
      ∀ t ∈ ts, t.StartsAtFullRate := by
  refine hrun.states_iff_of_steps (I := Display.RecordAgrees) ?_ ?_
  · simp [Display.RecordAgrees, Display.firstBoot]
  · intro before t after _ _ hstep hpre
    exact recordAgrees_step_iff hstep hpre

/-- A service is stopped after it has gone back to 120 Hz, and started again. -/
theorem record_agrees_iff_active :
    ∃ (ts : List DisplayTransition) (s : Display), displayMachine.Run .firstBoot ts s ∧
      ts.length = 5 ∧
      ∀ before d, before <+: ts → displayMachine.Run .firstBoot before d → d.RecordAgrees := by
  have hrun : ∃ (ts : List DisplayTransition) (s : Display), displayMachine.Run .firstBoot ts s ∧
      ts.length = 5 ∧ ∀ t ∈ ts, t.StartsAtFullRate :=
    Machine.exists_run_of_exec [.start 3, .call .onIdle ⟨"idle", 0, true⟩,
      .call .onActive ⟨"idle", 0, true⟩, .stop, .start 3] (by decide)
  obtain ⟨ts, s, hrun, hlength, hstarts⟩ := hrun
  exact ⟨ts, s, hrun, hlength, (record_agrees_iff hrun).2 hstarts⟩

/-- A service is stopped while the panel is idle.  The next one takes it to be at 120 Hz,
and a request for 120 Hz leaves the panel idle. -/
theorem record_wrong_after_stop :
    ∃ (ts : List DisplayTransition) (s : Display), displayMachine.Run .firstBoot ts s ∧
      s.service = some ⟨3, true, 120, kBoostHold⟩ ∧ s.panelHz = 1 ∧ ¬ s.RecordAgrees := by
  have hrun : ∃ (ts : List DisplayTransition) (s : Display), displayMachine.Run .firstBoot ts s ∧
      s.service = some ⟨3, true, 120, kBoostHold⟩ ∧ s.panelHz = 1 :=
    Machine.exists_run_of_exec [.start 3, .call .onIdle ⟨"idle", 0, true⟩, .stop, .start 3,
      .call .onActive ⟨"idle", 0, true⟩] (by decide)
  obtain ⟨ts, s, hrun, hservice, hpanel⟩ := hrun
  refine ⟨ts, s, hrun, hservice, hpanel, fun hagrees => ?_⟩
  have hrecord := hagrees _ hservice (by decide)
  rw [hpanel] at hrecord
  exact absurd hrecord (by decide)

/-! ## Disabled -/

/-- While the HAL is disabled the panel is at 120 Hz, and the record says so. -/
def Display.DisabledFull (d : Display) : Prop :=
  ∀ c ∈ d.service, c.mEnabled = false → d.panelHz = 120 ∧ c.mCurrentHz = 120

/-- What holds as long as no service is started or stopped. -/
def Display.Follows (d : Display) : Prop :=
  ∃ c, d.service = some c ∧ c.mCurrentHz = d.panelHz ∧ (c.mSfmFd < 0 → d.panelHz = 120)

/-- The step disables the HAL, and the write of 120 Hz fails. -/
def DisplayLabel.failsToDisable : DisplayLabel → Bool
  | .call (.setEnabled enabled) env => !enabled && !env.pwrite
  | _ => false

theorem follows_step {t : DisplayTransition} (h : displayMachine.Takes t)
    (hcall : t.label.isCall = true) (hpre : t.pre.Follows) : t.post.Follows := by
  obtain ⟨c, hc, hrecord, hclosed⟩ := hpre
  cases displayStep_of_takes h with
  | ticked d nanos => exact ⟨c, hc, hrecord, hclosed⟩
  | called d call env c' hc' =>
      obtain rfl := Option.some.inj (hc.symm.trans hc')
      refine ⟨_, rfl, c.handle_follows d.panelHz env d.now call hrecord, fun hfd => ?_⟩
      rw [LtpoControl.mSfmFd_handle] at hfd
      rw [c.writes_handle_of_closed env d.now call hfd]
      exact hclosed hfd
  | started => exact Bool.noConfusion hcall
  | runs => exact Bool.noConfusion hcall
  | stopped => exact Bool.noConfusion hcall

/-- After `setEnabled(false)` the panel is at 120 Hz, unless it was not before and the
write fails. -/
theorem disabledFull_disable_iff {c : LtpoControl} {env : Env} {d : Display}
    (hrecord : c.mCurrentHz = d.panelHz) (hclosed : c.mSfmFd < 0 → d.panelHz = 120) :
    Display.DisabledFull
        { service := some (c.setEnabled false env d.now).1
          panelHz := (c.setEnabled false env d.now).2.foldl panelAfter d.panelHz
          now := d.now + env.elapsed } ↔
      ((DisplayLabel.call (.setEnabled false) env).failsToDisable = true → d.panelHz = 120) := by
  simp only [LtpoControl.setEnabled, Bool.not_false, if_true]
  rcases LtpoControl.applyStep_cases { c with mEnabled := false } fullRate env d.now with
    ⟨hfd, h⟩ | ⟨hwrite, h⟩ | ⟨hwrite, h⟩
  · rw [h]
    simp [Display.DisabledFull, hrecord, hclosed hfd]
  · rw [h]
    simp [Display.DisabledFull, hrecord, panelAfter, DisplayLabel.failsToDisable, hwrite]
  · have hrate : sfmRate fullRate.sfmIndex = some fullRate.hz := sfmRate_of_mem (by decide)
    have hfull : fullRate.hz = 120 := rfl
    rw [h]
    simp [Display.DisabledFull, panelAfter, DisplayLabel.failsToDisable, hwrite, hrate, hfull]

/-- Only a disabling whose write fails leaves a disabled HAL with the panel below
120 Hz. -/
theorem disabledFull_step_iff {t : DisplayTransition} (h : displayMachine.Takes t)
    (hcall : t.label.isCall = true) (hfollows : t.pre.Follows) (hpre : t.pre.DisabledFull) :
    t.post.DisabledFull ↔ (t.label.failsToDisable = true → t.pre.panelHz = 120) := by
  obtain ⟨c, hc, hrecord, hclosed⟩ := hfollows
  cases displayStep_of_takes h with
  | ticked d nanos => exact iff_of_true hpre fun hfails => Bool.noConfusion hfails
  | called d call env c' hc' =>
      obtain rfl := Option.some.inj (hc.symm.trans hc')
      by_cases hset : ∃ enabled, call = .setEnabled enabled
      · obtain ⟨enabled, rfl⟩ := hset
        cases enabled with
        | true =>
            refine iff_of_true ?_ fun hfails => Bool.noConfusion hfails
            intro c' hc' hdisabled
            rw [← Option.some.inj hc'] at hdisabled
            exact Bool.noConfusion hdisabled
        | false => exact disabledFull_disable_iff hrecord hclosed
      · have hset' : ∀ enabled, call ≠ .setEnabled enabled := fun enabled h => hset ⟨enabled, h⟩
        refine iff_of_true ?_ fun hfails => ?_
        · intro c' hc' hdisabled
          rw [← Option.some.inj hc', c.mEnabled_handle env d.now call hset'] at hdisabled
          have hnone := c.handle_of_disabled env d.now call hdisabled hset'
          rw [← Option.some.inj hc', hnone]
          exact hpre c hc hdisabled
        · cases call with
          | setEnabled enabled => exact absurd rfl (hset' enabled)
          | _ => exact Bool.noConfusion hfails
  | started => exact Bool.noConfusion hcall
  | runs => exact Bool.noConfusion hcall
  | stopped => exact Bool.noConfusion hcall

/-- Requests while the HAL is disabled are answered with the rate of the panel. -/
def AnswersPanelRate (t : DisplayTransition) : Prop :=
  ∀ targetHz env, t.label = .call (.setTargetHz targetHz) env →
    (∃ c ∈ t.pre.service, c.mEnabled = false) → t.out = [.answered t.pre.panelHz]

theorem answersPanelRate_of_disabledFull {t : DisplayTransition} (h : displayMachine.Takes t)
    (hpre : t.pre.DisabledFull) : AnswersPanelRate t := by
  rintro targetHz env hlabel ⟨c, hc, hdisabled⟩
  cases displayStep_of_takes h with
  | called d call env' c' hc' =>
      obtain rfl := Option.some.inj (hc.symm.trans hc')
      simp only [DisplayLabel.call.injEq] at hlabel
      obtain ⟨rfl, -⟩ := hlabel
      have hfull : d.panelHz = 120 := (hpre c hc hdisabled).1
      simp [LtpoControl.handle, c.setTargetHz_of_disabled targetHz env' d.now hdisabled, hfull]
  | _ => simp at hlabel

/-- **A disabled HAL has the panel at 120 Hz, and what it answers is the panel's rate,
exactly if no write of 120 Hz fails in `setEnabled(false)` with the panel below it.** -/
theorem disabled_full_rate_iff (hrun : displayMachine.Run (.running fd 120 now) ts s)
    (hcalls : ∀ t ∈ ts, t.label.isCall = true) :
    ((∀ before d, before <+: ts → displayMachine.Run (.running fd 120 now) before d →
        d.DisabledFull) ∧ ∀ t ∈ ts, AnswersPanelRate t) ↔
      ∀ t ∈ ts, t.label.failsToDisable = true → t.pre.panelHz = 120 := by
  have hstates : (∀ before d, before <+: ts →
      displayMachine.Run (.running fd 120 now) before d → d.DisabledFull) ↔
      ∀ t ∈ ts, t.label.failsToDisable = true → t.pre.panelHz = 120 := by
    refine hrun.states_iff_of_steps (I := Display.DisabledFull) ?_ ?_
    · simp [Display.DisabledFull, Display.running, LtpoControl.construct]
    · intro before t after hts hbefore hstep hpre
      have hcall : ∀ t' ∈ before ++ [t], t'.label.isCall = true := fun t' ht' =>
        hcalls t' (by rw [hts]; simp at ht' ⊢; tauto)
      refine disabledFull_step_iff hstep (hcall t (by simp)) ?_ hpre
      refine hbefore.invariant_of_guard (G := fun t => t.label.isCall = true)
        (I := Display.Follows) ?_ (fun t hstep hg ih => follows_step hstep hg ih) ?_
      · exact ⟨.construct fd, rfl, rfl, fun _ => rfl⟩
      · exact fun t' ht' => hcall t' (List.mem_append_left _ ht')
  rw [← hstates]
  constructor
  · exact fun h => h.1
  · intro hfull
    refine ⟨hfull, fun t ht => ?_⟩
    obtain ⟨before, after, rfl, hbefore, hstep⟩ := hrun.split_of_mem ht
    exact answersPanelRate_of_disabledFull hstep
      (hfull before t.pre (List.prefix_append _ _) hbefore)

/-- The HAL is disabled while the panel is idle, the write going well. -/
theorem disabled_full_rate_iff_idle :
    ∃ (ts : List DisplayTransition) (s : Display),
      displayMachine.Run (.running 3 120 0) ts s ∧ ts.length = 3 ∧
      ∀ t ∈ ts, AnswersPanelRate t := by
  have hrun : ∃ (ts : List DisplayTransition) (s : Display),
      displayMachine.Run (.running 3 120 0) ts s ∧ ts.length = 3 ∧
      (∀ t ∈ ts, t.label.isCall = true) ∧
      ∀ t ∈ ts, t.label.failsToDisable = true → t.pre.panelHz = 120 :=
    Machine.exists_run_of_exec [.call .onIdle ⟨"idle", 0, true⟩,
      .call (.setEnabled false) ⟨"idle", 0, true⟩,
      .call (.setTargetHz 60) ⟨"idle", 0, true⟩] (by decide)
  obtain ⟨ts, s, hrun, hlength, hcalls, hfails⟩ := hrun
  exact ⟨ts, s, hrun, hlength, ((disabled_full_rate_iff hrun hcalls).2 hfails).2⟩

/-- The HAL is disabled while the panel is idle, and the write fails: the panel stays at
1 Hz, and a request is answered with 120. -/
theorem disabled_at_one_hertz :
    ∃ (ts : List DisplayTransition) (s : Display),
      displayMachine.Run (.running 3 120 0) ts s ∧
      (∀ t ∈ ts, t.label.isCall = true) ∧ s.panelHz = 1 ∧
      s.service = some ⟨3, false, 1, 0⟩ ∧ ts.getLast?.map (·.out) = some [.answered 120] :=
  Machine.exists_run_of_exec [.call .onIdle ⟨"idle", 0, true⟩,
    .call (.setEnabled false) ⟨"idle", 0, false⟩,
    .call (.setTargetHz 60) ⟨"idle", 0, true⟩] (by decide)

end Ltpo
