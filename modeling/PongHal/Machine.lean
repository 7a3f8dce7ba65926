/-
# Labelled machines and their runs

A machine is a partial, deterministic step on a state, driven by labels and
emitting observations.  Everything the environment decides (which thread moves
next, what a device answers, how much time passes) is in the label, so "for
every interleaving" is "for every list of labels".

A run is recorded as the list of its transitions, oldest first, each with the
state before and after it.  Runs grow at the END (`Run.next`), which is the
direction in which an invariant is proved: what holds before the last step, and
what that step can do.  The rules other modules use are

* `Run.history` : the invariant rule, for a property of the history and the
  state it led to;
* `Run.invariant` : the same for a property of the state alone;
* `Run.invariant_of_guard` : the same in runs whose steps all meet a guard;
* `Run.sublist_of_steps`, `Run.append_eq_of_steps`, `Run.append_eq_iff_of_steps` : what
  a machine gives out is what it has taken in, in order;
* `StreamStep.comp` : two streams in series are one;
* `Run.perm_of_steps` : what it has taken in it has given out, lost or kept;
* `Run.sum_add_le_of_guard` : what the steps of a run spend, they have gained, or their
  level has come down by it;
* `Run.trans` : runs can be put together;
* `Run.states_iff_of_steps` : a property of all states of a run, by a guard on its steps;
* `Run.simulate_of_relation`, `Run.simulate` : a run of one machine as a run of another;
* `Run.project` : what a run of a machine made of parts is to one of them;
* `Run.of_append`, `Run.split_of_mem` : the parts of a run are runs, and a transition
  of a run starts in a state the run reached;
* `exists_run_of_exec` : executing a list of labels gives a run.
-/
import Mathlib.Tactic

/-- A machine with states `σ`, labels `ε` and observations `ω`.  `step s l` is
`none` when label `l` is not enabled in state `s`. -/
structure Machine (σ ε ω : Type*) where
  step : σ → ε → Option (σ × List ω)

/-- One step of a run, with the states around it. -/
structure Transition (σ ε ω : Type*) where
  pre : σ
  label : ε
  out : List ω
  post : σ

namespace Machine

variable {σ ε ω : Type*}

/-- `M.Run s₀ ts s`: the machine can go from `s₀` to `s` through the
transitions `ts`. -/
inductive Run (M : Machine σ ε ω) (s₀ : σ) : List (Transition σ ε ω) → σ → Prop
  | start : Run M s₀ [] s₀
  | next {ts : List (Transition σ ε ω)} {s s' : σ} {l : ε} {out : List ω} :
      Run M s₀ ts s → M.step s l = some (s', out) →
      Run M s₀ (ts ++ [⟨s, l, out, s'⟩]) s'

/-- The transition is one the machine can take. -/
def Takes (M : Machine σ ε ω) (t : Transition σ ε ω) : Prop :=
  M.step t.pre t.label = some (t.post, t.out)

variable {M : Machine σ ε ω} {s₀ s : σ} {ts : List (Transition σ ε ω)}

/-! ## The invariant rules -/

/-- **The invariant rule.**  A property of the history and of the state reached
holds of every run if it holds at the start and every step keeps it. -/
theorem Run.history {I : List (Transition σ ε ω) → σ → Prop} (hstart : I [] s₀)
    (hnext : ∀ (ts : List (Transition σ ε ω)) (t : Transition σ ε ω),
      M.Run s₀ ts t.pre → M.Takes t → I ts t.pre → I (ts ++ [t]) t.post)
    (hrun : M.Run s₀ ts s) : I ts s := by
  induction hrun with
  | start => exact hstart
  | next hrun hstep ih => exact hnext _ ⟨_, _, _, _⟩ hrun hstep ih

/-- The invariant rule in runs whose steps all meet a guard. -/
theorem Run.history_of_guard {G : Transition σ ε ω → Prop}
    {I : List (Transition σ ε ω) → σ → Prop} (hstart : I [] s₀)
    (hnext : ∀ (ts : List (Transition σ ε ω)) (t : Transition σ ε ω),
      M.Run s₀ ts t.pre → M.Takes t → G t → I ts t.pre → I (ts ++ [t]) t.post)
    (hrun : M.Run s₀ ts s) (hguard : ∀ t ∈ ts, G t) : I ts s := by
  revert hguard
  refine Run.history (I := fun ts s => (∀ t ∈ ts, G t) → I ts s) (fun _ => hstart) ?_ hrun
  intro ts t hrun hstep ih hguard
  have hbefore : ∀ t' ∈ ts, G t' := fun t' ht' => hguard t' (List.mem_append_left _ ht')
  exact hnext ts t hrun hstep (hguard t (by simp)) (ih hbefore)

/-- The invariant rule for a property of the state alone. -/
theorem Run.invariant {I : σ → Prop} (hstart : I s₀)
    (hnext : ∀ t : Transition σ ε ω, M.Takes t → I t.pre → I t.post)
    (hrun : M.Run s₀ ts s) : I s :=
  Run.history (I := fun _ s => I s) hstart (fun _ t _ hstep ih => hnext t hstep ih) hrun

/-- The invariant rule for a property of the state, in runs whose steps all meet
a guard. -/
theorem Run.invariant_of_guard {G : Transition σ ε ω → Prop} {I : σ → Prop}
    (hstart : I s₀)
    (hnext : ∀ t : Transition σ ε ω, M.Takes t → G t → I t.pre → I t.post)
    (hrun : M.Run s₀ ts s) (hguard : ∀ t ∈ ts, G t) : I s :=
  Run.history_of_guard (I := fun _ s => I s) hstart
    (fun _ t _ hstep hg ih => hnext t hstep hg ih) hrun hguard

/-! ## Streams through a machine

A machine that takes items in, keeps some of them, and gives items out.  If every
step gives out and keeps no more than it kept and took in, in that order, then what
a run has given out, followed by what it still keeps, is what it has taken in, with
items missing or, where no step loses any, without.
-/

section Stream

variable {α : Type*}

/-- One step of a stream: it kept `kept`, takes `taken` in, gives `given` out and
loses `lost`, and then keeps `kept'`. -/
structure StreamStep (kept taken given lost kept' : List α) : Prop where
  inOrder : (given ++ kept').Sublist (kept ++ taken)
  complete : (given ++ lost ++ kept').Perm (kept ++ taken)

/-- A step that does not touch the stream. -/
theorem StreamStep.quiet (kept : List α) : StreamStep kept [] [] [] kept := by
  refine ⟨?_, ?_⟩ <;> simp

/-- New items come in and are all kept. -/
theorem StreamStep.keep (kept items : List α) : StreamStep kept items [] [] (kept ++ items) := by
  refine ⟨?_, ?_⟩ <;> simp

/-- The first items of what was kept are given out. -/
theorem StreamStep.give (front rest : List α) (n : ℕ) :
    StreamStep (front ++ rest) [] (front.take n) [] (front.drop n ++ rest) := by
  have hall : front.take n ++ (front.drop n ++ rest) = front ++ rest := by
    rw [← List.append_assoc, List.take_append_drop]
  refine ⟨?_, ?_⟩ <;> simp [hall]

/-- The first items of what was kept are lost. -/
theorem StreamStep.lose (front rest : List α) (n : ℕ) :
    StreamStep (front ++ rest) [] [] (front.take n) (front.drop n ++ rest) := by
  have hall : front.take n ++ (front.drop n ++ rest) = front ++ rest := by
    rw [← List.append_assoc, List.take_append_drop]
  refine ⟨?_, ?_⟩
  · simpa using (List.drop_sublist n front).append_right rest
  · simp [hall]

/-- All that was kept is lost. -/
theorem StreamStep.loseAll (kept : List α) : StreamStep kept [] [] kept [] := by
  refine ⟨?_, ?_⟩ <;> simp

/-- New items come in.  The first of them are given out at once if nothing was kept;
the others are kept or lost. -/
theorem StreamStep.take (kept items : List α) (n : ℕ) (hdirect : items.take n ≠ [] → kept = []) :
    StreamStep kept items (items.take n) [] (kept ++ items.drop n) ∧
    StreamStep kept items (items.take n) (items.drop n) kept := by
  have hfirst : items.take n ++ kept = kept ++ items.take n := by
    by_cases hnone : items.take n = []
    · rw [hnone, List.nil_append, List.append_nil]
    · rw [hdirect hnone, List.nil_append, List.append_nil]
  have hall : items.take n ++ (kept ++ items.drop n) = kept ++ items := by
    rw [← List.append_assoc, hfirst, List.append_assoc, List.take_append_drop]
  refine ⟨⟨?_, ?_⟩, ⟨?_, ?_⟩⟩
  · rw [hall]
  · rw [List.append_nil, hall]
  · rw [hfirst]
    exact (List.take_sublist n items).append_left kept
  · rw [List.take_append_drop]
    exact List.perm_append_comm

/-- Two streams in series: what the first gives out the second takes in.  Together they
keep what the second keeps, and behind it what the first keeps. -/
theorem StreamStep.comp {kept₁ kept₁' kept₂ kept₂' taken passed given lost₁ lost₂ : List α}
    (h₁ : StreamStep kept₁ taken passed lost₁ kept₁')
    (h₂ : StreamStep kept₂ passed given lost₂ kept₂') :
    StreamStep (kept₂ ++ kept₁) taken given (lost₂ ++ lost₁) (kept₂' ++ kept₁') := by
  refine ⟨?_, ?_⟩
  · have hfirst : (given ++ kept₂' ++ kept₁').Sublist (kept₂ ++ passed ++ kept₁') :=
      h₂.inOrder.append_right _
    have hsecond : (kept₂ ++ (passed ++ kept₁')).Sublist (kept₂ ++ (kept₁ ++ taken)) :=
      h₁.inOrder.append_left _
    simp only [List.append_assoc] at hfirst hsecond ⊢
    exact hfirst.trans hsecond
  · have hfirst : (given ++ lost₂ ++ kept₂' ++ (lost₁ ++ kept₁')).Perm
        (kept₂ ++ passed ++ (lost₁ ++ kept₁')) := h₂.complete.append_right _
    have hsecond : (kept₂ ++ (passed ++ lost₁ ++ kept₁')).Perm (kept₂ ++ (kept₁ ++ taken)) :=
      h₁.complete.append_left _
    have hmove : (given ++ (lost₂ ++ lost₁) ++ (kept₂' ++ kept₁')).Perm
        (given ++ lost₂ ++ kept₂' ++ (lost₁ ++ kept₁')) := by
      simp only [List.append_assoc]
      exact ((List.perm_append_comm_assoc _ _ _).append_left _).append_left _
    simp only [List.append_assoc] at hfirst hsecond hmove ⊢
    exact hmove.trans (hfirst.trans hsecond)

/-- Where nothing is lost nothing is missing. -/
theorem StreamStep.eq_of_lossless {kept taken given kept' : List α}
    (h : StreamStep kept taken given [] kept') : given ++ kept' = kept ++ taken := by
  have hperm := h.complete
  rw [List.append_nil] at hperm
  exact h.inOrder.eq_of_length hperm.length_eq

variable {taken given lost : Transition σ ε ω → List α} {kept : σ → List α}

/-- A stream that loses items keeps the order of the others. -/
theorem Run.sublist_of_steps
    (hnext : ∀ (ts : List (Transition σ ε ω)) (t : Transition σ ε ω),
      M.Run s₀ ts t.pre → M.Takes t →
        StreamStep (kept t.pre) (taken t) (given t) (lost t) (kept t.post))
    (hrun : M.Run s₀ ts s) :
    (ts.flatMap given ++ kept s).Sublist (kept s₀ ++ ts.flatMap taken) := by
  refine hrun.history
    (I := fun ts s => (ts.flatMap given ++ kept s).Sublist (kept s₀ ++ ts.flatMap taken)) ?_ ?_
  · simp
  · intro ts t hrun hstep ih
    simp only [List.flatMap_append, List.flatMap_singleton, List.append_assoc]
    have hfirst : (ts.flatMap given ++ (given t ++ kept t.post)).Sublist
        (ts.flatMap given ++ (kept t.pre ++ taken t)) :=
      (hnext ts t hrun hstep).inOrder.append_left _
    have hsecond : (ts.flatMap given ++ (kept t.pre ++ taken t)).Sublist
        (kept s₀ ++ (ts.flatMap taken ++ taken t)) := by
      rw [← List.append_assoc, ← List.append_assoc]
      exact ih.append_right _
    exact hfirst.trans hsecond

/-- A stream that loses nothing gives out what it has kept and taken in, up to what it
still keeps. -/
theorem Run.append_eq_of_steps
    (hnext : ∀ (ts : List (Transition σ ε ω)) (t : Transition σ ε ω),
      M.Run s₀ ts t.pre → M.Takes t →
        StreamStep (kept t.pre) (taken t) (given t) (lost t) (kept t.post))
    (hrun : M.Run s₀ ts s) (hlost : ∀ t ∈ ts, lost t = []) :
    ts.flatMap given ++ kept s = kept s₀ ++ ts.flatMap taken := by
  refine hrun.history_of_guard (G := fun t => lost t = [])
    (I := fun ts s => ts.flatMap given ++ kept s = kept s₀ ++ ts.flatMap taken) ?_ ?_ hlost
  · simp
  · intro ts t hrun hstep hnone ih
    have hall := hnext ts t hrun hstep
    rw [hnone] at hall
    simp only [List.flatMap_append, List.flatMap_singleton, List.append_assoc]
    rw [hall.eq_of_lossless, ← List.append_assoc, ih, List.append_assoc]

/-- What was kept at the start and all that was taken in since is given out, lost or
kept.  The order in which the items go does not matter here. -/
theorem Run.perm_of_steps
    (hnext : ∀ (ts : List (Transition σ ε ω)) (t : Transition σ ε ω),
      M.Run s₀ ts t.pre → M.Takes t →
        (given t ++ lost t ++ kept t.post).Perm (kept t.pre ++ taken t))
    (hrun : M.Run s₀ ts s) :
    (ts.flatMap given ++ ts.flatMap lost ++ kept s).Perm (kept s₀ ++ ts.flatMap taken) := by
  refine hrun.history (I := fun ts s =>
    (ts.flatMap given ++ ts.flatMap lost ++ kept s).Perm (kept s₀ ++ ts.flatMap taken)) ?_ ?_
  · simp
  · intro ts t hrun hstep ih
    have hone := hnext ts t hrun hstep
    simp only [List.flatMap_append, List.flatMap_singleton]
    -- what the step gives out and loses moves behind what the run has lost
    have hmove : (ts.flatMap given ++ given t ++ (ts.flatMap lost ++ lost t) ++ kept t.post).Perm
        (ts.flatMap given ++ ts.flatMap lost ++ (given t ++ lost t ++ kept t.post)) := by
      simp only [List.append_assoc]
      exact (List.perm_append_comm_assoc _ _ _).append_left _
    refine hmove.trans ((hone.append_left _).trans ?_)
    rw [← List.append_assoc, ← List.append_assoc]
    exact ih.append_right _

theorem Run.length_eq_of_steps
    (hnext : ∀ (ts : List (Transition σ ε ω)) (t : Transition σ ε ω),
      M.Run s₀ ts t.pre → M.Takes t →
        StreamStep (kept t.pre) (taken t) (given t) (lost t) (kept t.post))
    (hrun : M.Run s₀ ts s) :
    (ts.flatMap given).length + (ts.flatMap lost).length + (kept s).length =
      (kept s₀).length + (ts.flatMap taken).length := by
  have hperm := hrun.perm_of_steps fun ts t hbefore hstep => (hnext ts t hbefore hstep).complete
  simpa only [List.length_append] using hperm.length_eq

/-- What a stream has given out and still keeps is all it has kept and taken in, exactly
if it has lost nothing. -/
theorem Run.append_eq_iff_of_steps
    (hnext : ∀ (ts : List (Transition σ ε ω)) (t : Transition σ ε ω),
      M.Run s₀ ts t.pre → M.Takes t →
        StreamStep (kept t.pre) (taken t) (given t) (lost t) (kept t.post))
    (hrun : M.Run s₀ ts s) :
    ts.flatMap given ++ kept s = kept s₀ ++ ts.flatMap taken ↔ ∀ t ∈ ts, lost t = [] := by
  refine ⟨fun hall => ?_, hrun.append_eq_of_steps hnext⟩
  have hlength := hrun.length_eq_of_steps hnext
  have hgiven := congrArg List.length hall
  simp only [List.length_append] at hgiven
  have hnone : ts.flatMap lost = [] := List.eq_nil_of_length_eq_zero (by omega)
  exact List.flatMap_eq_nil_iff.1 hnone

end Stream

/-! ## Spending along a run

Every state has a level, and a step that costs something must lower the level or
gain what it costs.
-/

/-- What a run spends, with the level it reaches, is at most what it gains, with the
level it starts at. -/
theorem Run.sum_add_le_of_guard {G : Transition σ ε ω → Prop}
    {cost gain : Transition σ ε ω → ℕ} {level : σ → ℕ}
    (hnext : ∀ (ts : List (Transition σ ε ω)) (t : Transition σ ε ω),
      M.Run s₀ ts t.pre → M.Takes t → G t → cost t + level t.post ≤ level t.pre + gain t)
    (hrun : M.Run s₀ ts s) (hguard : ∀ t ∈ ts, G t) :
    (ts.map cost).sum + level s ≤ level s₀ + (ts.map gain).sum := by
  refine hrun.history_of_guard (G := G)
    (I := fun ts s => (ts.map cost).sum + level s ≤ level s₀ + (ts.map gain).sum) ?_ ?_ hguard
  · simp
  · intro ts t hrun hstep hg ih
    have hone := hnext ts t hrun hstep hg
    simp only [List.map_append, List.sum_append, List.map_singleton, List.sum_singleton]
    omega

/-- The same where every step keeps to it. -/
theorem Run.sum_add_le_of_steps {cost gain : Transition σ ε ω → ℕ} {level : σ → ℕ}
    (hnext : ∀ (ts : List (Transition σ ε ω)) (t : Transition σ ε ω),
      M.Run s₀ ts t.pre → M.Takes t → cost t + level t.post ≤ level t.pre + gain t)
    (hrun : M.Run s₀ ts s) :
    (ts.map cost).sum + level s ≤ level s₀ + (ts.map gain).sum :=
  hrun.sum_add_le_of_guard (G := fun _ => True) (fun ts t hbefore hstep _ => hnext ts t hbefore hstep)
    fun _ _ => trivial

/-- Where the steps gain nothing, what a run spends is at most what its level has come
down. -/
theorem Run.spent_le_of_guard {G : Transition σ ε ω → Prop} {cost : Transition σ ε ω → ℕ}
    {level : σ → ℕ}
    (hnext : ∀ (ts : List (Transition σ ε ω)) (t : Transition σ ε ω),
      M.Run s₀ ts t.pre → M.Takes t → G t → cost t + level t.post ≤ level t.pre)
    (hrun : M.Run s₀ ts s) (hguard : ∀ t ∈ ts, G t) :
    (ts.map cost).sum + level s ≤ level s₀ := by
  have hall : (ts.map cost).sum + level s ≤ level s₀ + (ts.map fun _ => 0).sum :=
    hrun.sum_add_le_of_guard hnext hguard
  simpa using hall

/-! ## What the last step that mattered has left

A property that some steps bring about and others end.
-/

/-- A property holds after a run exactly if a step has brought it about and none has
ended it since, or if it held at the start and no step has ended it. -/
theorem Run.iff_of_guard {G begins ends : Transition σ ε ω → Prop} {I : σ → Prop}
    (hnext : ∀ t : Transition σ ε ω, M.Takes t → G t →
      (I t.post ↔ begins t ∨ (I t.pre ∧ ¬ ends t)))
    (hrun : M.Run s₀ ts s) (hguard : ∀ t ∈ ts, G t) :
    I s ↔ (∃ ts₁ t ts₂, ts = ts₁ ++ t :: ts₂ ∧ begins t ∧ ∀ t' ∈ ts₂, ¬ ends t') ∨
      (I s₀ ∧ ∀ t ∈ ts, ¬ ends t) := by
  refine hrun.history_of_guard (I := fun ts s =>
    I s ↔ (∃ ts₁ t ts₂, ts = ts₁ ++ t :: ts₂ ∧ begins t ∧ ∀ t' ∈ ts₂, ¬ ends t') ∨
      (I s₀ ∧ ∀ t ∈ ts, ¬ ends t)) ?_ ?_ hguard
  · simp
  · intro ts t _ hstep hg ih
    rw [hnext t hstep hg, ih]
    constructor
    · rintro (hbegins | ⟨⟨ts₁, t₁, ts₂, rfl, hbegins, hkept⟩ | ⟨hstart, hkept⟩, hends⟩)
      · exact .inl ⟨ts, t, [], rfl, hbegins, by simp⟩
      · exact .inl ⟨ts₁, t₁, ts₂ ++ [t], by simp, hbegins, by simpa [or_imp, forall_and] using
          ⟨hkept, hends⟩⟩
      · exact .inr ⟨hstart, by simpa [or_imp, forall_and] using ⟨hkept, hends⟩⟩
    · rintro (⟨ts₁, t₁, ts₂, hts, hbegins, hkept⟩ | ⟨hstart, hkept⟩)
      · -- the step that brings it about is the last one, or one of those before
        rcases List.eq_nil_or_concat ts₂ with rfl | ⟨ts₂, t₂, rfl⟩
        · obtain ⟨-, ht⟩ := List.append_inj' hts rfl
          rw [List.singleton_inj] at ht
          exact .inl (ht ▸ hbegins)
        · rw [List.concat_eq_append] at hts hkept
          have hts' : ts ++ [t] = (ts₁ ++ t₁ :: ts₂) ++ [t₂] := by simpa using hts
          obtain ⟨rfl, ht⟩ := List.append_inj' hts' rfl
          rw [List.singleton_inj] at ht
          subst ht
          exact .inr ⟨.inl ⟨ts₁, t₁, ts₂, rfl, hbegins, fun t' ht' => hkept t' (by simp [ht'])⟩,
            hkept t (by simp)⟩
      · exact .inr ⟨.inr ⟨hstart, fun t' ht' => hkept t' (by simp [ht'])⟩, hkept t (by simp)⟩

/-! ## Parts of a run -/

/-- What precedes the last transition of a run is itself a run, and it leads to
the state that transition starts in. -/
theorem Run.of_append_singleton {t : Transition σ ε ω} (hrun : M.Run s₀ (ts ++ [t]) s) :
    M.Run s₀ ts t.pre ∧ M.Takes t ∧ t.post = s := by
  generalize hts : ts ++ [t] = ts' at hrun
  cases hrun with
  | start => simp at hts
  | next hrun hstep =>
      obtain ⟨rfl, ht⟩ := List.append_inj' hts rfl
      rw [List.singleton_inj] at ht
      subst ht
      exact ⟨hrun, hstep, rfl⟩

/-- Runs can be put together. -/
theorem Run.trans {ts₂ : List (Transition σ ε ω)} {s₂ : σ} (hrun : M.Run s₀ ts s)
    (hrun₂ : M.Run s ts₂ s₂) : M.Run s₀ (ts ++ ts₂) s₂ := by
  induction hrun₂ with
  | start => simpa using hrun
  | next hrun₂ hstep ih =>
      rw [← List.append_assoc]
      exact ih.next hstep

/-- A run that goes on after its first step. -/
theorem Run.cons {t : Transition σ ε ω} (hstep : M.Takes t) (hrun : M.Run t.post ts s) :
    M.Run t.pre (t :: ts) s := by
  have hfirst : M.Run t.pre ([] ++ [t]) t.post := Run.start.next hstep
  exact hfirst.trans hrun

/-- Both parts of a run are runs. -/
theorem Run.of_append {ts₁ ts₂ : List (Transition σ ε ω)} (hrun : M.Run s₀ (ts₁ ++ ts₂) s) :
    ∃ s₁, M.Run s₀ ts₁ s₁ ∧ M.Run s₁ ts₂ s := by
  induction ts₂ using List.reverseRecOn generalizing s with
  | nil => exact ⟨s, by simpa using hrun, .start⟩
  | append_singleton ts₂ t ih =>
      rw [← List.append_assoc] at hrun
      obtain ⟨hinit, hstep, rfl⟩ := hrun.of_append_singleton
      obtain ⟨s₁, hrun₁, hrun₂⟩ := ih hinit
      exact ⟨s₁, hrun₁, hrun₂.next hstep⟩

/-- A run around one of its transitions: it reaches the state the transition starts in,
and goes on from the state it leads to. -/
theorem Run.of_append_cons {t : Transition σ ε ω} {ts₁ ts₂ : List (Transition σ ε ω)}
    (hrun : M.Run s₀ (ts₁ ++ t :: ts₂) s) :
    M.Run s₀ ts₁ t.pre ∧ M.Takes t ∧ M.Run t.post ts₂ s := by
  rw [List.append_cons] at hrun
  obtain ⟨s₁, hrun₁, hrun₂⟩ := hrun.of_append
  obtain ⟨hinit, hstep, rfl⟩ := hrun₁.of_append_singleton
  exact ⟨hinit, hstep, hrun₂⟩

/-- Each transition of a run starts in a state the run reached before it, and is
a step of the machine. -/
theorem Run.split_of_mem {t : Transition σ ε ω} (hrun : M.Run s₀ ts s) (ht : t ∈ ts) :
    ∃ ts₁ ts₂, ts = ts₁ ++ t :: ts₂ ∧ M.Run s₀ ts₁ t.pre ∧ M.Takes t := by
  obtain ⟨ts₁, ts₂, rfl⟩ := List.append_of_mem ht
  obtain ⟨hinit, hstep, -⟩ := hrun.of_append_cons
  exact ⟨ts₁, ts₂, rfl, hinit, hstep⟩

/-- The state a run reaches is the one it starts in, or the one its last transition
leads to. -/
theorem Run.eq_start_or_exists_post (hrun : M.Run s₀ ts s) :
    s = s₀ ∨ ∃ t ∈ ts, t.post = s := by
  cases hrun with
  | start => exact .inl rfl
  | next hrun hstep => exact .inr ⟨_, List.mem_append_right _ (List.mem_singleton_self _), rfl⟩

/-- Where each step of a run keeps a property exactly if it meets a guard, the property
holds in every state of the run exactly if all its steps meet the guard. -/
theorem Run.states_iff_of_steps {I : σ → Prop} {G : Transition σ ε ω → Prop} (hstart : I s₀)
    (hnext : ∀ ts₁ t ts₂, ts = ts₁ ++ t :: ts₂ → M.Run s₀ ts₁ t.pre → M.Takes t → I t.pre →
      (I t.post ↔ G t))
    (hrun : M.Run s₀ ts s) :
    (∀ ts₁ s₁, ts₁ <+: ts → M.Run s₀ ts₁ s₁ → I s₁) ↔ ∀ t ∈ ts, G t := by
  constructor
  · intro hstates t ht
    obtain ⟨ts₁, ts₂, rfl, hbefore, hstep⟩ := hrun.split_of_mem ht
    have hpre : I t.pre := hstates ts₁ t.pre (List.prefix_append _ _) hbefore
    have hpost : I t.post := hstates (ts₁ ++ [t]) t.post ⟨ts₂, by simp⟩ (hbefore.next hstep)
    exact (hnext ts₁ t ts₂ rfl hbefore hstep hpre).1 hpost
  · intro hguard ts₁ s₁ hprefix hrun₁
    refine hrun₁.history (I := fun ts₁ s₁ => ts₁ <+: ts → I s₁) (fun _ => hstart) ?_ hprefix
    intro ts₁ t hbefore hstep ih hprefix
    obtain ⟨ts₂, hts⟩ := hprefix
    have hsplit : ts = ts₁ ++ t :: ts₂ := by rw [← hts, List.append_assoc, List.singleton_append]
    have hpre : I t.pre := ih ⟨t :: ts₂, hsplit.symm⟩
    exact (hnext ts₁ t ts₂ hsplit hbefore hstep hpre).2 (hguard t (by simp [hsplit]))

/-! ## Simulation

One machine in the steps of another, which shows more of it or does in several steps
what the first does in one.
-/

/-- **Forward simulation.**  A relation between the runs of two machines, with the states
they have led to, that each step of the one keeps with some run of the other. -/
theorem Run.simulate_of_relation {σ' ε' ω' : Type*} {M' : Machine σ' ε' ω'}
    {G : Transition σ ε ω → Prop}
    {R : List (Transition σ ε ω) → σ → List (Transition σ' ε' ω') → σ' → Prop} {s₀' : σ'}
    (hstart : R [] s₀ [] s₀')
    (hnext : ∀ (ts : List (Transition σ ε ω)) (t : Transition σ ε ω)
      (ts₁ : List (Transition σ' ε' ω')) (s₁ : σ'), M.Takes t → G t → R ts t.pre ts₁ s₁ →
      ∃ ts₂ s₂, M'.Run s₁ ts₂ s₂ ∧ R (ts ++ [t]) t.post (ts₁ ++ ts₂) s₂)
    (hrun : M.Run s₀ ts s) (hguard : ∀ t ∈ ts, G t) :
    ∃ ts' s', M'.Run s₀' ts' s' ∧ R ts s ts' s' := by
  refine hrun.history_of_guard (G := G) (I := fun ts s =>
    ∃ ts' s', M'.Run s₀' ts' s' ∧ R ts s ts' s') ⟨[], s₀', .start, hstart⟩ ?_ hguard
  rintro ts t - hstep hg ⟨ts₁, s₁, hrun₁, hrel⟩
  obtain ⟨ts₂, s₂, hrun₂, hrel'⟩ := hnext ts t ts₁ s₁ hstep hg hrel
  exact ⟨ts₁ ++ ts₂, s₂, hrun₁.trans hrun₂, hrel'⟩

/-- If every step of a machine is a run of another, with the states mapped by `f` and the
outputs by `g`, then so is every run. -/
theorem Run.simulate {σ' ε' ω' : Type*} {M' : Machine σ' ε' ω'} {G : Transition σ ε ω → Prop}
    {f : σ → σ'} {g : ω → Option ω'}
    (hnext : ∀ t : Transition σ ε ω, M.Takes t → G t →
      ∃ ts', M'.Run (f t.pre) ts' (f t.post) ∧
        ts'.flatMap (·.out) = t.out.filterMap g)
    (hrun : M.Run s₀ ts s) (hguard : ∀ t ∈ ts, G t) :
    ∃ ts', M'.Run (f s₀) ts' (f s) ∧
      ts'.flatMap (·.out) = (ts.flatMap (·.out)).filterMap g := by
  have hboth : ∃ ts' s', M'.Run (f s₀) ts' s' ∧
      s' = f s ∧ ts'.flatMap (·.out) = (ts.flatMap (·.out)).filterMap g := by
    refine hrun.simulate_of_relation (R := fun ts s ts' s' =>
      s' = f s ∧ ts'.flatMap (·.out) = (ts.flatMap (·.out)).filterMap g) ⟨rfl, rfl⟩ ?_ hguard
    rintro ts t ts₁ s₁ hstep hg ⟨rfl, hout₁⟩
    obtain ⟨ts₂, hrun₂, hout₂⟩ := hnext t hstep hg
    refine ⟨ts₂, _, hrun₂, rfl, ?_⟩
    rw [List.flatMap_append, List.flatMap_append, List.filterMap_append, hout₁, hout₂,
      List.flatMap_singleton]
  obtain ⟨ts', s', hrun', rfl, hout⟩ := hboth
  exact ⟨ts', hrun', hout⟩

/-! ## Parts of a machine

A machine made of several: some of its steps are steps of the part, the others leave the
part as it is.
-/

/-- What a step is to a part of the machine, with the part's state before and after it. -/
inductive PartStep {σ' ε' ω' : Type*} (M' : Machine σ' ε' ω') :
    σ' → Option (Transition σ' ε' ω') → σ' → Prop
  | quiet (s : σ') : PartStep M' s none s
  | takes (t : Transition σ' ε' ω') (h : M'.Takes t) : PartStep M' t.pre (some t) t.post

/-- The steps of a run that are steps of a part make a run of the part. -/
theorem Run.project {σ' ε' ω' : Type*} {M' : Machine σ' ε' ω'} {f : σ → σ'}
    {part : Transition σ ε ω → Option (Transition σ' ε' ω')}
    (hnext : ∀ t : Transition σ ε ω, M.Takes t → PartStep M' (f t.pre) (part t) (f t.post))
    (hrun : M.Run s₀ ts s) : M'.Run (f s₀) (ts.filterMap part) (f s) := by
  refine hrun.history (I := fun ts s => M'.Run (f s₀) (ts.filterMap part) (f s)) .start ?_
  intro ts t _ hstep ih
  have hpart := hnext t hstep
  rw [List.filterMap_append]
  generalize f t.pre = pre at hpart ih
  generalize f t.post = post at hpart
  cases hp : part t with
  | none =>
      rw [hp] at hpart
      cases hpart
      simpa [hp] using ih
  | some t' =>
      rw [hp] at hpart
      cases hpart with
      | takes _ h => simpa [hp] using ih.next h

/-! ## Executing labels -/

/-- Execute labels one after the other, recording the transitions behind `ts`. -/
def execFrom (M : Machine σ ε ω) :
    List (Transition σ ε ω) → σ → List ε → Option (List (Transition σ ε ω) × σ)
  | ts, s, [] => some (ts, s)
  | ts, s, l :: ls =>
      match M.step s l with
      | none => none
      | some (s', out) => M.execFrom (ts ++ [⟨s, l, out, s'⟩]) s' ls

/-- Execute labels from `s₀`; `none` if one of them is not enabled. -/
def exec (M : Machine σ ε ω) (s₀ : σ) (ls : List ε) :
    Option (List (Transition σ ε ω) × σ) :=
  M.execFrom [] s₀ ls

theorem Run.execFrom (ls : List ε) {ts' : List (Transition σ ε ω)} {s' : σ}
    (hrun : M.Run s₀ ts s) (hexec : M.execFrom ts s ls = some (ts', s')) :
    M.Run s₀ ts' s' := by
  induction ls generalizing ts s with
  | nil =>
      simp only [Machine.execFrom, Option.some.injEq, Prod.mk.injEq] at hexec
      obtain ⟨rfl, rfl⟩ := hexec
      exact hrun
  | cons l ls ih =>
      rw [Machine.execFrom] at hexec
      cases hstep : M.step s l with
      | none => simp [hstep] at hexec
      | some r =>
          rw [hstep] at hexec
          exact ih (hrun.next hstep) hexec

/-- Executing labels gives a run: a decidable property of the outcome is a
property of some run. -/
theorem exists_run_of_exec {P : List (Transition σ ε ω) → σ → Prop}
    [∀ ts s, Decidable (P ts s)] (ls : List ε)
    (hexec : (M.exec s₀ ls).any (fun r => decide (P r.1 r.2)) = true) :
    ∃ ts s, M.Run s₀ ts s ∧ P ts s := by
  rw [Option.any_eq_true] at hexec
  obtain ⟨⟨ts, s⟩, hr, hP⟩ := hexec
  exact ⟨ts, s, Run.start.execFrom ls hr, of_decide_eq_true hP⟩

/-- The same for a run that goes on from the state another one has reached. -/
theorem exists_runs_of_exec {P : σ → List (Transition σ ε ω) → σ → Prop}
    [∀ s₁ ts s, Decidable (P s₁ ts s)] (ls₁ ls₂ : List ε)
    (hexec : (M.exec s₀ ls₁).any (fun r₁ =>
      (M.exec r₁.2 ls₂).any (fun r₂ => decide (P r₁.2 r₂.1 r₂.2))) = true) :
    ∃ ts₁ s₁ ts₂ s₂, M.Run s₀ ts₁ s₁ ∧ M.Run s₁ ts₂ s₂ ∧ P s₁ ts₂ s₂ := by
  rw [Option.any_eq_true] at hexec
  obtain ⟨⟨ts₁, s₁⟩, hr₁, hexec⟩ := hexec
  obtain ⟨ts₂, s₂, hrun₂, hP⟩ := exists_run_of_exec (P := P s₁) ls₂ hexec
  exact ⟨ts₁, s₁, ts₂, s₂, Run.start.execFrom ls₁ hr₁, hrun₂, hP⟩

/-- A run split at one of its steps, as `Run.of_append_cons` takes it. -/
theorem split_of_getElem? {ts : List (Transition σ ε ω)} {t : Transition σ ε ω} {k : ℕ}
    (ht : t ∈ ts[k]?) : ts = ts.take k ++ t :: ts.drop (k + 1) := by
  obtain ⟨hlt, rfl⟩ := List.getElem?_eq_some_iff.1 ht
  rw [List.cons_getElem_drop_succ, List.take_append_drop]

end Machine
