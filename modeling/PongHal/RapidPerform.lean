/-
# When a burst of effects is drained (`Vibrator::perform`)

A `perform` less than 100 ms after the last one belongs to the same burst.  The HAL keeps
the time of the last one and how many in the burst came before it, and from the fourth on
it empties the library's queue before it plays.

`Counts` is what holds along every run: the two variables tell the last time and the
length of the present burst (`burst`), whatever the driver has returned.
`rapid_perform_drained_iff` reads off which calls drain.
-/
import PongHal.Vibrator

namespace Vibration

/-! ## Bursts -/

/-- The length of the burst that ends with the first of the times, the latest ones
first. -/
def burst : List ℤ → ℕ
  | [] => 0
  | [_] => 1
  | now :: last :: times =>
      if now - last < rapidPerformWindowMs then burst (last :: times) + 1 else 1

theorem burst_le_length (times : List ℤ) : burst times ≤ times.length := by
  induction times with
  | nil => exact le_rfl
  | cons now times ih =>
      cases times with
      | nil => exact le_rfl
      | cons last times =>
          rw [burst, List.length_cons]
          split
          · omega
          · omega

theorem burst_pos {times : List ℤ} (h : times ≠ []) : 0 < burst times := by
  match times, h with
  | [_], _ => exact one_pos
  | now :: last :: times, _ =>
      rw [burst]
      split
      · exact Nat.succ_pos _
      · exact one_pos

/-- One more time makes a burst longer by one, or begins a new one. -/
theorem lt_burst_cons_iff (now : ℤ) (times : List ℤ) {n : ℕ} (hn : 0 < n) :
    n < burst (now :: times) ↔
      ∃ last earlier, times = last :: earlier ∧ now - last < rapidPerformWindowMs ∧
        n ≤ burst times := by
  cases times with
  | nil =>
      constructor
      · intro h
        have hone : burst [now] = 1 := rfl
        omega
      · rintro ⟨last, earlier, htimes, -⟩
        cases htimes
  | cons last earlier =>
      rw [burst]
      constructor
      · intro h
        split at h
        · rename_i hclose
          exact ⟨last, earlier, rfl, hclose, by omega⟩
        · omega
      · rintro ⟨last', earlier', htimes, hclose, hlong⟩
        obtain ⟨rfl, rfl⟩ := List.cons.inj htimes
        rw [if_pos hclose]
        omega

/-- A burst is longer than three exactly if the last three gaps are short. -/
theorem three_lt_burst_iff (now : ℤ) (times : List ℤ) :
    3 < burst (now :: times) ↔
      ∃ t₁ t₂ t₃ earlier, times = t₁ :: t₂ :: t₃ :: earlier ∧
        now - t₁ < rapidPerformWindowMs ∧ t₁ - t₂ < rapidPerformWindowMs ∧
        t₂ - t₃ < rapidPerformWindowMs := by
  constructor
  · intro h
    obtain ⟨t₁, times₁, rfl, hclose₁, h₁⟩ := (lt_burst_cons_iff now times (by omega)).1 h
    obtain ⟨t₂, times₂, rfl, hclose₂, h₂⟩ := (lt_burst_cons_iff t₁ times₁ two_pos).1 h₁
    obtain ⟨t₃, times₃, rfl, hclose₃, -⟩ := (lt_burst_cons_iff t₂ times₂ one_pos).1 h₂
    exact ⟨t₁, t₂, t₃, times₃, rfl, hclose₁, hclose₂, hclose₃⟩
  · rintro ⟨t₁, t₂, t₃, earlier, rfl, hclose₁, hclose₂, hclose₃⟩
    have h₃ : 1 ≤ burst (t₃ :: earlier) := burst_pos (List.cons_ne_nil _ _)
    have h₂ := (lt_burst_cons_iff t₂ _ one_pos).2 ⟨t₃, earlier, rfl, hclose₃, h₃⟩
    have h₁ := (lt_burst_cons_iff t₁ _ two_pos).2 ⟨t₂, _, rfl, hclose₂, h₂⟩
    exact (lt_burst_cons_iff now _ three_pos).2 ⟨t₁, _, rfl, hclose₁, h₁⟩

/-! ## One call -/

/-- The queue is drained right before an effect is played. -/
def VibratorTransition.Drains (t : VibratorTransition) : Prop :=
  ∃ effectId strength,
    [.driver .looperStopPerformHe, .driver (.looperPrebakedEffect effectId strength)] <:+: t.out

namespace Vibrator

variable (v : Vibrator) (effectId : UInt32) (strength : Int32) (hasCallback : Bool)
  (r : DriverReplies) (now : ℤ)

/-- The two variables after an effect is played, whatever the driver returns. -/
theorem play_fst :
    (v.play effectId strength hasCallback r now).1.sLastPerformMs = now ∧
      (v.play effectId strength hasCallback r now).1.sRapidPerformCount =
        if v.isRapid now then v.sRapidPerformCount + 1 else 0 := by
  unfold play
  simp only
  split
  · exact ⟨rfl, rfl⟩
  · exact ⟨rfl, rfl⟩

/-- The queue is drained for a rapid call that is at least the third one. -/
theorem drains_play_iff :
    (∃ effectId' strength', [.driver .looperStopPerformHe,
        .driver (.looperPrebakedEffect effectId' strength')] <:+:
        v.restore ++ (v.play effectId strength hasCallback r now).2) ↔
      v.isRapid now = true ∧ v.sRapidPerformCount + 1 ≥ rapidPerformDrainAfter := by
  unfold play
  simp only
  by_cases hdrain : v.isRapid now = true ∧ v.sRapidPerformCount + 1 ≥ rapidPerformDrainAfter
  · rw [if_pos hdrain]
    refine iff_of_true ⟨effectId, strength, v.restore, ?_⟩ hdrain
    split
    · exact ⟨[.returned .serviceSpecific none], by simp⟩
    · exact ⟨completion hasCallback r.looperPrebakedEffect ++
        [.returned .ok (some r.looperPrebakedEffect)], by simp⟩
  · rw [if_neg hdrain]
    refine iff_of_false ?_ hdrain
    rintro ⟨effectId', strength', hinfix⟩
    have hstop := hinfix.subset List.mem_cons_self
    have hrestore : VibratorObservation.driver .looperStopPerformHe ∉ v.restore := by
      unfold restore
      split <;> simp
    have hcompletion : ∀ ret, VibratorObservation.driver .looperStopPerformHe ∉
        completion hasCallback ret := by
      intro ret
      unfold completion
      split <;> simp
    split at hstop
    · simp [hrestore] at hstop
    · simp [hrestore, hcompletion] at hstop

end Vibrator

/-! ## Runs -/

/-- The times of the calls that play an effect, in order. -/
def performTimes (ts : List VibratorTransition) : List ℤ :=
  (ts.filter fun t => t.label.plays).map fun t => t.pre.now

theorem performTimes_append_singleton (ts : List VibratorTransition) (t : VibratorTransition) :
    performTimes (ts ++ [t]) = performTimes ts ++ if t.label.plays then [t.pre.now] else [] := by
  cases hplays : t.label.plays <;> simp [performTimes, hplays]

/-- The static variables tell the last time, and how many calls of the present burst came
before the last one. -/
structure Counts (times : List ℤ) (v : Vibrator) : Prop where
  last : v.sLastPerformMs = times.headD 0
  count : v.sRapidPerformCount.toInt = (burst times - 1 : ℕ)

/-- A call is rapid exactly if it goes on with a burst, unless it comes right after the
boot. -/
theorem isRapid_iff {times : List ℤ} {v : Vibrator} {now : ℤ} (h : Counts times v)
    (hfirst : times = [] → 100 ≤ now) :
    v.isRapid now = true ↔ 1 < burst (now :: times) := by
  unfold Vibrator.isRapid
  rw [decide_eq_true_iff, h.last, lt_burst_cons_iff now times one_pos]
  cases times with
  | nil =>
      have hlate : 100 ≤ now := hfirst rfl
      refine iff_of_false ?_ ?_
      · show ¬ now - 0 < 100
        omega
      · rintro ⟨last, earlier, htimes, -⟩
        cases htimes
  | cons last earlier =>
      constructor
      · intro hclose
        exact ⟨last, earlier, rfl, hclose, burst_pos (List.cons_ne_nil _ _)⟩
      · rintro ⟨last', earlier', htimes, hclose, -⟩
        obtain ⟨rfl, rfl⟩ := List.cons.inj htimes
        exact hclose

/-- Where the call goes on with a burst, the burst gets longer by one. -/
theorem burst_cons_of_lt {now : ℤ} {times : List ℤ} (h : 1 < burst (now :: times)) :
    times ≠ [] ∧ burst (now :: times) = burst times + 1 := by
  obtain ⟨last, earlier, rfl, hclose, -⟩ := (lt_burst_cons_iff now times one_pos).1 h
  exact ⟨List.cons_ne_nil _ _, by rw [burst, if_pos hclose]⟩

/-- The counter does not overflow. -/
theorem toInt_count_add_one {times : List ℤ} {v : Vibrator} (h : Counts times v)
    (hfew : times.length + 1 < 2 ^ 31) :
    (v.sRapidPerformCount + 1).toInt = (burst times - 1 : ℕ) + 1 := by
  have hle := burst_le_length times
  rw [Int32.toInt_add, h.count]
  show Int.bmod ((burst times - 1 : ℕ) + 1) (2 ^ 32) = _
  exact Int.bmod_eq_of_le_mul_two (by omega) (by omega)

/-- One more effect that is played keeps the account. -/
theorem counts_play {times : List ℤ} {v : Vibrator} {now : ℤ} (h : Counts times v)
    (hfirst : times = [] → 100 ≤ now) (hfew : times.length + 1 < 2 ^ 31) (effectId : UInt32)
    (strength : Int32) (hasCallback : Bool) (r : DriverReplies) :
    Counts (now :: times) (v.play effectId strength hasCallback r now).1 := by
  obtain ⟨hlast, hcount⟩ := v.play_fst effectId strength hasCallback r now
  refine ⟨hlast, ?_⟩
  rw [hcount]
  split
  · rename_i hrapid
    obtain ⟨hne, hburst⟩ := burst_cons_of_lt ((isRapid_iff h hfirst).1 hrapid)
    have hpos := burst_pos hne
    rw [toInt_count_add_one h hfew, hburst]
    omega
  · rename_i hslow
    have hone := mt (isRapid_iff h hfirst).2 hslow
    show (0 : ℤ) = _
    omega

/-- The drain test, in terms of the burst. -/
theorem drain_iff {times : List ℤ} {v : Vibrator} {now : ℤ} (h : Counts times v)
    (hfirst : times = [] → 100 ≤ now) (hfew : times.length + 1 < 2 ^ 31) :
    (v.isRapid now = true ∧ v.sRapidPerformCount + 1 ≥ rapidPerformDrainAfter) ↔
      3 < burst (now :: times) := by
  rw [isRapid_iff h hfirst, ge_iff_le, Int32.le_iff_toInt_le, toInt_count_add_one h hfew]
  have hthree : rapidPerformDrainAfter.toInt = 3 := rfl
  constructor
  · rintro ⟨hrapid, hcount⟩
    obtain ⟨hne, hburst⟩ := burst_cons_of_lt hrapid
    have hpos := burst_pos hne
    omega
  · intro hlong
    obtain ⟨hne, hburst⟩ := burst_cons_of_lt (show 1 < burst (now :: times) by omega)
    have hpos := burst_pos hne
    omega

/-- All other calls leave the two variables as they are. -/
theorem handle_of_not_plays (v : Vibrator) {c : VibratorCall} (r : DriverReplies) (now : ℤ)
    (h : c.plays = false) :
    (v.handle c r now).1.sLastPerformMs = v.sLastPerformMs ∧
      (v.handle c r now).1.sRapidPerformCount = v.sRapidPerformCount := by
  cases c with
  | off => exact ⟨rfl, rfl⟩
  | on timeoutMs hasCallback =>
      simp only [Vibrator.handle, Vibrator.on]
      split_ifs <;> exact ⟨rfl, rfl⟩
  | setAmplitude tmp =>
      simp only [Vibrator.handle, Vibrator.setAmplitude]
      split_ifs <;> exact ⟨rfl, rfl⟩
  | perform effect es hasCallback =>
      rcases v.perform_cases r now effect es hasCallback with
        ⟨-, hperform⟩ | ⟨strength, effectId, haccepts, -⟩
      · rw [Vibrator.handle, hperform]
        exact ⟨rfl, rfl⟩
      · simp [VibratorCall.plays, haccepts] at h

/-- A call that plays an effect sets the amplitude back and plays. -/
theorem handle_of_plays (v : Vibrator) {c : VibratorCall} (r : DriverReplies) (now : ℤ)
    (h : c.plays = true) :
    ∃ effectId strength hasCallback, v.handle c r now =
      ((v.play effectId strength hasCallback r now).1,
        v.restore ++ (v.play effectId strength hasCallback r now).2) := by
  cases c with
  | perform effect es hasCallback =>
      rcases v.perform_cases r now effect es hasCallback with
        ⟨hrefused, -⟩ | ⟨strength, effectId, -, hperform⟩
      · simp [VibratorCall.plays, hrefused] at h
      · exact ⟨effectId, strength, hasCallback, hperform⟩
  | _ => exact Bool.noConfusion h

/-- The first call of all that plays comes late enough. -/
theorem late_of_head {times : List ℤ} {now : ℤ}
    (h : ∀ first ∈ (times ++ [now]).head?, 100 ≤ first) : times.reverse = [] → 100 ≤ now := by
  intro hnil
  rw [List.reverse_eq_nil_iff.1 hnil] at h
  exact h now rfl

/-- What the variables tell along a run. -/
theorem counts_of_run {now : ℤ} {ts : List VibratorTransition} {s : VibratorState}
    (hrun : vibratorMachine.Run (.boot now) ts s)
    (hfirst : ∀ first ∈ (performTimes ts).head?, 100 ≤ first)
    (hfew : (performTimes ts).length < 2 ^ 31) : Counts (performTimes ts).reverse s.vibrator := by
  refine hrun.history (I := fun ts s => (∀ first ∈ (performTimes ts).head?, 100 ≤ first) →
    (performTimes ts).length < 2 ^ 31 → Counts (performTimes ts).reverse s.vibrator)
    ?_ ?_ hfirst hfew
  · intro _ _
    exact ⟨rfl, rfl⟩
  · intro ts t _ hstep ih hfirst hfew
    rw [performTimes_append_singleton] at hfirst hfew ⊢
    cases hplays : t.label.plays with
    | false =>
        simp only [hplays, Bool.false_eq_true, if_false, List.append_nil] at hfirst hfew ⊢
        have hpre := ih hfirst hfew
        cases vibratorStep_of_takes hstep with
        | ticked s millis => exact hpre
        | called s c r =>
            obtain ⟨hlast, hcount⟩ := handle_of_not_plays s.vibrator r s.now hplays
            exact ⟨hlast.trans hpre.last, by rw [hcount]; exact hpre.count⟩
    | true =>
        simp only [hplays, if_true, List.length_append, List.length_singleton] at hfirst hfew ⊢
        rw [List.reverse_append, List.reverse_singleton, List.singleton_append]
        have hpre := ih (fun first hhead => hfirst first (by
          rw [List.head?_append, Option.mem_def.1 hhead]; rfl)) (by omega)
        cases vibratorStep_of_takes hstep with
        | ticked s millis => exact Bool.noConfusion hplays
        | called s c r =>
            obtain ⟨effectId, strength, hasCallback, hhandle⟩ :=
              handle_of_plays s.vibrator r s.now hplays
            show Counts _ (s.vibrator.handle c r s.now).1
            rw [hhandle]
            exact counts_play hpre (late_of_head hfirst) (by simpa using hfew) effectId strength
              hasCallback r

/-- **When `perform` drains the queue.**  In a run whose first effect is played 100 ms
after the clock began or later, and which plays fewer than `2 ^ 31`, a call that plays an
effect drains the queue before it if and only if it and the two calls before it each came
less than 100 ms after the one before: never for the first three calls of a burst, and
always for the others. -/
theorem rapid_perform_drained_iff {now : ℤ} {ts : List VibratorTransition} {s : VibratorState}
    (hrun : vibratorMachine.Run (.boot now) ts s)
    (hfirst : ∀ first ∈ (performTimes ts).head?, 100 ≤ first)
    (hfew : (performTimes ts).length < 2 ^ 31) :
    ∀ before t after, ts = before ++ t :: after → t.label.plays = true →
      (t.Drains ↔ ∃ t₁ t₂ t₃ earlier,
        (performTimes before).reverse = t₁ :: t₂ :: t₃ :: earlier ∧
          t.pre.now - t₁ < rapidPerformWindowMs ∧ t₁ - t₂ < rapidPerformWindowMs ∧
          t₂ - t₃ < rapidPerformWindowMs) ∧
      (t.Drains ↔ 3 < burst (t.pre.now :: (performTimes before).reverse)) := by
  intro before t after hts hplays
  rw [← three_lt_burst_iff, and_self]
  obtain ⟨hbefore, hstep, -⟩ := Machine.Run.of_append_cons (hts ▸ hrun)
  have hsplit : performTimes ts =
      performTimes before ++ t.pre.now :: performTimes after := by
    simp [hts, performTimes, hplays]
  rw [hsplit] at hfirst hfew
  rw [List.length_append, List.length_cons] at hfew
  have hlate : (performTimes before).reverse = [] → 100 ≤ t.pre.now := by
    refine late_of_head fun first hhead => hfirst first ?_
    rw [List.head?_append] at hhead ⊢
    exact hhead
  have hcounts := counts_of_run hbefore (fun first hhead => hfirst first (by
    rw [List.head?_append, Option.mem_def.1 hhead]; rfl)) (by omega)
  cases vibratorStep_of_takes hstep with
  | ticked s millis => exact Bool.noConfusion hplays
  | called s c r =>
      obtain ⟨effectId, strength, hasCallback, hhandle⟩ :=
        handle_of_plays s.vibrator r s.now hplays
      rw [← drain_iff hcounts hlate (by rw [List.length_reverse]; omega),
        ← s.vibrator.drains_play_iff effectId strength hasCallback r s.now]
      unfold VibratorTransition.Drains
      simp only [hhandle]

/-- Five effects 50 ms apart, of which the driver refuses the second: the last two calls
drain. -/
theorem rapid_perform_drained_iff_burst :
    ∃ (ts : List VibratorTransition) (s : VibratorState),
      vibratorMachine.Run (.boot 1000) ts s ∧ performTimes ts = [1000, 1050, 1100, 1150, 1200] ∧
      ∃ before t after, ts = before ++ t :: after ∧ performTimes before = [1000, 1050, 1100] ∧
        t.Drains := by
  have hburst : ∃ (ts : List VibratorTransition) (s : VibratorState),
      vibratorMachine.Run (.boot 1000) ts s ∧ performTimes ts = [1000, 1050, 1100, 1150, 1200] ∧
      performTimes (ts.take 6) = [1000, 1050, 1100] ∧
      ∃ t ∈ ts[6]?, t.label.plays = true ∧ t.pre.now = 1150 :=
    Machine.exists_run_of_exec
      [.call (.perform click .light false) .good, .tick 50,
        .call (.perform click .light false) ⟨0, 0, -1, 0⟩, .tick 50,
        .call (.perform tick .strong true) .good, .tick 50,
        .call (.perform click .light false) .good, .tick 50,
        .call (.perform click .light false) .good] (by decide)
  obtain ⟨ts, s, hrun, htimes, hearlier, t, ht, hplays, hnow⟩ := hburst
  have hsplit : ts = ts.take 6 ++ t :: ts.drop 7 := Machine.split_of_getElem? ht
  refine ⟨ts, s, hrun, htimes, ts.take 6, t, ts.drop 7, hsplit, hearlier, ?_⟩
  refine (rapid_perform_drained_iff hrun (by simp [htimes]) (by simp [htimes])
    _ t _ hsplit hplays).2.2 ?_
  rw [hearlier, hnow]
  decide

end Vibration
