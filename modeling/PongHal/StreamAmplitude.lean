/-
# Which amplitude an effect is played at (`Vibrator.cpp`)

`setAmplitude` is meant for the vibration that `on` starts, and `perform` sets the
driver's amplitude back to `0xFF` before it plays.  It does so only if `sLastMode` still
says that a `setAmplitude` was the last call, and `on` overwrites that: after
`setAmplitude`, `on`, `perform` the effect is played at the amplitude of the stream.

`Account` is what holds along every run in which the driver takes all calls.
`amplitude_restored_iff`: an effect is played at the amplitude that `perform` has set
exactly if no `on` was the first to follow the last `setAmplitude`.
-/
import Mathlib.Data.List.DropRight
import PongHal.Vibrator

namespace Vibration

/-! ## The calls that matter -/

namespace VibratorLabel

/-- A call of `setAmplitude`. -/
def isSetAmplitude : VibratorLabel → Bool
  | .call (.setAmplitude _) _ => true
  | _ => false

/-- A call of `on`. -/
def isOn : VibratorLabel → Bool
  | .call (.on _ _) _ => true
  | _ => false

/-- No driver call fails in the step. -/
def succeeds : VibratorLabel → Bool
  | .tick _ => true
  | .call _ r =>
      decide (r.off = 0) && decide (r.looperOn ≥ 0) && decide (r.looperPrebakedEffect ≥ 0) &&
        decide (r.setAmplitude = 0)

end VibratorLabel

/-- Of the calls since the last `setAmplitude`, the first that is an `on` or plays an
effect. -/
def firstSince (ts : List VibratorTransition) : Option VibratorTransition :=
  (ts.rtakeWhile fun t => !t.label.isSetAmplitude).find? fun t => t.label.isOn || t.label.plays

/-- The calls include a `setAmplitude`. -/
def HasStream (ts : List VibratorTransition) : Prop := ∃ t ∈ ts, t.label.isSetAmplitude = true

instance (ts : List VibratorTransition) : Decidable (HasStream ts) :=
  inferInstanceAs (Decidable (∃ t ∈ ts, _))

/-- Who has set the driver's amplitude: a `setAmplitude` of the client, or a `perform`. -/
inductive AmplitudeSetter
  | client
  | perform
  deriving DecidableEq, Repr

/-- The amplitude that the driver is given. -/
def VibratorObservation.amplitude : VibratorObservation → Option UInt8
  | .driver (.setAmplitude amplitude) => some amplitude
  | _ => none

/-- The amplitudes set in a step. -/
def VibratorTransition.amplitudes (t : VibratorTransition) : List (AmplitudeSetter × UInt8) :=
  (t.out.filterMap VibratorObservation.amplitude).map fun amplitude =>
    (if t.label.isSetAmplitude then .client else .perform, amplitude)

/-- The amplitudes set in a run; the driver has the last one. -/
def amplitudes (ts : List VibratorTransition) : List (AmplitudeSetter × UInt8) :=
  ts.flatMap VibratorTransition.amplitudes

section Lists

variable (ts : List VibratorTransition) (t : VibratorTransition)

theorem firstSince_append_singleton :
    firstSince (ts ++ [t]) =
      if t.label.isSetAmplitude then none
      else (firstSince ts).or (if t.label.isOn || t.label.plays then some t else none) := by
  unfold firstSince
  rw [List.rtakeWhile_concat]
  cases hset : t.label.isSetAmplitude with
  | true => simp
  | false =>
      simp only [Bool.not_false, if_true, Bool.false_eq_true, if_false]
      rw [List.find?_append, List.find?_singleton]

theorem hasStream_append_singleton :
    HasStream (ts ++ [t]) ↔ HasStream ts ∨ t.label.isSetAmplitude = true := by
  simp [HasStream, or_and_right, exists_or]

theorem amplitudes_append_singleton :
    amplitudes (ts ++ [t]) = amplitudes ts ++ t.amplitudes := by
  simp [amplitudes, List.flatMap_append]

end Lists

/-! ## The steps -/

/-- What a call does to the mode and to the amplitude when the driver takes all its
calls. -/
inductive AmplitudeStep : VibratorTransition → Prop
  | stream {t : VibratorTransition} (amplitude : UInt8) (hset : t.label.isSetAmplitude = true)
      (hmode : t.post.vibrator.sLastMode = .stream)
      (hdriver : t.amplitudes = [(.client, amplitude)]) : AmplitudeStep t
  | on {t : VibratorTransition} (hset : t.label.isSetAmplitude = false)
      (hon : t.label.isOn = true) (hmode : t.post.vibrator.sLastMode ≠ .stream)
      (hdriver : t.amplitudes = []) : AmplitudeStep t
  | plays {t : VibratorTransition} (hset : t.label.isSetAmplitude = false)
      (hon : t.label.isOn = false) (hplays : t.label.plays = true)
      (hmode : t.post.vibrator.sLastMode ≠ .stream)
      (hdriver : t.amplitudes =
        if t.pre.vibrator.sLastMode = .stream then [(.perform, 0xFF)] else []) : AmplitudeStep t
  | quiet {t : VibratorTransition} (hset : t.label.isSetAmplitude = false)
      (hon : t.label.isOn = false) (hplays : t.label.plays = false)
      (hmode : t.post.vibrator.sLastMode = t.pre.vibrator.sLastMode)
      (hdriver : t.amplitudes = []) : AmplitudeStep t

@[simp] theorem amplitude_completion (hasCallback : Bool) (ret : Int32) :
    (completion hasCallback ret).filterMap VibratorObservation.amplitude = [] := by
  unfold completion
  split <;> rfl

namespace Vibrator

variable (v : Vibrator) (r : DriverReplies)

/-- `on` sets no amplitude, and the mode after it is another one. -/
theorem on_amplitude (timeoutMs : Int32) (hasCallback : Bool) (hok : r.looperOn ≥ 0) :
    (v.on timeoutMs hasCallback r).2.filterMap VibratorObservation.amplitude = [] ∧
      (v.on timeoutMs hasCallback r).1.sLastMode ≠ .stream := by
  unfold on
  simp only
  rw [if_neg (show ¬ r.looperOn < 0 from Int32.not_lt.2 hok)]
  split_ifs <;> refine ⟨?_, by simp⟩ <;>
    simp only [List.filterMap_append, amplitude_completion] <;> rfl

/-- To play an effect sets no amplitude either. -/
theorem play_amplitude (effectId : UInt32) (strength : Int32) (hasCallback : Bool) (now : ℤ)
    (hok : r.looperPrebakedEffect ≥ 0) :
    (v.play effectId strength hasCallback r now).2.filterMap VibratorObservation.amplitude = [] ∧
      (v.play effectId strength hasCallback r now).1.sLastMode ≠ .stream := by
  unfold play
  simp only
  rw [if_neg (show ¬ r.looperPrebakedEffect < 0 from Int32.not_lt.2 hok)]
  split_ifs <;> refine ⟨?_, by simp⟩ <;>
    simp only [List.filterMap_append, amplitude_completion] <;> rfl

end Vibrator

theorem amplitudeStep_of_takes {t : VibratorTransition} (h : vibratorMachine.Takes t)
    (hok : t.label.succeeds = true) : AmplitudeStep t := by
  cases vibratorStep_of_takes h with
  | ticked s millis => exact .quiet rfl rfl rfl rfl rfl
  | called s c r =>
      simp only [VibratorLabel.succeeds, Bool.and_eq_true, decide_eq_true_eq] at hok
      obtain ⟨⟨⟨-, hlooperOn⟩, hprebaked⟩, hset⟩ := hok
      cases c with
      | off => exact .quiet rfl rfl rfl rfl rfl
      | setAmplitude tmp =>
          refine .stream tmp rfl ?_ ?_
          · simp [Vibrator.handle, Vibrator.setAmplitude, hset]
          · simp [VibratorTransition.amplitudes, Vibrator.handle, Vibrator.setAmplitude, hset,
              VibratorLabel.isSetAmplitude, VibratorObservation.amplitude]
      | on timeoutMs hasCallback =>
          obtain ⟨hnone, hmode⟩ := s.vibrator.on_amplitude r timeoutMs hasCallback hlooperOn
          refine .on rfl rfl hmode ?_
          rw [VibratorTransition.amplitudes]
          exact List.map_eq_nil_iff.2 hnone
      | perform effect es hasCallback =>
          rcases s.vibrator.perform_cases r s.now effect es hasCallback with
            ⟨hrefused, hperform⟩ | ⟨strength, effectId, haccepts, hperform⟩
          · refine .quiet rfl rfl ?_ ?_ ?_
            · simp [VibratorLabel.plays, VibratorCall.plays, hrefused]
            · simp [Vibrator.handle, hperform]
            · simp [VibratorTransition.amplitudes, Vibrator.handle, hperform,
                VibratorObservation.amplitude]
          · obtain ⟨hnone, hmode⟩ :=
              s.vibrator.play_amplitude r effectId strength hasCallback s.now hprebaked
            refine .plays rfl rfl ?_ ?_ ?_
            · simp [VibratorLabel.plays, VibratorCall.plays, haccepts]
            · simpa [Vibrator.handle, hperform] using hmode
            · simp only [VibratorTransition.amplitudes, Vibrator.handle, hperform,
                List.filterMap_append, hnone, List.append_nil, Vibrator.restore]
              by_cases hstream : s.vibrator.sLastMode = .stream
              · rw [if_pos hstream, if_pos hstream]
                rfl
              · rw [if_neg hstream, if_neg hstream]
                rfl

/-! ## Runs -/

/-- The mode tells whether nothing that overwrites it has followed the last
`setAmplitude`.  If so the driver has the amplitude of that call; otherwise it has that
of a `perform` exactly if a `perform` came first. -/
structure Account (ts : List VibratorTransition) (v : Vibrator) : Prop where
  stream : v.sLastMode = .stream ↔ HasStream ts ∧ firstSince ts = none
  fresh : HasStream ts → firstSince ts = none →
    ∃ amplitude, (amplitudes ts).getLast? = some (.client, amplitude)
  first : HasStream ts → ∀ t ∈ firstSince ts,
    ((amplitudes ts).getLast? = some (.perform, 0xFF) ↔ t.label.isOn = false)

/-- After an `on`, or after an effect, the mode is another one; the amplitude is accounted
for by the first of these calls. -/
theorem account_of_decided {ts : List VibratorTransition} {t : VibratorTransition} {v : Vibrator}
    (hset : t.label.isSetAmplitude = false) (hdecides : (t.label.isOn || t.label.plays) = true)
    (hmode : v.sLastMode ≠ .stream)
    (hdriver : HasStream ts → ∀ u ∈ (firstSince ts).or (some t),
      ((amplitudes (ts ++ [t])).getLast? = some (.perform, 0xFF) ↔ u.label.isOn = false)) :
    Account (ts ++ [t]) v := by
  have hfirst : firstSince (ts ++ [t]) = (firstSince ts).or (some t) := by
    simp [firstSince_append_singleton, hset, hdecides]
  have hhas : HasStream (ts ++ [t]) ↔ HasStream ts := by
    simp [hasStream_append_singleton, hset]
  have hsome : firstSince (ts ++ [t]) ≠ none := by
    rw [hfirst]
    intro hnone
    cases (Option.or_eq_none_iff.1 hnone).2
  constructor
  · exact iff_of_false hmode fun hstream => hsome hstream.2
  · intro _ hnone
    exact absurd hnone hsome
  · rw [hhas, hfirst]
    exact hdriver

theorem account_step {ts : List VibratorTransition} {t : VibratorTransition}
    (h : vibratorMachine.Takes t) (hok : t.label.succeeds = true)
    (hpre : Account ts t.pre.vibrator) : Account (ts ++ [t]) t.post.vibrator := by
  cases amplitudeStep_of_takes h hok with
  | stream amplitude hset hmode hdriver =>
      have hnone : firstSince (ts ++ [t]) = none := by
        rw [firstSince_append_singleton, if_pos hset]
      constructor
      · exact iff_of_true hmode ⟨(hasStream_append_singleton ts t).2 (.inr hset), hnone⟩
      · intro _ _
        exact ⟨amplitude, by simp [amplitudes_append_singleton, hdriver]⟩
      · simp [hnone]
  | on hset hon hmode hdriver =>
      refine account_of_decided hset (by rw [hon, Bool.true_or]) hmode ?_
      rw [amplitudes_append_singleton, hdriver, List.append_nil]
      intro hstream u hu
      cases hold : firstSince ts with
      | some u' =>
          rw [hold, Option.some_or] at hu
          exact hpre.first hstream u (hold.trans hu)
      | none =>
          -- the amplitude is that of the client, and stays so
          obtain ⟨amplitude, hclient⟩ := hpre.fresh hstream hold
          rw [hold, Option.none_or] at hu
          obtain rfl := Option.some.inj hu
          rw [hclient, hon]
          simp
  | plays hset hon hplays hmode hdriver =>
      refine account_of_decided hset (by rw [hplays, Bool.or_true]) hmode ?_
      rw [amplitudes_append_singleton, hdriver]
      intro hstream u hu
      cases hold : firstSince ts with
      | some u' =>
          have hother : t.pre.vibrator.sLastMode ≠ .stream := by
            intro hmode
            have hnone := (hpre.stream.1 hmode).2
            rw [hold] at hnone
            cases hnone
          rw [hold, Option.some_or] at hu
          rw [if_neg hother, List.append_nil]
          exact hpre.first hstream u (hold.trans hu)
      | none =>
          -- the mode still says stream, so the amplitude is set back
          rw [hold, Option.none_or] at hu
          obtain rfl := Option.some.inj hu
          rw [if_pos (hpre.stream.2 ⟨hstream, hold⟩), hon]
          simp
  | quiet hset hon hplays hmode hdriver =>
      have hfirst : firstSince (ts ++ [t]) = firstSince ts := by
        simp [firstSince_append_singleton, hset, hon, hplays]
      have hhas : HasStream (ts ++ [t]) ↔ HasStream ts := by
        simp [hasStream_append_singleton, hset]
      have hdrives : amplitudes (ts ++ [t]) = amplitudes ts := by
        simp [amplitudes_append_singleton, hdriver]
      constructor
      · rw [hmode, hhas, hfirst]
        exact hpre.stream
      · rw [hhas, hfirst, hdrives]
        exact hpre.fresh
      · rw [hhas, hfirst, hdrives]
        exact hpre.first

theorem account_of_run {now : ℤ} {ts : List VibratorTransition} {s : VibratorState}
    (hrun : vibratorMachine.Run (.boot now) ts s) (hok : ∀ t ∈ ts, t.label.succeeds = true) :
    Account ts s.vibrator := by
  refine hrun.history_of_guard (G := fun t => t.label.succeeds = true)
    (I := fun ts s => Account ts s.vibrator) ?_ ?_ hok
  · constructor
    · simp [VibratorState.boot, Vibrator.init, HasStream]
    · simp [HasStream]
    · simp [HasStream]
  · intro ts t _ hstep hg hpre
    exact account_step hstep hg hpre

/-- **Exactly when an effect is played at the full amplitude.**  In a run in which all
driver calls succeed, a `perform` that plays an effect after a `setAmplitude` plays it at
the amplitude `0xFF` that a `perform` has set since, if and only if the first call to
follow the last `setAmplitude`, of those that are an `on` or play an effect, was no
`on`. -/
theorem amplitude_restored_iff {now : ℤ} {ts : List VibratorTransition} {s : VibratorState}
    (hrun : vibratorMachine.Run (.boot now) ts s) (hok : ∀ t ∈ ts, t.label.succeeds = true) :
    ∀ before t after, ts = before ++ t :: after → t.label.plays = true → HasStream before →
      ((amplitudes (before ++ [t])).getLast? = some (.perform, 0xFF) ↔
        ∀ u ∈ firstSince before, u.label.isOn = false) := by
  intro before t after hts hplays hstream
  obtain ⟨hbefore, hstep, -⟩ := Machine.Run.of_append_cons (hts ▸ hrun)
  have hok' : ∀ u ∈ before ++ [t], u.label.succeeds = true := by
    intro u hu
    refine hok u ?_
    rw [hts, List.append_cons]
    exact List.mem_append_left _ hu
  have hall := account_of_run (hbefore.next hstep) hok'
  have hset : t.label.isSetAmplitude = false ∧ t.label.isOn = false := by
    cases hlabel : t.label with
    | tick millis => exact ⟨rfl, rfl⟩
    | call c r =>
        rw [hlabel] at hplays
        cases c with
        | perform effect es hasCallback => exact ⟨rfl, rfl⟩
        | _ => exact Bool.noConfusion hplays
  have hfirst : firstSince (before ++ [t]) = (firstSince before).or (some t) := by
    simp [firstSince_append_singleton, hset, hplays]
  have hhas : HasStream (before ++ [t]) := (hasStream_append_singleton before t).2 (.inl hstream)
  cases hold : firstSince before with
  | some u =>
      rw [hall.first hhas u (by rw [hfirst, hold]; rfl)]
      simp
  | none =>
      rw [hall.first hhas t (by rw [hfirst, hold]; rfl)]
      simp [hset]

/-- An effect right after `setAmplitude` is played at the full amplitude, and so is the
next one after an `on`. -/
theorem amplitude_restored_iff_perform :
    ∃ (ts : List VibratorTransition) (s : VibratorState),
      vibratorMachine.Run (.boot 1000) ts s ∧
      ∃ before t after, ts = before ++ t :: after ∧ t.label.plays = true ∧ HasStream before ∧
        before.length = 3 ∧ (amplitudes (before ++ [t])).getLast? = some (.perform, 0xFF) := by
  have hplayed : ∃ (ts : List VibratorTransition) (s : VibratorState),
      vibratorMachine.Run (.boot 1000) ts s ∧ (∀ t ∈ ts, t.label.succeeds = true) ∧
      ts.length = 4 ∧ HasStream (ts.take 3) ∧ (∀ u ∈ firstSince (ts.take 3), u.label.isOn = false) ∧
      ∃ t ∈ ts[3]?, t.label.plays = true :=
    Machine.exists_run_of_exec
      [.call (.setAmplitude 0x40) .good, .call (.perform click .medium false) .good,
        .call (.on 500 false) .good, .call (.perform click .medium false) .good] (by decide)
  obtain ⟨ts, s, hrun, hok, hlength, hstream, hfirst, t, ht, hplays⟩ := hplayed
  have hsplit : ts = ts.take 3 ++ t :: ts.drop 4 := Machine.split_of_getElem? ht
  exact ⟨ts, s, hrun, ts.take 3, t, ts.drop 4, hsplit, hplays, hstream, by simp [hlength],
    (amplitude_restored_iff hrun hok _ t _ hsplit hplays hstream).2 hfirst⟩

/-- After `setAmplitude` and `on` the effect is played at the amplitude of the client. -/
theorem amplitude_left_over :
    ∃ (ts : List VibratorTransition) (s : VibratorState),
      vibratorMachine.Run (.boot 1000) ts s ∧ (∀ t ∈ ts, t.label.succeeds = true) ∧
      ts.getLast?.map (·.out) = some [.driver (.looperPrebakedEffect 0x3008 100),
        .returned .ok (some 18)] ∧
      amplitudes ts = [(.client, 0x40)] :=
  Machine.exists_run_of_exec
    [.call (.setAmplitude 0x40) .good, .call (.on 100 false) .good,
      .call (.perform click .medium false) .good] (by decide)

end Vibration
