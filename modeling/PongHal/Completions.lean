/-
# The threads that call `onComplete` (`Vibrator.cpp`)

A call of `on` or `perform` that the driver has taken leaves a detached thread behind, which
sleeps for as long as the driver said the vibration lasts and then calls `onComplete` of the
client's callback.  Nothing wakes it earlier, `off` in particular does not, and no thread
knows of another.

`completionMachine` has the threads beside the HAL, on a clock of microseconds;
`vibrator_run_of_completionRun` : with the threads left out, its runs are those of
`vibratorMachine`.

* `completions_accounted` : the calls taken with a callback are, one by one, those whose
  `onComplete` was called and those whose thread still sleeps;
* `onComplete_after` : a thread that calls `onComplete` is that of an earlier call, and the
  time it sleeps has gone by since;
* `onComplete_in_time_iff` : this is what the driver said exactly for up to 4294967 ms, as the
  thread multiplies by 1000 in 32 bits.
-/
import PongHal.Vibrator

namespace Vibration

/-! ## The threads -/

/-- A thread for `onComplete`: the callback, the time of the call, and what the driver
returned. -/
structure Completion where
  callback : ℕ
  since : ℕ
  lengthMs : Int32
  deriving DecidableEq, Repr

/-- `usleep(ret * 1000)`: the product has the 32 bits of an `int`, of which a longer one is
taken to wrap, and becomes a `useconds_t`. -/
def sleepMicros (ret : Int32) : ℕ := (ret * 1000).toUInt32.toNat

/-- From when on the thread may be awake. -/
def Completion.due (c : Completion) : ℕ := c.since + sleepMicros c.lengthMs

/-- The HAL, the threads that sleep, and the clock, in microseconds. -/
structure CompletionState where
  vibrator : Vibrator
  sleeping : List Completion
  now : ℕ
  deriving DecidableEq, Repr

/-- What can be seen of a step. -/
inductive CompletionObservation
  | vibrator (o : VibratorObservation)
  | onComplete (callback : ℕ)
  deriving DecidableEq, Repr

/-- The steps: time goes by, there is a call, with the callback of the client, or the `k`-th
sleeping thread wakes up. -/
inductive CompletionLabel
  | tick (micros : ℕ)
  | call (call : VibratorCall) (replies : DriverReplies) (callback : ℕ)
  | wake (k : ℕ)
  deriving DecidableEq, Repr

/-- The thread that is started when this is seen. -/
def VibratorObservation.thread (callback now : ℕ) : VibratorObservation → Option Completion
  | .completesAfter ret => some ⟨callback, now, ret⟩
  | .driver _ | .returned _ _ => none

namespace CompletionState

/-- The HAL is started at time `now`. -/
def boot (now : ℕ) : CompletionState := ⟨.init, [], now⟩

/-- `nowMs`. -/
def nowMs (s : CompletionState) : ℕ := s.now / 1000

/-- One step. -/
def step (s : CompletionState) :
    CompletionLabel → Option (CompletionState × List CompletionObservation)
  | .tick micros => some ({ s with now := s.now + micros }, [])
  | .call call replies callback =>
      let r := s.vibrator.handle call replies s.nowMs
      some ({ s with
          vibrator := r.1
          sleeping := s.sleeping ++ r.2.filterMap (VibratorObservation.thread callback s.now) },
        r.2.map .vibrator)
  | .wake k =>
      match s.sleeping[k]? with
      | none => none
      | some c =>
          if s.now < c.due then none
          else some ({ s with sleeping := s.sleeping.eraseIdx k }, [.onComplete c.callback])

/-- The HAL without the threads, on its clock of milliseconds. -/
def hal (s : CompletionState) : VibratorState := ⟨s.vibrator, s.nowMs⟩

end CompletionState

/-- The machine of the HAL with the threads. -/
def completionMachine : Machine CompletionState CompletionLabel CompletionObservation where
  step := CompletionState.step

/-- A step of a run. -/
abbrev CompletionTransition :=
  Transition CompletionState CompletionLabel CompletionObservation

/-- The steps, one constructor for each kind. -/
inductive CompletionStep : CompletionTransition → Prop
  | ticked (s : CompletionState) (micros : ℕ) :
      CompletionStep ⟨s, .tick micros, [], { s with now := s.now + micros }⟩
  | called (s : CompletionState) (c : VibratorCall) (r : DriverReplies) (callback : ℕ) :
      CompletionStep ⟨s, .call c r callback, (s.vibrator.handle c r s.nowMs).2.map .vibrator,
        { s with
          vibrator := (s.vibrator.handle c r s.nowMs).1
          sleeping := s.sleeping ++ (s.vibrator.handle c r s.nowMs).2.filterMap
            (VibratorObservation.thread callback s.now) }⟩
  | woken (s : CompletionState) {k : ℕ} {c : Completion} (hat : s.sleeping[k]? = some c)
      (hdue : c.due ≤ s.now) :
      CompletionStep ⟨s, .wake k, [.onComplete c.callback],
        { s with sleeping := s.sleeping.eraseIdx k }⟩

/-- Every step of the machine is one of these. -/
theorem completionStep_of_takes {t : CompletionTransition} (h : completionMachine.Takes t) :
    CompletionStep t := by
  obtain ⟨s, l, out, s'⟩ := t
  have hstep : s.step l = some (s', out) := h
  cases l with
  | tick micros =>
      obtain ⟨rfl, rfl⟩ := Prod.mk.inj (Option.some.inj hstep)
      exact .ticked s micros
  | call c r callback =>
      obtain ⟨rfl, rfl⟩ := Prod.mk.inj (Option.some.inj hstep)
      exact .called s c r callback
  | wake k =>
      simp only [CompletionState.step] at hstep
      split at hstep
      · cases hstep
      · rename_i c hat
        split at hstep
        · cases hstep
        · rename_i hdue
          obtain ⟨rfl, rfl⟩ := Prod.mk.inj (Option.some.inj hstep)
          exact .woken s hat (not_lt.1 hdue)

/-! ## Without the threads -/

/-- The step as one of the HAL alone: the clock of milliseconds shows some of the time, and a
thread that wakes up does not touch the HAL. -/
def CompletionTransition.halPart (t : CompletionTransition) : Option VibratorTransition :=
  match t.label with
  | .tick _ => some ⟨t.pre.hal, .tick (t.post.nowMs - t.pre.nowMs), [], t.post.hal⟩
  | .call c r _ =>
      some ⟨t.pre.hal, .call c r, (t.pre.vibrator.handle c r t.pre.nowMs).2, t.post.hal⟩
  | .wake _ => none

theorem halPart_step {t : CompletionTransition} (hstep : completionMachine.Takes t) :
    Machine.PartStep vibratorMachine t.pre.hal t.halPart t.post.hal := by
  cases completionStep_of_takes hstep with
  | ticked s micros =>
      refine .takes ⟨s.hal, _, _, _⟩ ?_
      have hle : s.nowMs ≤ (s.now + micros) / 1000 := Nat.div_le_div_right (Nat.le_add_right _ _)
      have hclock : ((s.nowMs : ℤ) + ((s.now + micros) / 1000 - s.nowMs : ℕ)) =
          ((s.now + micros) / 1000 : ℕ) := by
        rw [← Nat.cast_add, Nat.add_sub_cancel' hle]
      show some ({ s.hal with now := (s.nowMs : ℤ) + ((s.now + micros) / 1000 - s.nowMs : ℕ) }, _) =
        _
      rw [hclock]
      rfl
  | called s c r callback => exact .takes ⟨s.hal, _, _, _⟩ rfl
  | woken s hat hdue => exact .quiet s.hal

/-- With the threads left out, a run is one of the HAL alone. -/
theorem vibrator_run_of_completionRun {ts : List CompletionTransition} {s : CompletionState}
    {now : ℕ} (hrun : completionMachine.Run (.boot now) ts s) :
    vibratorMachine.Run (.boot (now / 1000 : ℕ)) (ts.filterMap CompletionTransition.halPart)
      s.hal :=
  hrun.project fun _ hstep => halPart_step hstep

/-! ## What a call starts -/

/-- The call has a callback. -/
def VibratorCall.hasCallback : VibratorCall → Bool
  | .on _ hasCallback | .perform _ _ hasCallback => hasCallback
  | .off | .setAmplitude _ => false

/-- What the driver says of the length of the vibration. -/
def VibratorCall.lengthMs (r : DriverReplies) : VibratorCall → Int32
  | .on timeoutMs _ =>
      if Vibrator.isShortPulse timeoutMs ∧ r.looperPrebakedEffect ≥ 0 then r.looperPrebakedEffect
      else r.looperOn
  | .perform _ _ _ => r.looperPrebakedEffect
  | .off | .setAmplitude _ => 0

/-- The result of the call is ok. -/
def VibratorObservation.isOk : VibratorObservation → Bool
  | .returned .ok _ => true
  | _ => false

/-- What is seen of a call: the driver is called, and the call is refused, or taken, which
starts the thread. -/
inductive Handled (c : VibratorCall) (r : DriverReplies) : List VibratorObservation → Prop
  | refused (calls : List DriverCall) {status : Status} (hstatus : status ≠ .ok) :
      Handled c r (calls.map .driver ++ [.returned status none])
  | taken (calls : List DriverCall) (lengthMs : Option Int32) :
      Handled c r (calls.map .driver ++ completion c.hasCallback (c.lengthMs r) ++
        [.returned .ok lengthMs])

namespace Vibrator

variable (v : Vibrator) (r : DriverReplies)

theorem handled_off : Handled .off r (v.off r).2 := by
  unfold off
  by_cases hret : r.off ≠ 0
  · rw [if_pos hret]
    exact .refused [.looperStopPerformHe, .off] (by decide)
  · rw [if_neg hret]
    exact .taken [.looperStopPerformHe, .off] none

theorem handled_on (timeoutMs : Int32) (hasCallback : Bool) :
    Handled (.on timeoutMs hasCallback) r (v.on timeoutMs hasCallback r).2 := by
  -- the driver's call for a short pulse
  obtain ⟨calls, hcalls⟩ : ∃ calls : List DriverCall, calls.map VibratorObservation.driver =
      if isShortPulse timeoutMs then [.driver (.looperPrebakedEffect 0x3007 150)] else [] := by
    by_cases hshort : isShortPulse timeoutMs = true
    · exact ⟨[.looperPrebakedEffect 0x3007 150], by rw [if_pos hshort]; rfl⟩
    · exact ⟨[], by rw [if_neg hshort]; rfl⟩
  unfold on
  simp only
  rw [← hcalls]
  by_cases hpulse : isShortPulse timeoutMs ∧ r.looperPrebakedEffect ≥ 0
  · have hlength : (VibratorCall.on timeoutMs hasCallback).lengthMs r = r.looperPrebakedEffect :=
      if_pos hpulse
    rw [if_pos hpulse, ← hlength]
    exact .taken calls none
  · have hlength : (VibratorCall.on timeoutMs hasCallback).lengthMs r = r.looperOn :=
      if_neg hpulse
    have hmap : calls.map VibratorObservation.driver ++ [.driver (.looperOn timeoutMs.toUInt32)] =
        (calls ++ [DriverCall.looperOn timeoutMs.toUInt32]).map .driver := by
      rw [List.map_append, List.map_singleton]
    rw [if_neg hpulse, hmap]
    by_cases hret : r.looperOn < 0
    · rw [if_pos hret]
      exact .refused _ (by decide)
    · rw [if_neg hret, ← hlength]
      exact .taken _ none

theorem handled_play (effect : Effect) (es : EffectStrength) (effectId : UInt32)
    (strength : Int32) (hasCallback : Bool) (now : ℤ) :
    Handled (.perform effect es hasCallback) r
      (v.restore ++ (v.play effectId strength hasCallback r now).2) := by
  -- the driver's calls before the effect is played
  obtain ⟨calls, hcalls⟩ : ∃ calls : List DriverCall, calls.map VibratorObservation.driver =
      v.restore ++ ((if v.isRapid now ∧ v.sRapidPerformCount + 1 ≥ rapidPerformDrainAfter then
        [.driver .looperStopPerformHe] else []) ++
        [.driver (.looperPrebakedEffect effectId strength)]) := by
    unfold restore
    split_ifs
    · exact ⟨[.setAmplitude 0xFF, .looperStopPerformHe, .looperPrebakedEffect effectId strength],
        rfl⟩
    · exact ⟨[.setAmplitude 0xFF, .looperPrebakedEffect effectId strength], rfl⟩
    · exact ⟨[.looperStopPerformHe, .looperPrebakedEffect effectId strength], rfl⟩
    · exact ⟨[.looperPrebakedEffect effectId strength], rfl⟩
  unfold play
  simp only
  by_cases hret : r.looperPrebakedEffect < 0
  · rw [if_pos hret, ← List.append_assoc, ← hcalls]
    exact .refused calls (by decide)
  · rw [if_neg hret, ← List.append_assoc, ← List.append_assoc, ← hcalls]
    exact .taken calls _

/-- A call is refused or taken. -/
theorem handled_handle (c : VibratorCall) (now : ℤ) : Handled c r (v.handle c r now).2 := by
  cases c with
  | off => exact v.handled_off r
  | on timeoutMs hasCallback => exact v.handled_on r timeoutMs hasCallback
  | perform effect es hasCallback =>
      show Handled _ r (v.perform effect es hasCallback r now).2
      rcases v.perform_cases r now effect es hasCallback with
        ⟨-, heq⟩ | ⟨strength, effectId, -, heq⟩
      · rw [heq]
        exact .refused [] (by decide)
      · rw [heq]
        exact v.handled_play r effect es effectId strength hasCallback now
  | setAmplitude tmp =>
      show Handled _ r (v.setAmplitude tmp r).2
      unfold setAmplitude
      by_cases hret : r.setAmplitude ≠ 0
      · rw [if_pos hret]
        exact .refused [_] (by decide)
      · rw [if_neg hret]
        exact .taken [_] none

end Vibrator

theorem any_isOk_map_driver (calls : List DriverCall) :
    (calls.map VibratorObservation.driver).any VibratorObservation.isOk = false := by
  rw [List.any_map, List.any_eq_false]
  intro call _
  exact Bool.false_ne_true

theorem filterMap_thread_map_driver (callback now : ℕ) (calls : List DriverCall) :
    (calls.map VibratorObservation.driver).filterMap (VibratorObservation.thread callback now) =
      [] := by
  rw [List.filterMap_map, List.filterMap_eq_nil_iff]
  intro call _
  rfl

/-- A thread is started exactly if the call has a callback and its result is ok. -/
theorem Handled.filterMap_thread {c : VibratorCall} {r : DriverReplies}
    {out : List VibratorObservation} (h : Handled c r out) (callback now : ℕ) :
    out.filterMap (VibratorObservation.thread callback now) =
      if c.hasCallback && out.any VibratorObservation.isOk then [⟨callback, now, c.lengthMs r⟩]
      else [] := by
  cases h with
  | refused calls hstatus =>
      rename_i status
      have hok : VibratorObservation.isOk (.returned status none) = false := by
        cases status with
        | ok => exact absurd rfl hstatus
        | serviceSpecific => rfl
        | unsupportedOperation => rfl
      rw [List.filterMap_append, filterMap_thread_map_driver, List.any_append,
        any_isOk_map_driver, List.any_cons, hok]
      simp [VibratorObservation.thread]
  | taken calls lengthMs =>
      rw [List.filterMap_append, List.filterMap_append, filterMap_thread_map_driver,
        List.any_append, List.any_cons]
      cases c.hasCallback with
      | false => simp [completion, VibratorObservation.thread]
      | true => simp [completion, VibratorObservation.thread, VibratorObservation.isOk]

/-! ## The account -/

/-- The result of a call is ok. -/
def CompletionObservation.isOk : CompletionObservation → Bool
  | .vibrator o => o.isOk
  | .onComplete _ => false

namespace CompletionTransition

variable (t : CompletionTransition)

/-- The threads of the calls that the step takes: one if it is a call with a callback and
its result is ok. -/
def accepted : List Completion :=
  match t.label with
  | .call c r callback =>
      if c.hasCallback && t.out.any CompletionObservation.isOk then
        [⟨callback, t.pre.now, c.lengthMs r⟩]
      else []
  | .tick _ | .wake _ => []

/-- The thread that wakes up. -/
def completed : List Completion :=
  match t.label with
  | .wake k => t.pre.sleeping[k]?.toList
  | .tick _ | .call _ _ _ => []

/-- The calls of `onComplete` in the step. -/
def onCompletes : List ℕ :=
  t.out.filterMap fun
    | .onComplete callback => some callback
    | .vibrator _ => none

end CompletionTransition

/-- One step: the threads asleep before and the one started are the one that woke up and
those asleep after. -/
theorem completion_step {t : CompletionTransition} (hstep : completionMachine.Takes t) :
    (t.completed ++ [] ++ t.post.sleeping).Perm (t.pre.sleeping ++ t.accepted) := by
  rw [List.append_nil]
  cases completionStep_of_takes hstep with
  | ticked s micros => simp [CompletionTransition.completed, CompletionTransition.accepted]
  | called s c r callback =>
      have hthread := (s.vibrator.handled_handle r c s.nowMs).filterMap_thread callback s.now
      have hany : ((s.vibrator.handle c r s.nowMs).2.map CompletionObservation.vibrator).any
          CompletionObservation.isOk =
            (s.vibrator.handle c r s.nowMs).2.any VibratorObservation.isOk := List.any_map
      unfold CompletionTransition.accepted
      simp only
      rw [hany, ← hthread]
      exact List.Perm.refl _
  | @woken s k c hat hdue =>
      obtain ⟨hlt, rfl⟩ := List.getElem?_eq_some_iff.1 hat
      unfold CompletionTransition.completed CompletionTransition.accepted
      simp only
      rw [hat, List.append_nil]
      exact List.getElem_cons_eraseIdx_perm hlt

/-- The calls of `onComplete` are those of the threads that wake up. -/
theorem onCompletes_of_takes {t : CompletionTransition} (hstep : completionMachine.Takes t) :
    t.onCompletes = t.completed.map (·.callback) := by
  cases completionStep_of_takes hstep with
  | ticked s micros => rfl
  | called s c r callback =>
      show List.filterMap _ (List.map _ _) = []
      rw [List.filterMap_map, List.filterMap_eq_nil_iff]
      intro o _
      rfl
  | woken s hat hdue => simp [CompletionTransition.onCompletes, CompletionTransition.completed, hat]

section Runs

variable {ts ts₁ ts₂ : List CompletionTransition} {t : CompletionTransition}
  {s₀ s : CompletionState} {now : ℕ}

/-- The threads of the calls taken are those that woke up and those that still sleep. -/
theorem completed_append_sleeping_perm (hrun : completionMachine.Run s₀ ts s) :
    (ts.flatMap CompletionTransition.completed ++ s.sleeping).Perm
      (s₀.sleeping ++ ts.flatMap CompletionTransition.accepted) := by
  have hperm : (ts.flatMap CompletionTransition.completed ++ ts.flatMap (fun _ => []) ++
      s.sleeping).Perm (s₀.sleeping ++ ts.flatMap CompletionTransition.accepted) :=
    hrun.perm_of_steps fun _ _ _ hstep => completion_step hstep
  rwa [List.flatMap_eq_nil_iff.2 fun _ _ => rfl, List.append_nil] at hperm

/-- **Every completion is accounted for.**  From any state on, whatever is called: the calls
of `onComplete` are those of the threads that have woken up; and these, with the threads that
still sleep, are the threads that slept at the beginning and one for each call with a callback
and an ok result.  In particular no call, not even `off`, takes a thread away. -/
theorem completions_accounted (hrun : completionMachine.Run s₀ ts s) :
    ts.flatMap CompletionTransition.onCompletes =
        (ts.flatMap CompletionTransition.completed).map (·.callback) ∧
      (ts.flatMap CompletionTransition.completed ++ s.sleeping).Perm
        (s₀.sleeping ++ ts.flatMap CompletionTransition.accepted) := by
  refine ⟨?_, completed_append_sleeping_perm hrun⟩
  rw [List.map_flatMap]
  refine List.flatMap_congr fun t ht => ?_
  obtain ⟨ts₁, ts₂, -, -, hstep⟩ := hrun.split_of_mem ht
  exact onCompletes_of_takes hstep

/-- The vibration is switched off at once; its end is told all the same. -/
theorem completions_accounted_off :
    ∃ (ts : List CompletionTransition) (s : CompletionState),
      completionMachine.Run (.boot 0) ts s ∧
        ts.flatMap CompletionTransition.onCompletes = [7] ∧
        ts.map (·.label) = [.call (.on 20 true) .good 7, .call .off .good 0, .tick 18000, .wake 0] ∧
        (ts.flatMap CompletionTransition.completed ++ s.sleeping).Perm
          ([] ++ ts.flatMap CompletionTransition.accepted) := by
  obtain ⟨ts, s, hrun, hcalls, hlabels⟩ :
      ∃ (ts : List CompletionTransition) (s : CompletionState),
        completionMachine.Run (.boot 0) ts s ∧
          ts.flatMap CompletionTransition.onCompletes = [7] ∧ ts.map (·.label) =
            [.call (.on 20 true) .good 7, .call .off .good 0, .tick 18000, .wake 0] :=
    Machine.exists_run_of_exec
      [.call (.on 20 true) .good 7, .call .off .good 0, .tick 18000, .wake 0] (by decide)
  exact ⟨ts, s, hrun, hcalls, hlabels, (completions_accounted hrun).2⟩

/-- A thread that wakes up has slept: it is that of an earlier call, and is due. -/
theorem onComplete_after (hrun : completionMachine.Run (.boot now) (ts₁ ++ t :: ts₂) s)
    {c : Completion} (hc : c ∈ t.completed) :
    (∃ t₀ ∈ ts₁, c ∈ t₀.accepted) ∧ c.due ≤ t.pre.now := by
  obtain ⟨hbefore, hstep, -⟩ := hrun.of_append_cons
  have hsleeping : c ∈ t.pre.sleeping ∧ c.due ≤ t.pre.now := by
    cases completionStep_of_takes hstep with
    | ticked s micros => cases hc
    | called s c' r callback => cases hc
    | @woken s k c' hat hdue =>
        have heq : c = c' := by simpa [CompletionTransition.completed, hat] using hc
        subst heq
        exact ⟨List.mem_of_getElem? hat, hdue⟩
  refine ⟨?_, hsleeping.2⟩
  have hmem : c ∈ ts₁.flatMap CompletionTransition.accepted :=
    (completed_append_sleeping_perm hbefore).subset (List.mem_append_right _ hsleeping.1)
  simpa [List.mem_flatMap] using hmem

end Runs

/-! ## The time asleep -/

/-- The product, reduced to 32 bits. -/
theorem sleepMicros_eq (ret : Int32) : (sleepMicros ret : ℤ) = ret.toInt * 1000 % (2 ^ 32 : ℕ) := by
  have hproduct : (ret * 1000).toInt % (2 ^ 32 : ℕ) = ret.toInt * 1000 % (2 ^ 32 : ℕ) := by
    rw [Int32.toInt_mul, Int.bmod_emod]
    rfl
  rw [← hproduct]
  show (((ret * 1000).toBitVec.toNat : ℕ) : ℤ) = (ret * 1000).toBitVec.toInt % (2 ^ 32 : ℕ)
  rw [BitVec.toInt_eq_toNat_bmod, Int.bmod_emod]
  have hlt := (ret * 1000).toBitVec.isLt
  omega

/-- The time asleep is what the driver said, in microseconds, if that fits. -/
theorem le_sleepMicros_iff {ret : Int32} : 1000 * ret.toInt ≤ sleepMicros ret ↔ ret ≤ 4294967 := by
  rw [sleepMicros_eq, Int32.le_iff_toInt_le]
  have hbound : (4294967 : Int32).toInt = 4294967 := by decide
  rw [hbound]
  omega

/-- A thread that is due can wake up. -/
theorem step_wake {s : CompletionState} {k : ℕ} {c : Completion} (hat : s.sleeping[k]? = some c)
    (hdue : c.due ≤ s.now) :
    completionMachine.step s (.wake k) =
      some ({ s with sleeping := s.sleeping.eraseIdx k }, [.onComplete c.callback]) := by
  show CompletionState.step s (.wake k) = _
  unfold CompletionState.step
  simp only
  rw [hat]
  exact if_neg (not_lt.2 hdue)

/-- Of a vibration of any length the end can be told as soon as its thread is due. -/
theorem exists_completed {ret : Int32} (hret : ¬ ret < 0) :
    ∃ (ts : List CompletionTransition) (s : CompletionState),
      completionMachine.Run (.boot 0) ts s ∧ ∃ t ∈ ts, ∃ c ∈ t.completed,
        c.lengthMs = ret ∧ c.since = 0 ∧ t.pre.now = sleepMicros ret := by
  have hcall : completionMachine.step (.boot 0) (.call (.on 1000 true) ⟨0, ret, 0, 0⟩ 0) =
      some (⟨{ Vibrator.init with sLastMode := .timeout }, [⟨0, 0, ret⟩], 0⟩,
        [.vibrator (.driver (.looperOn 1000)), .vibrator (.completesAfter ret),
          .vibrator (.returned .ok none)]) := by
    have hon : Vibrator.init.on 1000 true ⟨0, ret, 0, 0⟩ =
        ({ Vibrator.init with sLastMode := .timeout },
          [.driver (.looperOn 1000), .completesAfter ret, .returned .ok none]) := by
      show (if ret < 0 then _ else _) = _
      rw [if_neg hret]
      rfl
    show some (CompletionState.mk (Vibrator.init.on 1000 true ⟨0, ret, 0, 0⟩).1
      ([] ++ (Vibrator.init.on 1000 true ⟨0, ret, 0, 0⟩).2.filterMap
        (VibratorObservation.thread 0 0)) 0,
      (Vibrator.init.on 1000 true ⟨0, ret, 0, 0⟩).2.map CompletionObservation.vibrator) = _
    rw [hon]
    rfl
  have htick : ∀ s : CompletionState, completionMachine.step s (.tick (sleepMicros ret)) =
      some ({ s with now := s.now + sleepMicros ret }, []) := fun _ => rfl
  have hwake := step_wake (s := ⟨{ Vibrator.init with sLastMode := .timeout }, [⟨0, 0, ret⟩],
    0 + sleepMicros ret⟩) (k := 0) (c := ⟨0, 0, ret⟩) rfl le_rfl
  refine ⟨_, _, ((Machine.Run.start.next hcall).next (htick _)).next hwake, ?_⟩
  refine ⟨_, List.mem_append_right _ (List.mem_singleton_self _), ⟨0, 0, ret⟩, ?_, rfl, rfl, ?_⟩
  · exact List.mem_singleton_self _
  · exact Nat.zero_add _

/-- **In time.**  No thread calls `onComplete` before the vibration has lasted for as long as
the driver said, `ret` milliseconds, exactly if these are at most 4294967, little more than an
hour: of a longer vibration the client can be told the end too early. -/
theorem onComplete_in_time_iff (ret : Int32) :
    (∀ (now : ℕ) (ts : List CompletionTransition) (s : CompletionState),
      completionMachine.Run (.boot now) ts s → ∀ t ∈ ts, ∀ c ∈ t.completed, c.lengthMs = ret →
        (c.since : ℤ) + 1000 * ret.toInt ≤ t.pre.now) ↔ ret ≤ 4294967 := by
  constructor
  · intro hall
    by_contra hlong
    have hlength : ¬ ret < 0 := by
      intro hneg
      exact hlong (Int32.le_trans (Int32.le_of_lt hneg) (by decide))
    obtain ⟨ts, s, hrun, t, ht, c, hc, hret, hsince, hnow⟩ := exists_completed hlength
    have hearly := hall 0 ts s hrun t ht c hc hret
    rw [hsince, hnow, Nat.cast_zero, zero_add, le_sleepMicros_iff] at hearly
    exact hlong hearly
  · rintro hshort now ts s hrun t ht c hc rfl
    obtain ⟨ts₁, ts₂, rfl⟩ := List.append_of_mem ht
    have hdue := (onComplete_after hrun hc).2
    have hsleep := le_sleepMicros_iff.2 hshort
    unfold Completion.due at hdue
    omega

end Vibration
