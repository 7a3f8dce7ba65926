/-
# The vibrator HAL (`Vibrator.cpp`)

The HAL passes the framework's calls on to the driver library, `aac_vibra`.  What it
keeps is in three static variables: the kind of the last call that went well
(`sLastMode`), so that `perform` can undo a `setAmplitude`; and the time of the last
`perform` and the number of those in quick succession, so that a long burst of them does
not pile up in the library's queue.

`vibratorMachine` has the calls as steps, with the values the driver returns and the time
of the call; what can be seen of a step are the driver's calls, the threads for
`onComplete` and the result.
-/
import PongHal.Machine

namespace Vibration

/-! ## The interface -/

/-- `Effect`, as a client passes it. -/
abbrev Effect := Int32

/-- `Effect::CLICK`. -/
def click : Effect := 0

/-- `Effect::DOUBLE_CLICK`. -/
def doubleClick : Effect := 1

/-- `Effect::TICK`. -/
def tick : Effect := 2

/-- `Effect::THUD`. -/
def thud : Effect := 3

/-- `Effect::POP`. -/
def pop : Effect := 4

/-- `Effect::HEAVY_CLICK`. -/
def heavyClick : Effect := 5

/-- `EffectStrength`; a client can pass other values than the three. -/
inductive EffectStrength
  | light
  | medium
  | strong
  | other (value : Int8)
  deriving DecidableEq, Repr

/-- How a call ends. -/
inductive Status
  | ok
  | serviceSpecific
  | unsupportedOperation
  deriving DecidableEq, Repr

/-- The calls of the driver library. -/
inductive DriverCall
  | looperStopPerformHe
  | off
  | looperOn (timeOut : UInt32)
  | looperPrebakedEffect (effectId : UInt32) (strength : Int32)
  | setAmplitude (amplitude : UInt8)
  deriving DecidableEq, Repr

/-- What the driver returns in one call of the HAL, for each of its functions whose value
is looked at. -/
structure DriverReplies where
  off : Int32
  looperOn : Int32
  looperPrebakedEffect : Int32
  setAmplitude : Int32
  deriving DecidableEq, Repr

/-- A driver that takes everything; the effect lasts 18 ms. -/
def DriverReplies.good : DriverReplies := ⟨0, 0, 18, 0⟩

/-- What can be seen of a call. -/
inductive VibratorObservation
  | driver (call : DriverCall)
  /-- A thread that calls `onComplete` after `millis`. -/
  | completesAfter (millis : Int32)
  | returned (status : Status) (lengthMs : Option Int32)
  deriving DecidableEq, Repr

/-! ## The HAL -/

/-- `vibrationMode`. -/
inductive VibrationMode
  | none
  | timeout
  | prebaked
  | stream
  deriving DecidableEq, Repr

/-- The static variables. -/
structure Vibrator where
  sLastMode : VibrationMode
  sLastPerformMs : ℤ
  sRapidPerformCount : Int32
  deriving DecidableEq, Repr

/-- `RAPID_PERFORM_WINDOW_MS`. -/
def rapidPerformWindowMs : ℤ := 100

/-- `RAPID_PERFORM_DRAIN_AFTER`. -/
def rapidPerformDrainAfter : Int32 := 3

/-- `SHORT_PULSE_THRESHOLD_MS`. -/
def shortPulseThresholdMs : Int32 := 30

/-- The `switch` of `perform`: `RICHTAP_LIGHT_STRENGTH` and so on. -/
def richtapStrength : EffectStrength → Option Int32
  | .light => some 69
  | .medium => some 100
  | .strong => some 150
  | .other _ => none

/-- `mapEffectToPrebakedId`. -/
def mapEffectToPrebakedId (effect : Effect) (strength : EffectStrength) : Option UInt32 :=
  if effect = click then
    match strength with
    | .light => some 0x3003
    | .medium => some 0x3008
    | .strong => some 0x3007
    | .other _ => some 0x3008
  else if effect = doubleClick then some 0x1001
  else if effect = tick ∨ effect = thud ∨ effect = pop then some 0x3003
  else if effect = heavyClick then some 0x3007
  else some (effect.toUInt32 + 0x1000)

/-- The thread for `onComplete`, if there is a callback. -/
def completion (hasCallback : Bool) (ret : Int32) : List VibratorObservation :=
  if hasCallback then [.completesAfter ret] else []

namespace Vibrator

/-- Before the first call. -/
def init : Vibrator where
  sLastMode := .none
  sLastPerformMs := 0
  sRapidPerformCount := 0

/-- `Vibrator::off`. -/
def off (v : Vibrator) (r : DriverReplies) : Vibrator × List VibratorObservation :=
  (v, [.driver .looperStopPerformHe, .driver .off,
    .returned (if r.off ≠ 0 then .serviceSpecific else .ok) none])

/-- The short pulses, which `on` redirects to a prebaked effect. -/
def isShortPulse (timeoutMs : Int32) : Bool :=
  decide (timeoutMs > 0) && decide (timeoutMs ≤ shortPulseThresholdMs)

/-- `Vibrator::on`. -/
def on (v : Vibrator) (timeoutMs : Int32) (hasCallback : Bool) (r : DriverReplies) :
    Vibrator × List VibratorObservation :=
  let redirect : List VibratorObservation :=
    if isShortPulse timeoutMs then [.driver (.looperPrebakedEffect 0x3007 150)] else []
  if isShortPulse timeoutMs ∧ r.looperPrebakedEffect ≥ 0 then
    ({ v with sLastMode := .prebaked },
      redirect ++ completion hasCallback r.looperPrebakedEffect ++ [.returned .ok none])
  else
    let seen := redirect ++ [.driver (.looperOn timeoutMs.toUInt32)]
    if r.looperOn < 0 then (v, seen ++ [.returned .serviceSpecific none])
    else
      ({ v with sLastMode := .timeout },
        seen ++ completion hasCallback r.looperOn ++ [.returned .ok none])

/-- The effects and strengths that `perform` does not refuse, with the strength for the
driver. -/
def accepts (effect : Effect) (es : EffectStrength) : Option Int32 :=
  if effect < click ∨ effect > heavyClick then none else richtapStrength es

/-- The test of `perform` for a `perform` in quick succession to the last one. -/
def isRapid (v : Vibrator) (now : ℤ) : Bool :=
  decide (now - v.sLastPerformMs < rapidPerformWindowMs)

/-- The last part of `perform`, from the reading of the clock: the queue is drained late
in a burst, and the effect is played. -/
def play (v : Vibrator) (effectId : UInt32) (strength : Int32) (hasCallback : Bool)
    (r : DriverReplies) (now : ℤ) : Vibrator × List VibratorObservation :=
  let count := v.sRapidPerformCount + 1
  let drain : List VibratorObservation :=
    if v.isRapid now ∧ count ≥ rapidPerformDrainAfter then [.driver .looperStopPerformHe] else []
  let seen := drain ++ [.driver (.looperPrebakedEffect effectId strength)]
  let v := { v with
    sLastPerformMs := now
    sRapidPerformCount := if v.isRapid now then count else 0 }
  if r.looperPrebakedEffect < 0 then (v, seen ++ [.returned .serviceSpecific none])
  else
    ({ v with sLastMode := .prebaked },
      seen ++ completion hasCallback r.looperPrebakedEffect ++
        [.returned .ok (some r.looperPrebakedEffect)])

/-- `Vibrator::perform`. -/
def perform (v : Vibrator) (effect : Effect) (es : EffectStrength) (hasCallback : Bool)
    (r : DriverReplies) (now : ℤ) : Vibrator × List VibratorObservation :=
  match accepts effect es with
  | none => (v, [.returned .unsupportedOperation none])
  | some strength =>
      -- what the driver returns is not looked at
      let restore : List VibratorObservation :=
        if v.sLastMode = .stream then [.driver (.setAmplitude 0xFF)] else []
      match mapEffectToPrebakedId effect es with
      | none => (v, restore ++ [.returned .unsupportedOperation none])
      | some effectId =>
          let p := v.play effectId strength hasCallback r now
          (p.1, restore ++ p.2)

/-- `Vibrator::setAmplitude`, with the byte that `amplitude * 0xff` is cast to. -/
def setAmplitude (v : Vibrator) (tmp : UInt8) (r : DriverReplies) :
    Vibrator × List VibratorObservation :=
  if r.setAmplitude ≠ 0 then
    (v, [.driver (.setAmplitude tmp), .returned .serviceSpecific none])
  else
    ({ v with sLastMode := .stream }, [.driver (.setAmplitude tmp), .returned .ok none])

end Vibrator

/-- The calls of the framework that have an effect. -/
inductive VibratorCall
  | off
  | on (timeoutMs : Int32) (hasCallback : Bool)
  | perform (effect : Effect) (es : EffectStrength) (hasCallback : Bool)
  | setAmplitude (tmp : UInt8)
  deriving DecidableEq, Repr

/-- What a call does at time `now`. -/
def Vibrator.handle (v : Vibrator) (call : VibratorCall) (r : DriverReplies) (now : ℤ) :
    Vibrator × List VibratorObservation :=
  match call with
  | .off => v.off r
  | .on timeoutMs hasCallback => v.on timeoutMs hasCallback r
  | .perform effect es hasCallback => v.perform effect es hasCallback r now
  | .setAmplitude tmp => v.setAmplitude tmp r

/-! ## Runs -/

/-- The HAL and the clock, in milliseconds. -/
structure VibratorState where
  vibrator : Vibrator
  now : ℤ
  deriving DecidableEq, Repr

/-- The steps: time goes by, or there is a call. -/
inductive VibratorLabel
  | tick (millis : ℕ)
  | call (call : VibratorCall) (replies : DriverReplies)
  deriving DecidableEq, Repr

namespace VibratorState

/-- The HAL is started at time `now`. -/
def boot (now : ℤ) : VibratorState := ⟨.init, now⟩

/-- One step. -/
def step (s : VibratorState) : VibratorLabel → Option (VibratorState × List VibratorObservation)
  | .tick millis => some ({ s with now := s.now + millis }, [])
  | .call call replies =>
      let r := s.vibrator.handle call replies s.now
      some ({ s with vibrator := r.1 }, r.2)

end VibratorState

/-- The machine of the HAL. -/
def vibratorMachine : Machine VibratorState VibratorLabel VibratorObservation where
  step := VibratorState.step

/-- A step of a run. -/
abbrev VibratorTransition := Transition VibratorState VibratorLabel VibratorObservation

/-- The steps, one constructor for each kind. -/
inductive VibratorStep : VibratorTransition → Prop
  | ticked (s : VibratorState) (millis : ℕ) :
      VibratorStep ⟨s, .tick millis, [], { s with now := s.now + millis }⟩
  | called (s : VibratorState) (c : VibratorCall) (r : DriverReplies) :
      VibratorStep ⟨s, .call c r, (s.vibrator.handle c r s.now).2,
        { s with vibrator := (s.vibrator.handle c r s.now).1 }⟩

/-- Every step of the machine is one of these. -/
theorem vibratorStep_of_takes {t : VibratorTransition} (h : vibratorMachine.Takes t) :
    VibratorStep t := by
  obtain ⟨s, l, out, s'⟩ := t
  have hstep : s.step l = some (s', out) := h
  cases l with
  | tick millis =>
      obtain ⟨rfl, rfl⟩ := Prod.mk.inj (Option.some.inj hstep)
      exact .ticked s millis
  | call c r =>
      obtain ⟨rfl, rfl⟩ := Prod.mk.inj (Option.some.inj hstep)
      exact .called s c r

/-! ## What the calls do -/

/-- The call is a `perform` that is not refused. -/
def VibratorCall.plays : VibratorCall → Bool
  | .perform effect es _ => (Vibrator.accepts effect es).isSome
  | .off | .on _ _ | .setAmplitude _ => false

/-- The step is such a call. -/
def VibratorLabel.plays : VibratorLabel → Bool
  | .tick _ => false
  | .call c _ => c.plays

/-- Every effect has a prebaked one. -/
theorem exists_mapEffectToPrebakedId (effect : Effect) (es : EffectStrength) :
    ∃ effectId, mapEffectToPrebakedId effect es = some effectId := by
  unfold mapEffectToPrebakedId
  split
  · cases es with
    | _ => exact ⟨_, rfl⟩
  · split_ifs
    · exact ⟨_, rfl⟩
    · exact ⟨_, rfl⟩
    · exact ⟨_, rfl⟩
    · exact ⟨_, rfl⟩

namespace Vibrator

variable (v : Vibrator) (r : DriverReplies) (now : ℤ)

/-- The driver's call of `perform` that undoes a `setAmplitude`. -/
def restore : List VibratorObservation :=
  if v.sLastMode = .stream then [.driver (.setAmplitude 0xFF)] else []

/-- A refused `perform` does nothing; another one sets the amplitude back and plays. -/
theorem perform_cases (effect : Effect) (es : EffectStrength) (hasCallback : Bool) :
    (accepts effect es = none ∧
      v.perform effect es hasCallback r now = (v, [.returned .unsupportedOperation none])) ∨
    ∃ strength effectId, accepts effect es = some strength ∧
      v.perform effect es hasCallback r now =
        ((v.play effectId strength hasCallback r now).1,
          v.restore ++ (v.play effectId strength hasCallback r now).2) := by
  unfold perform
  cases haccepts : accepts effect es with
  | none => exact .inl ⟨rfl, rfl⟩
  | some strength =>
      obtain ⟨effectId, hid⟩ := exists_mapEffectToPrebakedId effect es
      refine .inr ⟨strength, effectId, rfl, ?_⟩
      rw [hid]
      rfl

end Vibrator

end Vibration
