/-
# The LTPO control HAL (`LtpoControl.cpp`)

The panel runs at 120 Hz and skips frames as the node `skip_frame_mode` tells it.
SurfaceFlinger asks the HAL for a rate; the HAL rounds it up to the next rate of the
table `kSteps` and writes the index of that rate to the node, unless its record
`mCurrentHz` says that the panel has this rate already.

A request for 120 Hz holds that rate for 200 ms (`kBoostHold`): lower requests in the
meantime are raised.  In the mode `idle` of `persist.sys.sfm.mode` the only rates are
1 Hz and 120 Hz.

`displayMachine` is the HAL with what is around it: the panel, which keeps the rate of
the last write that succeeded, the clock, and init, which starts and stops the service.
The calls hold `mLock`, so each is one step; the time that goes by inside it, the
property and the outcome of the write are in the label.
-/
import PongHal.Machine

namespace Ltpo

/-- `SfmStep`: a rate and the index that the node has for it. -/
structure SfmStep where
  hz : ℤ
  sfmIndex : ℤ
  deriving DecidableEq, Repr

/-- The last of `kSteps`: no frames are skipped. -/
def fullRate : SfmStep := ⟨120, 16⟩

/-- `kSteps`. -/
def kSteps : List SfmStep := [⟨1, 11⟩, ⟨10, 10⟩, ⟨24, 9⟩, ⟨30, 8⟩, ⟨60, 7⟩, fullRate]

/-- `kBoostHold`, in nanoseconds. -/
def kBoostHold : ℕ := 200 * 1000000

/-- A write to the node, at the time at which it is made. -/
structure SfmWrite where
  index : ℤ
  success : Bool
  time : ℕ
  deriving DecidableEq, Repr

/-- What a call meets: the property `persist.sys.sfm.mode` (empty if it is not set), the
nanoseconds from the start of the call to its write, and whether a `pwrite` succeeds. -/
structure Env where
  sfmMode : String
  elapsed : ℕ
  pwrite : Bool
  deriving DecidableEq, Repr

/-- The members of `LtpoControl`.  `mSfmFd` is -1 if the node could not be opened. -/
structure LtpoControl where
  mSfmFd : ℤ
  mEnabled : Bool
  mCurrentHz : ℤ
  mBoostUntil : ℕ
  deriving DecidableEq, Repr

/-- `LtpoControl::isVrrMode`. -/
def isVrrMode (sfmMode : String) : Bool := (if sfmMode = "" then "idle" else sfmMode) == "vrr"

/-- The target of a request as the mode has it: all rates, or only two. -/
def effectiveHz (sfmMode : String) (targetHz : ℤ) : ℤ :=
  if !isVrrMode sfmMode then if targetHz ≤ 1 then 1 else 120 else targetHz

/-- The lowest step that is not below the target; the last one if there is none. -/
def bestStep (targetHz : ℤ) : SfmStep :=
  (kSteps.find? fun step => decide (step.hz ≥ targetHz)).getD fullRate

namespace LtpoControl

/-- The constructor, with what `open` returns. -/
def construct (fd : ℤ) : LtpoControl where
  mSfmFd := fd
  mEnabled := decide (0 ≤ fd)
  mCurrentHz := 120
  mBoostUntil := 0

/-- `LtpoControl::writeSfm`: whether the index was written, and the `pwrite` made. -/
def writeSfm (c : LtpoControl) (index : ℤ) (env : Env) (now : ℕ) : Bool × List SfmWrite :=
  if c.mSfmFd < 0 then (false, [])
  else (env.pwrite, [⟨index, env.pwrite, now + env.elapsed⟩])

/-- Both calls that change the rate write it, and record it if that went well. -/
def applyStep (c : LtpoControl) (step : SfmStep) (env : Env) (now : ℕ) :
    LtpoControl × List SfmWrite :=
  let r := c.writeSfm step.sfmIndex env now
  (if r.1 then { c with mCurrentHz := step.hz } else c, r.2)

/-- `LtpoControl::setEnabled`. -/
def setEnabled (c : LtpoControl) (enabled : Bool) (env : Env) (now : ℕ) :
    LtpoControl × List SfmWrite :=
  let c := { c with mEnabled := enabled }
  if !enabled then c.applyStep fullRate env now else (c, [])

/-- The touch boost in `setTargetHz`: a request for 120 Hz opens the window, and one for
less is raised while it is open. -/
def touchBoost (c : LtpoControl) (targetHz : ℤ) (now : ℕ) : LtpoControl × ℤ :=
  if 120 ≤ targetHz then ({ c with mBoostUntil := now + kBoostHold }, targetHz)
  else if now < c.mBoostUntil then (c, 120)
  else (c, targetHz)

/-- The end of `setTargetHz`: the best step is applied, unless the record has it. -/
def serve (c : LtpoControl) (targetHz : ℤ) (env : Env) (now : ℕ) :
    (LtpoControl × List SfmWrite) × ℤ :=
  let best := bestStep targetHz
  (if c.mCurrentHz ≠ best.hz then c.applyStep best env now else (c, []), best.hz)

/-- `LtpoControl::setTargetHz`, with the rate it answers. -/
def setTargetHz (c : LtpoControl) (targetHz : ℤ) (env : Env) (now : ℕ) :
    (LtpoControl × List SfmWrite) × ℤ :=
  if !c.mEnabled then ((c, []), 120)
  else
    let r := c.touchBoost (effectiveHz env.sfmMode targetHz) now
    r.1.serve r.2 env now

/-- `LtpoControl::getCurrentHz`. -/
def getCurrentHz (c : LtpoControl) : ℤ := c.mCurrentHz

/-- `LtpoControl::getSupportedHz`. -/
def getSupportedHz : List ℤ := kSteps.map (·.hz)

end LtpoControl

/-- The calls of SurfaceFlinger. -/
inductive Call
  | setEnabled (enabled : Bool)
  | setTargetHz (targetHz : ℤ)
  | onIdle
  | onActive
  | getCurrentHz
  deriving DecidableEq, Repr

/-- The target of a request for a rate. -/
def Call.target : Call → Option ℤ
  | .setTargetHz targetHz => some targetHz
  | .onIdle => some 1
  | .onActive => some 120
  | .setEnabled _ | .getCurrentHz => none

/-- What a call does: `onIdle` and `onActive` drop the answer of `setTargetHz`. -/
def LtpoControl.handle (c : LtpoControl) (call : Call) (env : Env) (now : ℕ) :
    (LtpoControl × List SfmWrite) × Option ℤ :=
  match call with
  | .setEnabled enabled => (c.setEnabled enabled env now, none)
  | .setTargetHz targetHz =>
      let r := c.setTargetHz targetHz env now
      (r.1, some r.2)
  | .onIdle => ((c.setTargetHz 1 env now).1, none)
  | .onActive => ((c.setTargetHz 120 env now).1, none)
  | .getCurrentHz => ((c, []), some c.getCurrentHz)

/-! ## The table -/

theorem bestStep_mem (targetHz : ℤ) : bestStep targetHz ∈ kSteps := by
  unfold bestStep
  cases h : kSteps.find? fun step => decide (step.hz ≥ targetHz) with
  | none => simp [kSteps]
  | some step => exact List.mem_of_find?_eq_some h

/-- No step but the last one satisfies a request for 120 Hz or more. -/
theorem bestStep_of_ge {targetHz : ℤ} (h : 120 ≤ targetHz) : bestStep targetHz = fullRate := by
  have honly : ∀ step ∈ kSteps, 120 ≤ step.hz → step = fullRate := by decide
  unfold bestStep
  cases hfind : kSteps.find? fun step => decide (step.hz ≥ targetHz) with
  | none => rfl
  | some step =>
      have hge : targetHz ≤ step.hz := by simpa using List.find?_some hfind
      exact honly step (List.mem_of_find?_eq_some hfind) (by omega)

/-- The panel gets at least the rate asked for, up to 120 Hz. -/
theorem le_hz_bestStep {targetHz : ℤ} (h : targetHz ≤ 120) : targetHz ≤ (bestStep targetHz).hz := by
  unfold bestStep
  cases hfind : kSteps.find? fun step => decide (step.hz ≥ targetHz) with
  | none => exact h
  | some step => simpa using List.find?_some hfind

/-- And no step in between would do: the table is in the order of the rates. -/
theorem hz_bestStep_le {targetHz : ℤ} {step : SfmStep} (hmem : step ∈ kSteps)
    (h : targetHz ≤ step.hz) : (bestStep targetHz).hz ≤ step.hz := by
  have hsorted : kSteps.Pairwise fun a b => a.hz ≤ b.hz := by decide
  unfold bestStep
  cases hfind : kSteps.find? fun step => decide (step.hz ≥ targetHz) with
  | none => exact absurd h (by simpa using List.find?_eq_none.1 hfind step hmem)
  | some best =>
      obtain ⟨-, before, after, hsplit, hbefore⟩ := List.find?_eq_some_iff_append.1 hfind
      rw [hsplit, List.pairwise_append, List.pairwise_cons] at hsorted
      rw [hsplit, List.mem_append, List.mem_cons] at hmem
      rcases hmem with hmem | rfl | hmem
      · exact absurd h (by simpa using hbefore step hmem)
      · exact le_rfl
      · exact hsorted.2.1.1 step hmem

/-- The effective target of a call, if it is a request and processed while the HAL is
enabled. -/
def LtpoControl.served (c : LtpoControl) (call : Call) (env : Env) : Option ℤ :=
  if c.mEnabled then call.target.map (effectiveHz env.sfmMode) else none

/-! ## The panel and init -/

/-- The rate that an index stands for. -/
def sfmRate (index : ℤ) : Option ℤ :=
  (kSteps.find? fun step => decide (step.sfmIndex = index)).map (·.hz)

/-- The rate of the panel after a write. -/
def panelAfter (panelHz : ℤ) (w : SfmWrite) : ℤ :=
  if w.success then (sfmRate w.index).getD panelHz else panelHz

/-- The index of a rate below 120 Hz. -/
def SfmWrite.Below120 (w : SfmWrite) : Prop := ∃ hz ∈ sfmRate w.index, hz < 120

instance (w : SfmWrite) : Decidable w.Below120 :=
  inferInstanceAs (Decidable (∃ hz ∈ sfmRate w.index, hz < 120))

theorem sfmRate_of_mem {step : SfmStep} (hmem : step ∈ kSteps) :
    sfmRate step.sfmIndex = some step.hz := by
  revert step
  decide

/-! ## What the calls do -/

namespace LtpoControl

variable (c : LtpoControl) (step : SfmStep) (targetHz panelHz : ℤ) (env : Env) (now : ℕ)

/-- A step is not written without the node; else it is written, and recorded if that
goes well. -/
theorem applyStep_cases :
    (c.mSfmFd < 0 ∧ c.applyStep step env now = (c, [])) ∨
    (env.pwrite = false ∧ c.applyStep step env now =
      (c, [⟨step.sfmIndex, false, now + env.elapsed⟩])) ∨
    (env.pwrite = true ∧ c.applyStep step env now =
      ({ c with mCurrentHz := step.hz }, [⟨step.sfmIndex, true, now + env.elapsed⟩])) := by
  by_cases hfd : c.mSfmFd < 0
  · exact .inl ⟨hfd, by simp [applyStep, writeSfm, hfd]⟩
  · cases hwrite : env.pwrite with
    | false => exact .inr (.inl ⟨rfl, by simp [applyStep, writeSfm, hfd, hwrite]⟩)
    | true => exact .inr (.inr ⟨rfl, by simp [applyStep, writeSfm, hfd, hwrite]⟩)

/-- A step changes the record at most. -/
theorem applyStep_fst : ∃ hz, (c.applyStep step env now).1 = { c with mCurrentHz := hz } := by
  rcases c.applyStep_cases step env now with ⟨-, h⟩ | ⟨-, h⟩ | ⟨-, h⟩
  · exact ⟨c.mCurrentHz, by rw [h]⟩
  · exact ⟨c.mCurrentHz, by rw [h]⟩
  · exact ⟨step.hz, by rw [h]⟩

@[simp] theorem mSfmFd_applyStep : (c.applyStep step env now).1.mSfmFd = c.mSfmFd := by
  obtain ⟨hz, h⟩ := c.applyStep_fst step env now
  rw [h]

@[simp] theorem mBoostUntil_applyStep :
    (c.applyStep step env now).1.mBoostUntil = c.mBoostUntil := by
  obtain ⟨hz, h⟩ := c.applyStep_fst step env now
  rw [h]

/-- The one write of a step is that of its index. -/
theorem of_mem_applyStep {w : SfmWrite} (hw : w ∈ (c.applyStep step env now).2) :
    w.index = step.sfmIndex ∧ w.time = now + env.elapsed := by
  rcases c.applyStep_cases step env now with ⟨-, h⟩ | ⟨-, h⟩ | ⟨-, h⟩
  · simp [h] at hw
  · rw [h, List.mem_singleton] at hw
    exact ⟨by rw [hw], by rw [hw]⟩
  · rw [h, List.mem_singleton] at hw
    exact ⟨by rw [hw], by rw [hw]⟩

/-- The record follows the panel. -/
theorem applyStep_follows (hstep : step ∈ kSteps) (h : c.mCurrentHz = panelHz) :
    (c.applyStep step env now).1.mCurrentHz =
      (c.applyStep step env now).2.foldl panelAfter panelHz := by
  rcases c.applyStep_cases step env now with ⟨-, heq⟩ | ⟨-, heq⟩ | ⟨-, heq⟩
  · rw [heq]
    exact h
  · rw [heq]
    exact h
  · rw [heq, List.foldl_cons, List.foldl_nil, panelAfter, if_pos rfl, sfmRate_of_mem hstep]
    rfl

/-- So does a request, but for the boost. -/
theorem serve_fst : ∃ hz, (c.serve targetHz env now).1.1 = { c with mCurrentHz := hz } := by
  unfold serve
  simp only
  split
  · exact c.applyStep_fst _ env now
  · exact ⟨c.mCurrentHz, rfl⟩

@[simp] theorem mSfmFd_serve : (c.serve targetHz env now).1.1.mSfmFd = c.mSfmFd := by
  obtain ⟨hz, h⟩ := c.serve_fst targetHz env now
  rw [h]

@[simp] theorem mEnabled_serve : (c.serve targetHz env now).1.1.mEnabled = c.mEnabled := by
  obtain ⟨hz, h⟩ := c.serve_fst targetHz env now
  rw [h]

@[simp] theorem mBoostUntil_serve :
    (c.serve targetHz env now).1.1.mBoostUntil = c.mBoostUntil := by
  obtain ⟨hz, h⟩ := c.serve_fst targetHz env now
  rw [h]

theorem of_mem_serve {w : SfmWrite} (hw : w ∈ (c.serve targetHz env now).1.2) :
    w.index = (bestStep targetHz).sfmIndex ∧ w.time = now + env.elapsed := by
  unfold serve at hw
  simp only at hw
  split at hw
  · exact c.of_mem_applyStep _ env now hw
  · simp at hw

theorem serve_follows (h : c.mCurrentHz = panelHz) :
    (c.serve targetHz env now).1.1.mCurrentHz =
      (c.serve targetHz env now).1.2.foldl panelAfter panelHz := by
  unfold serve
  simp only
  split
  · exact c.applyStep_follows _ panelHz env now (bestStep_mem targetHz) h
  · exact h

/-- The touch boost changes the end of the window at most. -/
theorem touchBoost_fst : (c.touchBoost targetHz now).1 =
    { c with mBoostUntil := if 120 ≤ targetHz then now + kBoostHold else c.mBoostUntil } := by
  unfold touchBoost
  by_cases hfull : 120 ≤ targetHz
  · simp [hfull]
  · by_cases hopen : now < c.mBoostUntil <;> simp [hfull, hopen]

/-- A lower target stays as it is once the window is closed, and only then. -/
theorem touchBoost_of_lt (hlow : targetHz < 120) :
    c.touchBoost targetHz now = (c, if now < c.mBoostUntil then 120 else targetHz) := by
  rw [touchBoost, if_neg (not_le.2 hlow)]
  split <;> rfl

theorem setTargetHz_of_disabled (h : c.mEnabled = false) :
    c.setTargetHz targetHz env now = ((c, []), 120) := by
  simp [setTargetHz, h]

theorem setTargetHz_of_enabled (h : c.mEnabled = true) :
    c.setTargetHz targetHz env now =
      (c.touchBoost (effectiveHz env.sfmMode targetHz) now).1.serve
        (c.touchBoost (effectiveHz env.sfmMode targetHz) now).2 env now := by
  simp [setTargetHz, h]

variable (call : Call)

/-- A call sets the flag, asks for a rate, or reads the record. -/
theorem handle_cases :
    (∃ enabled, call = .setEnabled enabled ∧
      c.handle call env now = (c.setEnabled enabled env now, none)) ∨
    (∃ targetHz, call.target = some targetHz ∧
      (c.handle call env now).1 = (c.setTargetHz targetHz env now).1 ∧
      ∀ hz ∈ (c.handle call env now).2, hz = (c.setTargetHz targetHz env now).2) ∨
    (call = .getCurrentHz ∧ c.handle call env now = ((c, []), some c.mCurrentHz)) := by
  cases call with
  | setEnabled enabled => exact .inl ⟨enabled, rfl, rfl⟩
  | setTargetHz targetHz =>
      exact .inr (.inl ⟨targetHz, rfl, rfl, fun hz hhz => (Option.some.inj hhz).symm⟩)
  | onIdle => exact .inr (.inl ⟨1, rfl, rfl, by simp [handle]⟩)
  | onActive => exact .inr (.inl ⟨120, rfl, rfl, by simp [handle]⟩)
  | getCurrentHz => exact .inr (.inr ⟨rfl, rfl⟩)

/-- No call opens or closes the node. -/
theorem mSfmFd_handle : (c.handle call env now).1.1.mSfmFd = c.mSfmFd := by
  rcases c.handle_cases env now call with ⟨enabled, -, h⟩ | ⟨targetHz, -, h, -⟩ | ⟨-, h⟩
  · rw [h]
    cases enabled <;> simp [setEnabled]
  · rw [h]
    cases henabled : c.mEnabled with
    | false => rw [c.setTargetHz_of_disabled targetHz env now henabled]
    | true => rw [c.setTargetHz_of_enabled targetHz env now henabled, mSfmFd_serve, touchBoost_fst]
  · rw [h]

/-- The record follows the panel. -/
theorem handle_follows (h : c.mCurrentHz = panelHz) :
    (c.handle call env now).1.1.mCurrentHz =
      (c.handle call env now).1.2.foldl panelAfter panelHz := by
  rcases c.handle_cases env now call with ⟨enabled, -, heq⟩ | ⟨targetHz, -, heq, -⟩ | ⟨-, heq⟩
  · rw [heq]
    cases enabled with
    | true => exact h
    | false => exact applyStep_follows _ _ panelHz env now (by decide) h
  · rw [heq]
    cases henabled : c.mEnabled with
    | false =>
        rw [c.setTargetHz_of_disabled targetHz env now henabled]
        exact h
    | true =>
        rw [c.setTargetHz_of_enabled targetHz env now henabled]
        refine serve_follows _ _ panelHz env now ?_
        rw [touchBoost_fst]
        exact h
  · rw [heq]
    exact h

/-- Without the node nothing is written. -/
theorem applyStep_of_closed (h : c.mSfmFd < 0) : c.applyStep step env now = (c, []) := by
  simp [applyStep, writeSfm, h]

theorem writes_handle_of_closed (h : c.mSfmFd < 0) : (c.handle call env now).1.2 = [] := by
  rcases c.handle_cases env now call with ⟨enabled, -, heq⟩ | ⟨targetHz, -, heq, -⟩ | ⟨-, heq⟩
  · rw [heq]
    cases enabled with
    | true => rfl
    | false => exact congrArg Prod.snd (applyStep_of_closed _ fullRate env now h)
  · rw [heq]
    cases henabled : c.mEnabled with
    | false => rw [c.setTargetHz_of_disabled targetHz env now henabled]
    | true =>
        rw [c.setTargetHz_of_enabled targetHz env now henabled, touchBoost_fst, serve]
        simp only
        split
        · exact congrArg Prod.snd (applyStep_of_closed _ _ env now h)
        · rfl
  · rw [heq]

/-- While the HAL is disabled requests do nothing, and are answered with 120. -/
theorem handle_of_disabled (h : c.mEnabled = false)
    (hcall : ∀ enabled, call ≠ .setEnabled enabled) : (c.handle call env now).1 = (c, []) := by
  rcases c.handle_cases env now call with ⟨enabled, heq, -⟩ | ⟨targetHz, -, heq, -⟩ | ⟨-, heq⟩
  · exact absurd heq (hcall enabled)
  · rw [heq, c.setTargetHz_of_disabled targetHz env now h]
  · rw [heq]

/-- A request processed while the HAL is enabled. -/
theorem handle_of_served {hz : ℤ} (h : c.served call env = some hz) :
    (c.handle call env now).1 =
        ((c.touchBoost hz now).1.serve (c.touchBoost hz now).2 env now).1 ∧
      ∀ answer ∈ (c.handle call env now).2,
        answer = ((c.touchBoost hz now).1.serve (c.touchBoost hz now).2 env now).2 := by
  simp only [served, Option.ite_none_right_eq_some, Option.map_eq_some_iff] at h
  obtain ⟨henabled, targetHz, htarget, rfl⟩ := h
  rw [← c.setTargetHz_of_enabled targetHz env now henabled]
  rcases c.handle_cases env now call with ⟨enabled, rfl, -⟩ | ⟨target, heq, hdone⟩ | ⟨rfl, -⟩
  · simp [Call.target] at htarget
  · obtain rfl := Option.some.inj (htarget.symm.trans heq)
    exact hdone
  · simp [Call.target] at htarget

/-- All other calls leave the window as it is, and write 120 Hz if anything. -/
theorem handle_of_not_served (h : c.served call env = none) :
    (c.handle call env now).1.1.mBoostUntil = c.mBoostUntil ∧
      ∀ w ∈ (c.handle call env now).1.2,
        w.index = fullRate.sfmIndex ∧ w.time = now + env.elapsed := by
  by_cases hset : ∃ enabled, call = .setEnabled enabled
  · obtain ⟨enabled, rfl⟩ := hset
    cases enabled with
    | true => exact ⟨rfl, by simp [handle, setEnabled]⟩
    | false =>
        refine ⟨mBoostUntil_applyStep _ fullRate env now, fun w hw => ?_⟩
        exact of_mem_applyStep _ fullRate env now hw
  · have hset' : ∀ enabled, call ≠ .setEnabled enabled := fun enabled h => hset ⟨enabled, h⟩
    cases henabled : c.mEnabled with
    | false =>
        rw [c.handle_of_disabled env now call henabled hset']
        exact ⟨rfl, by simp⟩
    | true =>
        cases call with
        | setEnabled enabled => exact absurd rfl (hset' enabled)
        | getCurrentHz => exact ⟨rfl, by simp [handle]⟩
        | _ => simp [served, henabled, Call.target] at h

/-- Only `setEnabled` changes the flag. -/
theorem mEnabled_handle (hcall : ∀ enabled, call ≠ .setEnabled enabled) :
    (c.handle call env now).1.1.mEnabled = c.mEnabled := by
  rcases c.handle_cases env now call with ⟨enabled, h, -⟩ | ⟨targetHz, -, h, -⟩ | ⟨-, h⟩
  · exact absurd h (hcall enabled)
  · rw [h]
    cases henabled : c.mEnabled with
    | false => rw [c.setTargetHz_of_disabled targetHz env now henabled, henabled]
    | true =>
        rw [c.setTargetHz_of_enabled targetHz env now henabled, mEnabled_serve, touchBoost_fst]
        exact henabled
  · rw [h]

end LtpoControl

/-- The service, if it runs, the rate of the panel, and the clock. -/
structure Display where
  service : Option LtpoControl
  panelHz : ℤ
  now : ℕ
  deriving DecidableEq, Repr

/-- The steps: time goes by, init starts the service (`open` returns `fd`) or kills it,
and the calls. -/
inductive DisplayLabel
  | tick (nanos : ℕ)
  | start (fd : ℤ)
  | stop
  | call (call : Call) (env : Env)
  deriving DecidableEq, Repr

/-- The step is no start or stop of the service. -/
def DisplayLabel.isCall : DisplayLabel → Bool
  | .tick _ | .call _ _ => true
  | .start _ | .stop => false

/-- What can be seen of a step. -/
inductive DisplayObservation
  | wrote (w : SfmWrite)
  | answered (hz : ℤ)
  deriving DecidableEq, Repr

namespace Display

/-- The first boot. -/
def firstBoot : Display where
  service := none
  panelHz := 120
  now := 0

/-- The service just constructed. -/
def running (fd panelHz : ℤ) (now : ℕ) : Display where
  service := some (.construct fd)
  panelHz := panelHz
  now := now

/-- One step. -/
def step (d : Display) : DisplayLabel → Option (Display × List DisplayObservation)
  | .tick nanos => some ({ d with now := d.now + nanos }, [])
  | .start fd =>
      match d.service with
      | some _ => some (d, [])
      | none => some ({ d with service := some (.construct fd) }, [])
  -- init kills the process: the destructor does not run
  | .stop => some ({ d with service := none }, [])
  | .call call env =>
      match d.service with
      | none => none
      | some c =>
          let r := c.handle call env d.now
          some ({ service := some r.1.1
                  panelHz := r.1.2.foldl panelAfter d.panelHz
                  now := d.now + env.elapsed },
            r.1.2.map .wrote ++ r.2.toList.map .answered)

end Display

/-- The machine of the HAL, the panel and init. -/
def displayMachine : Machine Display DisplayLabel DisplayObservation where
  step := Display.step

/-- A step of a run. -/
abbrev DisplayTransition := Transition Display DisplayLabel DisplayObservation

/-- The steps, one constructor for each thing that can happen. -/
inductive DisplayStep : DisplayTransition → Prop
  | ticked (d : Display) (nanos : ℕ) :
      DisplayStep ⟨d, .tick nanos, [], { d with now := d.now + nanos }⟩
  | started (d : Display) (fd : ℤ) (hnone : d.service = none) :
      DisplayStep ⟨d, .start fd, [], { d with service := some (.construct fd) }⟩
  | runs (d : Display) (fd : ℤ) (c : LtpoControl) (hc : d.service = some c) :
      DisplayStep ⟨d, .start fd, [], d⟩
  | stopped (d : Display) : DisplayStep ⟨d, .stop, [], { d with service := none }⟩
  | called (d : Display) (call : Call) (env : Env) (c : LtpoControl) (hc : d.service = some c) :
      DisplayStep ⟨d, .call call env,
        (c.handle call env d.now).1.2.map .wrote ++
          (c.handle call env d.now).2.toList.map .answered,
        { service := some (c.handle call env d.now).1.1
          panelHz := (c.handle call env d.now).1.2.foldl panelAfter d.panelHz
          now := d.now + env.elapsed }⟩

/-- Every step of the machine is one of these. -/
theorem displayStep_of_takes {t : DisplayTransition} (h : displayMachine.Takes t) :
    DisplayStep t := by
  obtain ⟨d, l, out, d'⟩ := t
  have hstep : d.step l = some (d', out) := h
  cases l with
  | tick nanos =>
      simp only [Display.step, Option.some.injEq, Prod.mk.injEq] at hstep
      obtain ⟨rfl, rfl⟩ := hstep
      exact .ticked d nanos
  | start fd =>
      simp only [Display.step] at hstep
      split at hstep
      · rename_i c hc
        simp only [Option.some.injEq, Prod.mk.injEq] at hstep
        obtain ⟨rfl, rfl⟩ := hstep
        exact .runs d fd c hc
      · rename_i hnone
        simp only [Option.some.injEq, Prod.mk.injEq] at hstep
        obtain ⟨rfl, rfl⟩ := hstep
        exact .started d fd hnone
  | stop =>
      simp only [Display.step, Option.some.injEq, Prod.mk.injEq] at hstep
      obtain ⟨rfl, rfl⟩ := hstep
      exact .stopped d
  | call call env =>
      simp only [Display.step] at hstep
      split at hstep
      · simp at hstep
      · rename_i c hc
        simp only [Option.some.injEq, Prod.mk.injEq] at hstep
        obtain ⟨rfl, rfl⟩ := hstep
        exact .called d call env c hc

end Ltpo
