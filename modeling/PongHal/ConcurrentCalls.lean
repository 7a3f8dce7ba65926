/-
# Calls on several threads (`LtpoControl.cpp`)

The service has more than one binder thread.  `setEnabled`, `setTargetHz`, `onIdle` and
`onActive` hold `mLock`, but a `pwrite` to the node and the store to `mCurrentHz` after it
are two steps of such a call, and `getCurrentHz` reads the atomic without the lock, at any
point in between.  Time goes by there as well, and init can kill the service.

`displayMachine` takes each call in one step.  `linearizable` says that this is enough: what
the calls do, write and answer on several threads is what they do, write and answer one
after the other.
-/
import PongHal.TouchBoost

namespace Ltpo

/-! ## A call in its steps -/

/-- `writeSfm` without the node writes nothing. -/
def LtpoControl.toWrite (c : LtpoControl) (step : SfmStep) : Option SfmStep :=
  if c.mSfmFd < 0 then none else some step

/-- `setTargetHz` from where it has the lock to its `pwrite`, or to its end if it makes
none: the step to write, and the rate it answers. -/
def LtpoControl.enterTargetHz (c : LtpoControl) (targetHz : ℤ) (sfmMode : String) (now : ℕ) :
    LtpoControl × Option SfmStep × ℤ :=
  if !c.mEnabled then (c, none, 120)
  else
    let r := c.touchBoost (effectiveHz sfmMode targetHz) now
    let best := bestStep r.2
    (r.1, if r.1.mCurrentHz ≠ best.hz then r.1.toWrite best else none, best.hz)

/-- The same for every call that takes the lock. -/
def LtpoControl.enter (c : LtpoControl) (call : Call) (sfmMode : String) (now : ℕ) :
    Option (LtpoControl × Option SfmStep × Option ℤ) :=
  match call with
  | .setEnabled enabled =>
      let c := { c with mEnabled := enabled }
      some (c, if !enabled then c.toWrite fullRate else none, none)
  | .setTargetHz targetHz =>
      let r := c.enterTargetHz targetHz sfmMode now
      some (r.1, r.2.1, some r.2.2)
  | .onIdle =>
      let r := c.enterTargetHz 1 sfmMode now
      some (r.1, r.2.1, none)
  | .onActive =>
      let r := c.enterTargetHz 120 sfmMode now
      some (r.1, r.2.1, none)
  | .getCurrentHz => none

/-- The call that has `mLock` and has come to its `pwrite`. -/
structure LockHolder where
  call : Call
  step : SfmStep
  answer : Option ℤ
  /-- The `pwrite` has gone well, and the store to `mCurrentHz` is next. -/
  written : Bool
  deriving DecidableEq, Repr

/-- The display, with the call that has `mLock` in the service. -/
structure ConcurrentDisplay where
  service : Option LtpoControl
  holder : Option LockHolder
  panelHz : ℤ
  now : ℕ
  deriving DecidableEq, Repr

/-- The steps: time goes by, init starts the service or kills it, and those of the calls. -/
inductive ConcurrentLabel
  | tick (nanos : ℕ)
  | start (fd : ℤ)
  | stop
  /-- A call gets `mLock`, and goes on to its `pwrite` or to its end. -/
  | lock (call : Call) (sfmMode : String)
  /-- The `pwrite` of the call that has the lock. -/
  | pwrite (success : Bool)
  /-- Its store to `mCurrentHz`. -/
  | store
  | getCurrentHz
  deriving DecidableEq, Repr

/-- The answer of a call that returns one. -/
def answered (answer : Option ℤ) : List DisplayObservation := answer.toList.map .answered

namespace ConcurrentDisplay

/-- A display with no call under way. -/
def of (d : Display) : ConcurrentDisplay where
  service := d.service
  holder := none
  panelHz := d.panelHz
  now := d.now

/-- One step.  A call answers in the step in which it is done with the members; the return
to the caller changes nothing any more. -/
def step (s : ConcurrentDisplay) :
    ConcurrentLabel → Option (ConcurrentDisplay × List DisplayObservation)
  | .tick nanos => some ({ s with now := s.now + nanos }, [])
  | .start fd =>
      match s.service with
      | some _ => some (s, [])
      | none => some ({ s with service := some (.construct fd) }, [])
  -- init kills the process, and with it a call that has the lock
  | .stop => some ({ s with service := none, holder := none }, [])
  | .lock call sfmMode =>
      match s.service, s.holder with
      | some c, none =>
          (c.enter call sfmMode s.now).map fun r =>
            match r.2.1 with
            | none => ({ s with service := some r.1 }, answered r.2.2)
            | some step =>
                ({ s with service := some r.1, holder := some ⟨call, step, r.2.2, false⟩ }, [])
      | _, _ => none
  | .pwrite success =>
      match s.holder with
      | some h =>
          if h.written then none
          else
            let w : SfmWrite := ⟨h.step.sfmIndex, success, s.now⟩
            let panelHz := panelAfter s.panelHz w
            if success then
              some ({ s with holder := some { h with written := true }, panelHz := panelHz },
                [.wrote w])
            else
              some ({ s with holder := none, panelHz := panelHz }, .wrote w :: answered h.answer)
      | none => none
  | .store =>
      match s.service, s.holder with
      | some c, some h =>
          if h.written then
            some ({ s with service := some { c with mCurrentHz := h.step.hz }, holder := none },
              answered h.answer)
          else none
      | _, _ => none
  | .getCurrentHz => s.service.map fun c => (s, [.answered c.getCurrentHz])

end ConcurrentDisplay

/-- The machine of the HAL on several threads. -/
def concurrentMachine : Machine ConcurrentDisplay ConcurrentLabel DisplayObservation where
  step := ConcurrentDisplay.step

/-- A step of such a run. -/
abbrev ConcurrentTransition := Transition ConcurrentDisplay ConcurrentLabel DisplayObservation

/-- The steps, one constructor for each way a call can go. -/
inductive ConcurrentStep : ConcurrentTransition → Prop
  | ticked (s : ConcurrentDisplay) (nanos : ℕ) :
      ConcurrentStep ⟨s, .tick nanos, [], { s with now := s.now + nanos }⟩
  | started (s : ConcurrentDisplay) (fd : ℤ) (hnone : s.service = none) :
      ConcurrentStep ⟨s, .start fd, [], { s with service := some (.construct fd) }⟩
  | runs (s : ConcurrentDisplay) (fd : ℤ) (c : LtpoControl) (hc : s.service = some c) :
      ConcurrentStep ⟨s, .start fd, [], s⟩
  | stopped (s : ConcurrentDisplay) :
      ConcurrentStep ⟨s, .stop, [], { s with service := none, holder := none }⟩
  /-- A call that writes nothing is done. -/
  | passed (s : ConcurrentDisplay) (call : Call) (sfmMode : String) (c c' : LtpoControl)
      (answer : Option ℤ) (hc : s.service = some c) (hfree : s.holder = none)
      (henter : c.enter call sfmMode s.now = some (c', none, answer)) :
      ConcurrentStep ⟨s, .lock call sfmMode, answered answer, { s with service := some c' }⟩
  /-- A call has come to its `pwrite`. -/
  | entered (s : ConcurrentDisplay) (call : Call) (sfmMode : String) (c c' : LtpoControl)
      (step : SfmStep) (answer : Option ℤ) (hc : s.service = some c) (hfree : s.holder = none)
      (henter : c.enter call sfmMode s.now = some (c', some step, answer)) :
      ConcurrentStep ⟨s, .lock call sfmMode, [],
        { s with service := some c', holder := some ⟨call, step, answer, false⟩ }⟩
  | wrote (s : ConcurrentDisplay) (h : LockHolder) (hh : s.holder = some h)
      (hnot : h.written = false) :
      ConcurrentStep ⟨s, .pwrite true, [.wrote ⟨h.step.sfmIndex, true, s.now⟩],
        { s with
          holder := some { h with written := true }
          panelHz := panelAfter s.panelHz ⟨h.step.sfmIndex, true, s.now⟩ }⟩
  /-- A `pwrite` that fails ends the call. -/
  | failed (s : ConcurrentDisplay) (h : LockHolder) (hh : s.holder = some h)
      (hnot : h.written = false) :
      ConcurrentStep ⟨s, .pwrite false,
        .wrote ⟨h.step.sfmIndex, false, s.now⟩ :: answered h.answer, { s with holder := none }⟩
  | stored (s : ConcurrentDisplay) (c : LtpoControl) (h : LockHolder) (hc : s.service = some c)
      (hh : s.holder = some h) (hwritten : h.written = true) :
      ConcurrentStep ⟨s, .store, answered h.answer,
        { s with service := some { c with mCurrentHz := h.step.hz }, holder := none }⟩
  | read (s : ConcurrentDisplay) (c : LtpoControl) (hc : s.service = some c) :
      ConcurrentStep ⟨s, .getCurrentHz, [.answered c.mCurrentHz], s⟩

/-- Every step of the machine is one of these. -/
theorem concurrentStep_of_takes {t : ConcurrentTransition} (h : concurrentMachine.Takes t) :
    ConcurrentStep t := by
  obtain ⟨s, l, out, s'⟩ := t
  change s.step l = some (s', out) at h
  cases l with
  | tick nanos =>
      cases h
      exact .ticked s nanos
  | start fd =>
      simp only [ConcurrentDisplay.step] at h
      split at h
      · rename_i c hc
        cases h
        exact .runs s fd c hc
      · rename_i hnone
        cases h
        exact .started s fd hnone
  | stop =>
      cases h
      exact .stopped s
  | lock call sfmMode =>
      simp only [ConcurrentDisplay.step] at h
      split at h
      · rename_i c hc hfree
        obtain ⟨⟨c', written, answer⟩, henter, hr⟩ := Option.map_eq_some_iff.1 h
        cases written with
        | none =>
            cases hr
            exact .passed s call sfmMode c c' answer hc hfree henter
        | some step =>
            cases hr
            exact .entered s call sfmMode c c' step answer hc hfree henter
      · cases h
  | pwrite success =>
      simp only [ConcurrentDisplay.step] at h
      split at h
      · rename_i holder hh
        split at h
        · cases h
        · rename_i hnot
          rw [Bool.not_eq_true] at hnot
          cases success with
          | true =>
              cases h
              exact .wrote s holder hh hnot
          | false =>
              cases h
              exact .failed s holder hh hnot
      · cases h
  | store =>
      simp only [ConcurrentDisplay.step] at h
      split at h
      · rename_i c holder hc hh
        split at h
        · rename_i hwritten
          cases h
          exact .stored s c holder hc hh hwritten
        · cases h
      · cases h
  | getCurrentHz =>
      obtain ⟨c, hc, hr⟩ := Option.map_eq_some_iff.1 h
      cases hr
      exact .read s c hc

/-! ## The steps of a call make up the call -/

namespace LtpoControl

variable (c c' : LtpoControl) (call : Call) (targetHz : ℤ) (env : Env) (now : ℕ)

/-- What a call does from its `pwrite` on, if it makes one. -/
def finish (written : Option SfmStep) : LtpoControl × List SfmWrite :=
  match written with
  | none => (c, [])
  | some step =>
      (if env.pwrite then { c with mCurrentHz := step.hz } else c,
        [⟨step.sfmIndex, env.pwrite, now + env.elapsed⟩])

theorem applyStep_eq_finish (step : SfmStep) :
    c.applyStep step env now = c.finish env now (c.toWrite step) := by
  unfold applyStep writeSfm toWrite
  by_cases hfd : c.mSfmFd < 0
  · simp [hfd, finish]
  · simp [hfd, finish]

theorem setTargetHz_eq_enter :
    c.setTargetHz targetHz env now =
      ((c.enterTargetHz targetHz env.sfmMode now).1.finish env now
          (c.enterTargetHz targetHz env.sfmMode now).2.1,
        (c.enterTargetHz targetHz env.sfmMode now).2.2) := by
  cases henabled : c.mEnabled with
  | false =>
      rw [c.setTargetHz_of_disabled targetHz env now henabled, enterTargetHz, henabled]
      rfl
  | true =>
      rw [c.setTargetHz_of_enabled targetHz env now henabled, enterTargetHz, henabled, serve]
      simp only [Bool.not_true, Bool.false_eq_true, if_false]
      split
      · rw [applyStep_eq_finish]
      · rfl

variable {c c' call}

/-- **The steps of a call make up the call.** -/
theorem handle_of_enter {sfmMode : String} {written : Option SfmStep} {answer : Option ℤ}
    (h : c.enter call sfmMode now = some (c', written, answer)) (hmode : env.sfmMode = sfmMode) :
    c.handle call env now = (c'.finish env now written, answer) := by
  subst hmode
  cases call with
  | setEnabled enabled =>
      simp only [enter, Option.some.injEq, Prod.mk.injEq] at h
      obtain ⟨rfl, rfl, rfl⟩ := h
      cases enabled with
      | true => rfl
      | false => exact congrArg (·, none) (applyStep_eq_finish _ env now fullRate)
  | setTargetHz targetHz =>
      simp only [enter, Option.some.injEq, Prod.mk.injEq] at h
      obtain ⟨rfl, rfl, rfl⟩ := h
      rw [handle, setTargetHz_eq_enter]
  | onIdle | onActive =>
      simp only [enter, Option.some.injEq, Prod.mk.injEq] at h
      obtain ⟨rfl, rfl, rfl⟩ := h
      rw [handle, setTargetHz_eq_enter]
  | getCurrentHz => cases h

theorem mCurrentHz_enterTargetHz (sfmMode : String) :
    (c.enterTargetHz targetHz sfmMode now).1.mCurrentHz = c.mCurrentHz := by
  rw [enterTargetHz]
  split
  · rfl
  · rw [touchBoost_fst]

/-- Up to its `pwrite` a call leaves the record as it is. -/
theorem mCurrentHz_enter {sfmMode : String} {written : Option SfmStep} {answer : Option ℤ}
    (h : c.enter call sfmMode now = some (c', written, answer)) :
    c'.mCurrentHz = c.mCurrentHz := by
  cases call with
  | setEnabled enabled =>
      cases h
      rfl
  | setTargetHz targetHz =>
      cases h
      exact mCurrentHz_enterTargetHz targetHz now sfmMode
  | onIdle =>
      cases h
      exact mCurrentHz_enterTargetHz 1 now sfmMode
  | onActive =>
      cases h
      exact mCurrentHz_enterTargetHz 120 now sfmMode
  | getCurrentHz => cases h

end LtpoControl

/-! ## What takes effect in a step -/

/-- The call that the step is. -/
def DisplayTransition.calls (t : DisplayTransition) : List Call :=
  match t.label with
  | .call call _ => [call]
  | .tick _ | .start _ | .stop => []

namespace ConcurrentTransition

/-- The call that init cuts off between its `pwrite` and its end. -/
def cutOff (t : ConcurrentTransition) : List LockHolder :=
  match t.label with
  | .stop => t.pre.holder.toList.filter (·.written)
  | _ => []

/-- The calls that take effect in a step: a call with a `pwrite` when it is done, and if init
cuts it off after the `pwrite`, then there. -/
def effects (t : ConcurrentTransition) : List Call :=
  match t.label with
  | .lock call _ => if t.post.holder = none then [call] else []
  | .pwrite success => if success then [] else t.pre.holder.toList.map (·.call)
  | .store => t.pre.holder.toList.map (·.call)
  | .getCurrentHz => [.getCurrentHz]
  | .stop => t.cutOff.map (·.call)
  | .tick _ | .start _ => []

/-- The writes of the step. -/
def writes (t : ConcurrentTransition) : List SfmWrite :=
  t.out.filterMap fun
    | .wrote w => some w
    | .answered _ => none

/-- What the step answers, and what a call that is cut off would have answered. -/
def answers (t : ConcurrentTransition) : List ℤ :=
  (t.out.filterMap fun
    | .wrote _ => none
    | .answered hz => some hz) ++ t.cutOff.flatMap (·.answer.toList)

end ConcurrentTransition

/-! ## One call after the other -/

/-- The display as the calls that have taken effect have left it, with what the call under
way has written since.  That call has begun at `start`. -/
inductive Pending (s : ConcurrentDisplay) : Display → List SfmWrite → Prop
  | free (hfree : s.holder = none) : Pending s ⟨s.service, s.panelHz, s.now⟩ []
  | writing (c c' : LtpoControl) (h : LockHolder) (sfmMode : String) (start : ℕ)
      (hc : s.service = some c') (hh : s.holder = some h) (hnot : h.written = false)
      (henter : c.enter h.call sfmMode start = some (c', some h.step, h.answer))
      (hstart : start ≤ s.now) : Pending s ⟨some c, s.panelHz, start⟩ []
  | storing (c c' : LtpoControl) (h : LockHolder) (sfmMode : String) (start time : ℕ)
      (panelHz : ℤ) (hc : s.service = some c') (hh : s.holder = some h)
      (hwritten : h.written = true)
      (henter : c.enter h.call sfmMode start = some (c', some h.step, h.answer))
      (hstart : start ≤ time) (htime : time ≤ s.now)
      (hpanel : s.panelHz = panelAfter panelHz ⟨h.step.sfmIndex, true, time⟩) :
      Pending s ⟨some c, panelHz, start⟩ [⟨h.step.sfmIndex, true, time⟩]

/-- The calls one after the other do what the step does, with what the call under way has
written before and after it. -/
structure Matches (t : ConcurrentTransition) (pending : List SfmWrite)
    (ts : List DisplayTransition) (pending' : List SfmWrite) : Prop where
  calls : ts.flatMap DisplayTransition.calls = t.effects
  writes : ts.flatMap DisplayTransition.writes ++ pending' = pending ++ t.writes
  answers : ts.flatMap DisplayTransition.answers = t.answers

/-- Time goes by. -/
theorem run_tick (c : Option LtpoControl) (panelHz : ℤ) {start now : ℕ} (h : start ≤ now) :
    ∃ ts, displayMachine.Run ⟨c, panelHz, start⟩ ts ⟨c, panelHz, now⟩ ∧
      ts.flatMap DisplayTransition.calls = [] ∧ ts.flatMap DisplayTransition.writes = [] ∧
      ts.flatMap DisplayTransition.answers = [] := by
  have hstep : displayMachine.step ⟨c, panelHz, start⟩ (.tick (now - start)) =
      some (⟨c, panelHz, now⟩, []) := by
    simp only [displayMachine, Display.step, Nat.add_sub_cancel' h]
  exact ⟨_, Machine.Run.start.next hstep, rfl, rfl, rfl⟩

/-- A call in one step. -/
theorem run_call (panelHz : ℤ) {c c' : LtpoControl} {now : ℕ} {call : Call} {env : Env}
    {written : List SfmWrite} {answer : Option ℤ}
    (h : c.handle call env now = ((c', written), answer)) :
    ∃ ts, displayMachine.Run ⟨some c, panelHz, now⟩ ts
        ⟨some c', written.foldl panelAfter panelHz, now + env.elapsed⟩ ∧
      ts.flatMap DisplayTransition.calls = [call] ∧
      ts.flatMap DisplayTransition.writes = written ∧
      ts.flatMap DisplayTransition.answers = answer.toList := by
  have hstep : displayMachine.step ⟨some c, panelHz, now⟩ (.call call env) =
      some (⟨some c', written.foldl panelAfter panelHz, now + env.elapsed⟩,
        written.map .wrote ++ answer.toList.map .answered) := by
    simp only [displayMachine, Display.step, h]
  refine ⟨_, Machine.Run.start.next hstep, rfl, ?_, ?_⟩
  · simp [DisplayTransition.writes, List.filterMap_append]
  · simp [DisplayTransition.answers, List.filterMap_append]

/-- A call that has written its step, up to the time at which it is done. -/
theorem run_written (panelHz : ℤ) {c c' : LtpoControl} {h : LockHolder} {sfmMode : String}
    {start time now : ℕ}
    (henter : c.enter h.call sfmMode start = some (c', some h.step, h.answer))
    (hstart : start ≤ time) (htime : time ≤ now) :
    ∃ ts, displayMachine.Run ⟨some c, panelHz, start⟩ ts
        ⟨some { c' with mCurrentHz := h.step.hz },
          panelAfter panelHz ⟨h.step.sfmIndex, true, time⟩, now⟩ ∧
      ts.flatMap DisplayTransition.calls = [h.call] ∧
      ts.flatMap DisplayTransition.writes = [⟨h.step.sfmIndex, true, time⟩] ∧
      ts.flatMap DisplayTransition.answers = h.answer.toList := by
  have hhandle := LtpoControl.handle_of_enter ⟨sfmMode, time - start, true⟩ start henter rfl
  rw [LtpoControl.finish] at hhandle
  simp only [if_true, Nat.add_sub_cancel' hstart] at hhandle
  obtain ⟨ts₁, hrun₁, hcalls₁, hwrites₁, hanswers₁⟩ := run_call panelHz hhandle
  simp only [List.foldl_cons, List.foldl_nil, Nat.add_sub_cancel' hstart] at hrun₁
  obtain ⟨ts₂, hrun₂, hcalls₂, hwrites₂, hanswers₂⟩ := run_tick
    (some { c' with mCurrentHz := h.step.hz })
    (panelAfter panelHz ⟨h.step.sfmIndex, true, time⟩) htime
  refine ⟨ts₁ ++ ts₂, hrun₁.trans hrun₂, ?_, ?_, ?_⟩
  · rw [List.flatMap_append, hcalls₁, hcalls₂, List.append_nil]
  · rw [List.flatMap_append, hwrites₁, hwrites₂, List.append_nil]
  · rw [List.flatMap_append, hanswers₁, hanswers₂, List.append_nil]

/-- The service is killed. -/
theorem run_stop (d : Display) :
    ∃ ts, displayMachine.Run d ts { d with service := none } ∧
      ts.flatMap DisplayTransition.calls = [] ∧ ts.flatMap DisplayTransition.writes = [] ∧
      ts.flatMap DisplayTransition.answers = [] := by
  have hstep : displayMachine.step d .stop = some ({ d with service := none }, []) := rfl
  exact ⟨_, Machine.Run.start.next hstep, rfl, rfl, rfl⟩

/-- `getCurrentHz` between two steps of a call reads what it would have read before it. -/
theorem run_read {c c' : LtpoControl} (panelHz : ℤ) (start : ℕ)
    (hsame : c'.mCurrentHz = c.mCurrentHz) :
    ∃ ts, displayMachine.Run ⟨some c, panelHz, start⟩ ts ⟨some c, panelHz, start⟩ ∧
      ts.flatMap DisplayTransition.calls = [.getCurrentHz] ∧
      ts.flatMap DisplayTransition.writes = [] ∧
      ts.flatMap DisplayTransition.answers = [c'.mCurrentHz] := by
  have hhandle : c.handle .getCurrentHz ⟨"", 0, true⟩ start = ((c, []), some c'.mCurrentHz) := by
    rw [hsame]
    rfl
  exact run_call panelHz hhandle

/-- What the calls one after the other do in the place of a step. -/
def Matched (t : ConcurrentTransition) (d : Display) (pending : List SfmWrite) : Prop :=
  ∃ ts d' pending', displayMachine.Run d ts d' ∧ Pending t.post d' pending' ∧
    Matches t pending ts pending'

section

variable {s : ConcurrentDisplay} {d : Display} {pending : List SfmWrite}

/-- Time that goes by in a call is time that goes by before its end. -/
theorem matched_tick (nanos : ℕ) (hpre : Pending s d pending) :
    Matched ⟨s, .tick nanos, [], { s with now := s.now + nanos }⟩ d pending := by
  have hle : s.now ≤ s.now + nanos := Nat.le_add_right _ _
  cases hpre with
  | free hfree =>
      obtain ⟨ts, hrun, hcalls, hwrites, hanswers⟩ := run_tick s.service s.panelHz hle
      exact ⟨ts, _, [], hrun, .free hfree, hcalls, by rw [hwrites]; rfl, hanswers⟩
  | writing c c' h sfmMode start hc hh hnot henter hstart =>
      exact ⟨[], _, [], .start,
        .writing c c' h sfmMode start hc hh hnot henter (hstart.trans hle), rfl, rfl, rfl⟩
  | storing c c' h sfmMode start time panelHz hc hh hwritten henter hstart htime hpanel =>
      exact ⟨[], _, _, .start, .storing c c' h sfmMode start time panelHz hc hh hwritten henter
        hstart (htime.trans hle) hpanel, rfl, rfl, rfl⟩

/-- A call that init cuts off before its `pwrite` is as if it had not been made, and after it
as if it had been done. -/
theorem matched_stop (hpre : Pending s d pending) :
    Matched ⟨s, .stop, [], { s with service := none, holder := none }⟩ d pending := by
  have hcut : ∀ h : LockHolder, s.holder = some h →
      s.holder.toList.filter (·.written) = if h.written = true then [h] else [] := by
    intro h hh
    rw [hh, Option.toList_some, List.filter_singleton]
    cases h.written <;> rfl
  cases hpre with
  | free hfree =>
      obtain ⟨ts, hrun, hcalls, hwrites, hanswers⟩ := run_stop ⟨s.service, s.panelHz, s.now⟩
      refine ⟨ts, _, [], hrun, .free rfl, ?_, by rw [hwrites]; rfl, ?_⟩
      · simp [hcalls, ConcurrentTransition.effects, ConcurrentTransition.cutOff, hfree]
      · simp [hanswers, ConcurrentTransition.answers, ConcurrentTransition.cutOff, hfree]
  | writing c c' h sfmMode start hc hh hnot henter hstart =>
      obtain ⟨ts₁, hrun₁, hcalls₁, hwrites₁, hanswers₁⟩ := run_tick (some c) s.panelHz hstart
      obtain ⟨ts₂, hrun₂, hcalls₂, hwrites₂, hanswers₂⟩ := run_stop ⟨some c, s.panelHz, s.now⟩
      refine ⟨ts₁ ++ ts₂, _, [], hrun₁.trans hrun₂, .free rfl, ?_, ?_, ?_⟩
      · simp [hcalls₁, hcalls₂, ConcurrentTransition.effects, ConcurrentTransition.cutOff,
          hcut h hh, hnot]
      · rw [List.flatMap_append, hwrites₁, hwrites₂]
        rfl
      · simp [hanswers₁, hanswers₂, ConcurrentTransition.answers, ConcurrentTransition.cutOff,
          hcut h hh, hnot]
  | storing c c' h sfmMode start time panelHz hc hh hwritten henter hstart htime hpanel =>
      obtain ⟨ts₁, hrun₁, hcalls₁, hwrites₁, hanswers₁⟩ :=
        run_written panelHz henter hstart htime
      obtain ⟨ts₂, hrun₂, hcalls₂, hwrites₂, hanswers₂⟩ := run_stop
        ⟨some { c' with mCurrentHz := h.step.hz },
          panelAfter panelHz ⟨h.step.sfmIndex, true, time⟩, s.now⟩
      rw [← hpanel] at hrun₁ hrun₂
      refine ⟨ts₁ ++ ts₂, _, [], hrun₁.trans hrun₂, .free rfl, ?_, ?_, ?_⟩
      · simp [hcalls₁, hcalls₂, ConcurrentTransition.effects, ConcurrentTransition.cutOff,
          hcut h hh, hwritten]
      · rw [List.flatMap_append, hwrites₁, hwrites₂]
        rfl
      · simp [hanswers₁, hanswers₂, ConcurrentTransition.answers, ConcurrentTransition.cutOff,
          hcut h hh, hwritten]

/-- `getCurrentHz` comes before a call that is under way. -/
theorem matched_read {c₁ : LtpoControl} (hc₁ : s.service = some c₁) (hpre : Pending s d pending) :
    Matched ⟨s, .getCurrentHz, [.answered c₁.mCurrentHz], s⟩ d pending := by
  cases hpre with
  | free hfree =>
      obtain ⟨ts, hrun, hcalls, hwrites, hanswers⟩ := run_read (c := c₁) s.panelHz s.now rfl
      rw [← hc₁] at hrun
      exact ⟨ts, _, [], hrun, .free hfree, hcalls, by rw [hwrites]; rfl, hanswers⟩
  | writing c c' h sfmMode start hc hh hnot henter hstart =>
      obtain rfl := Option.some.inj (hc₁.symm.trans hc)
      obtain ⟨ts, hrun, hcalls, hwrites, hanswers⟩ :=
        run_read s.panelHz start (LtpoControl.mCurrentHz_enter start henter)
      exact ⟨ts, _, [], hrun, .writing c c₁ h sfmMode start hc hh hnot henter hstart, hcalls,
        by rw [hwrites]; rfl, hanswers⟩
  | storing c c' h sfmMode start time panelHz hc hh hwritten henter hstart htime hpanel =>
      obtain rfl := Option.some.inj (hc₁.symm.trans hc)
      obtain ⟨ts, hrun, hcalls, hwrites, hanswers⟩ :=
        run_read panelHz start (LtpoControl.mCurrentHz_enter start henter)
      exact ⟨ts, _, _, hrun, .storing c c₁ h sfmMode start time panelHz hc hh hwritten henter
        hstart htime hpanel, hcalls, by rw [hwrites]; rfl, hanswers⟩

/-- Only a display with no call under way has the lock free. -/
theorem Pending.eq_of_free (hpre : Pending s d pending) (hfree : s.holder = none) :
    d = ⟨s.service, s.panelHz, s.now⟩ ∧ pending = [] := by
  cases hpre with
  | free => exact ⟨rfl, rfl⟩
  | writing _ _ h _ _ _ hh => simp [hfree] at hh
  | storing _ _ h _ _ _ _ _ hh => simp [hfree] at hh

/-- A `pwrite` that fails ends the call. -/
theorem matched_failed {holder : LockHolder} (hholder : s.holder = some holder)
    (hnot : holder.written = false) (hpre : Pending s d pending) :
    Matched ⟨s, .pwrite false,
      .wrote ⟨holder.step.sfmIndex, false, s.now⟩ :: answered holder.answer,
      { s with holder := none }⟩ d pending := by
  cases hpre with
  | free hfree => simp [hholder] at hfree
  | writing c c' h sfmMode start hc hh _ henter hstart =>
      obtain rfl := Option.some.inj (hholder.symm.trans hh)
      have hhandle := LtpoControl.handle_of_enter ⟨sfmMode, s.now - start, false⟩ start henter rfl
      rw [LtpoControl.finish] at hhandle
      simp only [Bool.false_eq_true, if_false, Nat.add_sub_cancel' hstart] at hhandle
      obtain ⟨ts, hrun, hcalls, hwrites, hanswers⟩ := run_call s.panelHz hhandle
      simp only [List.foldl_cons, List.foldl_nil, Nat.add_sub_cancel' hstart] at hrun
      rw [← hc] at hrun
      refine ⟨ts, _, [], hrun, .free rfl, ?_, ?_, ?_⟩
      · simp [hcalls, ConcurrentTransition.effects, hholder]
      · simp [hwrites, ConcurrentTransition.writes, answered]
      · simp [hanswers, ConcurrentTransition.answers, ConcurrentTransition.cutOff, answered]
  | storing c c' h sfmMode start time panelHz hc hh hwritten =>
      obtain rfl := Option.some.inj (hholder.symm.trans hh)
      simp [hnot] at hwritten

/-- With the store to `mCurrentHz` the call takes effect. -/
theorem matched_stored {c₁ : LtpoControl} {holder : LockHolder} (hc₁ : s.service = some c₁)
    (hholder : s.holder = some holder) (hwritten : holder.written = true)
    (hpre : Pending s d pending) :
    Matched ⟨s, .store, answered holder.answer,
      { s with service := some { c₁ with mCurrentHz := holder.step.hz }, holder := none }⟩
      d pending := by
  cases hpre with
  | free hfree => simp [hholder] at hfree
  | writing c c' h sfmMode start hc hh hnot =>
      obtain rfl := Option.some.inj (hholder.symm.trans hh)
      simp [hwritten] at hnot
  | storing c c' h sfmMode start time panelHz hc hh _ henter hstart htime hpanel =>
      obtain rfl := Option.some.inj (hholder.symm.trans hh)
      obtain rfl := Option.some.inj (hc₁.symm.trans hc)
      obtain ⟨ts, hrun, hcalls, hwrites, hanswers⟩ := run_written panelHz henter hstart htime
      rw [← hpanel] at hrun
      refine ⟨ts, _, [], hrun, .free rfl, ?_, ?_, ?_⟩
      · simp [hcalls, ConcurrentTransition.effects, hholder]
      · simp [hwrites, ConcurrentTransition.writes, answered]
      · simp [hanswers, ConcurrentTransition.answers, ConcurrentTransition.cutOff, answered]

end

/-- **Every step is matched.**  The calls one after the other follow the step of the calls on
several threads. -/
theorem pending_step {t : ConcurrentTransition} (h : concurrentMachine.Takes t) {d : Display}
    {pending : List SfmWrite} (hpre : Pending t.pre d pending) : Matched t d pending := by
  cases concurrentStep_of_takes h with
  | ticked s nanos => exact matched_tick nanos hpre
  | stopped s => exact matched_stop hpre
  | read s c hc => exact matched_read hc hpre
  | failed s holder hholder hnot => exact matched_failed hholder hnot hpre
  | stored s c holder hc hholder hwritten => exact matched_stored hc hholder hwritten hpre
  | runs s fd c hc => exact ⟨[], d, pending, .start, hpre, rfl, by simp; rfl, rfl⟩
  | started s fd hnone =>
      cases hpre with
      | free hfree =>
          have hstep : displayMachine.step ⟨s.service, s.panelHz, s.now⟩ (.start fd) =
              some (⟨some (.construct fd), s.panelHz, s.now⟩, []) := by
            simp only [displayMachine, Display.step, hnone]
          exact ⟨_, _, [], Machine.Run.start.next hstep, .free hfree, rfl, rfl, rfl⟩
      | writing c c' h sfmMode start hc => simp [hnone] at hc
      | storing c c' h sfmMode start time panelHz hc => simp [hnone] at hc
  | passed s call sfmMode c c' answer hc hfree henter =>
      obtain ⟨rfl, rfl⟩ := hpre.eq_of_free hfree
      have hhandle := LtpoControl.handle_of_enter ⟨sfmMode, 0, true⟩ s.now henter rfl
      obtain ⟨ts, hrun, hcalls, hwrites, hanswers⟩ := run_call s.panelHz hhandle
      rw [hc]
      refine ⟨ts, _, [], hrun, .free hfree, ?_, ?_, ?_⟩
      · simp [hcalls, ConcurrentTransition.effects, hfree]
      · simp [hwrites, ConcurrentTransition.writes, answered]
      · simp [hanswers, ConcurrentTransition.answers, ConcurrentTransition.cutOff, answered]
  | entered s call sfmMode c c' step answer hc hfree henter =>
      obtain ⟨rfl, rfl⟩ := hpre.eq_of_free hfree
      rw [hc]
      refine ⟨[], _, [], .start, .writing c c' ⟨call, step, answer, false⟩ sfmMode s.now rfl
        rfl rfl henter le_rfl, ?_, rfl, rfl⟩
      simp [ConcurrentTransition.effects]
  | wrote s holder hholder hnot =>
      cases hpre with
      | free hfree => simp [hholder] at hfree
      | writing c c' h sfmMode start hc hh _ henter hstart =>
          obtain rfl := Option.some.inj (hholder.symm.trans hh)
          exact ⟨[], _, _, .start, .storing c c' { holder with written := true } sfmMode start s.now
            s.panelHz hc rfl rfl henter hstart le_rfl rfl, rfl, rfl, rfl⟩
      | storing c c' h sfmMode start time panelHz hc hh hwritten =>
          obtain rfl := Option.some.inj (hholder.symm.trans hh)
          simp [hnot] at hwritten

/-! ## Whole runs -/

variable {d₀ : Display} {ts : List ConcurrentTransition} {s : ConcurrentDisplay}

/-- A run on several threads, and the calls one after the other behind it, with the call under
way left to come. -/
theorem pending_of_run (hrun : concurrentMachine.Run (.of d₀) ts s) :
    ∃ ts' d, displayMachine.Run d₀ ts' d ∧ ∃ pending, Pending s d pending ∧
      ts'.flatMap DisplayTransition.calls = ts.flatMap ConcurrentTransition.effects ∧
      ts'.flatMap DisplayTransition.writes ++ pending = ts.flatMap ConcurrentTransition.writes ∧
      ts'.flatMap DisplayTransition.answers = ts.flatMap ConcurrentTransition.answers := by
  refine hrun.simulate_of_relation (G := fun _ => True) (R := fun ts s ts' d =>
    ∃ pending, Pending s d pending ∧
      ts'.flatMap DisplayTransition.calls = ts.flatMap ConcurrentTransition.effects ∧
      ts'.flatMap DisplayTransition.writes ++ pending = ts.flatMap ConcurrentTransition.writes ∧
      ts'.flatMap DisplayTransition.answers = ts.flatMap ConcurrentTransition.answers)
    ⟨[], .free rfl, rfl, rfl, rfl⟩ ?_ fun _ _ => trivial
  rintro ts t ts₁ d hstep - ⟨pending, hpending, hcalls, hwrites, hanswers⟩
  obtain ⟨ts₂, d', pending', hrun₂, hpending', hmatch⟩ := pending_step hstep hpending
  refine ⟨ts₂, d', hrun₂, pending', hpending', ?_, ?_, ?_⟩
  · simp only [List.flatMap_append, List.flatMap_singleton, hcalls, hmatch.calls]
  · rw [List.flatMap_append, List.append_assoc, hmatch.writes, ← List.append_assoc, hwrites,
      List.flatMap_append, List.flatMap_singleton]
  · simp only [List.flatMap_append, List.flatMap_singleton, hanswers, hmatch.answers]

/-- **Calls on several threads are calls one after the other.**  A run of the service on
several threads that ends with no call under way is a run with the same end in which each
call is one step.  There the calls come in the order in which they took effect, each at one
step between its beginning and its end; they make the same writes, at the same times, and
give the same answers, with that of a call that init has cut off after its `pwrite`. -/
theorem linearizable (hrun : concurrentMachine.Run (.of d₀) ts s) (hfree : s.holder = none) :
    ∃ ts', displayMachine.Run d₀ ts' ⟨s.service, s.panelHz, s.now⟩ ∧
      ts'.flatMap DisplayTransition.calls = ts.flatMap ConcurrentTransition.effects ∧
      ts'.flatMap DisplayTransition.writes = ts.flatMap ConcurrentTransition.writes ∧
      ts'.flatMap DisplayTransition.answers = ts.flatMap ConcurrentTransition.answers := by
  obtain ⟨ts', d, hrun', pending, hpending, hcalls, hwrites, hanswers⟩ := pending_of_run hrun
  obtain ⟨rfl, rfl⟩ := hpending.eq_of_free hfree
  rw [List.append_nil] at hwrites
  exact ⟨ts', hrun', hcalls, hwrites, hanswers⟩

/-- `getCurrentHz` comes between the `pwrite` of another thread's `setTargetHz` and its store:
it answers the rate before, and comes first. -/
theorem linearizable_read :
    ∃ (ts : List ConcurrentTransition) (s : ConcurrentDisplay) (ts' : List DisplayTransition),
      concurrentMachine.Run (.of (.running 3 120 0)) ts s ∧ s.panelHz = 60 ∧
      ts.flatMap ConcurrentTransition.effects = [.getCurrentHz, .setTargetHz 50] ∧
      ts.flatMap ConcurrentTransition.answers = [120, 60] ∧
      displayMachine.Run (.running 3 120 0) ts' ⟨s.service, s.panelHz, s.now⟩ ∧
      ts'.flatMap DisplayTransition.calls = ts.flatMap ConcurrentTransition.effects ∧
      ts'.flatMap DisplayTransition.writes = ts.flatMap ConcurrentTransition.writes ∧
      ts'.flatMap DisplayTransition.answers = ts.flatMap ConcurrentTransition.answers := by
  obtain ⟨ts, s, hrun, hpanel, heffects, hanswers, hfree⟩ :
      ∃ (ts : List ConcurrentTransition) (s : ConcurrentDisplay),
        concurrentMachine.Run (.of (.running 3 120 0)) ts s ∧ s.panelHz = 60 ∧
        ts.flatMap ConcurrentTransition.effects = [.getCurrentHz, .setTargetHz 50] ∧
        ts.flatMap ConcurrentTransition.answers = [120, 60] ∧ s.holder = none :=
    Machine.exists_run_of_exec [.lock (.setTargetHz 50) "vrr", .tick 5, .pwrite true,
      .getCurrentHz, .tick 2, .store] (by decide)
  obtain ⟨ts', hrun', hcalls, hwrites, hsame⟩ := linearizable hrun hfree
  exact ⟨ts, s, ts', hrun, hpanel, heffects, hanswers, hrun', hcalls, hwrites, hsame⟩

end Ltpo
