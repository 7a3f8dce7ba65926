/-
# High-brightness mode

The session writes `1` to the FOD node when the device accepts an `enroll` or an
`authenticate`, and is to write `0` again when the operation is over.  A match, a
`cancel` and a `close` do that.  The messages that end an operation without a match,
`FINGERPRINT_ERROR` and the last `FINGERPRINT_TEMPLATE_ENROLLING`, do not, and no
message does that `Fingerprint::notify` drops.

`hbm_off_iff` takes runs in which jobs and messages are atomic and `onUiReady`, which
also writes `1`, is not called: whenever no operation is outstanding the node is off,
exactly if none of these messages comes while it is on.
-/
import PongHal.CrossSession

namespace Fingerprint

variable {boot : ℕ} {ts : List HalTransition} {hal : Hal}

/-! ## The node -/

/-- The node after an effect. -/
def Effect.hbmAfter (status : Bool) : Effect → Bool
  | .setFodHbm status => status
  | .callback _ | .device _ | .startTimer _ => status

/-- The node after some effects. -/
def hbmAfter (status : Bool) (es : List Effect) : Bool := es.foldl Effect.hbmAfter status

/-- The node after a run: the last value `setFodHbm` wrote, and off at first. -/
def hbm (ts : List HalTransition) : Bool := hbmAfter false ((effects ts).map Prod.snd)

@[simp] theorem hbmAfter_nil (status : Bool) : hbmAfter status [] = status := rfl

@[simp] theorem hbmAfter_append (status : Bool) (es es' : List Effect) :
    hbmAfter status (es ++ es') = hbmAfter (hbmAfter status es) es' :=
  List.foldl_append

theorem hbm_append_singleton (t : HalTransition) :
    hbm (ts ++ [t]) = hbmAfter (hbm ts) (t.out.map Prod.snd) := by
  rw [hbm, effects_append_singleton, List.map_append, hbmAfter_append]
  rfl

/-- Code that never writes `1` leaves the node on only if it was on. -/
theorem hbm_of_hbmAfter {status : Bool} {es : List Effect} (hnever : .setFodHbm true ∉ es)
    (hon : hbmAfter status es = true) : status = true := by
  induction es generalizing status with
  | nil => exact hon
  | cons e es ih =>
      rw [List.mem_cons, not_or] at hnever
      have hfirst : e.hbmAfter status = true := ih hnever.2 hon
      cases e with
      | setFodHbm b =>
          obtain rfl : b = true := hfirst
          exact absurd rfl hnever.1
      | _ => exact hfirst

/-! ## Operations -/

/-- The message ends the operation on the device. -/
def FingerprintMsg.endsOperation : FingerprintMsg → Bool
  | .error _ => true
  | .templateEnrolling _ samplesRemaining => decide (samplesRemaining = 0)
  | .authenticated finger _ => decide (finger.fid ≠ 0)
  | .acquired _ | .templateRemoved _ _ | .templateEnumerating _ _ | .other _ => false

/-- Whether an operation is outstanding after a job: `enroll` and `authenticate` start
one if the device accepts, `cancel` and `close` end it. -/
def Session.Job.outstandingAfter (outstanding : Bool) (r : DeviceReplies) :
    Session.Job → Bool
  | .enroll _ | .authenticate _ => decide (r.code = 0) || outstanding
  | .cancel | .close => false
  | .generateChallenge | .revokeChallenge _ | .detectInteraction | .enumerateEnrollments
  | .removeEnrollments _ | .getAuthenticatorId | .invalidateAuthenticatorId | .resetLockout
  | .onPointerDown | .onPointerUp => outstanding

/-- Whether an operation is outstanding after a step. -/
def HalTransition.outstandingAfter (outstanding : Bool) (t : HalTransition) : Bool :=
  match t.label with
  | .take r =>
      match t.pre.queue.head? with
      | none => outstanding
      | some p => p.2.outstandingAfter outstanding r
  | .message msg => !msg.endsOperation && outstanding
  | .tick _ | .createSession _ | .call _ _ | .perform | .expire _ _ => outstanding

/-- Whether an `enroll` or `authenticate` started on the device is outstanding after a
run. -/
def outstanding (ts : List HalTransition) : Bool :=
  ts.foldl HalTransition.outstandingAfter false

theorem outstanding_append_singleton (t : HalTransition) :
    outstanding (ts ++ [t]) = t.outstandingAfter (outstanding ts) := by
  simp [outstanding, List.foldl_append]

/-- The worker is in the middle of no job, unless the step is one of that job. -/
def HalTransition.Atomic (t : HalTransition) : Prop :=
  t.label = .perform ∨ t.pre.running = []

instance (t : HalTransition) : Decidable t.Atomic := inferInstanceAs (Decidable (_ ∨ _))

/-- The step is a call of `onUiReady`. -/
def HalTransition.isUiReady (t : HalTransition) : Bool :=
  match t.label with
  | .call _ c => decide (c = .onUiReady)
  | _ => false

/-- The step is a message that ends the operation, other than a match that reaches the
open session. -/
def HalTransition.endsUnlit (t : HalTransition) : Bool :=
  match t.label with
  | .message (.authenticated finger hat) =>
      (FingerprintMsg.authenticated finger hat).endsOperation && !t.pre.openSession.isSome
  | .message msg => msg.endsOperation
  | _ => false

/-! ## Which code writes `1` -/

theorem never_lights_call {c : Session.Call} (hc : c ≠ .onUiReady) (s : Session) :
    .setFodHbm true ∉ (s.call c).2.1 := by
  intro hmem
  rcases mem_call hmem with ⟨hui, -⟩ | ⟨-, heq⟩
  · exact hc hui
  · simp at heq

theorem never_lights_lockoutTimerExpired (s : Session) :
    .setFodHbm true ∉ s.lockoutTimerExpired.2 := by
  intro hmem
  simpa using mem_lockoutTimerExpired hmem

section

variable [Util]

theorem never_lights_notify (s : Session) (enrollments : List Int32) (msg : FingerprintMsg)
    (now : ℕ) : .setFodHbm true ∉ (s.notify enrollments msg now).2.2 := by
  intro hmem
  exact Bool.noConfusion (ofMessage_notify s now enrollments msg _ hmem)

/-- A job leaves the node on only if an operation is outstanding after it. -/
theorem outstandingAfter_of_runJob {s : Session} {j : Session.Job} {r : DeviceReplies}
    {now : ℕ} {status outstanding : Bool} (hbefore : status = true → outstanding = true)
    (hon : hbmAfter status (s.runJob j r now).2 = true) :
    j.outstandingAfter outstanding r = true := by
  have hnever : ∀ {es}, .setFodHbm true ∉ es → hbmAfter status es = true → outstanding = true :=
    fun hes hon => hbefore (hbm_of_hbmAfter hes hon)
  cases j with
  | enroll hat =>
      by_cases hcode : r.code = 0
      · simp [Session.Job.outstandingAfter, hcode]
      · have hold : outstanding = true := hnever (by simp [Session.runJob, hcode]) hon
        simp [Session.Job.outstandingAfter, hold]
  | authenticate operationId =>
      by_cases hcode : r.code = 0
      · simp [Session.Job.outstandingAfter, hcode]
      · have hold : outstanding = true := hnever (by simp [Session.runJob, hcode]) hon
        simp [Session.Job.outstandingAfter, hold]
  | cancel =>
      by_cases hcode : r.code = 0 <;>
        simp [Session.runJob, hcode, hbmAfter, Effect.hbmAfter] at hon
  | close => simp [Session.runJob, hbmAfter, Effect.hbmAfter] at hon
  | onPointerDown =>
      refine hnever (fun hmem => ?_) hon
      rcases List.mem_cons.1 hmem with heq | hmem
      · simp at heq
      · exact Bool.noConfusion (ofLockoutCheck_checkSensorLockout s now _ hmem)
  | _ => exact hnever (by simp [Session.runJob, Session.clearLockout]) hon

/-! ## Whole runs -/

/-- The node is on, once the worker has finished its job, only while an operation is
outstanding. -/
def LitOnlyOutstanding (ts : List HalTransition) (hal : Hal) : Prop :=
  hbmAfter (hbm ts) (hal.running.map Prod.snd) = true → outstanding ts = true

omit [Util] in
/-- A step that leaves the worker and the operations alone, and never writes `1`. -/
theorem LitOnlyOutstanding.quiet {t : HalTransition} (h : LitOnlyOutstanding ts t.pre)
    (hatomic : t.pre.running = []) (hrunning : t.post.running = t.pre.running)
    (hsame : t.outstandingAfter (outstanding ts) = outstanding ts)
    (hnever : .setFodHbm true ∉ t.out.map Prod.snd) :
    LitOnlyOutstanding (ts ++ [t]) t.post := by
  intro hon
  rw [hrunning, hatomic, List.map_nil, hbmAfter_nil, hbm_append_singleton] at hon
  rw [outstanding_append_singleton, hsame]
  refine h ?_
  rw [hatomic, List.map_nil, hbmAfter_nil]
  exact hbm_of_hbmAfter hnever hon

omit [Util] in
/-- The effects of one session, without its number. -/
theorem map_snd_map (i : ℕ) (es : List Effect) :
    (es.map fun e => (i, e)).map Prod.snd = es := by
  rw [List.map_map]
  exact List.map_id es

/-- One step keeps this, unless it is a message that ends the operation with the node
on. -/
theorem litOnlyOutstanding_step {t : HalTransition} (h : halMachine.Takes t)
    (hatomic : t.Atomic) (hui : t.isUiReady = false)
    (hlit : t.endsUnlit = true → hbm ts = false) (ih : LitOnlyOutstanding ts t.pre) :
    LitOnlyOutstanding (ts ++ [t]) t.post := by
  cases halStep_of_takes h with
  | tick hal nanos => exact ih.quiet (hatomic.resolve_left (by simp)) rfl rfl (by simp)
  | createSession hal userId hopen =>
      exact ih.quiet (hatomic.resolve_left (by simp)) rfl rfl (by simp)
  | call hal i c st hi =>
      refine ih.quiet (hatomic.resolve_left (by simp)) rfl rfl ?_
      rw [map_snd_map]
      exact never_lights_call (by simpa [HalTransition.isUiReady] using hui) st.session
  | take hal r i j rest st hrunning hqueue hi =>
      intro hon
      rw [hbm_append_singleton, List.map_nil, hbmAfter_nil, map_snd_map] at hon
      rw [outstanding_append_singleton]
      simp only [HalTransition.outstandingAfter, hqueue, List.head?_cons]
      refine outstandingAfter_of_runJob (fun hstatus => ih ?_) hon
      rw [hrunning]
      exact hstatus
  | perform hal p rest hperform =>
      intro hon
      rw [hbm_append_singleton] at hon
      rw [outstanding_append_singleton]
      refine ih ?_
      rw [hperform]
      exact hon
  | expire hal i timer st wake hi htimer hwake =>
      refine ih.quiet (hatomic.resolve_left (by simp)) rfl rfl ?_
      rw [map_snd_map]
      exact never_lights_lockoutTimerExpired st.session
  | dropped hal msg hopen =>
      have hidle : hal.running = [] := hatomic.resolve_left (by simp)
      cases hends : msg.endsOperation with
      | false =>
          exact ih.quiet hidle rfl (by simp [HalTransition.outstandingAfter, hends]) (by simp)
      | true =>
          -- the operation is over and nobody has heard of it
          have hoff : hbm ts = false := by
            refine hlit ?_
            cases msg <;> simp_all [HalTransition.endsUnlit]
          intro hon
          rw [hidle, hbm_append_singleton, hoff] at hon
          exact Bool.noConfusion hon
  | message hal msg i st hopen =>
      have hidle : hal.running = [] := hatomic.resolve_left (by simp)
      have hnever := never_lights_notify st.session hal.enrollments msg hal.now
      cases hends : msg.endsOperation with
      | false =>
          refine ih.quiet hidle rfl (by simp [HalTransition.outstandingAfter, hends]) ?_
          rw [map_snd_map]
          exact hnever
      | true =>
          intro hon
          rw [hbm_append_singleton, map_snd_map] at hon
          have hon' : hbmAfter (hbm ts)
              (st.session.notify hal.enrollments msg hal.now).2.2 = true := by
            rw [hidle] at hon
            exact hon
          cases msg with
          | authenticated finger hat =>
              -- a match switches the node off
              have hfid : finger.fid ≠ 0 := by simpa [FingerprintMsg.endsOperation] using hends
              simp [Session.notify, hfid, hbmAfter, Effect.hbmAfter] at hon'
          | _ =>
              have hoff : hbm ts = false := hlit (by simpa [HalTransition.endsUnlit] using hends)
              rw [hbm_of_hbmAfter hnever hon'] at hoff
              exact Bool.noConfusion hoff

/-- A message that ends the operation, other than a match that reaches the session,
leaves the node as it is. -/
theorem hbm_of_endsUnlit (ts : List HalTransition) {t : HalTransition} (h : halMachine.Takes t)
    (hends : t.endsUnlit = true) :
    hbm (ts ++ [t]) = hbm ts ∧ outstanding (ts ++ [t]) = false ∧
      t.label ≠ .perform ∧ t.post.running = t.pre.running := by
  rw [hbm_append_singleton, outstanding_append_singleton]
  cases halStep_of_takes h with
  | dropped hal msg hopen =>
      refine ⟨rfl, ?_, by simp, rfl⟩
      cases msg <;> simp_all [HalTransition.endsUnlit, HalTransition.outstandingAfter]
  | message hal msg i st hopen =>
      cases msg with
      | authenticated finger hat => simp [HalTransition.endsUnlit, hopen] at hends
      | error error =>
          refine ⟨?_, rfl, by simp, rfl⟩
          simp [Session.notify, hbmAfter, Effect.hbmAfter]
      | templateEnrolling finger remaining =>
          have hlast : remaining = 0 := by
            simpa [HalTransition.endsUnlit, FingerprintMsg.endsOperation] using hends
          refine ⟨?_, ?_, by simp, rfl⟩
          · simp [Session.notify, hbmAfter, Effect.hbmAfter]
          · simp [HalTransition.outstandingAfter, FingerprintMsg.endsOperation, hlast]
      | _ => simp [HalTransition.endsUnlit, FingerprintMsg.endsOperation] at hends
  | _ => simp [HalTransition.endsUnlit] at hends

/-- A run in which no message ends an operation with the node on. -/
theorem litOnlyOutstanding_of_run (hrun : halMachine.Run (.init boot) ts hal)
    (hatomic : ∀ t ∈ ts, HalTransition.Atomic t) (hui : ∀ t ∈ ts, HalTransition.isUiReady t = false)
    (hlit : ∀ before t after, ts = before ++ t :: after →
      HalTransition.endsUnlit t = true → hbm before = false) :
    LitOnlyOutstanding ts hal := by
  revert hatomic hui hlit
  refine hrun.history (I := fun ts hal => (∀ t ∈ ts, HalTransition.Atomic t) →
    (∀ t ∈ ts, HalTransition.isUiReady t = false) →
    (∀ before t after, ts = before ++ t :: after →
      HalTransition.endsUnlit t = true → hbm before = false) → LitOnlyOutstanding ts hal) ?_ ?_
  · intro _ _ _ hon
    simp [hbm, effects, hbmAfter, Hal.init] at hon
  · intro ts t hrun hstep ih hatomic hui hlit
    have hlast : t ∈ ts ++ [t] := List.mem_append_right _ (List.mem_singleton_self t)
    refine litOnlyOutstanding_step hstep (hatomic t hlast) (hui t hlast) (hlit ts t [] rfl) ?_
    refine ih (fun t' ht' => hatomic t' (List.mem_append_left _ ht'))
      (fun t' ht' => hui t' (List.mem_append_left _ ht')) ?_
    rintro before t' after rfl hends
    exact hlit before t' (after ++ [t]) (by simp) hends

/-- **Exactly when high-brightness mode ends with its operation.**  In a run with atomic
jobs and without `onUiReady`: at every point of the run at which the worker is in no
job and no operation is outstanding the node is off, if and only if no message that
ends an operation comes while the node is on, other than a match that reaches the
open session. -/
theorem hbm_off_iff (hrun : halMachine.Run (.init boot) ts hal)
    (hatomic : ∀ t ∈ ts, t.Atomic) (hui : ∀ t ∈ ts, t.isUiReady = false) :
    (∀ before hal₁, before <+: ts → halMachine.Run (.init boot) before hal₁ →
      hal₁.running = [] → outstanding before = false → hbm before = false) ↔
    ∀ before t after, ts = before ++ t :: after → t.endsUnlit = true → hbm before = false := by
  constructor
  · rintro hoff before t after rfl hends
    obtain ⟨hrun₁, hstep, -⟩ := hrun.of_append_cons
    obtain ⟨hsame, hover, hlabel, hrunning⟩ := hbm_of_endsUnlit before hstep hends
    have hidle : t.post.running = [] := by
      rw [hrunning]
      exact (hatomic t (by simp)).resolve_left hlabel
    rw [← hsame]
    exact hoff (before ++ [t]) t.post ⟨after, by simp⟩ (hrun₁.next hstep) hidle hover
  · rintro hlit before hal₁ ⟨after, rfl⟩ hrun₁ hidle hnone
    have hon := litOnlyOutstanding_of_run hrun₁
      (fun t ht => hatomic t (List.mem_append_left _ ht))
      (fun t ht => hui t (List.mem_append_left _ ht))
      (fun before' t after' heq => hlit before' t (after' ++ after) (by simp [heq]))
    rw [LitOnlyOutstanding, hidle, List.map_nil, hbmAfter_nil, hnone] at hon
    exact Bool.eq_false_iff.2 fun hlit => Bool.noConfusion (hon hlit)

end

/-- A match ends the operation and the high-brightness mode. -/
theorem hbm_off_iff_match :
    ∃ (ts : List HalTransition) (hal : Hal), halMachine.Run (.init 0) ts hal ∧
      (0, Effect.setFodHbm true) ∈ effects ts ∧ hbm ts = false := by
  have hmatch : ∃ (ts : List HalTransition) (hal : Hal), halMachine.Run (.init 0) ts hal ∧
      (∀ t ∈ ts, HalTransition.Atomic t) ∧ (∀ t ∈ ts, HalTransition.isUiReady t = false) ∧
      (∀ t ∈ ts, HalTransition.endsUnlit t = false) ∧ hal.running = [] ∧
      outstanding ts = false ∧ (0, Effect.setFodHbm true) ∈ effects ts :=
    Machine.exists_run_of_exec
      [.createSession 0, .call 0 (.authenticate 1), .take .zero, .perform, .perform,
        .message (.authenticated ⟨0, 7⟩ .zero)] (by decide)
  obtain ⟨ts, hal, hrun, hatomic, hui, hnone, hidle, hover, hlit⟩ := hmatch
  refine ⟨ts, hal, hrun, hlit, ?_⟩
  refine (hbm_off_iff hrun hatomic hui).2 ?_ ts hal (List.prefix_refl ts) hrun hidle hover
  rintro before t after rfl hends
  rw [hnone t (by simp)] at hends
  exact Bool.noConfusion hends

/-- An authentication that times out leaves the node on. -/
theorem hbm_on_after_timeout :
    ∃ (ts : List HalTransition) (hal : Hal), halMachine.Run (.init 0) ts hal ∧
      (∀ t ∈ ts, HalTransition.Atomic t) ∧ (∀ t ∈ ts, HalTransition.isUiReady t = false) ∧
      hal.running = [] ∧ outstanding ts = false ∧ hbm ts = true :=
  Machine.exists_run_of_exec
    [.createSession 0, .call 0 (.authenticate 1), .take .zero, .perform, .perform,
      .message (.error 3)] (by decide)

end Fingerprint
