/-
# Callbacks after `onSessionClosed`

`close` marks the session closed and tells its client at once, on the caller's thread.
Messages of the device are stopped by `Fingerprint::notify` from then on, and the death of
the client by `onClientDeath`, unless they have got past their test before.  Nothing
stops the other ways to a callback: a second `close`, a job that was waiting or is asked
for afterwards, what the worker or another thread is in the middle of, and a lockout timer.

`late` names the steps that open one of these ways, by what is known before the step.
`silent_after_close` : a run without such steps makes no callback of the session after
`onSessionClosed`; and if nothing is left to be performed at the end of the run, a run
with one of them makes one.
-/
import PongHal.CrossSession
import PongHal.ThreadedHal

namespace Fingerprint

variable {boot i : ℕ} {ts : List ThreadedTransition} {s : ThreadedHal} {hal : Hal}

/-! ## Callbacks of a session -/

/-- The effect is a callback. -/
def Effect.isCallback : Effect → Bool
  | .callback _ => true
  | .device _ | .setFodHbm _ | .startTimer _ => false

/-- No callback of session `i` comes after its `onSessionClosed`. -/
def SilentAfterClose (i : ℕ) (es : List (ℕ × Effect)) : Prop :=
  es.Pairwise fun p q => p = (i, .callback .onSessionClosed) →
    ¬ (q.1 = i ∧ q.2.isCallback = true)

/-- Session `i` exists and is closed. -/
def Hal.isClosed (hal : Hal) (i : ℕ) : Bool :=
  match hal.sessions[i]? with
  | none => false
  | some st => st.session.mClosed

/-- A callback of session `i` is among that. -/
def ThreadedHal.owesCallback (s : ThreadedHal) (i : ℕ) : Bool :=
  s.unperformed.any fun p => decide (p.1 = i) && p.2.isCallback

/-- The job makes a callback, given the session, the device's answers and the time. -/
def Session.Job.callsBack [Util] (j : Session.Job) (s : Session) (r : DeviceReplies)
    (now : ℕ) : Bool :=
  match j with
  | .generateChallenge | .revokeChallenge _ | .detectInteraction | .getAuthenticatorId
  | .invalidateAuthenticatorId | .resetLockout => true
  | .enroll _ | .authenticate _ => decide (r.code ≠ 0)
  | .cancel => decide (r.code = 0)
  | .onPointerDown => decide ((s.mLockoutTracker.getMode now).1 ≠ .none)
  | .enumerateEnrollments | .removeEnrollments _ | .onPointerUp | .close => false

/-- The message becomes a callback. -/
def FingerprintMsg.callsBack : FingerprintMsg → Bool
  | .error _ | .templateEnrolling _ _ | .templateRemoved _ _ | .authenticated _ _ => true
  | .acquired info => decide ((Session.vendorAcquiredFilter info).1 ≠ .vendor)
  | .templateEnumerating _ remainingTemplates => decide (remainingTemplates = 0)
  | .other _ => false

/-- The step opens a way to a callback of session `i` after its `onSessionClosed`: it
closes the session a second time, or while a callback is still to be made; the worker
takes a job of the closed session that calls back; or a thread that is past its test goes
on although the session is closed, with a message that calls back or to clear the
lockout. -/
def ThreadedTransition.late [Util] (i : ℕ) (t : ThreadedTransition) : Bool :=
  match t.label with
  | .hal (.call k .close) => decide (k = i) && (t.pre.hal.isClosed i || t.pre.owesCallback i)
  | .hal (.take r) =>
      match t.pre.hal.sessions[i]? with
      | none => false
      | some st => st.session.mClosed && t.pre.hal.queue.head?.any fun p =>
          decide (p.1 = i) && p.2.callsBack st.session r t.pre.hal.now
  | .enter n =>
      match t.pre.threads[n]? with
      | some (.notifying msg) =>
          decide (t.pre.hal.sessions.length = i + 1) && t.pre.hal.isClosed i && msg.callsBack
      | some (.clearing k) => decide (k = i) && t.pre.hal.isClosed i
      | some (.closing k) => decide (k = i) && (t.pre.hal.isClosed i || t.pre.owesCallback i)
      | _ => false
  | .hal _ | .perform _ => false

theorem owesCallback_eq_true :
    s.owesCallback i = true ↔ ∃ p ∈ s.unperformed, p.1 = i ∧ p.2.isCallback = true := by
  simp [ThreadedHal.owesCallback]

/-! ## Which code calls back, and which closes -/

/-- A client call makes no callback but `onSessionClosed`, and that one only if it
closes the session. -/
theorem call_eq (s : Session) (c : Session.Call) :
    ((s.call c).1.mClosed = s.mClosed ∧ ∀ e ∈ (s.call c).2.1, e.isCallback = false) ∨
    ((s.call c).1.mClosed = true ∧ (s.call c).2.1 = [.callback .onSessionClosed] ∧
      (c = .close ∨ c = .clientDeath ∧ s.mClosed = false)) := by
  cases c with
  | close => exact .inr ⟨rfl, rfl, .inl rfl⟩
  | clientDeath =>
      cases hclosed : s.mClosed with
      | true => exact .inl ⟨by simp [Session.call, hclosed], by simp [Session.call, hclosed]⟩
      | false =>
          exact .inr ⟨by simp [Session.call, Session.close, hclosed],
            by simp [Session.call, Session.close, hclosed], .inr ⟨rfl, rfl⟩⟩
  | _ => exact .inl ⟨rfl, by simp [Session.call, Effect.isCallback]⟩

section

variable [Util]

/-- The check of the lockout calls back if there is one. -/
theorem any_isCallback_checkSensorLockout (s : Session) (now : ℕ) :
    (s.checkSensorLockout now).2.1.any Effect.isCallback =
      decide ((s.mLockoutTracker.getMode now).1 ≠ .none) := by
  unfold Session.checkSensorLockout
  simp only
  split
  · rename_i hmode
    simp [hmode, Effect.isCallback]
  · rename_i hmode
    split <;> simp [hmode, Effect.isCallback]
  · rename_i hmode
    simp [hmode]

/-- A job makes a callback exactly if `callsBack` says so. -/
theorem any_isCallback_runJob (s : Session) (j : Session.Job) (r : DeviceReplies) (now : ℕ) :
    (s.runJob j r now).2.any Effect.isCallback = j.callsBack s r now := by
  cases j with
  | onPointerDown => exact any_isCallback_checkSensorLockout s now
  | removeEnrollments ids =>
      simp [Session.runJob, Session.Job.callsBack, Effect.isCallback]
  | enroll hat =>
      by_cases hcode : r.code = 0 <;>
        simp [Session.runJob, Session.Job.callsBack, hcode, Effect.isCallback]
  | authenticate operationId =>
      by_cases hcode : r.code = 0 <;>
        simp [Session.runJob, Session.Job.callsBack, hcode, Effect.isCallback]
  | cancel =>
      by_cases hcode : r.code = 0 <;>
        simp [Session.runJob, Session.Job.callsBack, hcode, Effect.isCallback]
  | _ => rfl

/-- The effects of a message have a callback exactly if `callsBack` says so. -/
theorem any_isCallback_notify (s : Session) (enrollments : List Int32) (msg : FingerprintMsg)
    (now : ℕ) : (s.notify enrollments msg now).2.2.any Effect.isCallback = msg.callsBack := by
  cases msg with
  | authenticated finger hat =>
      unfold Session.notify
      simp only
      split <;> simp [FingerprintMsg.callsBack, Effect.isCallback]
  | acquired info =>
      unfold Session.notify
      simp only
      split
      · rename_i hvendor
        simp [FingerprintMsg.callsBack, hvendor, Effect.isCallback]
      · rename_i hvendor
        simp [FingerprintMsg.callsBack, hvendor]
  | templateEnumerating finger remainingTemplates =>
      by_cases hlast : remainingTemplates = 0 <;>
        simp [Session.notify, FingerprintMsg.callsBack, hlast, Effect.isCallback]
  | _ => simp [Session.notify, FingerprintMsg.callsBack, Effect.isCallback]

/-! ## What a step does to a closed session -/

/-- The step of the service closes session `i`. -/
def HalTransition.closes (i : ℕ) (t : HalTransition) : Bool :=
  match t.label with
  | .call k c => decide (k = i) && decide (c = .close ∨ c = .clientDeath)
  | _ => false

/-- The step closes session `i`. -/
def ThreadedTransition.closes (i : ℕ) (t : ThreadedTransition) : Bool :=
  match t.label with
  | .hal (.call k .close) => decide (k = i)
  | .enter n => decide (t.pre.threads[n]? = some (.closing i))
  | _ => false

omit [Util] in
theorem isClosed_of_set {hal hal' : Hal} {k : ℕ} {st st' : SessionState}
    (hk : hal.sessions[k]? = some st) (hsessions : hal'.sessions = hal.sessions.set k st') :
    hal'.isClosed i = if k = i then st'.session.mClosed else hal.isClosed i := by
  have hlt := (List.getElem?_eq_some_iff.1 hk).1
  by_cases hki : k = i
  · subst hki
    simp [Hal.isClosed, hsessions, hlt]
  · rw [if_neg hki, Hal.isClosed, hsessions, List.getElem?_set_ne hki]
    rfl

omit [Util] in
theorem isClosed_of_set_same {hal hal' : Hal} {k : ℕ} {st st' : SessionState}
    (hk : hal.sessions[k]? = some st) (hsessions : hal'.sessions = hal.sessions.set k st')
    (hsame : st'.session.mClosed = st.session.mClosed) : hal'.isClosed i = hal.isClosed i := by
  rw [isClosed_of_set hk hsessions]
  split
  · rename_i hki
    rw [hsame, Hal.isClosed, ← hki, hk]
  · rfl

/-- Of the steps of the service `close` and the client's death close a session, and none
opens it again. -/
theorem isClosed_halStep {t : HalTransition} (h : halMachine.Takes t) :
    t.post.isClosed i = (t.pre.isClosed i || t.closes i) := by
  cases halStep_of_takes h with
  | createSession hal userId hopen =>
      simp only [HalTransition.closes, Bool.or_false, Hal.isClosed]
      rcases lt_trichotomy i hal.sessions.length with hlt | rfl | hgt
      · rw [List.getElem?_append_left hlt]
      · simp [Session.create]
      · have hle : hal.sessions.length + 1 ≤ i := hgt
        rw [List.getElem?_eq_none (by simpa using hle), List.getElem?_eq_none hgt.le]
  | call hal k c st hk =>
      rw [isClosed_of_set hk rfl]
      by_cases hki : k = i
      · subst hki
        have hpre : hal.isClosed k = st.session.mClosed := by rw [Hal.isClosed, hk]
        simp only [if_true, HalTransition.closes, decide_true, Bool.true_and, hpre]
        show (st.session.call c).1.mClosed = _
        cases c with
        | close => simp [Session.call, Session.close]
        | clientDeath =>
            cases hclosed : st.session.mClosed <;> simp [Session.call, Session.close, hclosed]
        | _ => simp [Session.call]
      · simp [hki, HalTransition.closes]
  | take hal r k j rest st hrunning hqueue hk =>
      rw [HalTransition.closes, Bool.or_false]
      exact isClosed_of_set_same hk rfl (st.session.keeps_runJob j r hal.now).mClosed
  | expire hal k timer st wake hk htimer hwake =>
      rw [HalTransition.closes, Bool.or_false]
      exact isClosed_of_set_same hk rfl st.session.keeps_lockoutTimerExpired.mClosed
  | message hal msg k st hopen =>
      rw [HalTransition.closes, Bool.or_false]
      exact isClosed_of_set_same (Hal.openSession_eq_some hopen).1 rfl
        (st.session.keeps_notify hal.enrollments msg hal.now).mClosed
  | _ => simp [HalTransition.closes, Hal.isClosed]

omit [Util] in
/-- A test closes nothing. -/
theorem closes_of_tests {l : HalLabel} (hl : l.tests = true) {out : List (ℕ × Effect)}
    {s' : ThreadedHal} : ThreadedTransition.closes i ⟨s, .hal l, out, s'⟩ = false := by
  cases l with
  | call k c =>
      cases c with
      | clientDeath => rfl
      | _ => cases hl
  | _ => rfl

omit [Util] in
/-- The other steps close what they close in the service. -/
theorem closes_of_plain {l : HalLabel} (hl : l.tests = false) {out : List (ℕ × Effect)}
    {s' : ThreadedHal} {hal hal' : Hal} :
    ThreadedTransition.closes i ⟨s, .hal l, out, s'⟩ =
      HalTransition.closes i ⟨hal, l, out, hal'⟩ := by
  cases l with
  | call k c =>
      cases c with
      | clientDeath => cases hl
      | _ => simp [ThreadedTransition.closes, HalTransition.closes]
  | _ => rfl

omit [Util] in
/-- The closing threads apart, a thread past its test closes nothing. -/
theorem not_closes_of_enter {n : ℕ} {th : OutsideThread} (hn : s.threads[n]? = some th)
    (hth : ∀ k, th ≠ .closing k) {out : List (ℕ × Effect)} {s' : ThreadedHal} :
    ThreadedTransition.closes i ⟨s, .enter n, out, s'⟩ = false := by
  rw [ThreadedTransition.closes, decide_eq_false_iff_not, hn, Option.some.injEq]
  exact hth i

/-- Closing is all that its step does: it says so, and what is to be performed stays. -/
theorem of_closes {t : ThreadedTransition} (h : threadedMachine.Takes t)
    (hcloses : t.closes i = true) :
    t.out = [(i, .callback .onSessionClosed)] ∧ t.post.hal.isClosed i = true ∧
      t.post.hal.running = t.pre.hal.running := by
  have hclose : ∀ {hal hal' : Hal} {out : List (ℕ × Effect)},
      halMachine.Takes ⟨hal, .call i .close, out, hal'⟩ →
      out = [(i, .callback .onSessionClosed)] ∧ hal'.isClosed i = true ∧
        hal'.running = hal.running := by
    intro hal hal' out hstep
    refine ⟨?_, ?_, ?_⟩
    · cases halStep_of_takes hstep with
      | call hal k c st hk => rfl
    · rw [isClosed_halStep hstep]
      simp [HalTransition.closes]
    · cases halStep_of_takes hstep with
      | call hal k c st hk => rfl
  cases threadedStep_of_takes h with
  | plain s l out hal' hl hstep =>
      cases l with
      | call k c =>
          cases c with
          | close =>
              obtain rfl : k = i := of_decide_eq_true hcloses
              exact hclose hstep
          | _ => cases hcloses
      | _ => cases hcloses
  | closes s n k out hal' hn hstep =>
      have hsame := of_decide_eq_true hcloses
      rw [hn, Option.some.injEq, OutsideThread.closing.injEq] at hsame
      subst hsame
      exact hclose hstep
  | notifies s n msg k st hn hlast hk =>
      rw [not_closes_of_enter hn (by simp)] at hcloses
      cases hcloses
  | clears s n k st hn hk =>
      rw [not_closes_of_enter hn (by simp)] at hcloses
      cases hcloses
  | ignored s l hl =>
      rw [closes_of_tests hl] at hcloses
      cases hcloses
  | _ => cases hcloses

/-- Only these steps close a session, and nothing opens it again. -/
theorem isClosed_step {t : ThreadedTransition} (h : threadedMachine.Takes t) :
    t.post.hal.isClosed i = (t.pre.hal.isClosed i || t.closes i) := by
  cases hcloses : t.closes i with
  | true =>
      rw [(of_closes h hcloses).2.1, Bool.or_true]
  | false =>
      rw [Bool.or_false]
      cases threadedStep_of_takes h with
      | plain s l out hal' hl hstep =>
          have hsame := isClosed_halStep (i := i) hstep
          rw [hsame]
          rw [closes_of_plain hl] at hcloses
          rw [hcloses, Bool.or_false]
      | aborted s k timer st hk haborted =>
          exact isClosed_of_set_same hk rfl st.session.keeps_lockoutTimerExpired.mClosed
      | woken s k timer st hk haborted => exact isClosed_of_set_same hk rfl rfl
      | notifies s n msg k st hn hlast hk =>
          exact isClosed_of_set_same hk rfl
            (st.session.keeps_notify s.hal.enrollments msg s.hal.now).mClosed
      | clears s n k st hn hk =>
          exact isClosed_of_set_same hk rfl
            (Session.keeps_lockoutTimerExpired { st.session with
              mIsLockoutTimerAborted := false }).mClosed
      | closes s n k out hal' hn hstep =>
          have hne : k ≠ i := by
            rintro rfl
            simp [ThreadedTransition.closes, hn] at hcloses
          rw [isClosed_halStep hstep]
          simp [HalTransition.closes, hne]
      | _ => rfl

/-- What a step adds to what is to be performed: a job of the worker, or what a thread past
its test does. -/
inductive Adds (t : ThreadedTransition) (p : ℕ × Effect) : Prop
  | job (st : SessionState) (j : Session.Job) (r : DeviceReplies)
      (hlabel : t.label = .hal (.take r)) (hi : t.pre.hal.sessions[p.1]? = some st)
      (hqueue : t.pre.hal.queue.head? = some (p.1, j))
      (he : p.2 ∈ (st.session.runJob j r t.pre.hal.now).2)
  | message (n : ℕ) (st : SessionState) (msg : FingerprintMsg) (hlabel : t.label = .enter n)
      (hn : t.pre.threads[n]? = some (.notifying msg))
      (hlast : t.pre.hal.sessions.length = p.1 + 1)
      (he : p.2 ∈ (st.session.notify t.pre.hal.enrollments msg t.pre.hal.now).2.2)
  | timer (n : ℕ) (hlabel : t.label = .enter n) (hn : t.pre.threads[n]? = some (.clearing p.1))
      (he : p.2 = .callback .onLockoutCleared)

/-- What is to be performed after a step was so before, or is added by it. -/
theorem unperformed_step {t : ThreadedTransition} (h : threadedMachine.Takes t)
    {p : ℕ × Effect} (hp : p ∈ t.post.unperformed) : p ∈ t.pre.unperformed ∨ Adds t p := by
  cases threadedStep_of_takes h with
  | plain s l out hal' hl hstep =>
      rcases List.mem_append.1 hp with hrunning | hthread
      · cases halStep_of_takes hstep with
        | take hal r k j rest st hidle hqueue hk =>
            obtain ⟨e, he, rfl⟩ := List.mem_map.1 hrunning
            exact .inr (.job st j r rfl hk (by simp [hqueue]) he)
        | perform hal q rest hperform =>
            refine .inl (List.mem_append_left _ ?_)
            show p ∈ s.hal.running
            rw [hperform]
            exact List.mem_cons_of_mem _ hrunning
        | _ => exact .inl (List.mem_append_left _ hrunning)
      · exact .inl (List.mem_append_right _ hthread)
  | ignored s l hl => exact .inl hp
  | received s msg k st hopen => exact .inl (by rwa [unperformed_append rfl rfl] at hp)
  | aborted s k timer st hk haborted => exact .inl hp
  | woken s k timer st hk haborted =>
      refine .inl ?_
      have hsame : ThreadedHal.unperformed
          ⟨(s.setSession k { st with timers := st.timers.eraseIdx timer }).hal,
            s.threads ++ [.clearing k]⟩ = s.unperformed := unperformed_append rfl rfl
      rw [← hsame]
      exact hp
  | died s k st hk hopen => exact .inl (by rwa [unperformed_append rfl rfl] at hp)
  | notifies s n msg k st hn hlast hk =>
      rcases (mem_unperformed_set hn rfl rfl).1 hp with hold | hnew
      · exact .inl hold
      · obtain ⟨e, he, rfl⟩ := List.mem_map.1 hnew
        exact .inr (.message n st msg rfl hn hlast he)
  | clears s n k st hn hk =>
      rcases (mem_unperformed_set (s := s) hn rfl rfl).1 hp with hold | hnew
      · exact .inl hold
      · obtain ⟨e, he, rfl⟩ := List.mem_map.1 hnew
        exact .inr (.timer n rfl hn (List.mem_singleton.1 he))
  | closes s n k out hal' hn hstep =>
      have hrunning : hal'.running = s.hal.running := by
        cases halStep_of_takes hstep with
        | call hal k c st hk => rfl
      rcases (mem_unperformed_set hn rfl hrunning).1 hp with hold | hnew
      · exact .inl hold
      · cases hnew
  | performs s n e rest hn => exact .inl ((mem_unperformed_performs hn).2 (.inr hp))

/-- What a step performs was to be performed, or it is the call of a client or the creation
of a session. -/
theorem out_step {t : ThreadedTransition} (h : threadedMachine.Takes t) {q : ℕ × Effect}
    (hq : q ∈ t.out) (hcallback : q.2.isCallback = true) :
    q ∈ t.pre.unperformed ∨ t.closes q.1 = true := by
  cases threadedStep_of_takes h with
  | plain s l out hal' hl hstep =>
      cases halStep_of_takes hstep with
      | createSession hal userId hopen =>
          rw [List.mem_singleton.1 hq] at hcallback
          cases hcallback
      | call hal k c st hk =>
          obtain ⟨e, he, rfl⟩ := List.mem_map.1 hq
          rcases call_eq st.session c with ⟨-, hnone⟩ | ⟨-, -, rfl | ⟨rfl, -⟩⟩
          · exact absurd hcallback (by simp [hnone e he])
          · exact .inr (decide_eq_true rfl)
          · cases hl
      | perform hal p rest hperform =>
          refine .inl (List.mem_append_left _ ?_)
          show q ∈ s.hal.running
          rw [hperform, List.mem_singleton.1 hq]
          exact List.mem_cons_self
      | tick hal nanos => cases hq
      | take hal r k j rest st hidle hqueue hk => cases hq
      | expire hal k timer st wake hk htimer hwake => cases hl
      | dropped hal msg hopen => cases hl
      | message hal msg k st hopen => cases hl
  | closes s n k out hal' hn hstep =>
      cases halStep_of_takes hstep with
      | call hal k c st hk =>
          rw [List.mem_singleton.1 hq]
          exact .inr (by simp [ThreadedTransition.closes, hn])
  | performs s n e rest hn =>
      rw [List.mem_singleton.1 hq]
      exact .inl ((mem_unperformed_performs hn).2 (.inl rfl))
  | _ => cases hq

/-! ## Late steps -/

/-- A test is not late. -/
theorem late_of_tests {l : HalLabel} (hl : l.tests = true) {out : List (ℕ × Effect)}
    {s' : ThreadedHal} : ThreadedTransition.late i ⟨s, .hal l, out, s'⟩ = false := by
  cases l with
  | call k c =>
      cases c with
      | clientDeath => rfl
      | _ => cases hl
  | take r => cases hl
  | _ => rfl

/-- Closing is late if the session is closed, or a callback is still to be made. -/
theorem late_of_closes {t : ThreadedTransition} (hcloses : t.closes i = true) :
    t.late i = (t.pre.hal.isClosed i || t.pre.owesCallback i) := by
  unfold ThreadedTransition.closes at hcloses
  unfold ThreadedTransition.late
  split at hcloses
  · rename_i k hlabel
    rw [hlabel]
    simp only [hcloses, Bool.true_and]
  · rename_i n hlabel
    rw [hlabel]
    simp only [of_decide_eq_true hcloses, decide_true, Bool.true_and]
  · cases hcloses

/-- A step that adds a callback of a closed session is late, and one that closes a session
adds none of it. -/
theorem late_of_adds {t : ThreadedTransition} {p : ℕ × Effect} (hadds : Adds t p)
    (hcallback : p.2.isCallback = true) :
    t.closes p.1 = false ∧ (t.pre.hal.isClosed p.1 = true → t.late p.1 = true) := by
  cases hadds with
  | job st j r hlabel hi hqueue he =>
      refine ⟨by rw [ThreadedTransition.closes, hlabel], fun hclosed => ?_⟩
      have hst : st.session.mClosed = true := by simpa [Hal.isClosed, hi] using hclosed
      have hcalls : j.callsBack st.session r t.pre.hal.now = true := by
        rw [← any_isCallback_runJob, List.any_eq_true]
        exact ⟨p.2, he, hcallback⟩
      simp [ThreadedTransition.late, hlabel, hi, hqueue, hst, hcalls]
  | message n st msg hlabel hn hlast he =>
      refine ⟨by simp [ThreadedTransition.closes, hlabel, hn], fun hclosed => ?_⟩
      have hcalls : msg.callsBack = true := by
        rw [← any_isCallback_notify st.session t.pre.hal.enrollments msg t.pre.hal.now,
          List.any_eq_true]
        exact ⟨p.2, he, hcallback⟩
      simp [ThreadedTransition.late, hlabel, hn, hlast, hclosed, hcalls]
  | timer n hlabel hn he =>
      refine ⟨by simp [ThreadedTransition.closes, hlabel, hn], fun hclosed => ?_⟩
      simp [ThreadedTransition.late, hlabel, hn, hclosed]

/-- A step that is not late makes no callback of a closed session that owes none. -/
theorem no_callback_of_not_late {t : ThreadedTransition} (h : threadedMachine.Takes t)
    (hclosed : t.pre.hal.isClosed i = true) (howes : t.pre.owesCallback i = false)
    (hlate : t.late i = false) : ∀ q ∈ t.out, ¬ (q.1 = i ∧ q.2.isCallback = true) := by
  rintro q hq ⟨rfl, hcallback⟩
  rcases out_step h hq hcallback with hold | hcloses
  · have howed := owesCallback_eq_true.2 ⟨q, hold, rfl, hcallback⟩
    rw [howes] at howed
    cases howed
  · rw [late_of_closes hcloses, hclosed] at hlate
    cases hlate

/-- After a step that is not late a closed session owes no callback. -/
theorem owesCallback_step {t : ThreadedTransition} (h : threadedMachine.Takes t)
    (howes : t.pre.hal.isClosed i = true → t.pre.owesCallback i = false)
    (hlate : t.late i = false) (hclosed : t.post.hal.isClosed i = true) :
    t.post.owesCallback i = false := by
  rw [isClosed_step h, Bool.or_eq_true] at hclosed
  have hpre : t.pre.owesCallback i = false := by
    rcases hclosed with hclosed | hcloses
    · exact howes hclosed
    · rw [late_of_closes hcloses, Bool.or_eq_false_iff] at hlate
      exact hlate.2
  rw [Bool.eq_false_iff]
  intro howed
  obtain ⟨p, hp, rfl, hcallback⟩ := owesCallback_eq_true.1 howed
  rcases unperformed_step h hp with hold | hadds
  · have howed := owesCallback_eq_true.2 ⟨p, hold, rfl, hcallback⟩
    rw [hpre] at howed
    cases howed
  · obtain ⟨hopen, hlate'⟩ := late_of_adds hadds hcallback
    rcases hclosed with hclosed | hcloses
    · rw [hlate' hclosed] at hlate
      cases hlate
    · rw [hopen] at hcloses
      cases hcloses

/-- A late step calls back, or makes its session owe a callback, after the session was
closed. -/
theorem callback_of_late {t : ThreadedTransition} (h : threadedMachine.Takes t)
    (hnot : (i, .callback .onSessionClosed) ∉ t.pre.unperformed) (hlate : t.late i = true) :
    (t.pre.hal.isClosed i = true ∧ ∃ q ∈ t.out, q.1 = i ∧ q.2.isCallback = true) ∨
    (t.pre.hal.isClosed i = true ∧ t.post.owesCallback i = true) ∨
    (t.out = [(i, .callback .onSessionClosed)] ∧ t.post.owesCallback i = true) := by
  cases hcloses : t.closes i with
  | true =>
      obtain ⟨hout, -, -⟩ := of_closes h hcloses
      rw [late_of_closes hcloses, Bool.or_eq_true] at hlate
      rcases hlate with hclosed | howes
      · exact .inl ⟨hclosed, _, by rw [hout]; exact List.mem_singleton_self _, rfl, rfl⟩
      · obtain ⟨p, hp, hpi, hcallback⟩ := owesCallback_eq_true.1 howes
        rcases unperformed_or_out h hp with hlater | hnow
        · exact .inr (.inr ⟨hout, owesCallback_eq_true.2 ⟨p, hlater, hpi, hcallback⟩⟩)
        · rw [hout, List.mem_singleton] at hnow
          rw [hnow] at hp
          exact absurd hp hnot
  | false =>
      refine .inr (.inl ?_)
      cases threadedStep_of_takes h with
      | plain s l out hal' hl hstep =>
          cases halStep_of_takes hstep with
          | take hal r k j rest st hidle hqueue hk =>
              -- the worker takes a job of the closed session
              cases hi : s.hal.sessions[i]? with
              | none => simp [ThreadedTransition.late, hi] at hlate
              | some st' =>
                  simp only [ThreadedTransition.late, hi, hqueue, List.head?_cons, Option.any_some,
                    Bool.and_eq_true, decide_eq_true_eq] at hlate
                  obtain ⟨hst, rfl, hcalls⟩ := hlate
                  obtain rfl : st' = st := Option.some.inj (hi.symm.trans hk)
                  rw [← any_isCallback_runJob, List.any_eq_true] at hcalls
                  obtain ⟨e, he, hcallback⟩ := hcalls
                  refine ⟨by simpa [Hal.isClosed, hi] using hst, owesCallback_eq_true.2
                    ⟨(k, e), List.mem_append_left _ (List.mem_map.2 ⟨e, he, rfl⟩), rfl, hcallback⟩⟩
          | call hal k c st hk =>
              cases c with
              | close =>
                  have hne : k ≠ i := of_decide_eq_false hcloses
                  simp [ThreadedTransition.late, hne] at hlate
              | _ => cases hlate
          | _ => cases hlate
      | ignored s l hl =>
          rw [late_of_tests hl] at hlate
          cases hlate
      | notifies s n msg k st hn hlast hk =>
          -- a message goes on although the session has been closed
          simp only [ThreadedTransition.late, hn, Bool.and_eq_true, decide_eq_true_eq] at hlate
          obtain ⟨⟨hi, hclosed⟩, hcalls⟩ := hlate
          obtain rfl : k = i := by omega
          rw [← any_isCallback_notify st.session s.hal.enrollments msg s.hal.now,
            List.any_eq_true] at hcalls
          obtain ⟨e, he, hcallback⟩ := hcalls
          refine ⟨hclosed, owesCallback_eq_true.2 ⟨(k, e), ?_, rfl, hcallback⟩⟩
          exact (mem_unperformed_set hn rfl rfl).2 (.inr (List.mem_map.2 ⟨e, he, rfl⟩))
      | clears s n k st hn hk =>
          simp only [ThreadedTransition.late, hn, Bool.and_eq_true, decide_eq_true_eq] at hlate
          obtain ⟨rfl, hclosed⟩ := hlate
          refine ⟨hclosed, owesCallback_eq_true.2
            ⟨(k, .callback .onLockoutCleared), ?_, rfl, rfl⟩⟩
          exact (mem_unperformed_set (s := s) hn rfl rfl).2
            (.inr (List.mem_map.2 ⟨_, List.mem_singleton_self _, rfl⟩))
      | closes s n k out hal' hn hstep =>
          have hne : k ≠ i := by
            rintro rfl
            simp [ThreadedTransition.closes, hn] at hcloses
          simp [ThreadedTransition.late, hn, hne] at hlate
      | _ => cases hlate

/-! ## Whole runs -/

/-- `onSessionClosed` is told at once: no thread has it still to perform. -/
theorem sessionClosed_not_mem_unperformed (hrun : threadedMachine.Run (.init boot) ts s) :
    (i, .callback .onSessionClosed) ∉ s.unperformed := by
  refine hrun.invariant (I := fun s => (i, .callback .onSessionClosed) ∉ s.unperformed) ?_ ?_
  · simp [ThreadedHal.init, ThreadedHal.unperformed, Hal.init]
  · intro t hstep ih hp
    rcases unperformed_step hstep hp with hold | hnew
    · exact ih hold
    · cases hnew with
      | job st j r hlabel hi hqueue he =>
          exact Bool.noConfusion (ofJob_runJob st.session _ j r _ he)
      | message n st msg hlabel hn hlast he =>
          exact Bool.noConfusion (ofMessage_notify st.session _ _ msg _ he)
      | timer n hlabel hn he => cases he

/-- Only closing says `onSessionClosed`. -/
theorem closes_of_sessionClosed (hrun : threadedMachine.Run (.init boot) ts s)
    {t : ThreadedTransition} (h : threadedMachine.Takes t) (hpre : t.pre = s)
    (hmem : (i, .callback .onSessionClosed) ∈ t.out) : t.closes i = true := by
  subst hpre
  exact (out_step h hmem rfl).resolve_left (sessionClosed_not_mem_unperformed hrun)

/-- A closed session has said so, and a session that has said so is closed. -/
theorem isClosed_iff_mem_effects (hrun : threadedMachine.Run (.init boot) ts s) :
    s.hal.isClosed i = true ↔ (i, .callback .onSessionClosed) ∈ threadedEffects ts := by
  refine hrun.history (I := fun ts s =>
    s.hal.isClosed i = true ↔ (i, .callback .onSessionClosed) ∈ threadedEffects ts) ?_ ?_
  · simp [ThreadedHal.init, Hal.init, Hal.isClosed, threadedEffects]
  · intro ts t hrun hstep ih
    rw [isClosed_step hstep, Bool.or_eq_true, ih, threadedEffects_append_singleton,
      List.mem_append]
    refine or_congr_right ⟨fun hcloses => ?_, closes_of_sessionClosed hrun hstep rfl⟩
    rw [(of_closes hstep hcloses).1]
    exact List.mem_singleton_self _

/-- A run without late steps: the session makes no callback after `onSessionClosed`,
and owes none once it is closed. -/
theorem silent_of_not_late (hrun : threadedMachine.Run (.init boot) ts s)
    (hlate : ∀ t ∈ ts, ThreadedTransition.late i t = false) :
    SilentAfterClose i (threadedEffects ts) ∧
      (s.hal.isClosed i = true → s.owesCallback i = false) := by
  refine hrun.history_of_guard (G := fun t : ThreadedTransition => t.late i = false)
    (I := fun ts s => SilentAfterClose i (threadedEffects ts) ∧
      (s.hal.isClosed i = true → s.owesCallback i = false)) ?_ ?_ hlate
  · exact ⟨List.Pairwise.nil, fun _ => rfl⟩
  · intro ts t hrun hstep hnot ih
    refine ⟨?_, owesCallback_step hstep ih.2 hnot⟩
    rw [threadedEffects_append_singleton]
    refine List.pairwise_append.2 ⟨ih.1, ?_, ?_⟩
    · -- within the step: `onSessionClosed` is all that its step does
      by_cases hmem : (i, .callback .onSessionClosed) ∈ t.out
      · rw [(of_closes hstep (closes_of_sessionClosed hrun hstep rfl hmem)).1]
        exact List.pairwise_singleton _ _
      · refine List.Pairwise.imp_of_mem ?_ (List.pairwise_of_forall (fun _ _ => trivial))
        intro p q hp hq _ heq
        exact absurd (heq ▸ hp) hmem
    · rintro p hp q hq rfl
      have hclosed := (isClosed_iff_mem_effects hrun).2 hp
      exact no_callback_of_not_late hstep hclosed (ih.2 hclosed) hnot q hq

end

instance (i : ℕ) (es : List (ℕ × Effect)) : Decidable (SilentAfterClose i es) :=
  inferInstanceAs (Decidable (es.Pairwise _))

end Fingerprint
