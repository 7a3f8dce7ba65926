/-
# Does every operation get an answer?

`enroll`, `authenticate`, `enumerateEnrollments` and `removeEnrollments` each become a
job that calls the device, `removeEnrollments` once for every id.  The device answers a
call with a code; a call it accepts (`0`) it also answers with messages, the last of
which says that the call is over, and for a call it rejects it sends none.

Only `enroll` and `authenticate` pass the code of a rejected call on, and
`Fingerprint::notify` passes on no message once the session is closed; what passes its test
it passes on to the session that `mSession` is then.  So the client hears something exactly
if one of these two is rejected, or a message that says that an accepted call is over finds
a session open and is passed on to the client's (`ends_answered_iff`); an empty list of ids
makes no call at all.
-/
import PongHal.ThreadedHal

namespace Fingerprint

/-! ## Answers of the device -/

/-- A call of the device with the answer to it: the code that it returns, and the places
of the messages that it sends for the call, among the steps that come after the job was
taken. -/
structure DeviceAnswer where
  call : DeviceCall
  code : Int32
  deliveries : List ℕ
  deriving DecidableEq, Repr

/-- The message says that the call is over.  An error ends any call; of the others each
belongs to one. -/
def FingerprintMsg.ends : FingerprintMsg → DeviceCall → Bool
  | .error _, _ => true
  | .templateEnrolling _ samplesRemaining, .enroll _ _ _ => decide (samplesRemaining = 0)
  | .authenticated finger _, .authenticate _ _ => decide (finger.fid ≠ 0)
  | .templateEnumerating _ remainingTemplates, .enumerate => decide (remainingTemplates = 0)
  | .templateRemoved _ _, .remove _ _ => true
  | _, _ => false

namespace ThreadedTransition

/-- The step is a message of the device. -/
def isMessage (t : ThreadedTransition) : Bool :=
  match t.label with
  | .hal (.message _) => true
  | _ => false

/-- The step is a message that says that the call is over. -/
def tellsEnd (t : ThreadedTransition) (c : DeviceCall) : Bool :=
  match t.label with
  | .hal (.message msg) => msg.ends c
  | _ => false

/-- `Session::notify` begins in step `v`, on the thread of message `u`, which has found a
session open. -/
def PassesOn (v u : ThreadedTransition) : Prop :=
  v.label = .enter u.pre.threads.length ∧ u.pre.hal.openSession.isSome = true

instance (v u : ThreadedTransition) : Decidable (v.PassesOn u) :=
  inferInstanceAs (Decidable (_ ∧ _))

/-- The effects that a thread past its test begins to perform in the step. -/
def begun (v : ThreadedTransition) : List (ℕ × Effect) :=
  match v.label with
  | .enter n => v.post.threads[n]?.toList.flatMap OutsideThread.effects
  | .hal _ | .perform _ => []

end ThreadedTransition

namespace DeviceAnswer

/-- A device that tells how an accepted call ended, and nothing of a rejected one. -/
def Answers (after : List ThreadedTransition) (a : DeviceAnswer) : Prop :=
  (∀ n ∈ a.deliveries, ∃ u ∈ after[n]?, u.isMessage = true) ∧
    if a.code = 0 then ∃ n ∈ a.deliveries, ∃ u ∈ after[n]?, u.tellsEnd a.call = true
    else a.deliveries = []

/-- The call is accepted, and a message that says that it is over finds a session open and
is passed on to session `i`, the last one by then. -/
def Reaches (after : List ThreadedTransition) (i : ℕ) (a : DeviceAnswer) : Prop :=
  a.code = 0 ∧ ∃ n ∈ a.deliveries, ∃ u ∈ after[n]?, u.tellsEnd a.call = true ∧
    ∃ v ∈ after, ThreadedTransition.PassesOn v u ∧ v.pre.hal.sessions.length = i + 1

instance (after : List ThreadedTransition) (a : DeviceAnswer) : Decidable (a.Answers after) := by
  unfold Answers
  infer_instance

instance (after : List ThreadedTransition) (i : ℕ) (a : DeviceAnswer) :
    Decidable (a.Reaches after i) := by
  unfold Reaches
  infer_instance

/-- The messages of a rejected call: none. -/
theorem Answers.code_eq_zero {after : List ThreadedTransition} {a : DeviceAnswer}
    (h : a.Answers after) {n : ℕ} (hn : n ∈ a.deliveries) : a.code = 0 := by
  by_contra hcode
  have hnone := h.2
  rw [if_neg hcode] at hnone
  rw [hnone] at hn
  cases hn

end DeviceAnswer

/-! ## Jobs and their outcome -/

/-- The device call an effect makes. -/
def Effect.deviceCall : Effect → Option DeviceCall
  | .device c => some c
  | .callback _ | .setFodHbm _ | .startTimer _ => none

/-- The callback tells the client that the operation of the job is over. -/
def Callback.ends : Callback → Session.Job → Bool
  | .onError _ _, _ => true
  | .onEnrollmentProgress _ remaining, .enroll _ => decide (remaining = 0)
  | .onAuthenticationSucceeded _ _, .authenticate _ => true
  | .onEnrollmentsEnumerated _, .enumerateEnrollments => true
  | .onEnrollmentsRemoved _, .removeEnrollments _ => true
  | _, _ => false

/-- The effect is a callback that ends the operation of the job. -/
def Effect.ends (j : Session.Job) : Effect → Bool
  | .callback c => c.ends j
  | .device _ | .setFodHbm _ | .startTimer _ => false

/-- The jobs of `enroll`, `authenticate`, `enumerateEnrollments` and
`removeEnrollments`. -/
def Session.Job.endsWithCallback : Session.Job → Bool
  | .enroll _ | .authenticate _ | .enumerateEnrollments | .removeEnrollments _ => true
  | _ => false

/-- The job sends an error of its own for a call the device rejects. -/
def Session.Job.reportsRejection : Session.Job → Bool
  | .enroll _ | .authenticate _ => true
  | _ => false

/-- The message says that a call of the job is over. -/
def FingerprintMsg.endsJob : FingerprintMsg → Session.Job → Bool
  | .error _, _ => true
  | .templateEnrolling _ samplesRemaining, .enroll _ => decide (samplesRemaining = 0)
  | .authenticated finger _, .authenticate _ => decide (finger.fid ≠ 0)
  | .templateEnumerating _ remainingTemplates, .enumerateEnrollments =>
      decide (remainingTemplates = 0)
  | .templateRemoved _ _, .removeEnrollments _ => true
  | _, _ => false

namespace Session

variable [Util]

/-- The device calls the job makes. -/
def deviceCalls (s : Session) (j : Job) (r : DeviceReplies) (now : ℕ) : List DeviceCall :=
  (s.runJob j r now).2.filterMap Effect.deviceCall

/-- An `enroll` job makes one call. -/
theorem deviceCalls_enroll (s : Session) (hat : HardwareAuthToken) (r : DeviceReplies)
    (now : ℕ) :
    s.deviceCalls (.enroll hat) r now =
      [.enroll (translateToLegacy .little hat r.stack) s.gid 60] := by
  unfold deviceCalls runJob
  by_cases hcode : r.code = 0 <;> simp [hcode, Effect.deviceCall]

/-- An `authenticate` job makes one call. -/
theorem deviceCalls_authenticate (s : Session) (operationId : Int64) (r : DeviceReplies)
    (now : ℕ) :
    s.deviceCalls (.authenticate operationId) r now =
      [.authenticate operationId.toUInt64 s.gid] := by
  unfold deviceCalls runJob
  by_cases hcode : r.code = 0 <;> simp [hcode, Effect.deviceCall]

/-- A `removeEnrollments` job makes one call for each id. -/
theorem deviceCalls_removeEnrollments (s : Session) (enrollmentIds : List Int32)
    (r : DeviceReplies) (now : ℕ) :
    s.deviceCalls (.removeEnrollments enrollmentIds) r now =
      enrollmentIds.map fun fid => .remove s.gid fid.toUInt32 := by
  show (enrollmentIds.map fun fid => Effect.device (.remove s.gid fid.toUInt32)).filterMap
    Effect.deviceCall = _
  rw [List.filterMap_map]
  exact congrFun List.filterMap_eq_map _

/-! ## When the client gets an answer -/

/-- The check of the lockout ends no operation. -/
theorem ends_checkSensorLockout (s : Session) (j : Job) (now : ℕ) :
    ∀ e ∈ (s.checkSensorLockout now).2.1, e.ends j = false := by
  unfold checkSensorLockout
  simp only
  split
  · simp [Effect.ends, Callback.ends]
  · split <;> simp [startLockoutTimer, Effect.ends, Callback.ends]
  · simp

omit [Util] in
theorem toInt32_eq_zero_iff (n : UInt32) : n.toInt32 = 0 ↔ n = 0 := by
  constructor
  · intro h
    calc n = n.toInt32.toUInt32 := (UInt32.toUInt32_toInt32 n).symm
      _ = 0 := by rw [h]; rfl
  · rintro rfl
    rfl

/-- A message becomes a callback that ends the operation of a job exactly if it says that a
call of the job is over. -/
theorem notify_ends_iff (s' : Session) {s : Session} {j : Job} {r : DeviceReplies} {now : ℕ}
    {c : DeviceCall} (hj : j.endsWithCallback = true) (hc : c ∈ s.deviceCalls j r now)
    (enrollments : List Int32) (msg : FingerprintMsg) (arrived : ℕ) :
    (∃ e ∈ (s'.notify enrollments msg arrived).2.2, e.ends j = true) ↔ msg.ends c = true := by
  have hkind : msg.ends c = msg.endsJob j := by
    cases j with
    | enroll hat =>
        rw [deviceCalls_enroll, List.mem_singleton] at hc
        subst hc
        cases msg <;> rfl
    | authenticate operationId =>
        rw [deviceCalls_authenticate, List.mem_singleton] at hc
        subst hc
        cases msg <;> rfl
    | enumerateEnrollments =>
        rw [List.mem_singleton.1 hc]
        cases msg <;> rfl
    | removeEnrollments enrollmentIds =>
        rw [deviceCalls_removeEnrollments] at hc
        obtain ⟨fid, -, rfl⟩ := List.mem_map.1 hc
        cases msg <;> rfl
    | _ => exact Bool.noConfusion hj
  rw [hkind]
  cases msg with
  | error error => exact iff_of_true ⟨_, List.mem_singleton_self _, rfl⟩ rfl
  | acquired info =>
      refine iff_of_false ?_ (by simp [FingerprintMsg.endsJob])
      unfold notify
      simp only
      split <;> simp [Effect.ends, Callback.ends]
  | templateEnrolling finger samplesRemaining =>
      cases j <;> simp [notify, Effect.ends, Callback.ends, FingerprintMsg.endsJob,
        toInt32_eq_zero_iff]
  | templateRemoved finger remainingTemplates =>
      cases j <;> simp [notify, Effect.ends, Callback.ends, FingerprintMsg.endsJob]
  | authenticated finger hat =>
      unfold notify
      by_cases hfid : finger.fid = 0
      · refine iff_of_false ?_ (by cases j <;> simp [hfid, FingerprintMsg.endsJob])
        rintro ⟨e, he, hends⟩
        simp only [hfid, ne_eq, not_true_eq_false, if_false, List.mem_cons] at he
        rcases he with rfl | he
        · cases hends
        · rw [ends_checkSensorLockout _ j arrived e he] at hends
          cases hends
      · cases j <;> simp [hfid, Effect.ends, Callback.ends, FingerprintMsg.endsJob]
  | templateEnumerating finger remainingTemplates =>
      by_cases hlast : remainingTemplates = 0 <;> cases j <;>
        simp [notify, hlast, Effect.ends, Callback.ends, FingerprintMsg.endsJob]
  | other type => simp [notify, FingerprintMsg.endsJob]

/-- What a job does itself ends its operation exactly if it passes on the code of a rejected
call. -/
theorem runJob_ends_iff (s : Session) {j : Job} (r : DeviceReplies) (now : ℕ)
    (hj : j.endsWithCallback = true) :
    (∃ e ∈ (s.runJob j r now).2, e.ends j = true) ↔
      j.reportsRejection = true ∧ r.code ≠ 0 := by
  cases j with
  | enroll hat =>
      by_cases hcode : r.code = 0 <;>
        simp [runJob, hcode, Effect.ends, Callback.ends, Job.reportsRejection]
  | authenticate operationId =>
      by_cases hcode : r.code = 0 <;>
        simp [runJob, hcode, Effect.ends, Callback.ends, Job.reportsRejection]
  | enumerateEnrollments => simp [runJob, Effect.ends, Job.reportsRejection]
  | removeEnrollments enrollmentIds => simp [runJob, Effect.ends, Job.reportsRejection]
  | _ => exact Bool.noConfusion hj

/-- A job that passes on the code of a rejected call has one call. -/
theorem rejected_iff {s : Session} {j : Job} {r : DeviceReplies} {now : ℕ}
    {answers : List DeviceAnswer}
    (hcalls : answers.map DeviceAnswer.call = s.deviceCalls j r now)
    (hcodes : answers.map DeviceAnswer.code = r.codes) :
    j.reportsRejection = true ∧ r.code ≠ 0 ↔
      j.reportsRejection = true ∧ ∃ a ∈ answers, a.code ≠ 0 := by
  refine and_congr_right fun hreports => ?_
  obtain ⟨c, hc⟩ : ∃ c, s.deviceCalls j r now = [c] := by
    cases j with
    | enroll hat => exact ⟨_, s.deviceCalls_enroll hat r now⟩
    | authenticate operationId => exact ⟨_, s.deviceCalls_authenticate operationId r now⟩
    | _ => exact Bool.noConfusion hreports
  rw [hc] at hcalls
  obtain ⟨a, rfl, -⟩ := List.map_eq_singleton_iff.1 hcalls
  rw [DeviceReplies.code, ← hcodes]
  simp

end Session

/-! ## When the client gets an answer -/

/-- What the client of session `i` is told of the job that the step takes: what the job
itself does, and what becomes of the messages for its calls. -/
def ThreadedTransition.outcome (i : ℕ) (t : ThreadedTransition) (after : List ThreadedTransition)
    (answers : List DeviceAnswer) : List (ℕ × Effect) :=
  (t.post.hal.running ++ answers.flatMap fun a => a.deliveries.flatMap fun n =>
    after[n]?.toList.flatMap fun u =>
      (after.filter fun v => decide (v.PassesOn u)).flatMap ThreadedTransition.begun).filter
        fun p => decide (p.1 = i)

/-- The worker takes job `j` of session `i`, with these answers of the device to its calls:
the codes at once, the messages when it likes. -/
def ThreadedTransition.Executes [Util] (t : ThreadedTransition) (i : ℕ) (j : Session.Job)
    (after : List ThreadedTransition) (answers : List DeviceAnswer) : Prop :=
  ∃ st ∈ t.pre.hal.sessions[i]?, t.pre.hal.queue.head? = some (i, j) ∧
    match t.label with
    | .hal (.take r) =>
        answers.map DeviceAnswer.call = st.session.deviceCalls j r t.pre.hal.now ∧
          answers.map DeviceAnswer.code = r.codes ∧ ∀ a ∈ answers, a.Answers after
    | _ => False

instance [Util] (t : ThreadedTransition) (i : ℕ) (j : Session.Job)
    (after : List ThreadedTransition) (answers : List DeviceAnswer) :
    Decidable (t.Executes i j after answers) := by
  unfold ThreadedTransition.Executes
  split <;> infer_instance

section

variable [Util] {boot : ℕ} {before after : List ThreadedTransition} {t : ThreadedTransition}
  {s₀ s : ThreadedHal}

omit [Util] in
theorem mem_outcome {i : ℕ} {answers : List DeviceAnswer} {e : Effect} :
    (i, e) ∈ t.outcome i after answers ↔ (i, e) ∈ t.post.hal.running ∨
      ∃ a ∈ answers, ∃ n ∈ a.deliveries, ∃ u ∈ after[n]?, ∃ v ∈ after,
        ThreadedTransition.PassesOn v u ∧ (i, e) ∈ v.begun := by
  simp [ThreadedTransition.outcome, and_assoc]

omit [Util] in
theorem fst_of_mem_outcome {i : ℕ} {answers : List DeviceAnswer} {p : ℕ × Effect}
    (h : p ∈ t.outcome i after answers) : p.1 = i :=
  of_decide_eq_true (List.mem_filter.1 h).2

/-! ## The thread of a message -/

/-- No thread is taken away. -/
theorem length_threads_le (h : threadedMachine.Takes t) :
    t.pre.threads.length ≤ t.post.threads.length := by
  cases threadedStep_of_takes h with
  | aborted => exact le_rfl
  | _ => simp

omit [Util] in
/-- A thread that goes on performs; the others are left alone. -/
theorem thread_set {threads : List OutsideThread} {m n : ℕ} {th : OutsideThread}
    (es : List (ℕ × Effect)) (hn : threads[n]? = some th) :
    (threads.set m (.performing es))[n]? = some th ∨
      ∃ es', (threads.set m (.performing es))[n]? = some (.performing es') := by
  by_cases hmn : m = n
  · subst hmn
    exact .inr ⟨es, List.getElem?_set_self (List.getElem?_eq_some_iff.1 hn).1⟩
  · exact .inl (by rw [List.getElem?_set_ne hmn, hn])

/-- A thread stays where it is, or performs. -/
theorem thread_step {n : ℕ} {th : OutsideThread} (h : threadedMachine.Takes t)
    (hn : t.pre.threads[n]? = some th) :
    t.post.threads[n]? = some th ∨ ∃ es, t.post.threads[n]? = some (.performing es) := by
  have happend : ∀ th', (t.pre.threads ++ [th'])[n]? = some th := by
    intro th'
    rw [List.getElem?_append_left (List.getElem?_eq_some_iff.1 hn).1, hn]
  cases threadedStep_of_takes h with
  | plain | ignored | aborted => exact .inl hn
  | received | woken | died => exact .inl (happend _)
  | notifies | clears | closes | performs => exact thread_set _ hn

/-- Thread `n` has found a session open for the message, and has not gone on yet or
performs what came of it. -/
def ThreadedHal.Notifying (s : ThreadedHal) (n : ℕ) (msg : FingerprintMsg) : Prop :=
  s.threads[n]? = some (.notifying msg) ∨ ∃ es, s.threads[n]? = some (.performing es)

theorem notifying_step {n : ℕ} {msg : FingerprintMsg} (h : threadedMachine.Takes t)
    (hpre : t.pre.Notifying n msg) : t.post.Notifying n msg := by
  rcases hpre with hwaits | ⟨es, hperforms⟩
  · exact thread_step h hwaits
  · rcases thread_step h hperforms with hsame | hnow
    · exact .inr ⟨es, hsame⟩
    · exact .inr hnow

/-- A message that finds a session open gets a thread. -/
theorem notifying_of_received {u : ThreadedTransition} {msg : FingerprintMsg}
    (h : threadedMachine.Takes u) (hlabel : u.label = .hal (.message msg))
    (hopen : u.pre.hal.openSession.isSome = true) :
    u.post.Notifying u.pre.threads.length msg := by
  cases threadedStep_of_takes h with
  | plain s l out hal' hl hstep =>
      cases hlabel
      cases hl
  | ignored s l hl hnone =>
      cases hlabel
      rw [hnone msg rfl] at hopen
      cases hopen
  | received s msg' i st hopen' =>
      cases hlabel
      exact .inl (by simp)
  | _ => cases hlabel

/-- A thread that goes on after its test does not perform yet. -/
theorem entered {v : ThreadedTransition} {n : ℕ} (h : threadedMachine.Takes v)
    (hlabel : v.label = .enter n) :
    n < v.pre.threads.length ∧ ∀ es, v.pre.threads[n]? ≠ some (.performing es) := by
  have hwaits : ∀ {th : OutsideThread}, v.pre.threads[n]? = some th →
      (∀ es, th ≠ .performing es) →
        n < v.pre.threads.length ∧ ∀ es, v.pre.threads[n]? ≠ some (.performing es) := by
    intro th hn hth
    refine ⟨(List.getElem?_eq_some_iff.1 hn).1, fun es hes => hth es ?_⟩
    exact Option.some.inj (hn.symm.trans hes)
  cases threadedStep_of_takes h with
  | notifies s m msg i st hm hlast hi =>
      cases hlabel
      exact hwaits hm (by simp)
  | clears s m i st hm hi =>
      cases hlabel
      exact hwaits hm (by simp)
  | closes s m i out hal' hm hstep =>
      cases hlabel
      exact hwaits hm (by simp)
  | _ => cases hlabel

/-- The thread that passes a message on is the one that the message came on. -/
theorem notifying_of_passesOn (hrun : threadedMachine.Run s₀ after s)
    {u v : ThreadedTransition} {msg : FingerprintMsg} (hu : u ∈ after) (hv : v ∈ after)
    (hlabel : u.label = .hal (.message msg)) (hpasses : v.PassesOn u) :
    v.pre.threads[u.pre.threads.length]? = some (.notifying msg) := by
  obtain ⟨hv_label, hopen⟩ := hpasses
  obtain ⟨ts₁, ts₂, rfl⟩ := List.append_of_mem hu
  obtain ⟨hrun₁, hstep, hrun₂⟩ := hrun.of_append_cons
  rcases List.mem_append.1 hv with hearlier | hlater
  · -- the thread is not there before the message
    exfalso
    obtain ⟨ts₃, ts₄, rfl⟩ := List.append_of_mem hearlier
    obtain ⟨-, hstep_v, hrun₄⟩ := hrun₁.of_append_cons
    have hlen : v.pre.threads.length ≤ u.pre.threads.length :=
      hrun₄.invariant (I := fun s => v.pre.threads.length ≤ s.threads.length)
        (length_threads_le hstep_v) fun _ hstep hle => hle.trans (length_threads_le hstep)
    have hlt := (entered hstep_v hv_label).1
    omega
  · rcases List.mem_cons.1 hlater with rfl | hlater
    · cases hlabel.symm.trans hv_label
    · obtain ⟨ts₃, ts₄, -, hrun₃, hstep_v⟩ := hrun₂.split_of_mem hlater
      have hnotifying : v.pre.Notifying u.pre.threads.length msg :=
        hrun₃.invariant (I := fun s => s.Notifying u.pre.threads.length msg)
          (notifying_of_received hstep hlabel hopen) fun _ hstep => notifying_step hstep
      rcases hnotifying with hwaits | ⟨es, hperforms⟩
      · exact hwaits
      · exact absurd hperforms ((entered hstep_v hv_label).2 es)

/-! ## When the client gets an answer -/

/-- The message ends the operation of a job of session `i` in the step in which it is passed
on exactly if it says that a call of the job is over, and the session is the last one. -/
theorem begun_ends_iff {v : ThreadedTransition} (h : threadedMachine.Takes v) {n i : ℕ}
    {msg : FingerprintMsg} (hlabel : v.label = .enter n)
    (hn : v.pre.threads[n]? = some (.notifying msg)) {s : Session} {j : Session.Job}
    {r : DeviceReplies} {now : ℕ} {c : DeviceCall} (hj : j.endsWithCallback = true)
    (hc : c ∈ s.deviceCalls j r now) :
    (∃ e, (i, e) ∈ v.begun ∧ e.ends j = true) ↔
      msg.ends c = true ∧ v.pre.hal.sessions.length = i + 1 := by
  cases threadedStep_of_takes h with
  | notifies s' m msg' k st hm hlast hk =>
      cases hlabel
      obtain rfl : msg' = msg := by
        cases hm.symm.trans hn
        rfl
      have hlt := (List.getElem?_eq_some_iff.1 hn).1
      simp only [ThreadedTransition.begun, List.getElem?_set_self hlt, Option.toList_some,
        List.flatMap_singleton, OutsideThread.effects, hlast, Nat.add_right_cancel_iff]
      rw [← st.session.notify_ends_iff hj hc s'.hal.enrollments msg' s'.hal.now]
      constructor
      · rintro ⟨e, he, hends⟩
        obtain ⟨e', he', heq⟩ := List.mem_map.1 he
        obtain ⟨rfl, rfl⟩ := Prod.mk.inj heq
        exact ⟨⟨e', he', hends⟩, rfl⟩
      · rintro ⟨⟨e, he, hends⟩, rfl⟩
        exact ⟨e, List.mem_map_of_mem he, hends⟩
  | clears s' m k st hm hk =>
      cases hlabel
      cases hm.symm.trans hn
  | closes s' m k out hal' hm hstep =>
      cases hlabel
      cases hm.symm.trans hn
  | _ => cases hlabel

omit [Util] in
/-- What begins to be performed is to be performed. -/
theorem mem_unperformed_of_mem_begun {v : ThreadedTransition} {p : ℕ × Effect}
    (hp : p ∈ v.begun) : p ∈ v.post.unperformed := by
  unfold ThreadedTransition.begun at hp
  split at hp
  · obtain ⟨th, hth, hp⟩ := List.mem_flatMap.1 hp
    have hmem := List.mem_of_getElem? (Option.mem_toList.1 hth)
    exact List.mem_append_right _ (List.mem_flatMap.2 ⟨th, hmem, hp⟩)
  · cases hp
  · cases hp

/-- What the worker has to perform is what the job does. -/
theorem running_of_executes (h : threadedMachine.Takes t) {i : ℕ} {j : Session.Job}
    {answers : List DeviceAnswer} (hexec : t.Executes i j after answers) :
    ∃ (st : SessionState) (r : DeviceReplies),
      t.post.hal.running = (st.session.runJob j r t.pre.hal.now).2.map (fun e => (i, e)) ∧
        answers.map DeviceAnswer.call = st.session.deviceCalls j r t.pre.hal.now ∧
        answers.map DeviceAnswer.code = r.codes ∧ ∀ a ∈ answers, a.Answers after := by
  obtain ⟨st, hi, hqueue, hanswers⟩ := hexec
  cases threadedStep_of_takes h with
  | plain s l out hal' hl hstep =>
      cases halStep_of_takes hstep with
      | take hal r i' j' rest st' hidle hqueue' hi' =>
          rw [hqueue', List.head?_cons, Option.some.injEq, Prod.mk.injEq] at hqueue
          obtain ⟨rfl, rfl⟩ := hqueue
          obtain rfl : st' = st := Option.some.inj (hi'.symm.trans hi)
          exact ⟨st', r, rfl, hanswers⟩
      | _ => cases hanswers
  | ignored s l hl hnone =>
      cases l with
      | take r => cases hl
      | _ => cases hanswers
  | _ => cases hanswers

/-- A message that is passed on ends the operation of a job of session `i` exactly if it says
that a call of the job is over, and the session is the last one by then. -/
theorem passedOn_ends_iff (hrun : threadedMachine.Run s₀ after s) {u v : ThreadedTransition}
    (hu : u ∈ after) (hv : v ∈ after) (hmessage : u.isMessage = true) (hpasses : v.PassesOn u)
    {i : ℕ} {st : Session} {j : Session.Job} {r : DeviceReplies} {now : ℕ} {c : DeviceCall}
    (hj : j.endsWithCallback = true) (hc : c ∈ st.deviceCalls j r now) :
    (∃ e, (i, e) ∈ v.begun ∧ e.ends j = true) ↔
      u.tellsEnd c = true ∧ v.pre.hal.sessions.length = i + 1 := by
  obtain ⟨msg, hlabel⟩ : ∃ msg, u.label = .hal (.message msg) := by
    unfold ThreadedTransition.isMessage at hmessage
    split at hmessage
    · exact ⟨_, by assumption⟩
    · cases hmessage
  obtain ⟨ts₁, ts₂, -, -, hstep⟩ := hrun.split_of_mem hv
  have hn := notifying_of_passesOn hrun hu hv hlabel hpasses
  have htells : u.tellsEnd c = msg.ends c := by
    unfold ThreadedTransition.tellsEnd
    rw [hlabel]
  rw [begun_ends_iff hstep hpasses.1 hn hj hc, htells]

/-- What comes of a job is performed, or still to be performed. -/
theorem mem_effects_of_mem_outcome (hafter : threadedMachine.Run t.post after s) {i : ℕ}
    {answers : List DeviceAnswer} {p : ℕ × Effect} (hp : p ∈ t.outcome i after answers) :
    p ∈ threadedEffects after ∨ p ∈ s.unperformed := by
  obtain ⟨k, e⟩ := p
  obtain rfl : k = i := fst_of_mem_outcome hp
  rcases mem_outcome.1 hp with hjob | ⟨a, ha, n, hn, u, hu, v, hv, hpasses, hbegun⟩
  · exact (mem_effects_of_mem_unperformed hafter (List.mem_append_left _ hjob)).symm
  · obtain ⟨ts₁, ts₂, rfl⟩ := List.append_of_mem hv
    obtain ⟨-, hstep, hrest⟩ := hafter.of_append_cons
    rcases mem_effects_of_mem_unperformed hrest (mem_unperformed_of_mem_begun hbegun) with
      hlater | hdone
    · exact .inr hlater
    · refine .inl ?_
      rw [threadedEffects, List.flatMap_append, List.flatMap_cons]
      exact List.mem_append_right _ (List.mem_append_right _ hdone)

/-- **Exactly when an operation is answered.**  Take any run of the service in which the
worker takes a job of session `i`, whatever the device returns for its calls, whenever it
sends its messages for the accepted ones and whatever happens between the test of such a
message and the rest.  A callback that ends the operation comes of it if and only if the job
passes on the code of a rejected call, as those of `enroll` and `authenticate` do, or a
message that says that an accepted call is over finds a session open and is passed on while
the client's is the last one; and such a callback is made, or some thread has still to make
it. -/
theorem ends_answered_iff (hrun : threadedMachine.Run (.init boot) (before ++ t :: after) s)
    {i : ℕ} {j : Session.Job} {answers : List DeviceAnswer}
    (hexec : t.Executes i j after answers) (hj : j.endsWithCallback = true) :
    ((∃ p ∈ t.outcome i after answers, p.2.ends j = true) ↔
      (j.reportsRejection = true ∧ ∃ a ∈ answers, a.code ≠ 0) ∨
        ∃ a ∈ answers, a.Reaches after i) ∧
    ∀ p ∈ t.outcome i after answers, p ∈ threadedEffects after ∨ p ∈ s.unperformed := by
  obtain ⟨hbefore, hstep, hafter⟩ := hrun.of_append_cons
  obtain ⟨st, r, hrunning, hcalls, hcodes, hanswers⟩ := running_of_executes hstep hexec
  refine ⟨⟨?_, ?_⟩, fun p => mem_effects_of_mem_outcome hafter⟩
  · rintro ⟨⟨k, e⟩, hp, hends⟩
    obtain rfl : k = i := fst_of_mem_outcome hp
    rcases mem_outcome.1 hp with hjob | ⟨a, ha, n, hn, u, hu, v, hv, hpasses, hbegun⟩
    · rw [hrunning] at hjob
      obtain ⟨e', he', heq⟩ := List.mem_map.1 hjob
      obtain rfl : e' = e := (Prod.mk.inj heq).2
      exact .inl ((Session.rejected_iff hcalls hcodes).1
        ((st.session.runJob_ends_iff r t.pre.hal.now hj).1 ⟨e', he', hends⟩))
    · obtain ⟨u', hu', hmessage⟩ := (hanswers a ha).1 n hn
      obtain rfl : u' = u := Option.some.inj (hu'.symm.trans hu)
      have hc : a.call ∈ st.session.deviceCalls j r t.pre.hal.now := by
        rw [← hcalls]
        exact List.mem_map_of_mem ha
      obtain ⟨htells, hlast⟩ := (passedOn_ends_iff hafter (List.mem_of_getElem? hu) hv hmessage
        hpasses hj hc).1 ⟨e, hbegun, hends⟩
      exact .inr ⟨a, ha, (hanswers a ha).code_eq_zero hn, n, hn, u', hu, htells, v, hv, hpasses,
        hlast⟩
  · rintro (hrejected | ⟨a, ha, -, n, hn, u, hu, htells, v, hv, hpasses, hlast⟩)
    · obtain ⟨e, he, hends⟩ := (st.session.runJob_ends_iff r t.pre.hal.now hj).2
        ((Session.rejected_iff hcalls hcodes).2 hrejected)
      refine ⟨(i, e), mem_outcome.2 (.inl ?_), hends⟩
      rw [hrunning]
      exact List.mem_map_of_mem he
    · obtain ⟨u', hu', hmessage⟩ := (hanswers a ha).1 n hn
      obtain rfl : u' = u := Option.some.inj (hu'.symm.trans hu)
      have hc : a.call ∈ st.session.deviceCalls j r t.pre.hal.now := by
        rw [← hcalls]
        exact List.mem_map_of_mem ha
      obtain ⟨e, hbegun, hends⟩ := (passedOn_ends_iff hafter (List.mem_of_getElem? hu) hv
        hmessage hpasses hj hc).2 ⟨htells, hlast⟩
      exact ⟨(i, e), mem_outcome.2 (.inr ⟨a, ha, n, hn, u', hu, v, hv, hpasses, hbegun⟩), hends⟩

end

/-- A device that removes template 7, and tells of it two steps later, and rejects 8. -/
def removesFirst : List DeviceAnswer := [⟨.remove 0 7, 0, [2]⟩, ⟨.remove 0 8, -1, []⟩]

/-- The device removes one of two templates and rejects the other; the client hears of the
first. -/
theorem ends_answered_iff_removeEnrollments :
    ∃ (before : List ThreadedTransition) (t : ThreadedTransition)
        (after : List ThreadedTransition) (s : ThreadedHal),
      threadedMachine.Run (.init 0) (before ++ t :: after) s ∧
        removesFirst.map DeviceAnswer.code = [0, -1] ∧
        ∃ p ∈ t.outcome 0 after removesFirst, p.2.ends (.removeEnrollments [7, 8]) = true := by
  obtain ⟨ts, s, hrun, t, ht, hexec, hreached⟩ :
      ∃ (ts : List ThreadedTransition) (s : ThreadedHal), threadedMachine.Run (.init 0) ts s ∧
        ∃ t ∈ ts[2]?, t.Executes 0 (.removeEnrollments [7, 8]) (ts.drop 3) removesFirst ∧
          ∃ a ∈ removesFirst, a.Reaches (ts.drop 3) 0 :=
    Machine.exists_run_of_exec
      [.hal (.createSession 0), .hal (.call 0 (.removeEnrollments [7, 8])),
        .hal (.take ⟨[0, -1], 0, 0, .zero⟩), .hal .perform, .hal .perform,
        .hal (.message (.templateRemoved ⟨0, 7⟩ 0)), .enter 0] (by decide)
  rw [Machine.split_of_getElem? ht] at hrun
  exact ⟨_, t, _, s, hrun, rfl, (ends_answered_iff hrun hexec rfl).1.2 (.inr hreached)⟩

/-- A device that rejects an enumeration. -/
def rejectsEnumerate : List DeviceAnswer := [⟨.enumerate, -1, []⟩]

/-- The client hears nothing of the rejected enumeration, now or later. -/
theorem enumerateEnrollments_rejected_unanswered :
    ∃ (ts : List ThreadedTransition) (s : ThreadedHal), threadedMachine.Run (.init 0) ts s ∧
      (s.unperformed = [] ∧ s.hal.queue = []) ∧
      ∃ t ∈ ts[2]?, t.Executes 0 .enumerateEnrollments (ts.drop 3) rejectsEnumerate ∧
        threadedEffects (ts.drop 3) = [(0, .device .enumerate)] ∧
        ¬ ∃ p ∈ t.outcome 0 (ts.drop 3) rejectsEnumerate,
          p.2.ends .enumerateEnrollments = true :=
  Machine.exists_run_of_exec
    [.hal (.createSession 0), .hal (.call 0 .enumerateEnrollments),
      .hal (.take ⟨[-1], 0, 0, .zero⟩), .hal .perform] (by decide)

end Fingerprint
