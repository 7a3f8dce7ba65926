/-
# What one session leaves to the next

Two properties that only runs with several sessions can decide.

* Failed attempts.  `createSession` copies the service's tracker, which nobody
  writes, into every session, so a new session starts to count at zero.
  `lockout_spans_sessions_iff` says in which runs the answers are nevertheless
  those of one count over all sessions.

* The active group.  The constructor of a session sets the device's group at once,
  on the binder thread, while jobs of earlier sessions may still wait for the
  worker.  `own_group_of_run` says which runs keep every device operation in the
  group of its own session's user.
-/
import PongHal.FingerprintHal

namespace Fingerprint

variable {boot : ℕ} {ts : List HalTransition} {hal : Hal}

/-! ## The failed attempts of a run -/

/-- The step is a failed attempt that reaches the open session. -/
def HalTransition.isFailure (t : HalTransition) : Bool :=
  match t.label with
  | .message msg => t.pre.openSession.isSome && decide (msg.event = .failure)
  | _ => false

/-- What a step tells the framework about the lockout. -/
def HalTransition.signals (t : HalTransition) : List Signal :=
  Fingerprint.signals (t.out.map Prod.snd)

/-- The failed attempts of a run, over all its sessions. -/
def allFailures (ts : List HalTransition) : ℕ := ts.countP HalTransition.isFailure

/-- The failed attempts of a run since its last `createSession`. -/
def sessionFailures (ts : List HalTransition) : ℕ :=
  ts.foldl (fun n t =>
    match t.label with
    | .createSession _ => 0
    | _ => if t.isFailure then n + 1 else n) 0

/-- The step is neither a match nor a call of `resetLockout`. -/
def HalTransition.Unassisted (t : HalTransition) : Prop :=
  match t.label with
  | .message msg => msg.event ≠ .success
  | .call _ c => c ≠ .resetLockout
  | _ => True

instance (t : HalTransition) : Decidable t.Unassisted :=
  match h : t.label with
  | .message msg => decidable_of_iff (msg.event ≠ .success) (by simp [HalTransition.Unassisted, h])
  | .call _ c => decidable_of_iff (c ≠ .resetLockout) (by simp [HalTransition.Unassisted, h])
  | .tick _ | .createSession _ | .take _ | .perform | .expire _ _ =>
      isTrue (by simp [HalTransition.Unassisted, h])

theorem sessionFailures_append_singleton (t : HalTransition) :
    sessionFailures (ts ++ [t]) =
      match t.label with
      | .createSession _ => 0
      | _ => if t.isFailure then sessionFailures ts + 1 else sessionFailures ts := by
  simp [sessionFailures, List.foldl_append]

theorem allFailures_append_singleton (t : HalTransition) :
    allFailures (ts ++ [t]) = allFailures ts + if t.isFailure then 1 else 0 := by
  by_cases h : t.isFailure = true <;> simp [allFailures, List.countP_append, h]

/-- The current session has not seen more failures than all of them together. -/
theorem sessionFailures_le_allFailures : sessionFailures ts ≤ allFailures ts := by
  induction ts using List.reverseRecOn with
  | nil => exact le_rfl
  | append_singleton ts t ih =>
      rw [sessionFailures_append_singleton, allFailures_append_singleton]
      split
      · exact Nat.zero_le _
      · split <;> omega

/-- A failed attempt is one for the last session. -/
theorem eventAt_last_eq_failure {t : HalTransition} (hne : t.pre.sessions ≠ []) :
    t.pre.eventAt (t.pre.sessions.length - 1) t.label = .failure ↔ t.isFailure = true := by
  obtain ⟨hal, l, out, hal'⟩ := t
  show hal.eventAt (hal.sessions.length - 1) l = .failure ↔ _
  cases l with
  | message msg =>
      cases hopen : hal.openSession with
      | none => simp [Hal.eventAt, HalTransition.isFailure, hopen]
      | some r =>
          have hlast := (Hal.openSession_eq_some hopen).2.1
          have hi : r.1 = hal.sessions.length - 1 := by omega
          simp [Hal.eventAt, HalTransition.isFailure, hopen, hi]
  | take replies =>
      simp only [Hal.eventAt, HalTransition.isFailure, Bool.false_eq_true, iff_false]
      split
      · rename_i i j rest hrunning hqueue
        split
        · cases j <;> simp [Session.Job.event]
        · simp
      · simp
  | expire i timer =>
      simp only [Hal.eventAt, HalTransition.isFailure, Bool.false_eq_true, iff_false]
      split <;> simp
  | _ => simp [Hal.eventAt, HalTransition.isFailure]

/-- A step that is neither a match nor finds a reset in the queue is no reset and
no match for any session. -/
theorem eventAt_of_unassisted {t : HalTransition} (ht : t.Unassisted)
    (hqueue : ∀ p ∈ t.pre.queue, p.2 ≠ .resetLockout) (k : ℕ) :
    t.pre.eventAt k t.label ≠ .reset ∧ t.pre.eventAt k t.label ≠ .success := by
  obtain ⟨hal, l, out, hal'⟩ := t
  show hal.eventAt k l ≠ .reset ∧ hal.eventAt k l ≠ .success
  cases l with
  | message msg =>
      have hmsg : msg.event ≠ .success := ht
      have hreset : msg.event ≠ .reset := by
        rcases msg.event_cases with h | h | h <;> simp [h]
      simp only [Hal.eventAt]
      split
      · simp
      · split
        · exact ⟨hreset, hmsg⟩
        · simp
  | take replies =>
      simp only [Hal.eventAt]
      split
      · rename_i i j rest hrunning hq
        have hj : j ≠ .resetLockout := hqueue (i, j) (by rw [hq]; exact List.mem_cons_self)
        split
        · cases j <;> simp [Session.Job.event] at hj ⊢
        · simp
      · simp
  | expire i timer =>
      simp only [Hal.eventAt]
      split <;> simp
  | _ => simp [Hal.eventAt]

/-- Only a call of `resetLockout` schedules a reset. -/
theorem call_eq_resetLockout {s : Session} {c : Session.Call}
    (h : (s.call c).2.2 = some .resetLockout) : c = .resetLockout := by
  cases c with
  | resetLockout => rfl
  | clientDeath =>
      unfold Session.call at h
      simp only at h
      split at h <;> simp [Session.close] at h
  | _ => simp [Session.call, Session.close] at h

/-! ## The worker's queue and the running job -/

section Jobs

variable [Util]

/-- A job in the queue after a step was there before or was scheduled by it. -/
theorem mem_queue_step {t : HalTransition} (h : halMachine.Takes t) {p : ℕ × Session.Job}
    (hp : p ∈ t.post.queue) :
    p ∈ t.pre.queue ∨ ∃ c st, t.label = .call p.1 c ∧ t.pre.sessions[p.1]? = some st ∧
      (st.session.call c).2.2 = some p.2 := by
  cases halStep_of_takes h with
  | call hal i c st hi =>
      cases hj : (st.session.call c).2.2 with
      | none =>
          left
          simpa [hj] using hp
      | some j =>
          simp only [hj, schedule] at hp
          split at hp
          · rcases List.mem_append.1 hp with hold | hnew
            · exact Or.inl hold
            · rw [List.mem_singleton] at hnew
              subst hnew
              exact Or.inr ⟨c, st, rfl, hi, hj⟩
          · exact Or.inl hp
  | take hal r i j rest st hrunning hqueue hi =>
      left
      show p ∈ hal.queue
      rw [hqueue]
      exact List.mem_cons_of_mem _ hp
  | _ => exact Or.inl hp

/-- An effect that waits after a step waited before or belongs to the job the
worker has taken. -/
theorem mem_running_step {t : HalTransition} (h : halMachine.Takes t) {p : ℕ × Effect}
    (hp : p ∈ t.post.running) :
    p ∈ t.pre.running ∨ ∃ j st r, (p.1, j) ∈ t.pre.queue ∧ t.pre.sessions[p.1]? = some st ∧
      p.2 ∈ (st.session.runJob j r t.pre.now).2 := by
  cases halStep_of_takes h with
  | take hal r i j rest st hrunning hqueue hi =>
      right
      obtain ⟨e, he, rfl⟩ := List.mem_map.1 hp
      exact ⟨j, st, r, by rw [hqueue]; exact List.mem_cons_self, hi, he⟩
  | perform hal q rest hrunning =>
      left
      show p ∈ hal.running
      rw [hrunning]
      exact List.mem_cons_of_mem _ hp
  | _ => exact Or.inl hp

end Jobs

/-! ## Failed attempts over several sessions -/

section Failures

variable [Util]

/-- In every run each session has one timer at most, as its flag says. -/
theorem timers_of_hal_run (hrun : halMachine.Run (.init boot) ts hal) :
    ∀ (k : ℕ) (st : SessionState), hal.sessions[k]? = some st → st.lockout.Timers := by
  refine hrun.invariant
    (I := fun hal => ∀ (k : ℕ) (st : SessionState), hal.sessions[k]? = some st →
      st.lockout.Timers) ?_ ?_
  · intro k st hk
    simp [Hal.init] at hk
  · intro t hstep ih k st hk
    cases hpre : t.pre.sessions[k]? with
    | some st₀ =>
        obtain ⟨st', hst', hlockout, -⟩ := session_step hstep hpre
        obtain rfl : st' = st := Option.some.inj (hst'.symm.trans hk)
        rw [hlockout]
        exact (ih k st₀ hpre).apply (lt_timers_of_eventAt hstep hpre)
    | none =>
        -- a session that was not there before has just been created
        have hge : t.pre.sessions.length ≤ k := List.getElem?_eq_none_iff.1 hpre
        have hlt := (List.getElem?_eq_some_iff.1 hk).1
        rcases sessions_step hstep with ⟨userId, -, -, hnew⟩ | ⟨-, hlen⟩
        · rw [hnew, List.getElem?_append_right hge] at hk
          obtain rfl := List.mem_singleton.1 (List.mem_of_getElem? hk)
          exact Lockout.Timers.init
        · omega

/-- In a run without matches and resets the last session's lockout is that of the
failures since it was created. -/
theorem counts_of_run (hrun : halMachine.Run (.init boot) ts hal)
    (hun : ∀ t ∈ ts, t.Unassisted) :
    (∀ p ∈ hal.queue, p.2 ≠ .resetLockout) ∧
    ∀ st, hal.sessions[hal.sessions.length - 1]? = some st →
      st.lockout.Counts (sessionFailures ts) := by
  refine hrun.history_of_guard (G := fun t : HalTransition => t.Unassisted)
    (I := fun ts hal => (∀ p ∈ hal.queue, p.2 ≠ .resetLockout) ∧
      ∀ st, hal.sessions[hal.sessions.length - 1]? = some st →
        st.lockout.Counts (sessionFailures ts)) ?_ ?_ hun
  · exact ⟨by simp [Hal.init], by simp [Hal.init]⟩
  · rintro ts (t : HalTransition) hrun hstep hguard ⟨hqueue, hlast⟩
    refine ⟨?_, ?_⟩
    · intro p hp hreset
      rcases mem_queue_step hstep hp with hold | ⟨c, st, hl, -, hj⟩
      · exact hqueue p hold hreset
      · rw [hreset] at hj
        rw [HalTransition.Unassisted, hl] at hguard
        exact hguard (call_eq_resetLockout hj)
    · intro st hst
      rcases sessions_step hstep with ⟨userId, hl, -, hnew⟩ | ⟨hl, hlen⟩
      · -- a new session starts from the service's tracker, which is zero
        rw [hnew] at hst
        simp only [List.length_append, List.length_singleton, Nat.add_sub_cancel,
          List.getElem?_concat_length, Option.some.injEq] at hst
        subst hst
        rw [sessionFailures_append_singleton, hl, mLockoutTracker_of_run hrun]
        exact Lockout.Counts.init
      · have hlt := (List.getElem?_eq_some_iff.1 hst).1
        rw [hlen] at hst hlt
        obtain ⟨st₀, hpre⟩ : ∃ st₀, t.pre.sessions[t.pre.sessions.length - 1]? = some st₀ :=
          ⟨_, List.getElem?_eq_getElem hlt⟩
        obtain ⟨st', hst', hlockout, -⟩ := session_step hstep hpre
        obtain rfl : st' = st := Option.some.inj (hst'.symm.trans hst)
        have hne : t.pre.sessions ≠ [] := List.length_pos_iff.1 (by omega)
        have hfail := eventAt_last_eq_failure hne
        have hevent := eventAt_of_unassisted hguard hqueue (t.pre.sessions.length - 1)
        have hcounts : Lockout.Counts
            (if t.pre.eventAt (t.pre.sessions.length - 1) t.label = .failure
              then sessionFailures ts + 1 else sessionFailures ts) st'.lockout := by
          rw [hlockout]
          exact (hlast st₀ hpre).apply (timers_of_hal_run hrun _ st₀ hpre)
            (lt_timers_of_eventAt hstep hpre) hevent.1 hevent.2
        rw [sessionFailures_append_singleton]
        split
        · rename_i userId hcreate
          exact absurd hcreate (hl userId)
        · by_cases hf : t.isFailure = true
          · rw [if_pos hf]
            simpa only [if_pos (hfail.2 hf)] using hcounts
          · rw [if_neg hf]
            simpa only [if_neg (fun h => hf (hfail.1 h))] using hcounts

/-- What the framework is told of a failed attempt is what the lockout of the last
session says to it. -/
theorem signals_of_isFailure {t : HalTransition} (h : halMachine.Takes t)
    (hf : t.isFailure = true) :
    ∃ st, t.pre.sessions[t.pre.sessions.length - 1]? = some st ∧
      t.signals = (st.lockout.apply .failure t.pre.now).2 := by
  cases halStep_of_takes h with
  | message hal msg i st hopen =>
      obtain ⟨hi, hlast, -⟩ := Hal.openSession_eq_some hopen
      obtain rfl : i = hal.sessions.length - 1 := by omega
      have hevent : msg.event = .failure := by
        simpa [HalTransition.isFailure, hopen] using hf
      refine ⟨st, hi, ?_⟩
      rw [← hevent, ← (lockout_notify st hal.now hal.enrollments msg).2]
      rw [HalTransition.signals, List.map_map]
      exact congrArg Fingerprint.signals (List.map_id _)
  | dropped hal msg hopen => simp [HalTransition.isFailure, hopen] at hf
  | _ => simp [HalTransition.isFailure] at hf

/-- The answer to a failed attempt is that of the failures of its own session. -/
theorem answer_of_run {before after : List HalTransition} {t : HalTransition}
    (hrun : halMachine.Run (.init boot) (before ++ t :: after) hal)
    (hun : ∀ t' ∈ before ++ t :: after, t'.Unassisted) (hf : t.isFailure = true) :
    t.signals = (Lockout.modeAfter (sessionFailures before + 1)).signals := by
  rw [List.append_cons] at hrun
  obtain ⟨hal₁, hrun₁, -⟩ := hrun.of_append
  obtain ⟨hbefore, hstep, -⟩ := hrun₁.of_append_singleton
  -- only the open session, which is the last one, hears of the attempt
  obtain ⟨st, hst, hsignals⟩ := signals_of_isFailure hstep hf
  have hcounts := (counts_of_run hbefore fun t' ht' => hun t' (List.mem_append_left _ ht')).2
  rw [hsignals, (hcounts st hst).signals_failure]

/-- **One count over all sessions, exactly where one session has it.**  In a run
without matches and resets, the `k`-th failed attempt over all sessions is
answered by `onLockoutTimed` for `5 ≤ k < 20` and by `onLockoutPermanent` for
`20 ≤ k`, if and only if each attempt that comes to a threshold over all sessions
comes to it in its own session too: with `c` the attempts since the last
`createSession`, `5 ≤ c` when `5 ≤ k`, and `20 ≤ c` when `20 ≤ k`, where the
32-bit counter has not come round to the timed lockout again. -/
theorem lockout_spans_sessions_iff (hrun : halMachine.Run (.init boot) ts hal)
    (hun : ∀ t ∈ ts, t.Unassisted) :
    (∀ (before : List HalTransition) (t : HalTransition) (after : List HalTransition),
      ts = before ++ t :: after → t.isFailure = true →
        (5 ≤ allFailures before + 1 → allFailures before + 1 < 20 →
          .lockoutTimed ∈ t.signals) ∧
        (20 ≤ allFailures before + 1 → .lockoutPermanent ∈ t.signals)) ↔
    ∀ (before : List HalTransition) (t : HalTransition) (after : List HalTransition),
      ts = before ++ t :: after → t.isFailure = true →
        (5 ≤ allFailures before + 1 → 5 ≤ sessionFailures before + 1) ∧
        (20 ≤ allFailures before + 1 → 20 ≤ sessionFailures before + 1 ∧
          ¬ (5 ≤ (sessionFailures before + 1) % 2 ^ 32 ∧
            (sessionFailures before + 1) % 2 ^ 32 < 20)) := by
  refine forall_congr' fun before => forall_congr' fun t => forall_congr' fun after =>
    forall_congr' fun hts => forall_congr' fun hf => ?_
  subst hts
  have hle : sessionFailures before ≤ allFailures before := sessionFailures_le_allFailures
  rw [answer_of_run hrun hun hf]
  -- by the mode that this session's own count leads to
  cases hmode : Lockout.modeAfter (sessionFailures before + 1) with
  | none =>
      have hfew := Lockout.modeAfter_eq_none.1 hmode
      simp only [LockoutMode.signals, List.not_mem_nil, imp_false]
      omega
  | timed =>
      have hband := Lockout.modeAfter_eq_timed.1 hmode
      simp only [LockoutMode.signals, List.mem_singleton, reduceCtorEq, imp_false,
        implies_true, true_and]
      omega
  | permanent =>
      have hlocked := Lockout.modeAfter_eq_permanent.1 hmode
      simp only [LockoutMode.signals, List.mem_singleton, reduceCtorEq, imp_false,
        implies_true, and_true]
      omega

end Failures

/-- A failed attempt that the open session is told of. -/
def HalLabel.failedAttempt : HalLabel := .message (.authenticated ⟨0, 0⟩ .zero)

/-- Four failures in one session, a fifth in the next: the fifth is answered by no
lockout at all. -/
theorem fifth_failure_unanswered :
    ∃ (ts : List HalTransition) (hal : Hal), halMachine.Run (.init 0) ts hal ∧
      (∀ t ∈ ts, t.Unassisted) ∧
      ∃ t ∈ ts.getLast?, t.isFailure = true ∧ allFailures ts = 5 ∧ t.signals = [] :=
  Machine.exists_run_of_exec
    ([.createSession 0] ++ List.replicate 4 .failedAttempt ++
      [.call 0 .close, .createSession 0, .failedAttempt]) (by decide)

/-- Two sessions, the first closed before any failure: all twenty failures of the
second one are answered as they should. -/
theorem lockout_spans_sessions_of_unused :
    ∃ (ts : List HalTransition) (hal : Hal), halMachine.Run (.init 0) ts hal ∧
      allFailures ts = 20 ∧ ∀ (before : List HalTransition) (t : HalTransition)
        (after : List HalTransition), ts = before ++ t :: after → t.isFailure = true →
          (5 ≤ allFailures before + 1 → allFailures before + 1 < 20 →
            .lockoutTimed ∈ t.signals) ∧
          (20 ≤ allFailures before + 1 → .lockoutPermanent ∈ t.signals) := by
  obtain ⟨ts, hal, hrun, hun, hall, hsame⟩ :
      ∃ (ts : List HalTransition) (hal : Hal), halMachine.Run (.init 0) ts hal ∧
        (∀ t ∈ ts, t.Unassisted) ∧ allFailures ts = 20 ∧
        ∀ n ∈ List.range ts.length, allFailures (ts.take n) < 20 ∧
          sessionFailures (ts.take n) = allFailures (ts.take n) :=
    Machine.exists_run_of_exec
      ([.createSession 0, .call 0 .close, .createSession 10] ++
        List.replicate 20 .failedAttempt) (by decide)
  refine ⟨ts, hal, hrun, hall, (lockout_spans_sessions_iff hrun hun).2 ?_⟩
  rintro before t after rfl -
  have hn := hsame before.length (by simp)
  rw [List.take_left] at hn
  omega

/-! ## The active group -/

section Group

/-- The device operations that work on the templates of the active group. -/
def DeviceCall.usesGroup : DeviceCall → Bool
  | .preEnroll | .enroll _ _ _ | .authenticate _ _ | .enumerate | .remove _ _
  | .getAuthenticatorId => true
  | .setActiveGroup _ _ | .postEnroll | .cancel | .goodixExtCmd _ _ => false

/-- The effect is such a device operation. -/
def Effect.usesGroup : Effect → Bool
  | .device c => c.usesGroup
  | _ => false

/-- The jobs that call such a device operation. -/
def Session.Job.usesGroup : Session.Job → Bool
  | .generateChallenge | .enroll _ | .authenticate _ | .enumerateEnrollments
  | .removeEnrollments _ | .getAuthenticatorId | .invalidateAuthenticatorId => true
  | _ => false

/-- The device's active group is that of session `i`'s user. -/
def Hal.InGroup (hal : Hal) (i : ℕ) : Prop :=
  ∃ st ∈ hal.sessions[i]?, hal.activeGroup = some st.session.gid

/-- Session `i` was created for the user with group `gid`. -/
def Hal.OwnedBy (hal : Hal) (gid : UInt32) (i : ℕ) : Prop :=
  ∃ st ∈ hal.sessions[i]?, st.session.gid = gid

instance (hal : Hal) (i : ℕ) : Decidable (hal.InGroup i) :=
  inferInstanceAs (Decidable (∃ st ∈ hal.sessions[i]?, _))

instance (hal : Hal) (gid : UInt32) (i : ℕ) : Decidable (hal.OwnedBy gid i) :=
  inferInstanceAs (Decidable (∃ st ∈ hal.sessions[i]?, _))

/-- What a step has to respect: a session is created only when the jobs still to
do in the device's group are its own user's, and a job of that kind is asked for
only on a session whose user has the active group. -/
def HalTransition.KeepsGroup (t : HalTransition) : Prop :=
  match t.label with
  | .createSession userId =>
      (∀ p ∈ t.pre.queue, p.2.usesGroup = true → t.pre.OwnedBy userId.toUInt32 p.1) ∧
      ∀ p ∈ t.pre.running, p.2.usesGroup = true → t.pre.OwnedBy userId.toUInt32 p.1
  | .call i c =>
      ∀ st ∈ t.pre.sessions[i]?, ∀ j ∈ (st.session.call c).2.2, j.usesGroup = true →
        t.pre.InGroup i
  | _ => True

instance (t : HalTransition) : Decidable t.KeepsGroup :=
  match h : t.label with
  | .createSession userId =>
      decidable_of_iff
        ((∀ p ∈ t.pre.queue, p.2.usesGroup = true → t.pre.OwnedBy userId.toUInt32 p.1) ∧
          ∀ p ∈ t.pre.running, p.2.usesGroup = true → t.pre.OwnedBy userId.toUInt32 p.1)
        (by simp [HalTransition.KeepsGroup, h])
  | .call i c =>
      decidable_of_iff
        (∀ st ∈ t.pre.sessions[i]?, ∀ j ∈ (st.session.call c).2.2, j.usesGroup = true →
          t.pre.InGroup i)
        (by simp [HalTransition.KeepsGroup, h])
  | .tick _ | .message _ | .take _ | .perform | .expire _ _ =>
      isTrue (by simp [HalTransition.KeepsGroup, h])

/-- The effect has nothing to do with the active group. -/
structure Effect.Aside (e : Effect) : Prop where
  usesGroup : e.usesGroup = false
  groupAfter : ∀ group, e.groupAfter group = group

@[simp] theorem aside_callback (c : Callback) : (Effect.callback c).Aside :=
  ⟨rfl, fun _ => rfl⟩

@[simp] theorem aside_setFodHbm (status : Bool) : (Effect.setFodHbm status).Aside :=
  ⟨rfl, fun _ => rfl⟩

@[simp] theorem aside_startTimer (timeout : ℤ) : (Effect.startTimer timeout).Aside :=
  ⟨rfl, fun _ => rfl⟩

@[simp] theorem aside_goodixExtCmd (cmd param : Int32) :
    (Effect.device (.goodixExtCmd cmd param)).Aside :=
  ⟨rfl, fun _ => rfl⟩

@[simp] theorem aside_postEnroll : (Effect.device .postEnroll).Aside := ⟨rfl, fun _ => rfl⟩

@[simp] theorem aside_cancel : (Effect.device .cancel).Aside := ⟨rfl, fun _ => rfl⟩

/-- No client call has to do with the group before its job runs. -/
theorem aside_call (s : Session) (c : Session.Call) : ∀ e ∈ (s.call c).2.1, e.Aside := by
  intro e he
  rcases mem_call he with ⟨-, rfl⟩ | ⟨-, rfl⟩ <;> simp

theorem aside_lockoutTimerExpired (s : Session) : ∀ e ∈ s.lockoutTimerExpired.2, e.Aside := by
  intro e he
  rw [mem_lockoutTimerExpired he]
  exact aside_callback _

/-- No message has to do with the group. -/
theorem aside_of_ofMessage {e : Effect} (he : e.ofMessage = true) : e.Aside := by
  cases e with
  | device c =>
      cases c with
      | goodixExtCmd cmd param => simp
      | _ => exact Bool.noConfusion he
  | _ => simp

variable [Util]

/-- The jobs that `usesGroup` does not name have nothing to do with the group. -/
theorem aside_runJob {s : Session} {j : Session.Job} {r : DeviceReplies} {now : ℕ}
    (hj : j.usesGroup = false) : ∀ e ∈ (s.runJob j r now).2, e.Aside := by
  cases j with
  | onPointerDown =>
      intro e he
      rcases List.mem_cons.1 he with rfl | he
      · simp
      · exact aside_of_ofMessage
          (Effect.ofMessage_of_ofLockoutCheck (ofLockoutCheck_checkSensorLockout s now e he))
  | cancel => by_cases hcode : r.code = 0 <;> simp [Session.runJob, hcode]
  | revokeChallenge challenge => simp [Session.runJob]
  | detectInteraction => simp [Session.runJob]
  | resetLockout => simp [Session.runJob, Session.clearLockout]
  | onPointerUp => simp [Session.runJob]
  | close => simp [Session.runJob]
  | _ => exact Bool.noConfusion hj

/-- No job sets the group. -/
theorem groupAfter_runJob {s : Session} {j : Session.Job} {r : DeviceReplies} {now : ℕ} :
    ∀ e ∈ (s.runJob j r now).2, ∀ group, e.groupAfter group = group := by
  intro e he group
  have hjob := ofJob_runJob s now j r e he
  cases e with
  | device c =>
      cases c with
      | setActiveGroup gid storePath => exact Bool.noConfusion hjob
      | _ => rfl
  | _ => rfl

/-- Only the worker works in the group: an operation of that kind is the next
effect of the running job. -/
theorem mem_running_of_usesGroup {t : HalTransition} (h : halMachine.Takes t)
    {p : ℕ × Effect} (hp : p ∈ t.out) (huses : p.2.usesGroup = true) : p ∈ t.pre.running := by
  have not_aside : ∀ {i : ℕ} {es : List Effect}, (∀ e ∈ es, e.Aside) →
      p ∉ es.map (fun e => (i, e)) := by
    intro i es hes hmem
    obtain ⟨e, he, rfl⟩ := List.mem_map.1 hmem
    simp [(hes e he).usesGroup] at huses
  cases halStep_of_takes h with
  | tick hal nanos => simp at hp
  | createSession hal userId hopen =>
      rw [List.mem_singleton.1 hp] at huses
      simp [Effect.usesGroup, DeviceCall.usesGroup] at huses
  | call hal i c st hi => exact absurd hp (not_aside (aside_call st.session c))
  | take hal r i j rest st hrunning hqueue hi => simp at hp
  | perform hal q rest hrunning =>
      show p ∈ hal.running
      rw [List.mem_singleton.1 hp, hrunning]
      exact List.mem_cons_self
  | expire hal i k st wake hi hk hwake =>
      exact absurd hp (not_aside (aside_lockoutTimerExpired st.session))
  | dropped hal msg hopen => simp at hp
  | message hal msg i st hopen =>
      exact absurd hp (not_aside fun e he =>
        aside_of_ofMessage (ofMessage_notify st.session _ _ msg e he))

/-- Only `createSession` changes the active group, as long as the running job does
not. -/
theorem activeGroup_step {t : HalTransition} (h : halMachine.Takes t)
    (hrunning : ∀ p ∈ t.pre.running, ∀ group, p.2.groupAfter group = group) :
    (∃ userId, t.label = .createSession userId ∧
      t.post.activeGroup = some userId.toUInt32) ∨
    ((∀ userId, t.label ≠ .createSession userId) ∧
      t.post.activeGroup = t.pre.activeGroup) := by
  cases halStep_of_takes h with
  | createSession hal userId hopen => exact Or.inl ⟨userId, rfl, rfl⟩
  | perform hal p rest hr =>
      refine Or.inr ⟨by simp, hrunning p ?_ _⟩
      show p ∈ hal.running
      rw [hr]
      exact List.mem_cons_self
  | _ => exact Or.inr ⟨by simp, rfl⟩

/-- A session's user keeps the group if the step sets no other. -/
theorem inGroup_step {t : HalTransition} (h : halMachine.Takes t) {i : ℕ} {st : SessionState}
    (hst : t.pre.sessions[i]? = some st)
    (hgroup : t.post.activeGroup = some st.session.gid) : t.post.InGroup i := by
  obtain ⟨st', hst', -, huser⟩ := session_step h hst
  refine ⟨st', hst', ?_⟩
  rw [hgroup, Session.gid, Session.gid, huser]

/-- Everything that is still to be done in the active group belongs to a session of
that group's user, and no effect of the running job sets another group. -/
structure Hal.OwnGroup (hal : Hal) : Prop where
  queue : ∀ p ∈ hal.queue, p.2.usesGroup = true → hal.InGroup p.1
  running : ∀ p ∈ hal.running, p.2.usesGroup = true → hal.InGroup p.1
  quiet : ∀ p ∈ hal.running, ∀ group, p.2.groupAfter group = group

/-- What was in its own group before a step that respects it is in its own group
after it. -/
theorem Hal.OwnGroup.inGroup {t : HalTransition} (h : halMachine.Takes t)
    (hown : t.pre.OwnGroup) {i : ℕ} (hin : t.pre.InGroup i)
    (hcreate : ∀ userId, t.label = .createSession userId → t.pre.OwnedBy userId.toUInt32 i) :
    t.post.InGroup i := by
  rcases activeGroup_step h hown.quiet with ⟨userId, hl, hgroup⟩ | ⟨-, hgroup⟩
  · obtain ⟨st, hst, hgid⟩ := hcreate userId hl
    exact inGroup_step h hst (by rw [hgroup, hgid])
  · obtain ⟨st, hst, hgid⟩ := hin
    exact inGroup_step h hst (hgroup.trans hgid)

theorem Hal.OwnGroup.step {t : HalTransition} (h : halMachine.Takes t)
    (hkeeps : t.KeepsGroup) (hown : t.pre.OwnGroup) : t.post.OwnGroup := by
  unfold HalTransition.KeepsGroup at hkeeps
  refine ⟨?_, ?_, ?_⟩
  · intro p hp huses
    rcases mem_queue_step h hp with hold | ⟨c, st, hl, hst, hj⟩
    · refine hown.inGroup h (hown.queue p hold huses) ?_
      intro userId hl
      rw [hl] at hkeeps
      exact hkeeps.1 p hold huses
    · -- a job that was asked for just now
      rw [hl] at hkeeps
      refine hown.inGroup h (hkeeps st hst p.2 hj huses) ?_
      intro userId hcreate
      rw [hcreate] at hl
      simp at hl
  · intro p hp huses
    rcases mem_running_step h hp with hold | ⟨j, st, r, hqueue, hst, he⟩
    · refine hown.inGroup h (hown.running p hold huses) ?_
      intro userId hl
      rw [hl] at hkeeps
      exact hkeeps.2 p hold huses
    · -- the worker has taken the job from the queue
      have hj : j.usesGroup = true := by
        by_contra hj
        have haside := aside_runJob (Bool.eq_false_of_not_eq_true hj) p.2 he
        rw [haside.usesGroup] at huses
        simp at huses
      refine hown.inGroup h (hown.queue (p.1, j) hqueue hj) ?_
      intro userId hl
      rw [hl] at hkeeps
      exact hkeeps.1 (p.1, j) hqueue hj
  · intro p hp
    rcases mem_running_step h hp with hold | ⟨j, st, r, -, -, he⟩
    · exact hown.quiet p hold
    · exact groupAfter_runJob p.2 he

/-- **Every job works in the group of its own session's user**, in the runs whose
steps respect the group: no session is created while the worker still has to
enroll, authenticate, enumerate, remove or read an authenticator id for another
user, and no such job is asked for on a session whose user does not have the
group. -/
theorem own_group_of_run (hrun : halMachine.Run (.init boot) ts hal)
    (hkeeps : ∀ t ∈ ts, t.KeepsGroup) :
    ∀ t ∈ ts, ∀ p ∈ t.out, p.2.usesGroup = true → t.pre.InGroup p.1 := by
  intro t ht p hp huses
  obtain ⟨ts₁, ts₂, rfl, hrun₁, hstep⟩ := hrun.split_of_mem ht
  have hown : t.pre.OwnGroup := by
    refine hrun₁.invariant_of_guard (G := fun t : HalTransition => t.KeepsGroup)
      (I := fun hal => hal.OwnGroup) ?_ ?_
      (fun t' ht' => hkeeps t' (List.mem_append_left _ ht'))
    · exact ⟨by simp [Hal.init], by simp [Hal.init], by simp [Hal.init]⟩
    · exact fun t hstep hguard hown => hown.step hstep hguard
  -- the operation is the next effect of the running job
  exact hown.running p (mem_running_of_usesGroup hstep hp huses) huses

end Group

/-- User 0's client asks for an enumeration and closes its session, user 10's
session is created before the worker gets to it: the enumeration of user 0's
session runs in the group of user 10. -/
theorem enumerate_in_other_group :
    ∃ (ts : List HalTransition) (hal : Hal), halMachine.Run (.init 0) ts hal ∧
      ∃ t ∈ ts, (0, .device .enumerate) ∈ t.out ∧
        (∃ st ∈ t.pre.sessions[0]?, st.session.mUserId = 0) ∧
        t.pre.activeGroup = some 10 ∧ ¬ t.pre.InGroup 0 :=
  Machine.exists_run_of_exec
    [.createSession 0, .call 0 .enumerateEnrollments, .call 0 .close, .createSession 10,
      .take .zero, .perform] (by decide)

/-- The same two users, with the worker given time between the two sessions: both
enumerations run in the group of their own user. -/
theorem own_group_of_drained_queue :
    ∃ (ts : List HalTransition) (hal : Hal), halMachine.Run (.init 0) ts hal ∧
      (∃ t ∈ ts, (0, .device .enumerate) ∈ t.out) ∧
      (∃ t ∈ ts, (1, .device .enumerate) ∈ t.out) ∧
      ∀ t ∈ ts, ∀ p ∈ t.out, p.2.usesGroup = true → t.pre.InGroup p.1 := by
  obtain ⟨ts, hal, hrun, hkeeps, hfirst, hsecond⟩ :
      ∃ (ts : List HalTransition) (hal : Hal), halMachine.Run (.init 0) ts hal ∧
        (∀ t ∈ ts, t.KeepsGroup) ∧ (∃ t ∈ ts, (0, .device .enumerate) ∈ t.out) ∧
        ∃ t ∈ ts, (1, .device .enumerate) ∈ t.out :=
    Machine.exists_run_of_exec
      [.createSession 0, .call 0 .enumerateEnrollments, .call 0 .close, .take .zero, .perform,
        .createSession 10, .call 1 .enumerateEnrollments, .take .zero, .perform, .perform,
        .take .zero, .perform] (by decide)
  exact ⟨ts, hal, hrun, hfirst, hsecond, own_group_of_run hrun hkeeps⟩

end Fingerprint
