/-
# Messages, timers and deaths on their own threads (`Fingerprint.cpp`, `Session.cpp`)

`Fingerprint::notify` tests whether the open session is closed and then calls
`Session::notify`; `lockoutTimerExpired` tests whether it was aborted and then clears the
lockout; `onClientDeath` tests whether the session is closed and then closes it.  None of
them holds a lock, so anything can happen between the test and the rest, and between the
callbacks that come after it.

`halMachine` takes each of them in one step.  `threadedMachine` takes the test, the rest
and every effect as steps of their own, of any number of threads; `Fingerprint::notify`
reads `mSession` once more after its test.  `close` remains one step: between its store to
`mClosed` and its callback nothing can happen that could not happen just before or after.

`threaded_run_of_halRun` : what the service does in one step after the other it can do
here.
-/
import PongHal.FingerprintHal

namespace Fingerprint

/-! ## The machine -/

/-- A thread of the device, of a lockout timer or of a dead client, past the test that it
begins with. -/
inductive OutsideThread
  /-- `Fingerprint::notify` has found a session open. -/
  | notifying (msg : FingerprintMsg)
  /-- `lockoutTimerExpired` of session `i` was not aborted. -/
  | clearing (i : ℕ)
  /-- `onClientDeath` has found session `i` open. -/
  | closing (i : ℕ)
  /-- The thread has run the code of a session, and performs its effects. -/
  | performing (effects : List (ℕ × Effect))
  deriving DecidableEq, Repr

/-- The service, and the threads that are past their test. -/
structure ThreadedHal where
  hal : Hal
  threads : List OutsideThread
  deriving DecidableEq, Repr

/-- What happens next. -/
inductive ThreadedLabel
  /-- A step of the service; of a message, a timer or the client's death only the test. -/
  | hal (l : HalLabel)
  /-- Thread `n` goes on after its test. -/
  | enter (n : ℕ)
  /-- Thread `n` performs its next effect. -/
  | perform (n : ℕ)
  deriving DecidableEq, Repr

/-- The step begins with a test. -/
def HalLabel.tests : HalLabel → Bool
  | .message _ | .expire _ _ | .call _ .clientDeath => true
  | _ => false

/-- `Session::lockoutTimerExpired` after its test. -/
def Session.expireUnaborted (s : Session) : Session × List Effect :=
  { s with mIsLockoutTimerAborted := false }.lockoutTimerExpired

namespace ThreadedHal

/-- The service after its construction. -/
def init (boot : ℕ) : ThreadedHal where
  hal := .init boot
  threads := []

/-- The service with session `i` in a new state. -/
def setSession (s : ThreadedHal) (i : ℕ) (st : SessionState) : ThreadedHal :=
  { s with hal := { s.hal with sessions := s.hal.sessions.set i st } }

/-- The test of a message, a timer or the client's death; the other steps of the service. -/
def test [Util] (s : ThreadedHal) (l : HalLabel) :
    Option (ThreadedHal × List (ℕ × Effect)) :=
  match l with
  | .message msg =>
      match s.hal.openSession with
      | none => some (s, [])
      | some _ => some ({ s with threads := s.threads ++ [.notifying msg] }, [])
  | .expire i k =>
      match s.hal.sessions[i]? with
      | none => none
      | some st =>
          match st.timers[k]? with
          | none => none
          | some wake =>
              if wake ≤ s.hal.now then
                if st.session.mIsLockoutTimerAborted then some (s.setSession i (st.expire k), [])
                else
                  some ({ s.setSession i { st with timers := st.timers.eraseIdx k } with
                    threads := s.threads ++ [.clearing i] }, [])
              else none
  | .call i .clientDeath =>
      match s.hal.sessions[i]? with
      | none => none
      | some st =>
          if st.session.mClosed then some (s, [])
          else some ({ s with threads := s.threads ++ [.closing i] }, [])
  | l => (s.hal.step l).map fun r => ({ s with hal := r.1 }, r.2)

/-- Thread `n` runs the code after its test. -/
def enter [Util] (s : ThreadedHal) (n : ℕ) : Option (ThreadedHal × List (ℕ × Effect)) :=
  match s.threads[n]? with
  | some (.notifying msg) =>
      -- `mSession` is read again: it is the last session, closed or not
      match s.hal.sessions.getLast? with
      | none => none
      | some st =>
          let i := s.hal.sessions.length - 1
          let r := st.session.notify s.hal.enrollments msg s.hal.now
          some ({ hal := { s.hal with
                    sessions := s.hal.sessions.set i (st.absorb s.hal.now r.1 r.2.2)
                    enrollments := r.2.1 }
                  threads := s.threads.set n (.performing (r.2.2.map fun e => (i, e))) }, [])
  | some (.clearing i) =>
      match s.hal.sessions[i]? with
      | none => none
      | some st =>
          let r := st.session.expireUnaborted
          some ({ s.setSession i { st with session := r.1 } with
            threads := s.threads.set n (.performing (r.2.map fun e => (i, e))) }, [])
  | some (.closing i) =>
      (s.hal.step (.call i .close)).map fun r =>
        ({ hal := r.1, threads := s.threads.set n (.performing []) }, r.2)
  | _ => none

/-- One step. -/
def step [Util] (s : ThreadedHal) : ThreadedLabel → Option (ThreadedHal × List (ℕ × Effect))
  | .hal l => s.test l
  | .enter n => s.enter n
  | .perform n =>
      match s.threads[n]? with
      | some (.performing (e :: rest)) =>
          some ({ s with threads := s.threads.set n (.performing rest) }, [e])
      | _ => none

end ThreadedHal

/-- The machine of the service with its threads. -/
def threadedMachine [Util] : Machine ThreadedHal ThreadedLabel (ℕ × Effect) where
  step := ThreadedHal.step

/-- A step of such a run. -/
abbrev ThreadedTransition := Transition ThreadedHal ThreadedLabel (ℕ × Effect)

/-- The effects of a run, in order, each with its session. -/
def threadedEffects (ts : List ThreadedTransition) : List (ℕ × Effect) := ts.flatMap fun t => t.out

theorem threadedEffects_append_singleton (ts : List ThreadedTransition) (t : ThreadedTransition) :
    threadedEffects (ts ++ [t]) = threadedEffects ts ++ t.out := by
  simp [threadedEffects, List.flatMap_append]

/-- The effects that a thread has still to perform. -/
def OutsideThread.effects : OutsideThread → List (ℕ × Effect)
  | .performing effects => effects
  | .notifying _ | .clearing _ | .closing _ => []

/-- What the worker and the other threads are in the middle of and have still to perform. -/
def ThreadedHal.unperformed (s : ThreadedHal) : List (ℕ × Effect) :=
  s.hal.running ++ s.threads.flatMap OutsideThread.effects

/-! ## What a step can do -/

section

variable [Util]

/-- The steps of the machine. -/
inductive ThreadedStep : ThreadedTransition → Prop
  /-- A step of the service without a test. -/
  | plain (s : ThreadedHal) (l : HalLabel) (out : List (ℕ × Effect)) (hal' : Hal)
      (hl : l.tests = false) (hstep : halMachine.Takes ⟨s.hal, l, out, hal'⟩) :
      ThreadedStep ⟨s, .hal l, out, { s with hal := hal' }⟩
  /-- A message that finds no session open, or the death of a closed session's client. -/
  | ignored (s : ThreadedHal) (l : HalLabel) (hl : l.tests = true)
      (hnone : ∀ msg, l = .message msg → s.hal.openSession = none) :
      ThreadedStep ⟨s, .hal l, [], s⟩
  /-- A message that finds a session open. -/
  | received (s : ThreadedHal) (msg : FingerprintMsg) (i : ℕ) (st : SessionState)
      (hopen : s.hal.openSession = some (i, st)) :
      ThreadedStep ⟨s, .hal (.message msg), [],
        { s with threads := s.threads ++ [.notifying msg] }⟩
  /-- A timer that has been aborted. -/
  | aborted (s : ThreadedHal) (i k : ℕ) (st : SessionState) (hi : s.hal.sessions[i]? = some st)
      (haborted : st.session.mIsLockoutTimerAborted = true) :
      ThreadedStep ⟨s, .hal (.expire i k), [], s.setSession i (st.expire k)⟩
  /-- A timer that has not. -/
  | woken (s : ThreadedHal) (i k : ℕ) (st : SessionState) (hi : s.hal.sessions[i]? = some st)
      (haborted : st.session.mIsLockoutTimerAborted = false) :
      ThreadedStep ⟨s, .hal (.expire i k), [],
        { s.setSession i { st with timers := st.timers.eraseIdx k } with
          threads := s.threads ++ [.clearing i] }⟩
  /-- The client of an open session dies. -/
  | died (s : ThreadedHal) (i : ℕ) (st : SessionState) (hi : s.hal.sessions[i]? = some st)
      (hopen : st.session.mClosed = false) :
      ThreadedStep ⟨s, .hal (.call i .clientDeath), [],
        { s with threads := s.threads ++ [.closing i] }⟩
  | notifies (s : ThreadedHal) (n : ℕ) (msg : FingerprintMsg) (i : ℕ) (st : SessionState)
      (hn : s.threads[n]? = some (.notifying msg)) (hlast : s.hal.sessions.length = i + 1)
      (hi : s.hal.sessions[i]? = some st) :
      ThreadedStep ⟨s, .enter n, [],
        { hal := { s.hal with
            sessions := s.hal.sessions.set i
              (st.absorb s.hal.now (st.session.notify s.hal.enrollments msg s.hal.now).1
                (st.session.notify s.hal.enrollments msg s.hal.now).2.2)
            enrollments := (st.session.notify s.hal.enrollments msg s.hal.now).2.1 }
          threads := s.threads.set n (.performing
            ((st.session.notify s.hal.enrollments msg s.hal.now).2.2.map fun e => (i, e))) }⟩
  | clears (s : ThreadedHal) (n i : ℕ) (st : SessionState)
      (hn : s.threads[n]? = some (.clearing i)) (hi : s.hal.sessions[i]? = some st) :
      ThreadedStep ⟨s, .enter n, [],
        { s.setSession i { st with session := st.session.expireUnaborted.1 } with
          threads := s.threads.set n
            (.performing (st.session.expireUnaborted.2.map fun e => (i, e))) }⟩
  | closes (s : ThreadedHal) (n i : ℕ) (out : List (ℕ × Effect)) (hal' : Hal)
      (hn : s.threads[n]? = some (.closing i))
      (hstep : halMachine.Takes ⟨s.hal, .call i .close, out, hal'⟩) :
      ThreadedStep ⟨s, .enter n, out, { hal := hal', threads := s.threads.set n (.performing []) }⟩
  | performs (s : ThreadedHal) (n : ℕ) (e : ℕ × Effect) (rest : List (ℕ × Effect))
      (hn : s.threads[n]? = some (.performing (e :: rest))) :
      ThreadedStep ⟨s, .perform n, [e],
        { s with threads := s.threads.set n (.performing rest) }⟩

/-- The machine takes no other steps. -/
theorem threadedStep_of_takes {t : ThreadedTransition} (h : threadedMachine.Takes t) :
    ThreadedStep t := by
  obtain ⟨s, l, out, s'⟩ := t
  change s.step l = some (s', out) at h
  cases l with
  | hal l =>
      change s.test l = some (s', out) at h
      have hplain : l.tests = false → s.test l = (s.hal.step l).map
          (fun r => ({ s with hal := r.1 }, r.2)) → ThreadedStep ⟨s, .hal l, out, s'⟩ := by
        intro hl heq
        rw [heq, Option.map_eq_some_iff] at h
        obtain ⟨⟨hal', out'⟩, hstep, heq⟩ := h
        cases heq
        exact .plain s l _ hal' hl hstep
      cases l with
      | message msg =>
          simp only [ThreadedHal.test] at h
          split at h
          · rename_i hnone
            cases h
            exact .ignored s _ rfl fun _ _ => hnone
          · rename_i p hopen
            cases h
            exact .received s msg p.1 p.2 hopen
      | expire i k =>
          simp only [ThreadedHal.test] at h
          split at h
          · cases h
          rename_i st hi
          split at h
          · cases h
          split at h
          swap
          · cases h
          split at h
          · rename_i haborted
            cases h
            exact .aborted s i k st hi haborted
          · rename_i haborted
            cases h
            exact .woken s i k st hi (Bool.eq_false_iff.2 haborted)
      | call i c =>
          cases c with
          | clientDeath =>
              simp only [ThreadedHal.test] at h
              split at h
              · cases h
              rename_i st hi
              split at h
              · cases h
                exact .ignored s _ rfl fun _ hmsg => by cases hmsg
              · rename_i hopen
                cases h
                exact .died s i st hi (Bool.eq_false_iff.2 hopen)
          | _ => exact hplain rfl rfl
      | _ => exact hplain rfl rfl
  | enter n =>
      change s.enter n = some (s', out) at h
      unfold ThreadedHal.enter at h
      split at h
      · rename_i msg hn
        split at h
        · cases h
        · rename_i st hlast
          cases h
          have hne : s.hal.sessions ≠ [] := by
            rintro hnil
            simp [hnil] at hlast
          have hpos := List.length_pos_iff.2 hne
          rw [List.getLast?_eq_getElem?] at hlast
          exact .notifies s n msg _ st hn (by omega) hlast
      · rename_i i hn
        split at h
        · cases h
        · rename_i st hi
          cases h
          exact .clears s n i st hn hi
      · rename_i i hn
        obtain ⟨⟨hal', out'⟩, hstep, heq⟩ := Option.map_eq_some_iff.1 h
        cases heq
        exact .closes s n i _ hal' hn hstep
      · cases h
  | perform n =>
      simp only [ThreadedHal.step] at h
      split at h
      · rename_i e rest hn
        cases h
        exact .performs s n e rest hn
      · cases h

/-! ## What is to be performed -/

variable {ts : List ThreadedTransition} {s : ThreadedHal}

omit [Util] in
/-- The threads before and after one of them. -/
theorem exists_split_of_thread {threads : List OutsideThread} {n : ℕ} {th : OutsideThread}
    (hn : threads[n]? = some th) :
    ∃ before after, threads = before ++ th :: after ∧
      ∀ th', threads.set n th' = before ++ th' :: after := by
  obtain ⟨hlt, rfl⟩ := List.getElem?_eq_some_iff.1 hn
  refine ⟨threads.take n, threads.drop (n + 1), ?_, fun th' => ?_⟩
  · rw [List.cons_getElem_drop_succ, List.take_append_drop]
  · rw [List.set_eq_take_append_cons_drop, if_pos hlt]

omit [Util] in
/-- A thread that goes on to perform effects adds them to what is to be performed. -/
theorem mem_unperformed_set {n : ℕ} {th : OutsideThread} (hn : s.threads[n]? = some th)
    (hth : th.effects = []) {hal' : Hal} (hrunning : hal'.running = s.hal.running)
    {es : List (ℕ × Effect)} {p : ℕ × Effect} :
    p ∈ ThreadedHal.unperformed ⟨hal', s.threads.set n (.performing es)⟩ ↔
      p ∈ s.unperformed ∨ p ∈ es := by
  obtain ⟨before, after, hthreads, hset⟩ := exists_split_of_thread hn
  have hes : (OutsideThread.performing es).effects = es := rfl
  rw [ThreadedHal.unperformed, ThreadedHal.unperformed, hset, hthreads, hrunning]
  simp only [List.flatMap_append, List.flatMap_cons, hth, hes, List.mem_append, List.nil_append]
  tauto

omit [Util] in
/-- A new thread has nothing to perform yet. -/
theorem unperformed_append {hal' : Hal} (hrunning : hal'.running = s.hal.running)
    {th : OutsideThread} (hth : th.effects = []) :
    ThreadedHal.unperformed ⟨hal', s.threads ++ [th]⟩ = s.unperformed := by
  simp [ThreadedHal.unperformed, hrunning, hth]

omit [Util] in
theorem mem_unperformed_performs {n : ℕ} {e : ℕ × Effect} {rest : List (ℕ × Effect)}
    (hn : s.threads[n]? = some (.performing (e :: rest))) {p : ℕ × Effect} :
    p ∈ s.unperformed ↔
      p = e ∨ p ∈ ThreadedHal.unperformed ⟨s.hal, s.threads.set n (.performing rest)⟩ := by
  obtain ⟨before, after, hthreads, hset⟩ := exists_split_of_thread hn
  rw [ThreadedHal.unperformed, ThreadedHal.unperformed, hset, hthreads]
  simp only [List.flatMap_append, List.flatMap_cons, OutsideThread.effects, List.mem_append,
    List.mem_cons, List.cons_append]
  tauto

/-- What is to be performed is performed in a step, or remains. -/
theorem unperformed_or_out {t : ThreadedTransition} (h : threadedMachine.Takes t)
    {p : ℕ × Effect} (hp : p ∈ t.pre.unperformed) : p ∈ t.post.unperformed ∨ p ∈ t.out := by
  cases threadedStep_of_takes h with
  | plain s l out hal' hl hstep =>
      rcases List.mem_append.1 hp with hrunning | hthread
      · cases halStep_of_takes hstep with
        | take hal r k j rest st hidle hqueue hk =>
            rw [hidle] at hrunning
            cases hrunning
        | perform hal q rest hperform =>
            rw [hperform] at hrunning
            rcases List.mem_cons.1 hrunning with rfl | hlater
            · exact .inr (List.mem_singleton_self _)
            · exact .inl (List.mem_append_left _ hlater)
        | _ => exact .inl (List.mem_append_left _ hrunning)
      · exact .inl (List.mem_append_right _ hthread)
  | ignored s l hl => exact .inl hp
  | received s msg k st hopen => exact .inl (by rwa [unperformed_append rfl rfl])
  | aborted s k timer st hk haborted => exact .inl hp
  | woken s k timer st hk haborted =>
      have hsame : ThreadedHal.unperformed
          ⟨(s.setSession k { st with timers := st.timers.eraseIdx timer }).hal,
            s.threads ++ [.clearing k]⟩ = s.unperformed := unperformed_append rfl rfl
      left
      rw [← hsame] at hp
      exact hp
  | died s k st hk hopen => exact .inl (by rwa [unperformed_append rfl rfl])
  | notifies s n msg k st hn hlast hk =>
      exact .inl ((mem_unperformed_set hn rfl rfl).2 (.inl hp))
  | clears s n k st hn hk =>
      exact .inl ((mem_unperformed_set (s := s) hn rfl rfl).2 (.inl hp))
  | closes s n k out hal' hn hstep =>
      have hrunning : hal'.running = s.hal.running := by
        cases halStep_of_takes hstep with
        | call hal k c st hk => rfl
      exact .inl ((mem_unperformed_set hn rfl hrunning).2 (.inl hp))
  | performs s n e rest hn =>
      rcases (mem_unperformed_performs hn).1 hp with rfl | hlater
      · exact .inr (List.mem_singleton_self _)
      · exact .inl hlater

/-- What is to be performed is performed, or still to be performed. -/
theorem mem_effects_of_mem_unperformed {s₀ : ThreadedHal} {p : ℕ × Effect}
    (hrun : threadedMachine.Run s₀ ts s) (hp : p ∈ s₀.unperformed) :
    p ∈ s.unperformed ∨ p ∈ threadedEffects ts := by
  refine hrun.history (I := fun ts s => p ∈ s.unperformed ∨ p ∈ threadedEffects ts) (.inl hp) ?_
  intro ts t hrun hstep ih
  rw [threadedEffects_append_singleton, List.mem_append]
  rcases ih with hwaiting | hdone
  · rcases unperformed_or_out hstep hwaiting with hlater | hnow
    · exact .inl hlater
    · exact .inr (.inr hnow)
  · exact .inr (.inl hdone)

/-! ## The service as it was -/

/-- A thread performs all its effects. -/
theorem run_performing (hal : Hal) (threads : List OutsideThread) (es : List (ℕ × Effect)) :
    ∃ ts, threadedMachine.Run ⟨hal, threads ++ [.performing es]⟩ ts
      ⟨hal, threads ++ [.performing []]⟩ ∧ threadedEffects ts = es := by
  induction es with
  | nil => exact ⟨[], .start, rfl⟩
  | cons e es ih =>
      obtain ⟨ts, hrun, hout⟩ := ih
      have hstep : threadedMachine.Takes ⟨⟨hal, threads ++ [.performing (e :: es)]⟩,
          .perform threads.length, [e], ⟨hal, threads ++ [.performing es]⟩⟩ := by
        simp [Machine.Takes, threadedMachine, ThreadedHal.step]
      refine ⟨_, (Machine.Run.start.next hstep).trans hrun, ?_⟩
      rw [threadedEffects, List.flatMap_append, ← threadedEffects, ← threadedEffects, hout]
      rfl

/-- A test, the rest, and all the effects. -/
theorem run_of_test {s : ThreadedHal} {l : HalLabel} {th : OutsideThread} {hal₁ hal₂ : Hal}
    {es : List (ℕ × Effect)}
    (htest : s.test l = some (⟨hal₁, s.threads ++ [th]⟩, []))
    (henter : ThreadedHal.enter ⟨hal₁, s.threads ++ [th]⟩ s.threads.length =
      some (⟨hal₂, s.threads ++ [.performing es]⟩, [])) :
    ∃ ts, threadedMachine.Run s ts ⟨hal₂, s.threads ++ [.performing []]⟩ ∧
      threadedEffects ts = es := by
  obtain ⟨ts, hrun, hout⟩ := run_performing hal₂ s.threads es
  have hfirst : threadedMachine.Takes ⟨s, .hal l, [], ⟨hal₁, s.threads ++ [th]⟩⟩ := htest
  have hsecond : threadedMachine.Takes ⟨⟨hal₁, s.threads ++ [th]⟩, .enter s.threads.length, [],
      ⟨hal₂, s.threads ++ [.performing es]⟩⟩ := henter
  refine ⟨_, ((Machine.Run.start.next hfirst).next hsecond).trans hrun, ?_⟩
  rw [threadedEffects, List.flatMap_append, ← threadedEffects, ← threadedEffects, hout]
  rfl

omit [Util] in
/-- Without an abort the test says nothing new. -/
theorem Session.expireUnaborted_eq (s : Session) (h : s.mIsLockoutTimerAborted = false) :
    s.expireUnaborted = s.lockoutTimerExpired := by
  obtain ⟨⟩ := s
  cases h
  rfl

/-- One step is a run. -/
theorem run_of_step {s s' : ThreadedHal} {l : ThreadedLabel} {out : List (ℕ × Effect)}
    (hstep : s.step l = some (s', out)) :
    ∃ ts, threadedMachine.Run s ts s' ∧ threadedEffects ts = out :=
  ⟨[⟨s, l, out, s'⟩], Machine.Run.start.next hstep, List.flatMap_singleton _ _⟩

/-- The death of an open session's client: the test, and then the session is closed. -/
theorem run_of_death {hal hal' : Hal} {threads : List OutsideThread} {i : ℕ} {st : SessionState}
    {out : List (ℕ × Effect)} (hi : hal.sessions[i]? = some st)
    (hopen : st.session.mClosed = false)
    (h : halMachine.Takes ⟨hal, .call i .clientDeath, out, hal'⟩) :
    ∃ ts threads', threadedMachine.Run ⟨hal, threads⟩ ts ⟨hal', threads'⟩ ∧
      threadedEffects ts = out := by
  have hclose : hal.step (.call i .close) = some (hal', out) := by
    have hdeath : hal.step (.call i .clientDeath) = some (hal', out) := h
    rw [← hdeath]
    simp [Hal.step, hi, Session.call, hopen]
  have htest : threadedMachine.Takes ⟨⟨hal, threads⟩, .hal (.call i .clientDeath), [],
      ⟨hal, threads ++ [.closing i]⟩⟩ := by
    simp [Machine.Takes, threadedMachine, ThreadedHal.step, ThreadedHal.test, hi, hopen]
  have henter : threadedMachine.Takes ⟨⟨hal, threads ++ [.closing i]⟩, .enter threads.length,
      out, ⟨hal', threads ++ [.performing []]⟩⟩ := by
    simp [Machine.Takes, threadedMachine, ThreadedHal.step, ThreadedHal.enter, hclose]
  refine ⟨_, _, (Machine.Run.start.next htest).next henter, ?_⟩
  simp [threadedEffects]

/-- A step of the service is a run here, with the same effects. -/
theorem run_halStep {t : HalTransition} (h : halMachine.Takes t) (threads : List OutsideThread) :
    ∃ ts threads', threadedMachine.Run ⟨t.pre, threads⟩ ts ⟨t.post, threads'⟩ ∧
      threadedEffects ts = t.out := by
  have hplain : t.label.tests = false → ThreadedHal.test ⟨t.pre, threads⟩ t.label =
      (t.pre.step t.label).map (fun r => (⟨r.1, threads⟩, r.2)) →
      ∃ ts threads', threadedMachine.Run ⟨t.pre, threads⟩ ts ⟨t.post, threads'⟩ ∧
        threadedEffects ts = t.out := by
    intro _ htest
    have hstep : t.pre.step t.label = some (t.post, t.out) := h
    rw [hstep, Option.map_some] at htest
    obtain ⟨ts, hrun⟩ := run_of_step (l := .hal t.label) htest
    exact ⟨ts, threads, hrun⟩
  cases halStep_of_takes h with
  | dropped hal msg hopen =>
      have htest : ThreadedHal.test ⟨hal, threads⟩ (.message msg) = some (⟨hal, threads⟩, []) := by
        simp only [ThreadedHal.test, hopen]
      obtain ⟨ts, hrun⟩ := run_of_step (l := .hal (.message msg)) htest
      exact ⟨ts, threads, hrun⟩
  | message hal msg i st hopen =>
      obtain ⟨hi, hlast, -⟩ := Hal.openSession_eq_some hopen
      have htest : ThreadedHal.test ⟨hal, threads⟩ (.message msg) =
          some (⟨hal, threads ++ [.notifying msg]⟩, []) := by
        simp only [ThreadedHal.test, hopen]
      have hget : hal.sessions.getLast? = some st := by
        rw [List.getLast?_eq_getElem?, ← hlast, Nat.add_sub_cancel, hi]
      obtain ⟨ts, hrun⟩ := run_of_test (s := ⟨hal, threads⟩) htest
        (by simp [ThreadedHal.enter, hget, ← hlast]; exact ⟨rfl, rfl⟩)
      exact ⟨ts, _, hrun⟩
  | expire hal i k st wake hi hk hwake =>
      cases haborted : st.session.mIsLockoutTimerAborted with
      | true =>
          have htest : ThreadedHal.test ⟨hal, threads⟩ (.expire i k) =
              some (ThreadedHal.setSession ⟨hal, threads⟩ i (st.expire k), []) := by
            simp only [ThreadedHal.test, hi, hk, if_pos hwake, haborted, if_true]
          obtain ⟨ts, hrun, hout⟩ := run_of_step (l := .hal (.expire i k)) htest
          refine ⟨ts, threads, hrun, ?_⟩
          rw [hout]
          simp [Session.lockoutTimerExpired, haborted]
      | false =>
          have htest : ThreadedHal.test ⟨hal, threads⟩ (.expire i k) =
              some (⟨{ hal with
                  sessions := hal.sessions.set i { st with timers := st.timers.eraseIdx k } },
                threads ++ [.clearing i]⟩, []) := by
            simp only [ThreadedHal.test, hi, hk, if_pos hwake, haborted, Bool.false_eq_true,
              if_false]
            rfl
          have hlt := (List.getElem?_eq_some_iff.1 hi).1
          have henter : ThreadedHal.enter ⟨{ hal with
                sessions := hal.sessions.set i { st with timers := st.timers.eraseIdx k } },
              threads ++ [.clearing i]⟩ threads.length =
                some (⟨{ hal with sessions := hal.sessions.set i (st.expire k) },
                  threads ++ [.performing
                    (st.session.lockoutTimerExpired.2.map fun e => (i, e))]⟩, []) := by
            simp [ThreadedHal.enter, ThreadedHal.setSession, hlt,
              st.session.expireUnaborted_eq haborted, SessionState.expire]
          obtain ⟨ts, hrun⟩ := run_of_test (s := ⟨hal, threads⟩) htest henter
          exact ⟨ts, _, hrun⟩
  | call hal i c st hi =>
      cases c with
      | clientDeath =>
          cases hclosed : st.session.mClosed with
          | true =>
              have htest : ThreadedHal.test ⟨hal, threads⟩ (.call i .clientDeath) =
                  some (⟨hal, threads⟩, []) := by
                simp only [ThreadedHal.test, hi, hclosed, if_true]
              obtain ⟨ts, hrun, hout⟩ := run_of_step (l := .hal (.call i .clientDeath)) htest
              have hcall : st.session.call .clientDeath = (st.session, [], none) := by
                simp [Session.call, hclosed]
              have hsame : st.absorb hal.now st.session [] = st := by
                simp [SessionState.absorb, startedTimers]
              obtain ⟨hlt, rfl⟩ := List.getElem?_eq_some_iff.1 hi
              refine ⟨ts, threads, ?_, ?_⟩
              · rw [hcall, hsame, List.set_getElem_self]
                exact hrun
              · rw [hout, hcall]
                rfl
          | false => exact run_of_death hi hclosed h
      | _ => exact hplain rfl rfl
  | _ => exact hplain rfl rfl

/-- **The service of `halMachine` is one of these.**  What it does in a run it can do here,
with the same effects in the same order. -/
theorem threaded_run_of_halRun {boot : ℕ} {ts : List HalTransition} {hal : Hal}
    (hrun : halMachine.Run (.init boot) ts hal) :
    ∃ ts' threads, threadedMachine.Run (.init boot) ts' ⟨hal, threads⟩ ∧
      threadedEffects ts' = effects ts := by
  have hall : ∃ ts' s', threadedMachine.Run (.init boot) ts' s' ∧
      s'.hal = hal ∧ threadedEffects ts' = effects ts := by
    refine hrun.simulate_of_relation (G := fun _ => True)
      (R := fun ts hal ts' s' => s'.hal = hal ∧ threadedEffects ts' = effects ts)
      ?_ ?_ (fun _ _ => trivial)
    · exact ⟨rfl, rfl⟩
    · rintro ts t ts₁ s₁ hstep - ⟨hhal, hout⟩
      obtain ⟨ts₂, threads, hrun₂, hout₂⟩ := run_halStep hstep s₁.threads
      rw [← hhal] at hrun₂
      refine ⟨ts₂, _, hrun₂, rfl, ?_⟩
      rw [threadedEffects, List.flatMap_append, ← threadedEffects, ← threadedEffects, hout, hout₂,
        effects_append_singleton]
  obtain ⟨ts', ⟨hal', threads⟩, hrun', rfl, hout⟩ := hall
  exact ⟨ts', threads, hrun', hout⟩

end

end Fingerprint
