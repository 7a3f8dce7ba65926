/-
# How the client hears of the end of an operation

An `enroll` or `authenticate` that the device has accepted ends with a terminal
callback: `onError`, `onAuthenticationSucceeded`, or `onEnrollmentProgress` with
nothing remaining.  The device's terminal messages become one each, if a session is
open.  When the device accepts a `cancel` the session sends `onError(CANCELED)` of its
own, whether an operation is running or not; and the device, as `fingerprint.h` says,
answers an accepted `cancel` with `FINGERPRINT_ERROR_CANCELED` for the running
operation, and `notify` makes an `onError(CANCELED)` of that too.

`ledger` keeps the account of a run.  Every terminal callback is put down to the
operation that the device had started last when the message came, or the cancel was
accepted, that it tells of, whichever session makes it; only the `onError` by which a job
tells that the device has refused to start an operation is about none that was started.
`Ledger.Sound` is what holds of the account in every run: as many terminal callbacks, made
or still to be made, as terminal messages that found a session open and accepted cancels.
`ends_once_iff` reads off when every operation ends once.
-/
import PongHal.Illumination
import PongHal.ThreadedHal

namespace Fingerprint

/-! ## Terminal callbacks -/

/-- The callback tells the client that its operation is over. -/
def Callback.isTerminal : Callback → Bool
  | .onError _ _ | .onAuthenticationSucceeded _ _ => true
  | .onEnrollmentProgress _ remaining => decide (remaining = 0)
  | _ => false

/-- The terminal callback an effect makes. -/
def Effect.terminal : Effect → Option Callback
  | .callback c => if c.isTerminal then some c else none
  | .device _ | .setFodHbm _ | .startTimer _ => none

/-- `onError(CANCELED)`, as the session's own cancel job and the message
`FINGERPRINT_ERROR_CANCELED` both send it. -/
def Callback.canceled : Callback := .onError .canceled 0

/-- `FINGERPRINT_ERROR` with `FINGERPRINT_ERROR_CANCELED`. -/
def FingerprintMsg.canceled : FingerprintMsg := .error 5

/-- The device call starts an operation, if the device accepts it. -/
def DeviceCall.starts : DeviceCall → Bool
  | .enroll _ _ _ | .authenticate _ _ => true
  | _ => false

/-! ## The ledger -/

/-- The account of a run: what the device answers in the worker's present job, how many
operations it has started, whether the worker's present job has yet to report an accepted
cancel, for each thread the operation whose end it has yet to tell, if any, and, each with
its operation, the accepted cancels, the ends (accepted cancels and terminal messages that
found a session open), and the terminal callbacks made. -/
structure Ledger where
  code : Int32
  started : ℕ
  reporting : Bool
  messages : List (Option ℕ)
  cancelled : List ℕ
  ends : List ℕ
  terminals : List (ℕ × Callback)
  deriving DecidableEq, Repr

namespace Ledger

/-- The account before the first step. -/
def init : Ledger where
  code := 0
  started := 0
  reporting := false
  messages := []
  cancelled := []
  ends := []
  terminals := []

/-- The operation that the device has started last. -/
def last (L : Ledger) : Option ℕ :=
  match L.started with
  | 0 => none
  | n + 1 => some n

/-- The device accepts a cancel in this step. -/
def accepts (L : Ledger) (t : ThreadedTransition) : Bool :=
  match t.label, t.pre.hal.running with
  | .hal .perform, p :: _ => decide (p.2 = .device .cancel ∧ L.code = 0)
  | _, _ => false

/-- A terminal message finds a session open. -/
def isTold (t : ThreadedTransition) : Bool :=
  match t.label with
  | .hal (.message msg) => msg.endsOperation && t.pre.hal.openSession.isSome
  | _ => false

/-- The operation whose end the step brings about: the device accepts a cancel, or a
terminal message finds a session open. -/
def ended (L : Ledger) (t : ThreadedTransition) : Option ℕ :=
  if L.accepts t || isTold t then L.last else none

/-- The end of an operation is brought about once more. -/
def Repeats (L : Ledger) (t : ThreadedTransition) : Prop := ∃ n ∈ L.ended t, n ∈ L.ends

instance (L : Ledger) (t : ThreadedTransition) : Decidable (L.Repeats t) :=
  inferInstanceAs (Decidable (∃ n ∈ L.ended t, _))

/-- An effect of the worker's job: it may start an operation or report a cancel. -/
def performed (L : Ledger) : Effect → Ledger
  | .device c => if L.code = 0 ∧ c.starts = true then { L with started := L.started + 1 } else L
  | .callback _ => { L with reporting := false }
  | .setFodHbm _ | .startTimer _ => L

/-- The account after a step, without its callbacks and ends. -/
def moved (L : Ledger) (t : ThreadedTransition) : Ledger :=
  match t.label, t.pre.hal.running with
  | .hal (.take r), _ => { L with code := r.code, reporting := false }
  | .hal .perform, p :: _ => L.performed p.2
  | _, _ => L

/-- The operation that a terminal callback of a step is put down to, if it reports a cancel
or comes from a message. -/
def about (L : Ledger) (t : ThreadedTransition) : Option ℕ :=
  match t.label with
  | .hal .perform => if L.reporting then L.last else none
  | .perform n => L.messages[n]?.join
  | .hal _ | .enter _ => none

/-- The terminal callbacks of a step. -/
def terminalOut (t : ThreadedTransition) : List Callback := t.out.filterMap fun p => p.2.terminal

/-- What the threads have yet to tell after a step: a new thread tells the end its message
brings about, and a thread that has made a terminal callback tells no other. -/
def messagesAfter (L : Ledger) (t : ThreadedTransition) : List (Option ℕ) :=
  match t.label with
  | .hal _ =>
      if t.pre.threads.length < t.post.threads.length then
        L.messages ++ [if isTold t then L.last else none]
      else L.messages
  | .perform n => if (terminalOut t).isEmpty then L.messages else L.messages.set n none
  | .enter _ => L.messages

/-- Callbacks put down to an operation, if there is one. -/
def putDown (n : Option ℕ) (cs : List Callback) : List (ℕ × Callback) :=
  n.toList.flatMap fun n => cs.map fun c => (n, c)

/-- The account after a step. -/
def after (L : Ledger) (t : ThreadedTransition) : Ledger :=
  { L.moved t with
    reporting := (L.moved t).reporting || L.accepts t
    messages := L.messagesAfter t
    cancelled := L.cancelled ++ if L.accepts t then L.last.toList else []
    ends := L.ends ++ (L.ended t).toList
    terminals := L.terminals ++ putDown (L.about t) (terminalOut t) }

/-- The terminal callbacks about operation `n`. -/
def terminalsOf (L : Ledger) (n : ℕ) : List Callback :=
  (L.terminals.filter fun p => p.1 = n).map Prod.snd

end Ledger

/-- The account of a run. -/
def ledger (ts : List ThreadedTransition) : Ledger := ts.foldl Ledger.after .init

variable {boot : ℕ} {ts : List ThreadedTransition} {s : ThreadedHal} {hal : Hal} {L : Ledger}

theorem ledger_append_singleton (t : ThreadedTransition) :
    ledger (ts ++ [t]) = (ledger ts).after t := by
  simp [ledger, List.foldl_append]

/-! ## What holds of every account -/

namespace Ledger

theorem lt_started_of_last {n : ℕ} (h : L.last = some n) : n < L.started := by
  unfold last at h
  split at h
  · cases h
  · rename_i m hm
    cases h
    omega

/-- The report of a cancel that is about to be made. -/
def pending (L : Ledger) (n : ℕ) : List Callback :=
  if L.reporting = true ∧ L.last = some n then [.canceled] else []

/-- An account that is right: a terminal callback for each end of an operation, the report
of a cancel and the ends that threads have yet to tell counted in, and an
`onError(CANCELED)` for each cancel. -/
structure Sound (L : Ledger) : Prop where
  fresh : ∀ n ∈ L.ends, n < L.started
  counted : ∀ n, (L.terminalsOf n ++ L.pending n).length + L.messages.count (some n) =
    L.ends.count n
  told : ∀ n ∈ L.cancelled, .canceled ∈ L.terminalsOf n ++ L.pending n

theorem Sound.init : Sound .init where
  fresh _ h := by cases h
  counted _ := rfl
  told _ h := by cases h

/-- What is put down to an operation is added to its callbacks. -/
theorem terminalsOf_putDown {L' : Ledger} {o : Option ℕ} {cs : List Callback}
    (h : L'.terminals = L.terminals ++ putDown o cs) (n : ℕ) :
    L'.terminalsOf n = L.terminalsOf n ++ if o = some n then cs else [] := by
  rw [terminalsOf, terminalsOf, h, List.filter_append, List.map_append]
  congr 1
  cases o with
  | none => rfl
  | some m =>
      rw [putDown, Option.toList_some, List.flatMap_singleton, List.filter_map]
      by_cases hmn : m = n
      · simp [hmn]
      · simp [hmn]

theorem putDown_nil (o : Option ℕ) : putDown o [] = [] := by
  cases o <;> rfl

theorem pending_of_not_reporting (h : L.reporting = false) (n : ℕ) : L.pending n = [] :=
  if_neg (by simp [h])

theorem count_toList (o : Option ℕ) (n : ℕ) : o.toList.count n = if o = some n then 1 else 0 := by
  cases o with
  | none => rfl
  | some m => by_cases hmn : m = n <;> simp [hmn]

/-- A step that brings about no end and makes no terminal callback. -/
theorem Sound.quiet {L' : Ledger} (h : L.Sound) (hstarted : L'.started = L.started)
    (hreporting : L'.reporting = L.reporting) (hcancelled : L'.cancelled = L.cancelled)
    (hends : L'.ends = L.ends) (hterminals : L'.terminals = L.terminals)
    (hmessages : ∀ n, L'.messages.count (some n) = L.messages.count (some n)) : L'.Sound := by
  obtain ⟨code, started, reporting, messages, cancelled, ends, terminals⟩ := L'
  subst hstarted hreporting hcancelled hends hterminals
  refine ⟨h.fresh, fun n => ?_, h.told⟩
  exact (congrArg (_ + ·) (hmessages n)).trans (h.counted n)

/-- The device starts an operation. -/
theorem Sound.start (h : L.Sound) (hidle : L.reporting = false) :
    Sound { L with started := L.started + 1 } where
  fresh n hn := Nat.lt_succ_of_lt (h.fresh n hn)
  counted n := by
    have hnone : pending { L with started := L.started + 1 } n = L.pending n := by
      simp [pending, hidle]
    rw [hnone]
    exact h.counted n
  told n hn := by
    have hnone : pending { L with started := L.started + 1 } n = L.pending n := by
      simp [pending, hidle]
    rw [hnone]
    exact h.told n hn

/-- The device accepts a cancel. -/
theorem Sound.cancel (h : L.Sound) (hidle : L.reporting = false) :
    Sound { L with
      reporting := true
      cancelled := L.cancelled ++ L.last.toList
      ends := L.ends ++ L.last.toList } where
  fresh n hn := by
    rcases List.mem_append.1 hn with hold | hnew
    · exact h.fresh n hold
    · exact lt_started_of_last (Option.mem_toList.1 hnew)
  counted n := by
    have hold := h.counted n
    rw [pending_of_not_reporting hidle, List.append_nil] at hold
    show (L.terminalsOf n ++ if true = true ∧ L.last = some n then [Callback.canceled] else
      []).length + L.messages.count (some n) = (L.ends ++ L.last.toList).count n
    rw [List.count_append, ← hold, count_toList, List.length_append]
    by_cases hlast : L.last = some n
    · simp [hlast]
      omega
    · simp [hlast]
  told n hn := by
    rcases List.mem_append.1 hn with hold | hnew
    · have htold := h.told n hold
      rw [pending_of_not_reporting hidle, List.append_nil] at htold
      exact List.mem_append_left _ htold
    · refine List.mem_append_right _ ?_
      show _ ∈ if true = true ∧ L.last = some n then [Callback.canceled] else []
      rw [if_pos ⟨rfl, Option.mem_toList.1 hnew⟩]
      exact List.mem_singleton_self _

/-- The cancel job reports. -/
theorem Sound.report (h : L.Sound) (hreporting : L.reporting = true) :
    Sound { L with
      reporting := false, terminals := L.terminals ++ putDown L.last [.canceled] } := by
  have hmoved : ∀ n, L.terminalsOf n ++ L.pending n =
      terminalsOf { L with
        reporting := false, terminals := L.terminals ++ putDown L.last [.canceled] } n := by
    intro n
    refine Eq.trans ?_ (terminalsOf_putDown (by rfl) n).symm
    rw [pending]
    by_cases hlast : L.last = some n <;> simp [hlast, hreporting]
  refine ⟨h.fresh, fun n => ?_, fun n hn => ?_⟩
  · rw [pending_of_not_reporting rfl, List.append_nil, ← hmoved]
    exact h.counted n
  · rw [pending_of_not_reporting rfl, List.append_nil, ← hmoved]
    exact h.told n hn

/-- A terminal message finds a session open. -/
theorem Sound.receive (h : L.Sound) :
    Sound { L with
      messages := L.messages ++ [L.last]
      ends := L.ends ++ L.last.toList } := by
  refine ⟨fun n hn => ?_, fun n => ?_, h.told⟩
  · rcases List.mem_append.1 hn with hold | hnew
    · exact h.fresh n hold
    · exact lt_started_of_last (Option.mem_toList.1 hnew)
  · have hold := h.counted n
    show (L.terminalsOf n ++ L.pending n).length + (L.messages ++ [L.last]).count (some n) =
      (L.ends ++ L.last.toList).count n
    rw [List.count_append, List.count_append, ← hold, count_toList, List.count_singleton]
    by_cases hlast : L.last = some n
    · simp [hlast]
      omega
    · simp [hlast]

/-- A thread tells the end of its message. -/
theorem Sound.tell (h : L.Sound) {k m : ℕ} (hk : L.messages[k]? = some (some m)) (c : Callback) :
    Sound { L with
      messages := L.messages.set k none
      terminals := L.terminals ++ putDown (some m) [c] } := by
  have hmore : ∀ n, terminalsOf { L with
        messages := L.messages.set k none
        terminals := L.terminals ++ putDown (some m) [c] } n =
      L.terminalsOf n ++ if some m = some n then [c] else [] := by
    intro n
    exact terminalsOf_putDown (by rfl) n
  obtain ⟨hlt, hkm⟩ := List.getElem?_eq_some_iff.1 hk
  refine ⟨h.fresh, fun n => ?_, fun n hn => ?_⟩
  · show (_ ++ L.pending n).length + (L.messages.set k none).count (some n) = L.ends.count n
    have hcounted := h.counted n
    rw [List.length_append] at hcounted
    rw [hmore, List.count_set hlt, hkm, List.length_append, List.length_append, ← hcounted]
    by_cases hmn : m = n
    · -- the end was still to be told
      have hpos : 0 < L.messages.count (some n) :=
        List.count_pos_iff.2 (List.mem_of_getElem? (hmn ▸ hk))
      simp [hmn]
      omega
    · simp [hmn]
  · show _ ∈ _ ++ L.pending n
    rw [hmore, List.append_assoc, List.mem_append, List.mem_append]
    rcases List.mem_append.1 (h.told n hn) with hold | hpending
    · exact .inl hold
    · exact .inr (.inr hpending)

end Ledger

/-! ## The account and the worker's job -/

section

variable [Util]

omit [Util] in
/-- A lockout ends no operation. -/
theorem terminal_of_ofLockoutCheck {e : Effect} (he : e.ofLockoutCheck = true) :
    e.terminal = none := by
  cases e with
  | callback c =>
      cases c with
      | onLockoutPermanent => rfl
      | onLockoutTimed durationLeft => rfl
      | _ => exact Bool.noConfusion he
  | _ => rfl

/-- What a message makes of its terminal callbacks: one if it ends an operation. -/
theorem terminal_notify (s : Session) (enrollments : List Int32) (msg : FingerprintMsg)
    (now : ℕ) :
    (msg.endsOperation = false →
      (s.notify enrollments msg now).2.2.filterMap Effect.terminal = []) ∧
    (msg.endsOperation = true →
      ∃ c, (s.notify enrollments msg now).2.2.filterMap Effect.terminal = [c]) := by
  cases msg with
  | authenticated finger hat =>
      by_cases hfid : finger.fid = 0
      · refine ⟨fun _ => ?_, fun hends => ?_⟩
        · simp only [Session.notify, hfid, ne_eq, not_true_eq_false, if_false,
            List.filterMap_eq_nil_iff]
          intro e he
          rcases List.mem_cons.1 he with rfl | he
          · rfl
          · exact terminal_of_ofLockoutCheck (ofLockoutCheck_checkSensorLockout _ now e he)
        · simp [FingerprintMsg.endsOperation, hfid] at hends
      · refine ⟨fun hends => ?_, fun _ => ?_⟩
        · simp [FingerprintMsg.endsOperation, hfid] at hends
        · simp [Session.notify, hfid, Effect.terminal, Callback.isTerminal]
  | templateEnrolling finger remaining =>
      have hremaining : remaining.toInt32 = 0 ↔ remaining = 0 := by
        refine ⟨fun hzero => ?_, fun hzero => by rw [hzero]; rfl⟩
        rw [← remaining.toUInt32_toInt32, hzero]
        rfl
      refine ⟨fun hends => ?_, fun hends => ?_⟩ <;>
        simp_all [FingerprintMsg.endsOperation, Session.notify, Effect.terminal,
          Callback.isTerminal]
  | error error =>
      refine ⟨fun hends => by simp [FingerprintMsg.endsOperation] at hends, fun _ => ?_⟩
      simp [Session.notify, Effect.terminal, Callback.isTerminal]
  | acquired info =>
      refine ⟨fun _ => ?_, fun hends => by simp [FingerprintMsg.endsOperation] at hends⟩
      simp only [Session.notify]
      split <;> simp [Effect.terminal, Callback.isTerminal]
  | templateEnumerating finger remaining =>
      refine ⟨fun _ => ?_, fun hends => by simp [FingerprintMsg.endsOperation] at hends⟩
      simp only [Session.notify]
      split <;> simp [Effect.terminal, Callback.isTerminal]
  | _ =>
      refine ⟨fun _ => ?_, fun hends => by simp [FingerprintMsg.endsOperation] at hends⟩
      simp [Session.notify, Effect.terminal, Callback.isTerminal]

/-- Only a cancel job calls the device's `cancel`, and it reports the cancellation, if the
device accepts it, right after. -/
theorem cancel_last_runJob (s : Session) (j : Session.Job) (r : DeviceReplies) (now : ℕ)
    {rest : List Effect} (h : .device .cancel :: rest <:+ (s.runJob j r now).2) :
    rest = if r.code = 0 then [.callback .canceled] else [] := by
  have hmem : .device .cancel ∈ (s.runJob j r now).2 := h.subset List.mem_cons_self
  cases j with
  | cancel =>
      by_cases hcode : r.code = 0
      · simpa [Session.runJob, hcode, List.suffix_cons_iff, Callback.canceled] using h
      · simpa [Session.runJob, hcode, List.suffix_cons_iff] using h
  | onPointerDown =>
      rcases List.mem_cons.1 hmem with heq | hmem
      · simp at heq
      · exact Bool.noConfusion (ofLockoutCheck_checkSensorLockout s now _ hmem)
  | enroll hat => by_cases hcode : r.code = 0 <;> simp [Session.runJob, hcode] at hmem
  | authenticate operationId =>
      by_cases hcode : r.code = 0 <;> simp [Session.runJob, hcode] at hmem
  | _ => simp [Session.runJob, Session.clearLockout] at hmem


/-- The account and the effects the worker has still to perform: the report of a
cancellation is the last of its job, and while it is outstanding it is all that is
left. -/
structure Ledger.Follows (L : Ledger) (hal : Hal) : Prop where
  cancelLast : ∀ i rest, (i, .device .cancel) :: rest <:+ hal.running →
    rest = if L.code = 0 then [(i, .callback .canceled)] else []
  reportLast : L.reporting = true → ∃ i, hal.running = [(i, .callback .canceled)]

omit [Util] in
theorem Ledger.Follows.not_reporting (h : L.Follows hal)
    (hnot : ∀ i, hal.running ≠ [(i, .callback .canceled)]) : L.reporting = false := by
  rw [Bool.eq_false_iff]
  intro hreporting
  obtain ⟨i, hi⟩ := h.reportLast hreporting
  exact hnot i hi

omit [Util] in
/-- A step that does not concern the worker. -/
theorem Ledger.Follows.quiet {L' : Ledger} {hal' : Hal} (h : L.Follows hal)
    (hcode : L'.code = L.code) (hreporting : L'.reporting = L.reporting)
    (hrunning : hal'.running = hal.running) : L'.Follows hal' := by
  refine ⟨?_, ?_⟩
  · rw [hcode, hrunning]
    exact h.cancelLast
  · rw [hreporting, hrunning]
    exact h.reportLast

omit [Util] in
/-- The account after the worker has performed an effect. -/
theorem Ledger.after_perform {p : ℕ × Effect} {rest : List (ℕ × Effect)} {hal' : Hal}
    (hperform : s.hal.running = p :: rest) :
    L.after ⟨s, .hal .perform, [p], { s with hal := hal' }⟩ =
      { L.performed p.2 with
        reporting := (L.performed p.2).reporting || decide (p.2 = .device .cancel ∧ L.code = 0)
        messages := L.messages
        cancelled := L.cancelled ++
          if p.2 = .device .cancel ∧ L.code = 0 then L.last.toList else []
        ends := L.ends ++ if p.2 = .device .cancel ∧ L.code = 0 then L.last.toList else []
        terminals := L.terminals ++
          putDown (if L.reporting then L.last else none) p.2.terminal.toList } := by
  have hout : terminalOut ⟨s, .hal .perform, [p], { s with hal := hal' }⟩ =
      p.2.terminal.toList := by
    cases hterminal : p.2.terminal <;> simp [terminalOut, hterminal]
  by_cases hcancel : p.2 = .device .cancel ∧ L.code = 0 <;>
    simp [after, moved, accepts, ended, isTold, about, messagesAfter, hperform, hout, hcancel]

omit [Util] in
/-- What an effect of the worker does to the account. -/
theorem Ledger.after_perform_cases {p : ℕ × Effect} {rest : List (ℕ × Effect)} {hal' : Hal}
    (hperform : s.hal.running = p :: rest) (hfollows : L.Follows s.hal) :
    (p.2 = .device .cancel ∧ L.code = 0 ∧ L.reporting = false ∧
      L.after ⟨s, .hal .perform, [p], { s with hal := hal' }⟩ = { L with
        reporting := true
        cancelled := L.cancelled ++ L.last.toList
        ends := L.ends ++ L.last.toList }) ∨
    (L.reporting = true ∧ rest = [] ∧
      L.after ⟨s, .hal .perform, [p], { s with hal := hal' }⟩ = { L with
        reporting := false, terminals := L.terminals ++ putDown L.last [.canceled] }) ∨
    (L.reporting = false ∧
      L.after ⟨s, .hal .perform, [p], { s with hal := hal' }⟩ =
        { L with started := L.started + 1 }) ∨
    (L.reporting = false ∧ L.after ⟨s, .hal .perform, [p], { s with hal := hal' }⟩ = L) := by
  rw [after_perform hperform]
  obtain ⟨i, e⟩ := p
  cases hreporting : L.reporting with
  | true =>
      obtain ⟨k, hlast⟩ := hfollows.reportLast hreporting
      obtain ⟨⟨rfl, rfl⟩, rfl⟩ : (i = k ∧ e = .callback .canceled) ∧ rest = [] := by
        simpa using hperform.symm.trans hlast
      exact .inr (.inl ⟨rfl, rfl, by simp [performed, Effect.terminal, Callback.canceled,
        Callback.isTerminal]⟩)
  | false =>
      by_cases hcancel : e = .device .cancel ∧ L.code = 0
      · obtain ⟨rfl, hcode⟩ := hcancel
        exact .inl ⟨rfl, hcode, rfl, by simp [performed, hcode, DeviceCall.starts, putDown]⟩
      · -- neither a cancel nor a report
        refine .inr (.inr ?_)
        simp only [if_neg hcancel, decide_eq_false hcancel, Bool.or_false, List.append_nil,
          Bool.false_eq_true, if_false, putDown, Option.toList_none, List.flatMap_nil]
        obtain ⟨code, started, reporting, messages, cancelled, ends, terminals⟩ := L
        cases hreporting
        cases e with
        | device c =>
            by_cases hstarts : code = 0 ∧ c.starts = true
            · exact .inl ⟨trivial, by simp only [performed, if_pos hstarts]⟩
            · exact .inr ⟨trivial, by simp only [performed, if_neg hstarts]⟩
        | _ => exact .inr ⟨trivial, rfl⟩

omit [Util] in
/-- A test does not concern the worker. -/
theorem Ledger.worker_of_tests (L : Ledger) {t : ThreadedTransition} {l : HalLabel}
    (ht : t.label = .hal l) (hl : l.tests = true) :
    L.moved t = L ∧ L.accepts t = false ∧ L.about t = none := by
  cases l with
  | perform | take r => cases hl
  | _ => exact ⟨by simp [moved, ht], by simp [accepts, ht], by simp [about, ht]⟩

theorem Ledger.Follows.step {t : ThreadedTransition} (h : threadedMachine.Takes t)
    (ih : L.Follows t.pre.hal) : (L.after t).Follows t.post.hal := by
  cases threadedStep_of_takes h with
  | plain s l out hal' hl hstep =>
      cases halStep_of_takes hstep with
      | take hal r i j rest st hrunning hqueue hi =>
          refine ⟨fun k es hes => ?_, fun hreporting => ?_⟩
          · obtain ⟨es', hes', heq⟩ := List.suffix_map_iff.1 hes
            cases es' with
            | nil => simp at heq
            | cons e es' =>
                simp only [List.map_cons, List.cons.injEq, Prod.mk.injEq] at heq
                obtain ⟨⟨rfl, rfl⟩, rfl⟩ := heq
                rw [cancel_last_runJob st.session j r s.hal.now hes']
                show _ = if r.code = 0 then _ else _
                split <;> rfl
          · simp [after, moved, accepts] at hreporting
      | perform hal p rest hperform =>
          have htail : ∀ i es, (i, .device .cancel) :: es <:+ rest →
              es = if L.code = 0 then [(i, .callback .canceled)] else [] := by
            intro i es hes
            refine ih.cancelLast i es ?_
            show _ <:+ s.hal.running
            rw [hperform]
            exact hes.trans (List.suffix_cons p rest)
          rcases after_perform_cases hperform ih with
            ⟨hcancel, hcode, -, hafter⟩ | ⟨-, rfl, hafter⟩ | ⟨hidle, hafter⟩ | ⟨hidle, hafter⟩
          · -- the device has just accepted a cancel, and its report is all that is left
            rw [hafter]
            refine ⟨htail, fun _ => ⟨p.1, ?_⟩⟩
            have hsuffix : (p.1, .device .cancel) :: rest <:+ s.hal.running := by
              rw [hperform, ← hcancel]
            have hlast := ih.cancelLast p.1 rest hsuffix
            rwa [if_pos hcode] at hlast
          · rw [hafter]
            exact ⟨htail, fun hreporting => Bool.noConfusion hreporting⟩
          · rw [hafter]
            exact ⟨htail, fun hreporting => absurd (hidle.symm.trans hreporting) (by simp)⟩
          · rw [hafter]
            exact ⟨htail, fun hreporting => absurd (hidle.symm.trans hreporting) (by simp)⟩
      | _ => exact ih.quiet rfl (by simp [after, moved, accepts]) rfl
  | closes s n k out hal' hn hstep =>
      cases halStep_of_takes hstep with
      | call hal k c st hk => exact ih.quiet rfl (by simp [after, moved, accepts]) rfl
  | ignored s l hl hnone =>
      obtain ⟨hmoved, haccepts, -⟩ := L.worker_of_tests (t := ⟨s, .hal l, [], s⟩) rfl hl
      exact ih.quiet (by rw [after, hmoved]) (by simp [after, hmoved, haccepts]) rfl
  | _ => exact ih.quiet rfl (by simp [after, moved, accepts]) rfl

/-! ## The account and the threads -/

/-- The thread has a terminal callback to make, one. -/
def OutsideThread.Tells : OutsideThread → Prop
  | .notifying msg => msg.endsOperation = true
  | .performing es => ∃ c, es.filterMap (fun p => p.2.terminal) = [c]
  | .clearing _ | .closing _ => False

/-- The threads of which the account says that they have an end to tell, do. -/
structure Tracks (messages : List (Option ℕ)) (threads : List OutsideThread) : Prop where
  length : messages.length = threads.length
  tells : ∀ k m : ℕ, messages[k]? = some (some m) → ∃ th, threads[k]? = some th ∧ th.Tells

omit [Util] in
/-- A thread begins. -/
theorem Tracks.append {messages : List (Option ℕ)} {threads : List OutsideThread}
    (h : Tracks messages threads) {o : Option ℕ} {th : OutsideThread}
    (hth : ∀ m, o = some m → th.Tells) : Tracks (messages ++ [o]) (threads ++ [th]) := by
  refine ⟨by simp [h.length], fun k m hk => ?_⟩
  rcases Nat.lt_or_ge k messages.length with hlt | hge
  · rw [List.getElem?_append_left hlt] at hk
    rw [List.getElem?_append_left (h.length ▸ hlt)]
    exact h.tells k m hk
  · rw [List.getElem?_append_right hge, List.getElem?_singleton] at hk
    split at hk
    · rename_i hzero
      rw [List.getElem?_append_right (h.length ▸ hge), ← h.length, hzero]
      exact ⟨th, rfl, hth m (Option.some.inj hk)⟩
    · cases hk

omit [Util] in
/-- A thread goes on, and has still to tell what it had. -/
theorem Tracks.set {messages : List (Option ℕ)} {threads : List OutsideThread}
    (h : Tracks messages threads) {n : ℕ} {th th' : OutsideThread} (hn : threads[n]? = some th)
    (hth : th.Tells → th'.Tells) : Tracks messages (threads.set n th') := by
  refine ⟨by simp [h.length], fun k m hk => ?_⟩
  obtain ⟨th₀, hth₀, htells⟩ := h.tells k m hk
  by_cases hkn : n = k
  · subst hkn
    obtain rfl : th = th₀ := Option.some.inj (hn.symm.trans hth₀)
    have hlt := (List.getElem?_eq_some_iff.1 hn).1
    exact ⟨th', by simp [hlt], hth htells⟩
  · exact ⟨th₀, by rwa [List.getElem?_set_ne hkn], htells⟩

omit [Util] in
/-- A thread tells its end, or has none to tell. -/
theorem Tracks.done {messages : List (Option ℕ)} {threads : List OutsideThread}
    (h : Tracks messages threads) (n : ℕ) (th : OutsideThread) :
    Tracks (messages.set n none) (threads.set n th) := by
  refine ⟨by simp [h.length], fun k m hk => ?_⟩
  have hkn : n ≠ k := by
    rintro rfl
    rw [List.getElem?_set_self'] at hk
    cases hmessage : messages[n]? <;> simp [hmessage] at hk
  rw [List.getElem?_set_ne hkn] at hk
  obtain ⟨th₀, hth₀, htells⟩ := h.tells k m hk
  exact ⟨th₀, by rwa [List.getElem?_set_ne hkn], htells⟩

omit [Util] in
theorem Ledger.messagesAfter_of_same {l : HalLabel} {out : List (ℕ × Effect)} {s' : ThreadedHal}
    (hsame : s'.threads = s.threads) : L.messagesAfter ⟨s, .hal l, out, s'⟩ = L.messages :=
  if_neg (by simp [hsame])

omit [Util] in
theorem Ledger.messagesAfter_of_new {l : HalLabel} {out : List (ℕ × Effect)} {s' : ThreadedHal}
    {th : OutsideThread} (hnew : s'.threads = s.threads ++ [th]) :
    L.messagesAfter ⟨s, .hal l, out, s'⟩ =
      L.messages ++ [if isTold ⟨s, .hal l, out, s'⟩ then L.last else none] :=
  if_pos (by simp [hnew])

omit [Util] in
theorem terminalOut_performs {n : ℕ} {e : ℕ × Effect} {s' : ThreadedHal} :
    Ledger.terminalOut ⟨s, .perform n, [e], s'⟩ = e.2.terminal.toList := by
  cases hterminal : e.2.terminal <;> simp [Ledger.terminalOut, hterminal]

theorem Tracks.step {t : ThreadedTransition} (h : threadedMachine.Takes t)
    (ih : Tracks L.messages t.pre.threads) : Tracks (L.after t).messages t.post.threads := by
  show Tracks (L.messagesAfter t) _
  cases threadedStep_of_takes h with
  | plain | ignored | aborted =>
      rw [Ledger.messagesAfter_of_same (by rfl)]
      exact ih
  | received s msg i st hopen =>
      rw [Ledger.messagesAfter_of_new (by rfl)]
      refine ih.append fun m hm => ?_
      by_contra hends
      have hnone : msg.endsOperation = false := Bool.eq_false_iff.2 hends
      simp [Ledger.isTold, hnone] at hm
  | woken | died =>
      rw [Ledger.messagesAfter_of_new (by rfl)]
      exact ih.append fun m hm => by cases hm
  | notifies s n msg i st hn hlast hi =>
      refine ih.set hn fun hends => ?_
      obtain ⟨c, hc⟩ := (terminal_notify st.session s.hal.enrollments msg s.hal.now).2 hends
      refine ⟨c, ?_⟩
      rw [List.filterMap_map, ← hc]
      rfl
  | clears s n i st hn hi => exact ih.set hn fun hends => hends.elim
  | closes s n i out hal' hn hstep => exact ih.set hn fun hends => hends.elim
  | performs s n e rest hn =>
      rw [Ledger.messagesAfter, terminalOut_performs]
      cases hterminal : e.2.terminal with
      | none =>
          refine ih.set hn fun ⟨c, hc⟩ => ⟨c, ?_⟩
          simpa [hterminal] using hc
      | some c => exact ih.done n _

/-! ## Every account is right -/

omit [Util] in
/-- A step of the service that begins no thread and, the worker's apart, tells nothing. -/
theorem Ledger.Sound.idle {t : ThreadedTransition} (h : L.Sound) (hmoved : L.moved t = L)
    (haccepts : L.accepts t = false) (htold : isTold t = false) (habout : L.about t = none)
    (hmessages : ∀ n, (L.messagesAfter t).count (some n) = L.messages.count (some n)) :
    (L.after t).Sound := by
  refine h.quiet ?_ ?_ ?_ ?_ ?_ hmessages <;>
    simp [after, hmoved, haccepts, ended, htold, habout, putDown]

omit [Util] in
/-- A message that finds a session open. -/
theorem Ledger.Sound.message {msg : FingerprintMsg} {p : ℕ × SessionState} (h : L.Sound)
    (hopen : s.hal.openSession = some p) :
    (L.after ⟨s, .hal (.message msg), [],
      { s with threads := s.threads ++ [.notifying msg] }⟩).Sound := by
  cases hends : msg.endsOperation with
  | false =>
      refine h.idle rfl rfl (by simp [isTold, hends]) rfl fun n => ?_
      rw [messagesAfter_of_new (by rfl), List.count_append]
      simp [isTold, hends]
  | true =>
      have hafter : L.after ⟨s, .hal (.message msg), [],
          { s with threads := s.threads ++ [.notifying msg] }⟩ =
            { L with messages := L.messages ++ [L.last], ends := L.ends ++ L.last.toList } := by
        simp [after, moved, accepts, ended, isTold, about, messagesAfter, hends, hopen, putDown]
      rw [hafter]
      exact h.receive

omit [Util] in
/-- A thread performs an effect: it tells the end it has to tell, or nothing that is put
down to an operation. -/
theorem Ledger.Sound.performs {n : ℕ} {e : ℕ × Effect} {rest : List (ℕ × Effect)}
    (h : L.Sound) (htracks : Tracks L.messages s.threads)
    (hn : s.threads[n]? = some (.performing (e :: rest))) :
    (L.after ⟨s, .perform n, [e],
      { s with threads := s.threads.set n (.performing rest) }⟩).Sound := by
  have hlt : n < L.messages.length := htracks.length ▸ (List.getElem?_eq_some_iff.1 hn).1
  have hmessage : L.messages[n]? = some L.messages[n] := List.getElem?_eq_getElem hlt
  cases hterminal : e.2.terminal with
  | none =>
      have hafter : L.after ⟨s, .perform n, [e],
          { s with threads := s.threads.set n (.performing rest) }⟩ = L := by
        simp [after, moved, accepts, ended, isTold, messagesAfter, terminalOut, hterminal,
          putDown_nil]
      rwa [hafter]
  | some c =>
      have hafter : L.after ⟨s, .perform n, [e],
          { s with threads := s.threads.set n (.performing rest) }⟩ =
            { L with
              messages := L.messages.set n none
              terminals := L.terminals ++ putDown L.messages[n] [c] } := by
        simp [after, moved, accepts, ended, isTold, about, messagesAfter, terminalOut, hterminal,
          hmessage]
      rw [hafter]
      cases hm : L.messages[n] with
      | some m => exact h.tell (hmessage.trans (congrArg some hm)) c
      | none =>
          refine h.quiet rfl rfl rfl rfl (List.append_nil _) fun k => ?_
          rw [List.count_set hlt, hm]
          simp

/-- A step keeps the account right. -/
theorem Ledger.Sound.step {t : ThreadedTransition} (h : threadedMachine.Takes t)
    (hsound : L.Sound) (hfollows : L.Follows t.pre.hal)
    (htracks : Tracks L.messages t.pre.threads) : (L.after t).Sound := by
  cases threadedStep_of_takes h with
  | plain s l out hal' hl hstep =>
      have hmessages : L.messagesAfter ⟨s, .hal l, out, { s with hal := hal' }⟩ = L.messages :=
        if_neg (lt_irrefl _)
      cases halStep_of_takes hstep with
      | take hal r i j rest st hrunning hqueue hi =>
          have hidle : L.reporting = false := hfollows.not_reporting fun k hlast => by
            simp [hrunning] at hlast
          refine hsound.quiet rfl ?_ ?_ ?_ ?_ fun n => congrArg _ hmessages <;>
            simp [after, moved, accepts, ended, isTold, about, putDown, hidle]
      | perform hal p rest hperform =>
          rcases after_perform_cases hperform hfollows with
            ⟨-, -, hidle, hafter⟩ | ⟨hreporting, -, hafter⟩ | ⟨hidle, hafter⟩ | ⟨-, hafter⟩
          · rw [hafter]
            exact hsound.cancel hidle
          · rw [hafter]
            exact hsound.report hreporting
          · rw [hafter]
            exact hsound.start hidle
          · rw [hafter]
            exact hsound
      | message | dropped | expire => cases hl
      | _ =>
          exact hsound.idle (by simp [moved]) (by simp [accepts]) rfl rfl fun n =>
            congrArg _ hmessages
  | ignored s l hl hnone =>
      obtain ⟨hmoved, haccepts, habout⟩ := L.worker_of_tests (t := ⟨s, .hal l, [], s⟩) rfl hl
      refine hsound.idle hmoved haccepts ?_ habout fun n => congrArg _ (messagesAfter_of_same rfl)
      cases l with
      | message msg => simp [isTold, hnone msg rfl]
      | _ => rfl
  | received s msg i st hopen => exact hsound.message hopen
  | aborted s i k st hi haborted =>
      exact hsound.idle rfl rfl rfl rfl fun n => congrArg _ (messagesAfter_of_same rfl)
  | woken | died =>
      refine hsound.idle rfl rfl rfl rfl fun n => ?_
      rw [messagesAfter_of_new (by rfl), List.count_append]
      simp [isTold]
  | notifies | clears | closes => exact hsound.idle rfl rfl rfl rfl fun n => rfl
  | performs s n e rest hn => exact hsound.performs htracks hn

/-- The account of every run is right. -/
theorem sound_of_run (hrun : threadedMachine.Run (.init boot) ts s) :
    (ledger ts).Sound ∧ (ledger ts).Follows s.hal ∧ Tracks (ledger ts).messages s.threads := by
  refine hrun.history (I := fun ts s => (ledger ts).Sound ∧ (ledger ts).Follows s.hal ∧
    Tracks (ledger ts).messages s.threads) ?_ ?_
  · refine ⟨.init, ⟨fun i rest hsuffix => ?_, fun hreporting => by cases hreporting⟩,
      ⟨rfl, fun k m hk => by cases hk⟩⟩
    simp [ThreadedHal.init, Hal.init] at hsuffix
  · rintro ts t hrun hstep ⟨hsound, hfollows, htracks⟩
    rw [ledger_append_singleton]
    exact ⟨hsound.step hstep hfollows htracks, hfollows.step hstep, htracks.step hstep⟩

omit [Util] in
/-- The steps of a run with one more step: those of the run, and this one. -/
theorem forall_step_append_singleton {p : List ThreadedTransition → ThreadedTransition → Prop}
    {t : ThreadedTransition} :
    (∀ ts₁ u ts₂, ts ++ [t] = ts₁ ++ u :: ts₂ → p ts₁ u) ↔
      (∀ ts₁ u ts₂, ts = ts₁ ++ u :: ts₂ → p ts₁ u) ∧ p ts t := by
  constructor
  · intro hall
    refine ⟨?_, hall ts t [] rfl⟩
    rintro ts₁ u ts₂ rfl
    exact hall ts₁ u (ts₂ ++ [t]) (by simp)
  · rintro ⟨hall, hlast⟩ ts₁ u ts₂ heq
    rcases List.eq_nil_or_concat ts₂ with rfl | ⟨ts₃, t', rfl⟩
    · obtain ⟨rfl, hsame⟩ := List.append_inj' heq rfl
      obtain rfl : t = u := List.singleton_inj.1 hsame
      exact hlast
    · rw [List.concat_eq_append, ← List.cons_append, ← List.append_assoc] at heq
      exact hall ts₁ u ts₃ (List.append_inj' heq rfl).1

omit [Util] in
/-- No end is brought about twice exactly if no step repeats one. -/
theorem ends_nodup_iff :
    (ledger ts).ends.Nodup ↔
      ∀ ts₁ t ts₂, ts = ts₁ ++ t :: ts₂ → ¬ (ledger ts₁).Repeats t := by
  induction ts using List.reverseRecOn with
  | nil => exact iff_of_true List.nodup_nil (by simp)
  | append_singleton ts t ih =>
      rw [forall_step_append_singleton (p := fun ts₁ t => ¬ (ledger ts₁).Repeats t), ← ih,
        ledger_append_singleton]
      show ((ledger ts).ends ++ ((ledger ts).ended t).toList).Nodup ↔ _
      rw [List.nodup_append']
      cases hended : (ledger ts).ended t with
      | none => simp [Ledger.Repeats, hended]
      | some n => simp [Ledger.Repeats, hended]

/-- The worker is in no job, and no thread has anything left to do. -/
def ThreadedHal.AtRest (s : ThreadedHal) : Prop :=
  s.hal.running = [] ∧ ∀ th ∈ s.threads, th = .performing []

instance (s : ThreadedHal) : Decidable s.AtRest := inferInstanceAs (Decidable (_ ∧ _))

omit [Util] in
/-- Then no thread has an end to tell. -/
theorem Tracks.count_of_atRest {messages : List (Option ℕ)} (h : Tracks messages s.threads)
    (hrest : s.AtRest) (n : ℕ) : messages.count (some n) = 0 := by
  rw [List.count_eq_zero]
  intro hmem
  obtain ⟨k, hk⟩ := List.mem_iff_getElem?.1 hmem
  obtain ⟨th, hth, htells⟩ := h.tells k n hk
  obtain rfl := hrest.2 th (List.mem_of_getElem? hth)
  obtain ⟨c, hc⟩ := htells
  cases hc

end

end Fingerprint
