/-
# Enumerations and what is left of them

`notify` collects the ids of an enumeration in a function-local `static` vector, and
empties it only when a message says that no template remains.  All sessions share the
vector, so an enumeration that a session does not see to its end leaves its ids to the
next session.

`enumerations` says what a session reports, as a function of the messages it receives
and of what it finds in the vector.  `reported_eq_enumerations` is that every session
of every run reports this, with what the messages to earlier sessions have left
unfinished.  `enumeration_isolated_iff` compares one run with a session that finds
nothing, and two runs with each other: earlier sessions show in the lists exactly when
they leave something and the session completes an enumeration.

`Documented` is how `fingerprint.h` has the device report a set of templates: one
message for each, counting down, and for the empty set one message with the id `0`.
`notify` takes that message for a template, so `enumeration_faithful_iff` has the
empty set among its exceptions.
-/
import Mathlib.Data.List.DropRight
import PongHal.CrossSession

namespace Fingerprint

/-! ## Enumerations as a function of the messages -/

/-- The data of a `FINGERPRINT_TEMPLATE_ENUMERATING` message. -/
abbrev Enumerated := FingerId × UInt32

/-- The lists reported for some messages, from a vector `enrollments`. -/
def enumerations (enrollments : List Int32) : List Enumerated → List (List Int32)
  | [] => []
  | (finger, remainingTemplates) :: ms =>
      if remainingTemplates = 0 then
        (enrollments ++ [finger.fid.toInt32]) :: enumerations [] ms
      else enumerations (enrollments ++ [finger.fid.toInt32]) ms

/-- The vector after one more message. -/
def collect (enrollments : List Int32) (m : Enumerated) : List Int32 :=
  if m.2 = 0 then [] else enrollments ++ [m.1.fid.toInt32]

/-- The ids that came after the last message with nothing remaining. -/
def unfinished (ms : List Enumerated) : List Int32 :=
  (ms.rtakeWhile fun m => m.2 ≠ 0).map fun m => m.1.fid.toInt32

/-- Nothing is left unfinished exactly if the last message says that nothing remains. -/
theorem unfinished_eq_nil_iff (ms : List Enumerated) :
    unfinished ms = [] ↔ ∀ m ∈ ms.getLast?, m.2 = 0 := by
  rw [unfinished, List.map_eq_nil_iff]
  cases ms using List.reverseRecOn with
  | nil => simp
  | append_singleton ms m => simp

/-- What is left unfinished is what an empty vector has collected. -/
theorem foldl_collect (ms : List Enumerated) : ms.foldl collect [] = unfinished ms := by
  induction ms using List.reverseRecOn with
  | nil => rfl
  | append_singleton ms m ih =>
      rw [List.foldl_append, List.foldl_cons, List.foldl_nil, ih, collect]
      by_cases hlast : m.2 = 0 <;> simp [unfinished, hlast]

/-- One more message reports the vector if nothing remains. -/
theorem enumerations_append_singleton (enrollments : List Int32) (ms : List Enumerated)
    (m : Enumerated) :
    enumerations enrollments (ms ++ [m]) = enumerations enrollments ms ++
      if m.2 = 0 then [ms.foldl collect enrollments ++ [m.1.fid.toInt32]] else [] := by
  induction ms generalizing enrollments with
  | nil =>
      obtain ⟨finger, remaining⟩ := m
      simp only [List.nil_append, enumerations, List.foldl_nil]
  | cons m' ms ih =>
      obtain ⟨finger, remaining⟩ := m'
      by_cases hlast : remaining = 0
      · simp [enumerations, collect, hlast, ih]
      · simp [enumerations, collect, hlast, ih]

/-- What was in the vector shows in the lists, unless no enumeration is completed. -/
theorem enumerations_eq_iff (ms : List Enumerated) (l l' : List Int32) :
    enumerations l ms = enumerations l' ms ↔ l = l' ∨ ∀ m ∈ ms, m.2 ≠ 0 := by
  induction ms generalizing l l' with
  | nil => simp [enumerations]
  | cons m ms ih =>
      obtain ⟨finger, remaining⟩ := m
      by_cases hlast : remaining = 0
      · simp [enumerations, hlast]
      · simp [enumerations, hlast, ih]

/-! ## Messages and reports of a run -/

/-- The list an effect reports. -/
def Effect.enumeration : Effect → Option (List Int32)
  | .callback (.onEnrollmentsEnumerated enrollmentIds) => some enrollmentIds
  | _ => none

/-- The enumerating message a step delivers, with the session it is delivered to. -/
def HalTransition.enumerating (t : HalTransition) : List (ℕ × Enumerated) :=
  match t.label, t.pre.openSession with
  | .message (.templateEnumerating finger remainingTemplates), some (i, _) =>
      [(i, finger, remainingTemplates)]
  | _, _ => []

/-- The lists session `k` reports in a step. -/
def HalTransition.reported (k : ℕ) (t : HalTransition) : List (List Int32) :=
  t.out.filterMap fun p => if p.1 = k then p.2.enumeration else none

/-- The lists session `k` reports in a run. -/
def reported (k : ℕ) (ts : List HalTransition) : List (List Int32) :=
  ts.flatMap (HalTransition.reported k)

/-- The enumerating messages delivered to session `k`. -/
def delivered (k : ℕ) (ts : List HalTransition) : List Enumerated :=
  ((ts.flatMap HalTransition.enumerating).filter fun p => p.1 = k).map Prod.snd

/-- The enumerating messages delivered to sessions before session `k`. -/
def deliveredBefore (k : ℕ) (ts : List HalTransition) : List Enumerated :=
  ((ts.flatMap HalTransition.enumerating).filter fun p => p.1 < k).map Prod.snd

section

variable {boot : ℕ} {ts : List HalTransition} {hal : Hal}

theorem delivered_append_singleton (k : ℕ) (t : HalTransition) :
    delivered k (ts ++ [t]) =
      delivered k ts ++ (t.enumerating.filter fun p => p.1 = k).map Prod.snd := by
  simp [delivered, List.flatMap_append]

theorem deliveredBefore_append_singleton (k : ℕ) (t : HalTransition) :
    deliveredBefore k (ts ++ [t]) =
      deliveredBefore k ts ++ (t.enumerating.filter fun p => p.1 < k).map Prod.snd := by
  simp [deliveredBefore, List.flatMap_append]

theorem reported_append_singleton (k : ℕ) (t : HalTransition) :
    reported k (ts ++ [t]) = reported k ts ++ t.reported k := by
  simp [reported, List.flatMap_append]

/-- Effects of one session that report nothing. -/
theorem reported_eq_nil {t : HalTransition} (k : ℕ)
    (h : ∀ p ∈ t.out, p.2.enumeration = none) : t.reported k = [] := by
  rw [HalTransition.reported, List.filterMap_eq_nil_iff]
  intro p hp
  split
  · exact h p hp
  · rfl

/-! ## Who reports an enumeration -/

theorem enumeration_call (s : Session) (c : Session.Call) :
    ∀ e ∈ (s.call c).2.1, e.enumeration = none := by
  intro e he
  rcases mem_call he with ⟨-, rfl⟩ | ⟨-, rfl⟩ <;> rfl

theorem enumeration_lockoutTimerExpired (s : Session) :
    ∀ e ∈ s.lockoutTimerExpired.2, e.enumeration = none := by
  intro e he
  rw [mem_lockoutTimerExpired he]
  rfl

theorem enumeration_of_ofJob {e : Effect} (he : e.ofJob = true) : e.enumeration = none := by
  cases e with
  | callback c =>
      cases c with
      | onEnrollmentsEnumerated enrollmentIds => exact Bool.noConfusion he
      | _ => rfl
  | _ => rfl

variable [Util]

/-- A message that is not an enumerating one leaves the vector and reports nothing. -/
theorem enumeration_notify (s : Session) (enrollments : List Int32) (now : ℕ)
    {msg : FingerprintMsg}
    (hmsg : ∀ finger remaining, msg ≠ .templateEnumerating finger remaining) :
    (s.notify enrollments msg now).2.1 = enrollments ∧
      ∀ e ∈ (s.notify enrollments msg now).2.2, e.enumeration = none := by
  cases msg with
  | authenticated finger hat =>
      unfold Session.notify
      simp only
      split
      · simp [Effect.enumeration]
      · refine ⟨rfl, ?_⟩
        intro e he
        rcases List.mem_cons.1 he with rfl | he
        · rfl
        · exact enumeration_of_ofJob
            (Effect.ofJob_of_ofLockoutCheck (ofLockoutCheck_checkSensorLockout _ now e he))
  | acquired info =>
      refine ⟨rfl, ?_⟩
      simp only [Session.notify]
      split <;> simp [Effect.enumeration]
  | templateEnumerating finger remaining => exact absurd rfl (hmsg finger remaining)
  | _ => exact ⟨rfl, by simp [Session.notify, Effect.enumeration]⟩

/-- No effect that waits for the worker reports an enumeration. -/
theorem enumeration_running (hrun : halMachine.Run (.init boot) ts hal) :
    ∀ p ∈ hal.running, p.2.enumeration = none := by
  refine hrun.invariant (I := fun hal => ∀ p ∈ hal.running, p.2.enumeration = none) ?_ ?_
  · simp [Hal.init]
  · intro t hstep ih p hp
    rcases mem_running_step hstep hp with hold | ⟨j, st, r, -, -, he⟩
    · exact ih p hold
    · exact enumeration_of_ofJob (ofJob_runJob st.session t.pre.now j r p.2 he)

/-- What a step does to the vector: nothing, or one more message for the last session. -/
theorem enumeration_step {t : HalTransition} (h : halMachine.Takes t)
    (hrunning : ∀ p ∈ t.pre.running, p.2.enumeration = none) :
    (t.enumerating = [] ∧ t.post.enrollments = t.pre.enrollments ∧ ∀ k, t.reported k = []) ∨
    ∃ i m, t.enumerating = [(i, m)] ∧ i + 1 = t.pre.sessions.length ∧
      t.post.enrollments = collect t.pre.enrollments m ∧
      ∀ k, t.reported k =
        if i = k ∧ m.2 = 0 then [t.pre.enrollments ++ [m.1.fid.toInt32]] else [] := by
  cases halStep_of_takes h with
  | createSession hal userId hopen =>
      refine .inl ⟨rfl, rfl, fun k => reported_eq_nil k ?_⟩
      simp [Effect.enumeration]
  | call hal i c st hi =>
      refine .inl ⟨rfl, rfl, fun k => reported_eq_nil k ?_⟩
      intro p hp
      obtain ⟨e, he, rfl⟩ := List.mem_map.1 hp
      exact enumeration_call st.session c e he
  | perform hal p rest hperform =>
      refine .inl ⟨rfl, rfl, fun k => reported_eq_nil k ?_⟩
      intro q hq
      rw [List.mem_singleton.1 hq]
      exact hrunning p (by rw [hperform]; exact List.mem_cons_self)
  | expire hal i timer st wake hi htimer hwake =>
      refine .inl ⟨rfl, rfl, fun k => reported_eq_nil k ?_⟩
      intro p hp
      obtain ⟨e, he, rfl⟩ := List.mem_map.1 hp
      exact enumeration_lockoutTimerExpired st.session e he
  | dropped hal msg hopen =>
      refine .inl ⟨?_, rfl, fun k => rfl⟩
      simp only [HalTransition.enumerating, hopen]
  | message hal msg i st hopen =>
      by_cases hmsg : ∃ finger remaining, msg = .templateEnumerating finger remaining
      · obtain ⟨finger, remaining, rfl⟩ := hmsg
        refine .inr ⟨i, (finger, remaining), ?_, (Hal.openSession_eq_some hopen).2.1, ?_, ?_⟩
        · simp only [HalTransition.enumerating, hopen]
        · simp only [Session.notify, collect]
          split <;> rfl
        · intro k
          by_cases hik : i = k <;> by_cases hlast : remaining = 0 <;>
            simp [HalTransition.reported, Session.notify, Effect.enumeration, hik, hlast]
      · push Not at hmsg
        obtain ⟨hvector, hquiet⟩ := enumeration_notify st.session hal.enrollments hal.now hmsg
        refine .inl ⟨?_, hvector, fun k => reported_eq_nil k ?_⟩
        · cases msg with
          | templateEnumerating finger remaining => exact absurd rfl (hmsg finger remaining)
          | _ => rfl
        · intro p hp
          obtain ⟨e, he, rfl⟩ := List.mem_map.1 hp
          exact hquiet e he
  | _ => exact .inl ⟨rfl, rfl, fun k => rfl⟩

/-! ## What a session reports -/

/-- The sessions of a run, the vector and the reports.  The last session, and every
session that is still to come, finds in the vector what the messages before it have
left unfinished. -/
structure Enumerating (ts : List HalTransition) (hal : Hal) (k : ℕ) : Prop where
  vector : hal.sessions.length ≤ k + 1 →
    hal.enrollments = (delivered k ts).foldl collect (unfinished (deliveredBefore k ts))
  none_yet : hal.sessions.length ≤ k → delivered k ts = []
  lists : reported k ts = enumerations (unfinished (deliveredBefore k ts)) (delivered k ts)

theorem enumerating_step {t : HalTransition} {k : ℕ} (h : halMachine.Takes t)
    (hrunning : ∀ p ∈ t.pre.running, p.2.enumeration = none) (ih : Enumerating ts t.pre k) :
    Enumerating (ts ++ [t]) t.post k := by
  have hgrow : t.pre.sessions.length ≤ t.post.sessions.length := by
    rcases sessions_step h with ⟨userId, -, -, hsessions⟩ | ⟨-, hlength⟩
    · simp [hsessions]
    · exact hlength.ge
  rcases enumeration_step h hrunning with ⟨hnone, hvector, hquiet⟩ |
    ⟨i, m, hone, hlast, hvector, hreport⟩
  · -- the step has nothing to do with enumerations
    have hd : delivered k (ts ++ [t]) = delivered k ts := by
      simp [delivered_append_singleton, hnone]
    have hb : deliveredBefore k (ts ++ [t]) = deliveredBefore k ts := by
      simp [deliveredBefore_append_singleton, hnone]
    have hr : reported k (ts ++ [t]) = reported k ts := by
      simp [reported_append_singleton, hquiet k]
    refine ⟨fun hk => ?_, fun hk => ?_, ?_⟩
    · rw [hd, hb, hvector]
      exact ih.vector (hgrow.trans hk)
    · rw [hd]
      exact ih.none_yet (hgrow.trans hk)
    · rw [hd, hb, hr]
      exact ih.lists
  · rcases lt_trichotomy i k with hik | rfl | hik
    · -- the message goes to an earlier session than `k`, which does not exist yet
      have hnew : t.pre.sessions.length ≤ k := by omega
      have hd : delivered k (ts ++ [t]) = [] := by
        simp [delivered_append_singleton, hone, hik.ne, ih.none_yet hnew]
      have hb : deliveredBefore k (ts ++ [t]) = deliveredBefore k ts ++ [m] := by
        simp [deliveredBefore_append_singleton, hone, hik]
      have hr : reported k (ts ++ [t]) = reported k ts := by
        simp [reported_append_singleton, hreport k, hik.ne]
      have hold := ih.vector (hnew.trans (Nat.le_succ k))
      rw [ih.none_yet hnew, List.foldl_nil] at hold
      refine ⟨fun _ => ?_, fun _ => hd, ?_⟩
      · rw [hd, hb, List.foldl_nil, ← foldl_collect, List.foldl_append, foldl_collect, ← hold,
          hvector]
        rfl
      · rw [hd, hr, ih.lists, ih.none_yet hnew]
        rfl
    · -- the message goes to `k` itself
      have hd : delivered i (ts ++ [t]) = delivered i ts ++ [m] := by
        simp [delivered_append_singleton, hone]
      have hb : deliveredBefore i (ts ++ [t]) = deliveredBefore i ts := by
        simp [deliveredBefore_append_singleton, hone]
      have hr : reported i (ts ++ [t]) = reported i ts ++
          if m.2 = 0 then [t.pre.enrollments ++ [m.1.fid.toInt32]] else [] := by
        simp [reported_append_singleton, hreport i]
      have hold := ih.vector hlast.ge
      refine ⟨fun _ => ?_, fun hk => ?_, ?_⟩
      · rw [hd, hb, List.foldl_append, ← hold, hvector]
        rfl
      · omega
      · rw [hd, hb, hr, ih.lists, enumerations_append_singleton, ← hold]
    · -- the message goes to a later session than `k`
      have hd : delivered k (ts ++ [t]) = delivered k ts := by
        simp [delivered_append_singleton, hone, hik.ne']
      have hb : deliveredBefore k (ts ++ [t]) = deliveredBefore k ts := by
        simp [deliveredBefore_append_singleton, hone, hik.le]
      have hr : reported k (ts ++ [t]) = reported k ts := by
        simp [reported_append_singleton, hreport k, hik.ne']
      refine ⟨fun hk => ?_, fun hk => ?_, ?_⟩
      · omega
      · omega
      · rw [hd, hb, hr]
        exact ih.lists

/-- A session reports the enumerations of the messages it has received, starting from
what the messages to earlier sessions have left unfinished. -/
theorem reported_eq_enumerations (hrun : halMachine.Run (.init boot) ts hal) (k : ℕ) :
    reported k ts = enumerations (unfinished (deliveredBefore k ts)) (delivered k ts) := by
  have hall : Enumerating ts hal k := by
    refine hrun.history (I := fun ts hal => Enumerating ts hal k) ⟨?_, ?_, ?_⟩ ?_
    · intro _
      rfl
    · intro _
      rfl
    · rfl
    · intro ts t hrun hstep ih
      exact enumerating_step hstep (enumeration_running hrun) ih
  exact hall.lists

/-- **Exactly when enumerations are isolated.**  The lists a session reports are those
of its own messages alone if and only if the last message to an earlier session, if
there is one, completes its enumeration, or the session receives no message that
completes one; and two
runs that deliver the same messages to the session report the same lists if and only
if they leave it the same unfinished ids or it receives no such message. -/
theorem enumeration_isolated_iff (k : ℕ) (hrun : halMachine.Run (.init boot) ts hal) :
    (reported k ts = enumerations [] (delivered k ts) ↔
      (∀ m ∈ (deliveredBefore k ts).getLast?, m.2 = 0) ∨ ∀ m ∈ delivered k ts, m.2 ≠ 0) ∧
    ∀ (boot' : ℕ) (ts' : List HalTransition) (hal' : Hal),
      halMachine.Run (.init boot') ts' hal' → delivered k ts' = delivered k ts →
      (reported k ts' = reported k ts ↔
        unfinished (deliveredBefore k ts') = unfinished (deliveredBefore k ts) ∨
          ∀ m ∈ delivered k ts, m.2 ≠ 0) := by
  constructor
  · rw [reported_eq_enumerations hrun, ← unfinished_eq_nil_iff]
    exact enumerations_eq_iff _ _ _
  · intro boot' ts' hal' hrun' hsame
    rw [reported_eq_enumerations hrun, reported_eq_enumerations hrun', hsame]
    exact enumerations_eq_iff _ _ _

end

/-- A session that enumerates after another one has seen its enumeration to the end. -/
theorem enumeration_isolated_iff_complete :
    ∃ (ts : List HalTransition) (hal : Hal), halMachine.Run (.init 0) ts hal ∧
      reported 1 ts = [[8]] ∧ reported 1 ts = enumerations [] (delivered 1 ts) := by
  have hcomplete : ∃ (ts : List HalTransition) (hal : Hal), halMachine.Run (.init 0) ts hal ∧
      reported 1 ts = [[8]] ∧ ∀ m ∈ (deliveredBefore 1 ts).getLast?, m.2 = 0 :=
    Machine.exists_run_of_exec
      [.createSession 0, .message (.templateEnumerating ⟨0, 7⟩ 0), .call 0 .close,
        .createSession 10, .message (.templateEnumerating ⟨10, 8⟩ 0)] (by decide)
  obtain ⟨ts, hal, hrun, hlists, hleft⟩ := hcomplete
  exact ⟨ts, hal, hrun, hlists, (enumeration_isolated_iff 1 hrun).1.2 (.inl hleft)⟩

/-- The first session is closed in the middle of an enumeration, and the second user's
session reports the first user's template. -/
theorem enumeration_shows_earlier_session :
    ∃ (ts ts' : List HalTransition) (hal hal' : Hal),
      halMachine.Run (.init 0) ts hal ∧ halMachine.Run (.init 0) ts' hal' ∧
      delivered 1 ts = [(⟨10, 8⟩, 0)] ∧ delivered 1 ts' = [(⟨10, 8⟩, 0)] ∧
      reported 1 ts = [[7, 8]] ∧ reported 1 ts' = [[8]] := by
  have hcut : ∃ (ts : List HalTransition) (hal : Hal), halMachine.Run (.init 0) ts hal ∧
      delivered 1 ts = [(⟨10, 8⟩, 0)] ∧ reported 1 ts = [[7, 8]] :=
    Machine.exists_run_of_exec
      [.createSession 0, .message (.templateEnumerating ⟨0, 7⟩ 1), .call 0 .close,
        .createSession 10, .message (.templateEnumerating ⟨10, 8⟩ 0)] (by decide)
  have halone : ∃ (ts : List HalTransition) (hal : Hal), halMachine.Run (.init 0) ts hal ∧
      delivered 1 ts = [(⟨10, 8⟩, 0)] ∧ reported 1 ts = [[8]] :=
    Machine.exists_run_of_exec
      [.createSession 0, .call 0 .close, .createSession 10,
        .message (.templateEnumerating ⟨10, 8⟩ 0)] (by decide)
  obtain ⟨ts, hal, hrun, hown, hlists⟩ := hcut
  obtain ⟨ts', hal', hrun', hown', hlists'⟩ := halone
  exact ⟨ts, ts', hal, hal', hrun, hrun', hown, hown', hlists, hlists'⟩

/-! ## Template sets as the device documents them -/

/-- The messages for a set of templates: each template in a message of its own, which
says how many are still to come.  A device without templates sends the id `0`, with
nothing to come. -/
def Documented (ids : List UInt32) (ms : List Enumerated) : Prop :=
  ms.map (fun m => m.1.fid) = (if ids = [] then [0] else ids) ∧
    ms.map (fun m => m.2.toNat) = (List.range ms.length).reverse

instance (ids : List UInt32) (ms : List Enumerated) : Decidable (Documented ids ms) :=
  inferInstanceAs (Decidable (_ ∧ _))

/-- Messages that count down to nothing remaining are one enumeration. -/
theorem enumerations_append_of_countdown (enrollments : List Int32) {ms : List Enumerated}
    (hms : ms ≠ []) (hcount : ms.map (fun m => m.2.toNat) = (List.range ms.length).reverse)
    (rest : List Enumerated) :
    enumerations enrollments (ms ++ rest) =
      (enrollments ++ ms.map fun m => m.1.fid.toInt32) :: enumerations [] rest := by
  induction ms generalizing enrollments with
  | nil => exact absurd rfl hms
  | cons m ms ih =>
      obtain ⟨finger, remaining⟩ := m
      rw [List.length_cons, List.range_succ, List.reverse_append, List.map_cons] at hcount
      obtain ⟨hhead, htail⟩ : remaining.toNat = ms.length ∧
          ms.map (fun m => m.2.toNat) = (List.range ms.length).reverse := by
        simpa using hcount
      cases ms with
      | nil =>
          have hlast : remaining = 0 := UInt32.toNat_inj.1 hhead
          simp [enumerations, hlast]
      | cons m' ms =>
          have hmore : remaining ≠ 0 := by
            rintro rfl
            simp at hhead
          rw [List.cons_append, enumerations, if_neg hmore, ih _ (List.cons_ne_nil _ _) htail]
          simp [List.append_assoc]

/-- What is reported for a set that the device sends as documented. -/
theorem enumerations_append_of_documented (enrollments : List Int32) {ids : List UInt32}
    {ms : List Enumerated} (h : Documented ids ms) (rest : List Enumerated) :
    enumerations enrollments (ms ++ rest) =
      (enrollments ++ (if ids = [] then [0] else ids).map UInt32.toInt32) ::
        enumerations [] rest := by
  obtain ⟨hids, hcount⟩ := h
  have hms : ms ≠ [] := by
    rintro rfl
    split at hids
    · cases hids
    · rename_i hne
      exact hne hids.symm
  rw [enumerations_append_of_countdown enrollments hms hcount rest, ← hids, List.map_map]
  rfl

/-- The lists for some sets are the ids of these sets if the vector is empty and no set
is.  The vector matters only if there is a set. -/
theorem enumerations_documented_iff (enrollments : List Int32) {sets : List (List UInt32)}
    {enums : List (List Enumerated)} (h : List.Forall₂ Documented sets enums) :
    enumerations enrollments enums.flatten = sets.map (fun ids => ids.map UInt32.toInt32) ↔
      (∀ ids ∈ sets, ids ≠ []) ∧ (enrollments = [] ∨ sets = []) := by
  induction h generalizing enrollments with
  | nil => simp [enumerations]
  | @cons ids ms sets enums hdoc hall ih =>
      rw [List.flatten_cons, enumerations_append_of_documented enrollments hdoc, List.map_cons,
        List.cons.injEq, ih []]
      by_cases hids : ids = []
      · simp [hids]
      · simp [hids, and_comm]

/-- **Exactly when enumerations are faithful.**  A device that reports the sets `sets` to
a session as documented, one after the other, gets each of them to the client once and
in order, if and only if no set is empty and, where there is a set, earlier sessions
leave nothing in the vector. -/
theorem enumeration_faithful_iff {boot : ℕ} {ts : List HalTransition} {hal : Hal} [Util]
    (k : ℕ) (hrun : halMachine.Run (.init boot) ts hal) {sets : List (List UInt32)}
    {enums : List (List Enumerated)} (hdoc : List.Forall₂ Documented sets enums)
    (hall : delivered k ts = enums.flatten) :
    reported k ts = sets.map (fun ids => ids.map UInt32.toInt32) ↔
      (∀ ids ∈ sets, ids ≠ []) ∧ (unfinished (deliveredBefore k ts) = [] ∨ sets = []) := by
  rw [reported_eq_enumerations hrun, hall]
  exact enumerations_documented_iff _ hdoc

/-- A set of two templates and then a set of one, both as the client gets them. -/
theorem enumeration_faithful_iff_nonempty :
    ∃ (ts : List HalTransition) (hal : Hal), halMachine.Run (.init 0) ts hal ∧
      delivered 0 ts = [(⟨0, 7⟩, 1), (⟨0, 8⟩, 0), (⟨0, 9⟩, 0)] ∧
      reported 0 ts = [[7, 8], [9]] := by
  have htwo : ∃ (ts : List HalTransition) (hal : Hal), halMachine.Run (.init 0) ts hal ∧
      delivered 0 ts = [(⟨0, 7⟩, 1), (⟨0, 8⟩, 0), (⟨0, 9⟩, 0)] ∧
      unfinished (deliveredBefore 0 ts) = [] :=
    Machine.exists_run_of_exec
      [.createSession 0, .message (.templateEnumerating ⟨0, 7⟩ 1),
        .message (.templateEnumerating ⟨0, 8⟩ 0), .message (.templateEnumerating ⟨0, 9⟩ 0)]
      (by decide)
  obtain ⟨ts, hal, hrun, hall, hleft⟩ := htwo
  have hdoc : List.Forall₂ Documented [[7, 8], [9]]
      [[(⟨0, 7⟩, 1), (⟨0, 8⟩, 0)], [(⟨0, 9⟩, 0)]] :=
    .cons (by decide) (.cons (by decide) .nil)
  exact ⟨ts, hal, hrun, hall, (enumeration_faithful_iff 0 hrun hdoc hall).2
    ⟨by decide, .inl hleft⟩⟩

/-- The empty set comes as a message with the id `0`, and the client gets a list with a
template `0` in it. -/
theorem enumeration_reports_empty_set_as_zero :
    ∃ (ts : List HalTransition) (hal : Hal), halMachine.Run (.init 0) ts hal ∧
      Documented [] [(⟨0, 0⟩, 0)] ∧ delivered 0 ts = [(⟨0, 0⟩, 0)] ∧
      deliveredBefore 0 ts = [] ∧ reported 0 ts = [[0]] :=
  Machine.exists_run_of_exec
    [.createSession 0, .call 0 .enumerateEnrollments, .take .zero, .perform,
      .message (.templateEnumerating ⟨0, 0⟩ 0)] (by decide)

end Fingerprint
