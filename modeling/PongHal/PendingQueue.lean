/-
# The account of the pending-writes queue (`HalProxy.cpp`)

`mSizePendingWriteEventsQueue` is kept beside the queue it counts: a post adds to it what
it pushes, and the pending-writes thread takes a chunk off it after an unlocked window in
which other posts may have come in.

`messageQueueMachine` has the calls of `postEventsToMessageQueue` as steps of their own,
with any events and any count, between the steps of the proxy.  `Accounted` is what every
step keeps, and `pending_queue_accounted` reads it off: the counter is the sum of the
lengths, it never exceeds its bound, no entry is empty, and the statistics have the
greatest value so far.
-/
import PongHal.HalProxy

namespace Sensors

/-! ## The calls of the message queue -/

/-- The steps: a call of `postEventsToMessageQueue` with a wakelock that is locked or not,
or a step of the proxy. -/
inductive MessageQueueLabel
  | postEventsToMessageQueue (events : List Event) (numWakeupEvents : ℕ) (locked writeOk : Bool)
  | proxy (l : ProxyLabel)
  deriving DecidableEq, Repr

/-- The proxy with these steps. -/
def messageQueueMachine (kWakelockTimeoutNs : ℤ) :
    Machine HalProxy MessageQueueLabel Observation where
  step p
    | .postEventsToMessageQueue events numWakeupEvents locked writeOk =>
        some (p.postEventsToMessageQueue events numWakeupEvents locked writeOk)
    | .proxy l => p.step kWakelockTimeoutNs l

/-- A step of such a run. -/
abbrev MessageQueueTransition := Transition HalProxy MessageQueueLabel Observation

variable {kWakelockTimeoutNs : ℤ}

/-- A step is a call, or a step of the proxy's machine. -/
theorem messageQueue_cases {t : MessageQueueTransition}
    (h : (messageQueueMachine kWakelockTimeoutNs).Takes t) :
    (∃ es num locked writeOk, t.label = .postEventsToMessageQueue es num locked writeOk ∧
      t.post = (t.pre.postEventsToMessageQueue es num locked writeOk).1) ∨
    ∃ u : ProxyTransition, (proxyMachine kWakelockTimeoutNs).Takes u ∧
      t.pre = u.pre ∧ t.label = .proxy u.label ∧ t.post = u.post := by
  obtain ⟨p, l, out, p'⟩ := t
  cases l with
  | postEventsToMessageQueue es num locked writeOk =>
      exact .inl ⟨es, num, locked, writeOk, rfl, congrArg Prod.fst (Option.some.inj h).symm⟩
  | proxy l => exact .inr ⟨⟨p, l, out, p'⟩, h, rfl, rfl, rfl⟩

/-! ## The account -/

namespace HalProxy

/-- The number of events in the queue. -/
def numPending (p : HalProxy) : ℕ := (p.mPendingWriteEventsQueue.map fun e => e.1.length).sum

/-- What holds between two steps. -/
structure Accounted (p : HalProxy) : Prop where
  size : p.mSizePendingWriteEventsQueue = p.numPending
  bound : p.mSizePendingWriteEventsQueue ≤ kMaxSizePendingWriteEventsQueue
  nonempty : ∀ e ∈ p.mPendingWriteEventsQueue, e.1 ≠ []
  observed : p.mSizePendingWriteEventsQueue ≤ p.mMostEventsObservedPendingWriteEventsQueue

/-- What a step does to the counter: it keeps the account, and the statistics follow. -/
structure Counts (p p' : HalProxy) : Prop where
  accounted : p'.Accounted
  most : p'.mMostEventsObservedPendingWriteEventsQueue =
    max p'.mSizePendingWriteEventsQueue p.mMostEventsObservedPendingWriteEventsQueue

theorem numPending_of_cons {p : HalProxy} {events : List Event} {num : ℕ}
    {rest : List (List Event × ℕ)} (hfront : p.mPendingWriteEventsQueue = (events, num) :: rest) :
    p.numPending = events.length + (rest.map fun e => e.1.length).sum := by
  rw [numPending, hfront, List.map_cons, List.sum_cons]

/-- Where the counter and the queue stay as they are the account does too. -/
theorem Accounted.counts_of_eq {p p' : HalProxy} (h : p.Accounted)
    (hqueue : p'.mPendingWriteEventsQueue = p.mPendingWriteEventsQueue)
    (hsize : p'.mSizePendingWriteEventsQueue = p.mSizePendingWriteEventsQueue)
    (hmost : p'.mMostEventsObservedPendingWriteEventsQueue =
      p.mMostEventsObservedPendingWriteEventsQueue) : Counts p p' := by
  refine ⟨⟨?_, ?_, ?_, ?_⟩, ?_⟩
  · rw [hsize, h.size, numPending, numPending, hqueue]
  · rw [hsize]
    exact h.bound
  · rw [hqueue]
    exact h.nonempty
  · rw [hsize, hmost]
    exact h.observed
  · rw [hsize, hmost, max_eq_right h.observed]

/-! ## A post -/

/-- A push adds its events to the counter; the test for room has come before. -/
theorem Accounted.counts_push {p : HalProxy} (h : p.Accounted) {eventsLeft : List Event}
    (num : ℕ) (hne : eventsLeft ≠ [])
    (hroom : p.mSizePendingWriteEventsQueue + eventsLeft.length ≤
      kMaxSizePendingWriteEventsQueue) : Counts p (p.push eventsLeft num) := by
  refine ⟨⟨?_, hroom, ?_, ?_⟩, ?_⟩
  · simp [push, numPending, h.size]
  · intro e he
    rcases List.mem_append.1 he with he | he
    · exact h.nonempty e he
    · rw [List.mem_singleton.1 he]
      exact hne
  · exact le_max_right _ _
  · exact max_comm _ _

/-- Every post keeps the account, whatever it writes, pushes or drops. -/
theorem Accounted.counts_post {p : HalProxy} (h : p.Accounted) (es : List Event) (num : ℕ)
    (locked writeOk : Bool) : Counts p (p.postEventsToMessageQueue es num locked writeOk).1 := by
  have hdirect : Counts p (p.writeDirectly es num locked writeOk) := h.counts_of_eq rfl rfl rfl
  unfold postEventsToMessageQueue
  simp only
  split
  · rename_i hlt
    split
    · rename_i hroom
      have hne : es.drop (p.numToWrite es writeOk) ≠ [] := by
        rw [ne_eq, List.drop_eq_nil_iff]
        omega
      rw [← List.length_drop] at hroom
      obtain ⟨haccounted, hmost⟩ := hdirect.accounted.counts_push num hne hroom
      exact ⟨haccounted, hmost⟩
    · exact hdirect
  · exact hdirect

/-! ## A commit -/

/-- The subtraction of a commit does not wrap, and leaves the number of the events that
are still in the queue. -/
theorem size_commit {p : HalProxy} {events : List Event} {num : ℕ}
    {rest : List (List Event × ℕ)} (hfront : p.mPendingWriteEventsQueue = (events, num) :: rest)
    (hsize : p.mSizePendingWriteEventsQueue = p.numPending)
    (hlt : p.mSizePendingWriteEventsQueue < 2 ^ 64) :
    (p.commit events num rest).mSizePendingWriteEventsQueue =
        (p.commit events num rest).numPending ∧
      (p.commit events num rest).mSizePendingWriteEventsQueue +
          min events.length p.mEventQueue.quantumCount = p.mSizePendingWriteEventsQueue := by
  have hall := hsize.trans (numPending_of_cons hfront)
  have hsub : (p.commit events num rest).mSizePendingWriteEventsQueue =
      p.mSizePendingWriteEventsQueue - min events.length p.mEventQueue.quantumCount := by
    show sizeSub _ _ = _
    unfold sizeSub
    omega
  have hleft : (p.commit events num rest).numPending =
      events.length - min events.length p.mEventQueue.quantumCount +
        (rest.map fun e => e.1.length).sum := by
    simp only [numPending, commit]
    split
    · rename_i hlong
      rw [List.map_cons, List.sum_cons, List.length_drop, min_eq_right hlong.le]
    · rename_i hshort
      rw [min_eq_left (not_lt.1 hshort), Nat.sub_self, Nat.zero_add]
  omega

/-- A commit leaves no empty entry behind. -/
theorem nonempty_commit {p : HalProxy} {events : List Event} {num : ℕ}
    {rest : List (List Event × ℕ)} (hfront : p.mPendingWriteEventsQueue = (events, num) :: rest)
    (hne : ∀ e ∈ p.mPendingWriteEventsQueue, e.1 ≠ []) :
    ∀ e ∈ (p.commit events num rest).mPendingWriteEventsQueue, e.1 ≠ [] := by
  have hrest : ∀ e ∈ rest, e.1 ≠ [] := by
    intro e he
    exact hne e (by rw [hfront]; exact List.mem_cons_of_mem _ he)
  simp only [commit]
  split
  · rename_i hlong
    intro e he
    rcases List.mem_cons.1 he with rfl | he
    · rw [ne_eq, List.drop_eq_nil_iff]
      exact Nat.not_le_of_lt hlong
    · exact hrest e he
  · exact hrest

theorem Accounted.counts_commit {p : HalProxy} (h : p.Accounted) {events : List Event} {num : ℕ}
    {rest : List (List Event × ℕ)}
    (hfront : p.mPendingWriteEventsQueue = (events, num) :: rest) :
    Counts p (p.commit events num rest) := by
  have hlt : p.mSizePendingWriteEventsQueue < 2 ^ 64 := h.bound.trans_lt (by decide)
  obtain ⟨hsize, hchunk⟩ := size_commit hfront h.size hlt
  have hle : (p.commit events num rest).mSizePendingWriteEventsQueue ≤
      p.mSizePendingWriteEventsQueue := by omega
  refine ⟨⟨hsize, hle.trans h.bound, nonempty_commit hfront h.nonempty, hle.trans h.observed⟩, ?_⟩
  exact (max_eq_right (hle.trans h.observed)).symm

end HalProxy

/-! ## Runs -/

/-- Every step keeps the account. -/
theorem counts_step {t : MessageQueueTransition}
    (h : (messageQueueMachine kWakelockTimeoutNs).Takes t) (hpre : t.pre.Accounted) :
    t.pre.Counts t.post := by
  rcases messageQueue_cases h with ⟨es, num, locked, writeOk, -, hpost⟩ | ⟨u, hu, hp, -, hp'⟩
  · rw [hpost]
    exact hpre.counts_post es num locked writeOk
  · rw [hp] at hpre ⊢
    rw [hp']
    cases proxyStep_of_takes hu with
    | posted p i events wakelock writeOk es hes hne hlive => exact hpre.counts_post _ _ _ _
    | committed p events num rest hwriter hfront =>
        obtain ⟨haccounted, hmost⟩ := hpre.counts_commit hfront
        exact ⟨⟨haccounted.size, haccounted.bound, haccounted.nonempty, haccounted.observed⟩,
          hmost⟩
    | _ => exact hpre.counts_of_eq rfl rfl rfl

/-- The values that the counter has had since construction. -/
def sizesReached (ts : List MessageQueueTransition) : Set ℕ :=
  insert 0 {n | ∃ t ∈ ts, t.post.mSizePendingWriteEventsQueue = n}

theorem sizesReached_append_singleton (ts : List MessageQueueTransition)
    (t : MessageQueueTransition) :
    sizesReached (ts ++ [t]) = insert t.post.mSizePendingWriteEventsQueue (sizesReached ts) := by
  ext n
  simp only [sizesReached, Set.mem_insert_iff, Set.mem_ofPred_eq, List.mem_append,
    List.mem_singleton]
  grind

section

variable {mSensors : SensorMap} {quantumCount now : ℕ} {ts : List MessageQueueTransition}
  {p : HalProxy}

theorem accounted_of_run
    (hrun : (messageQueueMachine kWakelockTimeoutNs).Run (.init mSensors quantumCount now) ts p) :
    p.Accounted := by
  refine hrun.invariant (I := HalProxy.Accounted) ?_ ?_
  · exact ⟨rfl, Nat.zero_le _, by simp [HalProxy.init], le_rfl⟩
  · exact fun t hstep hpre => (counts_step hstep hpre).accounted

/-- **The pending-writes queue is accounted for.**  In every run of posts, with any events,
and of steps of the proxy's threads, with any outcome of the writes, between two steps: the
counter is the sum of the lengths of the entries and at most its bound, no entry is empty,
and the statistics have the greatest value the counter has had; and no commit so far has
wrapped around. -/
theorem pending_queue_accounted
    (hrun : (messageQueueMachine kWakelockTimeoutNs).Run (.init mSensors quantumCount now) ts p) :
    p.mSizePendingWriteEventsQueue = (p.mPendingWriteEventsQueue.map fun e => e.1.length).sum ∧
    p.mSizePendingWriteEventsQueue ≤ kMaxSizePendingWriteEventsQueue ∧
    (∀ e ∈ p.mPendingWriteEventsQueue, e.1 ≠ []) ∧
    IsGreatest (sizesReached ts) p.mMostEventsObservedPendingWriteEventsQueue ∧
    ∀ t ∈ ts, ∀ events num rest, t.label = .proxy .commit →
      t.pre.mPendingWriteEventsQueue = (events, num) :: rest →
      t.post.mSizePendingWriteEventsQueue + min events.length t.pre.mEventQueue.quantumCount =
        t.pre.mSizePendingWriteEventsQueue := by
  have haccounted := accounted_of_run hrun
  refine ⟨haccounted.size, haccounted.bound, haccounted.nonempty, ?_, ?_⟩
  · refine hrun.history (I := fun ts p =>
      IsGreatest (sizesReached ts) p.mMostEventsObservedPendingWriteEventsQueue) ?_ ?_
    · exact ⟨Set.mem_insert _ _, by simp [upperBounds, sizesReached, HalProxy.init]⟩
    · intro ts t hbefore hstep ih
      rw [sizesReached_append_singleton, (counts_step hstep (accounted_of_run hbefore)).most]
      exact ih.insert _
  · intro t ht events num rest hlabel hfront
    obtain ⟨ts₁, ts₂, -, hbefore, hstep⟩ := hrun.split_of_mem ht
    have hpre := accounted_of_run hbefore
    rcases messageQueue_cases hstep with ⟨es, num, locked, writeOk, hl, -⟩ | ⟨u, hu, hp, hl, hp'⟩
    · rw [hl] at hlabel
      cases hlabel
    · rw [hp] at hpre hfront ⊢
      rw [hp']
      rw [hl, MessageQueueLabel.proxy.injEq] at hlabel
      cases proxyStep_of_takes hu with
      | committed p events' num' rest' hwriter hfront' =>
          obtain ⟨⟨rfl, rfl⟩, rfl⟩ : (events' = events ∧ num' = num) ∧ rest' = rest := by
            simpa [hfront'] using hfront
          exact (HalProxy.size_commit hfront hpre.size (hpre.bound.trans_lt (by decide))).2
      | _ => cases hlabel

end

/-- Three of five events are pushed, and one more while their first chunk is being written:
the commit leaves two of the four. -/
theorem pending_queue_accounted_after_commit :
    ∃ (ts : List MessageQueueTransition) (p : HalProxy),
      (messageQueueMachine 0).Run (.init ∅ 2 0) ts p ∧ p.mSizePendingWriteEventsQueue = 2 ∧
      (p.mPendingWriteEventsQueue.map fun e => e.1.length) = [1, 1] ∧
      IsGreatest (sizesReached ts) 4 := by
  have hcommitted : ∃ (ts : List MessageQueueTransition) (p : HalProxy),
      (messageQueueMachine 0).Run (.init ∅ 2 0) ts p ∧
      (p.mPendingWriteEventsQueue.map fun e => e.1.length) = [1, 1] ∧
      p.mMostEventsObservedPendingWriteEventsQueue = 4 :=
    Machine.exists_run_of_exec
      [.postEventsToMessageQueue (List.replicate 5 ⟨0, 1, 1, 0⟩) 0 false true, .proxy .select,
        .postEventsToMessageQueue [⟨1, 1, 1, 0⟩] 0 false true, .proxy (.read 2),
        .proxy (.writeBlocking true), .proxy .commit] (by decide)
  obtain ⟨ts, p, hrun, hlengths, hmost⟩ := hcommitted
  obtain ⟨hsize, -, -, hgreatest, -⟩ := pending_queue_accounted hrun
  rw [hlengths] at hsize
  rw [hmost] at hgreatest
  exact ⟨ts, p, hrun, hsize, hlengths, hgreatest⟩

end Sensors
