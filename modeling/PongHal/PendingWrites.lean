/-
# How the pending-writes thread drains its queue (`HalProxy::handlePendingWrites`)

In one iteration of its loop the thread takes a chunk of at most `getQuantumCount` events
from the front entry, tries to write it, and removes it whether the write has succeeded
or not.  An entry of `l` events takes `l ⌈/⌉ getQuantumCount` iterations, and
`iterationsLeft` is the sum of these.

`drains_step` says what a step does that is no post: only a commit is an end of an
iteration, and it leaves one iteration less; only a blocking write attempts anything, and
what it attempts is the front of what is still to be written (`remaining`).
`pending_writes_drain` follows by induction along the run.
-/
import Mathlib.Algebra.Order.Floor.Div
import PongHal.EventStream
import PongHal.PendingQueue

namespace Sensors

/-! ## Iterations -/

/-- An entry that fits takes one iteration. -/
theorem ceilDiv_of_le {l q : ℕ} (hl : 0 < l) (h : l ≤ q) : l ⌈/⌉ q = 1 := by
  rw [Nat.ceilDiv_eq_add_pred_div]
  exact Nat.div_eq_of_lt_le (by omega) (by omega)

/-- A longer one takes one more than what the first chunk leaves. -/
theorem ceilDiv_of_lt {l q : ℕ} (hq : 0 < q) (h : q < l) : l ⌈/⌉ q = (l - q) ⌈/⌉ q + 1 := by
  have hsplit : l + q - 1 = l - q + q - 1 + q := by omega
  rw [Nat.ceilDiv_eq_add_pred_div, Nat.ceilDiv_eq_add_pred_div, hsplit, Nat.add_div_right _ hq]

theorem ceilDiv_pos {l q : ℕ} (hq : 0 < q) (hl : 0 < l) : 0 < l ⌈/⌉ q := by
  rcases Nat.lt_or_ge q l with hlong | hshort
  · rw [ceilDiv_of_lt hq hlong]
    exact Nat.succ_pos _
  · rw [ceilDiv_of_le hl hshort]
    exact one_pos

namespace HalProxy

/-- The number of iterations that the entries in the queue take. -/
def iterationsLeft (p : HalProxy) : ℕ :=
  (p.mPendingWriteEventsQueue.map fun e => e.1.length ⌈/⌉ p.mEventQueue.quantumCount).sum

theorem iterationsLeft_of_cons {p : HalProxy} {events : List Event} {num : ℕ}
    {rest : List (List Event × ℕ)} (hfront : p.mPendingWriteEventsQueue = (events, num) :: rest) :
    p.iterationsLeft = events.length ⌈/⌉ p.mEventQueue.quantumCount +
      (rest.map fun e => e.1.length ⌈/⌉ p.mEventQueue.quantumCount).sum := by
  rw [iterationsLeft, hfront, List.map_cons, List.sum_cons]

/-- None is left exactly if the queue is empty. -/
theorem iterationsLeft_eq_zero_iff {p : HalProxy} (hcapacity : 0 < p.mEventQueue.quantumCount)
    (hne : ∀ e ∈ p.mPendingWriteEventsQueue, e.1 ≠ []) :
    p.iterationsLeft = 0 ↔ p.mPendingWriteEventsQueue = [] := by
  cases hqueue : p.mPendingWriteEventsQueue with
  | nil => simp [iterationsLeft, hqueue]
  | cons front rest =>
      have hfirst : front.1 ≠ [] := hne front (by rw [hqueue]; exact List.mem_cons_self)
      have hpos := ceilDiv_pos hcapacity (List.length_pos_iff.2 hfirst)
      rw [iterationsLeft_of_cons hqueue]
      exact iff_of_false (by omega) (List.cons_ne_nil _ _)

/-- A commit leaves one iteration less, whether it shortens the entry or removes it. -/
theorem iterationsLeft_commit {p : HalProxy} {events : List Event} {num : ℕ}
    {rest : List (List Event × ℕ)} (hfront : p.mPendingWriteEventsQueue = (events, num) :: rest)
    (hcapacity : 0 < p.mEventQueue.quantumCount) (hne : events ≠ []) :
    1 + (p.commit events num rest).iterationsLeft = p.iterationsLeft := by
  rw [iterationsLeft_of_cons hfront]
  simp only [iterationsLeft, commit]
  split
  · rename_i hlong
    rw [List.map_cons, List.sum_cons, List.length_drop, ceilDiv_of_lt hcapacity hlong]
    omega
  · rename_i hshort
    rw [ceilDiv_of_le (List.length_pos_iff.2 hne) (not_lt.1 hshort)]

end HalProxy

/-! ## The steps -/

/-- The label is a post. -/
def ProxyLabel.isPost : ProxyLabel → Bool
  | .postEvents .. => true
  | _ => false

/-- What the blocking write comes to, if the label is the return of one. -/
def ProxyLabel.outcome : ProxyLabel → Option Bool
  | .writeBlocking success => some success
  | _ => none

/-- The events that are written or dropped. -/
def Observation.chunk : Observation → Option (List Event)
  | .wrote events | .dropped events => some events
  | _ => none

namespace ProxyTransition

/-- The chunks that the step attempts to write. -/
def attempts (t : ProxyTransition) : List (List Event) :=
  match t.label.outcome with
  | some _ => t.out.filterMap Observation.chunk
  | none => []

/-- The iterations that end with the step: one with a commit. -/
def iterations (t : ProxyTransition) : ℕ := if t.label = .commit then 1 else 0

/-- What a step that is no post does to the queue. -/
structure Drains (t : ProxyTransition) : Prop where
  capacity : t.post.mEventQueue.quantumCount = t.pre.mEventQueue.quantumCount
  nonempty : ∀ e ∈ t.post.mPendingWriteEventsQueue, e.1 ≠ []
  count : t.iterations + t.post.iterationsLeft = t.pre.iterationsLeft
  stream : t.attempts.flatten ++ t.post.remaining = t.pre.remaining
  chunks : ∀ chunk ∈ t.attempts, chunk.length ≤ t.pre.mEventQueue.quantumCount
  size : t.pre.mSizePendingWriteEventsQueue = t.pre.numPending →
    t.pre.mSizePendingWriteEventsQueue < 2 ^ 64 →
    t.post.mSizePendingWriteEventsQueue = t.post.numPending ∧
      t.post.mSizePendingWriteEventsQueue < 2 ^ 64

/-- A step that leaves the queue as it is. -/
theorem Drains.of_same {t : ProxyTransition}
    (hne : ∀ e ∈ t.pre.mPendingWriteEventsQueue, e.1 ≠ [])
    (hqueue : t.post.mPendingWriteEventsQueue = t.pre.mPendingWriteEventsQueue)
    (hcapacity : t.post.mEventQueue.quantumCount = t.pre.mEventQueue.quantumCount)
    (hsize : t.post.mSizePendingWriteEventsQueue = t.pre.mSizePendingWriteEventsQueue)
    (hcommit : t.label ≠ .commit)
    (hchunks : ∀ chunk ∈ t.attempts, chunk.length ≤ t.pre.mEventQueue.quantumCount)
    (hstream : t.attempts.flatten ++ t.post.remaining = t.pre.remaining) : t.Drains where
  capacity := hcapacity
  nonempty := by
    rw [hqueue]
    exact hne
  count := by
    rw [iterations, if_neg hcommit, Nat.zero_add, HalProxy.iterationsLeft, hqueue, hcapacity]
    rfl
  stream := hstream
  chunks := hchunks
  size := by
    rw [hsize, HalProxy.numPending, HalProxy.numPending, hqueue]
    exact fun hcount hlt => ⟨hcount, hlt⟩

/-- The return of a blocking write, whatever it comes to: the first chunk of the front
entry is attempted. -/
theorem Drains.of_attempt {t : ProxyTransition} {events : List Event} {num : ℕ}
    {rest : List (List Event × ℕ)} (hne : ∀ e ∈ t.pre.mPendingWriteEventsQueue, e.1 ≠ [])
    (hfront : t.pre.mPendingWriteEventsQueue = (events, num) :: rest)
    (hqueue : t.post.mPendingWriteEventsQueue = t.pre.mPendingWriteEventsQueue)
    (hcapacity : t.post.mEventQueue.quantumCount = t.pre.mEventQueue.quantumCount)
    (hsize : t.post.mSizePendingWriteEventsQueue = t.pre.mSizePendingWriteEventsQueue)
    (hcommit : t.label ≠ .commit)
    (hattempts : t.attempts = [events.take t.pre.mEventQueue.quantumCount])
    (hpre : t.pre.writer = .blocked) (hpost : t.post.writer ≠ .idle ∧ t.post.writer ≠ .blocked) :
    t.Drains := by
  refine .of_same hne hqueue hcapacity hsize hcommit ?_ ?_
  · intro chunk hchunk
    rw [hattempts, List.mem_singleton] at hchunk
    rw [hchunk]
    exact List.length_take_le _ _
  · rw [hattempts, remaining_of_ended hpost (hqueue.trans hfront), hcapacity,
      remaining_of_whole (.inr hpre) hfront, List.flatten_singleton, ← List.append_assoc,
      List.take_append_drop]

end ProxyTransition

variable {kWakelockTimeoutNs : ℤ}

/-- A step that shows nothing leaves what is still to be written as it is. -/
theorem remaining_of_silent {t : ProxyTransition} (h : (proxyMachine kWakelockTimeoutNs).Takes t)
    (hout : t.out = []) (hpending : t.pre.mPendingWriteEventsQueue ≠ []) :
    t.post.remaining = t.pre.remaining := by
  have hstreams := streams_of_takes h fun _ => hpending
  have hposted : t.posted = [] := by rw [ProxyTransition.posted, hout, List.flatMap_nil]
  have hwritten : t.written = [] := by rw [ProxyTransition.written, hout, List.flatMap_nil]
  have hlost : t.lost = [] := by rw [ProxyTransition.lost, hout, List.flatMap_nil]
  rw [ProxyTransition.Streams, hposted, hwritten, hlost] at hstreams
  simpa using hstreams.eq_of_lossless

/-- **The step of the drain.**  Every step that is no post leaves as many iterations as
before, less the one it ends, and attempts what is then no longer to be written. -/
theorem drains_step {t : ProxyTransition} (h : (proxyMachine kWakelockTimeoutNs).Takes t)
    (hpost : t.label.isPost = false) (hcapacity : 0 < t.pre.mEventQueue.quantumCount)
    (hne : ∀ e ∈ t.pre.mPendingWriteEventsQueue, e.1 ≠ []) : t.Drains := by
  cases proxyStep_of_takes h with
  | posted p i events wakelock writeOk es hes hevents hlive => cases hpost
  | selected p hwriter hpending =>
      exact .of_same hne rfl rfl rfl (by simp) (by simp [ProxyTransition.attempts,
        ProxyLabel.outcome]) (remaining_of_silent h rfl hpending)
  | wrote p events num rest hwriter hfront =>
      exact .of_attempt hne hfront rfl rfl rfl (by simp) rfl hwriter (by simp)
  | failed p events num rest hwriter hfront =>
      exact .of_attempt hne hfront rfl rfl rfl (by simp) rfl hwriter (by simp)
  | gaveBack p events num rest table hwriter hfront htable =>
      exact .of_same hne rfl rfl rfl (by simp) (by simp [ProxyTransition.attempts,
        ProxyLabel.outcome]) (remaining_of_silent h rfl (by simp [hfront]))
  | committed p events num rest hwriter hfront =>
      have hfirst : events ≠ [] := hne (events, num) (by rw [hfront]; exact List.mem_cons_self)
      refine ⟨rfl, HalProxy.nonempty_commit hfront hne, ?_, ?_, ?_, ?_⟩
      · exact HalProxy.iterationsLeft_commit hfront hcapacity hfirst
      · exact remaining_of_silent h rfl (by simp [hfront])
      · simp [ProxyTransition.attempts, ProxyLabel.outcome]
      · intro hsize hlt
        obtain ⟨hleft, hchunk⟩ := HalProxy.size_commit hfront hsize hlt
        have hless : (p.commit events num rest).mSizePendingWriteEventsQueue ≤
            p.mSizePendingWriteEventsQueue := by omega
        exact ⟨hleft, hless.trans_lt hlt⟩
  | _ =>
      exact .of_same hne rfl rfl rfl (by simp) (by simp [ProxyTransition.attempts,
        ProxyLabel.outcome]) rfl

/-! ## Runs without posts -/

/-- The iterations of a run. -/
def iterations (ts : List ProxyTransition) : ℕ := (ts.map ProxyTransition.iterations).sum

/-- The chunks attempted in a run, in order. -/
def attempts (ts : List ProxyTransition) : List (List Event) :=
  ts.flatMap ProxyTransition.attempts

/-- What the blocking writes of a run have come to. -/
def outcomes (ts : List ProxyTransition) : List Bool := ts.filterMap (·.label.outcome)

/-- What a run without posts has done to the queue of `p₀`. -/
structure Drained (p₀ : HalProxy) (ts : List ProxyTransition) (p : HalProxy) : Prop where
  capacity : p.mEventQueue.quantumCount = p₀.mEventQueue.quantumCount
  nonempty : ∀ e ∈ p.mPendingWriteEventsQueue, e.1 ≠ []
  count : iterations ts + p.iterationsLeft = p₀.iterationsLeft
  stream : (attempts ts).flatten ++ p.remaining = p₀.remaining
  chunks : ∀ chunk ∈ attempts ts, chunk.length ≤ p₀.mEventQueue.quantumCount
  size : p₀.mSizePendingWriteEventsQueue = p₀.numPending →
    p₀.mSizePendingWriteEventsQueue < 2 ^ 64 →
    p.mSizePendingWriteEventsQueue = p.numPending ∧ p.mSizePendingWriteEventsQueue < 2 ^ 64

section

variable {p q : HalProxy} {ts : List ProxyTransition}

theorem drained_of_run (hrun : (proxyMachine kWakelockTimeoutNs).Run p ts q)
    (hquiet : ∀ t ∈ ts, t.label.isPost = false) (hcapacity : 0 < p.mEventQueue.quantumCount)
    (hne : ∀ e ∈ p.mPendingWriteEventsQueue, e.1 ≠ []) : Drained p ts q := by
  refine hrun.history_of_guard (G := fun t => t.label.isPost = false) (I := Drained p) ?_ ?_ hquiet
  · refine ⟨rfl, hne, Nat.zero_add _, List.nil_append _, by simp [attempts], ?_⟩
    exact fun hsize hlt => ⟨hsize, hlt⟩
  · intro ts t _ hstep hpost ih
    have hdrains := drains_step hstep hpost (by rw [ih.capacity]; exact hcapacity) ih.nonempty
    have hattempts : attempts (ts ++ [t]) = attempts ts ++ ProxyTransition.attempts t := by
      simp [attempts]
    refine ⟨hdrains.capacity.trans ih.capacity, hdrains.nonempty, ?_, ?_, ?_, ?_⟩
    · have hone := hdrains.count
      have hbefore := ih.count
      simp only [iterations, List.map_append, List.sum_append, List.map_singleton,
        List.sum_singleton] at hbefore ⊢
      omega
    · rw [hattempts, List.flatten_append, List.append_assoc, hdrains.stream, ih.stream]
    · intro chunk hchunk
      rw [hattempts] at hchunk
      rcases List.mem_append.1 hchunk with hold | hnew
      · exact ih.chunks chunk hold
      · rw [← ih.capacity]
        exact hdrains.chunks chunk hnew
    · intro hsize hlt
      obtain ⟨hsize', hlt'⟩ := ih.size hsize hlt
      exact hdrains.size hsize' hlt'

/-! ## The thread can go on -/

theorem step_select (hwriter : p.writer = .idle) (hpending : p.mPendingWriteEventsQueue ≠ []) :
    (proxyMachine kWakelockTimeoutNs).step p .select =
      some ({ p with writer := .blocked }, []) := by
  obtain ⟨front, rest, hfront⟩ := List.exists_cons_of_ne_nil hpending
  simp [proxyMachine, HalProxy.step, hwriter, hfront]

section

variable {events : List Event} {num : ℕ} {rest : List (List Event × ℕ)}

theorem step_writeBlocking_true (hwriter : p.writer = .blocked)
    (hfront : p.mPendingWriteEventsQueue = (events, num) :: rest)
    (hempty : p.mEventQueue.contents = []) :
    (proxyMachine kWakelockTimeoutNs).step p (.writeBlocking true) =
      some ({ p with
          writer := .wrote
          mEventQueue := { p.mEventQueue with
            contents := p.mEventQueue.contents ++ events.take p.mEventQueue.quantumCount } },
        [.wrote (events.take p.mEventQueue.quantumCount)]) := by
  simp [proxyMachine, HalProxy.step, hwriter, hfront, hempty, EventQueue.availableToWrite]

theorem step_writeBlocking_false (hwriter : p.writer = .blocked)
    (hfront : p.mPendingWriteEventsQueue = (events, num) :: rest) :
    (proxyMachine kWakelockTimeoutNs).step p (.writeBlocking false) =
      some ({ p with writer := .failed }, [.dropped (events.take p.mEventQueue.quantumCount)]) := by
  simp [proxyMachine, HalProxy.step, hwriter, hfront]

theorem step_giveBack (hwriter : p.writer = .failed)
    (hfront : p.mPendingWriteEventsQueue = (events, num) :: rest) :
    (proxyMachine kWakelockTimeoutNs).step p .giveBack =
      some ({ p.giveBack events num with writer := .gaveBack }, []) := by
  simp [proxyMachine, HalProxy.step, hwriter, hfront]

theorem step_commit (hwriter : p.writer = .wrote ∨ p.writer = .gaveBack)
    (hfront : p.mPendingWriteEventsQueue = (events, num) :: rest) :
    (proxyMachine kWakelockTimeoutNs).step p .commit =
      some ({ p.commit events num rest with writer := .idle }, []) := by
  simp [proxyMachine, HalProxy.step, hwriter, hfront]

/-- An iteration on a queue that is not empty, with the outcome of its write given: for a
success the framework has read before it what is in the event FMQ. -/
theorem exists_iteration (hidle : p.writer = .idle)
    (hfront : p.mPendingWriteEventsQueue = (events, num) :: rest) (success : Bool) :
    ∃ ts q, (proxyMachine kWakelockTimeoutNs).Run p ts q ∧ (∀ t ∈ ts, t.label.isPost = false) ∧
      outcomes ts = [success] ∧ iterations ts = 1 ∧ q.writer = .idle := by
  cases success with
  | true =>
      obtain ⟨p₁, hread, hidle₁, hfront₁, hempty₁⟩ : ∃ p₁,
          (proxyMachine kWakelockTimeoutNs).step p (.read p.mEventQueue.contents.length) =
            some (p₁, [.read (p.mEventQueue.contents.take p.mEventQueue.contents.length)]) ∧
          p₁.writer = .idle ∧ p₁.mPendingWriteEventsQueue = (events, num) :: rest ∧
          p₁.mEventQueue.contents = [] :=
        ⟨_, if_pos le_rfl, hidle, hfront, List.drop_eq_nil_of_le le_rfl⟩
      have hselected := (Machine.Run.start.next hread).next
        (step_select hidle₁ (by simp [hfront₁]))
      have hwrote := hselected.next (step_writeBlocking_true rfl hfront₁ hempty₁)
      exact ⟨_, _, hwrote.next (step_commit (.inl rfl) hfront₁), by simp [ProxyLabel.isPost],
        rfl, rfl, rfl⟩
  | false =>
      have hselected := (Machine.Run.start (M := proxyMachine kWakelockTimeoutNs)).next
        (step_select hidle (by simp [hfront]))
      have hfailed := hselected.next (step_writeBlocking_false rfl hfront)
      have hgave := hfailed.next (step_giveBack rfl hfront)
      obtain ⟨table, -, hback⟩ := HalProxy.giveBack_eq { p with writer := .failed } events num
      rw [hback] at hgave
      exact ⟨_, _, hgave.next (step_commit (.inr rfl) hfront), by simp [ProxyLabel.isPost], rfl,
        rfl, rfl⟩

end

/-- Iterations with any outcomes, as long as there are events left. -/
theorem exists_iterations (results : List Bool) (hidle : p.writer = .idle)
    (hcapacity : 0 < p.mEventQueue.quantumCount)
    (hne : ∀ e ∈ p.mPendingWriteEventsQueue, e.1 ≠ []) (hle : results.length ≤ p.iterationsLeft) :
    ∃ ts q, (proxyMachine kWakelockTimeoutNs).Run p ts q ∧ (∀ t ∈ ts, t.label.isPost = false) ∧
      outcomes ts = results ∧ iterations ts = results.length := by
  induction results generalizing p with
  | nil => exact ⟨[], p, .start, by simp, rfl, rfl⟩
  | cons success results ih =>
      rw [List.length_cons] at hle
      have hpending : p.mPendingWriteEventsQueue ≠ [] := by
        intro hnil
        have hzero := (HalProxy.iterationsLeft_eq_zero_iff hcapacity hne).2 hnil
        omega
      obtain ⟨front, rest, hfront⟩ := List.exists_cons_of_ne_nil hpending
      obtain ⟨ts₁, q₁, hrun₁, hquiet₁, houtcomes₁, hone, hidle₁⟩ :=
        exists_iteration hidle hfront success
      have hdrained := drained_of_run hrun₁ hquiet₁ hcapacity hne
      have hcount := hdrained.count
      obtain ⟨ts₂, q₂, hrun₂, hquiet₂, houtcomes₂, hiterations⟩ := ih hidle₁
        (by rw [hdrained.capacity]; exact hcapacity) hdrained.nonempty (by omega)
      refine ⟨ts₁ ++ ts₂, q₂, hrun₁.trans hrun₂, ?_, ?_, ?_⟩
      · simpa [or_imp, forall_and] using ⟨hquiet₁, hquiet₂⟩
      · simp only [outcomes, List.filterMap_append] at houtcomes₁ houtcomes₂ ⊢
        rw [houtcomes₁, houtcomes₂, List.singleton_append]
      · simp only [iterations, List.map_append, List.sum_append, List.length_cons] at *
        omega

/-- **The pending-writes loop drains its queue.**  While nothing is posted, whatever the
writes come to: the queue is empty exactly after as many iterations as its entries take,
`l ⌈/⌉ getQuantumCount` for one of `l` events; no write of more events than the event FMQ
has places is ever attempted; every event is attempted once and in order; and the counter
is zero at the end if it was the number of the events.  For every pattern of successes and
failures there is such a run. -/
theorem pending_writes_drain (hidle : p.writer = .idle)
    (hne : ∀ e ∈ p.mPendingWriteEventsQueue, e.1 ≠ [])
    (hcapacity : 0 < p.mEventQueue.quantumCount) :
    (∀ ts q, (proxyMachine kWakelockTimeoutNs).Run p ts q →
      (∀ t ∈ ts, t.label.isPost = false) →
      iterations ts ≤ p.iterationsLeft ∧
      (q.mPendingWriteEventsQueue = [] ↔ iterations ts = p.iterationsLeft) ∧
      (∀ chunk ∈ attempts ts, chunk.length ≤ p.mEventQueue.quantumCount) ∧
      (attempts ts).flatten <+: p.mPendingWriteEventsQueue.flatMap Prod.fst ∧
      (q.mPendingWriteEventsQueue = [] →
        (attempts ts).flatten = p.mPendingWriteEventsQueue.flatMap Prod.fst ∧
        (p.mSizePendingWriteEventsQueue =
            (p.mPendingWriteEventsQueue.map fun e => e.1.length).sum →
          p.mSizePendingWriteEventsQueue < 2 ^ 64 → q.mSizePendingWriteEventsQueue = 0))) ∧
    ∀ results : List Bool, results.length = p.iterationsLeft →
      ∃ ts q, (proxyMachine kWakelockTimeoutNs).Run p ts q ∧
        (∀ t ∈ ts, t.label.isPost = false) ∧ outcomes ts = results ∧
        q.mPendingWriteEventsQueue = [] := by
  have hempties : ∀ ts q, (proxyMachine kWakelockTimeoutNs).Run p ts q →
      (∀ t ∈ ts, t.label.isPost = false) →
      (q.mPendingWriteEventsQueue = [] ↔ iterations ts = p.iterationsLeft) := by
    intro ts q hrun hquiet
    have hdrained := drained_of_run hrun hquiet hcapacity hne
    have hcount := hdrained.count
    rw [← HalProxy.iterationsLeft_eq_zero_iff (by rw [hdrained.capacity]; exact hcapacity)
      hdrained.nonempty]
    omega
  constructor
  · intro ts q hrun hquiet
    have hdrained := drained_of_run hrun hquiet hcapacity hne
    have hcount := hdrained.count
    have hstream := hdrained.stream
    rw [remaining_of_settled (p := p) (.inl hidle)] at hstream
    refine ⟨by omega, hempties ts q hrun hquiet, hdrained.chunks, ⟨q.remaining, hstream⟩, ?_⟩
    intro hempty
    constructor
    · rw [remaining_of_nil hempty, List.append_nil] at hstream
      exact hstream
    · intro hsize hlt
      rw [(hdrained.size hsize hlt).1, HalProxy.numPending, hempty]
      rfl
  · intro results hlength
    obtain ⟨ts, q, hrun, hquiet, houtcomes, hiterations⟩ :=
      exists_iterations results hidle hcapacity hne hlength.le
    exact ⟨ts, q, hrun, hquiet, houtcomes,
      (hempties ts q hrun hquiet).2 (hiterations.trans hlength)⟩

end

/-- Three events and one are pending, for an event FMQ of two places. -/
def threeAndOne : HalProxy :=
  { HalProxy.init ∅ 2 0 with
    mPendingWriteEventsQueue :=
      [([sampleEvent 1, sampleEvent 2, sampleEvent 3], 0), ([sampleEvent 4], 0)]
    mSizePendingWriteEventsQueue := 4 }

/-- They take three iterations, here with a write that fails. -/
theorem pending_writes_drain_three_and_one :
    ∃ ts q, (proxyMachine 0).Run threeAndOne ts q ∧ outcomes ts = [true, false, true] ∧
      iterations ts = 3 ∧
      (attempts ts).flatten = [sampleEvent 1, sampleEvent 2, sampleEvent 3, sampleEvent 4] ∧
      q.mPendingWriteEventsQueue = [] ∧ q.mSizePendingWriteEventsQueue = 0 := by
  have hall := @pending_writes_drain 0 threeAndOne rfl (by decide) (by decide)
  obtain ⟨ts, q, hrun, hquiet, houtcomes, hempty⟩ := hall.2 [true, false, true] (by decide)
  obtain ⟨-, hiterations, -, -, hend⟩ := hall.1 ts q hrun hquiet
  obtain ⟨hattempts, hsize⟩ := hend hempty
  exact ⟨ts, q, hrun, houtcomes, hiterations.1 hempty, hattempts, hempty,
    hsize rfl (by decide)⟩

end Sensors
