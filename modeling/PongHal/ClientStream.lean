/-
# What a client of the sensors HAL is given (`HalProxy.cpp`, `HalProxyCallback.cpp`)

`initializeCommon` empties the queues, so that the new client is not given the events of
the former one.  But a call of `postEvents` looks at `areThreadsRunning` first and comes to
`postEventsToMessageQueue` later: it may have found the threads of the former client
running and hand its events over once the pending queue was cleared, to be written to the
event FMQ of the new client.

`callbackMachine` is the HAL with the two halves of `postEvents` as two steps.  In
`callback_run_of_multiRun` every run of `multiMachine`, where a post is one step, is found
again among its runs.

`client_stream` : what the client reads is what was handed over since the pending queue was
cleared for it, in that order, and what was handed over was checked since or was then in a
call.  `stale_free_iff` : so the client reads only what was posted since exactly if no call
was then under way.
-/
import PongHal.MultiHal
import PongHal.WakelockAccount

namespace Sensors

/-! ## The two halves of `postEvents` -/

/-- A call of `postEvents` that has found the threads running: what it hands to
`postEventsToMessageQueue`. -/
structure CheckedPost where
  events : List Event
  numWakeupEvents : ℕ
  locked : Bool
  deriving DecidableEq, Repr

/-- The HAL and the calls under way. -/
structure CallbackHal where
  hal : MultiHal
  calls : List CheckedPost

/-- The steps: those of the HAL, and the two halves of a call of `postEvents`. -/
inductive CallbackLabel
  | hal (l : MultiLabel)
  /-- A sub-HAL calls `postEvents`, with the `i`-th locked `ScopedWakelock` or with an
  unlocked one. -/
  | postEvents (subHalIndex : ℕ) (events : List Event) (wakelock : Option ℕ)
  /-- The `k`-th call under way takes the lock; `writeOk` says whether a direct write
  succeeds. -/
  | postEventsToMessageQueue (k : ℕ) (writeOk : Bool)
  deriving DecidableEq, Repr

/-- The step is a whole call of `postEvents`. -/
def MultiLabel.isPost : MultiLabel → Bool
  | .proxy (.postEvents ..) => true
  | _ => false

namespace CallbackHal

/-- What a call will hand over. -/
def checkedPost (s : CallbackHal) (subHalIndex : ℕ) (events : List Event)
    (wakelock : Option ℕ) : CheckedPost :=
  let processed := processEvents s.hal.proxy.mSensors subHalIndex events
  ⟨processed.1, processed.2, wakelock.isSome⟩

/-- One step. -/
def step (kWakelockTimeoutNs : ℤ) (s : CallbackHal) :
    CallbackLabel → Option (CallbackHal × List MultiObservation)
  | .hal l =>
      if l.isPost then none
      else (s.hal.step kWakelockTimeoutNs l).map fun r => ({ s with hal := r.1 }, r.2)
  | .postEvents subHalIndex events wakelock =>
      if s.hal.hasQueues ∧ ∀ i ∈ wakelock, i < s.hal.proxy.scopedWakelocks.length then
        if events.isEmpty ∨ !s.hal.proxy.wakelock.mThreadsRun then some (s, [])
        else
          some ({ s with calls := s.calls ++ [s.checkedPost subHalIndex events wakelock] }, [])
      else none
  | .postEventsToMessageQueue k writeOk =>
      match s.calls[k]? with
      | none => none
      | some c =>
          -- the flag is not looked at again
          let r := s.hal.proxy.postEventsToMessageQueue c.events c.numWakeupEvents c.locked writeOk
          some ({ hal := { s.hal with proxy := r.1 }
                  calls := s.calls.eraseIdx k }, r.2.map .proxy)

end CallbackHal

/-- The machine of the HAL with its callbacks. -/
def callbackMachine (kWakelockTimeoutNs : ℤ) :
    Machine CallbackHal CallbackLabel MultiObservation where
  step := CallbackHal.step kWakelockTimeoutNs

abbrev CallbackTransition := Transition CallbackHal CallbackLabel MultiObservation

variable {kWakelockTimeoutNs : ℤ} {ts ts₁ ts₂ : List CallbackTransition} {s : CallbackHal}

/-- The steps by cases. -/
inductive CallbackStep (kWakelockTimeoutNs : ℤ) : CallbackTransition → Prop
  | hal (t : MultiTransition) (calls : List CheckedPost)
      (hnot : t.label.isPost = false) (hstep : (multiMachine kWakelockTimeoutNs).Takes t) :
      CallbackStep kWakelockTimeoutNs ⟨⟨t.pre, calls⟩, .hal t.label, t.out, ⟨t.post, calls⟩⟩
  | ignored (s : CallbackHal) (subHalIndex : ℕ) (events : List Event) (wakelock : Option ℕ)
      (hignored : events = [] ∨ s.hal.proxy.wakelock.mThreadsRun = false) :
      CallbackStep kWakelockTimeoutNs ⟨s, .postEvents subHalIndex events wakelock, [], s⟩
  | checked (s : CallbackHal) (subHalIndex : ℕ) (events : List Event) (wakelock : Option ℕ)
      (hne : events ≠ []) (hrun : s.hal.proxy.wakelock.mThreadsRun = true) :
      CallbackStep kWakelockTimeoutNs ⟨s, .postEvents subHalIndex events wakelock, [],
        { s with calls := s.calls ++ [s.checkedPost subHalIndex events wakelock] }⟩
  | handed (s : CallbackHal) (k : ℕ) (writeOk : Bool) (c : CheckedPost) (p : HalProxy)
      (seen : List Observation) (hk : s.calls[k]? = some c)
      (hpost : s.hal.proxy.postEventsToMessageQueue c.events c.numWakeupEvents c.locked writeOk =
        (p, seen)) :
      CallbackStep kWakelockTimeoutNs ⟨s, .postEventsToMessageQueue k writeOk, seen.map .proxy,
        ⟨{ s.hal with proxy := p }, s.calls.eraseIdx k⟩⟩

theorem callbackStep_of_takes {t : CallbackTransition}
    (h : (callbackMachine kWakelockTimeoutNs).Takes t) : CallbackStep kWakelockTimeoutNs t := by
  obtain ⟨s, l, out, s'⟩ := t
  have hstep : s.step kWakelockTimeoutNs l = some (s', out) := h
  cases l with
  | hal l =>
      simp only [CallbackHal.step, Option.ite_none_left_eq_some, Option.map_eq_some_iff] at hstep
      obtain ⟨hnot, ⟨q, seen⟩, hhal, hr⟩ := hstep
      obtain ⟨rfl, rfl⟩ := Prod.mk.inj hr
      exact .hal ⟨s.hal, l, seen, q⟩ s.calls (Bool.not_eq_true _ ▸ hnot) hhal
  | postEvents subHalIndex events wakelock =>
      simp only [CallbackHal.step, Option.ite_none_right_eq_some] at hstep
      obtain ⟨-, hstep⟩ := hstep
      split at hstep
      · rename_i hignored
        simp only [Option.some.injEq, Prod.mk.injEq] at hstep
        obtain ⟨rfl, rfl⟩ := hstep
        exact .ignored s subHalIndex events wakelock (by simpa using hignored)
      · rename_i hchecked
        simp only [Option.some.injEq, Prod.mk.injEq] at hstep
        obtain ⟨rfl, rfl⟩ := hstep
        simp only [not_or, Bool.not_eq_true, Bool.not_eq_false', List.isEmpty_eq_false_iff]
          at hchecked
        exact .checked s subHalIndex events wakelock hchecked.1 hchecked.2
  | postEventsToMessageQueue k writeOk =>
      simp only [CallbackHal.step] at hstep
      split at hstep
      · cases hstep
      · rename_i c hk
        simp only [Option.some.injEq, Prod.mk.injEq] at hstep
        obtain ⟨rfl, rfl⟩ := hstep
        exact .handed s k writeOk c _ _ hk rfl

/-! ## A post as one step

Between its two halves a call may stand for as long as it likes; where it does not stand at
all it is a step of `multiMachine`.
-/

/-- A step of the HAL is one of the callbacks' machine, or a call of `postEvents` whose two
halves follow each other. -/
theorem callback_run_of_takes {t : MultiTransition}
    (h : (multiMachine kWakelockTimeoutNs).Takes t) :
    ∃ ts', (callbackMachine kWakelockTimeoutNs).Run ⟨t.pre, []⟩ ts' ⟨t.post, []⟩ ∧
      ts'.flatMap (·.out) = t.out.filterMap some := by
  rw [List.filterMap_some]
  by_cases hpost : t.label.isPost = true
  · obtain ⟨p, l, out, p'⟩ := t
    have hstep : p.step kWakelockTimeoutNs l = some (p', out) := h
    obtain ⟨subHalIndex, events, wakelock, writeOk, rfl⟩ :
        ∃ i events wakelock writeOk, l = .proxy (.postEvents i events wakelock writeOk) := by
      cases l with
      | proxy l =>
          cases l with
          | postEvents i events wakelock writeOk => exact ⟨i, events, wakelock, writeOk, rfl⟩
          | _ => cases hpost
      | _ => cases hpost
    simp only [MultiHal.step, Option.ite_none_right_eq_some, Option.map_eq_some_iff] at hstep
    obtain ⟨hcan, ⟨q, seen⟩, hproxy, hr⟩ := hstep
    obtain ⟨rfl, rfl⟩ := Prod.mk.inj hr
    have hqueues : p.hasQueues = true := hcan
    have hlive : ∀ i ∈ wakelock, i < p.proxy.scopedWakelocks.length := by
      intro i hi
      cases hi
      simp only [HalProxy.step, Option.ite_none_right_eq_some] at hproxy
      exact hproxy.1
    have hcall : p.proxy.postEvents subHalIndex events wakelock.isSome writeOk = (q, seen) := by
      cases wakelock with
      | none => exact Option.some.inj hproxy
      | some i =>
          simp only [HalProxy.step, Option.ite_none_right_eq_some] at hproxy
          exact Option.some.inj hproxy.2
    rw [HalProxy.postEvents] at hcall
    split at hcall
    · -- the call returns at once
      rename_i hignored
      obtain ⟨rfl, rfl⟩ := Prod.mk.inj hcall
      refine ⟨[] ++ [⟨⟨p, []⟩, .postEvents subHalIndex events wakelock, [], ⟨p, []⟩⟩],
        .next .start ?_, rfl⟩
      exact (if_pos ⟨hqueues, hlive⟩).trans (if_pos hignored)
    · rename_i hchecked
      let c := (⟨p, []⟩ : CallbackHal).checkedPost subHalIndex events wakelock
      refine ⟨[] ++ [⟨⟨p, []⟩, .postEvents subHalIndex events wakelock, [], ⟨p, [c]⟩⟩] ++
        [⟨⟨p, [c]⟩, .postEventsToMessageQueue 0 writeOk, seen.map .proxy,
          ⟨{ p with proxy := q }, []⟩⟩], .next (.next .start ?_) ?_, by simp⟩
      · exact (if_pos ⟨hqueues, hlive⟩).trans (if_neg hchecked)
      · have hhanded : p.proxy.postEventsToMessageQueue c.events c.numWakeupEvents c.locked
            writeOk = (q, seen) := hcall
        simp [callbackMachine, CallbackHal.step, hhanded]
  · refine ⟨[] ++ [⟨⟨t.pre, []⟩, .hal t.label, t.out, ⟨t.post, []⟩⟩], .next .start ?_, by simp⟩
    have hhal : t.pre.step kWakelockTimeoutNs t.label = some (t.post, t.out) := h
    simp [callbackMachine, CallbackHal.step, hpost, hhal]

/-- What happens to the HAL with posts in one step can happen with posts in two. -/
theorem callback_run_of_multiRun {p p' : MultiHal} {us : List MultiTransition}
    (hrun : (multiMachine kWakelockTimeoutNs).Run p us p') :
    ∃ ts', (callbackMachine kWakelockTimeoutNs).Run ⟨p, []⟩ ts' ⟨p', []⟩ ∧
      ts'.flatMap (·.out) = us.flatMap (·.out) := by
  obtain ⟨ts', hrun', hout⟩ := hrun.simulate (G := fun _ => True)
    (f := fun p => (⟨p, []⟩ : CallbackHal)) (g := some)
    (fun t hstep _ => callback_run_of_takes hstep) (fun _ _ => trivial)
  exact ⟨ts', hrun', hout.trans (List.filterMap_some)⟩

/-! ## The stream of a client -/

/-- What can be seen of the proxy. -/
def MultiObservation.ofProxy : MultiObservation → Option Observation
  | .proxy seen => some seen
  | _ => none

/-- The events still to be written to the event FMQ. -/
def CallbackHal.unwritten (s : CallbackHal) : List Event := s.hal.proxy.remaining

/-- The events in the event FMQ, and behind them those still to be written. -/
def CallbackHal.undelivered (s : CallbackHal) : List Event := s.hal.proxy.queued ++ s.unwritten

namespace CallbackTransition

/-- The events handed to `postEventsToMessageQueue`. -/
def handed (t : CallbackTransition) : List Event :=
  (t.out.filterMap MultiObservation.ofProxy).flatMap Observation.postedEvents

/-- The events the client reads. -/
def read (t : CallbackTransition) : List Event :=
  (t.out.filterMap MultiObservation.ofProxy).flatMap Observation.readEvents

/-- The events written to the event FMQ. -/
def written (t : CallbackTransition) : List Event :=
  (t.out.filterMap MultiObservation.ofProxy).flatMap Observation.writtenEvents

/-- The events that `initializeCommon` clears before they were written. -/
def cleared (t : CallbackTransition) : List Event :=
  match t.label with
  | .hal .clearPendingWrites => t.pre.unwritten
  | _ => []

/-- The events lost on their way to the event FMQ: cleared, refused, or dropped after a
failed write. -/
def lostPending (t : CallbackTransition) : List Event :=
  t.cleared ++ (t.out.filterMap MultiObservation.ofProxy).flatMap Observation.lostEvents

/-- The events that `initializeCommon` throws away with the event FMQ or out of it. -/
def lostQueued (t : CallbackTransition) : List Event :=
  match t.label with
  | .hal .initializeCommon | .hal (.exchangeQueues _) => t.pre.hal.proxy.queued
  | _ => []

/-- The events lost. -/
def lost (t : CallbackTransition) : List Event := t.lostQueued ++ t.lostPending

/-- The batch of a call that has found the threads running. -/
def checkedBatch (t : CallbackTransition) : List (List Event) :=
  match t.label with
  | .postEvents subHalIndex events wakelock =>
      if events.isEmpty ∨ !t.pre.hal.proxy.wakelock.mThreadsRun then []
      else [(t.pre.checkedPost subHalIndex events wakelock).events]
  | _ => []

/-- The batch of a call that has handed it over. -/
def handedBatch (t : CallbackTransition) : List (List Event) :=
  match t.label with
  | .postEventsToMessageQueue k _ => (t.pre.calls[k]?.map CheckedPost.events).toList
  | _ => []

end CallbackTransition

/-- The events the client has read in a run. -/
def eventsRead (ts : List CallbackTransition) : List Event := ts.flatMap CallbackTransition.read

/-- The batches that came into a call in a run. -/
def checkedBatches (ts : List CallbackTransition) : List (List Event) :=
  ts.flatMap CallbackTransition.checkedBatch

/-- The batches that were handed over in a run. -/
def handedBatches (ts : List CallbackTransition) : List (List Event) :=
  ts.flatMap CallbackTransition.handedBatch

/-- The batches of the calls under way. -/
def CallbackHal.batches (s : CallbackHal) : List (List Event) := s.calls.map CheckedPost.events

theorem filterMap_ofProxy_map (seen : List Observation) :
    (seen.map MultiObservation.proxy).filterMap MultiObservation.ofProxy = seen := by
  rw [List.filterMap_map]
  exact List.filterMap_some

/-! ## One step -/

theorem mThreadsRun_postEventsToMessageQueue (p : HalProxy) (es : List Event) (num : ℕ)
    (locked writeOk : Bool) :
    (p.postEventsToMessageQueue es num locked writeOk).1.wakelock.mThreadsRun =
      p.wakelock.mThreadsRun := by
  rw [p.wakelock_postEventsToMessageQueue]
  split
  · exact SharedWakelock.mThreadsRun_increment
  · rfl

theorem HalProxy.writer_postEventsToMessageQueue (p : HalProxy) (es : List Event) (num : ℕ)
    (locked writeOk : Bool) :
    (p.postEventsToMessageQueue es num locked writeOk).1.writer = p.writer := by
  rcases p.postEventsToMessageQueue_cases es num locked writeOk
    with ⟨-, hcase⟩ | ⟨-, hcase⟩ | ⟨-, hcase⟩ <;>
  · rw [hcase]
    rfl

/-- The pending-writes thread is busy only with an entry, is idle once it has ended, and
has ended before anything is cleared. -/
structure MultiHal.WriterFits (p : MultiHal) : Prop where
  busy : p.proxy.Busy
  ended : p.mPendingWritesThread = false → p.proxy.writer = .idle
  joined : p.initializing = .cleared ∨ p.initializing = .exchanged →
    p.mPendingWritesThread = false

/-- Only the thread itself changes where it is. -/
theorem writer_of_ended {p : MultiHal} {t : ProxyTransition}
    (h : (proxyMachine kWakelockTimeoutNs).Takes t)
    (hnot : (MultiLabel.proxy t.label).isPost = false) (hcan : p.canTake t.label = true)
    (hended : p.mPendingWritesThread = false) : t.post.writer = t.pre.writer := by
  cases proxyStep_of_takes h with
  | posted | ignored => cases hnot
  | selected | wrote | failed | gaveBack | committed => simp [MultiHal.canTake, hended] at hcan
  | _ => rfl

theorem writerFits_multiStep {t : MultiTransition} (h : (multiMachine kWakelockTimeoutNs).Takes t)
    (hnot : t.label.isPost = false) (hpre : t.pre.WriterFits) : t.post.WriterFits := by
  cases multiStep_of_takes h with
  | proxy p t hproxy hcan hstep =>
      refine ⟨?_, fun hended => ?_, hpre.joined⟩
      · have hbusy := hpre.busy
        rw [show p.proxy = t.pre from hproxy.symm] at hbusy
        exact busy_step hstep hbusy
      · rw [writer_of_ended hstep hnot hcan hended, hproxy]
        exact hpre.ended hended
  | called p hno => exact ⟨hpre.busy, hpre.ended, by simp [MultiHal.stopThreads]⟩
  | pendingWritesThreadEnded p hidle => exact ⟨hpre.busy, fun _ => hidle, fun _ => rfl⟩
  | cleared p hstopped hjoined =>
      refine ⟨fun hne => absurd (hpre.ended hjoined) hne, hpre.ended, fun _ => hjoined⟩
  | exchanged p quantumCount hcleared =>
      exact ⟨hpre.busy, hpre.ended, fun _ => hpre.joined (.inl hcleared)⟩
  | threadsStarted p hexchanged =>
      exact ⟨fun hne => absurd rfl hne, fun _ => rfl, by simp [MultiHal.startThreads]⟩
  | returned p hsubHals => exact ⟨hpre.busy, hpre.ended, by simp⟩
  | setOperationMode | connected | disconnected | wakelockThreadEnded =>
      exact ⟨hpre.busy, hpre.ended, hpre.joined⟩

theorem writerFits_callbackStep {t : CallbackTransition}
    (h : (callbackMachine kWakelockTimeoutNs).Takes t) (hpre : t.pre.hal.WriterFits) :
    t.post.hal.WriterFits := by
  cases callbackStep_of_takes h with
  | hal t calls hnot hstep => exact writerFits_multiStep hstep hnot hpre
  | ignored | checked => exact hpre
  | handed s k writeOk c p seen hk hpost =>
      have hbusy := busy_post hpre.busy c.events c.numWakeupEvents c.locked writeOk
      have hwriter := s.hal.proxy.writer_postEventsToMessageQueue c.events c.numWakeupEvents
        c.locked writeOk
      rw [hpost] at hbusy hwriter
      exact ⟨hbusy, fun hended => hwriter.trans (hpre.ended hended), hpre.joined⟩

namespace CallbackTransition

/-- What a step does to the events on their way to the event FMQ. -/
def Pends (t : CallbackTransition) : Prop :=
  Machine.StreamStep t.pre.unwritten t.handed t.written t.lostPending t.post.unwritten

/-- What a step does to the events in the event FMQ. -/
def Queues (t : CallbackTransition) : Prop :=
  Machine.StreamStep t.pre.hal.proxy.queued t.written t.read t.lostQueued
    t.post.hal.proxy.queued

/-- What a step does to the stream of events to the client. -/
def Delivers (t : CallbackTransition) : Prop :=
  Machine.StreamStep t.pre.undelivered t.handed t.read t.lost t.post.undelivered

end CallbackTransition

/-- A step of the proxy alone. -/
theorem pends_of_proxy {t : CallbackTransition} {u : ProxyTransition}
    (hpre : t.pre.hal.proxy = u.pre) (hout : t.out = u.out.map .proxy)
    (hpost : t.post.hal.proxy = u.post) (hcleared : t.cleared = []) (hstreams : u.Streams) :
    t.Pends := by
  rw [CallbackTransition.Pends, CallbackHal.unwritten, CallbackHal.unwritten, hpre, hpost,
    CallbackTransition.handed,
    CallbackTransition.written, CallbackTransition.lostPending, hout, filterMap_ofProxy_map,
    hcleared]
  exact hstreams

theorem pends_of_kept {t : CallbackTransition} (hhanded : t.handed = [])
    (hwritten : t.written = []) (hlost : t.lostPending = [])
    (hkept : t.post.unwritten = t.pre.unwritten) : t.Pends := by
  rw [CallbackTransition.Pends, hhanded, hwritten, hlost, hkept]
  exact .quiet _

theorem queues_of_proxy {t : CallbackTransition} {u : ProxyTransition}
    (hpre : t.pre.hal.proxy = u.pre) (hout : t.out = u.out.map .proxy)
    (hpost : t.post.hal.proxy = u.post) (hlost : t.lostQueued = [])
    (hqueue : Machine.StreamStep u.pre.queued u.written u.read [] u.post.queued) : t.Queues := by
  rw [CallbackTransition.Queues, hpre, hpost, CallbackTransition.written,
    CallbackTransition.read, hout, filterMap_ofProxy_map, hlost]
  exact hqueue

/-- Where the thread is idle, what remains to be written does not depend on the queues. -/
theorem remaining_congr {p q : HalProxy} (hp : p.writer = .idle) (hq : q.writer = .idle)
    (hpending : q.mPendingWriteEventsQueue = p.mPendingWriteEventsQueue) :
    q.remaining = p.remaining := by
  rw [remaining_of_settled (.inl hp), remaining_of_settled (.inl hq), hpending]

/-- What a step writes and what is then still to be written was to be written before or has
been handed over. -/
theorem pends_of_takes {t : CallbackTransition}
    (h : (callbackMachine kWakelockTimeoutNs).Takes t) (hfits : t.pre.hal.WriterFits) :
    t.Pends := by
  cases callbackStep_of_takes h with
  | hal t calls hnot hstep =>
      cases multiStep_of_takes hstep with
      | proxy p u hpre hcan hproxy =>
          have hbusy : u.pre.Busy := by
            rw [hpre]
            exact hfits.busy
          exact pends_of_proxy hpre.symm rfl rfl rfl (streams_of_takes hproxy hbusy)
      | cleared p hstopped hjoined =>
          have hlose : Machine.StreamStep p.proxy.remaining [] [] (p.proxy.remaining ++ []) [] := by
            rw [List.append_nil]
            exact .loseAll p.proxy.remaining
          exact hlose
      | exchanged p quantumCount hcleared =>
          have hidle := hfits.ended (hfits.joined (.inl hcleared))
          exact pends_of_kept rfl rfl rfl (remaining_congr hidle hidle rfl)
      | threadsStarted p hexchanged =>
          have hidle := hfits.ended (hfits.joined (.inr hexchanged))
          exact pends_of_kept rfl rfl rfl (remaining_congr hidle rfl rfl)
      | setOperationMode | connected | disconnected | called | pendingWritesThreadEnded
      | wakelockThreadEnded | returned => exact pends_of_kept rfl rfl rfl rfl
  | ignored | checked => exact pends_of_kept rfl rfl rfl rfl
  | handed s k writeOk c p seen hk hpost =>
      let u : ProxyTransition :=
        ⟨s.hal.proxy, .postEvents 0 c.events none writeOk, seen, p⟩
      exact pends_of_proxy (u := u) rfl rfl rfl rfl
        (streams_post hfits.busy c.events c.numWakeupEvents c.locked writeOk hpost)

/-- What the client reads and what is then in the event FMQ was in it before or has been
written. -/
theorem queues_of_takes {t : CallbackTransition}
    (h : (callbackMachine kWakelockTimeoutNs).Takes t) : t.Queues := by
  cases callbackStep_of_takes h with
  | hal t calls hnot hstep =>
      cases multiStep_of_takes hstep with
      | proxy p u hpre hcan hproxy =>
          exact queues_of_proxy hpre.symm rfl rfl rfl (queue_streams hproxy)
      | called p hno => exact .loseAll p.proxy.queued
      | exchanged p quantumCount hcleared => exact .loseAll p.proxy.queued
      | setOperationMode | connected | disconnected | pendingWritesThreadEnded
      | wakelockThreadEnded | cleared | threadsStarted | returned => exact .quiet _
  | ignored | checked => exact .quiet _
  | handed s k writeOk c p seen hk hpost =>
      let u : ProxyTransition :=
        ⟨s.hal.proxy, .postEvents 0 c.events none writeOk, seen, p⟩
      exact queues_of_proxy (u := u) rfl rfl rfl rfl
        (queue_streams_post c.events c.numWakeupEvents c.locked writeOk hpost)

/-- **The step of the stream.**  What a step gives the client and then still has for it was
there before or has been handed over, in this order; with what is lost that is everything. -/
theorem delivers_of_takes {t : CallbackTransition}
    (h : (callbackMachine kWakelockTimeoutNs).Takes t) (hfits : t.pre.hal.WriterFits) :
    t.Delivers :=
  (pends_of_takes h hfits).comp (queues_of_takes h)

/-- A batch comes into a call with the check and leaves it with the hand-over. -/
theorem batches_of_takes {t : CallbackTransition}
    (h : (callbackMachine kWakelockTimeoutNs).Takes t) :
    (t.handedBatch ++ t.post.batches).Perm (t.pre.batches ++ t.checkedBatch) := by
  cases callbackStep_of_takes h with
  | hal t calls hnot hstep => simp [CallbackTransition.handedBatch,
      CallbackTransition.checkedBatch, CallbackHal.batches]
  | ignored s subHalIndex events wakelock hignored =>
      simp [CallbackTransition.handedBatch, CallbackTransition.checkedBatch, CallbackHal.batches,
        hignored]
  | checked s subHalIndex events wakelock hne hrun =>
      simp [CallbackTransition.handedBatch, CallbackTransition.checkedBatch, CallbackHal.batches,
        hne, hrun]
  | handed s k writeOk c p seen hk hpost =>
      obtain ⟨hlt, rfl⟩ := List.getElem?_eq_some_iff.1 hk
      have hperm := (List.getElem_cons_eraseIdx_perm hlt).map CheckedPost.events
      simpa [CallbackTransition.handedBatch, CallbackTransition.checkedBatch,
        CallbackHal.batches, hk] using hperm

/-- What a step hands over is the batch of the call. -/
theorem handed_of_takes {t : CallbackTransition}
    (h : (callbackMachine kWakelockTimeoutNs).Takes t) : t.handed = t.handedBatch.flatten := by
  cases callbackStep_of_takes h with
  | hal t calls hnot hstep =>
      cases multiStep_of_takes hstep with
      | proxy p u hpre hcan hproxy =>
          rw [CallbackTransition.handed, filterMap_ofProxy_map]
          cases proxyStep_of_takes hproxy with
          | posted | ignored => cases hnot
          | _ => rfl
      | _ => rfl
  | ignored | checked => rfl
  | handed s k writeOk c p seen hk hpost =>
      have hall := postedEvents_post s.hal.proxy c.events c.numWakeupEvents c.locked writeOk
      rw [hpost] at hall
      rw [CallbackTransition.handed, filterMap_ofProxy_map, hall, CallbackTransition.handedBatch]
      simp [hk]

/-! ## The run of a client -/

theorem handed_of_run {s₀ : CallbackHal}
    (hrun : (callbackMachine kWakelockTimeoutNs).Run s₀ ts s) :
    ts.flatMap CallbackTransition.handed = (handedBatches ts).flatten := by
  refine hrun.history (I := fun ts _ =>
    ts.flatMap CallbackTransition.handed = (handedBatches ts).flatten) rfl ?_
  intro ts t _ hstep ih
  simp only [handedBatches, List.flatMap_append, List.flatMap_singleton, List.flatten_append] at *
  rw [ih, handed_of_takes hstep]

/-- What was in the calls and came into them was handed over or is there still. -/
theorem batches_of_run {s₀ : CallbackHal}
    (hrun : (callbackMachine kWakelockTimeoutNs).Run s₀ ts s) :
    (handedBatches ts ++ s.batches).Perm (s₀.batches ++ checkedBatches ts) := by
  refine hrun.history (I := fun ts s =>
    (handedBatches ts ++ s.batches).Perm (s₀.batches ++ checkedBatches ts)) ?_ ?_
  · simp [handedBatches, checkedBatches]
  · intro ts t _ hstep ih
    have hone := batches_of_takes hstep
    simp only [handedBatches, checkedBatches, List.flatMap_append, List.flatMap_singleton,
      ← List.append_assoc] at ih ⊢
    rw [List.append_assoc]
    refine (hone.append_left _).trans ?_
    rw [← List.append_assoc]
    exact ih.append_right _

theorem writerFits_of_run {s₀ : CallbackHal} (hfits : s₀.hal.WriterFits)
    (hrun : (callbackMachine kWakelockTimeoutNs).Run s₀ ts s) : s.hal.WriterFits :=
  hrun.invariant (I := fun s => s.hal.WriterFits) hfits
    fun _ hstep hpre => writerFits_callbackStep hstep hpre

/-- What is still to be written was so before or has been handed over. -/
theorem unwritten_of_run {s₀ : CallbackHal} (hfits : s₀.hal.WriterFits)
    (hrun : (callbackMachine kWakelockTimeoutNs).Run s₀ ts s) :
    s.unwritten.Sublist (s₀.unwritten ++ (handedBatches ts).flatten) := by
  have hsteps : ∀ (ts : List CallbackTransition) (t : CallbackTransition),
      (callbackMachine kWakelockTimeoutNs).Run s₀ ts t.pre →
      (callbackMachine kWakelockTimeoutNs).Takes t → t.Pends :=
    fun _ _ hbefore hstep => pends_of_takes hstep (writerFits_of_run hfits hbefore)
  have hsub : (ts.flatMap CallbackTransition.written ++ s.unwritten).Sublist
      (s₀.unwritten ++ ts.flatMap CallbackTransition.handed) := hrun.sublist_of_steps hsteps
  rw [handed_of_run hrun] at hsub
  exact (List.sublist_append_right _ _).trans hsub

/-- The stream to the client from a state on. -/
theorem delivers_of_run {s₀ : CallbackHal} (hfits : s₀.hal.WriterFits)
    (hrun : (callbackMachine kWakelockTimeoutNs).Run s₀ ts s) :
    (eventsRead ts ++ s.undelivered).Sublist (s₀.undelivered ++ (handedBatches ts).flatten) ∧
      (eventsRead ts ++ s.undelivered = s₀.undelivered ++ (handedBatches ts).flatten ↔
        ∀ t ∈ ts, t.lost = []) := by
  have hsteps : ∀ (ts : List CallbackTransition) (t : CallbackTransition),
      (callbackMachine kWakelockTimeoutNs).Run s₀ ts t.pre →
      (callbackMachine kWakelockTimeoutNs).Takes t → t.Delivers :=
    fun _ _ hbefore hstep => delivers_of_takes hstep (writerFits_of_run hfits hbefore)
  have hsub : (ts.flatMap CallbackTransition.read ++ s.undelivered).Sublist
      (s₀.undelivered ++ ts.flatMap CallbackTransition.handed) := hrun.sublist_of_steps hsteps
  have hall : ts.flatMap CallbackTransition.read ++ s.undelivered =
      s₀.undelivered ++ ts.flatMap CallbackTransition.handed ↔ ∀ t ∈ ts, t.lost = [] :=
    hrun.append_eq_iff_of_steps hsteps
  rw [handed_of_run hrun] at hsub hall
  exact ⟨hsub, hall⟩

/-- The proxy with its callbacks, just constructed. -/
def CallbackHal.construct (mSubHalList : List SubHal) (now : ℕ) : CallbackHal :=
  ⟨.construct mSubHalList now, []⟩

variable {mSubHalList : List SubHal} {now quantumCount : ℕ} {between : List CallbackTransition}
  {t u : CallbackTransition}

/-- When the queues are exchanged all that is there for the client is what is pending. -/
theorem undelivered_of_exchanged (hstep : (callbackMachine kWakelockTimeoutNs).Takes t)
    (hfits : t.pre.hal.WriterFits) (ht : t.label = .hal (.exchangeQueues quantumCount)) :
    t.post.undelivered = t.pre.unwritten ∧ t.handedBatch = [] ∧ t.checkedBatch = [] := by
  have hpends := pends_of_takes hstep hfits
  cases callbackStep_of_takes hstep with
  | hal t calls hnot hhal =>
      cases multiStep_of_takes hhal with
      | exchanged p quantumCount' hcleared =>
          have hkept : [] ++ (p.exchangeQueues quantumCount').proxy.remaining =
              p.proxy.remaining ++ [] := hpends.eq_of_lossless
          exact ⟨hkept.trans (List.append_nil _), rfl, rfl⟩
      | _ => cases ht
  | _ => cases ht

/-- When the pending queue is cleared nothing is still to be written. -/
theorem unwritten_of_cleared (hstep : (callbackMachine kWakelockTimeoutNs).Takes t)
    (ht : t.label = .hal .clearPendingWrites) :
    t.post.unwritten = [] ∧ t.post.hal.proxy.mPendingWriteEventsQueue = [] ∧
      t.post.calls = t.pre.calls ∧ t.post.hal.initializing = .cleared := by
  cases callbackStep_of_takes hstep with
  | hal t calls hnot hhal =>
      cases multiStep_of_takes hhal with
      | cleared p hstopped hjoined => exact ⟨rfl, rfl, rfl, rfl⟩
      | _ => cases ht
  | _ => cases ht

theorem writerFits_construct :
    (CallbackHal.construct mSubHalList now).hal.WriterFits :=
  ⟨fun hne => absurd rfl hne, fun _ => rfl, fun _ => rfl⟩

/-- **What a client is given.**  Take any run, one of its exchanges of the queues, and a
clearing of the pending queue before it.  What the client has read since the exchange, what
is in the event FMQ and what is still to be written are events handed to
`postEventsToMessageQueue` since the clearing, in that order; they are all that was pending
at the exchange and was handed over since exactly if none was refused, dropped, or thrown
away by a later `initialize`.  The batches handed over since the clearing, with those of the
calls now under way, are those that have come into a call since and those of the calls that
were then under way. -/
theorem client_stream
    (hrun : (callbackMachine kWakelockTimeoutNs).Run (.construct mSubHalList now)
      (ts₁ ++ t :: (between ++ u :: ts₂)) s)
    (ht : t.label = .hal .clearPendingWrites) (hu : u.label = .hal (.exchangeQueues quantumCount)) :
    (eventsRead ts₂ ++ s.undelivered).Sublist (handedBatches (between ++ ts₂)).flatten ∧
      (eventsRead ts₂ ++ s.undelivered = u.pre.unwritten ++ (handedBatches ts₂).flatten ↔
        ∀ t' ∈ ts₂, t'.lost = []) ∧
      (handedBatches (between ++ ts₂) ++ s.batches).Perm
        (t.pre.batches ++ checkedBatches (between ++ ts₂)) := by
  obtain ⟨hbefore, hclear, hafter⟩ := hrun.of_append_cons
  obtain ⟨hbetween, hexchange, hclient⟩ := hafter.of_append_cons
  obtain ⟨hnothing, -, hcalls, -⟩ := unwritten_of_cleared hclear ht
  have hfits := writerFits_callbackStep hclear (writerFits_of_run writerFits_construct hbefore)
  have hfits' := writerFits_of_run hfits hbetween
  obtain ⟨hstart, hnone, hnone'⟩ := undelivered_of_exchanged hexchange hfits' hu
  obtain ⟨hsub, hall⟩ := delivers_of_run (writerFits_callbackStep hexchange hfits') hclient
  rw [hstart] at hsub hall
  refine ⟨?_, hall, ?_⟩
  · have hleft := unwritten_of_run hfits hbetween
    rw [hnothing, List.nil_append] at hleft
    rw [handedBatches, List.flatMap_append, List.flatten_append]
    exact hsub.trans (hleft.append_right _)
  · have hperm := batches_of_run hafter
    simp only [handedBatches, checkedBatches, List.flatMap_append, List.flatMap_cons, hnone,
      hnone', List.nil_append] at hperm ⊢
    rwa [CallbackHal.batches, CallbackHal.batches, hcalls] at hperm

/-- The first client leaves an event in the event FMQ and one pending, and a call has found
its threads running.  It hands two events over before the queues are exchanged: one goes with
the former queue, and the second client reads the other. -/
theorem client_stream_second :
    ∃ (ts₁ : List CallbackTransition) (t : CallbackTransition)
      (between : List CallbackTransition) (u : CallbackTransition)
      (ts₂ : List CallbackTransition) (s : CallbackHal),
      (callbackMachine 1000).Run (.construct [] 0) (ts₁ ++ t :: (between ++ u :: ts₂)) s ∧
      t.label = .hal .clearPendingWrites ∧ t.pre.batches.length = 1 ∧
      (eventsRead ts₂).length = 1 ∧
      (eventsRead ts₂ ++ s.undelivered).Sublist (handedBatches (between ++ ts₂)).flatten := by
  obtain ⟨ts, s, hrun, t, ht, hclear, hcalls, u, hu, hexchange, hread⟩ :
      ∃ (ts : List CallbackTransition) (s : CallbackHal),
        (callbackMachine 1000).Run (.construct [] 0) ts s ∧
        ∃ t ∈ ts[11]?, t.label = .hal .clearPendingWrites ∧ t.pre.batches.length = 1 ∧
          ∃ u ∈ (ts.drop 12)[1]?, u.label = .hal (.exchangeQueues 4) ∧
            (eventsRead ((ts.drop 12).drop 2)).length = 1 :=
    Machine.exists_run_of_exec
      [.hal .initializeCommon, .hal .clearPendingWrites, .hal (.exchangeQueues 1),
        .hal .startThreads, .hal .initialized, .postEvents 0 [sampleEvent 1, sampleEvent 2] none,
        .postEventsToMessageQueue 0 true, .postEvents 0 [sampleEvent 3, sampleEvent 4] none,
        .hal .initializeCommon, .hal .wakelockThreadEnds, .hal .pendingWritesThreadEnds,
        .hal .clearPendingWrites, .postEventsToMessageQueue 0 true, .hal (.exchangeQueues 4),
        .hal .startThreads, .hal (.proxy .select), .hal (.proxy (.writeBlocking true)),
        .hal (.proxy (.read 1))] (by decide)
  rw [Machine.split_of_getElem? ht, Machine.split_of_getElem? hu] at hrun
  exact ⟨_, t, _, u, _, s, hrun, hclear, hcalls, hread, (client_stream hrun hclear hexchange).1⟩

/-! ## Whose events the client reads -/

/-- A call with events, under way when the queues have been exchanged, can hand one of them
to the client. -/
theorem exists_stale_read (hqueue : s.hal.proxy.mEventQueue = ⟨quantumCount, []⟩)
    (hpos : 0 < quantumCount) (hpending : s.hal.proxy.mPendingWriteEventsQueue = [])
    (hqueues : s.hal.hasQueues = true) {c : CheckedPost} (hc : c ∈ s.calls)
    (hne : c.events ≠ []) :
    ∃ ts s', (callbackMachine kWakelockTimeoutNs).Run s ts s' ∧ checkedBatches ts = [] ∧
      eventsRead ts ≠ [] := by
  obtain ⟨k, hk⟩ := List.mem_iff_getElem?.1 hc
  obtain ⟨event, rest, hevents⟩ := List.exists_cons_of_ne_nil hne
  -- the event FMQ is empty, so that the first event at least is written directly
  have hwrite : 0 < s.hal.proxy.numToWrite c.events true := by
    rw [HalProxy.numToWrite, if_pos (by simp [hpending]), hevents]
    simp only [EventQueue.availableToWrite, hqueue, List.length_cons, List.length_nil]
    omega
  obtain ⟨p, seen, hpost⟩ :
      ∃ p seen, s.hal.proxy.postEventsToMessageQueue c.events c.numWakeupEvents c.locked true =
        (p, seen) := ⟨_, _, rfl⟩
  have hcontents : p.mEventQueue.contents.length ≠ 0 := by
    have hcontents : p.mEventQueue.contents =
        s.hal.proxy.mEventQueue.contents ++
          c.events.take (s.hal.proxy.numToWrite c.events true) := by
      rcases s.hal.proxy.postEventsToMessageQueue_cases c.events c.numWakeupEvents c.locked true
        with ⟨-, hcase⟩ | ⟨-, hcase⟩ | ⟨-, hcase⟩ <;>
      · obtain ⟨rfl, -⟩ := Prod.mk.inj (hpost.symm.trans hcase)
        rfl
    rw [hcontents, hevents, List.length_append, List.length_take, List.length_cons]
    rw [hevents] at hwrite
    omega
  let s₁ : CallbackHal := ⟨{ s.hal with proxy := p }, s.calls.eraseIdx k⟩
  let s₂ : CallbackHal :=
    ⟨{ s.hal with
        proxy := { p with mEventQueue := { p.mEventQueue with
          contents := p.mEventQueue.contents.drop 1 } } }, s.calls.eraseIdx k⟩
  have hhanded : (callbackMachine kWakelockTimeoutNs).Takes
      ⟨s, .postEventsToMessageQueue k true, seen.map .proxy, s₁⟩ := by
    show s.step kWakelockTimeoutNs (.postEventsToMessageQueue k true) = some (s₁, seen.map .proxy)
    rw [CallbackHal.step, hk]
    simp only [hpost]
    rfl
  have hreads : (callbackMachine kWakelockTimeoutNs).Takes
      ⟨s₁, .hal (.proxy (.read 1)), [.proxy (.read (p.mEventQueue.contents.take 1))], s₂⟩ := by
    show s₁.step kWakelockTimeoutNs (.hal (.proxy (.read 1))) = some (s₂, _)
    have hcan : s₁.hal.canTake (.read 1) = true := hqueues
    have hone : 1 ≤ p.mEventQueue.contents.length := by omega
    simp [CallbackHal.step, MultiLabel.isPost, MultiHal.step, hcan, HalProxy.step, s₁, s₂, hone]
  refine ⟨_, s₂, .next (.next .start hhanded) hreads, by simp [checkedBatches,
    CallbackTransition.checkedBatch], ?_⟩
  have hfirst : p.mEventQueue.contents.take 1 ≠ [] := by
    rw [ne_eq, List.take_eq_nil_iff]
    simpa using hcontents
  simp [eventsRead, CallbackTransition.read, MultiObservation.ofProxy, Observation.readEvents,
    hfirst]

/-- The queues are exchanged. -/
def CallbackTransition.Exchanges (t : CallbackTransition) : Prop :=
  ∃ quantumCount, t.label = .hal (.exchangeQueues quantumCount)

theorem halted_callbackStep (h : (callbackMachine kWakelockTimeoutNs).Takes t)
    (hpre : t.pre.hal.Halted) : t.post.hal.Halted := by
  cases callbackStep_of_takes h with
  | hal t calls hnot hstep => exact halted_step hstep hpre
  | ignored | checked => exact hpre
  | handed s k writeOk c p seen hk hpost =>
      have hflag := mThreadsRun_postEventsToMessageQueue s.hal.proxy c.events c.numWakeupEvents
        c.locked writeOk
      rw [hpost] at hflag
      exact fun hhalted => hflag.trans (hpre hhalted)

/-- Until the queues are exchanged the flag is off, so that no call comes through the
check. -/
theorem cleared_callbackStep (h : (callbackMachine kWakelockTimeoutNs).Takes t)
    (hnot : ¬ t.Exchanges) (hcleared : t.pre.hal.initializing = .cleared)
    (hhalted : t.pre.hal.Halted) :
    t.post.hal.initializing = .cleared ∧ t.checkedBatch = [] := by
  have hoff := hhalted (by rw [hcleared]; rfl)
  cases callbackStep_of_takes h with
  | hal t calls hpost hstep =>
      refine ⟨?_, rfl⟩
      cases multiStep_of_takes hstep with
      | called p hno => cases hno.symm.trans hcleared
      | cleared p hstopped hjoined => cases hstopped.symm.trans hcleared
      | exchanged p quantumCount hcleared' => exact absurd ⟨quantumCount, rfl⟩ hnot
      | threadsStarted p hexchanged => cases hexchanged.symm.trans hcleared
      | returned p hsubHals => cases hsubHals.symm.trans hcleared
      | _ => exact hcleared
  | ignored s subHalIndex events wakelock hignored =>
      exact ⟨hcleared, by simp [CallbackTransition.checkedBatch, hignored]⟩
  | checked s subHalIndex events wakelock hne hrun =>
      rw [hoff] at hrun
      cases hrun
  | handed s k writeOk c p seen hk hpost => exact ⟨hcleared, rfl⟩

theorem checkedBatches_of_cleared {s₀ : CallbackHal} (hcleared : s₀.hal.initializing = .cleared)
    (hhalted : s₀.hal.Halted) (hrun : (callbackMachine kWakelockTimeoutNs).Run s₀ ts s)
    (hnot : ∀ t ∈ ts, ¬ t.Exchanges) : checkedBatches ts = [] := by
  have hall := hrun.history_of_guard (G := fun t : CallbackTransition => ¬ t.Exchanges)
    (I := fun ts s => s.hal.initializing = .cleared ∧ s.hal.Halted ∧ checkedBatches ts = [])
    ⟨hcleared, hhalted, rfl⟩ ?_ hnot
  · exact hall.2.2
  intro ts t _ hstep hnot ⟨hcleared, hhalted, ih⟩
  obtain ⟨hcleared', hchecked⟩ := cleared_callbackStep hstep hnot hcleared hhalted
  refine ⟨hcleared', halted_callbackStep hstep hhalted, ?_⟩
  rw [checkedBatches, List.flatMap_append, List.flatMap_singleton, hchecked, List.append_nil]
  exact ih

/-- **Whose events a client reads.**  When the pending queue is cleared, and the queues are
then exchanged for some that have room: the events that the client will read have all come
into a call since, whatever happens, exactly if no call with events was under way when the
pending queue was cleared. -/
theorem stale_free_iff
    (hrun : (callbackMachine kWakelockTimeoutNs).Run (.construct mSubHalList now) (ts₁ ++ [t]) s)
    (ht : t.label = .hal .clearPendingWrites) (hpos : 0 < quantumCount) :
    (∀ between u ts₂ s',
      (callbackMachine kWakelockTimeoutNs).Run s (between ++ u :: ts₂) s' →
      (∀ t' ∈ between, ¬ t'.Exchanges) → u.label = .hal (.exchangeQueues quantumCount) →
      (eventsRead ts₂).Subperm (checkedBatches ts₂).flatten) ↔
    ∀ c ∈ t.pre.calls, c.events = [] := by
  obtain ⟨hbefore, hclear, rfl⟩ := hrun.of_append_singleton
  obtain ⟨hnothing, hpending, hcalls, hcleared⟩ := unwritten_of_cleared hclear ht
  constructor
  · intro hall c hc
    by_contra hne
    -- the queues are exchanged at once, and then the call comes
    let u : CallbackTransition := ⟨t.post, .hal (.exchangeQueues quantumCount), [],
      { t.post with hal := t.post.hal.exchangeQueues quantumCount }⟩
    have hexchange : (callbackMachine kWakelockTimeoutNs).Takes u := by
      show t.post.step kWakelockTimeoutNs (.hal (.exchangeQueues quantumCount)) = _
      simp [CallbackHal.step, MultiLabel.isPost, MultiHal.step, hcleared, u]
    obtain ⟨ts₂, s', hafter, hchecked, hread⟩ :
        ∃ ts₂ s', (callbackMachine kWakelockTimeoutNs).Run u.post ts₂ s' ∧
          checkedBatches ts₂ = [] ∧ eventsRead ts₂ ≠ [] :=
      exists_stale_read rfl hpos hpending rfl (hcalls ▸ hc) hne
    have hsub := hall [] u ts₂ s' (.cons hexchange hafter) (by simp) rfl
    rw [hchecked, List.flatten_nil] at hsub
    exact hread (List.subperm_nil.1 hsub)
  · intro hnone between u ts₂ s' hafter hnot hu
    obtain ⟨hbetween, hexchange, hclient⟩ := hafter.of_append_cons
    have hfits := writerFits_callbackStep hclear (writerFits_of_run writerFits_construct hbefore)
    have hfits' := writerFits_of_run hfits hbetween
    have hhalted : t.post.hal.Halted := halted_callbackStep hclear
      (hbefore.invariant (I := fun s => s.hal.Halted) (fun hhalted => by cases hhalted)
        fun _ hstep hpre => halted_callbackStep hstep hpre)
    have hbatches : t.post.batches.flatten = [] := by
      rw [CallbackHal.batches, hcalls, List.flatten_eq_nil_iff]
      intro batch hbatch
      obtain ⟨c, hc, rfl⟩ := List.mem_map.1 hbatch
      exact hnone c hc
    -- nothing comes into a call, and nothing is handed over, before the exchange
    obtain ⟨hstart, hhanded, hchecked⟩ := undelivered_of_exchanged hexchange hfits' hu
    have hquiet := checkedBatches_of_cleared hcleared hhalted hbetween hnot
    have hto := (batches_of_run (hbetween.next hexchange)).flatten
    simp only [handedBatches, checkedBatches, List.flatMap_append, List.flatMap_singleton, hhanded,
      hchecked, List.append_nil, List.flatten_append, hbatches, List.nil_append] at hto hquiet
    rw [hquiet, List.flatten_nil, List.perm_nil, List.append_eq_nil_iff] at hto
    have hleft := unwritten_of_run hfits hbetween
    rw [hnothing, handedBatches, hto.1, List.nil_append, List.sublist_nil] at hleft
    -- so that what the client reads was handed over, and came into a call, since
    have hread := (List.sublist_append_left _ _).trans
      (delivers_of_run (writerFits_callbackStep hexchange hfits') hclient).1
    rw [hstart, hleft, List.nil_append] at hread
    have hperm := (batches_of_run hclient).flatten
    rw [List.flatten_append, List.flatten_append, hto.2, List.nil_append] at hperm
    exact hread.subperm.trans ((List.sublist_append_left _ _).subperm.trans hperm.subperm)

/-- The first client crashes while a call has its event: the second client can read it. -/
theorem stale_free_iff_call :
    ∃ (ts₁ : List CallbackTransition) (t : CallbackTransition) (s : CallbackHal),
      (callbackMachine 1000).Run (.construct [] 0) (ts₁ ++ [t]) s ∧
      t.label = .hal .clearPendingWrites ∧
      ¬ ∀ between u ts₂ s', (callbackMachine 1000).Run s (between ++ u :: ts₂) s' →
        (∀ t' ∈ between, ¬ t'.Exchanges) → u.label = .hal (.exchangeQueues 4) →
        (eventsRead ts₂).Subperm (checkedBatches ts₂).flatten := by
  obtain ⟨ts, s, hrun, t, ht, hlabel, hlast, hcalls⟩ :
      ∃ (ts : List CallbackTransition) (s : CallbackHal),
        (callbackMachine 1000).Run (.construct [] 0) ts s ∧
        ∃ t ∈ ts[9]?, t.label = .hal .clearPendingWrites ∧ ts.drop 10 = [] ∧
          ¬ ∀ c ∈ t.pre.calls, c.events = [] :=
    Machine.exists_run_of_exec
      [.hal .initializeCommon, .hal .clearPendingWrites, .hal (.exchangeQueues 1),
        .hal .startThreads, .hal .initialized, .postEvents 0 [sampleEvent 1] none,
        .hal .initializeCommon, .hal .wakelockThreadEnds, .hal .pendingWritesThreadEnds,
        .hal .clearPendingWrites] (by decide)
  rw [Machine.split_of_getElem? ht, hlast] at hrun
  exact ⟨_, t, s, hrun, hlabel, mt (stale_free_iff hrun hlabel (by decide)).1 hcalls⟩

end Sensors
