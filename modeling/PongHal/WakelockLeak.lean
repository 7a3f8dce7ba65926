/-
# References that are left over

Is `mWakelockRefCount` small enough, so that no reference is left over?
`wakeups_not_leaked`: yes in the runs in which every post finds room for its wake-up
events.  The references of a batch are taken before it is known whether there is
room for it, and kept when there is none.

The step of the account from above (`leak_step`) needs two more facts than the one
from below: the count recorded with an entry covers the wake-up events left in it
(`CountsCover`), and no scoped wakelock is older than the last reset (`Fresh`),
whose reference would not be given back.
-/
import PongHal.WakelockAccount

namespace Sensors

variable {kWakelockTimeoutNs : ℤ} {mSensors : SensorMap} {quantumCount now : ℕ}
  {ts : List ProxyTransition} {p : HalProxy}

/-! ## No reference is left over -/

/-- There is room in the pending queue for the events that a post cannot write
directly, or there is no wake-up event among them. -/
def HalProxy.RoomFor (p : HalProxy) (es : List Event) (writeOk : Bool) : Prop :=
  p.mSizePendingWriteEventsQueue + (es.drop (p.numToWrite es writeOk)).length ≤
      kMaxSizePendingWriteEventsQueue ∨
    p.mSensors.wakeups (es.drop (p.numToWrite es writeOk)) = 0

instance (p : HalProxy) (es : List Event) (writeOk : Bool) : Decidable (p.RoomFor es writeOk) :=
  inferInstanceAs (Decidable (_ ∨ _))

/-- A post finds room for its wake-up events. -/
def ProxyTransition.HasRoom (t : ProxyTransition) : Prop :=
  match t.label with
  | .postEvents subHalIndex events _ writeOk =>
      t.pre.RoomFor (processEvents t.pre.mSensors subHalIndex events).1 writeOk
  | _ => True

instance (t : ProxyTransition) : Decidable t.HasRoom :=
  match h : t.label with
  | .postEvents subHalIndex events _ writeOk =>
      decidable_of_iff
        (t.pre.RoomFor (processEvents t.pre.mSensors subHalIndex events).1 writeOk)
        (by simp [ProxyTransition.HasRoom, h])
  | .tick _ | .createScopedWakelock | .destroyScopedWakelock _ | .select | .writeBlocking _
  | .giveBack | .commit | .read _ | .acknowledge _ | .checkTimeout | .readBlocking _
  | .process =>
      isTrue (by simp [ProxyTransition.HasRoom, h])

/-- The count recorded with an entry covers the wake-up events left in it. -/
def HalProxy.CountsCover (p : HalProxy) : Prop :=
  ∀ entry ∈ p.mPendingWriteEventsQueue, p.mSensors.wakeups entry.1 ≤ entry.2

theorem countsCover_step {t : ProxyTransition} (h : (proxyMachine kWakelockTimeoutNs).Takes t)
    (hcover : t.pre.CountsCover) : t.post.CountsCover := by
  cases proxyStep_of_takes h with
  | posted p i events wakelock writeOk es hes hne hlive =>
      rcases p.postEventsToMessageQueue_cases es (p.mSensors.wakeups es) wakelock.isSome writeOk
        with ⟨-, hpost⟩ | ⟨-, hpost⟩ | ⟨-, hpost⟩
      · rw [hpost]
        exact hcover
      · -- the new entry is recorded with the wake-up events of the whole batch
        rw [hpost]
        intro entry hentry
        rcases List.mem_append.1 hentry with hold | hnew
        · exact hcover entry hold
        · rw [List.mem_singleton.1 hnew]
          exact (List.drop_sublist _ es).countP_le
      · rw [hpost]
        exact hcover
  | gaveBack p events num rest table hwriter hfront htable =>
      intro entry hentry
      have hold := hcover entry hentry
      -- the table has changed, but no lookup in it
      rw [SensorMap.wakeups, ← SensorMap.isWakeup_congr htable] at hold
      exact hold
  | committed p events num rest hwriter hfront =>
      have hall : ∀ entry ∈ (events, num) :: rest, p.mSensors.wakeups entry.1 ≤ entry.2 := by
        rw [← hfront]
        exact hcover
      intro entry (hentry : entry ∈ (p.commit events num rest).mPendingWriteEventsQueue)
      simp only [HalProxy.commit] at hentry
      split at hentry
      · rcases List.mem_cons.1 hentry with rfl | hrest
        · have hsub := (List.drop_sublist p.mEventQueue.quantumCount events).countP_le
            (p := p.mSensors.isWakeup)
          exact le_trans hsub (hall (events, num) List.mem_cons_self)
        · exact hall entry (List.mem_cons_of_mem _ hrest)
      · exact hall entry (List.mem_cons_of_mem _ hentry)
  | _ => exact hcover

theorem countsCover_of_run
    (hrun : (proxyMachine kWakelockTimeoutNs).Run (.init mSensors quantumCount now) ts p) :
    p.CountsCover := by
  refine hrun.invariant (I := HalProxy.CountsCover) ?_ (fun t hstep ih => countsCover_step hstep ih)
  intro entry hentry
  simp [HalProxy.init] at hentry

/-- No reference is older than the last reset. -/
structure HalProxy.Fresh (p : HalProxy) : Prop where
  reset : p.wakelock.mWakelockTimeoutResetTime ≤ p.now
  created : ∀ createdAt ∈ p.scopedWakelocks, p.wakelock.mWakelockTimeoutResetTime ≤ createdAt

theorem fresh_step {t : ProxyTransition} (h : (proxyMachine kWakelockTimeoutNs).Takes t)
    (hreset : .timedOut ∉ t.out) (hfresh : t.pre.Fresh) : t.post.Fresh := by
  cases proxyStep_of_takes h with
  | tick p nanos => exact ⟨le_trans hfresh.reset (by simp), hfresh.created⟩
  | created p hrun =>
      have htime := p.wakelock.mWakelockTimeoutResetTime_increment 1 p.now
      refine ⟨htime.trans_le hfresh.reset, ?_⟩
      intro createdAt hcreated
      rcases List.mem_append.1 hcreated with hold | hnew
      · exact htime.trans_le (hfresh.created createdAt hold)
      · rw [List.mem_singleton.1 hnew]
        exact htime.trans_le hfresh.reset
  | destroyed p i createdAt hi =>
      have htime := p.wakelock.mWakelockTimeoutResetTime_decrement 1 createdAt
      refine ⟨htime.trans_le hfresh.reset, ?_⟩
      intro other hother
      exact htime.trans_le (hfresh.created other (List.mem_of_mem_eraseIdx hother))
  | posted p i events wakelock writeOk es hes hne hlive =>
      have hframe := p.frame_postEventsToMessageQueue es (p.mSensors.wakeups es)
        wakelock.isSome writeOk
      have htime : (p.postEventsToMessageQueue es (p.mSensors.wakeups es) wakelock.isSome
          writeOk).1.wakelock.mWakelockTimeoutResetTime =
          p.wakelock.mWakelockTimeoutResetTime := by
        rw [p.wakelock_postEventsToMessageQueue]
        split
        · exact p.wakelock.mWakelockTimeoutResetTime_increment _ _
        · rfl
      refine ⟨?_, ?_⟩
      · rw [htime, hframe.2.2]
        exact hfresh.reset
      · rw [htime, hframe.2.1]
        exact hfresh.created
  | gaveBack p events num rest table hwriter hfront htable =>
      have htime := p.wakelock.mWakelockTimeoutResetTime_decrement
        (p.numGivenBack events num) (-1)
      exact ⟨htime.trans_le hfresh.reset,
        fun createdAt hcreated => htime.trans_le (hfresh.created createdAt hcreated)⟩
  | timedOut p hpos => simp at hreset
  | processed p n hreader =>
      have htime := p.wakelock.mWakelockTimeoutResetTime_decrement n (-1)
      exact ⟨htime.trans_le hfresh.reset,
        fun createdAt hcreated => htime.trans_le (hfresh.created createdAt hcreated)⟩
  | _ => exact ⟨hfresh.reset, hfresh.created⟩

/-- What is given back for a chunk covers its wake-up events. -/
theorem le_numGivenBack {events : List Event} {num : ℕ} (h : p.mSensors.wakeups events ≤ num) :
    p.mSensors.wakeups (events.take p.mEventQueue.quantumCount) ≤ p.numGivenBack events num := by
  have hle : p.mSensors.wakeups (events.take p.mEventQueue.quantumCount) ≤
      p.mSensors.wakeups events := (List.take_sublist _ events).countP_le
  unfold HalProxy.numGivenBack
  split
  · omega
  · split
    · exact le_rfl
    · omega

/-- A post that finds room for its wake-up events takes no more references than it has wake-up
events, and loses none of these. -/
theorem leak_of_post (p : HalProxy) (es : List Event) (locked writeOk : Bool)
    (hthreads : p.wakelock.mThreadsRun = true) (hroom : p.RoomFor es writeOk) :
    (p.postEventsToMessageQueue es (p.mSensors.wakeups es) locked
        writeOk).1.wakelock.mWakelockRefCount ≤
      p.wakelock.mWakelockRefCount + p.mSensors.wakeups es ∧
    ((p.postEventsToMessageQueue es (p.mSensors.wakeups es) locked writeOk).2.map
      Observation.numProcessed).sum = 0 ∧
    p.mSensors.wakeups ((p.postEventsToMessageQueue es (p.mSensors.wakeups es) locked
      writeOk).2.flatMap Observation.lostEvents) = 0 := by
  refine ⟨?_, ?_, ?_⟩
  · rw [p.wakelock_postEventsToMessageQueue]
    split
    · exact (SharedWakelock.mWakelockRefCount_increment hthreads _ _).le
    · exact Nat.le_add_right _ _
  · rcases p.postEventsToMessageQueue_cases es (p.mSensors.wakeups es) locked writeOk
      with ⟨-, hpost⟩ | ⟨-, hpost⟩ | ⟨-, hpost⟩ <;> simp [hpost, Observation.numProcessed]
  · rcases p.postEventsToMessageQueue_cases es (p.mSensors.wakeups es) locked writeOk
      with ⟨-, hpost⟩ | ⟨-, hpost⟩ | ⟨hfull, hpost⟩
    · simp [hpost, Observation.lostEvents]
    · simp [hpost, Observation.lostEvents]
    · rcases hroom with hfits | hnone
      · omega
      · simpa [hpost, Observation.lostEvents] using hnone

/-- **The step of the account, from above.**  Unless it leaves the count at zero, a step
takes at most as many references as it posts wake-up events and creates scoped
wakelocks, and gives back at least as many as it loses wake-up events, destroys
scoped wakelocks and processes acknowledgements. -/
theorem leak_step {t : ProxyTransition} (h : (proxyMachine kWakelockTimeoutNs).Takes t)
    (hbusy : t.pre.Busy) (hthreads : t.pre.wakelock.mThreadsRun = true)
    (hcover : t.pre.CountsCover) (hfresh : t.pre.Fresh) (hreset : .timedOut ∉ t.out)
    (hroom : t.HasRoom) :
    t.post.wakelock.mWakelockRefCount = 0 ∨
    t.post.wakelock.mWakelockRefCount + t.processed + t.pre.scopedWakelocks.length + t.pre.due +
        t.pre.mSensors.wakeups t.lost ≤
      t.pre.wakelock.mWakelockRefCount + t.post.scopedWakelocks.length + t.post.due +
        t.pre.mSensors.wakeups t.posted := by
  cases proxyStep_of_takes h with
  | created p hrun =>
      right
      have htaken := SharedWakelock.mWakelockRefCount_increment hrun 1 p.now
      show (p.wakelock.incrementRefCountAndMaybeAcquireWakelock 1 p.now).2.mWakelockRefCount + 0 +
          p.scopedWakelocks.length + p.due + 0 ≤
        p.wakelock.mWakelockRefCount + (p.scopedWakelocks ++ [_]).length + p.due + 0
      rw [List.length_append, List.length_singleton]
      omega
  | destroyed p i createdAt hi =>
      have hback := SharedWakelock.mWakelockRefCount_decrement (w := p.wakelock) hthreads 1
        createdAt (Or.inr (hfresh.created createdAt (List.mem_of_getElem? hi)))
      have hlt : i < p.scopedWakelocks.length := (List.getElem?_eq_some_iff.1 hi).1
      show (p.wakelock.decrementRefCountAndMaybeReleaseWakelock 1 createdAt).mWakelockRefCount = 0 ∨
        (p.wakelock.decrementRefCountAndMaybeReleaseWakelock 1 createdAt).mWakelockRefCount + 0 +
            p.scopedWakelocks.length + p.due + 0 ≤
          p.wakelock.mWakelockRefCount + (p.scopedWakelocks.eraseIdx i).length + p.due + 0
      rw [List.length_eraseIdx_of_lt hlt]
      omega
  | posted p i events wakelock writeOk es hes hne hlive =>
      right
      have hframe := p.frame_postEventsToMessageQueue es (p.mSensors.wakeups es)
        wakelock.isSome writeOk
      have hdue := due_post hbusy es (p.mSensors.wakeups es) wakelock.isSome writeOk
      have hposted := postedEvents_post p es (p.mSensors.wakeups es) wakelock.isSome writeOk
      have hfits : p.RoomFor es writeOk := by
        rw [hes]
        exact hroom
      obtain ⟨htaken, hprocessed, hlost⟩ :=
        leak_of_post p es wakelock.isSome writeOk hthreads hfits
      simp only [ProxyTransition.posted, ProxyTransition.processed, ProxyTransition.lost, hposted,
        hprocessed, hlost, hframe.2.1, hdue]
      omega
  | selected p hwriter hpending =>
      right
      rw [due_of_writer (p := p) (by simp [hwriter]), due_of_writer (by simp)]
      exact le_rfl
  | wrote p events num rest hwriter hfront =>
      right
      rw [due_of_writer (p := p) (by simp [hwriter]), due_of_writer (by simp)]
      exact le_rfl
  | failed p events num rest hwriter hfront =>
      right
      have hcount : p.mSensors.wakeups events ≤ num :=
        hcover (events, num) (by rw [hfront]; exact List.mem_cons_self)
      have hgive := le_numGivenBack hcount
      have hpre : p.due = 0 := due_of_writer (by simp [hwriter])
      have hpost : HalProxy.due { p with writer := .failed } = p.numGivenBack events num :=
        due_of_failed rfl hfront
      show p.wakelock.mWakelockRefCount + 0 + p.scopedWakelocks.length + p.due +
          p.mSensors.wakeups (events.take p.mEventQueue.quantumCount ++ []) ≤
        p.wakelock.mWakelockRefCount + p.scopedWakelocks.length +
          HalProxy.due { p with writer := .failed } + 0
      rw [hpost, List.append_nil]
      omega
  | gaveBack p events num rest table hwriter hfront htable =>
      have hback := SharedWakelock.mWakelockRefCount_decrement (w := p.wakelock) hthreads
        (p.numGivenBack events num) (-1) (Or.inl rfl)
      rw [due_of_failed (p := p) hwriter hfront, due_of_writer (by simp)]
      show (p.wakelock.decrementRefCountAndMaybeReleaseWakelock
            (p.numGivenBack events num) (-1)).mWakelockRefCount = 0 ∨
        (p.wakelock.decrementRefCountAndMaybeReleaseWakelock
            (p.numGivenBack events num) (-1)).mWakelockRefCount + 0 +
            p.scopedWakelocks.length + p.numGivenBack events num + 0 ≤
          p.wakelock.mWakelockRefCount + p.scopedWakelocks.length + 0 + 0
      omega
  | committed p events num rest hwriter hfront =>
      right
      have hnot : p.writer ≠ .failed := by
        rcases hwriter with h | h <;> simp [h]
      rw [due_of_writer (p := p) hnot, due_of_writer (by simp)]
      exact le_rfl
  | timedOut p hpos => simp at hreset
  | processed p n hreader =>
      have hback := SharedWakelock.mWakelockRefCount_decrement (w := p.wakelock) hthreads n
        (-1) (Or.inl rfl)
      show (p.wakelock.decrementRefCountAndMaybeReleaseWakelock n (-1)).mWakelockRefCount = 0 ∨
        (p.wakelock.decrementRefCountAndMaybeReleaseWakelock n (-1)).mWakelockRefCount + n +
            p.scopedWakelocks.length + p.due + 0 ≤
          p.wakelock.mWakelockRefCount + p.scopedWakelocks.length + p.due + 0
      omega
  | _ => exact Or.inr le_rfl

/-- The references do not exceed what they are for, as long as every post finds room for
its wake-up events. -/
theorem notLeaked_of_run
    (hrun : (proxyMachine kWakelockTimeoutNs).Run (.init mSensors quantumCount now) ts p)
    (hreset : ∀ t ∈ ts, .timedOut ∉ t.out) (hhonest : Honest mSensors ts)
    (hroom : ∀ t ∈ ts, t.HasRoom) :
    p.Fresh ∧ p.wakelock.mWakelockRefCount + numProcessed ts ≤
      p.scopedWakelocks.length + mSensors.wakeups (writtenEvents ts) +
        mSensors.wakeups p.remaining + p.due := by
  revert hhonest
  refine hrun.history_of_guard
    (G := fun t : ProxyTransition => .timedOut ∉ t.out ∧ t.HasRoom)
    (I := fun ts p => Honest mSensors ts → p.Fresh ∧
      p.wakelock.mWakelockRefCount + numProcessed ts ≤
        p.scopedWakelocks.length + mSensors.wakeups (writtenEvents ts) +
          mSensors.wakeups p.remaining + p.due)
    ?_ ?_ (fun t ht => ⟨hreset t ht, hroom t ht⟩)
  · exact fun _ => ⟨⟨le_rfl, by simp [HalProxy.init]⟩, Nat.zero_le _⟩
  · rintro ts (t : ProxyTransition) hrun hstep ⟨hreset, hroom⟩ ih hhonest
    obtain ⟨hfresh, hbound⟩ := ih hhonest.of_append
    refine ⟨fresh_step hstep hreset hfresh, ?_⟩
    have hbusy := busy_of_run hrun
    have hevents := wakeups_streams (streams_of_takes hstep hbusy) mSensors
    have hrefs := leak_step hstep hbusy (mThreadsRun_of_run hrun) (countsCover_of_run hrun) hfresh
      hreset hroom
    have hprocessed : numProcessed (ts ++ [t]) ≤ mSensors.wakeups (writtenEvents (ts ++ [t])) :=
      numProcessed_le (hrun.next hstep) hhonest
    rw [wakeups_of_run hrun] at hrefs
    rw [writtenEvents_append_singleton, numProcessed_append_singleton,
      SensorMap.wakeups_append] at hprocessed ⊢
    -- a count of zero is within every bound, since no more was processed than written
    rcases hrefs with hzero | hle
    · omega
    · omega

/-- **No leak.**  Take a run in which the framework acknowledges only what it has read
and no timeout resets the count.  If every post finds room in the pending queue for the
events it cannot write directly, or has no wake-up event among them, then whenever no
chunk is between its blocking write and its commit `mWakelockRefCount` is at most the
number of live scoped wakelocks plus the number of written wake-up events whose
acknowledgement is not processed plus the number of pending ones. -/
theorem wakeups_not_leaked
    (hrun : (proxyMachine kWakelockTimeoutNs).Run (.init mSensors quantumCount now) ts p)
    (hreset : ∀ t ∈ ts, .timedOut ∉ t.out) (hhonest : Honest mSensors ts)
    (hroom : ∀ t ∈ ts, t.HasRoom)
    (hsettled : p.writer = .idle ∨ p.writer = .blocked) :
    p.wakelock.mWakelockRefCount ≤
      p.scopedWakelocks.length + (mSensors.wakeups (writtenEvents ts) - numProcessed ts) +
        mSensors.wakeups (p.mPendingWriteEventsQueue.flatMap Prod.fst) := by
  obtain ⟨-, hbound⟩ := notLeaked_of_run hrun hreset hhonest hroom
  have hprocessed := numProcessed_le hrun hhonest
  have hdue : p.due = 0 := by
    apply due_of_writer
    rcases hsettled with h | h <;> simp [h]
  rw [remaining_of_settled hsettled, hdue] at hbound
  omega

/-- Lifting the phone again and again: every event goes on and is a wake-up event. -/
theorem processEvents_replicate (n : ℕ) :
    processEvents pickUpSensors 0 (List.replicate n (pickUpEvent true)) =
      (List.replicate n (pickUpEvent true), n) := by
  induction n with
  | zero => rfl
  | succ n ih =>
      have hhandle : setSubHalIndex (pickUpEvent true).sensorHandle 0 =
          (pickUpEvent true).sensorHandle := by decide
      have hwakeup : pickUpSensors.isWakeup (pickUpEvent true) = true := by decide
      have hone : ¬ (pickUpEvent true).u ≠ floatOne := by decide
      rw [List.replicate_succ, processEvents, ih]
      simp only [hhandle, hone, and_false, if_false]
      show (pickUpEvent true :: List.replicate n (pickUpEvent true),
        if pickUpSensors.isWakeup (pickUpEvent true) then n + 1 else n) = _
      rw [hwakeup, if_pos rfl]

/-- A framework that acknowledges nothing is honest. -/
theorem honest_of_silent (h : ∀ t ∈ ts, t.acknowledged = 0) : Honest mSensors ts := by
  intro before hbefore
  have hzero : numAcknowledged before = 0 := by
    rw [numAcknowledged, List.sum_eq_zero]
    intro n hn
    obtain ⟨t, ht, rfl⟩ := List.mem_map.1 hn
    exact h t ((List.mem_inits _ _).1 hbefore |>.subset ht)
  rw [hzero]
  exact Nat.zero_le _

/-- The proxy after `createScopedWakelock`. -/
def oneScopedWakelock : HalProxy :=
  { HalProxy.init pickUpSensors 1 0 with
    wakelock := ((SharedWakelock.init 0).incrementRefCountAndMaybeAcquireWakelock 1 0).2
    scopedWakelocks := [0] }

/-- A batch that does not fit into the event FMQ and the pending queue: what is left of
it after the direct write is refused. -/
theorem post_oneScopedWakelock {n : ℕ} (hn : kMaxSizePendingWriteEventsQueue + 1 < n) :
    oneScopedWakelock.postEvents 0 (List.replicate n (pickUpEvent true)) true true =
      (oneScopedWakelock.writeDirectly (List.replicate n (pickUpEvent true)) n true true,
        [.posted (List.replicate n (pickUpEvent true)), .wrote [pickUpEvent true],
          .refused (List.replicate (n - 1) (pickUpEvent true))]) := by
  have hgo : ¬ ((List.replicate n (pickUpEvent true)).isEmpty = true ∨
      (!oneScopedWakelock.wakelock.mThreadsRun) = true) := by
    rintro (hempty | hstopped)
    · rw [List.isEmpty_iff, List.replicate_eq_nil_iff] at hempty
      omega
    · exact absurd hstopped (by decide)
  have hone : oneScopedWakelock.numToWrite (List.replicate n (pickUpEvent true)) true = 1 := by
    show min (List.replicate n (pickUpEvent true)).length 1 = 1
    rw [List.length_replicate]
    omega
  have htake : (List.replicate n (pickUpEvent true)).take 1 = [pickUpEvent true] := by
    rw [List.take_replicate, min_eq_left (by omega), List.replicate_one]
  have hsize : oneScopedWakelock.mSizePendingWriteEventsQueue = 0 := rfl
  rw [HalProxy.postEvents, if_neg hgo]
  show oneScopedWakelock.postEventsToMessageQueue
    (processEvents pickUpSensors 0 (List.replicate n (pickUpEvent true))).1
    (processEvents pickUpSensors 0 (List.replicate n (pickUpEvent true))).2 true true = _
  rw [processEvents_replicate]
  simp only [HalProxy.postEventsToMessageQueue, hone, htake, List.drop_replicate,
    List.length_replicate]
  rw [if_pos (by omega), if_neg]
  · rfl
  · show ¬ (oneScopedWakelock.mSizePendingWriteEventsQueue + (n - 1) ≤ _)
    omega

/-- One post of `n` wake-up events, `n` above what both queues hold: one of them is
written, the others are refused, and `n` references stay behind. -/
theorem exists_leak {n : ℕ} (hn : kMaxSizePendingWriteEventsQueue + 1 < n) :
    ∃ (ts : List ProxyTransition) (p : HalProxy),
      (proxyMachine 1000000000).Run (.init pickUpSensors 1 0) ts p ∧
      (∀ t ∈ ts, ProxyTransition.Counted t) ∧ Honest pickUpSensors ts ∧
      p.writer = .idle ∧ p.scopedWakelocks = [] ∧ p.mPendingWriteEventsQueue = [] ∧
      pickUpSensors.wakeups (writtenEvents ts) = 1 ∧ p.wakelock.mWakelockRefCount = n := by
  have hcreate : (proxyMachine 1000000000).step (.init pickUpSensors 1 0) .createScopedWakelock =
      some (oneScopedWakelock, []) := rfl
  have hpost : (proxyMachine 1000000000).step oneScopedWakelock
      (.postEvents 0 (List.replicate n (pickUpEvent true)) (some 0) true) = some (_, _) :=
    congrArg some (post_oneScopedWakelock hn)
  have hdestroy : (proxyMachine 1000000000).step
      (oneScopedWakelock.writeDirectly (List.replicate n (pickUpEvent true)) n true true)
      (.destroyScopedWakelock 0) = some (_, _) := rfl
  have hrun := ((Machine.Run.start.next hcreate).next hpost).next hdestroy
  refine ⟨_, _, hrun, ?_, ?_, rfl, rfl, rfl, ?_, ?_⟩
  · simp [ProxyTransition.Counted, ProxyTransition.LocksWakeups]
  · apply honest_of_silent
    simp [ProxyTransition.acknowledged, Observation.numAcknowledged]
  · simp [writtenEvents, ProxyTransition.written, Observation.writtenEvents]
    decide
  · have hthreads : oneScopedWakelock.wakelock.mThreadsRun = true := rfl
    have htaken := SharedWakelock.mWakelockRefCount_increment hthreads n 0
    have hone : oneScopedWakelock.wakelock.mWakelockRefCount = 1 := rfl
    show ((oneScopedWakelock.wakelock.incrementRefCountAndMaybeAcquireWakelock n
      0).2.decrementRefCountAndMaybeReleaseWakelock 1 0).mWakelockRefCount = n
    rw [SharedWakelock.mWakelockRefCount_decrement (by simp [hthreads]) 1 0 (Or.inr le_rfl),
      htaken, hone]
    omega

/-- A batch of 100002 wake-up events on a queue with one place: one event is written, and
when the sub-HAL's wakelock is gone 100002 references are left for it. -/
theorem refused_references_leak :
    ∃ (ts : List ProxyTransition) (p : HalProxy),
      (proxyMachine 1000000000).Run (.init pickUpSensors 1 0) ts p ∧
      (∀ t ∈ ts, ProxyTransition.Counted t) ∧ Honest pickUpSensors ts ∧
      p.writer = .idle ∧ p.scopedWakelocks = [] ∧ p.mPendingWriteEventsQueue = [] ∧
      pickUpSensors.wakeups (writtenEvents ts) = 1 ∧ p.wakelock.mWakelockRefCount = 100002 :=
  exists_leak (by decide)

/-- Two wake-up events on a queue with one place, both written and one acknowledged: one
reference is left. -/
theorem wakeups_not_leaked_after_acknowledgement :
    ∃ (ts : List ProxyTransition) (p : HalProxy),
      (proxyMachine 1000000000).Run (.init pickUpSensors 1 0) ts p ∧
      pickUpSensors.wakeups (writtenEvents ts) = 2 ∧ numProcessed ts = 1 ∧
      p.wakelock.mWakelockRefCount = 1 ∧
      p.wakelock.mWakelockRefCount ≤
        p.scopedWakelocks.length + (pickUpSensors.wakeups (writtenEvents ts) - numProcessed ts) +
          pickUpSensors.wakeups (p.mPendingWriteEventsQueue.flatMap Prod.fst) := by
  obtain ⟨ts, p, hrun, hreset, hhonest, hroom, hidle, hwritten, hprocessed, hcount⟩ :
      ∃ (ts : List ProxyTransition) (p : HalProxy),
        (proxyMachine 1000000000).Run (.init pickUpSensors 1 0) ts p ∧
        (∀ t ∈ ts, .timedOut ∉ t.out) ∧ Honest pickUpSensors ts ∧
        (∀ t ∈ ts, ProxyTransition.HasRoom t) ∧ p.writer = .idle ∧
        pickUpSensors.wakeups (writtenEvents ts) = 2 ∧ numProcessed ts = 1 ∧
        p.wakelock.mWakelockRefCount = 1 :=
    Machine.exists_run_of_exec
      [.createScopedWakelock,
        .postEvents 0 [pickUpEvent true, pickUpEvent true] (some 0) true,
        .destroyScopedWakelock 0, .select, .read 1, .acknowledge 1, .writeBlocking true, .commit,
        .checkTimeout, .readBlocking true, .process] (by decide)
  exact ⟨ts, p, hrun, hwritten, hprocessed, hcount,
    wakeups_not_leaked hrun hreset hhonest hroom (Or.inl hidle)⟩

end Sensors
