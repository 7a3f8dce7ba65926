/-
# The wakelock's timeouts (`HalProxy.cpp`)

After `kWakelockTimeoutNs` without a new reference the wakelock thread takes all references
away.  The owners of the `ScopedWakelock`s know nothing of it; when one of these is destroyed
later, `decrementRefCountAndMaybeReleaseWakelock` compares its creation time with
`mWakelockTimeoutResetTime`, so that it does not give back a reference that is another's.

`Leases` is what the comparison is for, without any clock: every `ScopedWakelock` has its
reference until a timeout takes it, and gives back what it has.

All three are about runs of `proxyMachine`, between two calls of `initialize`:

* `timed_out_iff` : a check of the thread takes the references away exactly if the last one
  was taken longer than the timeout ago;
* `leases_of_run` : the proxy does with its clock what the leases do without one, in every
  interleaving, and whether or not the clock moves between two steps;
* `held_of_fresh` : so the kernel's lock is held while a `ScopedWakelock` has its reference,
  unless more events were acknowledged or given up since the last timeout than were posted.

The last condition is needed: an acknowledgement has no creation time, and one that comes
after the timeout that its event did not survive takes away a reference of someone else
(`released_by_old_acknowledgement`).
-/
import PongHal.MultiHal

namespace Sensors

/-! ## Leases -/

/-- The number of references, and for each lease, the oldest first, whether it has its
reference. -/
structure Leases where
  count : ℕ
  fresh : List Bool
  deriving DecidableEq, Repr

/-- What happens to the references. -/
inductive LeaseAction
  /-- A lease begins. -/
  | create
  /-- The `i`-th lease ends. -/
  | destroy (i : ℕ)
  /-- References without a lease are taken, -/
  | take (n : ℕ)
  /-- and given back. -/
  | giveBack (n : ℕ)
  /-- All references are taken away. -/
  | timeOut
  deriving DecidableEq, Repr

namespace Leases

/-- None yet. -/
def none : Leases := ⟨0, []⟩

/-- One action. -/
def after (s : Leases) : LeaseAction → Leases
  | .create => ⟨s.count + 1, s.fresh ++ [true]⟩
  | .destroy i =>
      ⟨if s.fresh[i]? = some true then s.count - 1 else s.count, s.fresh.eraseIdx i⟩
  | .take n => { s with count := s.count + n }
  | .giveBack n => { s with count := s.count - n }
  | .timeOut => ⟨0, s.fresh.map fun _ => false⟩

end Leases

/-- How many references without a lease were taken since the last timeout, after one more
action. -/
def LeaseAction.takenAfter (taken : ℕ) : LeaseAction → ℕ
  | .take n => taken + n
  | .timeOut => 0
  | .create | .destroy _ | .giveBack _ => taken

/-- And how many were given back. -/
def LeaseAction.givenBackAfter (givenBack : ℕ) : LeaseAction → ℕ
  | .giveBack n => givenBack + n
  | .timeOut => 0
  | .create | .destroy _ | .take _ => givenBack

/-- How many references without a lease were taken since the last timeout. -/
def takenSince (actions : List LeaseAction) : ℕ := actions.foldl LeaseAction.takenAfter 0

/-- How many were given back. -/
def givenBackSince (actions : List LeaseAction) : ℕ := actions.foldl LeaseAction.givenBackAfter 0

/-- A lease that ends is one less that has its reference, if it has it. -/
theorem count_eraseIdx_fresh (fresh : List Bool) (i : ℕ) :
    (fresh.eraseIdx i).count true + (if fresh[i]? = some true then 1 else 0) =
      fresh.count true := by
  cases hi : fresh[i]? with
  | none => rw [List.eraseIdx_of_length_le (List.getElem?_eq_none_iff.1 hi)]; rfl
  | some b =>
      obtain ⟨hlt, rfl⟩ := List.getElem?_eq_some_iff.1 hi
      rw [← (List.getElem_cons_eraseIdx_perm hlt).count_eq, List.count_cons]
      cases fresh[i] <;> rfl

/-- One action: the leases that have their reference, and the references taken, are in the
count, but for what was given back. -/
theorem Leases.covered_after {s : Leases} {taken givenBack : ℕ}
    (h : s.fresh.count true + taken ≤ s.count + givenBack) (a : LeaseAction) :
    (s.after a).fresh.count true + a.takenAfter taken ≤
      (s.after a).count + a.givenBackAfter givenBack := by
  cases a with
  | create =>
      have hcount : (s.fresh ++ [true]).count true = s.fresh.count true + 1 := by simp
      show (s.fresh ++ [true]).count true + taken ≤ s.count + 1 + givenBack
      omega
  | destroy i =>
      have hcount := count_eraseIdx_fresh s.fresh i
      show (s.fresh.eraseIdx i).count true + taken ≤
        (if s.fresh[i]? = some true then s.count - 1 else s.count) + givenBack
      split
      · rename_i hfresh
        rw [if_pos hfresh] at hcount
        omega
      · rename_i hfresh
        rw [if_neg hfresh] at hcount
        omega
  | take n =>
      show s.fresh.count true + (taken + n) ≤ s.count + n + givenBack
      omega
  | giveBack n =>
      show s.fresh.count true + taken ≤ s.count - n + (givenBack + n)
      omega
  | timeOut =>
      show (s.fresh.map fun _ => false).count true + 0 ≤ 0 + 0
      rw [List.count_eq_zero.2 (by simp)]

/-- All actions. -/
theorem Leases.covered (actions : List LeaseAction) :
    (actions.foldl Leases.after .none).fresh.count true + takenSince actions ≤
      (actions.foldl Leases.after .none).count + givenBackSince actions := by
  unfold takenSince givenBackSince
  induction actions using List.reverseRecOn with
  | nil => exact le_rfl
  | append_singleton actions a ih =>
      rw [List.foldl_append, List.foldl_append, List.foldl_append]
      exact Leases.covered_after ih a

/-! ## The leases of the proxy -/

/-- The count, and the comparison of `decrementRefCountAndMaybeReleaseWakelock` for each live
`ScopedWakelock`. -/
def HalProxy.leases (p : HalProxy) : Leases :=
  ⟨p.wakelock.mWakelockRefCount,
    p.scopedWakelocks.map fun createdAt =>
      decide (p.wakelock.mWakelockTimeoutResetTime ≤ createdAt)⟩

theorem HalProxy.leases_eq {p q : HalProxy} {count : ℕ}
    (hscoped : q.scopedWakelocks = p.scopedWakelocks)
    (hreset : q.wakelock.mWakelockTimeoutResetTime = p.wakelock.mWakelockTimeoutResetTime)
    (hcount : q.wakelock.mWakelockRefCount = count) : q.leases = ⟨count, p.leases.fresh⟩ := by
  unfold HalProxy.leases
  rw [hscoped, hreset, hcount]

/-- What a step does to the references. -/
def ProxyTransition.lease (t : ProxyTransition) : Option LeaseAction :=
  match t.label with
  | .createScopedWakelock => some .create
  | .destroyScopedWakelock i => some (.destroy i)
  | .postEvents subHalIndex events (some _) _ =>
      if events = [] then none
      else some (.take (processEvents t.pre.mSensors subHalIndex events).2)
  | .giveBack =>
      match t.pre.mPendingWriteEventsQueue with
      | [] => none
      | (events, numWakeupEvents) :: _ =>
          some (.giveBack (t.pre.numGivenBack events numWakeupEvents))
  | .process =>
      match t.pre.reader with
      | .acked n => some (.giveBack n)
      | _ => none
  | .checkTimeout => if .timedOut ∈ t.out then some .timeOut else none
  | .tick _ | .postEvents _ _ none _ | .select | .writeBlocking _ | .commit | .read _
  | .acknowledge _ | .readBlocking _ => none

/-- No `ScopedWakelock` is younger than the last reference, and the clock has passed the last
reset. -/
structure HalProxy.Dated (p : HalProxy) : Prop where
  created : ∀ createdAt ∈ p.scopedWakelocks,
    0 ≤ createdAt ∧ createdAt ≤ p.wakelock.mWakelockTimeoutStartTime
  started : p.wakelock.mWakelockTimeoutStartTime ≤ p.now
  reset : p.wakelock.mWakelockTimeoutResetTime ≤ p.now

namespace SharedWakelock

variable (w : SharedWakelock) (delta : ℕ) (timeoutStart : ℤ)

theorem mWakelockTimeoutStartTime_decrement :
    (w.decrementRefCountAndMaybeReleaseWakelock delta timeoutStart).mWakelockTimeoutStartTime =
      w.mWakelockTimeoutStartTime := by
  rcases w.decrement_cases delta timeoutStart with h | ⟨-, h⟩ <;> rw [h]

/-- A reset of a positive count releases the lock. -/
theorem reset_of_pos (hthreads : w.mThreadsRun = true) (hpos : 0 < w.mWakelockRefCount)
    (now : ℤ) :
    (w.resetSharedWakelock now).mWakelockRefCount = 0 ∧
      (w.resetSharedWakelock now).held = false := by
  unfold resetSharedWakelock decrementRefCountAndMaybeReleaseWakelock
  simp [hthreads, hpos.ne']

/-- While references are counted the kernel's lock is held. -/
def HeldIfCounted : Prop := 0 < w.mWakelockRefCount → w.held = true

variable {w} in
theorem HeldIfCounted.increment (h : w.HeldIfCounted) (hthreads : w.mThreadsRun = true)
    (now : ℤ) : (w.incrementRefCountAndMaybeAcquireWakelock delta now).2.HeldIfCounted := by
  rw [increment_of_running hthreads]
  intro _
  show (if w.mWakelockRefCount = 0 then true else w.held) = true
  split
  · rfl
  · rename_i hne
    exact h (Nat.pos_of_ne_zero hne)

variable {w} in
theorem HeldIfCounted.decrement (h : w.HeldIfCounted) :
    (w.decrementRefCountAndMaybeReleaseWakelock delta timeoutStart).HeldIfCounted := by
  rcases w.decrement_cases delta timeoutStart with heq | ⟨hpos, heq⟩
  · rw [heq]
    exact h
  · rw [heq]
    intro hleft
    show (if w.mWakelockRefCount - delta = 0 then false else w.held) = true
    rw [if_neg (Nat.ne_of_gt hleft)]
    exact h hpos

end SharedWakelock

/-- A post with a locked wakelock takes its references now. -/
theorem HalProxy.wakelock_post_locked {p : HalProxy} (hthreads : p.wakelock.mThreadsRun = true)
    (es : List Event) (num : ℕ) (writeOk : Bool) :
    (p.postEventsToMessageQueue es num true writeOk).1.wakelock.mWakelockTimeoutStartTime = p.now ∧
      (p.postEventsToMessageQueue es num true writeOk).1.wakelock.mWakelockTimeoutResetTime =
        p.wakelock.mWakelockTimeoutResetTime ∧
      (p.postEventsToMessageQueue es num true writeOk).1.wakelock.mWakelockRefCount =
        p.wakelock.mWakelockRefCount + num := by
  rw [p.wakelock_postEventsToMessageQueue, if_pos rfl,
    SharedWakelock.increment_of_running hthreads]
  exact ⟨rfl, rfl, rfl⟩

section Steps

variable {kWakelockTimeoutNs : ℤ} {t : ProxyTransition}

/-- A check of the wakelock thread: it takes the references away exactly if the timeout has
gone by. -/
theorem timedOut_iff_of_takes (h : (proxyMachine kWakelockTimeoutNs).Takes t)
    (hcheck : t.label = .checkTimeout) :
    .timedOut ∈ t.out ↔
      kWakelockTimeoutNs < t.pre.now - t.pre.wakelock.mWakelockTimeoutStartTime := by
  rw [timedOut_mem_iff h hcheck]
  unfold SharedWakelock.sharedWakelockDidTimeout
  simp only
  split
  · rename_i hlate
    exact iff_of_true rfl hlate
  · rename_i hlate
    exact iff_of_false Bool.false_ne_true hlate

/-- Where no reference is taken, the dates stay in order. -/
theorem HalProxy.Dated.keep {p q : HalProxy} (h : p.Dated)
    (hscoped : q.scopedWakelocks ⊆ p.scopedWakelocks)
    (hstart : q.wakelock.mWakelockTimeoutStartTime = p.wakelock.mWakelockTimeoutStartTime)
    (hreset : q.wakelock.mWakelockTimeoutResetTime = p.wakelock.mWakelockTimeoutResetTime)
    (hnow : p.now ≤ q.now) : q.Dated := by
  obtain ⟨hcreated, hstarted, hlast⟩ := h
  refine ⟨fun createdAt hmem => ?_, ?_, ?_⟩
  · rw [hstart]
    exact hcreated createdAt (hscoped hmem)
  · rw [hstart]
    omega
  · rw [hreset]
    omega

/-- Where one is taken, too. -/
theorem HalProxy.Dated.take {p q : HalProxy} (h : p.Dated)
    (hscoped : ∀ createdAt ∈ q.scopedWakelocks, createdAt ∈ p.scopedWakelocks ∨ createdAt = p.now)
    (hstart : q.wakelock.mWakelockTimeoutStartTime = p.now)
    (hreset : q.wakelock.mWakelockTimeoutResetTime = p.wakelock.mWakelockTimeoutResetTime)
    (hnow : q.now = p.now) : q.Dated := by
  obtain ⟨hcreated, hstarted, hlast⟩ := h
  refine ⟨fun createdAt hmem => ?_, ?_, ?_⟩
  · rw [hstart]
    rcases hscoped createdAt hmem with hold | rfl
    · have hbefore := hcreated createdAt hold
      omega
    · omega
  · rw [hstart, hnow]
  · rw [hreset, hnow]
    exact hlast

/-- Every step keeps the dates in order. -/
theorem dated_step (h : (proxyMachine kWakelockTimeoutNs).Takes t)
    (hthreads : t.pre.wakelock.mThreadsRun = true) (hdated : t.pre.Dated) : t.post.Dated := by
  cases proxyStep_of_takes h with
  | tick p nanos => exact hdated.keep (fun _ => id) rfl rfl (Nat.le_add_right _ _)
  | created p hrun =>
      refine hdated.take ?_ ?_ (p.wakelock.mWakelockTimeoutResetTime_increment _ _) rfl
      · intro createdAt hmem
        simpa using hmem
      · rw [SharedWakelock.increment_of_running hrun]
  | destroyed p i createdAt hi =>
      exact hdated.keep (List.eraseIdx_sublist _ _).subset
        (p.wakelock.mWakelockTimeoutStartTime_decrement _ _)
        (p.wakelock.mWakelockTimeoutResetTime_decrement _ _) le_rfl
  | posted p i events wakelock writeOk es hes hne hlive =>
      obtain ⟨-, hscoped, hnow⟩ :=
        p.frame_postEventsToMessageQueue es (p.mSensors.wakeups es) wakelock.isSome writeOk
      cases wakelock with
      | none =>
          have hwakelock :=
            p.wakelock_postEventsToMessageQueue es (p.mSensors.wakeups es) false writeOk
          exact hdated.keep (fun _ => by rw [hscoped]; exact id)
            (congrArg SharedWakelock.mWakelockTimeoutStartTime hwakelock)
            (congrArg SharedWakelock.mWakelockTimeoutResetTime hwakelock) hnow.ge
      | some k =>
          obtain ⟨hstart, hreset, -⟩ := HalProxy.wakelock_post_locked hthreads es
            (p.mSensors.wakeups es) writeOk
          refine hdated.take (fun _ hmem => ?_) hstart hreset hnow
          rw [hscoped] at hmem
          exact .inl hmem
  | gaveBack p events num rest table hwriter hfront htable =>
      exact hdated.keep (fun _ => id) (p.wakelock.mWakelockTimeoutStartTime_decrement _ _)
        (p.wakelock.mWakelockTimeoutResetTime_decrement _ _) le_rfl
  | timedOut p hpos =>
      refine ⟨?_, ?_, le_rfl⟩
      · intro createdAt hmem
        show 0 ≤ createdAt ∧ createdAt ≤
          (p.wakelock.decrementRefCountAndMaybeReleaseWakelock _ _).mWakelockTimeoutStartTime
        rw [p.wakelock.mWakelockTimeoutStartTime_decrement]
        exact hdated.created createdAt hmem
      · show (p.wakelock.decrementRefCountAndMaybeReleaseWakelock _ _).mWakelockTimeoutStartTime ≤
          p.now
        rw [p.wakelock.mWakelockTimeoutStartTime_decrement]
        exact hdated.started
  | processed p n hreader =>
      exact hdated.keep (fun _ => id) (p.wakelock.mWakelockTimeoutStartTime_decrement _ _)
        (p.wakelock.mWakelockTimeoutResetTime_decrement _ _) le_rfl
  | _ => exact hdated.keep (fun _ => id) rfl rfl le_rfl

/-- A post that is ignored takes nothing. -/
theorem lease_of_ignored {p : HalProxy} (hthreads : p.wakelock.mThreadsRun = true)
    {events : List Event} (hignored : events = [] ∨ p.wakelock.mThreadsRun = false) (i : ℕ)
    (wakelock : Option ℕ) (writeOk : Bool) :
    ProxyTransition.lease ⟨p, .postEvents i events wakelock writeOk, [], p⟩ = none := by
  have hnil : events = [] := by
    rcases hignored with hnil | hstopped
    · exact hnil
    · rw [hstopped] at hthreads
      cases hthreads
  cases wakelock with
  | none => rfl
  | some k => exact if_pos hnil

/-- One step does to the leases what it does to the references. -/
theorem leases_step (htimeout : 0 ≤ kWakelockTimeoutNs)
    (h : (proxyMachine kWakelockTimeoutNs).Takes t)
    (hthreads : t.pre.wakelock.mThreadsRun = true) (hdated : t.pre.Dated) :
    t.post.leases = t.lease.elim t.pre.leases t.pre.leases.after := by
  cases proxyStep_of_takes h with
  | created p hrun =>
      -- the new one is as old as the clock, which has passed the reset
      have hfresh : decide (p.wakelock.mWakelockTimeoutResetTime ≤ (p.now : ℤ)) = true :=
        decide_eq_true hdated.reset
      have hnew :
          List.map (fun createdAt => decide (p.wakelock.mWakelockTimeoutResetTime ≤ createdAt))
            (p.scopedWakelocks ++ [(p.now : ℤ)]) = p.leases.fresh ++ [true] := by
        rw [List.map_append, List.map_singleton, hfresh]
        rfl
      unfold HalProxy.leases
      simp only
      rw [SharedWakelock.increment_of_running hrun, hnew]
      rfl
  | destroyed p i createdAt hi =>
      have hflag : p.leases.fresh[i]? =
          some (decide (p.wakelock.mWakelockTimeoutResetTime ≤ createdAt)) := by
        show (p.scopedWakelocks.map _)[i]? = _
        rw [List.getElem?_map, hi]
        rfl
      have hcount : (p.wakelock.decrementRefCountAndMaybeReleaseWakelock 1
          createdAt).mWakelockRefCount =
            if p.leases.fresh[i]? = some true then p.wakelock.mWakelockRefCount - 1
            else p.wakelock.mWakelockRefCount := by
        rw [hflag]
        by_cases hle : p.wakelock.mWakelockTimeoutResetTime ≤ createdAt
        · rw [decide_eq_true hle, if_pos rfl]
          exact SharedWakelock.mWakelockRefCount_decrement hthreads 1 createdAt (.inr hle)
        · rw [decide_eq_false hle, if_neg (by decide)]
          have hnonneg := (hdated.created createdAt (List.mem_of_getElem? hi)).1
          rw [SharedWakelock.decrement_of_old (by omega)]
      unfold HalProxy.leases
      simp only
      rw [hcount, p.wakelock.mWakelockTimeoutResetTime_decrement, ← List.eraseIdx_map]
      rfl
  | ignored p i events wakelock writeOk hignored =>
      rw [lease_of_ignored hthreads hignored i wakelock writeOk]
      rfl
  | posted p i events wakelock writeOk es hes hne hlive =>
      obtain ⟨-, hscoped, -⟩ :=
        p.frame_postEventsToMessageQueue es (p.mSensors.wakeups es) wakelock.isSome writeOk
      cases wakelock with
      | none =>
          have hwakelock := p.wakelock_postEventsToMessageQueue es (p.mSensors.wakeups es) false
            writeOk
          exact HalProxy.leases_eq hscoped
            (congrArg SharedWakelock.mWakelockTimeoutResetTime hwakelock)
            (congrArg SharedWakelock.mWakelockRefCount hwakelock)
      | some k =>
          obtain ⟨-, hreset, hcount⟩ := HalProxy.wakelock_post_locked hthreads es
            (p.mSensors.wakeups es) writeOk
          have htaken : (processEvents p.mSensors i events).2 = p.mSensors.wakeups es := by
            rw [processEvents_snd, hes]
          unfold ProxyTransition.lease
          simp only
          rw [if_neg hne, htaken]
          exact HalProxy.leases_eq hscoped hreset hcount
  | gaveBack p events num rest table hwriter hfront htable =>
      unfold ProxyTransition.lease
      simp only
      rw [hfront]
      exact HalProxy.leases_eq rfl (p.wakelock.mWakelockTimeoutResetTime_decrement _ _)
        (SharedWakelock.mWakelockRefCount_decrement hthreads _ _ (.inl rfl))
  | timedOut p hpos =>
      have hlate := (timedOut_iff_of_takes h rfl).1 (List.mem_singleton_self _)
      -- every live one is older than the clock
      have hold : p.scopedWakelocks.map (fun createdAt => decide ((p.now : ℤ) ≤ createdAt)) =
          p.leases.fresh.map fun _ => false := by
        unfold HalProxy.leases
        rw [List.map_map]
        refine List.map_congr_left fun createdAt hmem => decide_eq_false ?_
        have hbefore := (hdated.created createdAt hmem).2
        simp only at hbefore hlate
        omega
      have hcount : (p.wakelock.decrementRefCountAndMaybeReleaseWakelock
          p.wakelock.mWakelockRefCount (-1)).mWakelockRefCount = 0 := by
        rw [SharedWakelock.mWakelockRefCount_decrement hthreads _ _ (.inl rfl)]
        exact Nat.sub_self _
      unfold ProxyTransition.lease
      simp only
      rw [if_pos (List.mem_singleton_self _)]
      show Leases.mk (p.wakelock.decrementRefCountAndMaybeReleaseWakelock
        p.wakelock.mWakelockRefCount (-1)).mWakelockRefCount _ = ⟨0, _⟩
      rw [hcount, ← hold]
      rfl
  | processed p n hreader =>
      unfold ProxyTransition.lease
      simp only
      rw [hreader]
      exact HalProxy.leases_eq rfl (p.wakelock.mWakelockTimeoutResetTime_decrement _ _)
        (SharedWakelock.mWakelockRefCount_decrement hthreads _ _ (.inl rfl))
  | notCreated p hrun => rw [hrun] at hthreads; cases hthreads
  | _ => rfl

/-- No step leaves a positive count without the lock. -/
theorem heldIfCounted_step (h : (proxyMachine kWakelockTimeoutNs).Takes t)
    (hthreads : t.pre.wakelock.mThreadsRun = true) (hheld : t.pre.wakelock.HeldIfCounted) :
    t.post.wakelock.HeldIfCounted := by
  cases proxyStep_of_takes h with
  | created p hrun => exact hheld.increment 1 hthreads p.now
  | destroyed p i createdAt hi => exact hheld.decrement 1 createdAt
  | posted p i events wakelock writeOk es hes hne hlive =>
      rw [p.wakelock_postEventsToMessageQueue]
      split
      · exact hheld.increment _ hthreads p.now
      · exact hheld
  | gaveBack p events num rest table hwriter hfront htable => exact hheld.decrement _ (-1)
  | timedOut p hpos => exact hheld.decrement p.wakelock.mWakelockRefCount (-1)
  | processed p n hreader => exact hheld.decrement n (-1)
  | _ => exact hheld

/-- The step takes references. -/
def ProxyTransition.takesReference (t : ProxyTransition) : Bool :=
  match t.lease with
  | some .create | some (.take _) => true
  | _ => false

/-- A step that takes references starts the timeout anew, and no other does. -/
theorem mWakelockTimeoutStartTime_step (h : (proxyMachine kWakelockTimeoutNs).Takes t)
    (hthreads : t.pre.wakelock.mThreadsRun = true) :
    t.post.wakelock.mWakelockTimeoutStartTime =
      if t.takesReference then (t.pre.now : ℤ)
      else t.pre.wakelock.mWakelockTimeoutStartTime := by
  cases proxyStep_of_takes h with
  | created p hrun =>
      show
        (p.wakelock.incrementRefCountAndMaybeAcquireWakelock 1 p.now).2.mWakelockTimeoutStartTime =
          p.now
      rw [SharedWakelock.increment_of_running hrun]
  | destroyed p i createdAt hi => exact p.wakelock.mWakelockTimeoutStartTime_decrement _ _
  | ignored p i events wakelock writeOk hignored =>
      unfold ProxyTransition.takesReference
      rw [lease_of_ignored hthreads hignored i wakelock writeOk]
      rfl
  | posted p i events wakelock writeOk es hes hne hlive =>
      cases wakelock with
      | none =>
          exact congrArg SharedWakelock.mWakelockTimeoutStartTime
            (p.wakelock_postEventsToMessageQueue es (p.mSensors.wakeups es) false writeOk)
      | some k =>
          unfold ProxyTransition.takesReference ProxyTransition.lease
          simp only
          rw [if_neg hne]
          exact (HalProxy.wakelock_post_locked hthreads es (p.mSensors.wakeups es) writeOk).1
  | gaveBack p events num rest table hwriter hfront htable =>
      unfold ProxyTransition.takesReference ProxyTransition.lease
      simp only
      rw [hfront]
      exact p.wakelock.mWakelockTimeoutStartTime_decrement _ _
  | timedOut p hpos => exact p.wakelock.mWakelockTimeoutStartTime_decrement _ _
  | processed p n hreader =>
      unfold ProxyTransition.takesReference ProxyTransition.lease
      simp only
      rw [hreader]
      exact p.wakelock.mWakelockTimeoutStartTime_decrement _ _
  | notCreated p hrun => rw [hrun] at hthreads; cases hthreads
  | _ => rfl

end Steps

/-! ## Runs -/

section Runs

variable {kWakelockTimeoutNs : ℤ} {mSensors : SensorMap} {quantumCount now : ℕ}
  {ts ts₁ ts₂ : List ProxyTransition} {t : ProxyTransition} {p : HalProxy}

theorem dated_of_run
    (hrun : (proxyMachine kWakelockTimeoutNs).Run (.init mSensors quantumCount now) ts p) :
    p.Dated := by
  refine hrun.history (I := fun _ p => p.Dated) ?_ ?_
  · exact ⟨fun _ hmem => absurd hmem List.not_mem_nil, le_rfl, le_rfl⟩
  · intro ts t hbefore hstep ih
    exact dated_step hstep (mThreadsRun_of_run hbefore) ih

/-- **The clock does what the leases do.**  In every run, whatever the threads and the clock
do: the count, and for each live `ScopedWakelock` whether it would give back a reference, are
what the creations, destructions and timeouts in their order make of them. -/
theorem leases_of_run (htimeout : 0 ≤ kWakelockTimeoutNs)
    (hrun : (proxyMachine kWakelockTimeoutNs).Run (.init mSensors quantumCount now) ts p) :
    p.leases = (ts.filterMap ProxyTransition.lease).foldl Leases.after .none := by
  refine hrun.history (I := fun ts p =>
    p.leases = (ts.filterMap ProxyTransition.lease).foldl Leases.after .none) rfl ?_
  intro ts t hbefore hstep ih
  rw [leases_step htimeout hstep (mThreadsRun_of_run hbefore) (dated_of_run hbefore), ih,
    List.filterMap_append, List.foldl_append]
  cases hlease : ProxyTransition.lease t with
  | none => rw [List.filterMap_cons_none hlease]; rfl
  | some a => rw [List.filterMap_cons_some hlease]; rfl

/-- A `ScopedWakelock` that was created before a timeout is destroyed after it, while another
one has its reference. -/
theorem leases_of_run_old :
    ∃ (ts : List ProxyTransition) (p : HalProxy),
      (proxyMachine 1000000000).Run (.init pickUpSensors 8 0) ts p ∧
        ts.filterMap ProxyTransition.lease = [.create, .timeOut, .create, .destroy 0] ∧
        p.leases = ⟨1, [true]⟩ ∧
        p.leases = (ts.filterMap ProxyTransition.lease).foldl Leases.after .none := by
  obtain ⟨ts, p, hrun, hactions, hleases⟩ :
      ∃ (ts : List ProxyTransition) (p : HalProxy),
        (proxyMachine 1000000000).Run (.init pickUpSensors 8 0) ts p ∧
          ts.filterMap ProxyTransition.lease = [.create, .timeOut, .create, .destroy 0] ∧
            p.leases = ⟨1, [true]⟩ :=
    Machine.exists_run_of_exec
      [.createScopedWakelock, .tick 1000000001, .checkTimeout, .createScopedWakelock,
        .destroyScopedWakelock 0] (by decide)
  exact ⟨ts, p, hrun, hactions, hleases, leases_of_run (by decide) hrun⟩

/-- The last time that a reference was taken, or the time of the start. -/
def lastTaken (now : ℕ) (ts : List ProxyTransition) : ℕ :=
  ts.foldl (fun last t => if t.takesReference then t.pre.now else last) now

theorem mWakelockTimeoutStartTime_of_run
    (hrun : (proxyMachine kWakelockTimeoutNs).Run (.init mSensors quantumCount now) ts p) :
    p.wakelock.mWakelockTimeoutStartTime = lastTaken now ts := by
  refine hrun.history (I := fun ts p =>
    p.wakelock.mWakelockTimeoutStartTime = lastTaken now ts) rfl ?_
  intro ts t hbefore hstep ih
  rw [mWakelockTimeoutStartTime_step hstep (mThreadsRun_of_run hbefore), ih]
  unfold lastTaken
  rw [List.foldl_append, List.foldl_cons, List.foldl_nil]
  exact (apply_ite _ _ _ _).symm

/-- A positive count holds the kernel's lock, in every state of every run. -/
theorem held_of_run
    (hrun : (proxyMachine kWakelockTimeoutNs).Run (.init mSensors quantumCount now) ts p) :
    0 < p.wakelock.mWakelockRefCount → p.wakelock.held = true := by
  refine hrun.history (I := fun _ p => p.wakelock.HeldIfCounted) ?_ ?_
  · intro hpos
    cases hpos
  · intro ts t hbefore hstep ih
    exact heldIfCounted_step hstep (mThreadsRun_of_run hbefore) ih

/-- **Timeouts do not take away what came after them.**  While a `ScopedWakelock` is alive
that was created after the last timeout, the kernel's lock is held, if since that timeout no
more events have been acknowledged or given up than were posted. -/
theorem held_of_fresh (htimeout : 0 ≤ kWakelockTimeoutNs)
    (hrun : (proxyMachine kWakelockTimeoutNs).Run (.init mSensors quantumCount now) ts p)
    (hspent : givenBackSince (ts.filterMap ProxyTransition.lease) ≤
      takenSince (ts.filterMap ProxyTransition.lease))
    {i : ℕ} (hfresh : p.leases.fresh[i]? = some true) : p.wakelock.held = true := by
  have hcovered := Leases.covered (ts.filterMap ProxyTransition.lease)
  rw [← leases_of_run htimeout hrun] at hcovered
  have hone : 0 < p.leases.fresh.count true := List.count_pos_iff.2 (List.mem_of_getElem? hfresh)
  have hcount : 0 < p.wakelock.mWakelockRefCount := by
    show 0 < p.leases.count
    omega
  exact held_of_run hrun hcount

/-- The second `ScopedWakelock` holds the lock after the timeout, and the end of the first
leaves it. -/
theorem held_of_fresh_second :
    ∃ (ts : List ProxyTransition) (p : HalProxy),
      (proxyMachine 1000000000).Run (.init pickUpSensors 8 0) ts p ∧
        (∃ t ∈ ts, .timedOut ∈ t.out) ∧ p.wakelock.held = true := by
  obtain ⟨ts, p, hrun, hout, hspent, hfresh⟩ :
      ∃ (ts : List ProxyTransition) (p : HalProxy),
        (proxyMachine 1000000000).Run (.init pickUpSensors 8 0) ts p ∧
          (∃ t ∈ ts, .timedOut ∈ t.out) ∧
          givenBackSince (ts.filterMap ProxyTransition.lease) ≤
            takenSince (ts.filterMap ProxyTransition.lease) ∧
          p.leases.fresh[0]? = some true :=
    Machine.exists_run_of_exec
      [.createScopedWakelock, .tick 1000000001, .checkTimeout, .createScopedWakelock,
        .destroyScopedWakelock 0] (by decide)
  exact ⟨ts, p, hrun, hout, held_of_fresh (by decide) hrun hspent hfresh⟩

/-- An event is posted before the timeout and acknowledged after it: the lock is released
under a `ScopedWakelock` that was created in between. -/
theorem released_by_old_acknowledgement :
    ∃ (ts : List ProxyTransition) (p : HalProxy),
      (proxyMachine 1000000000).Run (.init pickUpSensors 8 0) ts p ∧
        p.leases.fresh = [false, true] ∧ p.wakelock.held = false :=
  Machine.exists_run_of_exec
    [.createScopedWakelock, .postEvents 0 [pickUpEvent true] (some 0) true, .read 1,
      .tick 1000000001, .checkTimeout, .createScopedWakelock, .acknowledge 1, .checkTimeout,
      .readBlocking true, .process] (by decide)

end Runs

end Sensors
