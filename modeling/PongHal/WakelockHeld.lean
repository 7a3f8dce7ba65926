/-
# The kernel's lock and the count

Does the kernel hold the lock exactly while `mWakelockRefCount` is positive?
`wakelock_agrees_iff`: yes, up to the first post that takes no reference at a count
of zero, which acquires the lock without counting anything.  The pick-up filter of
`processEvents` is how such a post comes about: a sub-HAL that locks the wakelock
for its pick-up event may see the event filtered out.
-/
import PongHal.HalProxy

namespace Sensors

variable {kWakelockTimeoutNs : ℤ} {mSensors : SensorMap} {quantumCount now : ℕ}
  {ts : List ProxyTransition} {p : HalProxy}

/-! ## What never changes -/

/-- Whether the proxy's threads run is not changed by any step. -/
theorem mThreadsRun_step {t : ProxyTransition} (h : (proxyMachine kWakelockTimeoutNs).Takes t) :
    t.post.wakelock.mThreadsRun = t.pre.wakelock.mThreadsRun := by
  cases proxyStep_of_takes h with
  | posted p i events wakelock writeOk es hes hne hlive =>
      rw [p.wakelock_postEventsToMessageQueue]
      split <;> simp
  | timedOut p hpos => exact SharedWakelock.mThreadsRun_decrement
  | created p hrun => simp
  | destroyed p i createdAt hi => simp
  | gaveBack p events num rest table hwriter hfront htable => simp
  | processed p n hreader => simp
  | _ => rfl

theorem mThreadsRun_of_run
    (hrun : (proxyMachine kWakelockTimeoutNs).Run (.init mSensors quantumCount now) ts p) :
    p.wakelock.mThreadsRun = true := by
  refine hrun.invariant (I := fun p => p.wakelock.mThreadsRun = true) rfl ?_
  intro t hstep ih
  rw [mThreadsRun_step hstep, ih]

/-- No step changes a lookup in the table. -/
theorem getSensorInfo_step {t : ProxyTransition} (h : (proxyMachine kWakelockTimeoutNs).Takes t) :
    t.post.mSensors.getSensorInfo = t.pre.mSensors.getSensorInfo := by
  cases proxyStep_of_takes h with
  | posted p i events wakelock writeOk es hes hne hlive =>
      rw [(p.frame_postEventsToMessageQueue _ _ _ _).1]
  | gaveBack p events num rest table hwriter hfront htable => exact htable
  | _ => rfl

/-- Nor which events are wake-up events. -/
theorem isWakeup_step {t : ProxyTransition} (h : (proxyMachine kWakelockTimeoutNs).Takes t) :
    t.post.mSensors.isWakeup = t.pre.mSensors.isWakeup :=
  SensorMap.isWakeup_congr (getSensorInfo_step h)

theorem wakeups_of_run
    (hrun : (proxyMachine kWakelockTimeoutNs).Run (.init mSensors quantumCount now) ts p) :
    p.mSensors.wakeups = mSensors.wakeups := by
  have hsame : p.mSensors.isWakeup = mSensors.isWakeup := by
    refine hrun.invariant (I := fun p => p.mSensors.isWakeup = mSensors.isWakeup) rfl ?_
    intro t hstep ih
    rw [isWakeup_step hstep, ih]
  funext events
  rw [SensorMap.wakeups, SensorMap.wakeups, hsame]

/-! ## The count and the kernel's lock -/

/-- The step is a post with a locked wakelock that takes no reference, at a count of
zero. -/
def ProxyTransition.TakesNothing (t : ProxyTransition) : Prop :=
  match t.label with
  | .postEvents subHalIndex events (some _) _ =>
      events ≠ [] ∧ t.pre.wakelock.mWakelockRefCount = 0 ∧
        (processEvents t.pre.mSensors subHalIndex events).2 = 0
  | _ => False

instance (t : ProxyTransition) : Decidable t.TakesNothing :=
  match h : t.label with
  | .postEvents subHalIndex events (some _) _ =>
      decidable_of_iff (events ≠ [] ∧ t.pre.wakelock.mWakelockRefCount = 0 ∧
        (processEvents t.pre.mSensors subHalIndex events).2 = 0)
        (by simp [ProxyTransition.TakesNothing, h])
  | .postEvents _ _ none _ | .tick _ | .createScopedWakelock | .destroyScopedWakelock _
  | .select | .writeBlocking _ | .giveBack | .commit | .read _ | .acknowledge _
  | .checkTimeout | .readBlocking _ | .process =>
      isFalse (by simp [ProxyTransition.TakesNothing, h])

/-- A step keeps the agreement of count and lock exactly if it is not such a post. -/
theorem agrees_step_iff {t : ProxyTransition} (h : (proxyMachine kWakelockTimeoutNs).Takes t)
    (hrun : t.pre.wakelock.mThreadsRun = true) (hagrees : t.pre.wakelock.Agrees) :
    t.post.wakelock.Agrees ↔ ¬ t.TakesNothing := by
  cases proxyStep_of_takes h with
  | created p hthreads =>
      refine iff_of_true ((hagrees.increment_iff hrun).2 (by simp)) id
  | destroyed p i createdAt hi => exact iff_of_true hagrees.decrement id
  | ignored p i events wakelock writeOk hignored =>
      refine iff_of_true hagrees ?_
      cases wakelock with
      | none => exact id
      | some k =>
          rintro ⟨hne, -, -⟩
          rcases hignored with hnil | hstopped
          · exact hne hnil
          · rw [hstopped] at hrun
            simp at hrun
  | posted p i events wakelock writeOk es hes hne hlive =>
      rw [p.wakelock_postEventsToMessageQueue]
      cases wakelock with
      | none => exact iff_of_true hagrees id
      | some k =>
          have htaken : (processEvents p.mSensors i events).2 = p.mSensors.wakeups es := by
            rw [processEvents_snd, hes]
          rw [Option.isSome_some, if_pos rfl, hagrees.increment_iff hrun, ← htaken]
          simp only [ProxyTransition.TakesNothing]
          tauto
  | gaveBack p events num rest table hwriter hfront htable =>
      exact iff_of_true hagrees.decrement id
  | timedOut p hpos => exact iff_of_true hagrees.reset id
  | processed p n hreader => exact iff_of_true hagrees.decrement id
  | _ => exact iff_of_true hagrees id

/-- **The lock is held exactly while the count is positive, up to posts that take
nothing.**  In every state of a run the kernel's wake lock is held exactly when
`mWakelockRefCount` is positive, if and only if no step of the run posts, with a
locked wakelock and at a count of zero, events none of which is a wake-up event
after `processEvents`. -/
theorem wakelock_agrees_iff
    (hrun : (proxyMachine kWakelockTimeoutNs).Run (.init mSensors quantumCount now) ts p) :
    (∀ before p₁, before <+: ts →
      (proxyMachine kWakelockTimeoutNs).Run (.init mSensors quantumCount now) before p₁ →
        (p₁.wakelock.held = true ↔ 0 < p₁.wakelock.mWakelockRefCount)) ↔
    ∀ t ∈ ts, ¬ t.TakesNothing := by
  constructor
  · intro h t ht
    obtain ⟨ts₁, ts₂, rfl, hrun₁, hstep⟩ := hrun.split_of_mem ht
    have hpre : t.pre.wakelock.Agrees := h ts₁ t.pre ⟨t :: ts₂, rfl⟩ hrun₁
    have hpost : t.post.wakelock.Agrees :=
      h (ts₁ ++ [t]) t.post ⟨ts₂, by simp⟩ (hrun₁.next hstep)
    exact (agrees_step_iff hstep (mThreadsRun_of_run hrun₁) hpre).1 hpost
  · rintro hnothing before p₁ ⟨after, rfl⟩ hrun₁
    show p₁.wakelock.Agrees
    refine hrun₁.history_of_guard (G := fun t : ProxyTransition => ¬ t.TakesNothing)
      (I := fun _ p => p.wakelock.Agrees) ?_ ?_
      (fun t ht => hnothing t (List.mem_append_left _ ht))
    · simp [HalProxy.init, SharedWakelock.init, SharedWakelock.Agrees]
    · intro ts t hrun hstep hguard ih
      exact (agrees_step_iff hstep (mThreadsRun_of_run hrun) ih).2 hguard

/-- A table with one pick-up sensor, which is a wake-up sensor. -/
def pickUpSensors : SensorMap :=
  (∅ : SensorMap).insert 1 { sensorHandle := 1, type := pickUpGesture, flags := wakeUp }

/-- An event of that sensor: `lifted` says whether it carries a one. -/
def pickUpEvent (lifted : Bool) : Event where
  timestamp := 0
  sensorHandle := 1
  sensorType := pickUpGesture
  u := if lifted then floatOne else 0

/-- A sub-HAL takes a wakelock and posts after the timeout has reset the count.  The
one pick-up event is filtered out, so no reference is taken, and the lock is
acquired at a count of zero. -/
theorem lock_acquired_without_reference :
    ∃ (ts : List ProxyTransition) (p : HalProxy),
      (proxyMachine 1000000000).Run (.init pickUpSensors 8 0) ts p ∧
      p.wakelock.held = true ∧ p.wakelock.mWakelockRefCount = 0 :=
  Machine.exists_run_of_exec
    [.createScopedWakelock, .tick 2000000000, .checkTimeout,
      .postEvents 0 [pickUpEvent false] (some 0) true] (by decide)

/-- A pick-up event that is not filtered out, and a timeout after it: count and lock
agree all along. -/
theorem wakelock_agrees_past_timeout :
    ∃ (ts : List ProxyTransition) (p : HalProxy),
      (proxyMachine 1000000000).Run (.init pickUpSensors 8 0) ts p ∧
      (∃ t ∈ ts, t.pre.wakelock.mWakelockRefCount = 2) ∧ (∃ t ∈ ts, .timedOut ∈ t.out) ∧
      ∀ before p₁, before <+: ts →
        (proxyMachine 1000000000).Run (.init pickUpSensors 8 0) before p₁ →
          (p₁.wakelock.held = true ↔ 0 < p₁.wakelock.mWakelockRefCount) := by
  obtain ⟨ts, p, hrun, htwo, hout, hnothing⟩ :
      ∃ (ts : List ProxyTransition) (p : HalProxy),
        (proxyMachine 1000000000).Run (.init pickUpSensors 8 0) ts p ∧
        (∃ t ∈ ts, t.pre.wakelock.mWakelockRefCount = 2) ∧ (∃ t ∈ ts, .timedOut ∈ t.out) ∧
        ∀ t ∈ ts, ¬ ProxyTransition.TakesNothing t :=
    Machine.exists_run_of_exec
      [.createScopedWakelock, .postEvents 0 [pickUpEvent true, pickUpEvent false] (some 0) true,
        .destroyScopedWakelock 0, .tick 2000000000, .checkTimeout] (by decide)
  exact ⟨ts, p, hrun, htwo, hout, (wakelock_agrees_iff hrun).2 hnothing⟩

end Sensors
