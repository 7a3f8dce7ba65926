/-
# When the polling sensors post

A one-shot sensor posts once and is then off until it is activated again (`OneShot`): at
every point of a run the events posted are no more than the times `activate` has switched
the sensor on, and between two posts it has been switched on again.  With the thread in
the class's own `run` this is so (`oneShot_of_run`).  The reason is a level that each state
has: one while the sensor is enabled or its thread is in `poll`, zero otherwise.  A post
lowers it, and only `activate` can raise it (`posts_add_armed_le`).

`Sensor::run` leaves `mIsEnabled` as it is when it posts.  `one_shot_iff` : the sensor is a
one-shot sensor in all its runs exactly if its thread has not entered that, or is told to
stop before it begins.

The thread is in `poll` without the lock, and when `poll` returns it does not look at
`mIsEnabled` and `mMode` again.  `posts_in_normal_mode_iff` says exactly when that
shows: a gesture that the controller reports to a thread whose sensor has been
disabled, or put into data injection, since it went into `poll` is posted all the
same.
-/
import PongHal.PollSensor

namespace Sensors

variable {K : PollSensorClass} {sensorHandle : Int32} {hasPipe hasNode inBase : Bool}
  {ts : List SensorTransition} {s : PollSensor}

/-! ## What a step can do -/

namespace PollSensor

/-- `interruptPoll` touches nothing but the pipe. -/
theorem interruptPoll_eq (s : PollSensor) :
    s.interruptPoll = { s with waitPipe := s.waitPipe + if s.hasPipe then 1 else 0 } := by
  rw [interruptPoll]
  split <;> rfl

@[simp] theorem mSensorInfo_interruptPoll : s.interruptPoll.mSensorInfo = s.mSensorInfo := by
  rw [interruptPoll_eq]

@[simp] theorem mIsEnabled_interruptPoll : s.interruptPoll.mIsEnabled = s.mIsEnabled := by
  rw [interruptPoll_eq]

@[simp] theorem mMode_interruptPoll : s.interruptPoll.mMode = s.mMode := by
  rw [interruptPoll_eq]

@[simp] theorem thread_interruptPoll : s.interruptPoll.thread = s.thread := by
  rw [interruptPoll_eq]

/-- From the head of the loop nothing changes but where the thread is. -/
theorem loop_eq (s : PollSensor) : s.loop = { s with thread := s.loop.thread } := by
  rw [loop]
  split
  · rfl
  · split <;> rfl

theorem thread_loop : s.loop.thread =
    if s.mStopThread then .stopped
    else if s.mIsEnabled = false ∨ s.mMode = .dataInjection then .waiting
    else .polling := by
  rw [loop]
  split
  · rfl
  · split <;> rfl

@[simp] theorem mSensorInfo_loop : s.loop.mSensorInfo = s.mSensorInfo := by
  rw [loop_eq]

@[simp] theorem mIsEnabled_loop : s.loop.mIsEnabled = s.mIsEnabled := by
  rw [loop_eq]

/-- The thread goes into `poll` only with the sensor enabled. -/
theorem mIsEnabled_of_thread_loop (h : s.loop.thread = .polling) : s.mIsEnabled = true := by
  rw [thread_loop] at h
  split at h
  · cases h
  · split at h
    · cases h
    · rename_i hrun
      rw [not_or, Bool.not_eq_false] at hrun
      exact hrun.1

/-- What `poll` reports makes the thread post: the call has not failed, the controller
has reported something, and the node reads as a gesture. -/
def gesture (K : PollSensorClass) (s : PollSensor) (rc : ℤ) (nodeRevents : ℕ)
    (node : NodeRead) : Bool :=
  decide (0 ≤ rc) && (decide (nodeRevents = pollErrPri) && (K.readNode node s.mScreen).1)

theorem nonneg_of_gesture {rc : ℤ} {nodeRevents : ℕ} {node : NodeRead}
    (h : s.gesture K rc nodeRevents node = true) : 0 ≤ rc := by
  rw [gesture, Bool.and_eq_true, decide_eq_true_iff] at h
  exact h.1

/-- The sensor after it has read the node, which it does when the controller has reported
something. -/
def looked (K : PollSensorClass) (s : PollSensor) (nodeRevents : ℕ) (node : NodeRead) :
    PollSensor :=
  { s with
    mScreen := if nodeRevents = pollErrPri then (K.readNode node s.mScreen).2 else s.mScreen }

/-- The ways a round of the thread can go after `poll`. -/
inductive Polled (K : PollSensorClass) (s : PollSensor) (rc : ℤ) (pipeRevents nodeRevents : ℕ)
    (node : NodeRead) (timestamp : Int64) : PollSensor → List SensorAction → Prop
  /-- The call has failed. -/
  | failed (hrc : rc < 0) (hquiet : s.gesture K rc nodeRevents node = false) :
      Polled K s rc pipeRevents nodeRevents node timestamp { s with mStopThread := true } []
  /-- A gesture: the thread posts it and disables the sensor. -/
  | posts (s' : PollSensor) (hfires : s.gesture K rc nodeRevents node = true)
      (hpost : s' = { s.looked K nodeRevents node with mIsEnabled := false }) :
      Polled K s rc pipeRevents nodeRevents node timestamp s'
        (writeGestureEnable K false ++ [.posted (s'.readEvents K timestamp) s'.isWakeUpSensor])
  /-- No gesture, and a byte in the pipe. -/
  | reads (hrc : 0 ≤ rc) (hquiet : s.gesture K rc nodeRevents node = false)
      (hreadable : pipeRevents = pollIn) (hbyte : s.waitPipe ≠ 0) :
      Polled K s rc pipeRevents nodeRevents node timestamp
        { s.looked K nodeRevents node with waitPipe := s.waitPipe - 1 } []
  /-- Neither. -/
  | idles (hrc : 0 ≤ rc) (hquiet : s.gesture K rc nodeRevents node = false)
      (hreadable : pipeRevents ≠ pollIn) :
      Polled K s rc pipeRevents nodeRevents node timestamp (s.looked K nodeRevents node) []

/-- A round goes in one of these ways. -/
theorem polled_iff {rc : ℤ} {pipeRevents nodeRevents : ℕ} {node : NodeRead} {timestamp : Int64}
    {s' : PollSensor} {out : List SensorAction} :
    s.polled K rc pipeRevents nodeRevents node timestamp = some (s', out) ↔
      s.Polled K rc pipeRevents nodeRevents node timestamp s' out := by
  have hlooked : (if nodeRevents = pollErrPri then
      { s with mScreen := (K.readNode node s.mScreen).2 } else s) =
      s.looked K nodeRevents node := by
    rw [looked]
    split <;> rfl
  have hgesture : 0 ≤ rc → (decide (nodeRevents = pollErrPri) && (K.readNode node s.mScreen).1) =
      s.gesture K rc nodeRevents node := by
    intro hrc
    rw [gesture, decide_eq_true hrc, Bool.true_and]
  constructor
  · intro h
    rw [polled] at h
    split at h
    · rename_i hrc
      cases h
      exact .failed hrc (by simp [gesture, hrc])
    rename_i hrc
    rw [not_lt] at hrc
    rw [hlooked, hgesture hrc] at h
    dsimp only at h
    split at h
    · rename_i hfires
      cases h
      exact .posts _ hfires rfl
    rename_i hquiet
    rw [Bool.not_eq_true] at hquiet
    split at h
    · rename_i hreadable
      split at h
      · cases h
      · rename_i hbyte
        cases h
        exact .reads hrc hquiet hreadable hbyte
    · rename_i hreadable
      cases h
      exact .idles hrc hquiet hreadable
  · intro h
    rw [polled]
    cases h with
    | failed hrc hquiet => rw [if_pos hrc]
    | posts s' hfires hpost =>
        have hrc : 0 ≤ rc := nonneg_of_gesture hfires
        rw [if_neg (not_lt.2 hrc), hlooked, hgesture hrc]
        dsimp only
        rw [if_pos hfires, hpost]
    | reads hrc hquiet hreadable hbyte =>
        have hbyte' : (s.looked K nodeRevents node).waitPipe ≠ 0 := hbyte
        rw [if_neg (not_lt.2 hrc), hlooked, hgesture hrc]
        dsimp only
        rw [if_neg (by simp [hquiet]), if_pos hreadable, if_neg hbyte']
        rfl
    | idles hrc hquiet hreadable =>
        rw [if_neg (not_lt.2 hrc), hlooked, hgesture hrc]
        dsimp only
        rw [if_neg (by simp [hquiet]), if_neg hreadable]

/-- After `poll` the thread posts one event and disables the sensor, or does neither. -/
theorem polled_cases {rc : ℤ} {pipeRevents nodeRevents : ℕ} {node : NodeRead}
    {timestamp : Int64} {s' : PollSensor} {out : List SensorAction}
    (h : s.polled K rc pipeRevents nodeRevents node timestamp = some (s', out)) :
    (s.gesture K rc nodeRevents node = false ∧
      out = [] ∧ s'.mSensorInfo = s.mSensorInfo ∧ s'.mIsEnabled = s.mIsEnabled) ∨
    (s.gesture K rc nodeRevents node = true ∧
      out = writeGestureEnable K false ++
        [.posted (s'.readEvents K timestamp) s'.isWakeUpSensor] ∧
      s'.mSensorInfo = s.mSensorInfo ∧ s'.mIsEnabled = false) := by
  cases polled_iff.1 h with
  | posts s' hfires hpost => exact .inr ⟨hfires, rfl, by rw [hpost]; rfl, by rw [hpost]⟩
  | failed hrc hquiet => exact .inl ⟨hquiet, rfl, rfl, rfl⟩
  | reads hrc hquiet hreadable hbyte => exact .inl ⟨hquiet, rfl, rfl, rfl⟩
  | idles hrc hquiet hreadable => exact .inl ⟨hquiet, rfl, rfl, rfl⟩

/-- A sensor that is not in data injection is in normal mode. -/
theorem mMode_eq_normal (h : s.mMode ≠ .dataInjection) : s.mMode = .normal := by
  cases hmode : s.mMode with
  | normal => rfl
  | dataInjection => exact absurd hmode h

/-- The sensor is enabled and in normal mode. -/
def On (s : PollSensor) : Prop := s.mIsEnabled = true ∧ s.mMode = .normal

instance (s : PollSensor) : Decidable s.On := inferInstanceAs (Decidable (_ ∧ _))

/-- `Sensor::run`, at the head of its loop, comes to sample. -/
def due (s : PollSensor) (now : Int64) : Bool :=
  !s.mStopThread && decide s.On && decide (s.mLastSampleTimeNs + s.mSamplingPeriodNs ≤ now)

theorem due_of_stopThread (hstop : s.mStopThread = true) (now : Int64) : s.due now = false := by
  simp [due, hstop]

theorem on_of_due {now : Int64} (h : s.due now = true) : s.On := by
  rw [due, Bool.and_eq_true, Bool.and_eq_true, decide_eq_true_iff] at h
  exact h.1.2

/-- Where `Sensor::run` leaves the thread. -/
def BasePlace (s : PollSensor) : RunThread → Prop
  | .stopped => s.mStopThread = true
  | .baseWaiting => s.mStopThread = false ∧ ¬ s.On
  | .sampling => s.mStopThread = false ∧ s.On
  | .starting | .waiting | .polling | .baseStarting => False

/-- A thread in `Sensor::run` samples when it is time, and otherwise nothing changes but
where it is. -/
theorem baseLoop_cases (s : PollSensor) (now timestamp : Int64) :
    (s.due now = true ∧ s.baseLoop K now timestamp =
      ({ s with mLastSampleTimeNs := now, thread := .sampling },
        [.posted (s.readEvents K timestamp) s.isWakeUpSensor])) ∨
    (s.due now = false ∧ ∃ thread, s.BasePlace thread ∧
      s.baseLoop K now timestamp = ({ s with thread := thread }, [])) := by
  rw [baseLoop]
  split
  · rename_i hstop
    exact .inr ⟨due_of_stopThread hstop now, .stopped, hstop, rfl⟩
  rename_i hgo
  rw [Bool.not_eq_true] at hgo
  split
  · rename_i hoff
    have hnot : ¬ s.On := by
      rintro ⟨henabled, hnormal⟩
      rcases hoff with hdisabled | hmode
      · rw [henabled] at hdisabled
        cases hdisabled
      · rw [hnormal] at hmode
        cases hmode
    exact .inr ⟨by simp [due, hnot], .baseWaiting, ⟨hgo, hnot⟩, rfl⟩
  rename_i hon
  rw [not_or, Bool.not_eq_false] at hon
  have hon' : s.On := ⟨hon.1, mMode_eq_normal hon.2⟩
  split
  · rename_i htime
    exact .inl ⟨by simp [due, hgo, hon', htime], rfl⟩
  · rename_i htime
    exact .inr ⟨by simp [due, htime], .sampling, ⟨hgo, hon'⟩, rfl⟩

end PollSensor

/-- A step of `Sensor::run`. -/
theorem takes_sample {s s' : PollSensor} {now timestamp : Int64} {out : List SensorAction}
    (hcan : s.canSample = true) (hloop : s.baseLoop K now timestamp = (s', out)) :
    (pollMachine K).Takes ⟨s, .sample now timestamp, out, s'⟩ := by
  show PollSensor.step K s (.sample now timestamp) = _
  rw [PollSensor.step, if_pos hcan, hloop]

/-- The steps of a sensor, one constructor for each way a call or a turn of the thread
can go. -/
inductive SensorStep (K : PollSensorClass) : SensorTransition → Prop
  | switched (s : PollSensor) (enable : Bool) (h : s.mIsEnabled ≠ enable) :
      SensorStep K ⟨s, .activate enable, PollSensor.writeGestureEnable K enable,
        PollSensor.interruptPoll { s with mIsEnabled := enable }⟩
  | unchanged (s : PollSensor) (enable : Bool) (h : s.mIsEnabled = enable) :
      SensorStep K ⟨s, .activate enable, [], s⟩
  | changedMode (s : PollSensor) (mode : OperationMode) :
      SensorStep K ⟨s, .setOperationMode mode, [], s.setOperationMode mode⟩
  | asked (s : PollSensor) (event : Event) :
      SensorStep K ⟨s, .injectEvent event, s.injectEvent event, s⟩
  | started (s : PollSensor) (h : s.thread = .starting) : SensorStep K ⟨s, .start, [], s.loop⟩
  | woken (s : PollSensor) (h : s.thread = .waiting) (hcan : s.canRun = true) :
      SensorStep K ⟨s, .wake, [], s.loop⟩
  /-- `poll` has returned and the thread posts nothing. -/
  | passed (s s' : PollSensor) (rc : ℤ) (pipeRevents nodeRevents : ℕ) (node : NodeRead)
      (timestamp : Int64) (h : s.thread = .polling)
      (hquiet : s.gesture K rc nodeRevents node = false)
      (hinfo : s'.mSensorInfo = s.mSensorInfo) (henabled : s'.mIsEnabled = s.mIsEnabled) :
      SensorStep K ⟨s, .poll rc pipeRevents nodeRevents node timestamp, [], s'.loop⟩
  /-- `poll` has returned and the thread posts. -/
  | fired (s s' : PollSensor) (rc : ℤ) (pipeRevents nodeRevents : ℕ) (node : NodeRead)
      (timestamp : Int64) (h : s.thread = .polling)
      (hfires : s.gesture K rc nodeRevents node = true)
      (hinfo : s'.mSensorInfo = s.mSensorInfo) (henabled : s'.mIsEnabled = false) :
      SensorStep K ⟨s, .poll rc pipeRevents nodeRevents node timestamp,
        PollSensor.writeGestureEnable K false ++
          [.posted (s'.readEvents K timestamp) s'.isWakeUpSensor], s'.loop⟩
  /-- A thread in `Sensor::run` posts. -/
  | sampled (s : PollSensor) (now timestamp : Int64) (h : s.canSample = true)
      (hdue : s.due now = true) :
      SensorStep K ⟨s, .sample now timestamp,
        [.posted (s.readEvents K timestamp) s.isWakeUpSensor],
        { s with mLastSampleTimeNs := now, thread := .sampling }⟩
  /-- A thread in `Sensor::run` waits, or ends. -/
  | turned (s : PollSensor) (now timestamp : Int64) (thread : RunThread)
      (h : s.canSample = true) (hquiet : s.due now = false) (hplace : s.BasePlace thread) :
      SensorStep K ⟨s, .sample now timestamp, [], { s with thread := thread }⟩

/-- The machine takes no other steps. -/
theorem sensorStep_of_takes {t : SensorTransition} (h : (pollMachine K).Takes t) :
    SensorStep K t := by
  obtain ⟨s, l, out, s'⟩ := t
  change PollSensor.step K s l = some (s', out) at h
  cases l with
  | activate enable =>
      simp only [PollSensor.step, PollSensor.activate] at h
      split at h
      · rename_i hne
        cases h
        exact .switched s enable hne
      · rename_i heq
        cases h
        exact .unchanged s enable (not_not.1 heq)
  | setOperationMode mode =>
      cases h
      exact .changedMode s mode
  | injectEvent event =>
      cases h
      exact .asked s event
  | start =>
      simp only [PollSensor.step] at h
      split at h
      · rename_i hstart
        cases h
        exact .started s hstart
      · cases h
  | wake =>
      simp only [PollSensor.step] at h
      split at h
      · rename_i hwait
        cases h
        exact .woken s hwait.1 hwait.2
      · cases h
  | sample now timestamp =>
      simp only [PollSensor.step] at h
      split at h
      swap
      · cases h
      rename_i hsample
      obtain ⟨hdue, hloop⟩ | ⟨hquiet, thread, hplace, hloop⟩ :=
        PollSensor.baseLoop_cases (K := K) s now timestamp
      · rw [hloop] at h
        cases h
        exact .sampled s now timestamp hsample hdue
      · rw [hloop] at h
        cases h
        exact .turned s now timestamp thread hsample hquiet hplace
  | poll rc pipeRevents nodeRevents node timestamp =>
      simp only [PollSensor.step] at h
      split at h
      swap
      · cases h
      rename_i hpoll
      obtain ⟨⟨s₁, out₁⟩, hpolled, heq⟩ := Option.map_eq_some_iff.1 h
      cases heq
      obtain ⟨hquiet, rfl, hinfo, henabled⟩ | ⟨hfires, rfl, hinfo, henabled⟩ :=
        PollSensor.polled_cases hpolled
      · exact .passed s s₁ rc _ _ node timestamp hpoll hquiet hinfo henabled
      · exact .fired s s₁ rc _ _ node timestamp hpoll hfires hinfo henabled

/-! ## Posts and activations -/

/-- The number of events an action posts. -/
def SensorAction.eventCount : SensorAction → ℕ
  | .posted events _ => events.length
  | .injected events _ => events.length
  | .wroteGestureEnable _ _ | .returned _ => 0

/-- The number of events a step posts. -/
def SensorTransition.posts (t : SensorTransition) : ℕ :=
  (t.out.map SensorAction.eventCount).sum

/-- The step is an `activate` that switches a disabled sensor on. -/
def SensorTransition.Enables (t : SensorTransition) : Prop :=
  t.label = .activate true ∧ t.pre.mIsEnabled = false ∧ t.post.mIsEnabled = true

instance (t : SensorTransition) : Decidable t.Enables := inferInstanceAs (Decidable (_ ∧ _ ∧ _))

/-- The step is a return of `poll` that makes the thread post. -/
def SensorTransition.fires (K : PollSensorClass) (t : SensorTransition) : Bool :=
  match t.label with
  | .poll rc _ nodeRevents node _ => t.pre.gesture K rc nodeRevents node
  | .activate _ | .setOperationMode _ | .injectEvent _ | .start | .wake | .sample _ _ => false

/-- The step is a post of `Sensor::run`. -/
def SensorTransition.samples (t : SensorTransition) : Bool :=
  match t.label with
  | .sample now _ => t.pre.due now
  | .activate _ | .setOperationMode _ | .injectEvent _ | .start | .wake | .poll _ _ _ _ _ => false

/-- The number of events posted in a run. -/
def eventsPosted (ts : List SensorTransition) : ℕ := (ts.map SensorTransition.posts).sum

/-- The number of times a run has switched the sensor on. -/
def activations (ts : List SensorTransition) : ℕ :=
  (ts.map fun t => if t.Enables then 1 else 0).sum

/-- Writing the enable node posts nothing. -/
@[simp] theorem sum_eventCount_writeGestureEnable (enable : Bool) :
    ((PollSensor.writeGestureEnable K enable).map SensorAction.eventCount).sum = 0 := by
  rw [PollSensor.writeGestureEnable]
  split <;> rfl

/-- No step changes what a sensor says of itself. -/
theorem mSensorInfo_step {t : SensorTransition} (h : (pollMachine K).Takes t) :
    t.post.mSensorInfo = t.pre.mSensorInfo := by
  cases sensorStep_of_takes h with
  | switched s enable hne => simp
  | changedMode s mode => simp [PollSensor.setOperationMode]
  | started s hstart => simp
  | woken s hwait hcan => simp
  | passed s s' rc pipeRevents nodeRevents node timestamp hpoll hquiet hinfo henabled =>
      rw [PollSensor.mSensorInfo_loop, hinfo]
  | fired s s' rc pipeRevents nodeRevents node timestamp hpoll hfires hinfo henabled =>
      rw [PollSensor.mSensorInfo_loop, hinfo]
  | _ => rfl

/-- No step gives a sensor data injection. -/
theorem supportsDataInjection_of_run {s₀ : PollSensor} (hrun : (pollMachine K).Run s₀ ts s)
    (hinject : s₀.supportsDataInjection = false) : s.supportsDataInjection = false := by
  refine hrun.invariant (I := fun s => s.supportsDataInjection = false) hinject ?_
  intro t hstep ih
  rw [PollSensor.supportsDataInjection, mSensorInfo_step hstep]
  exact ih

/-- None of the three classes has it. -/
theorem supportsDataInjection_construct :
    (PollSensor.construct K sensorHandle hasPipe hasNode inBase).supportsDataInjection =
      false := by
  show ((0 ||| oneShotMode ||| wakeUp) &&& dataInjectionFlag != 0) = false
  decide

/-- A sensor without data injection posts nothing for `injectEvent`. -/
theorem sum_eventCount_injectEvent (hinject : s.supportsDataInjection = false) (event : Event) :
    ((s.injectEvent event).map SensorAction.eventCount).sum = 0 := by
  rw [PollSensor.injectEvent]
  split
  · rfl
  · simp [hinject, SensorAction.eventCount]

/-- A step posts one event if `poll` has reported a gesture or `Sensor::run` samples, and
none otherwise. -/
theorem posts_step {t : SensorTransition} (h : (pollMachine K).Takes t)
    (hinject : t.pre.supportsDataInjection = false) :
    t.posts = (t.fires K || t.samples).toNat := by
  rw [SensorTransition.posts]
  cases sensorStep_of_takes h with
  | switched s enable hne => exact sum_eventCount_writeGestureEnable enable
  | asked s event => exact sum_eventCount_injectEvent hinject event
  | passed s s' rc pipeRevents nodeRevents node timestamp hpoll hquiet hinfo henabled =>
      simp only [SensorTransition.fires, hquiet]
      rfl
  | fired s s' rc pipeRevents nodeRevents node timestamp hpoll hfires hinfo henabled =>
      simp [SensorTransition.fires, hfires, SensorAction.eventCount, PollSensor.readEvents]
  | sampled s now timestamp hsample hdue =>
      simp [SensorTransition.samples, hdue, SensorAction.eventCount, PollSensor.readEvents]
  | turned s now timestamp thread hsample hquiet hplace =>
      simp [SensorTransition.fires, SensorTransition.samples, hquiet]
  | _ => rfl

theorem fires_or_samples_of_posts {t : SensorTransition} (h : (pollMachine K).Takes t)
    (hinject : t.pre.supportsDataInjection = false) (hposts : 0 < t.posts) :
    t.fires K = true ∨ t.samples = true := by
  rw [posts_step h hinject] at hposts
  cases hcause : t.fires K || t.samples with
  | false => simp [hcause] at hposts
  | true => exact Bool.or_eq_true_iff.1 hcause

/-! ## Which `run` the thread is in -/

/-- A thread in the class's own `run` does not sample. -/
theorem PollSensor.canSample_of_own (hown : s.thread.inBase = false) : s.canSample = false := by
  rw [canSample]
  cases hthread : s.thread <;> simp [hthread, RunThread.inBase] at hown ⊢

/-- It stays there. -/
theorem inBase_step {t : SensorTransition} (h : (pollMachine K).Takes t)
    (hown : t.pre.thread.inBase = false) : t.post.thread.inBase = false := by
  have hloop : ∀ s : PollSensor, s.loop.thread.inBase = false := by
    intro s
    rw [PollSensor.thread_loop]
    split
    · rfl
    · split <;> rfl
  cases sensorStep_of_takes h with
  | switched s enable hne => simpa using hown
  | changedMode s mode => simpa [PollSensor.setOperationMode] using hown
  | unchanged | asked => exact hown
  | started | woken | passed | fired => exact hloop _
  | sampled s now timestamp hcan hdue => simp [PollSensor.canSample_of_own hown] at hcan
  | turned s now timestamp thread hcan hquiet hplace =>
      simp [PollSensor.canSample_of_own hown] at hcan

theorem inBase_of_run {s₀ : PollSensor} (hrun : (pollMachine K).Run s₀ ts s)
    (hown : s₀.thread.inBase = false) : s.thread.inBase = false :=
  hrun.invariant (I := fun s => s.thread.inBase = false) hown fun _ hstep ih => inBase_step hstep ih

/-- In the class's own `run` only gestures are posted. -/
theorem posts_step_of_own {t : SensorTransition} (h : (pollMachine K).Takes t)
    (hinject : t.pre.supportsDataInjection = false) (hown : t.pre.thread.inBase = false) :
    t.posts = (t.fires K).toNat := by
  rw [posts_step h hinject]
  cases sensorStep_of_takes h with
  | sampled s now timestamp hcan hdue => simp [PollSensor.canSample_of_own hown] at hcan
  | turned s now timestamp thread hcan hquiet hplace =>
      simp [PollSensor.canSample_of_own hown] at hcan
  | _ => simp [SensorTransition.samples]

/-! ## One post for each activation -/

/-- The level of a state: one if the sensor can post without being activated again. -/
def PollSensor.armed (s : PollSensor) : ℕ :=
  if s.mIsEnabled = true ∨ s.thread = .polling then 1 else 0

theorem PollSensor.armed_le_one (s : PollSensor) : s.armed ≤ 1 := by
  rw [armed]
  split <;> omega

theorem PollSensor.armed_of_polling (h : s.thread = .polling) : s.armed = 1 :=
  if_pos (.inr h)

/-- Back at the head of the loop, only an enabled sensor is armed. -/
theorem PollSensor.armed_loop : s.loop.armed = if s.mIsEnabled = true then 1 else 0 := by
  rw [armed, mIsEnabled_loop]
  refine if_congr ⟨?_, .inl⟩ rfl rfl
  rintro (henabled | hpoll)
  · exact henabled
  · exact mIsEnabled_of_thread_loop hpoll

theorem PollSensor.armed_loop_le : s.loop.armed ≤ s.armed := by
  rw [armed_loop]
  split
  · rename_i henabled
    exact le_of_eq (if_pos (.inl henabled)).symm
  · exact Nat.zero_le _

/-- A step that posts lowers the level, and only an activation raises it. -/
theorem posts_add_armed_le {t : SensorTransition} (h : (pollMachine K).Takes t)
    (hinject : t.pre.supportsDataInjection = false) (hown : t.pre.thread.inBase = false) :
    t.posts + t.post.armed ≤ t.pre.armed + if t.Enables then 1 else 0 := by
  rw [posts_step_of_own h hinject hown]
  cases sensorStep_of_takes h with
  | switched s enable hne =>
      cases enable with
      | false =>
          simp only [SensorTransition.fires, PollSensor.armed, PollSensor.mIsEnabled_interruptPoll,
            PollSensor.thread_interruptPoll, Bool.false_eq_true, false_or]
          split <;> simp_all
      | true =>
          have hoff : s.mIsEnabled = false := by simpa using hne
          simp [SensorTransition.fires, SensorTransition.Enables, PollSensor.armed, hoff]
  | started s hstart =>
      have hlevel : s.loop.armed ≤ s.armed := PollSensor.armed_loop_le
      simp only [SensorTransition.fires, Bool.toNat_false]
      omega
  | woken s hwait hcan =>
      have hlevel : s.loop.armed ≤ s.armed := PollSensor.armed_loop_le
      simp only [SensorTransition.fires, Bool.toNat_false]
      omega
  | passed s s' rc pipeRevents nodeRevents node timestamp hpoll hquiet hinfo henabled =>
      -- the thread was in `poll`, so the level was one already
      have hlevel := s'.loop.armed_le_one
      rw [PollSensor.armed_of_polling hpoll]
      simp only [SensorTransition.fires, hquiet, Bool.toNat_false]
      omega
  | fired s s' rc pipeRevents nodeRevents node timestamp hpoll hfires hinfo henabled =>
      have hlevel : s'.loop.armed = 0 := by simp [PollSensor.armed_loop, henabled]
      rw [PollSensor.armed_of_polling hpoll, hlevel]
      simp only [SensorTransition.fires, hfires, Bool.toNat_true]
      omega
  | sampled s now timestamp hcan hdue => simp [PollSensor.canSample_of_own hown] at hcan
  | turned s now timestamp thread hcan hquiet hplace =>
      simp [PollSensor.canSample_of_own hown] at hcan
  | _ => simp [SensorTransition.fires, PollSensor.armed, PollSensor.setOperationMode]

/-- What the steps of a run from any state post is covered by that state's level and
the activations of the run. -/
theorem eventsPosted_add_armed_le {s₀ : PollSensor} (hrun : (pollMachine K).Run s₀ ts s)
    (hinject : s₀.supportsDataInjection = false) (hown : s₀.thread.inBase = false) :
    eventsPosted ts + s.armed ≤ s₀.armed + activations ts := by
  refine hrun.sum_add_le_of_steps ?_
  intro ts t hrun hstep
  exact posts_add_armed_le hstep (supportsDataInjection_of_run hrun hinject)
    (inBase_of_run hrun hown)

/-- A step that posts leaves the sensor unarmed, and is no activation. -/
theorem armed_eq_zero_of_posts {t : SensorTransition} (h : (pollMachine K).Takes t)
    (hinject : t.pre.supportsDataInjection = false) (hown : t.pre.thread.inBase = false)
    (hposts : 0 < t.posts) : t.post.armed = 0 ∧ ¬ t.Enables := by
  have hfires : t.fires K = true := by
    rw [posts_step_of_own h hinject hown] at hposts
    by_contra hnone
    rw [Bool.not_eq_true] at hnone
    simp [hnone] at hposts
  cases sensorStep_of_takes h with
  | passed s s' rc pipeRevents nodeRevents node timestamp hpoll hquiet hinfo henabled =>
      exact absurd hfires (by simp [SensorTransition.fires, hquiet])
  | fired s s' rc pipeRevents nodeRevents node timestamp hpoll hfires hinfo henabled =>
      exact ⟨by simp [PollSensor.armed_loop, henabled], by simp [SensorTransition.Enables]⟩
  | _ => exact absurd hfires (by simp [SensorTransition.fires])

/-- The run has switched the sensor on if it counts an activation. -/
theorem exists_enables_of_activations (h : 0 < activations ts) : ∃ t ∈ ts, t.Enables := by
  by_contra hnone
  push Not at hnone
  have hzero : activations ts = 0 := by
    rw [activations, List.sum_eq_zero]
    intro n hn
    obtain ⟨t, ht, rfl⟩ := List.mem_map.1 hn
    exact if_neg (hnone t ht)
  omega

/-- One post for each activation, in a run: the events posted are at most the times `activate`
has switched the sensor on, no step posts more than one, and between two posts `activate` has
switched the sensor on again. -/
def OneShot (ts : List SensorTransition) : Prop :=
  eventsPosted ts ≤ activations ts ∧ (∀ t ∈ ts, t.posts ≤ 1) ∧
    ∀ before t₁ between t₂ after, ts = before ++ t₁ :: (between ++ t₂ :: after) →
      0 < t₁.posts → 0 < t₂.posts → ∃ t ∈ between, t.Enables

/-- With its thread in the class's own `run` the sensor is a one-shot sensor. -/
theorem oneShot_of_run
    (hrun : (pollMachine K).Run (.construct K sensorHandle hasPipe hasNode false) ts s) :
    OneShot ts := by
  have hinject : ∀ {ts s},
      (pollMachine K).Run (.construct K sensorHandle hasPipe hasNode false) ts s →
      s.supportsDataInjection = false :=
    fun hrun => supportsDataInjection_of_run hrun supportsDataInjection_construct
  have hown : ∀ {ts s},
      (pollMachine K).Run (.construct K sensorHandle hasPipe hasNode false) ts s →
      s.thread.inBase = false := fun hrun => inBase_of_run hrun rfl
  refine ⟨?_, ?_, ?_⟩
  · have hall := eventsPosted_add_armed_le hrun supportsDataInjection_construct rfl
    have hstart : (PollSensor.construct K sensorHandle hasPipe hasNode false).armed = 0 := rfl
    omega
  · intro t ht
    obtain ⟨ts₁, ts₂, rfl, hrun₁, hstep⟩ := hrun.split_of_mem ht
    rw [posts_step hstep (hinject hrun₁)]
    exact Bool.toNat_le _
  · rintro before t₁ between t₂ after rfl hposts₁ hposts₂
    obtain ⟨hrun₁, hstep₁, hrest⟩ := hrun.of_append_cons
    obtain ⟨hbetween, hstep₂, -⟩ := hrest.of_append_cons
    -- after the first post the level is zero, so the second needs an activation
    obtain ⟨hlevel, -⟩ := armed_eq_zero_of_posts hstep₁ (hinject hrun₁) (hown hrun₁) hposts₁
    have hinject₁ := hinject (hrun₁.next hstep₁)
    have hown₁ := hown (hrun₁.next hstep₁)
    have hinject₂ := supportsDataInjection_of_run hbetween hinject₁
    have hown₂ := inBase_of_run hbetween hown₁
    obtain ⟨-, hpoll⟩ := armed_eq_zero_of_posts hstep₂ hinject₂ hown₂ hposts₂
    have hspent := eventsPosted_add_armed_le hbetween hinject₁ hown₁
    have hlast := posts_add_armed_le hstep₂ hinject₂ hown₂
    rw [if_neg hpoll] at hlast
    exact exists_enables_of_activations (by omega)

/-! ## `Sensor::run` -/

/-- A thread in `Sensor::run` that is told to stop posts nothing: all it does is end. -/
theorem oneShot_of_stopThread
    (hrun : (pollMachine K).Run (.construct K sensorHandle hasPipe hasNode true) ts s)
    (hclosed : (hasPipe && hasNode) = false) : OneShot ts := by
  -- the thread never comes to `poll`, and never samples
  have hstopped : ∀ {ts s},
      (pollMachine K).Run (.construct K sensorHandle hasPipe hasNode true) ts s →
      s.mStopThread = true ∧ (s.thread = .baseStarting ∨ s.thread = .stopped) := by
    intro ts s hrun
    refine hrun.invariant (I := fun s : PollSensor => s.mStopThread = true ∧
      (s.thread = .baseStarting ∨ s.thread = .stopped)) ?_ ?_
    · simp [PollSensor.construct, hclosed]
    rintro t hstep ⟨hstop, hthread⟩
    cases sensorStep_of_takes hstep with
    | switched s enable hne => simpa [PollSensor.interruptPoll_eq] using ⟨hstop, hthread⟩
    | changedMode s mode =>
        simpa [PollSensor.setOperationMode, PollSensor.interruptPoll_eq] using ⟨hstop, hthread⟩
    | unchanged | asked => exact ⟨hstop, hthread⟩
    | started s hat => simp [hat] at hthread
    | woken s hat hcan => simp [hat] at hthread
    | passed s s' rc pipeRevents nodeRevents node timestamp hat => simp [hat] at hthread
    | fired s s' rc pipeRevents nodeRevents node timestamp hat => simp [hat] at hthread
    | sampled s now timestamp hcan hdue => simp [PollSensor.due_of_stopThread hstop] at hdue
    | turned s now timestamp thread hcan hquiet hplace =>
        have hstop' : s.mStopThread = true := hstop
        refine ⟨hstop, .inr ?_⟩
        cases thread <;> simp_all [PollSensor.BasePlace]
  have hquiet : ∀ t ∈ ts, t.posts = 0 := by
    intro t ht
    obtain ⟨ts₁, ts₂, rfl, hrun₁, hstep⟩ := hrun.split_of_mem ht
    obtain ⟨hstop, hthread⟩ := hstopped hrun₁
    rw [posts_step hstep (supportsDataInjection_of_run hrun₁ supportsDataInjection_construct)]
    cases sensorStep_of_takes hstep with
    | fired s s' rc pipeRevents nodeRevents node timestamp hat => simp [hat] at hthread
    | passed s s' rc pipeRevents nodeRevents node timestamp hat => simp [hat] at hthread
    | sampled s now timestamp hcan hdue => simp [PollSensor.due_of_stopThread hstop] at hdue
    | turned s now timestamp thread hcan hquiet hplace =>
        simp [SensorTransition.fires, SensorTransition.samples, hquiet]
    | _ => rfl
  refine ⟨?_, fun t ht => (hquiet t ht).le.trans (Nat.zero_le _), ?_⟩
  · have hnone : eventsPosted ts = 0 := by
      rw [eventsPosted, List.sum_eq_zero]
      intro n hn
      obtain ⟨t, ht, rfl⟩ := List.mem_map.1 hn
      exact hquiet t ht
    omega
  · rintro before t₁ between t₂ after rfl hposts₁ -
    exact absurd (hquiet t₁ (by simp)) (by omega)

/-- A thread in `Sensor::run` that is not told to stop posts twice for one activation. -/
theorem exists_run_sampled (K : PollSensorClass) (sensorHandle : Int32) :
    ∃ ts s, (pollMachine K).Run (.construct K sensorHandle true true true) ts s ∧
      activations ts = 1 ∧ eventsPosted ts = 2 := by
  let s₀ := PollSensor.construct K sensorHandle true true true
  have hon : (pollMachine K).Takes ⟨s₀, .activate true, PollSensor.writeGestureEnable K true,
      PollSensor.interruptPoll { s₀ with mIsEnabled := true }⟩ := rfl
  have hsample : ∀ s : PollSensor, s.canSample = true → s.due 0 = true →
      (pollMachine K).Takes ⟨s, .sample 0 0, [.posted (s.readEvents K 0) s.isWakeUpSensor],
        { s with mLastSampleTimeNs := 0, thread := .sampling }⟩ := by
    intro s hcan hdue
    obtain ⟨-, hloop⟩ | ⟨hquiet, -⟩ := PollSensor.baseLoop_cases (K := K) s 0 0
    · exact takes_sample hcan hloop
    · simp [hquiet] at hdue
  have hrun := ((Machine.Run.start.next hon).next (hsample _ rfl rfl)).next
    (hsample _ rfl rfl)
  refine ⟨_, _, hrun, ?_, ?_⟩
  · rfl
  · simp [eventsPosted, SensorTransition.posts, SensorAction.eventCount, PollSensor.readEvents]

/-- **Exactly when a sensor is a one-shot sensor.**  In all runs of a sensor of any of the three
classes the events posted are at most the times `activate` has switched the sensor on, no step
posts more than one, and between two posts `activate` has switched the sensor on again, if and
only if the thread that `Sensor::Sensor` starts has not entered `Sensor::run`, or is told to
stop because the pipe or the node could not be opened. -/
theorem one_shot_iff :
    (∀ ts s, (pollMachine K).Run (.construct K sensorHandle hasPipe hasNode inBase) ts s →
      OneShot ts) ↔ (inBase = true → (hasPipe && hasNode) = false) := by
  constructor
  · rintro hall rfl
    by_contra hopen
    rw [Bool.not_eq_false, Bool.and_eq_true] at hopen
    obtain ⟨rfl, rfl⟩ := hopen
    obtain ⟨ts, s, hrun, hcalls, hposted⟩ := exists_run_sampled K sensorHandle
    have hfew := (hall ts s hrun).1
    omega
  · intro hclosed ts s hrun
    cases inBase with
    | false => exact oneShot_of_run hrun
    | true => exact oneShot_of_stopThread hrun (hclosed rfl)

/-- A single tap sensor whose thread is in `Sensor::run`: switched on once, it posts twice. -/
theorem one_shot_sampled :
    ∃ (ts : List SensorTransition) (s : PollSensor),
      (pollMachine singleTapSensor).Run (.construct singleTapSensor 7 true true true) ts s ∧
      ts.map (·.label) = [.activate true, .sample 100 100, .sample 200 200] ∧
      activations ts = 1 ∧ eventsPosted ts = 2 ∧ ¬ OneShot ts := by
  have htwice : ∃ (ts : List SensorTransition) (s : PollSensor),
      (pollMachine singleTapSensor).Run (.construct singleTapSensor 7 true true true) ts s ∧
      ts.map (·.label) = [.activate true, .sample 100 100, .sample 200 200] ∧
      activations ts = 1 ∧ eventsPosted ts = 2 :=
    Machine.exists_run_of_exec [.activate true, .sample 100 100, .sample 200 200] (by decide)
  obtain ⟨ts, s, hrun, hlabels, hcalls, hposted⟩ := htwice
  refine ⟨ts, s, hrun, hlabels, hcalls, hposted, ?_⟩
  rintro ⟨hfew, -⟩
  omega

/-! ## Posts of a sensor that is off -/

/-- `Sensor::run` looks before it posts. -/
theorem on_of_samples {t : SensorTransition} (h : t.samples = true) : t.pre.On := by
  obtain ⟨s, l, out, s'⟩ := t
  cases l with
  | sample now timestamp => exact PollSensor.on_of_due h
  | _ => cases h

/-- The step disables the sensor or puts it into data injection. -/
def SensorTransition.SwitchesOff (t : SensorTransition) : Prop :=
  t.label = .activate false ∨ t.label = .setOperationMode .dataInjection

/-- After such a call the sensor is off. -/
theorem not_on_of_switchesOff {t : SensorTransition} (h : (pollMachine K).Takes t)
    (hoff : t.SwitchesOff) : ¬ t.post.On := by
  rintro ⟨henabled, hmode⟩
  cases sensorStep_of_takes h with
  | switched s enable hne =>
      rcases hoff with hlabel | hlabel
      · cases hlabel
        simp at henabled
      · cases hlabel
  | unchanged s enable heq =>
      rcases hoff with hlabel | hlabel
      · cases hlabel
        simp [heq] at henabled
      · cases hlabel
  | changedMode s mode =>
      rcases hoff with hlabel | hlabel
      · cases hlabel
      · cases hlabel
        simp [PollSensor.setOperationMode] at hmode
  | _ => rcases hoff with hlabel | hlabel <;> cases hlabel

/-- **Exactly when nothing is posted while the sensor is off.**  In a run of a sensor of
any of the three classes every event is posted by a sensor that is enabled and in
normal mode just before the post, and after an `activate(false)` or a switch to data
injection nothing is posted until the sensor has been on again, if and only if no
`poll` reports a gesture while the sensor is disabled or in data injection. -/
theorem posts_in_normal_mode_iff
    (hrun : (pollMachine K).Run (.construct K sensorHandle hasPipe hasNode inBase) ts s) :
    ((∀ t ∈ ts, 0 < t.posts → t.pre.On) ∧
      ∀ before t₁ between t₂ after, ts = before ++ t₁ :: (between ++ t₂ :: after) →
        t₁.SwitchesOff → 0 < t₂.posts → ∃ t ∈ between, t.post.On) ↔
    ∀ t ∈ ts, ¬ t.pre.On → t.fires K = false := by
  have hinject : ∀ {ts s},
      (pollMachine K).Run (.construct K sensorHandle hasPipe hasNode inBase) ts s →
      s.supportsDataInjection = false :=
    fun hrun => supportsDataInjection_of_run hrun supportsDataInjection_construct
  constructor
  · rintro ⟨hon, -⟩ t ht hoff
    obtain ⟨ts₁, ts₂, rfl, hrun₁, hstep⟩ := hrun.split_of_mem ht
    have hnone : t.posts = 0 := by
      by_contra hposts
      exact hoff (hon t ht (Nat.pos_of_ne_zero hposts))
    rw [posts_step hstep (hinject hrun₁), Bool.toNat_eq_zero, Bool.or_eq_false_iff] at hnone
    exact hnone.1
  · intro hquiet
    have hon : ∀ t ∈ ts, 0 < t.posts → t.pre.On := by
      intro t ht hposts
      obtain ⟨ts₁, ts₂, rfl, hrun₁, hstep⟩ := hrun.split_of_mem ht
      by_contra hoff
      rcases fires_or_samples_of_posts hstep (hinject hrun₁) hposts with hfires | hsamples
      · rw [hquiet t ht hoff] at hfires
        exact Bool.noConfusion hfires
      · exact hoff (on_of_samples hsamples)
    refine ⟨hon, ?_⟩
    rintro before t₁ between t₂ after rfl hoff hposts
    obtain ⟨hrun₁, hstep₁, hrest⟩ := hrun.of_append_cons
    obtain ⟨hbetween, -, -⟩ := hrest.of_append_cons
    have hpre : t₂.pre.On := hon t₂ (by simp) hposts
    rcases hbetween.eq_start_or_exists_post with heq | ⟨t, ht, hpost⟩
    · -- nothing happens in between: the sensor is still off
      rw [heq] at hpre
      exact absurd hpre (not_on_of_switchesOff hstep₁ hoff)
    · exact ⟨t, ht, by rw [hpost]; exact hpre⟩

/-- A node that reads `1`. -/
def tapped : NodeRead where
  seek := 0
  count := 1
  c := '1'
  scanned := 0
  screenX := 0
  screenY := 0
  state := 0

/-- A tap while the sensor is on is posted while it is on. -/
theorem posts_in_normal_mode_iff_tap :
    ∃ (ts : List SensorTransition) (s : PollSensor),
      (pollMachine singleTapSensor).Run (.construct singleTapSensor 7 true true false) ts s ∧
      eventsPosted ts = 1 ∧ (∀ t ∈ ts, 0 < t.posts → t.pre.On) := by
  have htap : ∃ (ts : List SensorTransition) (s : PollSensor),
      (pollMachine singleTapSensor).Run (.construct singleTapSensor 7 true true false) ts s ∧
      eventsPosted ts = 1 ∧ ∀ t ∈ ts, ¬ t.pre.On → t.fires singleTapSensor = false :=
    Machine.exists_run_of_exec
      [.start, .activate true, .wake, .poll 1 0 pollErrPri tapped 100] (by decide)
  obtain ⟨ts, s, hrun, hposted, hquiet⟩ := htap
  exact ⟨ts, s, hrun, hposted, ((posts_in_normal_mode_iff hrun).2 hquiet).1⟩

/-- The sensor is disabled while its thread is in `poll`; the tap that ends the `poll`
is posted. -/
theorem posts_while_disabled :
    ∃ (ts : List SensorTransition) (s : PollSensor),
      (pollMachine singleTapSensor).Run (.construct singleTapSensor 7 true true false) ts s ∧
      ∃ t ∈ ts, 0 < t.posts ∧ ¬ t.pre.On :=
  Machine.exists_run_of_exec
    [.start, .activate true, .wake, .activate false, .poll 2 pollIn pollErrPri tapped 100]
    (by decide)

end Sensors
