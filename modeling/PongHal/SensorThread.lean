/-
# Where the thread of a polling sensor comes to rest

What a call changes reaches the thread in one of two ways: a byte in the wait pipe brings it
out of `poll`, and the condition variable out of its wait.  `interrupted` of `Attended` says
that no interruption is lost: while the thread is in `poll` and the sensor is off, a byte is
in the pipe or a `setOperationMode` has yet to write it.

`comes_to_rest` : between two calls the thread takes no more rounds than there are bytes
to read and reports of the controller, and from every state it reaches it can go on until
it is at rest.  At rest it waits if the sensor is off, and is in `poll` with an empty pipe if
the sensor is on.  That is the class's own `run`; in `Sensor::run` the thread has no rest
while the sensor is on.
-/
import PongHal.WaitPipe

namespace Sensors

variable {K : PollSensorClass} {sensorHandle : Int32} {hasPipe hasNode inBase : Bool}
  {π : Type} [BytePipe π] {ts ts₀ : List (CallTransition π)} {s s₀ : SensorCalls π}

/-! ## Rest -/

namespace PollSensor

/-- The thread has nothing to do: it has ended, waits while the sensor is off, or is in
`poll` with an empty pipe while it is on. -/
def AtRest (s : PollSensor) : Prop :=
  match s.thread with
  | .starting | .baseStarting | .sampling => False
  | .waiting | .baseWaiting => ¬ s.On
  | .polling => s.On ∧ s.waitPipe = 0
  | .stopped => s.mStopThread = true

/-- How many steps the thread is at most away from its rest, if the controller reports
nothing, and a thread in `Sensor::run` does not sample. -/
def stepsToRest (s : PollSensor) : ℕ :=
  match s.thread with
  | .starting => s.waitPipe + 1
  | .waiting => if s.canRun = true then s.waitPipe + 1 else 0
  | .polling => s.waitPipe
  | .baseStarting | .sampling => 1
  | .baseWaiting => if s.canRun = true then 1 else 0
  | .stopped => 0

variable {s : PollSensor}

theorem stepsToRest_le : s.stepsToRest ≤ s.waitPipe + 1 := by
  rw [stepsToRest]
  split
  · exact le_rfl
  · split <;> omega
  · exact Nat.le_succ _
  · exact Nat.le_add_left _ _
  · exact Nat.le_add_left _ _
  · split <;> omega
  · exact Nat.zero_le _

@[simp] theorem mStopThread_loop : s.loop.mStopThread = s.mStopThread := by
  rw [loop_eq]

@[simp] theorem mMode_loop : s.loop.mMode = s.mMode := by
  rw [loop_eq]

/-- Where the head of the loop leads. -/
theorem loop_cases (s : PollSensor) :
    (s.mStopThread = true ∧ s.loop.thread = .stopped) ∨
      (s.mStopThread = false ∧ ¬ s.On ∧ s.loop.thread = .waiting) ∨
      (s.mStopThread = false ∧ s.On ∧ s.loop.thread = .polling) := by
  rw [thread_loop]
  split
  · rename_i hstop
    exact .inl ⟨hstop, rfl⟩
  rename_i hgo
  rw [Bool.not_eq_true] at hgo
  split
  · rename_i hoff
    refine .inr (.inl ⟨hgo, ?_, rfl⟩)
    rintro ⟨henabled, hnormal⟩
    rcases hoff with hdisabled | hmode
    · rw [henabled] at hdisabled
      cases hdisabled
    · rw [hnormal] at hmode
      cases hmode
  · rename_i hon
    rw [not_or, Bool.not_eq_false] at hon
    exact .inr (.inr ⟨hgo, ⟨hon.1, mMode_eq_normal hon.2⟩, rfl⟩)

theorem canRun_iff : s.canRun = true ↔ s.On ∨ s.mStopThread = true := by
  rw [canRun, Bool.or_eq_true, Bool.and_eq_true, decide_eq_true_iff, On]

/-- From the head of the loop the thread is no more steps away than the pipe has bytes. -/
theorem stepsToRest_loop_le : s.loop.stepsToRest ≤ s.waitPipe := by
  rcases s.loop_cases with ⟨-, hthread⟩ | ⟨hgo, hoff, hthread⟩ | ⟨-, -, hthread⟩
  · simp only [stepsToRest, hthread]
    exact Nat.zero_le _
  · have hcannot : ¬ s.loop.canRun = true := by
      rw [canRun_iff, not_or]
      simpa [hgo, On] using hoff
    simp only [stepsToRest, hthread]
    rw [if_neg hcannot]
    exact Nat.zero_le _
  · simp only [stepsToRest, hthread]
    exact waitPipe_loop.le

/-- At the head of the loop the thread does not go into `poll`, nor to sample. -/
def Leaves (s : PollSensor) : Prop := s.On → s.mStopThread = true

end PollSensor

/-- Nobody has anything to do: the thread is at rest, and no `setOperationMode` has yet to
write, or those that have wait for a full pipe. -/
def SensorCalls.AtRest (s : SensorCalls π) : Prop :=
  s.sensor.AtRest ∧ (s.interrupting = 0 ∨ s.pipeFull = true)

/-! ## No interruption is lost -/

/-- The thread is where `mStopThread` lets it be, and it has a pipe unless it is told to
stop. -/
structure PollSensor.Placed (s : PollSensor) : Prop where
  hasPipe : s.mStopThread = false → s.hasPipe = true
  running : s.thread = .polling ∨ s.thread = .waiting → s.mStopThread = false
  stopped : s.thread = .stopped → s.mStopThread = true

/-- While the thread is in `poll` and the sensor is off, an interruption is on its way: a byte,
or one of the `interrupting` calls that have yet to write it. -/
structure PollSensor.Attended (s : PollSensor) (interrupting : ℕ) : Prop where
  placed : s.Placed
  interrupted : s.thread = .polling → s.On ∨ 0 < s.waitPipe ∨ 0 < interrupting

/-- At the head of the loop the thread sees what the calls have changed. -/
theorem attended_loop {x : PollSensor} (hpipe : x.mStopThread = false → x.hasPipe = true) (n : ℕ) :
    x.loop.Attended n := by
  have hkept : x.loop.mStopThread = false → x.loop.hasPipe = true := by
    simpa using hpipe
  rcases x.loop_cases with ⟨hstop, hthread⟩ | ⟨hgo, -, hthread⟩ | ⟨hgo, hon, hthread⟩
  · exact ⟨⟨hkept, by simp [hthread], by simp [hstop]⟩, by simp [hthread]⟩
  · exact ⟨⟨hkept, by simp [hgo], by simp [hthread]⟩, by simp [hthread]⟩
  · exact ⟨⟨hkept, by simp [hgo], by simp [hthread]⟩,
      fun _ => .inl (by simpa [PollSensor.On] using hon)⟩

/-- The byte of a call brings the thread out of `poll`. -/
theorem attended_interruptPoll {x : PollSensor} (hplaced : x.Placed) (n : ℕ) :
    x.interruptPoll.Attended n := by
  refine ⟨?_, fun hpoll => ?_⟩
  · rw [PollSensor.interruptPoll_eq]
    exact ⟨hplaced.hasPipe, hplaced.running, hplaced.stopped⟩
  · rw [PollSensor.thread_interruptPoll] at hpoll
    have hpipe := hplaced.hasPipe (hplaced.running (.inl hpoll))
    refine .inr (.inl ?_)
    rw [PollSensor.waitPipe_interruptPoll, if_pos hpipe]
    exact Nat.succ_pos _

/-- `Sensor::run` goes into no `poll`. -/
theorem attended_basePlace {x : PollSensor} {thread : RunThread}
    (hpipe : x.mStopThread = false → x.hasPipe = true) (hplace : x.BasePlace thread) (n : ℕ) :
    PollSensor.Attended { x with thread := thread } n := by
  refine ⟨⟨hpipe, ?_, ?_⟩, ?_⟩
  · rintro (hthread | hthread) <;> cases hthread <;> exact hplace.elim
  · intro hthread
    cases hthread
    exact hplace
  · intro hthread
    cases hthread
    exact hplace.elim

/-- A thread that is told to stop is not told otherwise. -/
theorem mStopThread_step {t : SensorTransition} (h : (pollMachine K).Takes t)
    (hstop : t.pre.mStopThread = true) : t.post.mStopThread = true := by
  obtain ⟨s, l, out, s'⟩ := t
  change PollSensor.step K s l = some (s', out) at h
  cases l with
  | activate enable =>
      simp only [PollSensor.step, PollSensor.activate] at h
      split at h <;> cases h <;> simpa [PollSensor.interruptPoll_eq] using hstop
  | setOperationMode mode =>
      cases h
      simpa [PollSensor.setOperationMode, PollSensor.interruptPoll_eq] using hstop
  | injectEvent event =>
      cases h
      exact hstop
  | start | wake =>
      obtain ⟨-, hr⟩ := Option.ite_none_right_eq_some.1 h
      cases hr
      simpa using hstop
  | sample now timestamp =>
      obtain ⟨-, hr⟩ := Option.ite_none_right_eq_some.1 h
      rw [Option.some.injEq] at hr
      obtain ⟨-, hloop⟩ | ⟨-, thread, -, hloop⟩ :=
        PollSensor.baseLoop_cases (K := K) s now timestamp
      · rw [hloop] at hr
        cases hr
        exact hstop
      · rw [hloop] at hr
        cases hr
        exact hstop
  | poll rc pipeRevents nodeRevents node timestamp =>
      obtain ⟨-, hr⟩ := Option.ite_none_right_eq_some.1 h
      obtain ⟨⟨s₁, out₁⟩, hpolled, heq⟩ := Option.map_eq_some_iff.1 hr
      cases heq
      cases PollSensor.polled_iff.1 hpolled with
      | failed hrc hquiet => simp
      | posts s' hfires hpost =>
          rw [hpost]
          simpa [PollSensor.looked] using hstop
      | reads hrc hquiet hreadable hbyte => simpa [PollSensor.looked] using hstop
      | idles hrc hquiet hreadable => simpa [PollSensor.looked] using hstop

/-- The thread has a pipe as long as it is not told to stop. -/
theorem hasPipe_of_takes {t : SensorTransition} (h : (pollMachine K).Takes t)
    (hpipe : t.pre.mStopThread = false → t.pre.hasPipe = true) :
    t.post.mStopThread = false → t.post.hasPipe = true := by
  intro hgo
  rw [PollSensor.hasPipe_step h]
  refine hpipe (Bool.not_eq_true _ ▸ fun hstop => ?_)
  rw [mStopThread_step h hstop] at hgo
  cases hgo

/-- Every step of a sensor keeps it, but a `setOperationMode`, which is taken apart. -/
theorem attended_takes {t : SensorTransition} {n : ℕ} (h : (pollMachine K).Takes t)
    (hmode : ∀ mode, t.label ≠ .setOperationMode mode) (hpre : t.pre.Attended n) :
    t.post.Attended n := by
  obtain ⟨hplaced, hinterrupted⟩ := hpre
  have hpipe := hasPipe_of_takes h hplaced.hasPipe
  cases sensorStep_of_takes h with
  | switched s enable hne =>
      have hswitched : PollSensor.Placed { s with mIsEnabled := enable } :=
        ⟨hplaced.hasPipe, hplaced.running, hplaced.stopped⟩
      exact attended_interruptPoll hswitched _
  | changedMode s mode => exact absurd rfl (hmode mode)
  | unchanged | asked => exact ⟨hplaced, hinterrupted⟩
  | started | woken | passed | fired => exact attended_loop (by simpa using hpipe) _
  | sampled s now timestamp hcan hdue => exact ⟨⟨hplaced.hasPipe, by simp, by simp⟩, by simp⟩
  | turned s now timestamp thread hcan hquiet hplace =>
      exact attended_basePlace hplaced.hasPipe hplace _

/-- So do the calls. -/
theorem attended_step {t : CallTransition π} (h : (callMachine K).Takes t)
    (htied : t.pre.Tied) (hpre : t.pre.sensor.Attended t.pre.interrupting) :
    t.post.sensor.Attended t.post.interrupting := by
  cases callStep_of_takes h with
  | waits s enable hfree hne hfull =>
      obtain ⟨hplaced, -⟩ := hpre
      exact ⟨⟨hplaced.hasPipe, hplaced.running, hplaced.stopped⟩,
        fun _ => .inr (.inl (PipedSensor.waitPipe_pos htied hfull))⟩
  | changesMode s mode hfree =>
      obtain ⟨hplaced, -⟩ := hpre
      exact ⟨⟨hplaced.hasPipe, hplaced.running, hplaced.stopped⟩,
        fun _ => .inr (.inr (Nat.succ_pos _))⟩
  | takes s l s' out hlock hmode hroom hstep => exact attended_takes hstep hmode hpre
  | interrupts s hcall hroom => exact attended_interruptPoll hpre.placed _
  | unblocks s hblocked hroom => exact attended_interruptPoll hpre.placed _

theorem attended_of_run
    (hrun : (callMachine K).Run (.construct K sensorHandle hasPipe hasNode inBase) ts s) :
    s.sensor.Attended s.interrupting := by
  refine hrun.history (I := fun _ s => s.sensor.Attended s.interrupting) ?_ ?_
  · refine ⟨⟨?_, ?_, ?_⟩, ?_⟩
    · show (!(hasPipe && hasNode)) = false → hasPipe = true
      cases hasPipe <;> simp
    all_goals
      simp only [SensorCalls.construct, PollSensor.construct]
      cases inBase <;> simp
  · intro ts t hbefore hstep hpre
    exact attended_step hstep (tied_of_run hbefore) hpre

/-- A thread in the class's own `run` stays there, whatever the calls do. -/
theorem inBase_of_callRun
    (hrun : (callMachine K).Run (.construct K sensorHandle hasPipe hasNode false) ts s) :
    s.sensor.thread.inBase = false := by
  obtain ⟨ts', hrun', -⟩ := run_of_callRun hrun
  have hsettled : s.settled.thread.inBase = false := inBase_of_run hrun' rfl
  exact hsettled

/-! ## The way to rest -/

/-- A step of the thread or of a call under way, as opposed to a new call. -/
def CallLabel.goesOn : CallLabel → Bool
  | .call .start | .call .wake | .call (.sample _ _) | .call (.poll _ _ _ _ _)
  | .interruptPoll | .unblock => true
  | .call (.activate _) | .call (.setOperationMode _) | .call (.injectEvent _) => false

/-- The rounds in a step that read nothing from the pipe: `poll` has failed or has returned
for the controller. -/
def PollSensor.reports (K : PollSensorClass) (s : PollSensor) : SensorLabel → ℕ
  | .poll rc pipeRevents nodeRevents node timestamp =>
      1 - s.pipeReads K (.poll rc pipeRevents nodeRevents node timestamp)
  | .activate _ | .setOperationMode _ | .injectEvent _ | .start | .wake | .sample _ _ => 0

/-- The same among the calls. -/
def CallTransition.reports (K : PollSensorClass) (t : CallTransition π) : ℕ :=
  match t.label with
  | .call l => t.pre.sensor.reports K l
  | .interruptPoll | .unblock => 0

/-- The rounds of a run that do. -/
def reports (K : PollSensorClass) (ts : List (CallTransition π)) : ℕ :=
  (ts.map (CallTransition.reports K)).sum

/-- How many steps a sensor is at most away from its rest. -/
def SensorCalls.stepsToRest (s : SensorCalls π) : ℕ :=
  2 * s.interrupting + s.sensor.stepsToRest

/-- A byte more in the pipe is at most a step more for the thread. -/
theorem stepsToRest_interruptPoll_le {s : PollSensor} :
    s.interruptPoll.stepsToRest ≤ s.stepsToRest + 1 := by
  have hbytes : s.interruptPoll.waitPipe ≤ s.waitPipe + 1 := by
    rw [PollSensor.waitPipe_interruptPoll]
    split <;> omega
  have hcan : s.interruptPoll.canRun = s.canRun := by
    rw [PollSensor.interruptPoll_eq]
    rfl
  simp only [PollSensor.stepsToRest, PollSensor.thread_interruptPoll, hcan]
  cases s.thread with
  | starting => exact Nat.succ_le_succ hbytes
  | waiting =>
      dsimp only
      split <;> omega
  | polling => exact hbytes
  | baseWaiting => exact Nat.le_succ _
  | baseStarting | sampling => exact Nat.le_succ _
  | stopped => exact Nat.zero_le _

/-- A turn of the thread brings it nearer to its rest, unless the controller has reported
something. -/
theorem stepsToRest_turn {s s' : PollSensor} {l : SensorLabel} {out : List SensorAction}
    (h : (pollMachine K).Takes ⟨s, l, out, s'⟩) (hgoes : CallLabel.goesOn (.call l) = true)
    (hleaves : s.thread.inBase = true → s.Leaves) :
    1 + s'.stepsToRest ≤ s.stepsToRest + s.reports K l := by
  have hpipe := PollSensor.waitPipe_step h
  -- a thread in `Sensor::run` that comes to the head of its loop is one step from rest
  have hbase : s.canSample = true → s.thread.inBase = true ∧ s.stepsToRest = 1 := by
    intro hcan
    rw [PollSensor.canSample] at hcan
    rw [PollSensor.stepsToRest]
    cases hthread : s.thread <;> simp_all [RunThread.inBase]
  cases sensorStep_of_takes h with
  | switched | unchanged | changedMode | asked => cases hgoes
  | started s hstart =>
      have hle := s.stepsToRest_loop_le
      have hpre : s.stepsToRest = s.waitPipe + 1 := by
        rw [PollSensor.stepsToRest, hstart]
      omega
  | woken s hwait hcan =>
      have hle := s.stepsToRest_loop_le
      have hpre : s.stepsToRest = s.waitPipe + 1 := by
        rw [PollSensor.stepsToRest, hwait]
        exact if_pos hcan
      omega
  | passed s s' rc pipeRevents nodeRevents node timestamp hpoll hquiet hinfo henabled
  | fired s s' rc pipeRevents nodeRevents node timestamp hpoll hquiet hinfo henabled =>
      have hle := s'.stepsToRest_loop_le
      have hone := s.pipeReads_le_one (K := K) (.poll rc pipeRevents nodeRevents node timestamp)
      have hpre : s.stepsToRest = s.waitPipe := by
        rw [PollSensor.stepsToRest, hpoll]
      simp only [PollSensor.waitPipe_loop, PollSensor.pipeWrites] at hpipe
      simp only [PollSensor.reports]
      omega
  | sampled s now timestamp hcan hdue =>
      have hstop := hleaves (hbase hcan).1 (PollSensor.on_of_due hdue)
      simp [PollSensor.due_of_stopThread hstop] at hdue
  | turned s now timestamp thread hcan hquiet hplace =>
      obtain ⟨hin, hpre⟩ := hbase hcan
      have hpost : PollSensor.stepsToRest { s with thread := thread } = 0 := by
        cases thread with
        | stopped => rfl
        | baseWaiting =>
            obtain ⟨hgo, hoff⟩ := hplace
            refine if_neg ?_
            rw [PollSensor.canRun_iff]
            simpa [hgo, PollSensor.On] using hoff
        | sampling =>
            obtain ⟨hgo, hon⟩ := hplace
            rw [hleaves hin hon] at hgo
            cases hgo
        | starting | waiting | polling | baseStarting => exact hplace.elim
      omega

/-- A step that is not a new call brings the sensor nearer to its rest, unless the
controller has reported something. -/
theorem stepsToRest_step {t : CallTransition π} (h : (callMachine K).Takes t)
    (hfree : t.pre.blocked = false) (hown : t.pre.sensor.thread.inBase = false)
    (hgoes : t.label.goesOn = true) :
    1 + t.post.stepsToRest ≤ t.pre.stepsToRest + t.reports K := by
  cases callStep_of_takes h with
  | waits s enable hlock hne hfull => cases hgoes
  | changesMode s mode hlock => cases hgoes
  | interrupts s hcall hroom =>
      have hthread := stepsToRest_interruptPoll_le (s := s.sensor)
      simp only [SensorCalls.stepsToRest, PipedSensor.sensor_move]
      omega
  | unblocks s hblocked hroom =>
      rw [show s.blocked = false from hfree] at hblocked
      cases hblocked
  | takes s l s' out hlock hmode hroom hstep =>
      have hturn := stepsToRest_turn hstep hgoes fun hin => by simp [hown] at hin
      simp only [SensorCalls.stepsToRest, PipedSensor.sensor_move, CallTransition.reports]
      omega

/-- Nothing but a new call can come to wait for the pipe. -/
theorem blocked_step {t : CallTransition π} (h : (callMachine K).Takes t)
    (hgoes : t.label.goesOn = true) (hfree : t.pre.blocked = false) : t.post.blocked = false := by
  cases callStep_of_takes h with
  | waits s enable hlock hne hfull => cases hgoes
  | changesMode s mode hlock => cases hgoes
  | takes | interrupts => exact hfree
  | unblocks s hblocked hroom => rfl

/-- The round in which `poll` returns for the pipe alone. -/
theorem takes_read {s : PollSensor} (hthread : s.thread = .polling) (hbyte : s.waitPipe ≠ 0) :
    (pollMachine K).Takes ⟨s, .poll 1 pollIn 0 tapped 0, [],
      PollSensor.loop { s with waitPipe := s.waitPipe - 1 }⟩ := by
  have hquiet : s.gesture K 1 0 tapped = false := rfl
  have hreads : s.Polled K 1 pollIn 0 tapped 0 { s with waitPipe := s.waitPipe - 1 } [] :=
    .reads (by decide) hquiet rfl hbyte
  show PollSensor.step K s (.poll 1 pollIn 0 tapped 0) = _
  rw [PollSensor.step, if_pos hthread, PollSensor.polled_iff.2 hreads]
  rfl

/-- A thread short of its rest can take its next turn without the controller. -/
theorem exists_turn_of_not_atRest {s : PollSensor} (hplaced : s.Placed)
    (hown : s.thread.inBase = false) (hrest : ¬ s.AtRest)
    (hinterrupted : s.thread = .polling → s.On ∨ 0 < s.waitPipe) :
    ∃ l s', (pollMachine K).Takes ⟨s, l, [], s'⟩ ∧ CallLabel.goesOn (.call l) = true ∧
      s.reports K l = 0 := by
  rw [PollSensor.AtRest] at hrest
  cases hthread : s.thread with
  | starting => exact ⟨.start, s.loop, if_pos hthread, rfl, rfl⟩
  | waiting =>
      rw [hthread] at hrest
      have hcan : s.canRun = true := PollSensor.canRun_iff.2 (.inl (not_not.1 hrest))
      exact ⟨.wake, s.loop, if_pos ⟨hthread, hcan⟩, rfl, rfl⟩
  | stopped =>
      rw [hthread] at hrest
      exact absurd (hplaced.stopped hthread) hrest
  | polling =>
      rw [hthread] at hrest
      have hbyte : s.waitPipe ≠ 0 := by
        intro hempty
        rcases hinterrupted hthread with hon | hpos
        · exact hrest ⟨hon, hempty⟩
        · exact absurd hpos (by omega)
      exact ⟨_, _, takes_read hthread hbyte, rfl, rfl⟩
  | baseStarting | baseWaiting | sampling => simp [hthread, RunThread.inBase] at hown

/-- A turn of the thread is a step here while nobody has the lock. -/
theorem takes_of_turn {l : SensorLabel} {s' : PollSensor} {out : List SensorAction}
    (h : (pollMachine K).Takes ⟨s.sensor, l, out, s'⟩) (hfree : s.blocked = false)
    (hgoes : CallLabel.goesOn (.call l) = true) :
    (callMachine K).Takes ⟨s, .call l, out, ⟨s.move s', s.interrupting, s.blocked⟩⟩ := by
  have hinner : s.sensor.step K l = some (s', out) := h
  have hunlocked : ¬ (s.blocked && l.takesLock) = true := by
    simp [hfree]
  show SensorCalls.step K s (.call l) = _
  rw [SensorCalls.step, if_neg hunlocked]
  cases l with
  | activate | setOperationMode | injectEvent => cases hgoes
  | start | wake | sample | poll => simp only [SensorCalls.call, hinner, Option.map_some]

/-- Short of its rest the sensor can go on without the controller. -/
theorem exists_step_of_not_atRest (htied : s.Tied) (hown : s.sensor.thread.inBase = false)
    (hattended : s.sensor.Attended s.interrupting) (hfree : s.blocked = false)
    (hrest : ¬ s.AtRest) :
    ∃ t : CallTransition π, (callMachine K).Takes t ∧ t.pre = s ∧ t.label.goesOn = true ∧
      t.reports K = 0 := by
  obtain ⟨hplaced, hinterrupted⟩ := hattended
  by_cases hwrite : 0 < s.interrupting ∧ s.pipeFull = false
  · have hstep : (callMachine K).Takes ⟨s, .interruptPoll, [],
        ⟨s.move s.sensor.interruptPoll, s.interrupting - 1, s.blocked⟩⟩ := by
      show s.step K .interruptPoll = _
      rw [SensorCalls.step, if_pos hwrite]
    exact ⟨_, hstep, rfl, rfl, rfl⟩
  -- no call under way can write: none is left, or the pipe is full
  have hcalls : s.interrupting = 0 ∨ s.pipeFull = true := by
    rw [not_and_or, Bool.not_eq_false] at hwrite
    exact hwrite.imp (fun hnone => by omega) id
  have hpoll : s.sensor.thread = .polling → s.sensor.On ∨ 0 < s.sensor.waitPipe := by
    intro hthread
    rcases hcalls with hnone | hfull
    · rcases hinterrupted hthread with hon | hpos | hcall
      · exact .inl hon
      · exact .inr hpos
      · exact absurd hcall (by omega)
    · exact .inr (PipedSensor.waitPipe_pos htied hfull)
  obtain ⟨l, s', hturn, hgoes, hreports⟩ :=
    exists_turn_of_not_atRest hplaced hown (fun h => hrest ⟨h, hcalls⟩) hpoll
  exact ⟨_, takes_of_turn hturn hfree hgoes, rfl, hgoes, hreports⟩

/-- **A sensor left alone comes to rest.**  Its thread is in the class's own `run`.  From every
state in which no `activate` waits for a full pipe, and as long as there is no new call: the
steps of the thread and of the calls under way are no more than two for each of those calls,
one for each byte in the pipe, one for each report of the controller and one more; and until
the sensor is at rest the next of them can be taken without any report. -/
theorem comes_to_rest
    (hrun₀ : (callMachine K).Run (.construct K sensorHandle hasPipe hasNode false) ts₀ s₀)
    (hfree : s₀.blocked = false) (hrun : (callMachine K).Run s₀ ts s)
    (hgoes : ∀ t ∈ ts, t.label.goesOn = true) :
    ts.length ≤ 2 * s₀.interrupting + s₀.sensor.waitPipe + 1 + reports K ts ∧
      (s.AtRest ∨ ∃ t : CallTransition π, (callMachine K).Takes t ∧ t.pre = s ∧
        t.label.goesOn = true ∧ t.reports K = 0) := by
  have hkept : ∀ {ts s}, (callMachine K).Run s₀ ts s → (∀ t ∈ ts, t.label.goesOn = true) →
      s.blocked = false := by
    intro ts s hrun hgoes
    exact hrun.invariant_of_guard (I := fun s => s.blocked = false) hfree
      (fun _ hstep hgo ih => blocked_step hstep hgo ih) hgoes
  constructor
  · have hspent : (ts.map fun _ => 1).sum + s.stepsToRest ≤
        s₀.stepsToRest + (ts.map (CallTransition.reports K)).sum := by
      refine hrun.sum_add_le_of_guard
        (G := fun t => t.label.goesOn = true ∧ t.pre.blocked = false) ?_ ?_
      · intro ts t hbefore hstep hgo
        exact stepsToRest_step hstep hgo.2 (inBase_of_callRun (hrun₀.trans hbefore)) hgo.1
      · intro t ht
        obtain ⟨ts₁, ts₂, rfl, hbefore, -⟩ := hrun.split_of_mem ht
        exact ⟨hgoes t ht, hkept hbefore fun t' ht' => hgoes t' (List.mem_append_left _ ht')⟩
    have hstart := s₀.sensor.stepsToRest_le
    simp only [List.map_const', List.sum_replicate, smul_eq_mul, Nat.mul_one,
      SensorCalls.stepsToRest] at hspent
    rw [reports]
    omega
  · have hreached := hrun₀.trans hrun
    by_cases hrest : s.AtRest
    · exact .inl hrest
    · exact .inr (exists_step_of_not_atRest (tied_of_run hreached) (inBase_of_callRun hreached)
        (attended_of_run hreached) (hkept hrun hgoes) hrest)

/-- Data injection is asked for while the thread is in `poll`: the byte of the activation
before takes it out, and that of this call stays in the pipe. -/
theorem comes_to_rest_injecting :
    ∃ (ts₀ : List (CallTransition PagedPipe)) (s₀ : SensorCalls PagedPipe)
      (ts : List (CallTransition PagedPipe)) (s : SensorCalls PagedPipe),
      (callMachine udfpsSensor).Run (.construct udfpsSensor 7 true true false) ts₀ s₀ ∧
        (callMachine udfpsSensor).Run s₀ ts s ∧
        s₀.sensor.thread = .polling ∧ ¬ s₀.sensor.On ∧ s.sensor.thread = .waiting ∧
        (ts.length ≤ 2 * s₀.interrupting + s₀.sensor.waitPipe + 1 + reports udfpsSensor ts ∧
          (s.AtRest ∨ ∃ t : CallTransition PagedPipe, (callMachine udfpsSensor).Takes t ∧
            t.pre = s ∧ t.label.goesOn = true ∧ t.reports udfpsSensor = 0)) := by
  obtain ⟨ts₀, s₀, ts, s, hrun₀, hrun, hpoll, hoff, hwait, hfree, hgoes⟩ :
      ∃ (ts₀ : List (CallTransition PagedPipe)) (s₀ : SensorCalls PagedPipe)
        (ts : List (CallTransition PagedPipe)) (s : SensorCalls PagedPipe),
        (callMachine udfpsSensor).Run (.construct udfpsSensor 7 true true false) ts₀ s₀ ∧
          (callMachine udfpsSensor).Run s₀ ts s ∧
          s₀.sensor.thread = .polling ∧ ¬ s₀.sensor.On ∧ s.sensor.thread = .waiting ∧
          s₀.blocked = false ∧ ∀ t ∈ ts, t.label.goesOn = true :=
    Machine.exists_runs_of_exec
      [.call .start, .call (.activate true), .call .wake,
        .call (.setOperationMode .dataInjection)]
      [.call (.poll 1 pollIn 0 tapped 0), .interruptPoll] (by decide)
  exact ⟨ts₀, s₀, ts, s, hrun₀, hrun, hpoll, hoff, hwait, comes_to_rest hrun₀ hfree hrun hgoes⟩

end Sensors
