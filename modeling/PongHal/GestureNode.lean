/-
# The gesture enable node

`SingleTapSensor` and `DoubleTapSensor` tell the touch controller whether to look for
the gesture: they write `single_en` or `double_en` when `activate` switches them, and
again when the thread switches the sensor off before it posts.  `gesture_node_agrees`:
the node always holds what `mIsEnabled` says, although the thread comes back from
`poll` without looking at `mIsEnabled` again.
-/
import PongHal.SensorCalls

namespace Sensors

variable {K : PollSensorClass} {sensorHandle : Int32} {hasPipe hasNode inBase : Bool}
  {path : String} {π : Type} [BytePipe π]

/-! ## The node -/

/-- What the node at `path` holds after an action, from what it holds before. -/
def SensorAction.writeNode (path : String) (node : Bool) : SensorAction → Bool
  | .wroteGestureEnable p enable => if p = path then enable else node
  | .posted _ _ | .injected _ _ | .returned _ => node

/-- What the node at `path` holds after the actions of a run: the last value written to
it, and `0` before the first write. -/
def gestureNode (path : String) (out : List SensorAction) : Bool :=
  out.foldl (SensorAction.writeNode path) false

theorem foldl_writeGestureEnable (hpath : K.enablePath = some path) (node enable : Bool) :
    (PollSensor.writeGestureEnable K enable).foldl (SensorAction.writeNode path) node = enable := by
  simp [PollSensor.writeGestureEnable, hpath, SensorAction.writeNode]

theorem foldl_injectEvent (s : PollSensor) (event : Event) (node : Bool) :
    (s.injectEvent event).foldl (SensorAction.writeNode path) node = node := by
  rw [PollSensor.injectEvent]
  split
  · rfl
  · split
    · rfl
    · split <;> rfl

/-! ## Agreement -/

/-- A step that starts with the node in agreement leaves it in agreement. -/
theorem writeNode_step (hpath : K.enablePath = some path) {t : SensorTransition}
    (h : (pollMachine K).Takes t) :
    t.out.foldl (SensorAction.writeNode path) t.pre.mIsEnabled = t.post.mIsEnabled := by
  cases sensorStep_of_takes h with
  | switched s enable hne =>
      rw [foldl_writeGestureEnable hpath, PollSensor.mIsEnabled_interruptPoll]
  | unchanged s enable heq => rfl
  | changedMode s mode =>
      rw [PollSensor.setOperationMode, PollSensor.mIsEnabled_interruptPoll]
      rfl
  | asked s event => exact foldl_injectEvent s event s.mIsEnabled
  | started s hstart => exact PollSensor.mIsEnabled_loop.symm
  | woken s hwait hcan => exact PollSensor.mIsEnabled_loop.symm
  | passed s s' rc pipeRevents nodeRevents node timestamp hpoll hquiet hinfo henabled =>
      rw [PollSensor.mIsEnabled_loop, henabled]
      rfl
  | fired s s' rc pipeRevents nodeRevents node timestamp hpoll hfires hinfo henabled =>
      -- the thread writes `0` and then posts
      rw [List.foldl_append, foldl_writeGestureEnable hpath, PollSensor.mIsEnabled_loop, henabled]
      rfl
  -- `Sensor::run` leaves both as they are
  | sampled | turned => rfl

/-- The node after a run of `PollSensor`. -/
theorem gestureNode_of_run (hpath : K.enablePath = some path) {ts : List SensorTransition}
    {s : PollSensor}
    (hrun : (pollMachine K).Run (.construct K sensorHandle hasPipe hasNode inBase) ts s) :
    gestureNode path (ts.flatMap (·.out)) = s.mIsEnabled := by
  refine hrun.history (I := fun ts s => gestureNode path (ts.flatMap (·.out)) = s.mIsEnabled)
    rfl ?_
  intro ts t _ hstep ih
  rw [gestureNode] at ih ⊢
  rw [List.flatMap_append, List.flatMap_singleton, List.foldl_append, ih]
  exact writeNode_step hpath hstep

/-- **The gesture enable node agrees with `mIsEnabled`.**  In every run of a sensor that
writes a gesture enable node, with calls and steps of the thread in any order, the last
value written to the node is `1` exactly when the sensor is enabled, in every state and so
whenever `mRunMutex` is free. -/
theorem gesture_node_agrees (hpath : K.enablePath = some path) {ts : List (CallTransition π)}
    {s : SensorCalls π}
    (hrun : (callMachine K).Run (.construct K sensorHandle hasPipe hasNode inBase) ts s) :
    gestureNode path (ts.flatMap (·.out)) = s.sensor.mIsEnabled := by
  obtain ⟨ts', hrun', hout⟩ := run_of_callRun hrun
  have hstart :
      (SensorCalls.construct K sensorHandle hasPipe hasNode inBase : SensorCalls π).settled =
        .construct K sensorHandle hasPipe hasNode inBase := PollSensor.addBytes_zero
  have henabled : s.settled.mIsEnabled = s.sensor.mIsEnabled := rfl
  rw [hstart] at hrun'
  rw [← hout, ← henabled]
  exact gestureNode_of_run hpath hrun'

/-- A single tap that comes with the sensor already in data injection, and a double tap
after which the sensor has been enabled again. -/
theorem gesture_node_agrees_taps :
    (∃ (ts : List (CallTransition PagedPipe)) (s : SensorCalls PagedPipe),
      (callMachine singleTapSensor).Run (.construct singleTapSensor 7 true true false) ts s ∧
      s.sensor.mIsEnabled = false ∧
      gestureNode "/sys/devices/platform/goodix_ts.0/gesture/single_en" (ts.flatMap (·.out)) =
        s.sensor.mIsEnabled) ∧
    ∃ (ts : List (CallTransition PagedPipe)) (s : SensorCalls PagedPipe),
      (callMachine doubleTapSensor).Run (.construct doubleTapSensor 8 true true false) ts s ∧
      s.sensor.mIsEnabled = true ∧
      gestureNode "/sys/devices/platform/goodix_ts.0/gesture/double_en" (ts.flatMap (·.out)) =
        s.sensor.mIsEnabled := by
  have hsingle : ∃ (ts : List (CallTransition PagedPipe)) (s : SensorCalls PagedPipe),
      (callMachine singleTapSensor).Run (.construct singleTapSensor 7 true true false) ts s ∧
      s.sensor.mIsEnabled = false :=
    Machine.exists_run_of_exec
      [.call .start, .call (.activate true), .call .wake, .call (.setOperationMode .dataInjection),
        .call (.poll 2 pollIn pollErrPri tapped 100), .interruptPoll] (by decide)
  have hdouble : ∃ (ts : List (CallTransition PagedPipe)) (s : SensorCalls PagedPipe),
      (callMachine doubleTapSensor).Run (.construct doubleTapSensor 8 true true false) ts s ∧
      s.sensor.mIsEnabled = true :=
    Machine.exists_run_of_exec
      [.call .start, .call (.activate true), .call .wake, .call (.activate false),
        .call (.poll 1 0 pollErrPri tapped 100), .call (.activate true)] (by decide)
  obtain ⟨ts₁, s₁, hrun₁, hoff⟩ := hsingle
  obtain ⟨ts₂, s₂, hrun₂, hon⟩ := hdouble
  exact ⟨⟨ts₁, s₁, hrun₁, hoff, gesture_node_agrees rfl hrun₁⟩,
    ts₂, s₂, hrun₂, hon, gesture_node_agrees rfl hrun₂⟩

end Sensors
