/-
# Calls that wait for the pipe (`Sensor.cpp`)

`PollSensor` takes each call in one step.  Here the writes to the wait pipe are looked
at more closely.  `activate` writes with `mRunMutex` held; `setOperationMode` gives the
lock up in `Sensor::setOperationMode` and writes afterwards, so that other calls and
the thread can come in between.  A write to a full pipe does not return before a byte has
been read.  The pipe is the kernel's: any `BytePipe`.

`run_of_callRun` says that this is the sensor of `PollSensor` seen more closely: with
the bytes of the calls under way counted as written, a run here is a run there, with the
same outputs.
-/
import PongHal.BytePipe
import PongHal.OneShotSensor

namespace Sensors

/-- A sensor and its wait pipe, which is not used if it could not be opened. -/
structure PipedSensor (π : Type) where
  sensor : PollSensor
  pipe : π

/-- A sensor with the calls on it that have not returned. -/
structure SensorCalls (π : Type) extends PipedSensor π where
  /-- The `setOperationMode` calls that have given the lock up and have yet to write. -/
  interrupting : ℕ
  /-- An `activate` waits in its write, with the lock held. -/
  blocked : Bool

/-- What happens next. -/
inductive CallLabel
  /-- A call or a step of the thread, up to where it gives the lock up or waits for the
  pipe. -/
  | call (l : SensorLabel)
  /-- A `setOperationMode` writes to the pipe and returns. -/
  | interruptPoll
  /-- The write of the waiting `activate` returns, and then the call. -/
  | unblock
  deriving DecidableEq, Repr

/-- The step needs `mRunMutex`: all do except `injectEvent`. -/
def SensorLabel.takesLock : SensorLabel → Bool
  | .injectEvent _ => false
  | .activate _ | .setOperationMode _ | .start | .wake | .sample _ _ | .poll _ _ _ _ _ => true

variable {π : Type} [BytePipe π]

namespace PipedSensor

/-- A write to the wait pipe does not return. -/
def pipeFull (s : PipedSensor π) : Bool := s.sensor.hasPipe && BytePipe.full s.pipe

/-- The sensor becomes `sensor`, and the pipe takes or gives the byte that this means. -/
def move (s : PipedSensor π) (sensor : PollSensor) : PipedSensor π where
  sensor := sensor
  pipe := BytePipe.follow s.pipe s.sensor.waitPipe sensor.waitPipe

@[simp] theorem sensor_move (s : PipedSensor π) (sensor : PollSensor) :
    (s.move sensor).sensor = sensor := rfl

end PipedSensor

namespace SensorCalls

variable (K : PollSensorClass)

/-- A sensor just constructed. -/
def construct (sensorHandle : Int32) (hasPipe hasNode inBase : Bool) : SensorCalls π where
  sensor := .construct K sensorHandle hasPipe hasNode inBase
  pipe := BytePipe.empty
  interrupting := 0
  blocked := false

/-- `activate`, up to where it returns or waits in its write.  By then the sensor has been
switched and the gesture enable node written. -/
def activate (s : SensorCalls π) (enable : Bool) : SensorCalls π × List SensorAction :=
  if s.sensor.mIsEnabled ≠ enable ∧ s.pipeFull = true then
    ({ s with sensor := { s.sensor with mIsEnabled := enable }, blocked := true },
      PollSensor.writeGestureEnable K enable)
  else
    (⟨s.move (s.sensor.activate K enable).1, s.interrupting, s.blocked⟩,
      (s.sensor.activate K enable).2)

/-- `Sensor::setOperationMode`, which `setOperationMode` calls first. -/
def setOperationMode (s : SensorCalls π) (mode : OperationMode) : SensorCalls π :=
  { s with
    sensor := { s.sensor with mMode := mode }
    interrupting := s.interrupting + 1 }

/-- A call or a step of the thread that gets the lock if it needs it. -/
def call (s : SensorCalls π) : SensorLabel → Option (SensorCalls π × List SensorAction)
  | .activate enable => some (s.activate K enable)
  | .setOperationMode mode => some (s.setOperationMode mode, [])
  | l => (s.sensor.step K l).map fun r => (⟨s.move r.1, s.interrupting, s.blocked⟩, r.2)

/-- One step. -/
def step (s : SensorCalls π) : CallLabel → Option (SensorCalls π × List SensorAction)
  | .call l => if s.blocked && l.takesLock then none else s.call K l
  | .interruptPoll =>
      if 0 < s.interrupting ∧ s.pipeFull = false then
        some (⟨s.move s.sensor.interruptPoll, s.interrupting - 1, s.blocked⟩, [])
      else none
  | .unblock =>
      if s.blocked = true ∧ s.pipeFull = false then
        some (⟨s.move s.sensor.interruptPoll, s.interrupting, false⟩, [])
      else none

end SensorCalls

/-- The machine of a sensor and the calls on it. -/
def callMachine (K : PollSensorClass) : Machine (SensorCalls π) CallLabel SensorAction where
  step := SensorCalls.step K

/-- A step of such a run. -/
abbrev CallTransition (π : Type) := Transition (SensorCalls π) CallLabel SensorAction

variable {K : PollSensorClass} {ts : List (CallTransition π)} {s s₀ : SensorCalls π}

/-! ## What a step can do -/

/-- The steps of the machine. -/
inductive CallStep (K : PollSensorClass) : CallTransition π → Prop
  /-- `activate` finds the pipe full. -/
  | waits (s : SensorCalls π) (enable : Bool) (hfree : s.blocked = false)
      (hne : s.sensor.mIsEnabled ≠ enable) (hfull : s.pipeFull = true) :
      CallStep K ⟨s, .call (.activate enable), PollSensor.writeGestureEnable K enable,
        { s with sensor := { s.sensor with mIsEnabled := enable }, blocked := true }⟩
  | changesMode (s : SensorCalls π) (mode : OperationMode) (hfree : s.blocked = false) :
      CallStep K ⟨s, .call (.setOperationMode mode), [], s.setOperationMode mode⟩
  /-- A step that `PollSensor` takes as well. -/
  | takes (s : SensorCalls π) (l : SensorLabel) (s' : PollSensor) (out : List SensorAction)
      (hlock : l.takesLock = true → s.blocked = false)
      (hmode : ∀ mode, l ≠ .setOperationMode mode)
      (hroom : ∀ enable, l = .activate enable → s.sensor.mIsEnabled ≠ enable →
        s.pipeFull = false)
      (hstep : (pollMachine K).Takes ⟨s.sensor, l, out, s'⟩) :
      CallStep K ⟨s, .call l, out, ⟨s.move s', s.interrupting, s.blocked⟩⟩
  | interrupts (s : SensorCalls π) (hcall : 0 < s.interrupting) (hroom : s.pipeFull = false) :
      CallStep K ⟨s, .interruptPoll, [],
        ⟨s.move s.sensor.interruptPoll, s.interrupting - 1, s.blocked⟩⟩
  | unblocks (s : SensorCalls π) (hblocked : s.blocked = true) (hroom : s.pipeFull = false) :
      CallStep K ⟨s, .unblock, [],
        ⟨s.move s.sensor.interruptPoll, s.interrupting, false⟩⟩

/-- A call that `PollSensor` takes as well. -/
theorem takes_of_map {l : SensorLabel} {s' : SensorCalls π} {out : List SensorAction}
    (h : (s.sensor.step K l).map (fun r => (⟨s.move r.1, s.interrupting, s.blocked⟩, r.2)) =
      some (s', out)) :
    ∃ s₁, (pollMachine K).Takes ⟨s.sensor, l, out, s₁⟩ ∧
      s' = ⟨s.move s₁, s.interrupting, s.blocked⟩ := by
  obtain ⟨⟨s₁, out₁⟩, hstep, heq⟩ := Option.map_eq_some_iff.1 h
  cases heq
  exact ⟨s₁, hstep, rfl⟩

/-- The machine takes no other steps. -/
theorem callStep_of_takes {t : CallTransition π} (h : (callMachine K).Takes t) : CallStep K t := by
  obtain ⟨s, l, out, s'⟩ := t
  change SensorCalls.step K s l = some (s', out) at h
  cases l with
  | call l =>
      simp only [SensorCalls.step] at h
      split at h
      · cases h
      rename_i hlock
      have hfree : l.takesLock = true → s.blocked = false := by
        intro htakes
        simpa [htakes] using hlock
      cases l with
      | activate enable =>
          simp only [SensorCalls.call, SensorCalls.activate] at h
          split at h
          · rename_i hwait
            cases h
            exact .waits s enable (hfree rfl) hwait.1 hwait.2
          · rename_i hgo
            cases h
            refine .takes s _ _ _ hfree (by simp) ?_ rfl
            rintro enable' ⟨⟩ hne
            simpa [hne] using hgo
      | setOperationMode mode =>
          cases h
          exact .changesMode s mode (hfree rfl)
      | _ =>
          simp only [SensorCalls.call] at h
          obtain ⟨s₁, hstep, rfl⟩ := takes_of_map h
          exact .takes s _ s₁ out hfree (by simp) (by simp) hstep
  | interruptPoll =>
      simp only [SensorCalls.step] at h
      split at h
      · rename_i hcan
        cases h
        exact .interrupts s hcan.1 hcan.2
      · cases h
  | unblock =>
      simp only [SensorCalls.step] at h
      split at h
      · rename_i hcan
        cases h
        exact .unblocks s hcan.1 hcan.2
      · cases h

/-! ## The sensor of `PollSensor` -/

namespace PollSensor

variable {s s' : PollSensor} {n : ℕ}

/-- The sensor with `n` more bytes in its pipe, if it has one. -/
def addBytes (s : PollSensor) (n : ℕ) : PollSensor :=
  { s with waitPipe := s.waitPipe + if s.hasPipe then n else 0 }

theorem addBytes_one : s.addBytes 1 = s.interruptPoll := by
  rw [addBytes, interruptPoll_eq]

theorem addBytes_zero : s.addBytes 0 = s := by
  rw [addBytes, ite_self]
  rfl

theorem addBytes_addBytes (m n : ℕ) : (s.addBytes m).addBytes n = s.addBytes (m + n) := by
  cases hpipe : s.hasPipe with
  | false => simp [addBytes, hpipe]
  | true => simp [addBytes, hpipe, Nat.add_assoc]

theorem loop_addBytes : (s.addBytes n).loop = s.loop.addBytes n := by
  have hthread : (s.addBytes n).loop.thread = s.loop.thread := by
    rw [thread_loop, thread_loop]
    rfl
  rw [loop_eq, loop_eq s, hthread]
  rfl

/-- `Sensor::run` does not see the pipe at all. -/
theorem baseLoop_addBytes (now timestamp : Int64) :
    (s.addBytes n).baseLoop K now timestamp =
      ((s.baseLoop K now timestamp).1.addBytes n, (s.baseLoop K now timestamp).2) := by
  have hstop : (s.addBytes n).mStopThread = s.mStopThread := rfl
  have henabled : (s.addBytes n).mIsEnabled = s.mIsEnabled := rfl
  have hmode : (s.addBytes n).mMode = s.mMode := rfl
  have hnext : (s.addBytes n).mLastSampleTimeNs + (s.addBytes n).mSamplingPeriodNs =
      s.mLastSampleTimeNs + s.mSamplingPeriodNs := rfl
  rw [baseLoop, hstop, henabled, hmode, hnext, baseLoop]
  by_cases hstopped : s.mStopThread = true
  · rw [if_pos hstopped, if_pos hstopped]
    rfl
  by_cases hoff : s.mIsEnabled = false ∨ s.mMode = .dataInjection
  · rw [if_neg hstopped, if_pos hoff, if_neg hstopped, if_pos hoff]
    rfl
  by_cases htime : s.mLastSampleTimeNs + s.mSamplingPeriodNs ≤ now
  · rw [if_neg hstopped, if_neg hoff, if_pos htime, if_neg hstopped, if_neg hoff, if_pos htime]
    rfl
  · rw [if_neg hstopped, if_neg hoff, if_neg htime, if_neg hstopped, if_neg hoff, if_neg htime]
    rfl

/-- A round of the thread does not see the bytes behind the one it reads. -/
theorem polled_addBytes {rc : ℤ} {pipeRevents nodeRevents : ℕ} {node : NodeRead}
    {timestamp : Int64} {out : List SensorAction}
    (h : s.polled K rc pipeRevents nodeRevents node timestamp = some (s', out)) :
    (s.addBytes n).polled K rc pipeRevents nodeRevents node timestamp =
      some (s'.addBytes n, out) := by
  rw [polled_iff] at h ⊢
  cases h with
  | failed hrc hquiet => exact .failed hrc hquiet
  | posts s' hfires hpost => exact .posts (s'.addBytes n) hfires (by rw [hpost]; rfl)
  | reads hrc hquiet hreadable hbyte =>
      have hbyte' : (s.addBytes n).waitPipe ≠ 0 := by
        rw [addBytes]
        dsimp only
        omega
      have hpost : ({ s.looked K nodeRevents node with
            waitPipe := s.waitPipe - 1 } : PollSensor).addBytes n =
          { (s.addBytes n).looked K nodeRevents node with
            waitPipe := (s.addBytes n).waitPipe - 1 } := by
        simp only [addBytes, looked]
        congr 1
        exact (Nat.sub_add_comm (Nat.one_le_iff_ne_zero.2 hbyte)).symm
      rw [hpost]
      exact .reads hrc hquiet hreadable hbyte'
  | idles hrc hquiet hreadable => exact .idles hrc hquiet hreadable

theorem addBytes_succ : s.addBytes (n + 1) = s.interruptPoll.addBytes n := by
  rw [← addBytes_one, addBytes_addBytes, Nat.add_comm]

theorem interruptPoll_addBytes : (s.addBytes n).interruptPoll = s.interruptPoll.addBytes n := by
  rw [← addBytes_succ, ← addBytes_one, addBytes_addBytes]

/-- More bytes in the pipe stop no step, and the step leaves them there. -/
theorem takes_addBytes {l : SensorLabel} {out : List SensorAction}
    (h : (pollMachine K).Takes ⟨s, l, out, s'⟩) :
    (pollMachine K).Takes ⟨s.addBytes n, l, out, s'.addBytes n⟩ := by
  change step K s l = some (s', out) at h
  show step K (s.addBytes n) l = some (s'.addBytes n, out)
  cases l with
  | activate enable =>
      simp only [step, activate] at h ⊢
      have henabled : (s.addBytes n).mIsEnabled = s.mIsEnabled := rfl
      rw [henabled]
      split at h
      · rename_i hne
        cases h
        rw [if_pos hne, ← interruptPoll_addBytes]
        rfl
      · rename_i heq
        cases h
        rw [if_neg heq]
  | setOperationMode mode =>
      cases h
      simp only [step, setOperationMode, ← interruptPoll_addBytes]
      rfl
  | injectEvent event =>
      cases h
      rfl
  | start =>
      simp only [step] at h ⊢
      split at h
      · rename_i hstart
        cases h
        have hstart' : (s.addBytes n).thread = .starting := hstart
        rw [if_pos hstart', loop_addBytes]
      · cases h
  | wake =>
      simp only [step] at h ⊢
      split at h
      · rename_i hwait
        cases h
        have hwait' : (s.addBytes n).thread = .waiting ∧ (s.addBytes n).canRun := hwait
        rw [if_pos hwait', loop_addBytes]
      · cases h
  | sample now timestamp =>
      simp only [step] at h ⊢
      split at h
      · rename_i hsample
        have hsample' : (s.addBytes n).canSample = true := hsample
        rw [Option.some.injEq] at h
        rw [if_pos hsample', baseLoop_addBytes, h]
      · cases h
  | poll rc pipeRevents nodeRevents node timestamp =>
      simp only [step] at h ⊢
      split at h
      · rename_i hpoll
        have hpoll' : (s.addBytes n).thread = .polling := hpoll
        obtain ⟨⟨s₁, out₁⟩, hpolled, heq⟩ := Option.map_eq_some_iff.1 h
        cases heq
        rw [if_pos hpoll', polled_addBytes hpolled, Option.map_some, loop_addBytes]
      · cases h

end PollSensor

/-- The sensor with the bytes of the calls under way already in its pipe. -/
def SensorCalls.settled (s : SensorCalls π) : PollSensor :=
  s.sensor.addBytes (s.interrupting + s.blocked.toNat)

/-- A step here is a step of `PollSensor`, or none. -/
theorem run_callStep {t : CallTransition π} (h : (callMachine K).Takes t) :
    ∃ ts, (pollMachine K).Run t.pre.settled ts t.post.settled ∧ ts.flatMap (·.out) = t.out := by
  have hone : ∀ {s s' : PollSensor} {l : SensorLabel} {out : List SensorAction},
      (pollMachine K).Takes ⟨s, l, out, s'⟩ →
      ∃ ts, (pollMachine K).Run s ts s' ∧ ts.flatMap (·.out) = out := by
    intro s s' l out hstep
    exact ⟨[⟨s, l, out, s'⟩], Machine.Run.start.next hstep, List.flatMap_singleton _ _⟩
  cases callStep_of_takes h with
  | waits s enable hfree hne hfull =>
      have hstep : (pollMachine K).Takes ⟨s.sensor, .activate enable,
          PollSensor.writeGestureEnable K enable,
          PollSensor.interruptPoll { s.sensor with mIsEnabled := enable }⟩ := by
        simp [Machine.Takes, pollMachine, PollSensor.step, PollSensor.activate, hne]
      have hcounted := PollSensor.takes_addBytes (n := s.interrupting) hstep
      rw [← PollSensor.addBytes_succ] at hcounted
      have hpre : s.settled = s.sensor.addBytes s.interrupting := by
        rw [SensorCalls.settled, hfree]
        rfl
      rw [hpre]
      exact hone hcounted
  | changesMode s mode hfree =>
      have hstep : (pollMachine K).Takes ⟨s.sensor, .setOperationMode mode, [],
          PollSensor.interruptPoll { s.sensor with mMode := mode }⟩ := rfl
      have hcounted := PollSensor.takes_addBytes (n := s.interrupting + s.blocked.toNat) hstep
      rw [← PollSensor.addBytes_succ, Nat.add_right_comm] at hcounted
      exact hone hcounted
  | takes s l s' out hlock hmode hroom hstep => exact hone (PollSensor.takes_addBytes hstep)
  | interrupts s hcall hroom =>
      obtain ⟨k, hk⟩ : ∃ k, s.interrupting = k + 1 := ⟨s.interrupting - 1, by omega⟩
      have hsame : s.settled = s.sensor.interruptPoll.addBytes (k + s.blocked.toNat) := by
        rw [SensorCalls.settled, hk, Nat.add_right_comm, PollSensor.addBytes_succ]
      have hpost : SensorCalls.settled
          ⟨s.move s.sensor.interruptPoll, s.interrupting - 1, s.blocked⟩ =
          s.sensor.interruptPoll.addBytes (k + s.blocked.toNat) := by
        rw [SensorCalls.settled, hk, Nat.add_sub_cancel, PipedSensor.sensor_move]
      refine ⟨[], ?_, rfl⟩
      rw [hsame, hpost]
      exact .start
  | unblocks s hblocked hroom =>
      have hsame : s.settled = s.sensor.interruptPoll.addBytes s.interrupting := by
        rw [SensorCalls.settled, hblocked, Bool.toNat_true, PollSensor.addBytes_succ]
      refine ⟨[], ?_, rfl⟩
      rw [hsame]
      exact .start

/-- **The sensor here is the sensor of `PollSensor`.**  A run with the calls seen more
closely is a run of `pollMachine` that switches the sensor and posts alike. -/
theorem run_of_callRun (hrun : (callMachine K).Run s₀ ts s) :
    ∃ ts', (pollMachine K).Run s₀.settled ts' s.settled ∧
      ts'.flatMap (·.out) = ts.flatMap (·.out) := by
  have hall : ∃ ts', (pollMachine K).Run s₀.settled ts' s.settled ∧
      ts'.flatMap (·.out) = (ts.flatMap (·.out)).filterMap some := by
    refine hrun.simulate (f := SensorCalls.settled) (G := fun _ => True) ?_ (fun _ _ => trivial)
    intro t hstep _
    simpa using run_callStep hstep
  simpa using hall

end Sensors
