/-
# The wait pipe

Calls wake the thread out of `poll` with a byte in the wait pipe (`interruptPoll`), and
the thread takes one byte out in each round that finds the pipe readable and no gesture.
There are no rounds while the sensor is off, so the bytes of the calls made meanwhile
stay, and each call of `setOperationMode` brings one, whether it changes the mode or not.
When the pipe is full `activate` does not return and keeps `mRunMutex`, which the thread
would need to read (`eq_of_blocked_run`).  Calls alone lead there, from every state with
the lock free (`exists_run_blocked`).

`interruptPoll_never_blocks_iff` : the pipe has room in every run exactly if there is none.
-/
import PongHal.SensorCalls

namespace Sensors

variable {K : PollSensorClass} {sensorHandle : Int32} {hasPipe hasNode inBase : Bool}
  {π : Type} [BytePipe π] {ts : List (CallTransition π)} {s s₀ : SensorCalls π}

/-! ## Bytes in and out -/

namespace PollSensor

/-- The bytes a call puts into the pipe. -/
def pipeWrites (s : PollSensor) : SensorLabel → ℕ
  | .activate enable => if s.hasPipe = true ∧ s.mIsEnabled ≠ enable then 1 else 0
  | .setOperationMode _ => if s.hasPipe = true then 1 else 0
  | .injectEvent _ | .start | .wake | .sample _ _ | .poll _ _ _ _ _ => 0

/-- The bytes a round of the thread takes out of the pipe. -/
def pipeReads (K : PollSensorClass) (s : PollSensor) : SensorLabel → ℕ
  | .poll rc pipeRevents nodeRevents node _ =>
      if 0 ≤ rc ∧ s.gesture K rc nodeRevents node = false ∧ pipeRevents = pollIn then 1 else 0
  | .activate _ | .setOperationMode _ | .injectEvent _ | .start | .wake | .sample _ _ => 0

variable {s s' : PollSensor}

theorem waitPipe_interruptPoll :
    s.interruptPoll.waitPipe = s.waitPipe + if s.hasPipe = true then 1 else 0 := by
  rw [interruptPoll_eq]

@[simp] theorem waitPipe_loop : s.loop.waitPipe = s.waitPipe := by
  rw [loop_eq]

@[simp] theorem hasPipe_loop : s.loop.hasPipe = s.hasPipe := by
  rw [loop_eq]

/-- No step opens or closes the pipe. -/
theorem hasPipe_step {t : SensorTransition} (h : (pollMachine K).Takes t) :
    t.post.hasPipe = t.pre.hasPipe := by
  obtain ⟨s, l, out, s'⟩ := t
  change step K s l = some (s', out) at h
  cases l with
  | activate enable =>
      simp only [step, activate] at h
      split at h
      · cases h
        rw [interruptPoll_eq]
      · cases h
        rfl
  | setOperationMode mode =>
      cases h
      rw [setOperationMode, interruptPoll_eq]
  | injectEvent event =>
      cases h
      rfl
  | start | wake =>
      obtain ⟨-, hr⟩ := Option.ite_none_right_eq_some.1 h
      cases hr
      exact hasPipe_loop
  | sample now timestamp =>
      obtain ⟨-, hr⟩ := Option.ite_none_right_eq_some.1 h
      rw [Option.some.injEq] at hr
      obtain ⟨-, hloop⟩ | ⟨-, thread, -, hloop⟩ := baseLoop_cases (K := K) s now timestamp
      · rw [hloop] at hr
        cases hr
        rfl
      · rw [hloop] at hr
        cases hr
        rfl
  | poll rc pipeRevents nodeRevents node timestamp =>
      obtain ⟨-, hr⟩ := Option.ite_none_right_eq_some.1 h
      obtain ⟨⟨s₁, out₁⟩, hpolled, heq⟩ := Option.map_eq_some_iff.1 hr
      cases heq
      cases polled_iff.1 hpolled with
      | posts s' hfires hpost =>
          rw [hasPipe_loop, hpost]
          rfl
      | failed | reads | idles => exact hasPipe_loop

/-- A round of the thread takes out the byte it reads. -/
theorem waitPipe_polled {rc : ℤ} {pipeRevents nodeRevents : ℕ} {node : NodeRead}
    {timestamp : Int64} {out : List SensorAction}
    (h : s.polled K rc pipeRevents nodeRevents node timestamp = some (s', out)) :
    s'.waitPipe + s.pipeReads K (.poll rc pipeRevents nodeRevents node timestamp) =
      s.waitPipe := by
  cases polled_iff.1 h with
  | failed hrc hquiet => rw [pipeReads, if_neg (fun hall => not_le.2 hrc hall.1), Nat.add_zero]
  | posts s' hfires hpost =>
      rw [pipeReads, if_neg (by simp [hfires]), hpost]
      rfl
  | reads hrc hquiet hreadable hbyte =>
      rw [pipeReads, if_pos ⟨hrc, hquiet, hreadable⟩]
      dsimp only
      omega
  | idles hrc hquiet hreadable =>
      rw [pipeReads, if_neg (fun hall => hreadable hall.2.2)]
      rfl

/-- The bytes in the pipe before and after a step. -/
theorem waitPipe_step {t : SensorTransition} (h : (pollMachine K).Takes t) :
    t.post.waitPipe + t.pre.pipeReads K t.label = t.pre.waitPipe + t.pre.pipeWrites t.label := by
  obtain ⟨s, l, out, s'⟩ := t
  change step K s l = some (s', out) at h
  show s'.waitPipe + s.pipeReads K l = s.waitPipe + s.pipeWrites l
  cases l with
  | activate enable =>
      simp only [step, activate] at h
      split at h
      · rename_i hne
        cases h
        rw [waitPipe_interruptPoll]
        simp [pipeReads, pipeWrites, hne]
      · rename_i heq
        cases h
        rw [pipeWrites, if_neg (fun hall => heq hall.2)]
        rfl
  | setOperationMode mode =>
      cases h
      exact waitPipe_interruptPoll
  | injectEvent event =>
      cases h
      rfl
  | start =>
      simp only [step] at h
      split at h
      · cases h
        exact waitPipe_loop
      · cases h
  | wake =>
      simp only [step] at h
      split at h
      · cases h
        exact waitPipe_loop
      · cases h
  | sample now timestamp =>
      simp only [step] at h
      split at h
      · obtain ⟨-, hloop⟩ | ⟨-, thread, -, hloop⟩ := baseLoop_cases (K := K) s now timestamp
        · rw [hloop] at h
          cases h
          rfl
        · rw [hloop] at h
          cases h
          rfl
      · cases h
  | poll rc pipeRevents nodeRevents node timestamp =>
      simp only [step] at h
      split at h
      · obtain ⟨⟨s₁, out₁⟩, hpolled, heq⟩ := Option.map_eq_some_iff.1 h
        cases heq
        rw [waitPipe_loop]
        exact waitPipe_polled hpolled
      · cases h

theorem pipeWrites_le_one (l : SensorLabel) : s.pipeWrites l ≤ 1 := by
  cases l with
  | activate | setOperationMode =>
      rw [pipeWrites]
      split <;> omega
  | _ => exact Nat.zero_le _

theorem pipeReads_le_one (l : SensorLabel) : s.pipeReads K l ≤ 1 := by
  cases l with
  | poll rc pipeRevents nodeRevents node timestamp =>
      rw [pipeReads]
      split <;> omega
  | _ => exact Nat.zero_le _

end PollSensor

/-! ## The bytes and the pipe -/

namespace PipedSensor

variable {p : PipedSensor π}

/-- The bytes that the sensor has in its pipe are the unread ones. -/
def Tied (p : PipedSensor π) : Prop := BytePipe.unread p.pipe = p.sensor.waitPipe

/-- Only a sensor with a pipe has a full one. -/
theorem hasPipe_of_pipeFull (hfull : p.pipeFull = true) : p.sensor.hasPipe = true :=
  (Bool.and_eq_true_iff.1 hfull).1

theorem full_of_pipeFull (hfull : p.pipeFull = true) : BytePipe.full p.pipe = true :=
  (Bool.and_eq_true_iff.1 hfull).2

theorem full_of_not_pipeFull (hroom : p.pipeFull = false) (hpipe : p.sensor.hasPipe = true) :
    BytePipe.full p.pipe = false := by
  rwa [pipeFull, hpipe, Bool.true_and] at hroom

/-- There are bytes in a full pipe. -/
theorem waitPipe_pos (htied : p.Tied) (hfull : p.pipeFull = true) : 0 < p.sensor.waitPipe := by
  rw [← htied]
  exact BytePipe.unread_pos_of_full (full_of_pipeFull hfull)

/-- A sensor that stays as it is leaves the pipe alone. -/
theorem move_sensor (p : PipedSensor π) : p.move p.sensor = p := by
  rw [move, BytePipe.follow_self]

theorem tied_interruptPoll (htied : p.Tied) (hroom : p.pipeFull = false) :
    (p.move p.sensor.interruptPoll).Tied := by
  have hbytes := p.sensor.waitPipe_interruptPoll
  refine BytePipe.unread_follow htied ?_ ?_ fun hsucc => full_of_not_pipeFull hroom ?_
  · split at hbytes <;> omega
  · split at hbytes <;> omega
  · by_contra hnone
    rw [if_neg hnone] at hbytes
    omega

/-- A step of the sensor that finds room for its byte is followed by the pipe. -/
theorem tied_move {l : SensorLabel} {s' : PollSensor} {out : List SensorAction}
    (htied : p.Tied) (h : (pollMachine K).Takes ⟨p.sensor, l, out, s'⟩)
    (hroom : p.sensor.pipeWrites l = 1 → BytePipe.full p.pipe = false) : (p.move s').Tied := by
  have hbytes := PollSensor.waitPipe_step h
  have hwrites := p.sensor.pipeWrites_le_one l
  have hreads := p.sensor.pipeReads_le_one (K := K) l
  dsimp only at hbytes
  exact BytePipe.unread_follow htied (by omega) (by omega) fun hsucc => hroom (by omega)

/-- A step that brings no byte does not fill the pipe. -/
theorem pipeFull_move {s' : PollSensor} (hpipe : s'.hasPipe = p.sensor.hasPipe)
    (hle : s'.waitPipe ≤ p.sensor.waitPipe) (hroom : p.pipeFull = false) :
    (p.move s').pipeFull = false := by
  rw [pipeFull, Bool.and_eq_false_iff, sensor_move, hpipe]
  rw [pipeFull, Bool.and_eq_false_iff] at hroom
  exact hroom.imp_right fun hroom => BytePipe.full_follow hle hroom

end PipedSensor

/-- An `activate` that does not wait has room for its byte. -/
theorem full_of_takes {l : SensorLabel} (hmode : ∀ mode, l ≠ .setOperationMode mode)
    (hroom : ∀ enable, l = .activate enable → s.sensor.mIsEnabled ≠ enable →
      s.pipeFull = false) (hwrites : s.sensor.pipeWrites l = 1) :
    BytePipe.full s.pipe = false := by
  cases l with
  | activate enable =>
      rw [PollSensor.pipeWrites] at hwrites
      split at hwrites
      · rename_i hcall
        exact PipedSensor.full_of_not_pipeFull (hroom enable rfl hcall.2) hcall.1
      · cases hwrites
  | setOperationMode mode => exact absurd rfl (hmode mode)
  | _ => cases hwrites

theorem tied_step {t : CallTransition π} (h : (callMachine K).Takes t)
    (htied : t.pre.Tied) : t.post.Tied := by
  cases callStep_of_takes h with
  | waits | changesMode => exact htied
  | takes s l s' out hlock hmode hroom hstep =>
      exact PipedSensor.tied_move htied hstep (full_of_takes hmode hroom)
  | interrupts s hcall hroom => exact PipedSensor.tied_interruptPoll htied hroom
  | unblocks s hblocked hroom => exact PipedSensor.tied_interruptPoll htied hroom

theorem tied_of_run
    (hrun : (callMachine K).Run (.construct K sensorHandle hasPipe hasNode inBase) ts s) :
    s.Tied :=
  hrun.invariant (I := fun s => s.Tied) BytePipe.unread_empty fun _ hstep htied =>
    tied_step hstep htied

/-! ## Deadlock -/

/-- While an `activate` waits for a full pipe only `injectEvent` goes on, and it changes
nothing: what could read the pipe needs the lock. -/
theorem eq_of_blocked_step {t : CallTransition π} (h : (callMachine K).Takes t)
    (hblocked : t.pre.blocked = true) (hfull : t.pre.pipeFull = true) : t.post = t.pre := by
  cases callStep_of_takes h with
  | waits s enable hfree hne hfull => simp [hfree] at hblocked
  | changesMode s mode hfree => simp [hfree] at hblocked
  | takes s l s' out hlock hmode hroom hstep =>
      cases l with
      | injectEvent event =>
          cases sensorStep_of_takes hstep with
          | asked => rw [PipedSensor.move_sensor]
      | _ => simp [hlock rfl] at hblocked
  | interrupts s hcall hroom => simp [hfull] at hroom
  | unblocks s hblocked hroom => simp [hfull] at hroom

/-- Once an `activate` waits for a full pipe it waits forever. -/
theorem eq_of_blocked_run (hrun : (callMachine K).Run s₀ ts s) (hblocked : s₀.blocked = true)
    (hfull : s₀.pipeFull = true) : s = s₀ := by
  refine hrun.invariant (I := fun s => s = s₀) rfl ?_
  intro t hstep heq
  rw [eq_of_blocked_step hstep (by rw [heq]; exact hblocked) (by rw [heq]; exact hfull), heq]

/-- An `activate` waits for nothing but a full pipe. -/
theorem pipeFull_of_blocked (hrun : (callMachine K).Run s₀ ts s) (hfree : s₀.blocked = false) :
    s.blocked = true → s.pipeFull = true := by
  refine hrun.invariant (I := fun s => s.blocked = true → s.pipeFull = true) ?_ ?_
  · simp [hfree]
  intro t hstep ih hpost
  cases callStep_of_takes hstep with
  | waits s enable hfree hne hfull => exact hfull
  | changesMode s mode hfree => exact absurd hpost (by simp [SensorCalls.setOperationMode, hfree])
  | takes s l s' out hlock hmode hroom hinner =>
      have hsame := eq_of_blocked_step hstep hpost (ih hpost)
      rw [hsame]
      exact ih hpost
  | interrupts s hcall hroom => exact absurd (ih hpost) (by simp [hroom])
  | unblocks s hblocked hroom => exact absurd hpost (by simp)

/-! ## Calls alone fill the pipe -/

/-- `n` calls of `setOperationMode`, one after the other. -/
def modeCalls (mode : OperationMode) (n : ℕ) : List CallLabel :=
  (List.replicate n [.call (.setOperationMode mode), .interruptPoll]).flatten

theorem modeCalls_succ (mode : OperationMode) (n : ℕ) :
    modeCalls mode (n + 1) =
      modeCalls mode n ++ [.call (.setOperationMode mode), .interruptPoll] := by
  rw [modeCalls, List.replicate_succ', List.flatten_append, List.flatten_singleton]
  rfl

/-- Calls that leave the mode as it is put their bytes into the pipe all the same. -/
theorem run_modeCalls (hpipe : s.sensor.hasPipe = true) (hfree : s.blocked = false) (n : ℕ)
    (hroom : ∀ m < n, BytePipe.full (BytePipe.write^[m] s.pipe) = false) :
    ∃ ts, (callMachine K).Run s ts
        ⟨⟨s.sensor.addBytes n, BytePipe.write^[n] s.pipe⟩, s.interrupting, s.blocked⟩ ∧
      ts.map (·.label) = modeCalls s.sensor.mMode n := by
  induction n with
  | zero =>
      refine ⟨[], ?_, rfl⟩
      rw [PollSensor.addBytes_zero]
      exact .start
  | succ n ih =>
      obtain ⟨ts, hrun, hlabels⟩ := ih fun m hm => hroom m (hm.trans (Nat.lt_succ_self n))
      have hmode : (callMachine K).step
          ⟨⟨s.sensor.addBytes n, BytePipe.write^[n] s.pipe⟩, s.interrupting, s.blocked⟩
          (.call (.setOperationMode s.sensor.mMode)) =
          some (⟨⟨s.sensor.addBytes n, BytePipe.write^[n] s.pipe⟩, s.interrupting + 1,
            s.blocked⟩, []) := by
        simp only [callMachine, SensorCalls.step, hfree, Bool.false_and]
        rfl
      have hnotFull : PipedSensor.pipeFull
          ⟨s.sensor.addBytes n, BytePipe.write^[n] s.pipe⟩ = false := by
        rw [PipedSensor.pipeFull, hroom n (Nat.lt_succ_self n), Bool.and_false]
      -- the pipe follows with a write
      have hbyte : PipedSensor.move ⟨s.sensor.addBytes n, BytePipe.write^[n] s.pipe⟩
          (s.sensor.addBytes n).interruptPoll =
          ⟨s.sensor.addBytes (n + 1), BytePipe.write^[n + 1] s.pipe⟩ := by
        have hadded :
            (s.sensor.addBytes (n + 1)).waitPipe = (s.sensor.addBytes n).waitPipe + 1 := by
          simp only [PollSensor.addBytes, hpipe, if_true]
          omega
        rw [PollSensor.interruptPoll_addBytes, ← PollSensor.addBytes_succ, PipedSensor.move,
          hadded, BytePipe.follow_succ, Function.iterate_succ_apply']
      have hwrite : (callMachine K).step
          ⟨⟨s.sensor.addBytes n, BytePipe.write^[n] s.pipe⟩, s.interrupting + 1, s.blocked⟩
          .interruptPoll =
          some (⟨⟨s.sensor.addBytes (n + 1), BytePipe.write^[n + 1] s.pipe⟩, s.interrupting,
            s.blocked⟩, []) := by
        simp only [callMachine, SensorCalls.step]
        rw [if_pos ⟨Nat.succ_pos _, hnotFull⟩, hbyte, Nat.add_sub_cancel]
      refine ⟨_, (hrun.next hmode).next hwrite, ?_⟩
      simp [hlabels, modeCalls_succ]

/-- The `activate` that switches a sensor with a full pipe does not return. -/
theorem run_activate_blocked (hfree : s.blocked = false) (hfull : s.pipeFull = true) :
    ∃ ts s', (callMachine K).Run s ts s' ∧
      ts.map (·.label) = [.call (.activate (!s.sensor.mIsEnabled))] ∧
      s'.blocked = true ∧ s'.pipeFull = true ∧ s'.sensor.waitPipe = s.sensor.waitPipe := by
  have hactivate : (callMachine K).step s (.call (.activate (!s.sensor.mIsEnabled))) =
      some ({ s with
        sensor := { s.sensor with mIsEnabled := !s.sensor.mIsEnabled }
        blocked := true }, PollSensor.writeGestureEnable K (!s.sensor.mIsEnabled)) := by
    simp [callMachine, SensorCalls.step, SensorCalls.call, SensorCalls.activate, hfree, hfull]
  exact ⟨_, _, Machine.Run.start.next hactivate, rfl, rfl, hfull, rfl⟩

/-- **Calls alone lead to the deadlock.**  From every state with the lock free, calls of
`setOperationMode` fill the pipe, and then an `activate` that switches the sensor does not
return. -/
theorem exists_run_blocked (hpipe : s.sensor.hasPipe = true) (hfree : s.blocked = false) :
    ∃ n ts s', (callMachine K).Run s ts s' ∧
      ts.map (·.label) =
        modeCalls s.sensor.mMode n ++ [.call (.activate (!s.sensor.mIsEnabled))] ∧
      s'.blocked = true := by
  obtain ⟨n, hfull, hroom⟩ := BytePipe.exists_iterate_write_full s.pipe
  obtain ⟨ts, hrun, hlabels⟩ := run_modeCalls (K := K) hpipe hfree n hroom
  have hfilled : PipedSensor.pipeFull ⟨s.sensor.addBytes n, BytePipe.write^[n] s.pipe⟩ = true := by
    rw [PipedSensor.pipeFull, hfull, Bool.and_true]
    exact hpipe
  obtain ⟨ts', s', hrun', hlabel, hblocked, -, -⟩ := run_activate_blocked (K := K)
    (s := ⟨⟨s.sensor.addBytes n, BytePipe.write^[n] s.pipe⟩, s.interrupting, s.blocked⟩)
    hfree hfilled
  refine ⟨n, ts ++ ts', s', hrun.trans hrun', ?_, hblocked⟩
  rw [List.map_append, hlabels, hlabel]
  rfl

/-! ## Without a pipe -/

/-- A sensor without a pipe has none later, and no bytes in it. -/
theorem noPipe_step {t : SensorTransition} (h : (pollMachine K).Takes t)
    (hnone : t.pre.hasPipe = false ∧ t.pre.waitPipe = 0) :
    t.post.hasPipe = false ∧ t.post.waitPipe = 0 := by
  refine ⟨(PollSensor.hasPipe_step h).trans hnone.1, ?_⟩
  have hbytes := PollSensor.waitPipe_step h
  have hwrites : t.pre.pipeWrites t.label = 0 := by
    cases t.label <;> simp [PollSensor.pipeWrites, hnone.1]
  omega

theorem noPipe_of_run
    (hrun : (callMachine K).Run (.construct K sensorHandle false hasNode inBase) ts s) :
    s.sensor.hasPipe = false ∧ s.sensor.waitPipe = 0 := by
  obtain ⟨ts', hrun', -⟩ := run_of_callRun hrun
  have hsettled : s.settled.hasPipe = false ∧ s.settled.waitPipe = 0 := by
    refine hrun'.invariant (I := fun s : PollSensor => s.hasPipe = false ∧ s.waitPipe = 0)
      ⟨rfl, rfl⟩ ?_
    exact fun _ hstep hnone => noPipe_step hstep hnone
  have hsame : s.settled.waitPipe = s.sensor.waitPipe := by
    have hnone : s.sensor.hasPipe = false := hsettled.1
    simp [SensorCalls.settled, PollSensor.addBytes, hnone]
  exact ⟨hsettled.1, hsame ▸ hsettled.2⟩

/-- **Exactly when the pipe does not fill up.**  In all runs of a sensor of any of the three
classes, whatever its pipe is like, the unread bytes are fewer than the pipe's capacity and no
`activate` waits for it, if and only if the sensor has no pipe: it could not be opened, and
`interruptPoll` does nothing. -/
theorem interruptPoll_never_blocks_iff :
    (∀ (ts : List (CallTransition π)) (s : SensorCalls π),
      (callMachine K).Run (.construct K sensorHandle hasPipe hasNode inBase) ts s →
      s.sensor.waitPipe < BytePipe.capacity π ∧ s.blocked = false) ↔ hasPipe = false := by
  constructor
  · intro hnever
    by_contra hpipe
    rw [Bool.not_eq_false] at hpipe
    obtain ⟨n, ts, s, hrun, -, hblocked⟩ := exists_run_blocked (K := K)
      (s := (.construct K sensorHandle hasPipe hasNode inBase : SensorCalls π)) hpipe rfl
    rw [(hnever ts s hrun).2] at hblocked
    cases hblocked
  · rintro rfl ts s hrun
    obtain ⟨hnone, hbytes⟩ := noPipe_of_run hrun
    refine ⟨hbytes ▸ BytePipe.capacity_pos, ?_⟩
    by_contra hblocked
    rw [Bool.not_eq_false] at hblocked
    have hpipe := PipedSensor.hasPipe_of_pipeFull (pipeFull_of_blocked hrun rfl hblocked)
    rw [hnone] at hpipe
    cases hpipe

/-- The thread waits for an activation.  As many calls of `setOperationMode` as the pages hold
bytes fill the pipe, and the `activate` that comes then does not return. -/
theorem exists_run_blocked_paged (K : PollSensorClass) (sensorHandle : Int32) {n : ℕ}
    (hn : pageCount * pageSize = n) :
    ∃ (ts : List (CallTransition PagedPipe)) (s : SensorCalls PagedPipe),
      (callMachine K).Run (.construct K sensorHandle true true false) ts s ∧
      ts.map (·.label) = .call .start :: (modeCalls .normal n ++ [.call (.activate true)]) ∧
      s.sensor.waitPipe = n ∧ s.blocked = true ∧ s.pipeFull = true := by
  let s : SensorCalls PagedPipe :=
    ⟨⟨PollSensor.loop (.construct K sensorHandle true true false), BytePipe.empty⟩, 0, false⟩
  have hstart : (callMachine K).Takes
      ⟨.construct K sensorHandle true true false, .call .start, [], s⟩ := rfl
  have hroom : ∀ m < n, BytePipe.full (BytePipe.write^[m] s.pipe) = false := by
    intro m hm
    show BytePipe.full (BytePipe.write^[m] BytePipe.empty) = false
    rw [PagedPipe.full_iterate_write, decide_eq_false_iff_not]
    omega
  have hfull : PipedSensor.pipeFull ⟨s.sensor.addBytes n, BytePipe.write^[n] s.pipe⟩ = true := by
    show (true && BytePipe.full (BytePipe.write^[n] BytePipe.empty)) = true
    rw [PagedPipe.full_iterate_write, hn, decide_eq_true le_rfl]
    rfl
  obtain ⟨ts, hrun, hlabels⟩ := run_modeCalls (K := K) (s := s) rfl rfl n hroom
  obtain ⟨ts', s', hrun', hlabel, hblocked, hfull', hbytes⟩ := run_activate_blocked (K := K)
    (s := ⟨⟨s.sensor.addBytes n, BytePipe.write^[n] s.pipe⟩, s.interrupting, s.blocked⟩)
    rfl hfull
  refine ⟨_, s', ((Machine.Run.start.next hstart).trans hrun).trans hrun', ?_, ?_, hblocked,
    hfull'⟩
  · rw [List.map_append, List.map_append, hlabels, hlabel]
    rfl
  · rw [hbytes]
    exact Nat.zero_add n

/-- 65536 calls of `setOperationMode`, and then an `activate` that does not return: nothing
moves the sensor again. -/
theorem interruptPoll_blocks_activate :
    ∃ (ts : List (CallTransition PagedPipe)) (s : SensorCalls PagedPipe),
      (callMachine udfpsSensor).Run (.construct udfpsSensor 7 true true false) ts s ∧
      ts.map (·.label) =
        .call .start :: (modeCalls .normal 65536 ++ [.call (.activate true)]) ∧
      ¬ s.sensor.waitPipe < BytePipe.capacity PagedPipe ∧ s.blocked = true ∧
      ∀ ts' s', (callMachine udfpsSensor).Run s ts' s' → s' = s := by
  have hpages : pageCount * pageSize = 65536 := rfl
  obtain ⟨ts, s, hrun, hlabels, hbytes, hblocked, hfull⟩ :=
    exists_run_blocked_paged udfpsSensor 7 hpages
  refine ⟨ts, s, hrun, hlabels, ?_, hblocked, fun ts' s' hrest =>
    eq_of_blocked_run hrest hblocked hfull⟩
  rw [hbytes, ← hpages]
  exact lt_irrefl _

/-- A sensor whose pipe could not be opened. -/
theorem interruptPoll_never_blocks_iff_no_pipe :
    ∀ (ts : List (CallTransition PagedPipe)) (s : SensorCalls PagedPipe),
      (callMachine udfpsSensor).Run (.construct udfpsSensor 7 false true false) ts s →
      s.sensor.waitPipe < BytePipe.capacity PagedPipe ∧ s.blocked = false :=
  interruptPoll_never_blocks_iff.2 rfl

end Sensors
