/-
# The destructor of a polling sensor

`~UdfpsSensor`, like those of the two other classes, writes a byte to the wait pipe to
get the thread out of `poll`.  Then `~Sensor` takes the lock, sets `mStopThread`, clears
`mIsEnabled`, notifies the condition variable, and joins the thread.  The byte comes before
the flag: in between the thread can read it, find that it is to go on, and be in `poll`
again when the flag is set.  No other byte follows, and only the controller gets it out.

`destructor_returns_iff` : the destructor returns in every order of the steps, with no
help of the controller, exactly if the sensor is off when it begins, or its thread told to
stop already, and the pipe has room.  Otherwise it can get stuck, or, with the thread in
`Sensor::run`, be kept waiting by the samples.
-/
import PongHal.SensorThread

namespace Sensors

/-- How far the destructor is. -/
inductive Destructor
  /-- It has come to `interruptPoll`, which takes no lock. -/
  | interrupting
  /-- It is in `~Sensor`, which has still to take the lock. -/
  | stopping
  /-- It waits for the thread to end. -/
  | joining
  | returned
  deriving DecidableEq, Repr

/-- A sensor that is being destroyed: there are no calls on it any more. -/
structure DestroyedSensor (π : Type) extends PipedSensor π where
  destructor : Destructor

/-- What happens next: a step of the thread, or of the destructor. -/
inductive DestructorLabel
  | thread (l : SensorLabel)
  | interruptPoll
  /-- The destructor has the lock, up to where it waits for the thread. -/
  | stop
  | join
  deriving DecidableEq, Repr

/-- The class as the thread finds it in `~Sensor`: `readEvents` is that of `Sensor`, which
sets the three coordinates of `u.vec3`. -/
def PollSensorClass.base (K : PollSensorClass) : PollSensorClass :=
  { K with eventData := fun _ => [0, 0, 0] }

/-- The critical section of `~Sensor`. -/
def PollSensor.stopThread (s : PollSensor) : PollSensor :=
  { s with mStopThread := true, mIsEnabled := false }

variable {π : Type} [BytePipe π]

namespace DestroyedSensor

variable (K : PollSensorClass)

/-- The class that the thread's virtual calls go to. -/
def dynamicClass (s : DestroyedSensor π) : PollSensorClass :=
  if s.destructor = .interrupting then K else K.base

/-- One step. -/
def step (s : DestroyedSensor π) :
    DestructorLabel → Option (DestroyedSensor π × List SensorAction)
  | .thread l =>
      if (CallLabel.call l).goesOn then
        (s.sensor.step (s.dynamicClass K) l).map fun r => (⟨s.move r.1, s.destructor⟩, r.2)
      else none
  | .interruptPoll =>
      if s.destructor = .interrupting ∧ s.pipeFull = false then
        some (⟨s.move s.sensor.interruptPoll, .stopping⟩, [])
      else none
  | .stop =>
      if s.destructor = .stopping then
        some (⟨⟨s.sensor.stopThread, s.pipe⟩, .joining⟩, [])
      else none
  | .join =>
      if s.destructor = .joining ∧ s.sensor.thread = .stopped then
        some ({ s with destructor := .returned }, [])
      else none

end DestroyedSensor

/-- The machine of a sensor that is being destroyed. -/
def destructorMachine (K : PollSensorClass) :
    Machine (DestroyedSensor π) DestructorLabel SensorAction where
  step := DestroyedSensor.step K

/-- A step of such a run. -/
abbrev DestructorTransition (π : Type) :=
  Transition (DestroyedSensor π) DestructorLabel SensorAction

variable {K : PollSensorClass} {sensorHandle : Int32} {hasPipe hasNode inBase : Bool}
  {ts₀ : List (CallTransition π)} {s₀ : SensorCalls π} {p : PipedSensor π}
  {ts : List (DestructorTransition π)} {s : DestroyedSensor π}

/-! ## What a step can do -/

/-- The steps of the machine. -/
inductive DestructorStep (K : PollSensorClass) : DestructorTransition π → Prop
  | turns (s : DestroyedSensor π) (l : SensorLabel) (s' : PollSensor) (out : List SensorAction)
      (hgoes : (CallLabel.call l).goesOn = true)
      (hstep : (pollMachine (s.dynamicClass K)).Takes ⟨s.sensor, l, out, s'⟩) :
      DestructorStep K ⟨s, .thread l, out, ⟨s.move s', s.destructor⟩⟩
  | interrupts (s : DestroyedSensor π) (hat : s.destructor = .interrupting)
      (hroom : s.pipeFull = false) :
      DestructorStep K ⟨s, .interruptPoll, [], ⟨s.move s.sensor.interruptPoll, .stopping⟩⟩
  | stops (s : DestroyedSensor π) (hat : s.destructor = .stopping) :
      DestructorStep K ⟨s, .stop, [], ⟨⟨s.sensor.stopThread, s.pipe⟩, .joining⟩⟩
  | joins (s : DestroyedSensor π) (hat : s.destructor = .joining)
      (hended : s.sensor.thread = .stopped) :
      DestructorStep K ⟨s, .join, [], { s with destructor := .returned }⟩

/-- The machine takes these steps and no others. -/
theorem destructorStep_iff {t : DestructorTransition π} :
    (destructorMachine K).Takes t ↔ DestructorStep K t := by
  constructor
  · intro h
    obtain ⟨s, l, out, s'⟩ := t
    change s.step K l = some (s', out) at h
    cases l with
    | thread l =>
        obtain ⟨hgoes, hr⟩ := Option.ite_none_right_eq_some.1 h
        obtain ⟨⟨s₁, out₁⟩, hstep, heq⟩ := Option.map_eq_some_iff.1 hr
        cases heq
        exact .turns s l s₁ out₁ hgoes hstep
    | interruptPoll =>
        obtain ⟨⟨hat, hroom⟩, hr⟩ := Option.ite_none_right_eq_some.1 h
        cases hr
        exact .interrupts s hat hroom
    | stop =>
        obtain ⟨hat, hr⟩ := Option.ite_none_right_eq_some.1 h
        cases hr
        exact .stops s hat
    | join =>
        obtain ⟨⟨hat, hended⟩, hr⟩ := Option.ite_none_right_eq_some.1 h
        cases hr
        exact .joins s hat hended
  · intro h
    cases h with
    | turns s l s' out hgoes hstep =>
        have hinner : s.sensor.step (s.dynamicClass K) l = some (s', out) := hstep
        show s.step K (.thread l) = _
        rw [DestroyedSensor.step, if_pos hgoes, hinner]
        rfl
    | interrupts s hat hroom => exact if_pos ⟨hat, hroom⟩
    | stops s hat => exact if_pos hat
    | joins s hat hended => exact if_pos ⟨hat, hended⟩

/-- The rounds in a step that read nothing from the pipe. -/
def DestructorTransition.reports (K : PollSensorClass) (t : DestructorTransition π) : ℕ :=
  match t.label with
  | .thread l => t.pre.sensor.reports K l
  | .interruptPoll | .stop | .join => 0

/-- The rounds of a run that do. -/
def destructorReports (K : PollSensorClass) (ts : List (DestructorTransition π)) : ℕ :=
  (ts.map (DestructorTransition.reports K)).sum

omit [BytePipe π] in
/-- What the thread's rounds do with the pipe does not hang on `readEvents`. -/
theorem reports_dynamicClass (x : PollSensor) (l : SensorLabel) :
    x.reports (s.dynamicClass K) l = x.reports K l := by
  rw [DestroyedSensor.dynamicClass]
  split
  · rfl
  · cases l <;> rfl

/-! ## The thread's turns -/

namespace PollSensor

/-- What a turn of the thread changes: at most it switches the sensor off, tells itself to
stop, or takes bytes out of the pipe; and if it is told to stop it ends. -/
structure Turn (x x' : PollSensor) : Prop where
  hasPipe : x'.hasPipe = x.hasPipe
  mMode : x'.mMode = x.mMode
  mIsEnabled : x'.mIsEnabled = true → x.mIsEnabled = true
  stopped : x.mStopThread = true → x'.mStopThread = true ∧ x'.thread = .stopped
  waitPipe : x'.waitPipe ≤ x.waitPipe

/-- From the head of the loop on. -/
theorem turn_loop {x y : PollSensor} (hpipe : y.hasPipe = x.hasPipe) (hmode : y.mMode = x.mMode)
    (henabled : y.mIsEnabled = true → x.mIsEnabled = true)
    (hstop : x.mStopThread = true → y.mStopThread = true) (hbytes : y.waitPipe ≤ x.waitPipe) :
    x.Turn y.loop where
  hasPipe := by rw [hasPipe_loop, hpipe]
  mMode := by rw [mMode_loop, hmode]
  mIsEnabled := by rwa [mIsEnabled_loop]
  stopped hstopped := by
    rw [mStopThread_loop, thread_loop, if_pos (hstop hstopped)]
    exact ⟨hstop hstopped, rfl⟩
  waitPipe := by rwa [waitPipe_loop]

theorem turn_of_takes {x x' : PollSensor} {l : SensorLabel} {out : List SensorAction}
    (h : (pollMachine K).Takes ⟨x, l, out, x'⟩) (hgoes : (CallLabel.call l).goesOn = true) :
    x.Turn x' := by
  change x.step K l = some (x', out) at h
  cases l with
  | activate | setOperationMode | injectEvent => cases hgoes
  | start | wake =>
      obtain ⟨-, hr⟩ := Option.ite_none_right_eq_some.1 h
      cases hr
      exact turn_loop rfl rfl id id le_rfl
  | sample now timestamp =>
      obtain ⟨-, hr⟩ := Option.ite_none_right_eq_some.1 h
      rw [Option.some.injEq] at hr
      obtain ⟨hdue, hloop⟩ | ⟨-, thread, hplace, hloop⟩ :=
        baseLoop_cases (K := K) x now timestamp
      · rw [hloop] at hr
        cases hr
        refine ⟨rfl, rfl, id, fun hstop => ?_, le_rfl⟩
        rw [due_of_stopThread hstop] at hdue
        cases hdue
      · rw [hloop] at hr
        cases hr
        refine ⟨rfl, rfl, id, fun hstop => ⟨hstop, ?_⟩, le_rfl⟩
        cases thread <;> simp_all [BasePlace]
  | poll rc pipeRevents nodeRevents node timestamp =>
      obtain ⟨-, hr⟩ := Option.ite_none_right_eq_some.1 h
      obtain ⟨⟨y, out₁⟩, hpolled, heq⟩ := Option.map_eq_some_iff.1 hr
      cases heq
      cases polled_iff.1 hpolled with
      | failed hrc hquiet => exact turn_loop rfl rfl id (fun _ => rfl) le_rfl
      | posts y hfires hpost =>
          subst hpost
          exact turn_loop rfl rfl (fun hoff => Bool.noConfusion hoff) id le_rfl
      | reads hrc hquiet hreadable hbyte => exact turn_loop rfl rfl id id (Nat.sub_le _ _)
      | idles hrc hquiet hreadable => exact turn_loop rfl rfl id id le_rfl

/-- No turn of the thread switches the sensor on. -/
theorem Turn.leaves {x x' : PollSensor} (h : x.Turn x') (hleaves : x.Leaves) : x'.Leaves := by
  rintro ⟨henabled, hnormal⟩
  rw [h.mMode] at hnormal
  exact (h.stopped (hleaves ⟨h.mIsEnabled henabled, hnormal⟩)).1

end PollSensor

/-- A turn of the thread is no call. -/
theorem ne_setOperationMode_of_goesOn {l : SensorLabel} (hgoes : (CallLabel.call l).goesOn = true)
    (mode : OperationMode) : l ≠ .setOperationMode mode := by
  rintro rfl
  cases hgoes

/-- It brings no byte. -/
theorem pipeWrites_of_goesOn {l : SensorLabel} (hgoes : (CallLabel.call l).goesOn = true)
    (x : PollSensor) : x.pipeWrites l = 0 := by
  cases l with
  | activate | setOperationMode | injectEvent => cases hgoes
  | start | wake | sample | poll => rfl

/-- A thread that has ended takes no turns. -/
theorem running_of_turn {x x' : PollSensor} {l : SensorLabel} {out : List SensorAction}
    (h : (pollMachine K).Takes ⟨x, l, out, x'⟩) (hgoes : (CallLabel.call l).goesOn = true) :
    x.thread ≠ .stopped := by
  intro hstopped
  change x.step K l = some (x', out) at h
  cases l with
  | activate | setOperationMode | injectEvent => cases hgoes
  | start | wake | poll => simp [PollSensor.step, hstopped] at h
  | sample => simp [PollSensor.step, PollSensor.canSample, hstopped] at h

theorem tied_destructorStep {t : DestructorTransition π} (h : (destructorMachine K).Takes t)
    (htied : t.pre.Tied) : t.post.Tied := by
  cases destructorStep_iff.1 h with
  | turns s l s' out hgoes hstep =>
      refine PipedSensor.tied_move htied hstep fun hwrites => ?_
      rw [pipeWrites_of_goesOn hgoes] at hwrites
      cases hwrites
  | interrupts s hat hroom => exact PipedSensor.tied_interruptPoll htied hroom
  | stops | joins => exact htied

/-! ## The destructor in time -/

/-- The destructor does not come too late: the byte it writes, or one that is in the pipe
already, is not read before the thread has reason to leave `poll` for good. -/
def DestroyedSensor.InTime (s : DestroyedSensor π) : Prop :=
  match s.destructor with
  | .interrupting => s.sensor.Attended 0 ∧ s.sensor.Leaves ∧ s.pipeFull = false
  | .stopping => s.sensor.Attended 0 ∧ s.sensor.Leaves
  | .joining =>
      s.sensor.mStopThread = true ∧ (s.sensor.thread = .polling → 0 < s.sensor.waitPipe)
  | .returned => s.sensor.mStopThread = true

theorem DestroyedSensor.InTime.leaves (hin : s.InTime) : s.sensor.Leaves := by
  rw [InTime] at hin
  cases hat : s.destructor with
  | interrupting | stopping =>
      rw [hat] at hin
      exact fun hon => by simp_all [PollSensor.Leaves]
  | joining | returned =>
      rw [hat] at hin
      exact fun _ => by simp_all

/-- Every step keeps the destructor in time. -/
theorem inTime_step {t : DestructorTransition π} (h : (destructorMachine K).Takes t)
    (hpre : t.pre.InTime) : t.post.InTime := by
  cases destructorStep_iff.1 h with
  | turns s l s' out hgoes hstep =>
      have hturn := PollSensor.turn_of_takes hstep hgoes
      have hattended : s.sensor.Attended 0 → s'.Attended 0 :=
        attended_takes hstep (ne_setOperationMode_of_goesOn hgoes)
      simp only [DestroyedSensor.InTime, PipedSensor.sensor_move] at hpre ⊢
      cases hat : s.destructor with
      | interrupting =>
          simp only [hat] at hpre
          exact ⟨hattended hpre.1, hturn.leaves hpre.2.1,
            PipedSensor.pipeFull_move hturn.hasPipe hturn.waitPipe hpre.2.2⟩
      | stopping =>
          simp only [hat] at hpre
          exact ⟨hattended hpre.1, hturn.leaves hpre.2⟩
      | joining =>
          simp only [hat] at hpre
          obtain ⟨hstop, hended⟩ := hturn.stopped hpre.1
          exact ⟨hstop, by simp [hended]⟩
      | returned =>
          simp only [hat] at hpre
          exact (hturn.stopped hpre).1
  | interrupts s hat hroom =>
      rw [DestroyedSensor.InTime, hat] at hpre
      obtain ⟨hattended, hleaves, -⟩ := hpre
      refine ⟨attended_interruptPoll hattended.placed 0, ?_⟩
      rw [PipedSensor.sensor_move, PollSensor.interruptPoll_eq]
      exact hleaves
  | stops s hat =>
      rw [DestroyedSensor.InTime, hat] at hpre
      obtain ⟨hattended, hleaves⟩ := hpre
      refine ⟨rfl, fun hpoll => ?_⟩
      -- the thread is in `poll` with the sensor off: a byte is on its way
      have hgo : s.sensor.mStopThread = false := hattended.placed.running (.inl hpoll)
      rcases hattended.interrupted hpoll with hon | hpos | hcall
      · exact absurd (hleaves hon) (by simp [hgo])
      · exact hpos
      · exact absurd hcall (lt_irrefl 0)
  | joins s hat hended =>
      rw [DestroyedSensor.InTime, hat] at hpre
      exact hpre.1

/-- A destructor in time can go on without the controller until it has returned. -/
theorem exists_step_of_inTime (hin : s.InTime) :
    s.destructor = .returned ∨ ∃ t : DestructorTransition π,
      (destructorMachine K).Takes t ∧ t.pre = s ∧ t.reports K = 0 := by
  rw [DestroyedSensor.InTime] at hin
  cases hat : s.destructor with
  | interrupting =>
      rw [hat] at hin
      exact .inr ⟨_, destructorStep_iff.2 (.interrupts s hat hin.2.2), rfl, rfl⟩
  | stopping => exact .inr ⟨_, destructorStep_iff.2 (.stops s hat), rfl, rfl⟩
  | returned => exact .inl rfl
  | joining =>
      rw [hat] at hin
      obtain ⟨hstop, hbyte⟩ := hin
      have hcan : s.sensor.canRun = true := PollSensor.canRun_iff.2 (.inr hstop)
      cases hthread : s.sensor.thread with
      | starting =>
          have hturn : (pollMachine (s.dynamicClass K)).Takes
              ⟨s.sensor, .start, [], s.sensor.loop⟩ := if_pos hthread
          exact .inr ⟨_, destructorStep_iff.2 (.turns s _ _ _ rfl hturn), rfl, rfl⟩
      | waiting =>
          have hturn : (pollMachine (s.dynamicClass K)).Takes
              ⟨s.sensor, .wake, [], s.sensor.loop⟩ := if_pos ⟨hthread, hcan⟩
          exact .inr ⟨_, destructorStep_iff.2 (.turns s _ _ _ rfl hturn), rfl, rfl⟩
      | polling =>
          have hturn := takes_read (K := s.dynamicClass K) hthread (hbyte hthread).ne'
          exact .inr ⟨_, destructorStep_iff.2 (.turns s _ _ _ rfl hturn), rfl, rfl⟩
      | baseStarting | baseWaiting | sampling =>
          have hsample : s.sensor.canSample = true := by
            simp [PollSensor.canSample, hthread, hcan]
          have hturn : (pollMachine (s.dynamicClass K)).Takes ⟨s.sensor, .sample 0 0, _, _⟩ :=
            takes_sample hsample rfl
          exact .inr ⟨_, destructorStep_iff.2 (.turns s _ _ _ rfl hturn), rfl, rfl⟩
      | stopped => exact .inr ⟨_, destructorStep_iff.2 (.joins s hat hthread), rfl, rfl⟩

/-! ## How long it takes -/

/-- How many steps the destructor and the thread have at most, if it is in time and the
controller reports nothing. -/
def DestroyedSensor.stepsToReturn (s : DestroyedSensor π) : ℕ :=
  match s.destructor with
  | .interrupting => s.sensor.stepsToRest + 5
  | .stopping => s.sensor.stepsToRest + 3
  | .joining => (if s.sensor.thread = .stopped then 0 else 1) + 1
  | .returned => if s.sensor.thread = .stopped then 0 else 1

/-- Every step brings a destructor in time nearer to its end, unless the controller has
reported something. -/
theorem stepsToReturn_step {t : DestructorTransition π} (h : (destructorMachine K).Takes t)
    (hin : t.pre.InTime) : 1 + t.post.stepsToReturn ≤ t.pre.stepsToReturn + t.reports K := by
  cases destructorStep_iff.1 h with
  | turns s l s' out hgoes hstep =>
      have hturn := stepsToRest_turn hstep hgoes fun _ => hin.leaves
      rw [reports_dynamicClass] at hturn
      have hended := fun hstop => ((PollSensor.turn_of_takes hstep hgoes).stopped hstop).2
      have hlive := running_of_turn hstep hgoes
      rw [DestroyedSensor.InTime] at hin
      simp only [DestroyedSensor.stepsToReturn, DestructorTransition.reports,
        PipedSensor.sensor_move]
      cases hat : s.destructor with
      | interrupting | stopping =>
          dsimp only
          omega
      | joining =>
          simp only [hat] at hin
          simp only [hended hin.1, hlive, if_true, if_false]
          omega
      | returned =>
          simp only [hat] at hin
          simp only [hended hin, hlive, if_true, if_false]
          omega
  | interrupts s hat hroom =>
      have hbyte := stepsToRest_interruptPoll_le (s := s.sensor)
      simp only [DestroyedSensor.stepsToReturn, hat, PipedSensor.sensor_move]
      omega
  | stops s hat =>
      simp only [DestroyedSensor.stepsToReturn, hat]
      split <;> omega
  | joins s hat hended =>
      simp only [DestroyedSensor.stepsToReturn, hat, hended, if_pos]
      omega

/-- A destructor in time and the thread have at most six steps, one for each byte in the pipe,
and one for each report of the controller. -/
theorem length_le_of_destructorRun (hrun : (destructorMachine K).Run ⟨p, .interrupting⟩ ts s)
    (hbegun : DestroyedSensor.InTime ⟨p, .interrupting⟩) :
    ts.length ≤ p.sensor.waitPipe + 6 + destructorReports K ts := by
  have hspent : (ts.map fun _ => 1).sum + s.stepsToReturn ≤
      (p.sensor.stepsToRest + 5) + (ts.map (DestructorTransition.reports K)).sum := by
    have hnext : ∀ (ts : List (DestructorTransition π)) (t : DestructorTransition π),
        (destructorMachine K).Run ⟨p, .interrupting⟩ ts t.pre → (destructorMachine K).Takes t →
        1 + t.post.stepsToReturn ≤ t.pre.stepsToReturn + t.reports K := by
      intro ts t hbefore hstep
      exact stepsToReturn_step hstep
        (hbefore.invariant hbegun fun _ hstep hpre => inTime_step hstep hpre)
    exact hrun.sum_add_le_of_steps hnext
  have hstart := p.sensor.stepsToRest_le
  simp only [List.map_const', List.sum_replicate, smul_eq_mul, Nat.mul_one] at hspent
  rw [destructorReports]
  omega

/-! ## Too late -/

/-- The destructor has not returned, and nothing goes on before the controller reports
something. -/
def DestroyedSensor.Stuck (K : PollSensorClass) (s : DestroyedSensor π) : Prop :=
  s.destructor ≠ .returned ∧
    ∀ t : DestructorTransition π, (destructorMachine K).Takes t → t.pre = s → t.reports K ≠ 0

omit [BytePipe π] in
/-- A turn that the thread takes without the controller: it starts, is woken with reason
to, reads a byte, or comes to the head of the loop in `Sensor::run`. -/
theorem turn_of_no_report {x x' : PollSensor} {l : SensorLabel} {out : List SensorAction}
    (h : (pollMachine (s.dynamicClass K)).Takes ⟨x, l, out, x'⟩)
    (hgoes : (CallLabel.call l).goesOn = true) (hquiet : x.reports K l = 0) :
    x.thread = .starting ∨ (x.thread = .waiting ∧ x.canRun = true) ∨
      (x.thread = .polling ∧ 0 < x.waitPipe) ∨ x.canSample = true := by
  have hbytes := PollSensor.waitPipe_step h
  rw [← reports_dynamicClass (s := s)] at hquiet
  change x.step (s.dynamicClass K) l = some (x', out) at h
  cases l with
  | activate | setOperationMode | injectEvent => cases hgoes
  | start => exact .inl (Option.ite_none_right_eq_some.1 h).1
  | wake => exact .inr (.inl (Option.ite_none_right_eq_some.1 h).1)
  | sample => exact .inr (.inr (.inr (Option.ite_none_right_eq_some.1 h).1))
  | poll rc pipeRevents nodeRevents node timestamp =>
      have hthread := (Option.ite_none_right_eq_some.1 h).1
      simp only [PollSensor.reports] at hquiet
      simp only [PollSensor.pipeWrites] at hbytes
      exact .inr (.inr (.inl ⟨hthread, by omega⟩))

/-- In `join`, with the thread in `poll` and no byte in the pipe. -/
theorem stuck_of_joining (hat : s.destructor = .joining) (hpoll : s.sensor.thread = .polling)
    (hempty : s.sensor.waitPipe = 0) : s.Stuck K := by
  refine ⟨by simp [hat], ?_⟩
  rintro t hstep rfl hquiet
  cases destructorStep_iff.1 hstep with
  | turns s l s' out hgoes hturn =>
      rcases turn_of_no_report hturn hgoes hquiet with
        hthread | ⟨hthread, -⟩ | ⟨-, hbyte⟩ | hsample
      · exact absurd (hthread.symm.trans hpoll) (by decide)
      · exact absurd (hthread.symm.trans hpoll) (by decide)
      · exact absurd hempty hbyte.ne'
      · simp [PollSensor.canSample, show s.sensor.thread = .polling from hpoll] at hsample
  | interrupts s hat' hroom => exact absurd (hat'.symm.trans hat) (by decide)
  | stops s hat' => exact absurd (hat'.symm.trans hat) (by decide)
  | joins s hat' hended => exact absurd (hended.symm.trans hpoll) (by decide)

/-- The thread has ended, or waits without reason to go on. -/
def PollSensor.Idle (x : PollSensor) : Prop :=
  match x.thread with
  | .stopped => True
  | .waiting | .baseWaiting => x.canRun = false
  | .starting | .polling | .baseStarting | .sampling => False

/-- In the write to a full pipe, with the thread idle. -/
theorem stuck_of_interrupting (hidle : p.sensor.Idle) (hfull : p.pipeFull = true) :
    DestroyedSensor.Stuck K ⟨p, .interrupting⟩ := by
  refine ⟨by simp, ?_⟩
  rintro t hstep hpre hquiet
  cases destructorStep_iff.1 hstep with
  | turns s l s' out hgoes hturn =>
      cases hpre
      rw [PollSensor.Idle] at hidle
      rcases turn_of_no_report (x := p.sensor) hturn hgoes hquiet with
        hthread | ⟨hthread, hcan⟩ | ⟨hthread, -⟩ | hsample
      · simp [hthread] at hidle
      · simp [hthread, hcan] at hidle
      · simp [hthread] at hidle
      · rw [PollSensor.canSample] at hsample
        cases hthread : p.sensor.thread <;> simp_all
  | interrupts s hat hroom =>
      cases hpre
      simp [hfull] at hroom
  | stops s hat =>
      cases hpre
      cases hat
  | joins s hat hended =>
      cases hpre
      cases hat

/-- At the head of the loop, with the sensor off, the thread becomes idle. -/
theorem idle_loop {x : PollSensor} (hleaves : x.Leaves) : x.loop.Idle := by
  rw [PollSensor.Idle]
  rcases x.loop_cases with ⟨-, hthread⟩ | ⟨hgo, hoff, hthread⟩ | ⟨hgo, hon, -⟩
  · simp [hthread]
  · have hcannot : x.loop.canRun = false := by
      rw [← Bool.not_eq_true, PollSensor.canRun_iff, not_or]
      simpa [hgo, PollSensor.On] using hoff
    simp [hthread, hcannot]
  · rw [hleaves hon] at hgo
    cases hgo

/-- With the sensor off the thread is idle or can become so in a turn, without the pipe. -/
theorem idle_or_exists_turn (x : PollSensor) (hleaves : x.Leaves) :
    x.Idle ∨ ∃ l out x', (pollMachine K).Takes ⟨x, l, out, x'⟩ ∧
      (CallLabel.call l).goesOn = true ∧ x'.Idle ∧ x'.hasPipe = x.hasPipe ∧
      x'.waitPipe = x.waitPipe := by
  have hbase : x.canSample = true → ∃ l out x', (pollMachine K).Takes ⟨x, l, out, x'⟩ ∧
      (CallLabel.call l).goesOn = true ∧ x'.Idle ∧ x'.hasPipe = x.hasPipe ∧
      x'.waitPipe = x.waitPipe := by
    intro hcan
    obtain ⟨hdue, -⟩ | ⟨-, thread, hplace, hloop⟩ := PollSensor.baseLoop_cases (K := K) x 0 0
    · rw [PollSensor.due_of_stopThread (hleaves (PollSensor.on_of_due hdue))] at hdue
      cases hdue
    · refine ⟨_, _, _, takes_sample hcan hloop, rfl, ?_, rfl, rfl⟩
      cases thread with
      | stopped => exact trivial
      | baseWaiting =>
          obtain ⟨hgo, hoff⟩ := hplace
          show PollSensor.canRun _ = false
          rw [← Bool.not_eq_true, PollSensor.canRun_iff, not_or]
          simpa [hgo, PollSensor.On] using hoff
      | sampling =>
          obtain ⟨hgo, hon⟩ := hplace
          rw [hleaves hon] at hgo
          cases hgo
      | starting | waiting | polling | baseStarting => exact hplace.elim
  cases hthread : x.thread with
  | starting =>
      have hturn : (pollMachine K).Takes ⟨x, .start, [], x.loop⟩ := if_pos hthread
      exact .inr ⟨_, _, _, hturn, rfl, idle_loop hleaves, by simp, by simp⟩
  | polling =>
      -- the controller reports something that is no gesture
      have hidles : x.Polled K 0 0 0 tapped 0 (x.looked K 0 tapped) [] :=
        .idles le_rfl rfl (by decide)
      have hturn : (pollMachine K).Takes ⟨x, .poll 0 0 0 tapped 0, [], x.loop⟩ := by
        show PollSensor.step K x (.poll 0 0 0 tapped 0) = _
        rw [PollSensor.step, if_pos hthread, PollSensor.polled_iff.2 hidles]
        rfl
      exact .inr ⟨_, _, _, hturn, rfl, idle_loop hleaves, by simp, by simp⟩
  | waiting =>
      by_cases hcan : x.canRun = true
      · have hturn : (pollMachine K).Takes ⟨x, .wake, [], x.loop⟩ := if_pos ⟨hthread, hcan⟩
        exact .inr ⟨_, _, _, hturn, rfl, idle_loop hleaves, by simp, by simp⟩
      · exact .inl (by simpa [PollSensor.Idle, hthread] using hcan)
  | baseStarting | sampling => exact .inr (hbase (by simp [PollSensor.canSample, hthread]))
  | baseWaiting =>
      by_cases hcan : x.canRun = true
      · exact .inr (hbase (by simp [PollSensor.canSample, hthread, hcan]))
      · exact .inl (by simpa [PollSensor.Idle, hthread] using hcan)
  | stopped => exact .inl (by simp [PollSensor.Idle, hthread])

/-- With the pipe full and the sensor off, the thread becomes idle while the destructor waits
in its write. -/
theorem exists_run_stuck_of_full (hleaves : p.sensor.Leaves) (hfull : p.pipeFull = true) :
    ∃ ts s, (destructorMachine K).Run ⟨p, .interrupting⟩ ts s ∧ s.Stuck K := by
  obtain hidle | ⟨l, out, x', hturn, hgoes, hidle, hpipe, hbytes⟩ :=
    idle_or_exists_turn (K := K) p.sensor hleaves
  · exact ⟨[], _, .start, stuck_of_interrupting hidle hfull⟩
  · have hstep := destructorStep_iff.2 (.turns (K := K) ⟨p, .interrupting⟩ _ _ _ hgoes hturn)
    have hstill : (p.move x').pipeFull = true := by
      rw [PipedSensor.pipeFull, PipedSensor.move, hbytes, BytePipe.follow_self, hpipe]
      exact hfull
    exact ⟨_, _, Machine.Run.start.next hstep, stuck_of_interrupting hidle hstill⟩

/-- With the sensor on, the thread goes into `poll`. -/
theorem loop_of_on {x : PollSensor} (hon : x.On) (hgo : x.mStopThread = false) :
    x.loop = { x with thread := .polling } := by
  rcases x.loop_cases with ⟨hstop, -⟩ | ⟨-, hoff, -⟩ | ⟨-, -, hthread⟩
  · simp [hgo] at hstop
  · exact absurd hon hoff
  · rw [PollSensor.loop_eq, hthread]

/-- A thread in `poll` with the sensor on reads all bytes, and is in `poll` again. -/
theorem exists_run_reads_all {d : Destructor} (htied : p.Tied)
    (hpoll : p.sensor.thread = .polling) (hon : p.sensor.On) (hgo : p.sensor.mStopThread = false) :
    ∃ ts pipe, (destructorMachine K).Run ⟨p, d⟩ ts ⟨⟨{ p.sensor with waitPipe := 0 }, pipe⟩, d⟩ ∧
      BytePipe.unread pipe = 0 := by
  generalize hn : p.sensor.waitPipe = n
  induction n generalizing p with
  | zero =>
      have hsame : (⟨⟨{ p.sensor with waitPipe := 0 }, p.pipe⟩, d⟩ : DestroyedSensor π) =
          ⟨p, d⟩ := by rw [← hn]
      refine ⟨[], p.pipe, ?_, htied.trans hn⟩
      rw [hsame]
      exact .start
  | succ n ih =>
      have hread : PollSensor.loop { p.sensor with waitPipe := p.sensor.waitPipe - 1 } =
          { p.sensor with waitPipe := n } := by
        rw [loop_of_on (x := { p.sensor with waitPipe := p.sensor.waitPipe - 1 }) hon hgo, hn,
          ← hpoll]
        rfl
      have hturn := takes_read (K := DestroyedSensor.dynamicClass K ⟨p, d⟩) hpoll (by omega)
      rw [hread] at hturn
      have hstep := destructorStep_iff.2 (.turns (K := K) ⟨p, d⟩ _ _ _ rfl hturn)
      obtain ⟨ts, pipe, hrest, hempty⟩ := ih (p := p.move { p.sensor with waitPipe := n })
        (tied_destructorStep hstep htied) hpoll hon hgo rfl
      exact ⟨_, pipe, (Machine.Run.start.next hstep).trans hrest, hempty⟩

/-- With the sensor on, a thread in the class's own `run` comes to be in `poll`. -/
theorem exists_run_polling (hplaced : p.sensor.Placed) (hown : p.sensor.thread.inBase = false)
    (hon : p.sensor.On) (hgo : p.sensor.mStopThread = false) :
    ∃ ts, (destructorMachine K).Run ⟨p, .interrupting⟩ ts
      ⟨⟨{ p.sensor with thread := .polling }, p.pipe⟩, .interrupting⟩ := by
  have hmove : p.move { p.sensor with thread := .polling } =
      ⟨{ p.sensor with thread := .polling }, p.pipe⟩ := by
    rw [PipedSensor.move, BytePipe.follow_self]
  cases hthread : p.sensor.thread with
  | starting =>
      have hturn : (pollMachine K).Takes ⟨p.sensor, .start, [], p.sensor.loop⟩ := if_pos hthread
      rw [loop_of_on hon hgo] at hturn
      have hstep := destructorStep_iff.2
        (.turns (K := K) ⟨p, .interrupting⟩ _ _ _ rfl hturn)
      rw [hmove] at hstep
      exact ⟨_, Machine.Run.start.next hstep⟩
  | waiting =>
      have hcan : p.sensor.canRun = true := PollSensor.canRun_iff.2 (.inl hon)
      have hturn : (pollMachine K).Takes ⟨p.sensor, .wake, [], p.sensor.loop⟩ :=
        if_pos ⟨hthread, hcan⟩
      rw [loop_of_on hon hgo] at hturn
      have hstep := destructorStep_iff.2
        (.turns (K := K) ⟨p, .interrupting⟩ _ _ _ rfl hturn)
      rw [hmove] at hstep
      exact ⟨_, Machine.Run.start.next hstep⟩
  | polling =>
      have hsame : (⟨{ p.sensor with thread := .polling }, p.pipe⟩ : PipedSensor π) = p := by
        rw [← hthread]
      rw [hsame]
      exact ⟨[], .start⟩
  | stopped =>
      have hstop := hplaced.stopped hthread
      simp [hgo] at hstop
  | baseStarting | baseWaiting | sampling => simp [hthread, RunThread.inBase] at hown

/-- With the sensor on, the thread can read the byte of the destructor and be in `poll` again
before `mStopThread` is set. -/
theorem exists_run_stuck_of_on (htied : p.Tied) (hplaced : p.sensor.Placed)
    (hown : p.sensor.thread.inBase = false) (hon : p.sensor.On)
    (hgo : p.sensor.mStopThread = false) :
    ∃ ts s, (destructorMachine K).Run ⟨p, .interrupting⟩ ts s ∧ s.Stuck K := by
  obtain ⟨ts₁, hpolls⟩ := exists_run_polling (K := K) hplaced hown hon hgo
  obtain ⟨ts₂, pipe₂, hreads, hempty⟩ := exists_run_reads_all (K := K)
    (p := ⟨{ p.sensor with thread := .polling }, p.pipe⟩) (d := .interrupting) htied rfl hon hgo
  have hroom : PipedSensor.pipeFull
      ⟨{ p.sensor with thread := .polling, waitPipe := 0 }, pipe₂⟩ = false := by
    rw [PipedSensor.pipeFull, BytePipe.full_of_unread_eq_zero hempty, Bool.and_false]
  have hbyte := destructorStep_iff.2 (.interrupts (K := K)
    ⟨⟨{ p.sensor with thread := .polling, waitPipe := 0 }, pipe₂⟩, .interrupting⟩ rfl hroom)
  obtain ⟨ts₃, pipe₃, hagain, -⟩ := exists_run_reads_all (K := K)
    (p := PipedSensor.move ⟨{ p.sensor with thread := .polling, waitPipe := 0 }, pipe₂⟩
      (PollSensor.interruptPoll { p.sensor with thread := .polling, waitPipe := 0 }))
    (d := .stopping) (PipedSensor.tied_interruptPoll hempty hroom) (by simp)
    (by simpa [PollSensor.On] using hon)
    (by rw [PipedSensor.sensor_move, PollSensor.interruptPoll_eq]; exact hgo)
  have hstops := fun y : PipedSensor π =>
    destructorStep_iff.2 (.stops (K := K) ⟨y, .stopping⟩ rfl)
  refine ⟨_, _, ((((hpolls.trans hreads).next hbyte).trans hagain).next (hstops _)), ?_⟩
  refine stuck_of_joining rfl ?_ rfl
  simp [PollSensor.stopThread]

/-- With the sensor on, a thread in `Sensor::run` can go on as long as the destructor does not
get the lock. -/
theorem exists_run_sampling (hplaced : p.sensor.Placed) (hbase : p.sensor.thread.inBase = true)
    (hon : p.sensor.On) (hgo : p.sensor.mStopThread = false) (n : ℕ) :
    ∃ ts s, (destructorMachine K).Run ⟨p, .interrupting⟩ ts s ∧ ts.length = n ∧
      destructorReports K ts = 0 ∧ s.destructor = .interrupting := by
  -- it is in `wait_for` from the first turn on
  have hstays : ∀ n, ∃ ts s, (destructorMachine K).Run ⟨p, .interrupting⟩ ts s ∧ ts.length = n ∧
      destructorReports K ts = 0 ∧ s.destructor = .interrupting ∧
      s.sensor.canSample = true ∧ s.sensor.On ∧ s.sensor.mStopThread = false := by
    intro n
    induction n with
    | zero =>
        refine ⟨[], _, .start, rfl, rfl, rfl, ?_, hon, hgo⟩
        rw [PollSensor.canSample]
        have hcan : p.sensor.canRun = true := PollSensor.canRun_iff.2 (.inl hon)
        cases hthread : p.sensor.thread with
        | baseStarting | sampling => simp
        | baseWaiting => simp [hcan]
        | stopped =>
            have hstop := hplaced.stopped hthread
            simp [hgo] at hstop
        | starting | waiting | polling => simp [hthread, RunThread.inBase] at hbase
    | succ n ih =>
        obtain ⟨ts, s, hrun, hlength, hquiet, hat, hcan, hon, hgo⟩ := ih
        have hcount : ∀ t : DestructorTransition π, t.label = .thread (.sample 0 0) →
            destructorReports K (ts ++ [t]) = 0 := by
          intro t hlabel
          rw [destructorReports, List.map_append, List.sum_append, ← destructorReports, hquiet]
          simp [DestructorTransition.reports, hlabel, PollSensor.reports]
        obtain ⟨-, hloop⟩ | ⟨-, thread, hplace, hloop⟩ :=
          PollSensor.baseLoop_cases (K := s.dynamicClass K) s.sensor 0 0
        · have hturn := destructorStep_iff.2
            (.turns (K := K) s _ _ _ rfl (takes_sample hcan hloop))
          exact ⟨_, _, hrun.next hturn, by simp [hlength], hcount _ rfl, hat, rfl, hon, hgo⟩
        · have hturn := destructorStep_iff.2
            (.turns (K := K) s _ _ _ rfl (takes_sample hcan hloop))
          refine ⟨_, _, hrun.next hturn, by simp [hlength], hcount _ rfl, hat, ?_, hon, hgo⟩
          cases thread with
          | sampling => rfl
          | baseWaiting => exact absurd hon hplace.2
          | stopped =>
              have hstop : s.sensor.mStopThread = true := hplace
              simp [hgo] at hstop
          | starting | waiting | polling | baseStarting => exact hplace.elim
  obtain ⟨ts, s, hrun, hlength, hquiet, hat, -⟩ := hstays n
  exact ⟨ts, s, hrun, hlength, hquiet, hat⟩

/-! ## Exactly when it is in time -/

/-- **Exactly when the destructor of a polling sensor returns.**  It is begun with no call
under way.  It and the thread have at most six steps, one for each byte in the pipe and one
for each report of the controller, and can go on without any report until it has returned,
if and only if the sensor is off, or its thread told to stop, and the pipe is not full.
Otherwise some run leads to where nothing goes on before a report, or the thread is in
`Sensor::run` and takes any number of steps before the destructor gets the lock. -/
theorem destructor_returns_iff
    (hrun₀ : (callMachine K).Run (.construct K sensorHandle hasPipe hasNode inBase) ts₀ s₀)
    (hcalls : s₀.interrupting = 0 ∧ s₀.blocked = false) :
    ((∀ ts s, (destructorMachine K).Run ⟨s₀.toPipedSensor, .interrupting⟩ ts s →
      ts.length ≤ s₀.sensor.waitPipe + 6 + destructorReports K ts ∧
        (s.destructor = .returned ∨ ∃ t : DestructorTransition π,
          (destructorMachine K).Takes t ∧ t.pre = s ∧ t.reports K = 0)) ↔
      (s₀.sensor.On → s₀.sensor.mStopThread = true) ∧ s₀.pipeFull = false) ∧
    (¬ ((s₀.sensor.On → s₀.sensor.mStopThread = true) ∧ s₀.pipeFull = false) →
      (∃ ts s, (destructorMachine K).Run ⟨s₀.toPipedSensor, .interrupting⟩ ts s ∧ s.Stuck K) ∨
        (inBase = true ∧ ∀ n, ∃ ts s,
          (destructorMachine K).Run ⟨s₀.toPipedSensor, .interrupting⟩ ts s ∧ ts.length = n ∧
            destructorReports K ts = 0 ∧ s.destructor = .interrupting)) := by
  have htied : s₀.Tied := tied_of_run hrun₀
  have hattended : s₀.sensor.Attended 0 := hcalls.1 ▸ attended_of_run hrun₀
  have hlate : ¬ (s₀.sensor.Leaves ∧ s₀.pipeFull = false) →
      (∃ ts s, (destructorMachine K).Run ⟨s₀.toPipedSensor, .interrupting⟩ ts s ∧ s.Stuck K) ∨
        (inBase = true ∧ ∀ n, ∃ ts s,
          (destructorMachine K).Run ⟨s₀.toPipedSensor, .interrupting⟩ ts s ∧ ts.length = n ∧
            destructorReports K ts = 0 ∧ s.destructor = .interrupting) := by
    intro hnot
    by_cases hleaves : s₀.sensor.Leaves
    · have hfull : s₀.pipeFull = true := by simpa [hleaves] using hnot
      exact .inl (exists_run_stuck_of_full hleaves hfull)
    · rw [PollSensor.Leaves, Classical.not_imp, Bool.not_eq_true] at hleaves
      obtain ⟨hon, hgo⟩ := hleaves
      cases hthread : s₀.sensor.thread.inBase with
      | false => exact .inl (exists_run_stuck_of_on htied hattended.placed hthread hon hgo)
      | true =>
          refine .inr ⟨?_, exists_run_sampling hattended.placed hthread hon hgo⟩
          by_contra hown
          rw [Bool.not_eq_true] at hown
          subst hown
          rw [inBase_of_callRun hrun₀] at hthread
          cases hthread
  refine ⟨⟨?_, ?_⟩, hlate⟩
  · intro hreturns
    by_contra hnot
    obtain ⟨ts, s, hrun, hopen, hstuck⟩ | ⟨-, hlong⟩ := hlate hnot
    · rcases (hreturns ts s hrun).2 with hreturned | ⟨t, hstep, hpre, hquiet⟩
      · exact hopen hreturned
      · exact hstuck t hstep hpre hquiet
    · obtain ⟨ts, s, hrun, hlength, hquiet, -⟩ := hlong (s₀.sensor.waitPipe + 7)
      have hshort := (hreturns ts s hrun).1
      omega
  · rintro ⟨hleaves, hroom⟩ ts s hrun
    have hbegun : DestroyedSensor.InTime ⟨s₀.toPipedSensor, .interrupting⟩ :=
      ⟨hattended, hleaves, hroom⟩
    have hin : s.InTime := hrun.invariant hbegun fun _ hstep hpre => inTime_step hstep hpre
    exact ⟨length_le_of_destructorRun hrun hbegun, exists_step_of_inTime hin⟩

/-- A sensor switched on and off again: the destructor returns. -/
theorem destructor_returns_iff_disabled :
    ∃ (ts₀ : List (CallTransition PagedPipe)) (s₀ : SensorCalls PagedPipe),
      (callMachine udfpsSensor).Run (.construct udfpsSensor 1 true true false) ts₀ s₀ ∧
      s₀.sensor.thread = .polling ∧ s₀.sensor.waitPipe = 2 ∧
      ∀ ts s, (destructorMachine udfpsSensor).Run ⟨s₀.toPipedSensor, .interrupting⟩ ts s →
        ts.length ≤ s₀.sensor.waitPipe + 6 + destructorReports udfpsSensor ts ∧
          (s.destructor = .returned ∨ ∃ t : DestructorTransition PagedPipe,
            (destructorMachine udfpsSensor).Takes t ∧ t.pre = s ∧
              t.reports udfpsSensor = 0) := by
  obtain ⟨ts₀, s₀, hrun₀, hpoll, hbytes, hcalls, hfree, hoff, hroom⟩ :
      ∃ (ts₀ : List (CallTransition PagedPipe)) (s₀ : SensorCalls PagedPipe),
        (callMachine udfpsSensor).Run (.construct udfpsSensor 1 true true false) ts₀ s₀ ∧
        s₀.sensor.thread = .polling ∧ s₀.sensor.waitPipe = 2 ∧ s₀.interrupting = 0 ∧
        s₀.blocked = false ∧ s₀.sensor.mIsEnabled = false ∧ s₀.pipeFull = false :=
    Machine.exists_run_of_exec
      [.call .start, .call (.activate true), .call .wake, .call (.activate false)] (by decide)
  refine ⟨ts₀, s₀, hrun₀, hpoll, hbytes,
    (destructor_returns_iff hrun₀ ⟨hcalls, hfree⟩).1.2 ⟨?_, hroom⟩⟩
  rintro ⟨hon, -⟩
  simp [hoff] at hon

end Sensors
