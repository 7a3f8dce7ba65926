/-
# Threads that wait on a condition variable

A thread runs, with its mutex locked,

    while (running) {
      cv.wait(lock, [] { return ready || !running; });
      if (running) { body }
    }

while other threads make it ready, with the mutex and a notification, and one of them
turns the flag off.  The wait is taken apart here: the predicate is looked at, and where
it fails the thread blocks, later, giving up the mutex.  Who turns the flag off without
the mutex can do so, and notify, between the two.

`loopMachine` puts such a thread on a machine of the data it shares.  For a lawful one

* `waits_unready` : the thread waits only while it is not ready;
* `exists_own_step`, `steps_le_of_ready` : while it is ready it can take steps, and it comes
  to its body after a bounded number of them, whatever the others do;
* `ends_of_stopping` : once the flag is off and it does not wait it comes to its end in the
  same way;
* `stuck_of_waits` : a notification that comes before it has blocked is lost.
-/
import PongHal.Machine

/-- Where the thread is. -/
inductive LoopPc
  /-- Before its first step, without the mutex. -/
  | starting
  /-- Before the test of the flag in `while`. -/
  | looping
  /-- Before the predicate of the wait. -/
  | testing
  /-- The predicate was false. -/
  | entering
  /-- Blocked in the wait, without the mutex. -/
  | blocked
  /-- Woken up, without the mutex. -/
  | woken
  /-- The predicate was true; before the test of the flag in `if`. -/
  | passed
  /-- In the body, without the mutex. -/
  | working
  /-- It has returned, or was never started. -/
  | ended
  deriving DecidableEq, Repr

namespace LoopPc

/-- The thread has the mutex. -/
def locks : LoopPc → Bool
  | .looping | .testing | .entering | .passed => true
  | _ => false

/-- The thread is blocked, or bound to. -/
def waits : LoopPc → Bool
  | .entering | .blocked => true
  | _ => false

/-- After a notification. -/
def notified : LoopPc → LoopPc
  | .blocked => .woken
  | pc => pc

end LoopPc

/-- What a step of the data is to the thread. -/
inductive LoopRole
  /-- The thread's first step of the body. -/
  | enter
  /-- One of its other steps there. -/
  | body
  /-- It returns. -/
  | finish
  /-- Another thread starts it. -/
  | start
  /-- A step of another thread, with the mutex. -/
  | locked
  /-- A step of another thread, without it. -/
  | free
  deriving DecidableEq, Repr

/-- A thread of this shape on data of type `σ`: its flag, what it waits for, how much of the
body it has before it, whether it exists, and what the steps of the data are to it. -/
structure LoopThread (σ ε : Type*) where
  running : σ → Bool
  ready : σ → Bool
  rest : σ → ℕ
  alive : σ → Bool
  role : ε → LoopRole
  /-- The step, made with the mutex, notifies the thread. -/
  notifies : σ → ε → Bool

/-- The data, and where the thread is. -/
structure LoopState (σ : Type*) where
  data : σ
  pc : LoopPc

/-- The steps of the data, those of the thread between them, a notification by a thread that
does not have the mutex, and a wake-up without any. -/
inductive LoopLabel (ε : Type*)
  | data (l : ε)
  | acquire
  | loop
  | test
  | block
  | relock
  | skip
  | notify
  | spurious
  deriving DecidableEq, Repr

variable {σ ε ω : Type*} {D : Machine σ ε ω} {T : LoopThread σ ε} {d₀ : σ}

namespace LoopThread

/-- Where the thread is after a step of its body. -/
def resume (T : LoopThread σ ε) (d : σ) : LoopPc := if T.rest d = 0 then .looping else .working

/-- Where the thread is after a step of the data, if it can be taken. -/
def after (T : LoopThread σ ε) (d : σ) (pc : LoopPc) (l : ε) (d' : σ) : Option LoopPc :=
  match T.role l with
  | .enter => if pc = .passed ∧ T.running d then some (T.resume d') else none
  | .body => if pc = .working then some (T.resume d') else none
  | .finish => if pc = .looping ∧ !T.running d then some .ended else none
  | .start => if pc = .ended then some .starting else none
  | .locked =>
      if !pc.locks then some (if T.notifies d l then pc.notified else pc) else none
  | .free => some pc

/-- A step of the thread. -/
def own (T : LoopThread σ ε) : LoopLabel ε → Bool
  | .data l =>
      match T.role l with
      | .enter | .body | .finish => true
      | .start | .locked | .free => false
  | .notify | .spurious => false
  | _ => true

/-- One step. -/
def step (T : LoopThread σ ε) (D : Machine σ ε ω) (s : LoopState σ) :
    LoopLabel ε → Option (LoopState σ × List ω)
  | .data l => (D.step s.data l).bind fun r => (T.after s.data s.pc l r.1).map (⟨r.1, ·⟩, r.2)
  | .acquire => if s.pc = .starting then some (⟨s.data, .looping⟩, []) else none
  | .loop => if s.pc = .looping ∧ T.running s.data then some (⟨s.data, .testing⟩, []) else none
  | .test =>
      if s.pc = .testing then
        some (⟨s.data, if T.ready s.data ∨ !T.running s.data then .passed else .entering⟩, [])
      else none
  | .block => if s.pc = .entering then some (⟨s.data, .blocked⟩, []) else none
  | .relock => if s.pc = .woken then some (⟨s.data, .testing⟩, []) else none
  | .skip => if s.pc = .passed ∧ !T.running s.data then some (⟨s.data, .looping⟩, []) else none
  | .notify | .spurious => some (⟨s.data, s.pc.notified⟩, [])

end LoopThread

/-- The data with the thread. -/
def loopMachine (D : Machine σ ε ω) (T : LoopThread σ ε) :
    Machine (LoopState σ) (LoopLabel ε) ω where
  step := T.step D

/-- The steps by cases. -/
inductive LoopStep (D : Machine σ ε ω) (T : LoopThread σ ε) :
    Transition (LoopState σ) (LoopLabel ε) ω → Prop
  | entered (u : Transition σ ε ω) (hrole : T.role u.label = .enter)
      (hrun : T.running u.pre = true) (h : D.Takes u) :
      LoopStep D T ⟨⟨u.pre, .passed⟩, .data u.label, u.out, ⟨u.post, T.resume u.post⟩⟩
  | worked (u : Transition σ ε ω) (hrole : T.role u.label = .body) (h : D.Takes u) :
      LoopStep D T ⟨⟨u.pre, .working⟩, .data u.label, u.out, ⟨u.post, T.resume u.post⟩⟩
  | finished (u : Transition σ ε ω) (hrole : T.role u.label = .finish)
      (hstopped : T.running u.pre = false) (h : D.Takes u) :
      LoopStep D T ⟨⟨u.pre, .looping⟩, .data u.label, u.out, ⟨u.post, .ended⟩⟩
  | started (u : Transition σ ε ω) (hrole : T.role u.label = .start) (h : D.Takes u) :
      LoopStep D T ⟨⟨u.pre, .ended⟩, .data u.label, u.out, ⟨u.post, .starting⟩⟩
  | locked (u : Transition σ ε ω) (pc : LoopPc) (hrole : T.role u.label = .locked)
      (hfree : pc.locks = false) (h : D.Takes u) :
      LoopStep D T ⟨⟨u.pre, pc⟩, .data u.label, u.out,
        ⟨u.post, if T.notifies u.pre u.label then pc.notified else pc⟩⟩
  | free (u : Transition σ ε ω) (pc : LoopPc) (hrole : T.role u.label = .free) (h : D.Takes u) :
      LoopStep D T ⟨⟨u.pre, pc⟩, .data u.label, u.out, ⟨u.post, pc⟩⟩
  | acquired (d : σ) : LoopStep D T ⟨⟨d, .starting⟩, .acquire, [], ⟨d, .looping⟩⟩
  | looped (d : σ) (hrun : T.running d = true) :
      LoopStep D T ⟨⟨d, .looping⟩, .loop, [], ⟨d, .testing⟩⟩
  | tested (d : σ) (hready : T.ready d = true ∨ T.running d = false) :
      LoopStep D T ⟨⟨d, .testing⟩, .test, [], ⟨d, .passed⟩⟩
  | failed (d : σ) (hready : T.ready d = false) (hrun : T.running d = true) :
      LoopStep D T ⟨⟨d, .testing⟩, .test, [], ⟨d, .entering⟩⟩
  | blocked (d : σ) : LoopStep D T ⟨⟨d, .entering⟩, .block, [], ⟨d, .blocked⟩⟩
  | relocked (d : σ) : LoopStep D T ⟨⟨d, .woken⟩, .relock, [], ⟨d, .testing⟩⟩
  | skipped (d : σ) (hstopped : T.running d = false) :
      LoopStep D T ⟨⟨d, .passed⟩, .skip, [], ⟨d, .looping⟩⟩
  | notified (d : σ) (pc : LoopPc) : LoopStep D T ⟨⟨d, pc⟩, .notify, [], ⟨d, pc.notified⟩⟩
  | spurious (d : σ) (pc : LoopPc) : LoopStep D T ⟨⟨d, pc⟩, .spurious, [], ⟨d, pc.notified⟩⟩

theorem loopStep_of_takes {t : Transition (LoopState σ) (LoopLabel ε) ω}
    (h : (loopMachine D T).Takes t) : LoopStep D T t := by
  obtain ⟨⟨d, pc⟩, l, out, s'⟩ := t
  have hstep : T.step D ⟨d, pc⟩ l = some (s', out) := h
  cases l with
  | data l =>
      simp only [LoopThread.step, Option.bind_eq_some_iff, Option.map_eq_some_iff] at hstep
      obtain ⟨⟨d', out'⟩, hdata, pc', hafter, hr⟩ := hstep
      obtain ⟨rfl, rfl⟩ := Prod.mk.inj hr
      simp only [LoopThread.after] at hafter
      split at hafter
      · rename_i hrole
        obtain ⟨⟨rfl, hrun⟩, hpc⟩ := Option.ite_none_right_eq_some.1 hafter
        cases hpc
        exact .entered ⟨d, l, out', d'⟩ hrole hrun hdata
      · rename_i hrole
        obtain ⟨rfl, hpc⟩ := Option.ite_none_right_eq_some.1 hafter
        cases hpc
        exact .worked ⟨d, l, out', d'⟩ hrole hdata
      · rename_i hrole
        obtain ⟨⟨rfl, hstopped⟩, hpc⟩ := Option.ite_none_right_eq_some.1 hafter
        cases hpc
        exact .finished ⟨d, l, out', d'⟩ hrole (by simpa using hstopped) hdata
      · rename_i hrole
        obtain ⟨rfl, hpc⟩ := Option.ite_none_right_eq_some.1 hafter
        cases hpc
        exact .started ⟨d, l, out', d'⟩ hrole hdata
      · rename_i hrole
        obtain ⟨hfree, hpc⟩ := Option.ite_none_right_eq_some.1 hafter
        cases hpc
        exact .locked ⟨d, l, out', d'⟩ pc hrole (by simpa using hfree) hdata
      · rename_i hrole
        cases hafter
        exact .free ⟨d, l, out', d'⟩ pc hrole hdata
  | acquire =>
      obtain ⟨hpc, hr⟩ := Option.ite_none_right_eq_some.1 hstep
      cases hr
      obtain rfl : pc = .starting := hpc
      exact .acquired d
  | loop =>
      obtain ⟨⟨hpc, hrun⟩, hr⟩ := Option.ite_none_right_eq_some.1 hstep
      cases hr
      obtain rfl : pc = .looping := hpc
      exact .looped d hrun
  | test =>
      obtain ⟨hpc, hr⟩ := Option.ite_none_right_eq_some.1 hstep
      cases hr
      obtain rfl : pc = .testing := hpc
      by_cases hready : T.ready d = true ∨ (!T.running d) = true
      · simp only [hready, if_true]
        exact .tested d (by simpa using hready)
      · simp only [hready, if_false]
        simp only [not_or, Bool.not_eq_true, Bool.not_eq_false'] at hready
        exact .failed d hready.1 hready.2
  | block =>
      obtain ⟨hpc, hr⟩ := Option.ite_none_right_eq_some.1 hstep
      cases hr
      obtain rfl : pc = .entering := hpc
      exact .blocked d
  | relock =>
      obtain ⟨hpc, hr⟩ := Option.ite_none_right_eq_some.1 hstep
      cases hr
      obtain rfl : pc = .woken := hpc
      exact .relocked d
  | skip =>
      obtain ⟨⟨hpc, hstopped⟩, hr⟩ := Option.ite_none_right_eq_some.1 hstep
      cases hr
      obtain rfl : pc = .passed := hpc
      exact .skipped d (by simpa using hstopped)
  | notify =>
      cases hstep
      exact .notified d pc
  | spurious =>
      cases hstep
      exact .spurious d pc

/-! ## Lawful threads -/

namespace LoopThread

/-- What a step of the data must leave to the thread. -/
structure Obeys (T : LoopThread σ ε) (u : Transition σ ε ω) : Prop where
  /-- Only a start turns the flag on. -/
  running : T.role u.label ≠ .start → T.running u.pre = false → T.running u.post = false
  alive : T.alive u.post = match T.role u.label with
    | .finish => false
    | .start => true
    | _ => T.alive u.pre
  rest : match T.role u.label with
    | .enter => True
    | .body => T.rest u.post < T.rest u.pre
    | .start => T.rest u.post = 0
    | _ => T.rest u.post = T.rest u.pre
  /-- What the thread waits for is under the mutex. -/
  ready : T.role u.label = .free → T.ready u.post = T.ready u.pre
  /-- Who makes the thread ready notifies it. -/
  notified : T.role u.label = .locked → T.ready u.post = true →
    T.ready u.pre = true ∨ T.notifies u.pre u.label = true

/-- What the data must do for the thread, from `d₀` on: the steps obey the thread's
discipline, and the thread can take its own. -/
structure Lawful (T : LoopThread σ ε) (D : Machine σ ε ω) (d₀ : σ) : Prop where
  alive : T.alive d₀ = false
  rest : T.rest d₀ = 0
  obeys : ∀ (us : List (Transition σ ε ω)) (u : Transition σ ε ω),
    D.Run d₀ us u.pre → D.Takes u → T.Obeys u
  enter : ∀ (us : List (Transition σ ε ω)) (d : σ), D.Run d₀ us d → T.alive d = true →
    T.rest d = 0 → T.ready d = true → T.running d = true →
    ∃ l, T.role l = .enter ∧ (D.step d l).isSome = true
  body : ∀ (us : List (Transition σ ε ω)) (d : σ), D.Run d₀ us d → T.alive d = true →
    T.rest d ≠ 0 → ∃ l, T.role l = .body ∧ (D.step d l).isSome = true
  finish : ∀ (us : List (Transition σ ε ω)) (d : σ), D.Run d₀ us d → T.alive d = true →
    T.rest d = 0 → T.running d = false →
    ∃ l, T.role l = .finish ∧ (D.step d l).isSome = true

end LoopThread

variable {ts ts₀ : List (Transition (LoopState σ) (LoopLabel ε) ω)} {s s₀ : LoopState σ}

/-! ## The data of a run -/

/-- What a step is to the data. -/
def dataPart (t : Transition (LoopState σ) (LoopLabel ε) ω) : Option (Transition σ ε ω) :=
  match t.label with
  | .data l => some ⟨t.pre.data, l, t.out, t.post.data⟩
  | _ => none

/-- The steps of the data in a run make a run of the data. -/
theorem data_run_of_loopRun (hrun : (loopMachine D T).Run s₀ ts s) :
    D.Run s₀.data (ts.filterMap dataPart) s.data := by
  refine hrun.project (f := LoopState.data) ?_
  intro t hstep
  cases loopStep_of_takes hstep with
  | entered u _ _ h | worked u _ h | finished u _ _ h | started u _ h | locked u _ _ _ h
  | free u _ _ h => exact .takes u h
  | _ => exact .quiet _

/-! ## What holds of the thread -/

/-- The thread is where the data say, and it waits only for what is not there. -/
structure LoopThread.Fits (T : LoopThread σ ε) (s : LoopState σ) : Prop where
  working : s.pc = .working ↔ T.rest s.data ≠ 0
  ended : s.pc = .ended ↔ T.alive s.data = false
  waits : s.pc.waits = true → T.ready s.data = false
  passed : s.pc = .passed → T.ready s.data = true ∨ T.running s.data = false

theorem LoopThread.resume_cases (T : LoopThread σ ε) (d : σ) :
    (T.rest d = 0 ∧ T.resume d = .looping) ∨ (T.rest d ≠ 0 ∧ T.resume d = .working) := by
  rw [resume]
  by_cases h : T.rest d = 0
  · exact .inl ⟨h, if_pos h⟩
  · exact .inr ⟨h, if_neg h⟩

/-- After a step of the body the thread is at its loop's start or still in the body. -/
theorem LoopThread.fits_resume {d : σ} (halive : T.alive d = true) : T.Fits ⟨d, T.resume d⟩ := by
  rcases T.resume_cases d with ⟨hrest, hpc⟩ | ⟨hrest, hpc⟩
  · rw [hpc]
    exact ⟨by simp [hrest], by simp [halive], by simp [LoopPc.waits], by simp⟩
  · rw [hpc]
    exact ⟨by simp [hrest], by simp [halive], by simp [LoopPc.waits], by simp⟩

/-- A notification leaves the thread where it is, or wakes it up. -/
theorem LoopThread.Fits.notified {d : σ} {pc : LoopPc} (h : T.Fits ⟨d, pc⟩) :
    T.Fits ⟨d, pc.notified⟩ := by
  cases pc with
  | blocked =>
      have hworking := h.working
      have hended := h.ended
      exact ⟨by simpa [LoopPc.notified] using hworking, by simpa [LoopPc.notified] using hended,
        by simp [LoopPc.notified, LoopPc.waits], by simp [LoopPc.notified]⟩
  | _ => exact h

/-- Every step keeps the thread where the data say. -/
theorem fits_step {t : Transition (LoopState σ) (LoopLabel ε) ω}
    (h : (loopMachine D T).Takes t) (hobeys : ∀ u ∈ dataPart t, T.Obeys u)
    (hfits : T.Fits t.pre) : T.Fits t.post := by
  cases loopStep_of_takes h with
  | entered u hrole hrun hdata =>
      have halive := (hobeys u rfl).alive
      rw [hrole] at halive
      refine T.fits_resume (halive.trans ?_)
      simpa using hfits.ended
  | worked u hrole hdata =>
      have halive := (hobeys u rfl).alive
      rw [hrole] at halive
      refine T.fits_resume (halive.trans ?_)
      simpa using hfits.ended
  | finished u hrole hstopped hdata =>
      have halive := (hobeys u rfl).alive
      have hrest := (hobeys u rfl).rest
      rw [hrole] at halive hrest
      have hworking := hfits.working
      exact ⟨by simpa [hrest] using hworking, by simp [halive], by simp [LoopPc.waits], by simp⟩
  | started u hrole hdata =>
      have halive := (hobeys u rfl).alive
      have hrest := (hobeys u rfl).rest
      rw [hrole] at halive hrest
      exact ⟨by simp [hrest], by simp [halive], by simp [LoopPc.waits], by simp⟩
  | locked u pc hrole hfree hdata =>
      have hone := hobeys u rfl
      have halive := hone.alive
      have hrest := hone.rest
      rw [hrole] at halive hrest
      have hworking := hfits.working
      have hended := hfits.ended
      have hwaits := hfits.waits
      by_cases hnotifies : T.notifies u.pre u.label = true
      · -- a thread that was blocked is woken up
        rw [if_pos hnotifies]
        cases pc with
        | blocked =>
            exact ⟨by simpa [LoopPc.notified, hrest] using hworking,
              by simpa [LoopPc.notified, halive] using hended,
              by simp [LoopPc.notified, LoopPc.waits], by simp [LoopPc.notified]⟩
        | entering | looping | testing | passed => cases hfree
        | _ =>
            exact ⟨by simpa [LoopPc.notified, hrest] using hworking,
              by simpa [LoopPc.notified, halive] using hended,
              by simp [LoopPc.notified, LoopPc.waits], by simp [LoopPc.notified]⟩
      · rw [if_neg hnotifies]
        refine ⟨by simpa [hrest] using hworking, by simpa [halive] using hended, ?_, ?_⟩
        · intro hpc
          by_contra hready
          rw [Bool.not_eq_false] at hready
          rcases hone.notified hrole hready with hbefore | hnotified
          · have hnot := hwaits hpc
            rw [show T.ready u.pre = true from hbefore] at hnot
            cases hnot
          · exact hnotifies hnotified
        · rintro rfl
          cases hfree
  | free u pc hrole hdata =>
      have hone := hobeys u rfl
      have halive := hone.alive
      have hrest := hone.rest
      rw [hrole] at halive hrest
      have hready := hone.ready hrole
      have hworking := hfits.working
      have hended := hfits.ended
      refine ⟨by simpa [hrest] using hworking, by simpa [halive] using hended, ?_, ?_⟩
      · intro hpc
        exact hready.trans (hfits.waits hpc)
      · intro hpc
        rcases hfits.passed hpc with hbefore | hstopped
        · exact .inl (hready.trans hbefore)
        · exact .inr (hone.running (by simp [hrole]) hstopped)
  | acquired d | looped d hrun | relocked d | skipped d hstopped =>
      have hworking := hfits.working
      have hended := hfits.ended
      exact ⟨by simpa using hworking, by simpa using hended, by simp [LoopPc.waits], by simp⟩
  | blocked d =>
      have hworking := hfits.working
      have hended := hfits.ended
      have hready := hfits.waits rfl
      exact ⟨by simpa using hworking, by simpa using hended, fun _ => hready, by simp⟩
  | tested d hready =>
      have hworking := hfits.working
      have hended := hfits.ended
      exact ⟨by simpa using hworking, by simpa using hended, by simp [LoopPc.waits],
        fun _ => hready⟩
  | failed d hready hrun =>
      have hworking := hfits.working
      have hended := hfits.ended
      exact ⟨by simpa using hworking, by simpa using hended, fun _ => hready, by simp⟩
  | notified d pc => exact hfits.notified
  | spurious d pc => exact hfits.notified

theorem obeys_of_run (hT : T.Lawful D d₀) {t : Transition (LoopState σ) (LoopLabel ε) ω}
    (hrun : (loopMachine D T).Run ⟨d₀, .ended⟩ ts t.pre) (h : (loopMachine D T).Takes t) :
    ∀ u ∈ dataPart t, T.Obeys u := by
  intro u hu
  have hdata := data_run_of_loopRun hrun
  cases loopStep_of_takes h with
  | entered u _ _ htakes | worked u _ htakes | finished u _ _ htakes | started u _ htakes
  | locked u _ _ _ htakes | free u _ _ htakes =>
      cases hu
      exact hT.obeys _ u hdata htakes
  | _ => cases hu

theorem fits_of_run (hT : T.Lawful D d₀) (hrun : (loopMachine D T).Run ⟨d₀, .ended⟩ ts s) :
    T.Fits s := by
  refine hrun.history (I := fun _ s => T.Fits s) ?_ ?_
  · exact ⟨by simp [hT.rest], by simp [hT.alive], by simp [LoopPc.waits], by simp⟩
  · intro ts t hbefore hstep ih
    exact fits_step hstep (obeys_of_run hT hbefore hstep) ih

/-- **The thread waits only while it is not ready.** -/
theorem waits_unready (hT : T.Lawful D d₀) (hrun : (loopMachine D T).Run ⟨d₀, .ended⟩ ts s)
    (hwaits : s.pc.waits = true) : T.ready s.data = false :=
  (fits_of_run hT hrun).waits hwaits

/-! ## The steps of the thread -/

/-- The number of its own steps that the thread takes in a run. -/
def ownSteps (T : LoopThread σ ε) (ts : List (Transition (LoopState σ) (LoopLabel ε) ω)) : ℕ :=
  (ts.map fun t => if T.own t.label then 1 else 0).sum

/-- A thread that does not wait can take a step: into its body, in it, or out of its loop. -/
theorem exists_own_step (hT : T.Lawful D d₀)
    (hrun : (loopMachine D T).Run ⟨d₀, .ended⟩ ts s) (halive : s.pc ≠ .ended)
    (hwaits : s.pc.waits = false) :
    ∃ l, T.own l = true ∧ ((loopMachine D T).step s l).isSome = true := by
  have hfits := fits_of_run hT hrun
  have hdata := data_run_of_loopRun hrun
  obtain ⟨d, pc⟩ := s
  have hexists : T.alive d = true := by
    rw [← Bool.not_eq_false]
    exact mt hfits.ended.2 halive
  have hrest : pc ≠ .working → T.rest d = 0 := fun hpc => by
    by_contra hne
    exact hpc (hfits.working.2 hne)
  cases pc with
  | starting => exact ⟨.acquire, rfl, rfl⟩
  | testing => exact ⟨.test, rfl, rfl⟩
  | woken => exact ⟨.relock, rfl, rfl⟩
  | entering | blocked => cases hwaits
  | ended => exact absurd rfl halive
  | looping =>
      by_cases hflag : T.running d = true
      · refine ⟨.loop, rfl, ?_⟩
        simp [loopMachine, LoopThread.step, hflag]
      · rw [Bool.not_eq_true] at hflag
        obtain ⟨l, hrole, hstep⟩ := hT.finish _ _ hdata hexists (hrest (by simp)) hflag
        obtain ⟨r, hr⟩ := Option.isSome_iff_exists.1 hstep
        refine ⟨.data l, by simp [LoopThread.own, hrole], ?_⟩
        simp [loopMachine, LoopThread.step, LoopThread.after, hr, hrole, hflag]
  | passed =>
      by_cases hflag : T.running d = true
      · have hready : T.ready d = true := by
          rcases hfits.passed rfl with hready | hstopped
          · exact hready
          · rw [show T.running d = false from hstopped] at hflag
            cases hflag
        obtain ⟨l, hrole, hstep⟩ := hT.enter _ _ hdata hexists (hrest (by simp)) hready hflag
        obtain ⟨r, hr⟩ := Option.isSome_iff_exists.1 hstep
        refine ⟨.data l, by simp [LoopThread.own, hrole], ?_⟩
        simp [loopMachine, LoopThread.step, LoopThread.after, hr, hrole, hflag]
      · refine ⟨.skip, rfl, ?_⟩
        simp [loopMachine, LoopThread.step, hflag]
  | working =>
      obtain ⟨l, hrole, hstep⟩ := hT.body _ _ hdata hexists (hfits.working.1 rfl)
      obtain ⟨r, hr⟩ := Option.isSome_iff_exists.1 hstep
      refine ⟨.data l, by simp [LoopThread.own, hrole], ?_⟩
      simp [loopMachine, LoopThread.step, LoopThread.after, hr, hrole]

/-! ## While the thread is ready -/

/-- How many of its own steps a ready thread is at most away from its body. -/
def LoopThread.stepsToEnter (T : LoopThread σ ε) (s : LoopState σ) : ℕ :=
  match s.pc with
  | .starting | .ended => 4
  | .looping | .woken => 3
  | .testing => 2
  | .passed => 1
  | .working => T.rest s.data + 3
  | .entering | .blocked => 0

/-- The thread begins its body. -/
def LoopThread.enters (T : LoopThread σ ε) : LoopLabel ε → Bool
  | .data l => T.role l == .enter
  | _ => false

theorem LoopThread.stepsToEnter_resume {d d' : σ} (hrest : T.rest d' < T.rest d) :
    1 + T.stepsToEnter ⟨d', T.resume d'⟩ ≤ T.stepsToEnter ⟨d, .working⟩ := by
  rcases T.resume_cases d' with ⟨-, hpc⟩ | ⟨-, hpc⟩
  · rw [hpc]
    simp only [stepsToEnter]
    omega
  · rw [hpc]
    simp only [stepsToEnter]
    omega

/-- A step of a ready thread short of its body brings it nearer, the others' do not take it
away. -/
theorem stepsToEnter_step {t : Transition (LoopState σ) (LoopLabel ε) ω}
    (h : (loopMachine D T).Takes t) (hobeys : ∀ u ∈ dataPart t, T.Obeys u)
    (hfits : T.Fits t.pre) (hready : T.ready t.pre.data = true)
    (hflag : T.running t.pre.data = true) (henters : T.enters t.label = false) :
    (if T.own t.label then 1 else 0) + T.stepsToEnter t.post ≤ T.stepsToEnter t.pre := by
  have hwaits : t.pre.pc.waits = false := by
    rw [← Bool.not_eq_true]
    intro hwaits
    rw [hfits.waits hwaits] at hready
    cases hready
  have hnotified : ∀ pc : LoopPc, pc.waits = false → pc.notified = pc := by
    intro pc hpc
    cases pc <;> first | rfl | cases hpc
  have hstopped : ¬ T.running t.pre.data = false := by simp [hflag]
  cases loopStep_of_takes h with
  | entered u hrole hrun hdata => simp [LoopThread.enters, hrole] at henters
  | worked u hrole hdata =>
      have hrest := (hobeys u rfl).rest
      rw [hrole] at hrest
      simpa [LoopThread.own, hrole] using LoopThread.stepsToEnter_resume hrest
  | finished u hrole hoff hdata => exact absurd hoff hstopped
  | started u hrole hdata => simp [LoopThread.own, hrole, LoopThread.stepsToEnter]
  | locked u pc hrole hfree hdata =>
      have hrest := (hobeys u rfl).rest
      rw [hrole] at hrest
      rw [hnotified pc hwaits, ite_self]
      simp [LoopThread.own, hrole, LoopThread.stepsToEnter, hrest]
  | free u pc hrole hdata =>
      have hrest := (hobeys u rfl).rest
      rw [hrole] at hrest
      simp [LoopThread.own, hrole, LoopThread.stepsToEnter, hrest]
  | failed d hnot hrun =>
      rw [show T.ready d = true from hready] at hnot
      cases hnot
  | blocked d => cases hwaits
  | skipped d hoff => exact absurd hoff hstopped
  | notified d pc => simp [LoopThread.own, hnotified pc hwaits]
  | spurious d pc => simp [LoopThread.own, hnotified pc hwaits]
  | acquired | looped | tested | relocked => simp [LoopThread.own, LoopThread.stepsToEnter]

/-- **A ready thread comes to its body.**  While it is ready and the flag is on it takes at
most so many steps of its own before it, whatever the others do. -/
theorem steps_le_of_ready (hT : T.Lawful D d₀)
    (hrun₀ : (loopMachine D T).Run ⟨d₀, .ended⟩ ts₀ s₀) (hrun : (loopMachine D T).Run s₀ ts s)
    (hguard : ∀ t ∈ ts, T.ready t.pre.data = true ∧ T.running t.pre.data = true ∧
      T.enters t.label = false) :
    ownSteps T ts + T.stepsToEnter s ≤ T.stepsToEnter s₀ := by
  refine hrun.spent_le_of_guard ?_ hguard
  rintro ts t hbefore hstep ⟨hready, hflag, henters⟩
  have hrun₁ := hrun₀.trans hbefore
  exact stepsToEnter_step hstep (obeys_of_run hT hrun₁ hstep) (fits_of_run hT hrun₁) hready
    hflag henters

/-! ## When the thread is to stop -/

/-- How many of its own steps a thread that is to stop and does not wait is at most away
from its end. -/
def LoopThread.stepsToEnd (T : LoopThread σ ε) (s : LoopState σ) : ℕ :=
  match s.pc with
  | .starting | .passed => 2
  | .looping => 1
  | .testing => 3
  | .woken => 4
  | .working => T.rest s.data + 1
  | .ended | .entering | .blocked => 0

/-- The thread is started. -/
def LoopThread.starts (T : LoopThread σ ε) : LoopLabel ε → Bool
  | .data l => T.role l == .start
  | _ => false

/-- The step would wake the thread up. -/
def LoopThread.wakes (T : LoopThread σ ε) (t : Transition (LoopState σ) (LoopLabel ε) ω) : Bool :=
  match t.label with
  | .data l => T.role l == .locked && T.notifies t.pre.data l
  | .notify | .spurious => true
  | _ => false

theorem LoopThread.stepsToEnd_resume {d d' : σ} (hrest : T.rest d' < T.rest d) :
    1 + T.stepsToEnd ⟨d', T.resume d'⟩ ≤ T.stepsToEnd ⟨d, .working⟩ := by
  rcases T.resume_cases d' with ⟨-, hpc⟩ | ⟨-, hpc⟩
  · rw [hpc]
    simp only [stepsToEnd]
    omega
  · rw [hpc]
    simp only [stepsToEnd]
    omega

/-- The flag is off and the thread does not wait. -/
def LoopThread.Stopping (T : LoopThread σ ε) (s : LoopState σ) : Prop :=
  T.running s.data = false ∧ s.pc.waits = false

/-- Once it is to stop and does not wait, the thread never waits again, and every step of
its own brings it nearer to its end. -/
theorem stopping_step {t : Transition (LoopState σ) (LoopLabel ε) ω}
    (h : (loopMachine D T).Takes t) (hobeys : ∀ u ∈ dataPart t, T.Obeys u)
    (hstarts : T.starts t.label = false) (hpre : T.Stopping t.pre) :
    T.Stopping t.post ∧
      (if T.own t.label then 1 else 0) + T.stepsToEnd t.post ≤ T.stepsToEnd t.pre := by
  obtain ⟨hstopped, hwaits⟩ := hpre
  have hnotified : ∀ pc : LoopPc, pc.waits = false → pc.notified = pc := by
    intro pc hpc
    cases pc <;> first | rfl | cases hpc
  have hresumes : ∀ d, (T.resume d).waits = false := by
    intro d
    rcases T.resume_cases d with ⟨-, hpc⟩ | ⟨-, hpc⟩ <;> rw [hpc] <;> rfl
  cases loopStep_of_takes h with
  | entered u hrole hrun hdata =>
      rw [show T.running u.pre = false from hstopped] at hrun
      cases hrun
  | worked u hrole hdata =>
      have hone := hobeys u rfl
      have hrest := hone.rest
      rw [hrole] at hrest
      refine ⟨⟨hone.running (by simp [hrole]) hstopped, hresumes _⟩, ?_⟩
      simpa [LoopThread.own, hrole] using LoopThread.stepsToEnd_resume hrest
  | finished u hrole hoff hdata =>
      refine ⟨⟨(hobeys u rfl).running (by simp [hrole]) hstopped, rfl⟩, ?_⟩
      simp [LoopThread.own, hrole, LoopThread.stepsToEnd]
  | started u hrole hdata => simp [LoopThread.starts, hrole] at hstarts
  | locked u pc hrole hfree hdata =>
      have hone := hobeys u rfl
      have hrest := hone.rest
      rw [hrole] at hrest
      rw [hnotified pc hwaits, ite_self]
      refine ⟨⟨hone.running (by simp [hrole]) hstopped, hwaits⟩, ?_⟩
      simp [LoopThread.own, hrole, LoopThread.stepsToEnd, hrest]
  | free u pc hrole hdata =>
      have hone := hobeys u rfl
      have hrest := hone.rest
      rw [hrole] at hrest
      refine ⟨⟨hone.running (by simp [hrole]) hstopped, hwaits⟩, ?_⟩
      simp [LoopThread.own, hrole, LoopThread.stepsToEnd, hrest]
  | looped d hrun =>
      rw [show T.running d = false from hstopped] at hrun
      cases hrun
  | failed d hnot hrun =>
      rw [show T.running d = false from hstopped] at hrun
      cases hrun
  | blocked d => cases hwaits
  | notified d pc =>
      rw [hnotified pc hwaits]
      exact ⟨⟨hstopped, hwaits⟩, by simp [LoopThread.own]⟩
  | spurious d pc =>
      rw [hnotified pc hwaits]
      exact ⟨⟨hstopped, hwaits⟩, by simp [LoopThread.own]⟩
  | acquired | tested | relocked | skipped =>
      exact ⟨⟨hstopped, rfl⟩, by simp [LoopThread.own, LoopThread.stepsToEnd]⟩

/-- **A thread that is to stop ends.**  From a state in which it does not wait it takes at
most so many steps of its own, whatever the others do, and it can take the next until it
has ended. -/
theorem ends_of_stopping (hT : T.Lawful D d₀)
    (hrun₀ : (loopMachine D T).Run ⟨d₀, .ended⟩ ts₀ s₀) (hrun : (loopMachine D T).Run s₀ ts s)
    (hstarts : ∀ t ∈ ts, T.starts t.label = false) (hstart : T.Stopping s₀) :
    s.pc.waits = false ∧ ownSteps T ts + T.stepsToEnd s ≤ T.stepsToEnd s₀ ∧
      (s.pc = .ended ∨ ∃ l, T.own l = true ∧ ((loopMachine D T).step s l).isSome = true) := by
  have hstopping : ∀ ts s, (loopMachine D T).Run s₀ ts s →
      (∀ t ∈ ts, T.starts t.label = false) → T.Stopping s := by
    intro ts s hrun hstarts
    refine hrun.history_of_guard (G := fun t => T.starts t.label = false)
      (I := fun _ s => T.Stopping s) hstart ?_ hstarts
    intro ts t hbefore hstep hnot ih
    exact (stopping_step hstep (obeys_of_run hT (hrun₀.trans hbefore) hstep) hnot ih).1
  have hwaits := (hstopping ts s hrun hstarts).2
  refine ⟨hwaits, ?_, ?_⟩
  · refine hrun.spent_le_of_guard (G := fun t => T.starts t.label = false ∧ T.Stopping t.pre) ?_ ?_
    · rintro ts t hbefore hstep ⟨hnot, hpre⟩
      exact (stopping_step hstep (obeys_of_run hT (hrun₀.trans hbefore) hstep) hnot hpre).2
    · intro t ht
      obtain ⟨ts₁, ts₂, rfl, hbefore, -⟩ := hrun.split_of_mem ht
      exact ⟨hstarts t ht, hstopping ts₁ t.pre hbefore fun t' ht' =>
        hstarts t' (List.mem_append_left _ ht')⟩
  · by_cases hended : s.pc = .ended
    · exact .inl hended
    · exact .inr (exists_own_step hT (hrun₀.trans hrun) hended hwaits)

/-- A waiting thread stays where it is until it is woken up. -/
theorem waits_step {t : Transition (LoopState σ) (LoopLabel ε) ω}
    (h : (loopMachine D T).Takes t) (hwakes : T.wakes t = false) (hpre : t.pre.pc.waits = true) :
    t.post.pc.waits = true := by
  cases loopStep_of_takes h with
  | locked u pc hrole hfree hdata =>
      have hnot : ¬ T.notifies u.pre u.label = true := by
        simpa [LoopThread.wakes, hrole] using hwakes
      rw [if_neg hnot]
      exact hpre
  | free u pc hrole hdata => exact hpre
  | blocked d => rfl
  | notified d pc => cases hwakes
  | spurious d pc => cases hwakes
  | _ => cases hpre

/-- **A notification that comes before the thread has blocked is lost.**  While none comes
after it the thread waits. -/
theorem stuck_of_waits (hrun : (loopMachine D T).Run s₀ ts s)
    (hwakes : ∀ t ∈ ts, T.wakes t = false) (hwaits : s₀.pc.waits = true) : s.pc.waits = true := by
  exact hrun.invariant_of_guard (I := fun s => s.pc.waits = true) hwaits
    (fun _ hstep hnot hpre => waits_step hstep hnot hpre) hwakes
