/-
# What each piece of a session's code can do

The results over runs need few facts about the bodies in `Session.lean`: which
members they leave alone, and which effects they can have at all.  They are
collected here, one lemma for each body, so that no other file has to go through
the jobs and the messages to see that one of them does NOT do something.
-/
import PongHal.Session

namespace Fingerprint

/-! ## Members that stay -/

/-- The user and whether the session is closed are the same. -/
structure Session.Keeps (s s' : Session) : Prop where
  mUserId : s'.mUserId = s.mUserId
  mClosed : s'.mClosed = s.mClosed

theorem Session.keeps_lockoutTimerExpired (s : Session) : s.Keeps s.lockoutTimerExpired.1 := by
  unfold Session.lockoutTimerExpired
  simp only
  split <;> exact ⟨rfl, rfl⟩

theorem Session.keeps_checkSensorLockout [Util] (s : Session) (now : ℕ) :
    s.Keeps (s.checkSensorLockout now).1 := by
  unfold Session.checkSensorLockout
  simp only
  split
  · exact ⟨rfl, rfl⟩
  · split <;> exact ⟨rfl, rfl⟩
  · exact ⟨rfl, rfl⟩

/-- No job changes these members: the `close` job comes after the session is closed. -/
theorem Session.keeps_runJob [Util] (s : Session) (j : Session.Job) (r : DeviceReplies)
    (now : ℕ) : s.Keeps (s.runJob j r now).1 := by
  cases j with
  | onPointerDown => exact s.keeps_checkSensorLockout now
  | _ => exact ⟨rfl, rfl⟩

/-- No message does. -/
theorem Session.keeps_notify [Util] (s : Session) (enrollments : List Int32)
    (msg : FingerprintMsg) (now : ℕ) : s.Keeps (s.notify enrollments msg now).1 := by
  cases msg with
  | authenticated finger hat =>
      unfold Session.notify
      simp only
      split
      · exact ⟨rfl, rfl⟩
      · have hcheck := Session.keeps_checkSensorLockout
          { s with mLockoutTracker := s.mLockoutTracker.addFailedAttempt now } now
        exact ⟨hcheck.mUserId, hcheck.mClosed⟩
  | templateEnumerating finger remaining =>
      unfold Session.notify
      simp only
      split <;> exact ⟨rfl, rfl⟩
  | _ => exact ⟨rfl, rfl⟩

/-! ## Effects that can occur -/

/-- The callbacks of the lockout check. -/
def Callback.ofLockoutCheck : Callback → Bool
  | .onLockoutPermanent | .onLockoutTimed _ => true
  | _ => false

/-- The callbacks of messages and of `close`, which no job makes. -/
def Callback.notOfJob : Callback → Bool
  | .onAcquired _ _ | .onEnrollmentProgress _ _ | .onAuthenticationSucceeded _ _
  | .onAuthenticationFailed | .onEnrollmentsEnumerated _ | .onEnrollmentsRemoved _
  | .onSessionClosed => true
  | _ => false

/-- The callbacks that answer a job, clear a lockout or close the session, which no
message makes. -/
def Callback.notOfMessage : Callback → Bool
  | .onChallengeGenerated _ | .onChallengeRevoked _ | .onAuthenticatorIdRetrieved _
  | .onAuthenticatorIdInvalidated _ | .onLockoutCleared | .onSessionClosed => true
  | _ => false

/-- The device's group is set. -/
def DeviceCall.setsGroup : DeviceCall → Bool
  | .setActiveGroup _ _ => true
  | _ => false

/-- The sensor is armed or disarmed. -/
def DeviceCall.arms : DeviceCall → Bool
  | .goodixExtCmd _ _ => true
  | _ => false

namespace Effect

/-- The effects of the lockout check: the sensor is disarmed, the lockout reported and
its timer started. -/
def ofLockoutCheck : Effect → Bool
  | .callback c => c.ofLockoutCheck
  | .device c => c.arms
  | .setFodHbm status => !status
  | .startTimer _ => true

/-- The effects of jobs. -/
def ofJob : Effect → Bool
  | .callback c => !c.notOfJob
  | .device c => !c.setsGroup
  | .setFodHbm _ | .startTimer _ => true

/-- The effects of messages: the sensor is disarmed and the node switched off. -/
def ofMessage : Effect → Bool
  | .callback c => !c.notOfMessage
  | .device c => c.arms
  | .setFodHbm status => !status
  | .startTimer _ => true

end Effect

/-- On the client's own thread the node is switched on or the session closed. -/
theorem mem_call {s : Session} {c : Session.Call} {e : Effect} (he : e ∈ (s.call c).2.1) :
    c = .onUiReady ∧ e = .setFodHbm true ∨
      (c = .close ∨ c = .clientDeath) ∧ e = .callback .onSessionClosed := by
  cases c with
  | onUiReady => exact .inl ⟨rfl, List.mem_singleton.1 he⟩
  | close => exact .inr ⟨.inl rfl, List.mem_singleton.1 he⟩
  | clientDeath =>
      refine .inr ⟨.inr rfl, ?_⟩
      simp only [Session.call, Session.close] at he
      split at he
      · simp at he
      · exact List.mem_singleton.1 he
  | _ => simp [Session.call] at he

/-- A timer that wakes up clears the lockout at most. -/
theorem mem_lockoutTimerExpired {s : Session} {e : Effect} (he : e ∈ s.lockoutTimerExpired.2) :
    e = .callback .onLockoutCleared := by
  simp only [Session.lockoutTimerExpired] at he
  split at he
  · simp at he
  · exact List.mem_singleton.1 he

theorem Effect.ofJob_of_ofLockoutCheck {e : Effect} (he : e.ofLockoutCheck = true) :
    e.ofJob = true := by
  cases e with
  | callback c => cases c <;> first | rfl | exact Bool.noConfusion he
  | device c => cases c <;> first | rfl | exact Bool.noConfusion he
  | _ => rfl

theorem Effect.ofMessage_of_ofLockoutCheck {e : Effect} (he : e.ofLockoutCheck = true) :
    e.ofMessage = true := by
  cases e with
  | callback c => cases c <;> first | rfl | exact Bool.noConfusion he
  | _ => exact he

section

variable [Util] (s : Session) (now : ℕ)

theorem ofLockoutCheck_checkSensorLockout :
    ∀ e ∈ (s.checkSensorLockout now).2.1, e.ofLockoutCheck = true := by
  unfold Session.checkSensorLockout
  simp only
  split
  · exact List.all_eq_true.1 rfl
  · split <;> exact List.all_eq_true.1 rfl
  · exact List.all_eq_true.1 rfl

theorem ofJob_runJob (j : Session.Job) (r : DeviceReplies) :
    ∀ e ∈ (s.runJob j r now).2, e.ofJob = true := by
  cases j with
  | onPointerDown =>
      intro e he
      rcases List.mem_cons.1 he with rfl | he
      · rfl
      · exact Effect.ofJob_of_ofLockoutCheck (ofLockoutCheck_checkSensorLockout s now e he)
  | enroll hat =>
      simp only [Session.runJob]
      split <;> exact List.all_eq_true.1 rfl
  | authenticate operationId =>
      simp only [Session.runJob]
      split <;> exact List.all_eq_true.1 rfl
  | cancel =>
      simp only [Session.runJob]
      split <;> exact List.all_eq_true.1 rfl
  | removeEnrollments enrollmentIds =>
      intro e he
      obtain ⟨id, -, rfl⟩ := List.mem_map.1 he
      rfl
  | _ => exact List.all_eq_true.1 rfl

theorem ofMessage_notify (enrollments : List Int32) (msg : FingerprintMsg) :
    ∀ e ∈ (s.notify enrollments msg now).2.2, e.ofMessage = true := by
  cases msg with
  | authenticated finger hat =>
      unfold Session.notify
      simp only
      split
      · exact List.all_eq_true.1 rfl
      · intro e he
        rcases List.mem_cons.1 he with rfl | he
        · rfl
        · exact Effect.ofMessage_of_ofLockoutCheck (ofLockoutCheck_checkSensorLockout _ now e he)
  | acquired info =>
      simp only [Session.notify]
      split <;> exact List.all_eq_true.1 rfl
  | templateEnumerating finger remaining =>
      simp only [Session.notify]
      split <;> exact List.all_eq_true.1 rfl
  | _ => exact List.all_eq_true.1 rfl

end

end Fingerprint
