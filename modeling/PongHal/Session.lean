/-
# A fingerprint session (`Session.cpp`)

The bodies of `Session`'s methods, of the jobs they hand to the worker thread,
of the lockout timer and of `notify`.  Each is a function from the session's
members to the members after it and the list of its effects in order: calls of
the framework's `ISessionCallback`, calls of the legacy fingerprint device,
writes to the FOD high-brightness node and started timer threads.  Who runs them
and when is left to `SessionRun.lean` and `FingerprintHal.lean`.

Everything that comes from outside is an argument: the clock reading `now`, the
device's return values (`DeviceReplies`), and the contents of the
function-local `static` vector of `notify`, which all sessions share.

The `...WithContext` methods forward to the plain ones and have no model of
their own; `onContextChanged`, `onPointerCancelWithContext` and
`setIgnoreDisplayTouches` do nothing.
-/
import PongHal.LockoutTracker
import PongHal.Legacy2Aidl

namespace Fingerprint

/-! ## The vocabulary of the two interfaces -/

/-- The AIDL `Error` values the session sends. -/
inductive Error
  | hwUnavailable
  | unableToProcess
  | timeout
  | noSpace
  | canceled
  | unableToRemove
  | vendor
  deriving DecidableEq, Repr

/-- The AIDL `AcquiredInfo` values the session sends, and `VENDOR`, which it
keeps to itself. -/
inductive AcquiredInfo
  | good
  | partialImage
  | insufficient
  | sensorDirty
  | tooSlow
  | tooFast
  | vendor
  deriving DecidableEq, Repr

/-- Calls of `ISessionCallback`. -/
inductive Callback
  | onChallengeGenerated (challenge : Int64)
  | onChallengeRevoked (challenge : Int64)
  | onAcquired (info : AcquiredInfo) (vendorCode : ℤ)
  | onError (error : Error) (vendorCode : ℤ)
  | onEnrollmentProgress (enrollmentId : Int32) (remaining : Int32)
  | onAuthenticationSucceeded (enrollmentId : Int32) (hat : HardwareAuthToken)
  | onAuthenticationFailed
  | onLockoutTimed (durationMillis : ℤ)
  | onLockoutPermanent
  | onLockoutCleared
  | onEnrollmentsEnumerated (enrollmentIds : List Int32)
  | onEnrollmentsRemoved (enrollmentIds : List Int32)
  | onAuthenticatorIdRetrieved (authenticatorId : Int64)
  | onAuthenticatorIdInvalidated (newAuthenticatorId : Int64)
  | onSessionClosed
  deriving DecidableEq, Repr

/-- Calls of `fingerprint_device_t`. -/
inductive DeviceCall
  | setActiveGroup (gid : UInt32) (storePath : String)
  | preEnroll
  | enroll (hat : HwAuthToken) (gid : UInt32) (timeoutSec : UInt32)
  | postEnroll
  | getAuthenticatorId
  | cancel
  | enumerate
  | remove (gid : UInt32) (fid : UInt32)
  | authenticate (operationId : UInt64) (gid : UInt32)
  | goodixExtCmd (cmd : Int32) (param : Int32)
  deriving DecidableEq, Repr

/-- What the session's code does to the world outside its own members. -/
inductive Effect
  | callback (c : Callback)
  | device (c : DeviceCall)
  /-- `setFodHbm`: a write to the FOD node. -/
  | setFodHbm (status : Bool)
  /-- A detached thread that sleeps for `timeoutMillis` and then runs
  `lockoutTimerExpired`. -/
  | startTimer (timeoutMillis : ℤ)
  deriving DecidableEq, Repr

/-- `fingerprint_finger_id_t`. -/
structure FingerId where
  gid : UInt32
  fid : UInt32
  deriving DecidableEq, Repr

/-- `fingerprint_msg_t`, one constructor for each message type `notify` knows,
and `other` for the rest, which its `switch` ignores. -/
inductive FingerprintMsg
  | error (error : ℤ)
  | acquired (info : ℤ)
  | templateEnrolling (finger : FingerId) (samplesRemaining : UInt32)
  | templateRemoved (finger : FingerId) (remainingTemplates : UInt32)
  | authenticated (finger : FingerId) (hat : HwAuthToken)
  | templateEnumerating (finger : FingerId) (remainingTemplates : UInt32)
  | other (type : ℤ)
  deriving DecidableEq, Repr

/-- What the device returns during one job: the codes of its `int`-valued calls
in order (`0` once the list is used up), the `pre_enroll` token, the
authenticator id, and `stack`, the bytes that happen to lie where the enroll job
puts its uninitialised `hw_auth_token_t`. -/
structure DeviceReplies where
  codes : List Int32
  challenge : UInt64
  authenticatorId : UInt64
  stack : HwAuthToken
  deriving DecidableEq, Repr

/-- The return values of a device that accepts everything. -/
def DeviceReplies.zero : DeviceReplies where
  codes := []
  challenge := 0
  authenticatorId := 0
  stack := .zero

/-- The code of the first `int`-valued call of a job. -/
def DeviceReplies.code (r : DeviceReplies) : Int32 := r.codes.headD 0

/-! ## Members and construction -/

/-- The members of `Session` that change, and its user.  `mClosed` is set by
`close`; `mUiReady` is the gate `onPointerDown` waits on. -/
structure Session where
  mLockoutTracker : LockoutTracker
  mClosed : Bool
  mIsLockoutTimerStarted : Bool
  mIsLockoutTimerAborted : Bool
  mUserId : Int32
  mUiReady : Bool
  deriving DecidableEq, Repr

namespace Session

/-- The store path of a user's templates. -/
def storePath (userId : Int32) : String :=
  "/data/vendor_de/" ++ toString userId.toInt ++ "/fpdata/"

/-- `Session::Session`.  The tracker is a parameter taken BY VALUE: the session
works on its own copy of it. -/
def create (userId : Int32) (lockoutTracker : LockoutTracker) : Session × List Effect :=
  ({ mLockoutTracker := lockoutTracker
     mClosed := false
     mIsLockoutTimerStarted := false
     mIsLockoutTimerAborted := false
     mUserId := userId
     mUiReady := false },
   [.device (.setActiveGroup userId.toUInt32 (storePath userId))])

/-- The group of the session's user, as it is passed to the device. -/
def gid (s : Session) : UInt32 := s.mUserId.toUInt32

/-! ## Lockout -/

/-- `Session::clearLockout`. -/
def clearLockout (s : Session) (clearAttemptCounter : Bool) : Session × List Effect :=
  ({ s with mLockoutTracker := s.mLockoutTracker.reset clearAttemptCounter },
   [.callback .onLockoutCleared])

/-- `Session::startLockoutTimer`. -/
def startLockoutTimer (s : Session) (timeout : ℤ) : Session × List Effect :=
  ({ s with mIsLockoutTimerAborted := false, mIsLockoutTimerStarted := true },
   [.startTimer timeout])

/-- `Session::lockoutTimerExpired`. -/
def lockoutTimerExpired (s : Session) : Session × List Effect :=
  let r := if s.mIsLockoutTimerAborted then (s, []) else s.clearLockout false
  ({ r.1 with mIsLockoutTimerStarted := false, mIsLockoutTimerAborted := false }, r.2)

/-- `Session::checkSensorLockout`.  Its result says whether the sensor is locked
out; no caller looks at it. -/
def checkSensorLockout [Util] (s : Session) (now : ℕ) : Session × List Effect × Bool :=
  let lockoutMode := (s.mLockoutTracker.getMode now).1
  let s := { s with mLockoutTracker := (s.mLockoutTracker.getMode now).2 }
  let disarm : List Effect := [.setFodHbm false, .device (.goodixExtCmd 0 0)]
  match lockoutMode with
  | .permanent =>
      ({ s with mIsLockoutTimerAborted := true },
       disarm ++ [.callback .onLockoutPermanent], true)
  | .timed =>
      let timeLeft := s.mLockoutTracker.getLockoutTimeLeft now
      let r := if s.mIsLockoutTimerStarted then (s, []) else s.startLockoutTimer timeLeft
      (r.1, disarm ++ [.callback (.onLockoutTimed timeLeft)] ++ r.2, true)
  | .none => (s, [], false)

/-! ## Jobs -/

/-- The work a method hands to the worker thread. -/
inductive Job
  | generateChallenge
  | revokeChallenge (challenge : Int64)
  | enroll (hat : HardwareAuthToken)
  | authenticate (operationId : Int64)
  | detectInteraction
  | enumerateEnrollments
  | removeEnrollments (enrollmentIds : List Int32)
  | getAuthenticatorId
  | invalidateAuthenticatorId
  | resetLockout
  | onPointerDown
  | onPointerUp
  | cancel
  | close
  deriving DecidableEq, Repr

/-- The body of a job, run on the worker thread at time `now`.  The pointer-down
job's wait of at most 400 ms for `mUiReady` changes nothing of the session. -/
def runJob [Util] (s : Session) (j : Job) (r : DeviceReplies) (now : ℕ) : Session × List Effect :=
  match j with
  | .generateChallenge =>
      (s, [.device .preEnroll, .callback (.onChallengeGenerated r.challenge.toInt64)])
  | .revokeChallenge challenge =>
      (s, [.setFodHbm false, .device (.goodixExtCmd 0 0), .device .postEnroll,
        .callback (.onChallengeRevoked challenge)])
  | .enroll hat =>
      let authToken := translateToLegacy .little hat r.stack
      (s, .device (.enroll authToken s.gid 60) ::
        if r.code ≠ 0 then [.callback (.onError .unableToProcess r.code.toInt)]
        else [.setFodHbm true])
  | .authenticate operationId =>
      (s, .device (.authenticate operationId.toUInt64 s.gid) ::
        if r.code ≠ 0 then [.callback (.onError .unableToProcess r.code.toInt)]
        else [.setFodHbm true])
  | .detectInteraction => (s, [.callback (.onError .unableToProcess 0)])
  | .enumerateEnrollments => (s, [.device .enumerate])
  | .removeEnrollments enrollmentIds =>
      (s, enrollmentIds.map fun fid => .device (.remove s.gid fid.toUInt32))
  | .getAuthenticatorId =>
      (s, [.device .getAuthenticatorId,
        .callback (.onAuthenticatorIdRetrieved r.authenticatorId.toInt64),
        .device (.goodixExtCmd 0 0)])
  | .invalidateAuthenticatorId =>
      (s, [.device .getAuthenticatorId,
        .callback (.onAuthenticatorIdInvalidated r.authenticatorId.toInt64)])
  | .resetLockout =>
      let c := s.clearLockout true
      ({ c.1 with mIsLockoutTimerAborted := true }, c.2)
  | .onPointerDown =>
      let c := s.checkSensorLockout now
      (c.1, .device (.goodixExtCmd 1 0) :: c.2.1)
  | .onPointerUp => ({ s with mUiReady := false }, [.device (.goodixExtCmd 0 0)])
  | .cancel =>
      ({ s with mUiReady := false },
       [.setFodHbm false, .device (.goodixExtCmd 0 0), .device .cancel] ++
        if r.code = 0 then [.callback (.onError .canceled 0)] else [])
  | .close => ({ s with mUiReady := false }, [.setFodHbm false, .device (.goodixExtCmd 0 0)])

/-! ## Client calls -/

/-- The calls a client can make on a session.  `cancel` comes through a
`CancellationSignal`, `clientDeath` through the death recipient. -/
inductive Call
  | generateChallenge
  | revokeChallenge (challenge : Int64)
  | enroll (hat : HardwareAuthToken)
  | authenticate (operationId : Int64)
  | detectInteraction
  | enumerateEnrollments
  | removeEnrollments (enrollmentIds : List Int32)
  | getAuthenticatorId
  | invalidateAuthenticatorId
  | resetLockout
  | onPointerDown
  | onPointerUp
  | onUiReady
  | cancel
  | close
  | clientDeath
  deriving DecidableEq, Repr

/-- `Session::close`: the job is scheduled, and the session is closed and says so
at once, on the caller's thread. -/
def close (s : Session) : Session × List Effect × Option Job :=
  ({ s with mClosed := true }, [.callback .onSessionClosed], some .close)

/-- The body of a client call: the members after it, its own effects, and the job
it schedules. -/
def call (s : Session) (c : Call) : Session × List Effect × Option Job :=
  match c with
  | .generateChallenge => (s, [], some .generateChallenge)
  | .revokeChallenge challenge => (s, [], some (.revokeChallenge challenge))
  | .enroll hat => (s, [], some (.enroll hat))
  | .authenticate operationId =>
      ({ s with mUiReady := false }, [], some (.authenticate operationId))
  | .detectInteraction => (s, [], some .detectInteraction)
  | .enumerateEnrollments => (s, [], some .enumerateEnrollments)
  | .removeEnrollments enrollmentIds => (s, [], some (.removeEnrollments enrollmentIds))
  | .getAuthenticatorId => (s, [], some .getAuthenticatorId)
  | .invalidateAuthenticatorId => (s, [], some .invalidateAuthenticatorId)
  | .resetLockout => (s, [], some .resetLockout)
  | .onPointerDown => (s, [], some .onPointerDown)
  | .onPointerUp => (s, [], some .onPointerUp)
  | .onUiReady => ({ s with mUiReady := true }, [.setFodHbm true], none)
  | .cancel => (s, [], some .cancel)
  | .close => s.close
  | .clientDeath => if s.mClosed then (s, [], none) else s.close

/-! ## Messages from the device -/

/-- `Session::VendorErrorFilter`: the AIDL error and the vendor code. -/
def vendorErrorFilter (error : ℤ) : Error × ℤ :=
  match error with
  | 1 => (.hwUnavailable, 0)
  | 2 => (.unableToProcess, 0)
  | 3 => (.timeout, 0)
  | 4 => (.noSpace, 0)
  | 5 => (.canceled, 0)
  | 6 => (.unableToRemove, 0)
  | 7 => (.vendor, 7)
  | _ => if error ≥ 1000 then (.vendor, error - 1000) else (.unableToProcess, 0)

/-- `Session::VendorAcquiredFilter`: the AIDL info and the vendor code. -/
def vendorAcquiredFilter (info : ℤ) : AcquiredInfo × ℤ :=
  match info with
  | 0 => (.good, 0)
  | 1 => (.partialImage, 0)
  | 2 => (.insufficient, 0)
  | 3 => (.sensorDirty, 0)
  | 4 => (.tooSlow, 0)
  | 5 => (.tooFast, 0)
  | _ => if info ≥ 1000 then (.vendor, info - 1000) else (.insufficient, 0)

/-- `Session::notify`, with the shared vector `enrollments` of the enumeration
before and after. -/
def notify [Util] (s : Session) (enrollments : List Int32) (msg : FingerprintMsg) (now : ℕ) :
    Session × List Int32 × List Effect :=
  match msg with
  | .error error =>
      let result := vendorErrorFilter error
      ({ s with mUiReady := false }, enrollments, [.callback (.onError result.1 result.2)])
  | .acquired info =>
      let result := vendorAcquiredFilter info
      -- vendor infos are not sent on: the illumination would go off too early
      (s, enrollments,
        if result.1 ≠ .vendor then [.callback (.onAcquired result.1 result.2)] else [])
  | .templateEnrolling finger samplesRemaining =>
      (s, enrollments, [.callback (.onEnrollmentProgress finger.fid.toInt32
        samplesRemaining.toInt32)])
  | .templateRemoved finger _ =>
      (s, enrollments, [.callback (.onEnrollmentsRemoved [finger.fid.toInt32])])
  | .authenticated finger hat =>
      if finger.fid ≠ 0 then
        let authToken := translateToAidl .little hat .empty
        ({ s with mLockoutTracker := s.mLockoutTracker.reset true, mUiReady := false },
         enrollments,
         [.callback (.onAuthenticationSucceeded finger.fid.toInt32 authToken),
          .setFodHbm false, .device (.goodixExtCmd 0 0)])
      else
        let failed := { s with mLockoutTracker := s.mLockoutTracker.addFailedAttempt now }
        let c := failed.checkSensorLockout now
        ({ c.1 with mUiReady := false }, enrollments,
         .callback .onAuthenticationFailed :: c.2.1)
  | .templateEnumerating finger remainingTemplates =>
      let collected := enrollments ++ [finger.fid.toInt32]
      if remainingTemplates = 0 then
        (s, [], [.callback (.onEnrollmentsEnumerated collected)])
      else
        (s, collected, [])
  | .other _ => (s, enrollments, [])

end Session

end Fingerprint
