/-
# Auth tokens and their translation (`Legacy2Aidl.h`)

The AIDL `HardwareAuthToken` and the legacy `hw_auth_token_t` of libhardware,
with the two `translate` functions between them.  The legacy struct keeps
`authenticator_type` and `timestamp` in network byte order, so both directions
go through `htobe32`/`htobe64`, which depend on the byte order of the host.
-/
import Mathlib.Tactic

namespace Fingerprint

/-- The byte order of the host. -/
inductive ByteOrder
  | little
  | big
  deriving DecidableEq, Repr

/-- Reverse the `k` low bytes of a number. -/
def swapBytes : ℕ → ℕ → ℕ
  | 0, _ => 0
  | k + 1, x => (x % 256) * 256 ^ k + swapBytes k (x / 256)

/-- `htobe32`, and `be32toh`, which is the same permutation of bytes. -/
def htobe32 (order : ByteOrder) (x : UInt32) : UInt32 :=
  match order with
  | .big => x
  | .little => UInt32.ofNat (swapBytes 4 x.toNat)

/-- `htobe64`, and `be64toh`. -/
def htobe64 (order : ByteOrder) (x : UInt64) : UInt64 :=
  match order with
  | .big => x
  | .little => UInt64.ofNat (swapBytes 8 x.toNat)

/-- The AIDL token.  `timestamp.milliSeconds` is the one member of its
`Timestamp`. -/
structure HardwareAuthToken where
  challenge : Int64
  userId : Int64
  authenticatorId : Int64
  authenticatorType : Int32
  timestamp : Int64
  mac : List UInt8
  deriving DecidableEq, Repr

/-- `hw_auth_token_t`. -/
structure HwAuthToken where
  version : UInt8
  challenge : UInt64
  user_id : UInt64
  authenticator_id : UInt64
  authenticator_type : UInt32
  timestamp : UInt64
  hmac : Vector UInt8 32
  deriving DecidableEq, Repr

/-- `std::copy` of a `mac` over the bytes of `hmac`: as far as the `mac` reaches
its bytes replace the old ones.  Bytes of a `mac` longer than the array land
behind it and are no part of the struct. -/
def copyMac (mac : List UInt8) (hmac : Vector UInt8 32) : Vector UInt8 32 :=
  Vector.ofFn fun i => mac.getD i (hmac.get i)

/-- `translate(const HardwareAuthToken&, hw_auth_token_t&)`, with the struct's
contents before the call: `version` is not written. -/
def translateToLegacy (order : ByteOrder) (authToken : HardwareAuthToken)
    (hat : HwAuthToken) : HwAuthToken where
  version := hat.version
  challenge := authToken.challenge.toUInt64
  user_id := authToken.userId.toUInt64
  authenticator_id := authToken.authenticatorId.toUInt64
  authenticator_type := htobe32 order authToken.authenticatorType.toUInt32
  timestamp := htobe64 order authToken.timestamp.toUInt64
  hmac := copyMac authToken.mac hat.hmac

/-- `translate(const hw_auth_token_t&, HardwareAuthToken&)`, with the token
before the call: the 32 bytes are inserted at the front of its `mac`. -/
def translateToAidl (order : ByteOrder) (hat : HwAuthToken)
    (authToken : HardwareAuthToken) : HardwareAuthToken where
  challenge := hat.challenge.toInt64
  userId := hat.user_id.toInt64
  authenticatorId := hat.authenticator_id.toInt64
  authenticatorType := (htobe32 order hat.authenticator_type).toInt32
  timestamp := (htobe64 order hat.timestamp).toInt64
  mac := hat.hmac.toList ++ authToken.mac

/-- The legacy token whose bytes are all zero. -/
def HwAuthToken.zero : HwAuthToken where
  version := 0
  challenge := 0
  user_id := 0
  authenticator_id := 0
  authenticator_type := 0
  timestamp := 0
  hmac := Vector.replicate 32 0

/-- A default-constructed AIDL token. -/
def HardwareAuthToken.empty : HardwareAuthToken where
  challenge := 0
  userId := 0
  authenticatorId := 0
  authenticatorType := 0
  timestamp := 0
  mac := []

end Fingerprint
