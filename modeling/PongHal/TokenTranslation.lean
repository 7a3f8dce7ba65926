/-
# What the translation of auth tokens keeps (`Legacy2Aidl.h`)

The two `translate` functions undo each other (`token_round_trip`): signed and unsigned
members have the same bits, and reversing the bytes of the two members that are kept in
network order twice gives them back.

The struct that `Session::enroll` fills in is not initialised, and `translate` does not
assign its `version`; a `mac` that is shorter than `hmac` leaves the rest of `hmac` as it
was, a longer one is copied past its end.  So what the device is given is never a function
of the token alone (`enroll_token_undetermined`).
-/
import PongHal.Session

namespace Fingerprint

/-! ## Reversing bytes -/

theorem swapBytes_lt (k x : ℕ) : swapBytes k x < 256 ^ k := by
  induction k generalizing x with
  | zero => simp [swapBytes]
  | succ k ih =>
      have hlow := ih (x / 256)
      have hbyte : x % 256 < 256 := Nat.mod_lt _ (by norm_num)
      rw [swapBytes, pow_succ]
      nlinarith

/-- The highest byte of a number becomes the lowest. -/
theorem swapBytes_add (k a b : ℕ) (ha : a < 256) (hb : b < 256 ^ k) :
    swapBytes (k + 1) (a * 256 ^ k + b) = swapBytes k b * 256 + a := by
  induction k generalizing b with
  | zero =>
      obtain rfl : b = 0 := by simpa using hb
      simp [swapBytes, Nat.mod_eq_of_lt ha]
  | succ k ih =>
      have hlow : (a * 256 ^ (k + 1) + b) % 256 = b % 256 := by
        rw [pow_succ, ← Nat.mul_assoc, Nat.add_comm, Nat.add_mul_mod_self_right]
      have hhigh : (a * 256 ^ (k + 1) + b) / 256 = a * 256 ^ k + b / 256 := by
        rw [pow_succ, ← Nat.mul_assoc, Nat.add_comm, Nat.add_mul_div_right _ _ (by norm_num),
          Nat.add_comm]
      have hb' : b / 256 < 256 ^ k := by
        rw [Nat.div_lt_iff_lt_mul (by norm_num), ← pow_succ]
        exact hb
      rw [swapBytes, hlow, hhigh, ih (b / 256) hb', swapBytes]
      ring

/-- Reversing the bytes twice gives them back. -/
theorem swapBytes_swapBytes (k x : ℕ) : swapBytes k (swapBytes k x) = x % 256 ^ k := by
  induction k generalizing x with
  | zero => simp [swapBytes, Nat.mod_one]
  | succ k ih =>
      have hbyte : x % 256 < 256 := Nat.mod_lt _ (by norm_num)
      have hread : swapBytes (k + 1) (swapBytes (k + 1) x) =
          swapBytes k (swapBytes k (x / 256)) * 256 + x % 256 :=
        swapBytes_add k (x % 256) (swapBytes k (x / 256)) hbyte (swapBytes_lt k _)
      rw [hread, ih, pow_succ', Nat.mod_mul]
      ring

@[simp] theorem htobe32_htobe32 (order : ByteOrder) (x : UInt32) :
    htobe32 order (htobe32 order x) = x := by
  cases order with
  | big => rfl
  | little =>
      have hswap := swapBytes_swapBytes 4 x.toNat
      have hlt := swapBytes_lt 4 x.toNat
      have hx := x.toNat_lt
      apply UInt32.toNat.inj
      simp only [htobe32, UInt32.toNat_ofNat']
      rw [Nat.mod_eq_of_lt (by omega : swapBytes 4 x.toNat < 2 ^ 32), hswap]
      omega

@[simp] theorem htobe64_htobe64 (order : ByteOrder) (x : UInt64) :
    htobe64 order (htobe64 order x) = x := by
  cases order with
  | big => rfl
  | little =>
      have hswap := swapBytes_swapBytes 8 x.toNat
      have hlt := swapBytes_lt 8 x.toNat
      have hx := x.toNat_lt
      apply UInt64.toNat.inj
      simp only [htobe64, UInt64.toNat_ofNat']
      rw [Nat.mod_eq_of_lt (by omega : swapBytes 8 x.toNat < 2 ^ 64), hswap]
      omega

/-! ## The copy of the `mac` -/

/-- What `std::copy` writes: the offset from `hmac` and the byte. -/
def copyWrites (mac : List UInt8) : List (ℕ × UInt8) := mac.zipIdx.map fun p => (p.2, p.1)

/-- No byte is written outside `hmac`. -/
def InBounds (mac : List UInt8) : Prop := ∀ p ∈ copyWrites mac, p.1 < 32

theorem getElem_copyMac (mac : List UInt8) (hmac : Vector UInt8 32) (i : ℕ) (hi : i < 32) :
    (copyMac mac hmac)[i] = mac.getD i hmac[i] := by
  simp [copyMac, Vector.get]

/-- `copyMac` keeps of these writes what falls into the array. -/
theorem copyMac_eq_foldl (mac : List UInt8) (hmac : Vector UInt8 32) :
    copyMac mac hmac = (copyWrites mac).foldl (fun v p => v.setIfInBounds p.1 p.2) hmac := by
  induction mac using List.reverseRecOn with
  | nil =>
      ext i hi
      simp [getElem_copyMac, copyWrites]
  | append_singleton mac b ih =>
      have hwrites : copyWrites (mac ++ [b]) = copyWrites mac ++ [(mac.length, b)] := by
        simp [copyWrites, List.zipIdx_append]
      rw [hwrites, List.foldl_append, ← ih]
      ext i hi
      simp only [List.foldl_cons, List.foldl_nil, Vector.getElem_setIfInBounds, getElem_copyMac,
        List.getD_eq_getElem?_getD]
      rcases Nat.lt_trichotomy i mac.length with hlt | rfl | hgt
      · rw [List.getElem?_append_left hlt, if_neg (by omega)]
      · simp
      · rw [List.getElem?_append_right hgt.le, if_neg (by omega),
          List.getElem?_eq_none (by simp; omega), List.getElem?_eq_none hgt.le]

theorem inBounds_iff (mac : List UInt8) : InBounds mac ↔ mac.length ≤ 32 := by
  constructor
  · intro h
    by_contra hlong
    have hmem : (32, mac[32]) ∈ copyWrites mac := by
      rw [copyWrites, List.mem_map]
      exact ⟨(mac[32], 32), List.mem_zipIdx_iff_getElem?.2 (by simp), rfl⟩
    exact absurd (h _ hmem) (lt_irrefl 32)
  · intro hshort p hp
    obtain ⟨⟨b, i⟩, hb, rfl⟩ := List.mem_map.1 hp
    have hi := (List.getElem?_eq_some_iff.1 (List.mem_zipIdx_iff_getElem?.1 hb)).1
    exact lt_of_lt_of_le hi hshort

/-- What lay in `hmac` before is gone exactly if the `mac` reaches its end. -/
theorem copyMac_determined_iff (mac : List UInt8) :
    (∀ hmac hmac' : Vector UInt8 32, copyMac mac hmac = copyMac mac hmac') ↔ 32 ≤ mac.length := by
  constructor
  · intro h
    by_contra hshort
    have hi : mac.length < 32 := by omega
    have hbyte := congrArg (fun v : Vector UInt8 32 => v[mac.length])
      (h (Vector.replicate 32 0) (Vector.replicate 32 1))
    simp [getElem_copyMac] at hbyte
  · intro hlong hmac hmac'
    ext i hi
    simp [getElem_copyMac, List.getElem?_eq_getElem (by omega : i < mac.length)]

theorem toList_copyMac {mac : List UInt8} (hmac : Vector UInt8 32) (h : mac.length = 32) :
    (copyMac mac hmac).toList = mac := by
  apply List.ext_getElem
  · simp [h]
  · intro i hi hi'
    simp [getElem_copyMac, List.getElem?_eq_getElem hi']

@[simp] theorem copyMac_toList (hmac hmac' : Vector UInt8 32) :
    copyMac hmac.toList hmac' = hmac := by
  ext i hi
  simp [getElem_copyMac, hi]

/-! ## The round trip -/

/-- **Translation to the legacy token and back.**  A token with a `mac` of 32 bytes comes
back as it was, whatever the struct held; a legacy token comes back with all members but
`version`. -/
theorem token_round_trip (order : ByteOrder) :
    (∀ authToken : HardwareAuthToken, authToken.mac.length = 32 → ∀ hat : HwAuthToken,
      translateToAidl order (translateToLegacy order authToken hat) .empty = authToken) ∧
    ∀ hat hat' : HwAuthToken,
      translateToLegacy order (translateToAidl order hat .empty) hat' =
        { hat with version := hat'.version } := by
  constructor
  · intro authToken hmac hat
    simp [translateToAidl, translateToLegacy, HardwareAuthToken.empty, toList_copyMac _ hmac]
  · intro hat hat'
    simp [translateToAidl, translateToLegacy, HardwareAuthToken.empty]

/-- A token whose members have their highest and lowest bits set. -/
theorem token_round_trip_signed :
    translateToAidl .little (translateToLegacy .little
        ⟨-1, 2, -3, -0x7FFFFFFF, 0x0102030405060708, List.replicate 32 7⟩ .zero) .empty =
      ⟨-1, 2, -3, -0x7FFFFFFF, 0x0102030405060708, List.replicate 32 7⟩ :=
  (token_round_trip .little).1 _ rfl _

/-! ## The token of `enroll` -/

section

variable [Util]

/-- The token that the job of `enroll` hands to the device. -/
def enrollToken (s : Session) (hat : HardwareAuthToken) (r : DeviceReplies) (now : ℕ) :
    Option HwAuthToken :=
  (s.runJob (.enroll hat) r now).2.findSome? fun
    | .device (.enroll token _ _) => some token
    | _ => none

theorem enrollToken_eq (s : Session) (hat : HardwareAuthToken) (r : DeviceReplies) (now : ℕ) :
    enrollToken s hat r now = some (translateToLegacy .little hat r.stack) := by
  simp [enrollToken, Session.runJob]

/-- The device gets the same token whatever session enrolls, whatever the device answers,
and whatever lay where the struct is put. -/
def TokenDetermined (hat : HardwareAuthToken) : Prop :=
  ∀ (s s' : Session) (r r' : DeviceReplies) (now now' : ℕ),
    enrollToken s hat r now = enrollToken s' hat r' now'

/-- The same for all members but `version`. -/
def MembersDetermined (hat : HardwareAuthToken) : Prop :=
  ∀ (s s' : Session) (r r' : DeviceReplies) (now now' : ℕ),
    (enrollToken s hat r now).map (fun token => { token with version := 0 }) =
      (enrollToken s' hat r' now').map (fun token => { token with version := 0 })

/-- The struct on the stack of the worker with other bytes. -/
def DeviceReplies.withStack (stack : HwAuthToken) : DeviceReplies :=
  { DeviceReplies.zero with stack := stack }

/-- Only the copy into `hmac` can let old bytes of the members through. -/
theorem membersDetermined_iff (hat : HardwareAuthToken) :
    MembersDetermined hat ↔
      ∀ hmac hmac' : Vector UInt8 32, copyMac hat.mac hmac = copyMac hat.mac hmac' := by
  simp only [MembersDetermined, enrollToken_eq, Option.map_some, Option.some.injEq,
    translateToLegacy, HwAuthToken.mk.injEq, true_and]
  constructor
  · intro h hmac hmac'
    exact h (Session.create 0 .init).1 (Session.create 0 .init).1
      (.withStack { HwAuthToken.zero with hmac := hmac })
      (.withStack { HwAuthToken.zero with hmac := hmac' }) 0 0
  · intro h s s' r r' now now'
    exact h r.stack.hmac r'.stack.hmac

/-- **The token that `enroll` hands to the device is never determined by the token it
is given.**  `version` is not; the other members are if the `mac` has 32 bytes or more,
and the copy stays in bounds if it has 32 or less. -/
theorem enroll_token_undetermined (hat : HardwareAuthToken) :
    ¬ TokenDetermined hat ∧ (MembersDetermined hat ↔ 32 ≤ hat.mac.length) ∧
      (InBounds hat.mac ↔ hat.mac.length ≤ 32) := by
  refine ⟨?_, ?_, inBounds_iff hat.mac⟩
  · intro h
    have htokens := h (Session.create 0 .init).1 (Session.create 0 .init).1
      (.withStack { HwAuthToken.zero with version := 0 })
      (.withStack { HwAuthToken.zero with version := 1 }) 0 0
    simp [enrollToken_eq, translateToLegacy, DeviceReplies.withStack] at htokens
  · rw [membersDetermined_iff, copyMac_determined_iff]

end

/-- A token with a `mac` of 32 bytes, enrolled twice. -/
theorem enroll_token_differs :
    enrollToken (Session.create 0 .init).1 ⟨1, 2, 3, 4, 5, List.replicate 32 7⟩
        (.withStack { HwAuthToken.zero with version := 0 }) 0 ≠
      enrollToken (Session.create 0 .init).1 ⟨1, 2, 3, 4, 5, List.replicate 32 7⟩
        (.withStack { HwAuthToken.zero with version := 1 }) 0 := by
  simp [enrollToken_eq, translateToLegacy, DeviceReplies.withStack]

end Fingerprint
