/-
# Words with a number in their top bits

A word whose bits from `n` on are clear has room for a small number there: `tag`
puts it in, `untag` clears these bits again, and `index` reads the number with an
arithmetic right shift.  As long as the number leaves the sign bit clear, both give
back what was put in, and every word that is not negative comes about in this way
from exactly one number and one word.
-/
import Mathlib.Tactic

namespace TaggedWord

variable {w n : ℕ}

/-- The bits from `n` on. -/
def mask (w n : ℕ) : BitVec w := BitVec.allOnes w <<< n

/-- `x` with the number `i` in its bits from `n` on. -/
def tag (n : ℕ) (x : BitVec w) (i : ℕ) : BitVec w := x ||| (BitVec.ofNat w i <<< n)

/-- `x` with its bits from `n` on cleared. -/
def untag (n : ℕ) (x : BitVec w) : BitVec w := x &&& ~~~ mask w n

/-- The number in the bits from `n` on, with the sign of the word. -/
def index (n : ℕ) (x : BitVec w) : ℤ := (x.sshiftRight n).toInt

/-! ## The operations as arithmetic -/

theorem toNat_tag {x : BitVec w} {i : ℕ} (hn : n ≤ w) (hx : x.toNat < 2 ^ n)
    (hi : i < 2 ^ (w - n)) : (tag n x i).toNat = 2 ^ n * i + x.toNat := by
  have hw : 2 ^ n * 2 ^ (w - n) = 2 ^ w := by rw [← pow_add, Nat.add_sub_cancel' hn]
  have hfits : 2 ^ n * i < 2 ^ w := by
    rw [← hw]
    exact Nat.mul_lt_mul_of_pos_left hi (Nat.two_pow_pos n)
  have hword : i < 2 ^ w := hi.trans_le (Nat.pow_le_pow_right (by omega) (Nat.sub_le w n))
  rw [tag, BitVec.toNat_or, BitVec.toNat_shiftLeft, BitVec.toNat_ofNat, Nat.mod_eq_of_lt hword,
    Nat.shiftLeft_eq, Nat.mul_comm i, Nat.mod_eq_of_lt hfits, Nat.or_comm,
    ← Nat.two_pow_add_eq_or_of_lt hx]

theorem toNat_untag (x : BitVec w) (hn : n ≤ w) : (untag n x).toNat = x.toNat % 2 ^ n := by
  have hlow : untag n x = (x.setWidth n).setWidth w := by
    ext i hi
    simp only [untag, mask, BitVec.getElem_and, BitVec.getElem_not, BitVec.getElem_shiftLeft,
      BitVec.getElem_allOnes, BitVec.getElem_setWidth, BitVec.getLsbD_setWidth]
    grind
  have hfits : x.toNat % 2 ^ n < 2 ^ w :=
    (Nat.mod_lt _ (Nat.two_pow_pos n)).trans_le (Nat.pow_le_pow_right (by omega) hn)
  rw [hlow, BitVec.toNat_setWidth, BitVec.toNat_setWidth, Nat.mod_eq_of_lt hfits]

theorem index_eq_div (n : ℕ) (x : BitVec w) : index n x = x.toInt / 2 ^ n := by
  rw [index, BitVec.toInt_sshiftRight, Int.shiftRight_eq_div_pow]
  norm_cast

/-- Clearing the bits from `n` on changes no word below `2 ^ n`. -/
theorem untag_eq_self {x : BitVec w} (hn : n ≤ w) (hx : x.toNat < 2 ^ n) : untag n x = x := by
  apply BitVec.eq_of_toNat_eq
  rw [toNat_untag x hn, Nat.mod_eq_of_lt hx]

/-- The bits from `n` on are clear exactly in the words below `2 ^ n`. -/
theorem and_mask_eq_zero_iff (x : BitVec w) (hn : n ≤ w) :
    x &&& mask w n = 0 ↔ x.toNat < 2 ^ n := by
  constructor
  · intro hclear
    have hsame : untag n x = x := by
      ext i hi
      have hbit := congrArg (fun y => y[i]) hclear
      simp only [BitVec.getElem_and, BitVec.ofNat_eq_ofNat, BitVec.getElem_zero] at hbit
      simp only [untag, BitVec.getElem_and, BitVec.getElem_not]
      grind
    rw [← hsame, toNat_untag x hn]
    exact Nat.mod_lt _ (Nat.two_pow_pos n)
  · intro hlt
    rw [← untag_eq_self hn hlt, untag, BitVec.and_assoc, BitVec.and_comm (~~~ mask w n)]
    simp

/-! ## Reading back -/

/-- Clearing the top bits gives back the word that was tagged, whatever the number. -/
theorem untag_tag {x : BitVec w} (i : ℕ) (hn : n ≤ w) (hx : x.toNat < 2 ^ n) :
    untag n (tag n x i) = x := by
  have hlow : untag n (tag n x i) = untag n x := by
    ext j hj
    simp only [untag, tag, mask, BitVec.getElem_and, BitVec.getElem_or, BitVec.getElem_not,
      BitVec.getElem_shiftLeft, BitVec.getElem_allOnes]
    grind
  rw [hlow, untag_eq_self hn hx]

/-- A number that leaves the sign bit clear is read back. -/
theorem index_tag {x : BitVec w} {i : ℕ} (hn : n < w) (hx : x.toNat < 2 ^ n)
    (hi : i < 2 ^ (w - n - 1)) : index n (tag n x i) = i := by
  have hw : 2 ^ n * 2 ^ (w - n - 1) * 2 = 2 ^ w := by
    rw [← pow_add, ← pow_succ]
    congr 1
    omega
  have hi' : i < 2 ^ (w - n) := hi.trans_le (Nat.pow_le_pow_right (by omega) (by omega))
  have hnat := toNat_tag hn.le hx hi'
  have hpos : 2 * (tag n x i).toNat < 2 ^ w := by
    have hle : 2 ^ n * (i + 1) ≤ 2 ^ n * 2 ^ (w - n - 1) := Nat.mul_le_mul_left _ hi
    rw [Nat.mul_add] at hle
    omega
  rw [index_eq_div, BitVec.toInt_eq_toNat_of_lt hpos, hnat]
  norm_cast
  rw [Nat.mul_add_div (Nat.two_pow_pos n), Nat.div_eq_of_lt hx, Nat.add_zero]

/-- Every word that is not negative is its lower bits with its index. -/
theorem tag_untag {x : BitVec w} (hn : n ≤ w) (hx : 0 ≤ x.toInt) :
    tag n (untag n x) (index n x).toNat = x := by
  have hnat : x.toInt = x.toNat := BitVec.toInt_eq_toNat_of_lt (BitVec.toInt_pos_iff.1 hx)
  have hindex : (index n x).toNat = x.toNat / 2 ^ n := by
    rw [index_eq_div, hnat]
    norm_cast
  have hfits : x.toNat / 2 ^ n < 2 ^ (w - n) := by
    rw [Nat.div_lt_iff_lt_mul (Nat.two_pow_pos n), ← pow_add, Nat.sub_add_cancel hn]
    exact x.isLt
  have hlow : (untag n x).toNat < 2 ^ n := by
    rw [toNat_untag x hn]
    exact Nat.mod_lt _ (Nat.two_pow_pos n)
  apply BitVec.eq_of_toNat_eq
  rw [hindex, toNat_tag hn hlow hfits, toNat_untag x hn, Nat.div_add_mod]

/-- The index of a negative word is negative. -/
theorem index_neg {x : BitVec w} (hx : x.toInt < 0) : index n x < 0 := by
  rw [index_eq_div]
  exact Int.ediv_neg_of_neg_of_pos hx (by positivity)

/-- The index of a word of `w` bits is at least `-2 ^ (w - 1 - n)`. -/
theorem neg_le_index (x : BitVec w) (hn : n < w) : -2 ^ (w - 1 - n) ≤ index n x := by
  have hw : (2 : ℤ) ^ (w - 1 - n) * 2 ^ n = 2 ^ (w - 1) := by
    rw [← pow_add]
    congr 1
    omega
  rw [index_eq_div, Int.le_ediv_iff_mul_le (by positivity), neg_mul, hw]
  exact BitVec.le_toInt x

end TaggedWord
