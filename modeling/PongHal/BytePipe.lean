/-
# Pipes

A pipe that bytes are written to and read from one at a time.  A write to a full pipe does
not return before a byte has been read.

Whether a pipe is full is not told by the number of its unread bytes alone: the kernel
keeps them in pages, and a page of which something has been read takes no new bytes in
the place of the old ones (`PagedPipe`).  What can be relied on is `BytePipe` : a pipe
without unread bytes is not full, one with as many as its capacity is, and a read makes
none full.
-/
import Mathlib.Tactic

/-- A pipe as its ends see it. -/
class BytePipe (π : Type) where
  empty : π
  write : π → π
  read : π → π
  /-- The number of bytes that have been written and not read. -/
  unread : π → ℕ
  /-- A write does not return. -/
  full : π → Bool
  /-- No pipe has more unread bytes. -/
  capacity : ℕ
  unread_empty : unread empty = 0
  unread_write : ∀ {p : π}, full p = false → unread (write p) = unread p + 1
  unread_read : ∀ p : π, unread (read p) = unread p - 1
  full_of_unread_eq_zero : ∀ {p : π}, unread p = 0 → full p = false
  full_of_capacity_le : ∀ {p : π}, capacity ≤ unread p → full p = true
  full_read : ∀ {p : π}, full p = false → full (read p) = false

namespace BytePipe

variable {π : Type} [BytePipe π] {p : π} {m n : ℕ}

theorem unread_pos_of_full (h : full p = true) : 0 < unread p := by
  rw [Nat.pos_iff_ne_zero]
  intro hnone
  rw [full_of_unread_eq_zero hnone] at h
  cases h

theorem unread_lt_of_not_full (h : full p = false) : unread p < capacity π := by
  by_contra hle
  rw [full_of_capacity_le (not_lt.1 hle)] at h
  cases h

theorem capacity_pos : 0 < capacity π := by
  have hroom : full (empty : π) = false := full_of_unread_eq_zero unread_empty
  exact (Nat.zero_le _).trans_lt (unread_lt_of_not_full hroom)

/-- The pipe when its unread bytes go from `m` to `n`, by at most one. -/
def follow (p : π) (m n : ℕ) : π :=
  if n = m + 1 then write p else if m = n + 1 then read p else p

theorem follow_self : follow p m m = p := by
  rw [follow, if_neg (by omega), if_neg (by omega)]

theorem follow_succ : follow p m (m + 1) = write p := if_pos rfl

/-- Its unread bytes do follow, if a byte more finds room. -/
theorem unread_follow (hunread : unread p = m) (hsucc : n ≤ m + 1) (hpred : m ≤ n + 1)
    (hroom : n = m + 1 → full p = false) : unread (follow p m n) = n := by
  rw [follow]
  split
  · rename_i hwrite
    rw [unread_write (hroom hwrite), hunread, hwrite]
  · split
    · rw [unread_read, hunread]
      omega
    · omega

/-- Without a byte more it does not become full. -/
theorem full_follow (hle : n ≤ m) (h : full p = false) : full (follow p m n) = false := by
  rw [follow, if_neg (by omega)]
  split
  · exact full_read h
  · exact h

/-- While there is room each write adds a byte. -/
theorem unread_iterate_write (hroom : ∀ m < n, full (write^[m] p) = false) :
    unread (write^[n] p) = unread p + n := by
  induction n with
  | zero => rfl
  | succ n ih =>
      rw [Function.iterate_succ_apply', unread_write (hroom n (Nat.lt_succ_self n)),
        ih fun m hm => hroom m (hm.trans (Nat.lt_succ_self n)), Nat.add_assoc]

/-- Writes alone fill a pipe, and at some point for the first time. -/
theorem exists_iterate_write_full (p : π) :
    ∃ n, full (write^[n] p) = true ∧ ∀ m < n, full (write^[m] p) = false := by
  have hfills : ∃ n, full (write^[n] p) = true := by
    by_contra hnever
    push Not at hnever
    have hroom : ∀ m, full (write^[m] p) = false := by simpa using hnever
    have hbytes := unread_iterate_write (n := capacity π) fun m _ => hroom m
    have hlt := unread_lt_of_not_full (hroom (capacity π))
    omega
  refine ⟨Nat.find hfills, Nat.find_spec hfills, fun m hm => ?_⟩
  simpa using Nat.find_min hfills hm

end BytePipe

/-! ## A pipe in pages -/

/-- The bytes of a page. -/
def pageSize : ℕ := 4096

/-- The pages that a pipe has at most. -/
def pageCount : ℕ := 16

/-- A pipe in pages that are filled one after the other.  A page goes when all that it holds
has been read. -/
structure PagedPipe where
  /-- The bytes of the first page that have been read. -/
  offset : ℕ
  unread : ℕ
  offset_lt : offset < pageSize
  offset_eq_zero : unread = 0 → offset = 0

namespace PagedPipe

/-- All pages are there and the last one has been filled. -/
def full (p : PagedPipe) : Bool := decide (pageCount * pageSize ≤ p.offset + p.unread)

def write (p : PagedPipe) : PagedPipe where
  offset := p.offset
  unread := p.unread + 1
  offset_lt := p.offset_lt
  offset_eq_zero := fun h => absurd h (Nat.succ_ne_zero _)

def read (p : PagedPipe) : PagedPipe where
  offset := if p.unread ≤ 1 ∨ p.offset + 1 = pageSize then 0 else p.offset + 1
  unread := p.unread - 1
  offset_lt := by
    have hlt := p.offset_lt
    split
    · decide
    · omega
  offset_eq_zero := fun h => if_pos (.inl (by omega))

end PagedPipe

instance : BytePipe PagedPipe where
  empty := ⟨0, 0, by decide, fun _ => rfl⟩
  write := .write
  read := .read
  unread := PagedPipe.unread
  full := PagedPipe.full
  capacity := pageCount * pageSize
  unread_empty := rfl
  unread_write _ := rfl
  unread_read _ := rfl
  full_of_unread_eq_zero := by
    intro p hnone
    have hoffset := p.offset_eq_zero hnone
    rw [PagedPipe.full, decide_eq_false_iff_not, hnone, hoffset]
    decide
  full_of_capacity_le := by
    intro p hle
    rw [PagedPipe.full, decide_eq_true_iff]
    omega
  full_read := by
    intro p hroom
    rw [PagedPipe.full, decide_eq_false_iff_not] at hroom ⊢
    simp only [PagedPipe.read]
    split <;> omega

/-- Writes leave what has been read of the first page as it is. -/
theorem PagedPipe.full_iterate_write (n : ℕ) :
    BytePipe.full (BytePipe.write^[n] (BytePipe.empty : PagedPipe)) =
      decide (pageCount * pageSize ≤ n) := by
  have hpages : (BytePipe.write^[n] (BytePipe.empty : PagedPipe)).offset = 0 ∧
      (BytePipe.write^[n] (BytePipe.empty : PagedPipe)).unread = n := by
    induction n with
    | zero => exact ⟨rfl, rfl⟩
    | succ n ih =>
        rw [Function.iterate_succ_apply']
        exact ⟨ih.1, congrArg Nat.succ ih.2⟩
  show PagedPipe.full _ = _
  rw [PagedPipe.full, hpages.1, hpages.2, Nat.zero_add]

/-- Sixteen pages are written and two bytes read: a write blocks with 65534 unread bytes. -/
example : BytePipe.full (PagedPipe.read (PagedPipe.read ⟨0, 65536, by decide, by decide⟩)) = true ∧
    BytePipe.unread (PagedPipe.read (PagedPipe.read ⟨0, 65536, by decide, by decide⟩)) = 65534 := by
  decide
