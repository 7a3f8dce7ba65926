/-
# `sscanf` with a format of integers and commas

`"%d,%d,...,%d"`, as the C standard has it: each `%d` skips white space and reads an
optional sign and digits, and a comma has to follow at once.  The scan goes through the
string byte by byte and stops at the first byte that does not fit, at the latest at the
one behind the last number; it does not look any further.  `scan` is this as an
automaton, on any bytes: if they end before the scan has stopped, nothing can be said of
its result, which depends on what follows.

* `scan_append_of_stopped` : what follows the byte at which the scan stops does not matter;
* `scan_append_digits` : digits never stop a scan that still runs, unless they are followed
  by something else;
* `isText_of_scan` : the numbers that are returned are those of the text at the beginning;
* `isStopped_iff` : the bytes at whose end the scan still runs, said without it.
-/
import Mathlib.Tactic

namespace Scanf

/-! ## Bytes -/

/-- `isspace` in the C locale. -/
def isSpace (b : UInt8) : Bool := b == 32 || (decide (9 ≤ b) && decide (b ≤ 13))

/-- `isdigit`. -/
def isDigit (b : UInt8) : Bool := decide (48 ≤ b) && decide (b ≤ 57)

/-- The value of a digit. -/
def digit (b : UInt8) : ℕ := b.toNat - 48

/-- The comma. -/
def comma : UInt8 := 44

/-- The plus sign. -/
def plus : UInt8 := 43

/-- The minus sign. -/
def minus : UInt8 := 45

/-- The number with these digits and this sign. -/
def number (negative : Bool) (value : ℕ) : ℤ := if negative then -value else value

theorem isDigit_iff (b : UInt8) : isDigit b = true ↔ 48 ≤ b.toNat ∧ b.toNat ≤ 57 := by
  unfold isDigit
  rw [Bool.and_eq_true, decide_eq_true_iff, decide_eq_true_iff]
  exact Iff.rfl

/-- A digit is no white space and no sign. -/
theorem of_isDigit {b : UInt8} (h : isDigit b = true) :
    isSpace b = false ∧ b ≠ plus ∧ b ≠ minus := by
  obtain ⟨hlow, -⟩ := (isDigit_iff b).1 h
  have hne : ∀ c : UInt8, c.toNat < 48 → b ≠ c := by
    rintro c hc rfl
    omega
  refine ⟨?_, hne plus (by decide), hne minus (by decide)⟩
  have hle : ¬ b ≤ 13 := by
    rw [UInt8.le_iff_toNat_le]
    show ¬ b.toNat ≤ 13
    omega
  unfold isSpace
  rw [beq_eq_false_iff_ne.2 (hne 32 (by decide)), decide_eq_false hle, Bool.and_false]
  rfl

/-! ## The automaton -/

/-- Where the scan is in a number. -/
inductive Phase
  /-- Before the number, in white space. -/
  | blank
  /-- Behind its sign. -/
  | sign (negative : Bool)
  /-- Behind some of its digits. -/
  | digits (negative : Bool) (value : ℕ)
  deriving DecidableEq, Repr

/-- What the call returns, and the numbers it has assigned. -/
structure Result where
  returned : ℤ
  values : List ℤ
  deriving DecidableEq, Repr

/-- A scan: the numbers read so far, and where it is in the next one, or its result. -/
inductive State
  | running (values : List ℤ) (phase : Phase)
  | stopped (result : Result)
  deriving DecidableEq, Repr

/-- The scan stops at a byte that does not fit; it returns how many numbers it has
read. -/
def mismatch (values : List ℤ) : State := .stopped ⟨values.length, values⟩

/-- The scan of `n` numbers, after one more byte. -/
def step (n : ℕ) : State → UInt8 → State
  | .stopped r, _ => .stopped r
  | .running values .blank, b =>
      if isSpace b then .running values .blank
      else if b = plus then .running values (.sign false)
      else if b = minus then .running values (.sign true)
      else if isDigit b then .running values (.digits false (digit b))
      -- `EOF`, if the string ends before the first number
      else if b = 0 ∧ values = [] then .stopped ⟨-1, []⟩
      else mismatch values
  | .running values (.sign negative), b =>
      if isDigit b then .running values (.digits negative (digit b)) else mismatch values
  | .running values (.digits negative value), b =>
      if isDigit b then .running values (.digits negative (10 * value + digit b))
      else if values.length + 1 < n ∧ b = comma then
        .running (values ++ [number negative value]) .blank
      else mismatch (values ++ [number negative value])

/-- Before the first byte. -/
def start : State := .running [] .blank

/-- The scan of `n` numbers, after the bytes. -/
def scan (n : ℕ) (bytes : List UInt8) : State := bytes.foldl (step n) start

/-- The result of the scan, if it has stopped. -/
def State.result : State → Option Result
  | .running _ _ => none
  | .stopped r => some r

/-- The scan has stopped. -/
def State.isStopped (s : State) : Bool := s.result.isSome

section

variable {n : ℕ} {bytes : List UInt8}

theorem scan_append (rest : List UInt8) :
    scan n (bytes ++ rest) = rest.foldl (step n) (scan n bytes) :=
  List.foldl_append

theorem scan_append_singleton (b : UInt8) : scan n (bytes ++ [b]) = step n (scan n bytes) b := by
  rw [scan_append, List.foldl_cons, List.foldl_nil]

theorem foldl_stopped (r : Result) (rest : List UInt8) :
    rest.foldl (step n) (.stopped r) = .stopped r := by
  induction rest with
  | nil => rfl
  | cons b rest ih => exact ih

/-- What follows the byte at which the scan stops does not matter. -/
theorem scan_append_of_stopped {r : Result} (h : scan n bytes = .stopped r) (rest : List UInt8) :
    scan n (bytes ++ rest) = .stopped r := by
  rw [scan_append, h, foldl_stopped]

/-- A scan that still runs goes on over digits. -/
theorem scan_append_digits {values : List ℤ} {phase : Phase}
    (h : scan n bytes = .running values phase) {ds : List UInt8}
    (hds : ∀ b ∈ ds, isDigit b = true) :
    ∃ phase', scan n (bytes ++ ds) = .running values phase' := by
  induction ds using List.reverseRecOn with
  | nil => exact ⟨phase, by rw [List.append_nil, h]⟩
  | append_singleton ds b ih =>
      obtain ⟨phase', hrun⟩ := ih fun b' hb' => hds b' (List.mem_append_left _ hb')
      have hb : isDigit b = true := hds b (by simp)
      rw [← List.append_assoc, scan_append_singleton, hrun]
      cases phase' with
      | blank =>
          obtain ⟨hspace, hplus, hminus⟩ := of_isDigit hb
          exact ⟨.digits false (digit b), by simp [step, hspace, hplus, hminus, hb]⟩
      | sign negative => exact ⟨_, if_pos hb⟩
      | digits negative value => exact ⟨_, if_pos hb⟩

end

/-! ## Texts

What a scan that has all its numbers has seen, without the automaton.
-/

/-- The sign of a number. -/
inductive IsSign : List UInt8 → Bool → Prop
  | none : IsSign [] false
  | plus : IsSign [plus] false
  | minus : IsSign [minus] true

/-- The value of some digits. -/
def digitsValue (ds : List UInt8) : ℕ := ds.foldl (fun value b => 10 * value + digit b) 0

/-- White space, a sign and digits, with the value of the number. -/
inductive IsNumeral : List UInt8 → ℤ → Prop
  | intro {blanks sign ds : List UInt8} {negative : Bool}
      (hblanks : ∀ b ∈ blanks, isSpace b = true) (hsign : IsSign sign negative) (hne : ds ≠ [])
      (hds : ∀ b ∈ ds, isDigit b = true) :
      IsNumeral (blanks ++ sign ++ ds) (number negative (digitsValue ds))

/-- Numerals with commas in between. -/
inductive IsText : List UInt8 → List ℤ → Prop
  | one {bytes : List UInt8} {z : ℤ} (h : IsNumeral bytes z) : IsText bytes [z]
  | more {bytes numeral : List UInt8} {values : List ℤ} {z : ℤ} (h : IsText bytes values)
      (hz : IsNumeral numeral z) : IsText (bytes ++ comma :: numeral) (values ++ [z])

/-- The numbers before the one that is being read, each with its comma. -/
inductive IsHead : List UInt8 → List ℤ → Prop
  | nil : IsHead [] []
  | text {bytes : List UInt8} {values : List ℤ} (h : IsText bytes values) :
      IsHead (bytes ++ [comma]) values

/-- One more numeral. -/
theorem IsHead.append {bytes numeral : List UInt8} {values : List ℤ} {z : ℤ}
    (h : IsHead bytes values) (hz : IsNumeral numeral z) :
    IsText (bytes ++ numeral) (values ++ [z]) := by
  cases h with
  | nil => exact .one hz
  | text h =>
      rw [List.append_assoc, List.singleton_append]
      exact .more h hz

/-- What a scan of `n` numbers has seen. -/
inductive Seen (n : ℕ) : List UInt8 → State → Prop
  | blank {head blanks : List UInt8} {values : List ℤ} (hhead : IsHead head values)
      (hblanks : ∀ b ∈ blanks, isSpace b = true) :
      Seen n (head ++ blanks) (.running values .blank)
  | sign {head blanks sign : List UInt8} {values : List ℤ} {negative : Bool}
      (hhead : IsHead head values) (hblanks : ∀ b ∈ blanks, isSpace b = true)
      (hsign : IsSign sign negative) :
      Seen n (head ++ (blanks ++ sign)) (.running values (.sign negative))
  | digits {head blanks sign ds : List UInt8} {values : List ℤ} {negative : Bool}
      (hhead : IsHead head values) (hblanks : ∀ b ∈ blanks, isSpace b = true)
      (hsign : IsSign sign negative) (hne : ds ≠ []) (hds : ∀ b ∈ ds, isDigit b = true) :
      Seen n (head ++ (blanks ++ sign ++ ds)) (.running values (.digits negative (digitsValue ds)))
  /-- The scan has stopped in or before a number. -/
  | failed {bytes : List UInt8} {r : Result} (h : r.values.length < n) :
      Seen n bytes (.stopped r)
  /-- The scan has stopped right behind a number. -/
  | read {text rest : List UInt8} {b : UInt8} {r : Result} (h : IsText text r.values)
      (hb : isDigit b = false) : Seen n (text ++ b :: rest) (.stopped r)

section

variable {n : ℕ}

/-- A scan that still runs lacks a number; one that has stopped has at most `n`, and returns
how many. -/
def Counted (n : ℕ) : State → Prop
  | .running values _ => values.length < n
  | .stopped r => r.values.length ≤ n ∧
      (r.returned = r.values.length ∨ r.returned = -1 ∧ r.values = [])

theorem counted_mismatch {values : List ℤ} (h : values.length ≤ n) :
    Counted n (mismatch values) := ⟨h, .inl rfl⟩

theorem counted_step {s : State} (h : Counted n s) (b : UInt8) : Counted n (step n s b) := by
  cases s with
  | stopped r => exact h
  | running values phase =>
      have hlt : values.length < n := h
      cases phase with
      | blank =>
          simp only [step]
          split_ifs with hspace hplus hminus hdigit heof
          · exact hlt
          · exact hlt
          · exact hlt
          · exact hlt
          · exact ⟨Nat.zero_le n, .inr ⟨rfl, rfl⟩⟩
          · exact counted_mismatch hlt.le
      | sign negative =>
          simp only [step]
          split_ifs with hdigit
          · exact hlt
          · exact counted_mismatch hlt.le
      | digits negative value =>
          have hlength : (values ++ [number negative value]).length = values.length + 1 := by
            rw [List.length_append, List.length_singleton]
          simp only [step]
          split_ifs with hdigit hcomma
          · exact hlt
          · show (values ++ [number negative value]).length < n
            rw [hlength]
            exact hcomma.1
          · refine counted_mismatch ?_
            rw [hlength]
            exact hlt

theorem counted_scan (hn : 0 < n) (bytes : List UInt8) : Counted n (scan n bytes) := by
  induction bytes using List.reverseRecOn with
  | nil => exact hn
  | append_singleton bytes b ih =>
      rw [scan_append_singleton]
      exact counted_step ih b

/-- What a scan of `n` numbers returns and assigns. -/
theorem counted_of_scan (hn : 0 < n) {bytes : List UInt8} {r : Result}
    (h : scan n bytes = .stopped r) : r.values.length ≤ n ∧
      (r.returned = r.values.length ∨ r.returned = -1 ∧ r.values = []) := by
  have hcounted := counted_scan hn bytes
  rw [h] at hcounted
  exact hcounted

/-- One more byte. -/
theorem seen_step {bytes : List UInt8} {s : State} (h : Seen n bytes s) (hcounted : Counted n s)
    (b : UInt8) : Seen n (bytes ++ [b]) (step n s b) := by
  have hfails : ∀ {bytes : List UInt8} {values : List ℤ}, values.length < n →
      Seen n bytes (mismatch values) := fun hlt => .failed hlt
  have hone : digitsValue [b] = digit b := by simp [digitsValue]
  have hall : ∀ {p : UInt8 → Bool} {l : List UInt8}, (∀ b ∈ l, p b = true) → p b = true →
      ∀ c ∈ l ++ [b], p c = true := by
    intro p l hl hb c hc
    rcases List.mem_append.1 hc with hc | hc
    · exact hl c hc
    · rw [List.mem_singleton.1 hc]
      exact hb
  cases h with
  | @blank head blanks values hhead hblanks =>
      have hlt : values.length < n := hcounted
      simp only [step]
      split_ifs with hspace hplus hminus hdigit heof
      · rw [List.append_assoc]
        exact .blank hhead (hall hblanks hspace)
      · rw [hplus, List.append_assoc]
        exact .sign hhead hblanks .plus
      · rw [hminus, List.append_assoc]
        exact .sign hhead hblanks .minus
      · rw [← hone, List.append_assoc, ← List.append_nil blanks]
        exact .digits hhead hblanks .none (List.cons_ne_nil _ _) (by simpa using hdigit)
      · rw [heof.2] at hlt
        exact .failed hlt
      · exact hfails hlt
  | @sign head blanks sign values negative hhead hblanks hsign =>
      have hlt : values.length < n := hcounted
      simp only [step]
      split_ifs with hdigit
      · rw [← hone, List.append_assoc]
        exact .digits hhead hblanks hsign (List.cons_ne_nil _ _) (by simpa using hdigit)
      · exact hfails hlt
  | @digits head blanks sign ds values negative hhead hblanks hsign hne hds =>
      have htext := hhead.append (.intro hblanks hsign hne hds)
      simp only [step]
      split_ifs with hdigit hcomma
      · have hvalue : 10 * digitsValue ds + digit b = digitsValue (ds ++ [b]) := by
          simp [digitsValue]
        rw [hvalue, List.append_assoc, List.append_assoc]
        exact .digits hhead hblanks hsign (by simp) (hall hds hdigit)
      · rw [hcomma.2, ← List.append_nil (_ ++ [comma])]
        exact .blank (.text htext) (by simp)
      · exact .read htext (Bool.eq_false_iff.2 hdigit)
  | failed h => exact .failed h
  | @read text rest b' r h hb =>
      rw [List.append_assoc, List.cons_append]
      exact .read h hb

theorem seen_scan (hn : 0 < n) (bytes : List UInt8) : Seen n bytes (scan n bytes) := by
  induction bytes using List.reverseRecOn with
  | nil => exact .blank .nil (by simp)
  | append_singleton bytes b ih =>
      rw [scan_append_singleton]
      exact seen_step ih (counted_scan hn bytes) b

/-- A scan that has all its numbers has read them from the text at the beginning, which
something else than a digit follows. -/
theorem isText_of_scan (hn : 0 < n) {bytes : List UInt8} {r : Result}
    (h : scan n bytes = .stopped r) (hall : n ≤ r.values.length) :
    ∃ text b rest, bytes = text ++ b :: rest ∧ IsText text r.values ∧ isDigit b = false := by
  have hseen := seen_scan hn bytes
  rw [h] at hseen
  cases hseen with
  | failed hlt => exact absurd hall (not_le.2 hlt)
  | @read text rest b _ htext hb => exact ⟨text, b, rest, rfl, htext, hb⟩

end

/-! ## Open texts

The bytes at whose end a scan still runs, without the automaton.
-/

/-- Numbers with a comma behind each, fewer than `n`, and then the beginning of one more:
perhaps nothing of it yet, perhaps all of it. -/
inductive IsOpen (n : ℕ) : List UInt8 → Prop
  | intro {head blanks sign ds : List UInt8} {values : List ℤ} {negative : Bool}
      (hhead : IsHead head values) (hfew : values.length < n)
      (hblanks : ∀ b ∈ blanks, isSpace b = true) (hsign : IsSign sign negative)
      (hds : ∀ b ∈ ds, isDigit b = true) : IsOpen n (head ++ (blanks ++ sign ++ ds))

section

variable {n : ℕ} {values : List ℤ}

theorem foldl_blanks {blanks : List UInt8} (h : ∀ b ∈ blanks, isSpace b = true) :
    blanks.foldl (step n) (.running values .blank) = .running values .blank := by
  induction blanks with
  | nil => rfl
  | cons b blanks ih =>
      have hb : step n (.running values .blank) b = .running values .blank :=
        if_pos (h b List.mem_cons_self)
      rw [List.foldl_cons, hb]
      exact ih fun c hc => h c (List.mem_cons_of_mem _ hc)

theorem foldl_digits (negative : Bool) {ds : List UInt8} (h : ∀ b ∈ ds, isDigit b = true)
    (value : ℕ) : ds.foldl (step n) (.running values (.digits negative value)) =
      .running values (.digits negative
        (ds.foldl (fun value b => 10 * value + digit b) value)) := by
  induction ds generalizing value with
  | nil => rfl
  | cons b ds ih =>
      have hb : step n (.running values (.digits negative value)) b =
          .running values (.digits negative (10 * value + digit b)) :=
        if_pos (h b List.mem_cons_self)
      rw [List.foldl_cons, List.foldl_cons, hb]
      exact ih (fun c hc => h c (List.mem_cons_of_mem _ hc)) _

/-- The first digit, behind a sign or without one. -/
theorem foldl_sign_digit {sign : List UInt8} {negative : Bool} (h : IsSign sign negative)
    {b : UInt8} (hb : isDigit b = true) :
    step n (sign.foldl (step n) (.running values .blank)) b =
      .running values (.digits negative (digit b)) := by
  cases h with
  | none =>
      obtain ⟨hspace, hplus, hminus⟩ := of_isDigit hb
      simp [step, hspace, hplus, hminus, hb]
  | plus => exact if_pos hb
  | minus => exact if_pos hb

/-- A whole numeral. -/
theorem foldl_numeral {numeral : List UInt8} {z : ℤ} (h : IsNumeral numeral z) :
    ∃ negative value, number negative value = z ∧
      numeral.foldl (step n) (.running values .blank) =
        .running values (.digits negative value) := by
  cases h with
  | @intro blanks sign ds negative hblanks hsign hne hds =>
      obtain ⟨b, ds, rfl⟩ := List.exists_cons_of_ne_nil hne
      refine ⟨negative, _, rfl, ?_⟩
      rw [List.foldl_append, List.foldl_append, foldl_blanks hblanks, List.foldl_cons,
        foldl_sign_digit hsign (hds b List.mem_cons_self),
        foldl_digits negative fun c hc => hds c (List.mem_cons_of_mem _ hc)]
      simp [digitsValue]

/-- The comma behind a number that is not the last one. -/
theorem step_comma {negative : Bool} {value : ℕ} (h : values.length + 1 < n) :
    step n (.running values (.digits negative value)) comma =
      .running (values ++ [number negative value]) .blank := by
  have hdigit : ¬ isDigit comma = true := by decide
  simp only [step]
  rw [if_neg hdigit, if_pos ⟨h, trivial⟩]

/-- At the end of a text the scan is in its last number. -/
theorem scan_text {text : List UInt8} (h : IsText text values) (hle : values.length ≤ n) :
    ∃ earlier negative value, values = earlier ++ [number negative value] ∧
      scan n text = .running earlier (.digits negative value) := by
  induction h with
  | one h =>
      obtain ⟨negative, value, rfl, hfold⟩ := foldl_numeral h
      exact ⟨[], negative, value, rfl, hfold⟩
  | @more bytes numeral values z _ hz ih =>
      rw [List.length_append, List.length_singleton] at hle
      obtain ⟨earlier, negative, value, rfl, hscan⟩ := ih (by omega)
      rw [List.length_append, List.length_singleton] at hle
      obtain ⟨negative', value', rfl, hfold⟩ := foldl_numeral hz
      refine ⟨_, negative', value', rfl, ?_⟩
      rw [scan_append, List.foldl_cons, hscan, step_comma (by omega), hfold]

theorem scan_head {head : List UInt8} (h : IsHead head values) (hlt : values.length < n) :
    scan n head = .running values .blank := by
  cases h with
  | nil => rfl
  | text h =>
      obtain ⟨earlier, negative, value, rfl, hscan⟩ := scan_text h hlt.le
      rw [List.length_append, List.length_singleton] at hlt
      rw [scan_append_singleton, hscan, step_comma hlt]

theorem running_of_isOpen {bytes : List UInt8} (h : IsOpen n bytes) :
    ∃ values phase, scan n bytes = .running values phase := by
  cases h with
  | @intro head blanks sign ds values negative hhead hfew hblanks hsign hds =>
      have hphase : ∃ phase, scan n (head ++ (blanks ++ sign)) = .running values phase := by
        rw [scan_append, List.foldl_append, scan_head hhead hfew, foldl_blanks hblanks]
        cases hsign with
        | none => exact ⟨_, rfl⟩
        | plus => exact ⟨_, rfl⟩
        | minus => exact ⟨_, rfl⟩
      obtain ⟨phase, hscan⟩ := hphase
      obtain ⟨phase', hscan'⟩ := scan_append_digits hscan hds
      exact ⟨values, phase', by rw [← List.append_assoc, hscan']⟩

theorem isOpen_of_running (hn : 0 < n) {bytes : List UInt8} {phase : Phase}
    (h : scan n bytes = .running values phase) : IsOpen n bytes := by
  have hseen := seen_scan hn bytes
  have hfew : Counted n (scan n bytes) := counted_scan hn bytes
  rw [h] at hseen hfew
  cases hseen with
  | @blank head blanks _ hhead hblanks =>
      rw [← List.append_nil blanks, ← List.append_nil (blanks ++ [])]
      exact .intro hhead hfew hblanks .none (by simp)
  | @sign head blanks sign _ negative hhead hblanks hsign =>
      rw [← List.append_nil (blanks ++ sign)]
      exact .intro hhead hfew hblanks hsign (by simp)
  | digits hhead hblanks hsign _ hds => exact .intro hhead hfew hblanks hsign hds

/-- A scan has stopped exactly if the bytes are no open text. -/
theorem isStopped_iff (hn : 0 < n) (bytes : List UInt8) :
    (scan n bytes).isStopped = true ↔ ¬ IsOpen n bytes := by
  cases hscan : scan n bytes with
  | running values phase =>
      exact iff_of_false Bool.false_ne_true (not_not_intro (isOpen_of_running hn hscan))
  | stopped r =>
      refine iff_of_true rfl fun hopen => ?_
      obtain ⟨values, phase, hrunning⟩ := running_of_isOpen hopen
      rw [hscan] at hrunning
      cases hrunning

end

end Scanf
