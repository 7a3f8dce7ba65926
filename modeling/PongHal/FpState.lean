/-
# What `readFpState` depends on (`Sensor.cpp`)

`readFpState` reads the node `fp_state` into a local buffer of 512 bytes and scans it with
`sscanf`.  It does not terminate what it has read: behind it the scan goes on in what the
stack has left in the buffer, and behind the buffer, where the behaviour is undefined, if
nothing in it stops the scan.

`fp_state_of_text_iff`: the answer depends on the text alone exactly if the text does not
leave the scan open at its end.  A newline behind the third number is enough; without it
the third number can get more digits.
-/
import PongHal.PollSensor
import PongHal.ScanInts

namespace Sensors

/-- The size of the buffer. -/
def fpBufferSize : ℕ := 512

/-- What `read` takes from a node with this content. -/
def fpRead (content : List UInt8) : List UInt8 := content.take fpBufferSize

/-- The buffer after the read: what was in it before is left behind the bytes read. -/
def fpBuffer (bytes old : List UInt8) : List UInt8 := bytes ++ old.drop bytes.length

/-- The read of `count` bytes, as `readFpState` meets it.  `toInt` is the
conversion of a number into an `int`, for numbers out of range too. -/
def fpNodeRead (toInt : ℤ → Int32) (count : ℕ) (r : Scanf.Result) : NodeRead where
  seek := 0
  count := count
  -- only `readBool` looks at the first character
  c := '0'
  scanned := r.returned
  screenX := toInt (r.values.getD 0 0)
  screenY := toInt (r.values.getD 1 0)
  state := toInt (r.values.getD 2 0)

/-- `readFpState` on the content of the node and on what was in the buffer before; `none`
if `sscanf` leaves the buffer. -/
def readFpStateBytes (toInt : ℤ → Int32) (content old : List UInt8) (screen : Int32 × Int32) :
    Option (Bool × Int32 × Int32) :=
  (Scanf.scan 3 (fpBuffer (fpRead content) old)).result.map fun r =>
    readFpState (fpNodeRead toInt (fpRead content).length r) screen

/-- The text at the beginning of the content is of the form `x,y,state`, and what follows
it is no digit. -/
def HasFpText (content : List UInt8) (x y state : ℤ) : Prop :=
  ∃ text b rest, content = text ++ b :: rest ∧ Scanf.IsText text [x, y, state] ∧
    Scanf.isDigit b = false

/-- Whatever was in the buffer before, the answer is the same, and if it says that there
is a finger, the coordinates are those of the text. -/
def OfTextAlone (toInt : ℤ → Int32) (content : List UInt8) : Prop :=
  ∀ old₁ old₂ : List UInt8, old₁.length = fpBufferSize → old₂.length = fpBufferSize →
    ∀ screen, ∃ o₁ o₂, readFpStateBytes toInt content old₁ screen = some o₁ ∧
      readFpStateBytes toInt content old₂ screen = some o₂ ∧ o₁.1 = o₂.1 ∧
      (o₁.1 = true → o₁.2 = o₂.2 ∧
        ∃ x y state, HasFpText content x y state ∧ o₁.2 = (toInt x, toInt y))

section

variable {toInt : ℤ → Int32} {content : List UInt8}

/-- A finger is reported only if all three numbers were read. -/
theorem three_of_pressed {count : ℕ} {r : Scanf.Result} {screen : Int32 × Int32}
    (h : (readFpState (fpNodeRead toInt count r) screen).1 = true) : 3 ≤ r.returned := by
  by_contra hfew
  unfold readFpState fpNodeRead at h
  simp only at h
  rw [if_neg (by simp), if_neg (by simp), if_neg (show ¬ r.returned ≥ 3 from hfew)] at h
  split at h
  · simp at h
  · simp at h

theorem screen_of_three {count : ℕ} {r : Scanf.Result} {screen : Int32 × Int32}
    (h : 3 ≤ r.returned) : (readFpState (fpNodeRead toInt count r) screen).2 =
      (toInt (r.values.getD 0 0), toInt (r.values.getD 1 0)) := by
  unfold readFpState fpNodeRead
  simp only
  rw [if_neg (by simp), if_neg (by simp), if_neg (by omega)]
  show (if r.returned ≥ 1 then _ else screen.1, if r.returned ≥ 2 then _ else screen.2) = _
  rw [if_pos (by omega), if_pos (by omega)]

/-- The call returns three exactly with three numbers. -/
theorem values_of_three {bytes : List UInt8} {r : Scanf.Result}
    (h : Scanf.scan 3 bytes = .stopped r) (hthree : 3 ≤ r.returned) :
    ∃ x y state, r.values = [x, y, state] := by
  obtain ⟨hle, hreturned⟩ := Scanf.counted_of_scan three_pos h
  refine List.length_eq_three.1 (le_antisymm hle ?_)
  rcases hreturned with hlength | ⟨heof, -⟩
  · omega
  · omega

/-- Three numbers that were read are those of the text. -/
theorem hasFpText_of_three {r : Scanf.Result} (h : Scanf.scan 3 (fpRead content) = .stopped r)
    (hthree : 3 ≤ r.returned) :
    ∃ x y state, HasFpText content x y state ∧ r.values = [x, y, state] := by
  obtain ⟨x, y, state, hvalues⟩ := values_of_three h hthree
  obtain ⟨text, b, rest, hbytes, htext, hb⟩ := Scanf.isText_of_scan three_pos h
    (show 3 ≤ r.values.length by simp [hvalues])
  rw [hvalues] at htext
  refine ⟨x, y, state, ⟨text, b, rest ++ content.drop fpBufferSize, ?_, htext, hb⟩, hvalues⟩
  calc content = fpRead content ++ content.drop fpBufferSize :=
        (List.take_append_drop fpBufferSize content).symm
    _ = text ++ b :: (rest ++ content.drop fpBufferSize) := by
        rw [hbytes, List.append_assoc, List.cons_append]

/-- Where the scan stops inside what was read, what was in the buffer before has no part in
it. -/
theorem readFpStateBytes_of_stopped {r : Scanf.Result}
    (h : Scanf.scan 3 (fpRead content) = .stopped r) (old : List UInt8)
    (screen : Int32 × Int32) : readFpStateBytes toInt content old screen =
      some (readFpState (fpNodeRead toInt (fpRead content).length r) screen) := by
  unfold readFpStateBytes fpBuffer
  rw [Scanf.scan_append_of_stopped h]
  rfl

/-- Where it does not, a buffer that was full of digits takes it out of the buffer. -/
theorem readFpStateBytes_of_running {values : List ℤ} {phase : Scanf.Phase}
    (h : Scanf.scan 3 (fpRead content) = .running values phase) (screen : Int32 × Int32) :
    readFpStateBytes toInt content (List.replicate fpBufferSize 48) screen = none := by
  have hdigits : ∀ b ∈ (List.replicate fpBufferSize (48 : UInt8)).drop (fpRead content).length,
      Scanf.isDigit b = true := by
    intro b hb
    rw [List.eq_of_mem_replicate (List.mem_of_mem_drop hb)]
    decide
  obtain ⟨phase', hrun⟩ := Scanf.scan_append_digits h hdigits
  unfold readFpStateBytes fpBuffer
  rw [hrun]
  rfl

/-- **Exactly when `readFpState` depends on what it has read alone.**  For every content of
the node: the answer is the same whatever was in the buffer, with the numbers of the text
for coordinates, if and only if what was read is not open: not just the beginning of a
text of three numbers, nor such a text with nothing behind its last digit. -/
theorem fp_state_of_text_iff (toInt : ℤ → Int32) (content : List UInt8) :
    OfTextAlone toInt content ↔ ¬ Scanf.IsOpen 3 (fpRead content) := by
  rw [← Scanf.isStopped_iff three_pos]
  cases hscan : Scanf.scan 3 (fpRead content) with
  | running values phase =>
      refine iff_of_false ?_ Bool.false_ne_true
      intro halone
      obtain ⟨o₁, -, h₁, -⟩ := halone (List.replicate fpBufferSize 48)
        (List.replicate fpBufferSize 48) List.length_replicate List.length_replicate (0, 0)
      rw [readFpStateBytes_of_running hscan] at h₁
      cases h₁
  | stopped r =>
      refine iff_of_true ?_ rfl
      intro old₁ old₂ _ _ screen
      refine ⟨_, _, readFpStateBytes_of_stopped hscan old₁ screen,
        readFpStateBytes_of_stopped hscan old₂ screen, rfl, fun hpressed => ⟨rfl, ?_⟩⟩
      have hthree := three_of_pressed hpressed
      obtain ⟨x, y, state, htext, hvalues⟩ := hasFpText_of_three hscan hthree
      refine ⟨x, y, state, htext, ?_⟩
      rw [screen_of_three hthree, hvalues]
      rfl

/-- `12,34,1` with a newline behind it. -/
example : ¬ Scanf.IsOpen 3 (fpRead [49, 50, 44, 51, 52, 44, 49, 10]) :=
  (Scanf.isStopped_iff three_pos _).1 (by decide)

end

/-- The node says `1,2,0`, without a newline: no finger.  With a `5` left behind it the
finger is reported. -/
theorem fp_state_of_left_over_digit : ¬ OfTextAlone Int32.ofInt [49, 44, 50, 44, 48] := by
  have hleft : ∀ (d : UInt8) (tail : List UInt8) (r : Scanf.Result),
      Scanf.scan 3 [49, 44, 50, 44, 48, d, 0] = .stopped r →
      readFpStateBytes Int32.ofInt [49, 44, 50, 44, 48] ([0, 0, 0, 0, 0, d, 0] ++ tail) (0, 0) =
        some (readFpState (fpNodeRead Int32.ofInt 5 r) (0, 0)) := by
    intro d tail r h
    show Option.map _ (Scanf.scan 3 ([49, 44, 50, 44, 48, d, 0] ++ tail)).result = _
    rw [Scanf.scan_append_of_stopped h]
    rfl
  have hlength : ∀ d : UInt8,
      ([0, 0, 0, 0, 0, d, 0] ++ List.replicate 505 0).length = fpBufferSize := by
    intro d
    rw [List.length_append, List.length_replicate]
    rfl
  intro halone
  obtain ⟨o₁, o₂, h₁, h₂, hpressed, -⟩ := halone _ _ (hlength 53) (hlength 0) (0, 0)
  rw [hleft 53 _ ⟨3, [1, 2, 5]⟩ (by decide)] at h₁
  rw [hleft 0 _ ⟨3, [1, 2, 0]⟩ (by decide)] at h₂
  obtain rfl := Option.some.inj h₁
  obtain rfl := Option.some.inj h₂
  revert hpressed
  decide

end Sensors
