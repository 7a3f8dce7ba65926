/-
# The properties of the fingerprint sensor (`Fingerprint.cpp`, `fingerprint.sysprop`)

The service learns from three vendor properties what the sensor is: the constructor reads its
type and how many fingers a user may enroll, `getSensorProps` reads where on the display it
is, written as `<x>|<y>|<radius>|display`.  `Split` and `ParseInt` of the base library take
that apart and read the numbers; here they are parameters, and a field of which `ParseInt`
makes nothing keeps its zero.

`getSensorProps_properties_iff` : what is written for a sensor in these properties is read
back as it was, exactly if the name of its display is written and has no bar in it, or if it
has no name; with a bar in the name the sensor is at the default location, whatever the
numbers say.
-/
import Mathlib

namespace Fingerprint

/-- `FingerprintSensorType`. -/
inductive FingerprintSensorType
  | unknown
  | rear
  | underDisplayUltrasonic
  | underDisplayOptical
  | powerButton
  | homeButton
  deriving DecidableEq, Repr

/-- `common::SensorStrength`. -/
inductive SensorStrength
  | convenience
  | weak
  | strong
  deriving DecidableEq, Repr

/-- `common::ComponentInfo`. -/
structure ComponentInfo where
  componentId : String
  hardwareVersion : String
  firmwareVersion : String
  serialNumber : String
  softwareVersion : String
  deriving DecidableEq, Repr

/-- `common::CommonProps`. -/
structure CommonProps where
  sensorId : Int32
  sensorStrength : SensorStrength
  maxEnrollmentsPerUser : Int32
  componentInfo : List ComponentInfo
  deriving DecidableEq, Repr

/-- `SensorLocation`, with the values of a new one. -/
structure SensorLocation where
  sensorLocationX : Int32 := 0
  sensorLocationY : Int32 := 0
  sensorRadius : Int32 := 0
  display : List Char := []
  deriving DecidableEq, Repr

/-- `SensorProps`. -/
structure SensorProps where
  commonProps : CommonProps
  sensorType : FingerprintSensorType
  sensorLocations : List SensorLocation
  supportsNavigationGestures : Bool
  supportsDetectInteraction : Bool
  halHandlesDisplayTouches : Bool
  halControlsIllumination : Bool
  /-- The only value that the HAL has for them is `std::nullopt`. -/
  touchDetectionParameters : Option Unit
  deriving DecidableEq, Repr

/-- `FingerprintHalProperties`: the properties, where they are set. -/
structure FingerprintHalProperties where
  type : Option (List Char)
  max_enrollments_per_user : Option Int32
  sensor_location : Option (List Char)
  deriving DecidableEq, Repr

/-- `MAX_ENROLLMENTS_PER_USER`. -/
def maxEnrollmentsPerUser : Int32 := 4

/-- The chain of comparisons in the constructor. -/
def sensorTypeOf (sensorTypeProp : List Char) : FingerprintSensorType :=
  if sensorTypeProp = [] ∨ sensorTypeProp = "default".toList ∨ sensorTypeProp = "rear".toList then
    .rear
  else if sensorTypeProp = "udfps".toList then .underDisplayUltrasonic
  else if sensorTypeProp = "udfps_optical".toList then .underDisplayOptical
  else if sensorTypeProp = "side".toList then .powerButton
  else if sensorTypeProp = "home".toList then .homeButton
  else .unknown

/-- The members of `Fingerprint` that describe the sensor. -/
structure SensorMembers where
  mSensorType : FingerprintSensorType
  mMaxEnrollmentsPerUser : Int32
  deriving DecidableEq, Repr

/-- `Fingerprint::Fingerprint`, as far as it reads the properties. -/
def SensorMembers.create (p : FingerprintHalProperties) : SensorMembers where
  mSensorType := sensorTypeOf (p.type.getD [])
  mMaxEnrollmentsPerUser := p.max_enrollments_per_user.getD maxEnrollmentsPerUser

section Parse

/-- What the base library says of `Split`, for one delimiter: the parts are those between
the delimiters, so that no part has one, and joined by it they are the text again. -/
structure Splits (split : List Char → List Char → List (List Char)) : Prop where
  ne_nil (text : List Char) (delimiter : Char) : split text [delimiter] ≠ []
  join (text : List Char) (delimiter : Char) :
    [delimiter].intercalate (split text [delimiter]) = text
  not_mem (text : List Char) (delimiter : Char) :
    ∀ part ∈ split text [delimiter], delimiter ∉ part

/-- There is one way to split. -/
theorem Splits.eq_splitOn {split : List Char → List Char → List (List Char)}
    (hsplit : Splits split) (text : List Char) (delimiter : Char) :
    split text [delimiter] = text.splitOn delimiter := by
  have hparts := List.splitOn_intercalate delimiter (hsplit.not_mem text delimiter)
    (hsplit.ne_nil text delimiter)
  rw [hsplit.join] at hparts
  exact hparts.symm

variable (split : List Char → List Char → List (List Char))
  (parseInt : List Char → Option Int32)

/-- What `getSensorProps` makes of the location property: the parts between the bars, if
there are three or four. -/
def sensorLocationOf (loc : List Char) : SensorLocation :=
  match split loc ['|'] with
  | [x, y, radius] => ⟨(parseInt x).getD 0, (parseInt y).getD 0, (parseInt radius).getD 0, []⟩
  | [x, y, radius, display] =>
      ⟨(parseInt x).getD 0, (parseInt y).getD 0, (parseInt radius).getD 0, display⟩
  | _ => {}

/-- `componentInfo`. -/
def componentInfo : List ComponentInfo :=
  [⟨"fingerprintSensor", "vendor/model/revision", "1.01", "00000001", ""⟩,
    ⟨"matchingAlgorithm", "", "", "", "vendor/version/revision"⟩]

/-- `Fingerprint::getSensorProps`. -/
def SensorMembers.getSensorProps (s : SensorMembers) (p : FingerprintHalProperties) :
    List SensorProps :=
  [{  commonProps := ⟨0, .strong, s.mMaxEnrollmentsPerUser, componentInfo⟩
      sensorType := s.mSensorType
      sensorLocations := [sensorLocationOf split parseInt (p.sensor_location.getD [])]
      supportsNavigationGestures := false
      supportsDetectInteraction := false
      halHandlesDisplayTouches := false
      halControlsIllumination := false
      touchDetectionParameters := none }]

/-! ## Writing the properties -/

/-- The decimal digits of a number, with its sign. -/
def decimal (n : Int32) : List Char := n.toInt.repr.toList

/-- The location as the property is documented, `<x>|<y>|<radius>|display`, or without the
display. -/
def SensorLocation.text (l : SensorLocation) (named : Bool) : List Char :=
  decimal l.sensorLocationX ++ '|' :: (decimal l.sensorLocationY ++ '|' ::
    (decimal l.sensorRadius ++ if named then '|' :: l.display else []))

/-- The name of a type. -/
def FingerprintSensorType.text : FingerprintSensorType → List Char
  | .unknown => "unknown".toList
  | .rear => "rear".toList
  | .underDisplayUltrasonic => "udfps".toList
  | .underDisplayOptical => "udfps_optical".toList
  | .powerButton => "side".toList
  | .homeButton => "home".toList

/-- A sensor, as the maker of a device knows it. -/
structure SensorDescription where
  type : FingerprintSensorType
  maxEnrollments : Int32
  location : SensorLocation
  deriving DecidableEq, Repr

/-- What the maker writes into the vendor properties, with the display's name or without. -/
def SensorDescription.properties (d : SensorDescription) (named : Bool) :
    FingerprintHalProperties where
  type := some d.type.text
  max_enrollments_per_user := some d.maxEnrollments
  sensor_location := some (d.location.text named)

/-- What the framework is to learn of the sensor. -/
def SensorDescription.props (d : SensorDescription) : List SensorProps :=
  [{  commonProps := ⟨0, .strong, d.maxEnrollments, componentInfo⟩
      sensorType := d.type
      sensorLocations := [d.location]
      supportsNavigationGestures := false
      supportsDetectInteraction := false
      halHandlesDisplayTouches := false
      halControlsIllumination := false
      touchDetectionParameters := none }]

/-- Every type is read back from its name. -/
theorem sensorTypeOf_text (t : FingerprintSensorType) : sensorTypeOf t.text = t := by
  cases t <;> decide

/-- A number is written without a bar. -/
theorem bar_not_mem_decimal (n : Int32) : '|' ∉ decimal n := by
  have hdigits : ∀ m : ℕ, '|' ∉ m.repr.toList := by
    intro m hmem
    have hdigit : ('|').isDigit = true := by
      rw [Nat.toList_repr] at hmem
      exact Nat.isDigit_of_mem_toDigits (b := 10) (by decide) (by decide) hmem
    exact absurd hdigit (by decide)
  unfold decimal
  rw [Int.repr_eq_if]
  split
  · exact hdigits _
  · intro hmem
    rw [String.toList_append, List.mem_append] at hmem
    rcases hmem with hminus | hmem
    · exact absurd hminus (by decide)
    · exact hdigits _ hmem

/-- The parts of a written location: the numbers, and those of the name. -/
theorem splitOn_text (l : SensorLocation) (named : Bool) :
    (l.text named).splitOn '|' = decimal l.sensorLocationX :: decimal l.sensorLocationY ::
      decimal l.sensorRadius :: if named then l.display.splitOn '|' else [] := by
  unfold SensorLocation.text
  rw [List.splitOn_append_cons_self_of_not_mem (bar_not_mem_decimal _),
    List.splitOn_append_cons_self_of_not_mem (bar_not_mem_decimal _)]
  cases named with
  | false =>
      show _ :: _ :: (decimal l.sensorRadius ++ []).splitOn '|' = _
      rw [List.append_nil, List.splitOn_eq_singleton (bar_not_mem_decimal _)]
      rfl
  | true =>
      show _ :: _ :: (decimal l.sensorRadius ++ '|' :: l.display).splitOn '|' = _
      rw [List.splitOn_append_cons_self_of_not_mem (bar_not_mem_decimal _)]
      rfl

end Parse

/-! ## Reading them -/

/-- A name with a bar in it has two parts at least. -/
theorem exists_parts_of_bar_mem {name : List Char} (hbar : '|' ∈ name) :
    ∃ p q rest, name.splitOn '|' = p :: q :: rest := by
  obtain ⟨before, after, rfl⟩ := List.append_of_mem hbar
  obtain ⟨p, ps, hbefore⟩ := List.exists_cons_of_ne_nil (List.splitOn_ne_nil '|' before)
  obtain ⟨q, qs, hafter⟩ := List.exists_cons_of_ne_nil (List.splitOn_ne_nil '|' after)
  rw [List.splitOn_append_cons_self, hbefore, hafter]
  cases ps with
  | nil => exact ⟨p, q, qs, rfl⟩
  | cons p' ps => exact ⟨p, p', ps ++ q :: qs, rfl⟩

/-- What is written of a location, with the display's name or without, tells it. -/
def SensorLocation.Writes (l : SensorLocation) (named : Bool) : Prop :=
  if named then '|' ∉ l.display else l.display = []

section Reading

variable {split : List Char → List Char → List (List Char)} {parseInt : List Char → Option Int32}

/-- With a bar in the name there are too many parts: the location is the default one. -/
theorem sensorLocationOf_text_of_bar_mem (hsplit : Splits split) (l : SensorLocation)
    (hbar : '|' ∈ l.display) : sensorLocationOf split parseInt (l.text true) = {} := by
  obtain ⟨p, q, rest, hname⟩ := exists_parts_of_bar_mem hbar
  have hparts := splitOn_text l true
  rw [if_pos rfl, hname] at hparts
  unfold sensorLocationOf
  rw [hsplit.eq_splitOn, hparts]

/-- A location is read back if what is written tells it; if not, the name is lost. -/
theorem sensorLocationOf_text_eq_iff (hsplit : Splits split)
    (hparse : ∀ n, parseInt (decimal n) = some n) (l : SensorLocation) (named : Bool) :
    sensorLocationOf split parseInt (l.text named) = l ↔ l.Writes named := by
  unfold SensorLocation.Writes
  cases named with
  | false =>
      have hparts := splitOn_text l false
      unfold sensorLocationOf
      rw [hsplit.eq_splitOn, hparts]
      simp only [hparse, Option.getD_some, Bool.false_eq_true, if_false]
      constructor
      · intro heq
        rw [← heq]
      · intro hname
        rw [← hname]
  | true =>
      rw [if_pos rfl]
      constructor
      · intro heq hbar
        -- the default location has no name
        rw [sensorLocationOf_text_of_bar_mem hsplit l hbar] at heq
        rw [← heq] at hbar
        exact absurd hbar List.not_mem_nil
      · intro hbar
        have hparts := splitOn_text l true
        rw [if_pos rfl, List.splitOn_eq_singleton hbar] at hparts
        unfold sensorLocationOf
        rw [hsplit.eq_splitOn, hparts]
        simp only [hparse, Option.getD_some]

/-- Type and number are read back; the location is what `sensorLocationOf` makes of it. -/
theorem getSensorProps_properties (d : SensorDescription) (named : Bool) :
    (SensorMembers.create (d.properties named)).getSensorProps split parseInt
      (d.properties named) =
        { d with location := sensorLocationOf split parseInt (d.location.text named) }.props := by
  show [_] = [_]
  rw [show (SensorMembers.create (d.properties named)).mSensorType = d.type from
    sensorTypeOf_text d.type]
  rfl

/-- **The properties are read back.**  The HAL tells the framework of the sensor what its
properties were written from, exactly if the location property tells it: if the display's name
is written and has no bar in it, or if there is none.  A written name with a bar loses the
whole location: what the framework is told is the default one. -/
theorem getSensorProps_properties_iff (hsplit : Splits split)
    (hparse : ∀ n, parseInt (decimal n) = some n) (d : SensorDescription) (named : Bool) :
    ((SensorMembers.create (d.properties named)).getSensorProps split parseInt
        (d.properties named) = d.props ↔ d.location.Writes named) ∧
      (named = true → '|' ∈ d.location.display →
        (SensorMembers.create (d.properties named)).getSensorProps split parseInt
          (d.properties named) = { d with location := {} }.props) := by
  rw [getSensorProps_properties]
  refine ⟨?_, ?_⟩
  · rw [← sensorLocationOf_text_eq_iff hsplit hparse]
    constructor
    · intro heq
      simpa [SensorDescription.props] using heq
    · intro hlocation
      rw [hlocation]
  · rintro rfl hbar
    rw [sensorLocationOf_text_of_bar_mem hsplit _ hbar]

end Reading

/-- `Split` for one delimiter. -/
def splitAtChar (text delimiters : List Char) : List (List Char) :=
  text.splitOn (delimiters.headD '|')

/-- No part of a split has the delimiter in it. -/
theorem not_mem_of_mem_splitOn {delimiter : Char} {text part : List Char}
    (hpart : part ∈ text.splitOn delimiter) : delimiter ∉ part := by
  induction text generalizing part with
  | nil =>
      rw [List.splitOn_nil, List.mem_singleton] at hpart
      rw [hpart]
      exact List.not_mem_nil
  | cons c text ih =>
      rw [List.splitOn_cons_eq_if_modifyHead] at hpart
      split at hpart
      · rcases List.mem_cons.1 hpart with rfl | hpart
        · exact List.not_mem_nil
        · exact ih hpart
      · rename_i hne
        obtain ⟨p, ps, hparts⟩ := List.exists_cons_of_ne_nil (List.splitOn_ne_nil delimiter text)
        rw [hparts] at ih hpart
        rcases List.mem_cons.1 hpart with rfl | hpart
        · intro hmem
          rcases List.mem_cons.1 hmem with rfl | hmem
          · exact hne (beq_self_eq_true _)
          · exact ih List.mem_cons_self hmem
        · exact ih (List.mem_cons_of_mem _ hpart)

theorem splits_splitAtChar : Splits splitAtChar where
  ne_nil text delimiter := List.splitOn_ne_nil delimiter text
  join _ delimiter := List.intercalate_splitOn delimiter
  not_mem _ _ := fun _ hpart => not_mem_of_mem_splitOn hpart

/-- `ParseInt` on decimal numbers. -/
def parseDecimal (text : List Char) : Option Int32 :=
  (String.ofList text).toInt?.bind fun z =>
    if Int32.minValue.toInt ≤ z ∧ z ≤ Int32.maxValue.toInt then some (Int32.ofInt z) else none

theorem parseDecimal_decimal (n : Int32) : parseDecimal (decimal n) = some n := by
  unfold parseDecimal decimal
  rw [String.ofList_toList, Int.toInt?_repr, Option.bind_some,
    if_pos ⟨n.minValue_le_toInt, n.toInt_le⟩, Int32.ofInt_toInt]

/-- The sensor under the display of this phone, `540|2186|93`, and one whose display has a
bar in its name. -/
theorem getSensorProps_properties_iff_udfps :
    (SensorMembers.create ((SensorDescription.mk .underDisplayOptical 4
        ⟨540, 2186, 93, []⟩).properties false)).getSensorProps splitAtChar parseDecimal
          ((SensorDescription.mk .underDisplayOptical 4 ⟨540, 2186, 93, []⟩).properties false) =
      (SensorDescription.mk .underDisplayOptical 4 ⟨540, 2186, 93, []⟩).props ∧
    (SensorMembers.create ((SensorDescription.mk .rear 4
        ⟨540, 2186, 93, ['|']⟩).properties true)).getSensorProps splitAtChar parseDecimal
          ((SensorDescription.mk .rear 4 ⟨540, 2186, 93, ['|']⟩).properties true) =
      (SensorDescription.mk .rear 4 {}).props :=
  ⟨(getSensorProps_properties_iff splits_splitAtChar parseDecimal_decimal _ false).1.2 rfl,
    (getSensorProps_properties_iff splits_splitAtChar parseDecimal_decimal _ true).2 rfl
      (by decide)⟩

end Fingerprint
