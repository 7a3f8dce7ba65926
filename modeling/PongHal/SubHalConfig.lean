/-
# The sub-HALs of the configuration file (`HalProxy.cpp`)

The proxy reads the names of its sub-HALs' libraries from `hals.conf`, with white space in
between.  A library is looked for in three places; one that cannot be opened, that has no
function to get its sub-HAL from, or whose version is another one, is left out, and the
sub-HALs after it move up.

The dynamic linker and the libraries are not part of the repository: `Linker` stands for
them, with what `dlopen` and `dlsym` find.

`exists_isConfig` : every text is the names of some libraries, laid out in some way.
`sensors_of_config` : the framework is given the sensors of the libraries that could be
loaded, and its calls go back to the library that a sensor comes from.
-/
import Mathlib.Data.List.TakeWhile
import PongHal.SensorRouting

namespace Sensors

/-- What `sensorsHalGetSubHal` or `sensorsHalGetSubHal_2_1` of a library stores in `version`
and returns. -/
structure GetSubHal where
  version : UInt32
  subHal : SubHal

/-- An opened library, with what `dlsym` finds in it. -/
structure Library where
  sensorsHalGetSubHal : Option GetSubHal
  sensorsHalGetSubHal_2_1 : Option GetSubHal

/-- The dynamic linker, and the numbers of the two versions. -/
structure Linker where
  dlopen : List Char → Option Library
  lp64 : Bool
  subHal_2_0_version : UInt32
  subHal_2_1_version : UInt32

namespace Linker

variable (linker : Linker)

/-- `kSubHalShareObjectLocations`. -/
def kSubHalShareObjectLocations : List (List Char) :=
  if linker.lp64 then ["".toList, "/vendor/lib64/hw/".toList, "/odm/lib64/hw/".toList]
  else ["".toList, "/vendor/lib/hw/".toList, "/odm/lib/hw/".toList]

/-- `HalProxy::getHandleForSubHalSharedObject`. -/
def getHandleForSubHalSharedObject (filename : List Char) : Option Library :=
  linker.kSubHalShareObjectLocations.findSome? fun dir => linker.dlopen (dir ++ filename)

/-- The sub-HAL that a file name leads to: the function of version 2.1 is only looked for
where that of 2.0 is missing. -/
def subHalOf (subHalLibraryFile : List Char) : Option SubHal :=
  match linker.getHandleForSubHalSharedObject subHalLibraryFile with
  | none => none
  | some handle =>
      match handle.sensorsHalGetSubHal with
      | some get => if get.version ≠ linker.subHal_2_0_version then none else some get.subHal
      | none =>
          match handle.sensorsHalGetSubHal_2_1 with
          | none => none
          | some get => if get.version ≠ linker.subHal_2_1_version then none else some get.subHal

end Linker

/-! ## Reading the file -/

/-- `isspace`, on characters. -/
def isspace (c : Char) : Bool := c = ' ' || (9 ≤ c.toNat && c.toNat ≤ 13)

/-- `subHalConfigStream >> subHalLibraryFile`: white space is skipped, and the string ends
before the next. -/
def extractString (stream : List Char) : Option (List Char × List Char) :=
  let stream := stream.dropWhile isspace
  if stream = [] then none
  else some (stream.takeWhile (!isspace ·), stream.dropWhile (!isspace ·))

/-- A text is white space, or a name with white space before and after it. -/
theorem blank_or_name (text : List Char) :
    (∀ c ∈ text, isspace c = true) ∨
      ∃ blanks name rest, text = blanks ++ (name ++ rest) ∧ (∀ c ∈ blanks, isspace c = true) ∧
        name ≠ [] ∧ (∀ c ∈ name, isspace c = false) ∧ ∀ c ∈ rest.head?, isspace c = true := by
  have hblanks : ∀ c ∈ text.takeWhile isspace, isspace c = true := fun c hc =>
    List.mem_takeWhile_imp hc
  have htext := List.takeWhile_append_dropWhile (p := isspace) (l := text)
  cases hskip : text.dropWhile isspace with
  | nil =>
      left
      rw [hskip, List.append_nil] at htext
      rwa [← htext]
  | cons c cs =>
      right
      have hc : isspace c = false := by
        have hhead := List.head?_dropWhile_not isspace text
        simpa [hskip] using hhead
      rw [hskip] at htext
      refine ⟨_, (c :: cs).takeWhile (!isspace ·), (c :: cs).dropWhile (!isspace ·), ?_, hblanks,
        ?_, ?_, ?_⟩
      · rw [List.takeWhile_append_dropWhile, htext]
      · rw [List.takeWhile_cons_of_pos (by simp [hc])]
        exact List.cons_ne_nil _ _
      · intro d hd
        simpa using List.mem_takeWhile_imp hd
      · intro d hd
        have hhead := List.head?_dropWhile_not (!isspace ·) (c :: cs)
        rw [hd] at hhead
        simpa using hhead

theorem extractString_blank {blanks : List Char} (hblanks : ∀ c ∈ blanks, isspace c = true) :
    extractString blanks = none := by
  unfold extractString
  simp only
  rw [List.dropWhile_eq_nil_iff.2 hblanks, if_pos rfl]

theorem extractString_name {blanks name rest : List Char}
    (hblanks : ∀ c ∈ blanks, isspace c = true) (hne : name ≠ [])
    (hname : ∀ c ∈ name, isspace c = false) (hend : ∀ c ∈ rest.head?, isspace c = true) :
    extractString (blanks ++ (name ++ rest)) = some (name, rest) := by
  have hskip : (blanks ++ (name ++ rest)).dropWhile isspace = name ++ rest := by
    rw [List.dropWhile_append_of_pos hblanks]
    obtain ⟨c, cs, rfl⟩ := List.exists_cons_of_ne_nil hne
    rw [List.cons_append, List.dropWhile_cons_of_neg]
    simpa using hname c List.mem_cons_self
  have hall : ∀ c ∈ name, (!isspace c) = true := by
    intro c hc
    rw [hname c hc]
    rfl
  have hstop : rest.takeWhile (!isspace ·) = [] ∧ rest.dropWhile (!isspace ·) = rest := by
    cases rest with
    | nil => exact ⟨rfl, rfl⟩
    | cons c cs =>
        have hc : isspace c = true := hend c rfl
        exact ⟨List.takeWhile_cons_of_neg (by simp [hc]), List.dropWhile_cons_of_neg (by simp [hc])⟩
  unfold extractString
  simp only
  rw [hskip, if_neg (by simp [hne]), List.takeWhile_append_of_pos hall,
    List.dropWhile_append_of_pos hall, hstop.1, hstop.2, List.append_nil]

/-- A string is taken from the stream. -/
theorem length_lt_of_extractString {stream file rest : List Char}
    (h : extractString stream = some (file, rest)) : rest.length < stream.length := by
  rcases blank_or_name stream with hblank | ⟨blanks, name, rest', rfl, hblanks, hne, hname, hend⟩
  · rw [extractString_blank hblank] at h
    cases h
  · rw [extractString_name hblanks hne hname hend, Option.some.injEq, Prod.mk.injEq] at h
    obtain ⟨-, rfl⟩ := h
    have hlength : 0 < name.length := List.length_pos_of_ne_nil hne
    rw [List.length_append, List.length_append]
    omega

/-- The loop of `HalProxy::initializeSubHalListFromConfigFile`. -/
def initializeSubHalListFrom (linker : Linker) (mSubHalList : List SubHal)
    (subHalConfigStream : List Char) : List SubHal :=
  match _h : extractString subHalConfigStream with
  | none => mSubHalList
  | some (subHalLibraryFile, rest) =>
      match linker.subHalOf subHalLibraryFile with
      | none => initializeSubHalListFrom linker mSubHalList rest
      | some subHal => initializeSubHalListFrom linker (mSubHalList ++ [subHal]) rest
termination_by subHalConfigStream.length
decreasing_by all_goals exact length_lt_of_extractString _h

/-- `HalProxy::initializeSubHalListFromConfigFile`, with the text of the file, if it can be
opened. -/
def initializeSubHalListFromConfigFile (linker : Linker) (config : Option (List Char)) :
    List SubHal :=
  match config with
  | none => []
  | some subHalConfigStream => initializeSubHalListFrom linker [] subHalConfigStream

/-! ## Layouts -/

/-- The text has these names, with white space before, between and after them. -/
inductive IsConfig : List Char → List (List Char) → Prop
  | blank {blanks : List Char} (hblanks : ∀ c ∈ blanks, isspace c = true) : IsConfig blanks []
  | name {blanks name rest : List Char} {names : List (List Char)}
      (hblanks : ∀ c ∈ blanks, isspace c = true) (hne : name ≠ [])
      (hname : ∀ c ∈ name, isspace c = false) (hend : ∀ c ∈ rest.head?, isspace c = true)
      (hrest : IsConfig rest names) : IsConfig (blanks ++ (name ++ rest)) (name :: names)

/-- Every text is the layout of some names. -/
theorem exists_isConfig (text : List Char) : ∃ names, IsConfig text names := by
  induction hlength : text.length using Nat.strong_induction_on generalizing text with
  | _ length ih =>
      rcases blank_or_name text with hblank | ⟨blanks, name, rest, rfl, hblanks, hne, hname, hend⟩
      · exact ⟨[], .blank hblank⟩
      · have hshort : rest.length < length := by
          have hpos : 0 < name.length := List.length_pos_of_ne_nil hne
          rw [List.length_append, List.length_append] at hlength
          omega
        obtain ⟨names, hrest⟩ := ih rest.length hshort rest rfl
        exact ⟨name :: names, .name hblanks hne hname hend hrest⟩

variable {linker : Linker}

/-- The loop appends the sub-HALs of the names that lead to one, in their order. -/
theorem initializeSubHalListFrom_eq {text : List Char} {names : List (List Char)}
    (hconfig : IsConfig text names) (mSubHalList : List SubHal) :
    initializeSubHalListFrom linker mSubHalList text =
      mSubHalList ++ names.filterMap linker.subHalOf := by
  induction hconfig generalizing mSubHalList with
  | blank hblanks =>
      rw [initializeSubHalListFrom]
      split
      · rw [List.filterMap_nil, List.append_nil]
      · rename_i file rest heq
        rw [extractString_blank hblanks] at heq
        cases heq
  | @name blanks name rest names hblanks hne hname hend hrest ih =>
      rw [initializeSubHalListFrom]
      split
      · rename_i heq
        rw [extractString_name hblanks hne hname hend] at heq
        cases heq
      · rename_i file rest' heq
        rw [extractString_name hblanks hne hname hend, Option.some.injEq, Prod.mk.injEq] at heq
        obtain ⟨rfl, rfl⟩ := heq
        split
        · rename_i hload
          rw [ih, List.filterMap_cons_none hload]
        · rename_i subHal hload
          rw [ih, List.filterMap_cons_some hload, List.append_assoc, List.singleton_append]

/-- One of the names leads to this sub-HAL, and so many of those before it to one. -/
def Provides (linker : Linker) (names : List (List Char)) (subHalIndex : ℕ) (subHal : SubHal) :
    Prop :=
  ∃ before name after, names = before ++ name :: after ∧ linker.subHalOf name = some subHal ∧
    (before.filterMap linker.subHalOf).length = subHalIndex

/-- A name more, in front. -/
theorem provides_cons {name : List Char} {names : List (List Char)} {subHalIndex : ℕ}
    {subHal : SubHal} :
    Provides linker (name :: names) subHalIndex subHal ↔
      linker.subHalOf name = some subHal ∧ subHalIndex = 0 ∨
        ∃ index, Provides linker names index subHal ∧
          ([name].filterMap linker.subHalOf).length + index = subHalIndex := by
  constructor
  · rintro ⟨before, name', after, heq, hload, rfl⟩
    rcases List.cons_eq_append_iff.1 heq with ⟨rfl, hhead⟩ | ⟨before, rfl, rfl⟩
    · obtain ⟨rfl, rfl⟩ := List.cons.inj hhead
      exact .inl ⟨hload, rfl⟩
    · refine .inr ⟨_, ⟨before, name', after, rfl, hload, rfl⟩, ?_⟩
      rw [← List.length_append, ← List.filterMap_append, List.singleton_append]
  · rintro (⟨hload, rfl⟩ | ⟨index, ⟨before, name', after, rfl, hload, rfl⟩, rfl⟩)
    · exact ⟨[], name, names, rfl, hload, rfl⟩
    · refine ⟨name :: before, name', after, rfl, hload, ?_⟩
      rw [← List.length_append, ← List.filterMap_append, List.singleton_append]

/-- The sub-HAL at an index of the list. -/
theorem getElem?_filterMap_iff {names : List (List Char)} {subHalIndex : ℕ} {subHal : SubHal} :
    (names.filterMap linker.subHalOf)[subHalIndex]? = some subHal ↔
      Provides linker names subHalIndex subHal := by
  induction names generalizing subHalIndex with
  | nil =>
      constructor
      · intro h
        cases h
      · rintro ⟨before, name, after, heq, -⟩
        simp at heq
  | cons name names ih =>
      rw [provides_cons]
      cases hload : linker.subHalOf name with
      | none =>
          rw [List.filterMap_cons_none hload, ih, List.filterMap_cons_none hload]
          simp
      | some first =>
          rw [List.filterMap_cons_some hload, List.filterMap_cons_some hload]
          cases subHalIndex with
          | zero => simp
          | succ subHalIndex =>
              rw [List.getElem?_cons_succ, ih]
              simp [Nat.add_comm 1]

/-! ## Sensors and calls -/

/-- **From the configuration to the calls.**  However the file is laid out: the sensors that
the framework is given are those with a clear first byte of the libraries that lead to a
sub-HAL, each with the number of such libraries before its own in the first byte, and a call
with such a first byte is passed on to the sub-HAL of that library. -/
theorem sensors_of_config {text : List Char} {names : List (List Char)}
    (hconfig : IsConfig text names) (hsize : (names.filterMap linker.subHalOf).length ≤ 128) :
    (∀ key, key ∈ (initializeSensorList
        (initializeSubHalListFromConfigFile linker (some text))).mSensors ↔
      ∃ subHalIndex subHal, Provides linker names subHalIndex subHal ∧
        ∃ sensor ∈ subHal.sensorsList, subHalIndexIsClear sensor.sensorHandle = true ∧
          key = HalProxy.setSubHalIndex sensor.sensorHandle subHalIndex) ∧
    (∀ subHalIndex subHal, Provides linker names subHalIndex subHal →
      ∀ handle, subHalIndexIsClear handle = true → ∀ request,
        (initializeSubHalListFromConfigFile linker (some text))[subHalIndex]? = some subHal ∧
        callSubHal (initializeSubHalListFromConfigFile linker (some text))
            (HalProxy.setSubHalIndex handle subHalIndex) request =
          .passedTo subHalIndex (request handle)) := by
  have hlist : initializeSubHalListFromConfigFile linker (some text) =
      names.filterMap linker.subHalOf := by
    show initializeSubHalListFrom linker [] text = _
    rw [initializeSubHalListFrom_eq hconfig, List.nil_append]
  rw [hlist]
  constructor
  · intro key
    rw [mem_initializeSensorList]
    constructor
    · rintro ⟨subHalIndex, handle, ⟨hclear, subHal, hat, sensor, hsensor, rfl⟩, rfl⟩
      exact ⟨subHalIndex, subHal, getElem?_filterMap_iff.1 hat, sensor, hsensor, hclear, rfl⟩
    · rintro ⟨subHalIndex, subHal, hprovides, sensor, hsensor, hclear, rfl⟩
      exact ⟨subHalIndex, _,
        ⟨hclear, subHal, getElem?_filterMap_iff.2 hprovides, sensor, hsensor, rfl⟩, rfl⟩
  · intro subHalIndex subHal hprovides handle hclear request
    have hat := getElem?_filterMap_iff.2 hprovides
    refine ⟨hat, ?_⟩
    rw [callSubHal_eq_passedTo_iff hsize]
    exact ⟨(List.getElem?_eq_some_iff.1 hat).1, handle, hclear, rfl, rfl⟩

/-- A phone whose first library of `hals.conf` is missing. -/
def pongLinker : Linker where
  dlopen path :=
    if path = "/vendor/lib64/hw/sensors.nt.pong.so".toList then
      some ⟨none, some ⟨0x02010000, ⟨[{ sensorHandle := 1 }, { sensorHandle := 2 }]⟩⟩⟩
    else none
  lp64 := true
  subHal_2_0_version := 0x02000000
  subHal_2_1_version := 0x02010000

/-- The configuration of this repository: its own sub-HAL moves up. -/
theorem sensors_of_config_pong :
    HalProxy.setSubHalIndex 2 0 ∈ (initializeSensorList (initializeSubHalListFromConfigFile
        pongLinker (some "sensors.ssc.so\nsensors.nt.pong.so\n".toList))).mSensors ∧
      callSubHal (initializeSubHalListFromConfigFile pongLinker
          (some "sensors.ssc.so\nsensors.nt.pong.so\n".toList))
        (HalProxy.setSubHalIndex 2 0) .flush = .passedTo 0 (.flush 2) := by
  have hconfig : IsConfig ([] ++ ("sensors.ssc.so".toList ++
      (['\n'] ++ ("sensors.nt.pong.so".toList ++ ['\n']))))
      ["sensors.ssc.so".toList, "sensors.nt.pong.so".toList] :=
    .name (by simp) (by decide) (by simp [isspace]) (by simp [isspace])
      (.name (by simp [isspace]) (by decide) (by simp [isspace]) (by simp [isspace])
        (.blank (by simp [isspace])))
  have hprovides : Provides pongLinker ["sensors.ssc.so".toList, "sensors.nt.pong.so".toList] 0
      ⟨[{ sensorHandle := 1 }, { sensorHandle := 2 }]⟩ :=
    ⟨["sensors.ssc.so".toList], "sensors.nt.pong.so".toList, [], rfl, rfl, rfl⟩
  have hsize : (["sensors.ssc.so".toList, "sensors.nt.pong.so".toList].filterMap
      pongLinker.subHalOf).length ≤ 128 := by decide
  obtain ⟨hsensors, hcalls⟩ := sensors_of_config hconfig hsize
  exact ⟨(hsensors _).2 ⟨0, _, hprovides, { sensorHandle := 2 }, by simp, by decide, rfl⟩,
    (hcalls 0 _ hprovides 2 (by decide) .flush).2⟩

end Sensors
