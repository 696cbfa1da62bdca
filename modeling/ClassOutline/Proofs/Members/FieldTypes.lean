import ClassOutline.Proofs.Members.Types

set_option autoImplicit false

namespace ClassOutline.Descriptor

/-- The letters of the primitive types that a field can have. -/
def fieldLetters : Text := "BCDFIJSZ"

/-- A type of one value that is no array. -/
inductive IsElement : Text → Prop
  | primitive {letter : CodePoint} (listed : letter ∈ fieldLetters) : IsElement [letter]
  | reference {name : Text} (named : name ≠ []) (unclosed : 0x3B ∉ name) :
    IsElement (0x4C :: (name ++ [0x3B]))

/-- An element of some kind behind `[` for each of any number of array dimensions. -/
def Arrays (kind : Text → Prop) (text : Text) : Prop :=
  ∃ dimensions element, kind element ∧ text = List.replicate dimensions 0x5B ++ element

/-- The types of Java's fields. -/
def IsFieldType : Text → Prop :=
  Arrays IsElement

/-- What is accepted as a type: one of a field, or no value or a class without a name in the place
of the element. -/
def IsAcceptedType (text : Text) : Prop :=
  IsFieldType text ∨ Arrays (· = "V") text ∨ Arrays (· = "L;") text

variable {kind : Text → Prop} {text element : Text}

theorem Arrays.single (isKind : kind element) : Arrays kind element :=
  ⟨0, element, isKind, rfl⟩

theorem Arrays.array (inner : Arrays kind text) : Arrays kind (0x5B :: text) := by
  obtain ⟨dimensions, element, isKind, rfl⟩ := inner
  exact ⟨dimensions + 1, element, isKind, rfl⟩

theorem isSome_primitive?_iff {letter : CodePoint} :
    (primitive? [letter]).isSome = true ↔ letter ∈ fieldLetters ∨ letter = 0x56 := by
  have letters : primitiveWords.map Prod.fst = fieldLetters ++ [0x56] := rfl
  rw [Option.isSome_iff_exists, ← List.mem_singleton, ← List.mem_append, ← letters, List.mem_map]
  constructor
  · rintro ⟨word, known⟩
    obtain ⟨_, same, listed⟩ := primitive?_eq_some_iff.mp known
    cases same
    exact ⟨_, listed, rfl⟩
  · rintro ⟨⟨letter, word⟩, listed, rfl⟩
    exact ⟨word, primitive?_eq_some_iff.mpr ⟨letter, rfl, listed⟩⟩

theorem Arrays.isType (elements : ∀ element, kind element → IsType element)
    (arrays : Arrays kind text) : IsType text := by
  obtain ⟨dimensions, element, isKind, rfl⟩ := arrays
  exact isType_replicate dimensions (elements element isKind)

theorem IsElement.isType (isElement : IsElement element) : IsType element := by
  cases isElement with
  | primitive listed =>
    obtain ⟨word, known⟩ := Option.isSome_iff_exists.mp (isSome_primitive?_iff.mpr (Or.inl listed))
    exact .primitive known
  | reference named unclosed => exact .reference unclosed

theorem isType_iff : IsType text ↔ IsAcceptedType text := by
  constructor
  · intro isType
    induction isType with
    | @primitive letter word known =>
      have present : (primitive? [letter]).isSome = true := by simp [known]
      rcases isSome_primitive?_iff.mp present with listed | isVoid
      · exact Or.inl (.single (.primitive listed))
      · subst isVoid
        exact Or.inr (Or.inl (.single rfl))
    | @reference name unclosed =>
      by_cases named : name = []
      · subst named
        exact Or.inr (Or.inr (.single rfl))
      · exact Or.inl (.single (.reference named unclosed))
    | array inner ih =>
      rcases ih with fieldType | isVoid | unnamed
      · exact Or.inl fieldType.array
      · exact Or.inr (Or.inl isVoid.array)
      · exact Or.inr (Or.inr unnamed.array)
  · rintro (fieldType | isVoid | unnamed)
    · exact fieldType.isType fun element => IsElement.isType
    · apply isVoid.isType
      rintro element rfl
      exact .primitive rfl
    · apply unnamed.isType
      rintro element rfl
      exact .reference List.not_mem_nil

/-- A text is accepted as a type exactly if it is the type of a field, or has no value or a class
without a name in the place of its element. A method descriptor takes such types as its parameters,
those with a closing bracket in them aside, and as its result. -/
theorem field_and_method_accept (text : Text) :
    (∀ type, field text = .ok type ↔ IsAcceptedType text ∧ type = text) ∧
    ∀ signature, method text = .ok signature ↔
      (∀ type ∈ signature.parameters, IsAcceptedType type ∧ 0x29 ∉ type) ∧
        IsAcceptedType signature.result ∧
        text = 0x28 :: signature.parameters.flatten ++ 0x29 :: signature.result := by
  have accepted (type : Text) : field type = .ok type ↔ IsAcceptedType type := by
    rw [field_eq_ok_iff, isType_iff]
    exact and_iff_left rfl
  refine ⟨fun type => by rw [field_eq_ok_iff, isType_iff], fun signature => ?_⟩
  rw [method_eq_ok_iff]
  constructor
  · intro taken
    refine ⟨fun type listed => ?_, ?_, taken.text_eq⟩
    · obtain ⟨found, unclosed⟩ := taken.parameters type listed
      exact ⟨(accepted type).mp found, unclosed⟩
    · rcases taken.result with isVoid | found
      · exact Or.inr (Or.inl (.single isVoid))
      · exact (accepted _).mp found
  · rintro ⟨parameters, result, same⟩
    refine ⟨fun type listed => ?_, Or.inr ((accepted _).mpr result), same⟩
    obtain ⟨isAccepted, unclosed⟩ := parameters type listed
    exact ⟨(accepted type).mpr isAccepted, unclosed⟩

/-- A field can have the type of no value. -/
theorem not_forall_field_iff_isFieldType :
    ¬ ∀ text : Text,
      (field text = .ok text ↔ IsFieldType text) ∧
      ∀ signature, method text = .ok signature →
        (∀ type ∈ signature.parameters, IsFieldType type) ∧
          (signature.result = [0x56] ∨ IsFieldType signature.result) := by
  intro always
  obtain ⟨dimensions, element, isElement, same⟩ := (always "V").1.mp rfl
  cases dimensions with
  | succ dimensions => cases same
  | zero =>
    have whole : element = [0x56] := same.symm
    cases isElement with
    | primitive listed =>
      cases whole
      simp [fieldLetters, Text.ofString] at listed
    | reference named unclosed => cases whole

end ClassOutline.Descriptor
