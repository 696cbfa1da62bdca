import ClassOutline.Members.Basic
import ClassOutline.Proofs.Decoding.Numbers
import ClassOutline.Proofs.Members.Brackets

set_option autoImplicit false

namespace ClassOutline

namespace Text

variable {mark : CodePoint} {text front : Text}

theorem idxOf?_append (unmarked : mark ∉ front) (back : Text) :
    (front ++ mark :: back).idxOf? mark = some front.length := by
  refine List.idxOf?_eq_some_iff.mpr ⟨by simp, by simp, fun place inside same => unmarked ?_⟩
  rw [← same, List.getElem_append_left inside]
  exact List.getElem_mem inside

theorem exists_cut_of_idxOf? {place : Nat} (found : text.idxOf? mark = some place) :
    ∃ front back, text = front ++ mark :: back ∧ mark ∉ front ∧ front.length = place := by
  have present : mark ∈ text := by
    obtain ⟨inside, here, -⟩ := List.idxOf?_eq_some_iff.mp found
    rw [← here]
    exact List.getElem_mem inside
  obtain ⟨front, back, rfl, unmarked⟩ := List.eq_append_cons_of_mem present
  rw [idxOf?_append unmarked] at found
  exact ⟨front, back, rfl, unmarked, Option.some.inj found⟩

end Text

namespace Descriptor

/-- A text that is one type: a primitive letter, a class name between `L` and `;`, or an array of
another type. -/
inductive IsType : Text → Prop
  | primitive {letter : CodePoint} {word : Text} (known : primitive? [letter] = some word) :
    IsType [letter]
  | reference {name : Text} (unclosed : 0x3B ∉ name) : IsType (0x4C :: (name ++ [0x3B]))
  | array {element : Text} (inner : IsType element) : IsType (0x5B :: element)

/-- The letters of the primitive types and of no value, with the words that stand for them. -/
def primitiveWords : List (CodePoint × Text) :=
  [(0x42, "byte"), (0x43, "char"), (0x44, "double"), (0x46, "float"), (0x49, "int"),
    (0x4A, "long"), (0x53, "short"), (0x5A, "boolean"), (0x56, "void")]

theorem primitive?_eq_some_iff {text word : Text} :
    primitive? text = some word ↔ ∃ letter, text = [letter] ∧ (letter, word) ∈ primitiveWords := by
  constructor
  · intro known
    unfold primitive? at known
    split at known <;> cases known <;> exact ⟨_, rfl, by decide⟩
  · rintro ⟨letter, rfl, listed⟩
    have each : ∀ row ∈ primitiveWords, primitive? [row.1] = some row.2 := by decide
    exact each _ listed

theorem ne_of_primitive? {letter : CodePoint} {word : Text}
    (known : primitive? [letter] = some word) : letter ≠ 0x5B ∧ letter ≠ 0x4C := by
  obtain ⟨_, same, listed⟩ := primitive?_eq_some_iff.mp known
  cases same
  have each : ∀ row ∈ primitiveWords, row.1 ≠ 0x5B ∧ row.1 ≠ 0x4C := by decide
  exact each _ listed

variable {type text element : Text}

theorem isType_replicate (dimensions : Nat) (isType : IsType element) :
    IsType (List.replicate dimensions 0x5B ++ element) := by
  induction dimensions with
  | zero => exact isType
  | succ dimensions ih => exact ih.array

/-- A type is found at the front of a text, whatever stands behind it. -/
theorem IsType.typeLength?_append (isType : IsType type) (rest : Text) :
    typeLength? (type ++ rest) = some type.length := by
  induction isType with
  | primitive known =>
    obtain ⟨notArray, notClass⟩ := ne_of_primitive? known
    simp [typeLength?, notArray, notClass, known]
  | @reference name unclosed =>
    have closing : (name ++ 0x3B :: rest).idxOf? 0x3B = some name.length :=
      Text.idxOf?_append unclosed rest
    simp [typeLength?, closing]
  | array inner ih => simp [typeLength?, ih]

/-- What is found at the front of a text is a type. -/
theorem exists_isType_of_typeLength? {length : Nat} (found : typeLength? text = some length) :
    ∃ type rest, text = type ++ rest ∧ type.length = length ∧ IsType type := by
  induction text using typeLength?.induct generalizing length with
  | case1 => cases found
  | case2 rest ih =>
    rw [typeLength?, if_pos rfl] at found
    obtain ⟨inner, here, rfl⟩ := Option.map_eq_some_iff.mp found
    obtain ⟨type, behind, rfl, rfl, isType⟩ := ih here
    exact ⟨0x5B :: type, behind, rfl, rfl, isType.array⟩
  | case3 rest notArray =>
    rw [typeLength?, if_neg notArray, if_pos rfl] at found
    obtain ⟨place, here, rfl⟩ := Option.map_eq_some_iff.mp found
    obtain ⟨name, behind, rfl, unclosed, rfl⟩ := Text.exists_cut_of_idxOf? here
    exact ⟨0x4C :: (name ++ [0x3B]), behind, by simp, by simp, .reference unclosed⟩
  | case4 first rest notArray notClass known =>
    rw [typeLength?, if_neg notArray, if_neg notClass, if_pos known] at found
    obtain ⟨word, known⟩ := Option.isSome_iff_exists.mp known
    exact ⟨[first], rest, rfl, Option.some.inj found, .primitive known⟩
  | case5 first rest notArray notClass unknown =>
    rw [typeLength?, if_neg notArray, if_neg notClass, if_neg unknown] at found
    cases found

theorem typeLength?_eq_length_iff : typeLength? text = some text.length ↔ IsType text := by
  constructor
  · intro found
    obtain ⟨type, rest, rfl, same, isType⟩ := exists_isType_of_typeLength? found
    rw [List.length_append] at same
    have empty : rest = [] := List.eq_nil_of_length_eq_zero (by omega)
    rwa [empty, List.append_nil]
  · intro isType
    have found := isType.typeLength?_append []
    rwa [List.append_nil] at found

theorem field_eq_ok_iff {result : Text} :
    field text = .ok result ↔ IsType text ∧ result = text := by
  rw [field, ite_eq_ok_iff, typeLength?_eq_length_iff]

theorem types?_nil : types? [] = some [] := by
  rw [types?, if_pos rfl]

theorem types?_of_typeLength?_none (nonempty : text ≠ []) (unfound : typeLength? text = none) :
    types? text = none := by
  rw [types?, if_neg nonempty]
  split
  · rfl
  · rename_i length found
    rw [unfound] at found
    cases found

theorem types?_of_typeLength?_some {length : Nat} (found : typeLength? text = some length) :
    types? text = (types? (text.drop length)).map (text.take length :: ·) := by
  have nonempty : text ≠ [] := by
    rintro rfl
    cases found
  rw [types?, if_neg nonempty]
  split
  · rename_i unfound
    rw [found] at unfound
    cases unfound
  · rename_i again
    rw [found] at again
    cases again
    rfl

theorem IsType.types?_append (isType : IsType type) (rest : Text) :
    types? (type ++ rest) = (types? rest).map (type :: ·) := by
  rw [types?_of_typeLength?_some (isType.typeLength?_append rest), List.drop_left, List.take_left]

/-- A text is split into types in the one way that there is, if it is a sequence of types at all. -/
theorem types?_eq_some_iff {types : List Text} :
    types? text = some types ↔ (∀ type ∈ types, IsType type) ∧ text = types.flatten := by
  constructor
  · intro split
    induction text using types?.induct generalizing types with
    | case1 =>
      rw [types?_nil] at split
      cases split
      exact ⟨nofun, rfl⟩
    | case2 text nonempty unfound =>
      rw [types?_of_typeLength?_none nonempty unfound] at split
      cases split
    | case3 text nonempty length found ih =>
      rw [types?_of_typeLength?_some found] at split
      obtain ⟨later, behind, rfl⟩ := Option.map_eq_some_iff.mp split
      obtain ⟨type, rest, rfl, rfl, isType⟩ := exists_isType_of_typeLength? found
      rw [List.drop_left] at ih behind
      rw [List.take_left]
      obtain ⟨areTypes, same⟩ := ih behind
      exact ⟨List.forall_mem_cons.mpr ⟨isType, areTypes⟩, congrArg (type ++ ·) same⟩
  · rintro ⟨areTypes, rfl⟩
    induction types with
    | nil => exact types?_nil
    | cons type later ih =>
      obtain ⟨isType, areTypes⟩ := List.forall_mem_cons.mp areTypes
      rw [List.flatten_cons, isType.types?_append, ih areTypes]
      rfl

/-- A text is a method descriptor with some parameters and a result: types in brackets, then the
type of the result. -/
structure Decomposes (text : Text) (signature : Signature) : Prop where
  parameters : ∀ type ∈ signature.parameters, field type = .ok type ∧ 0x29 ∉ type
  result : signature.result = [0x56] ∨ field signature.result = .ok signature.result
  text_eq : text = 0x28 :: signature.parameters.flatten ++ 0x29 :: signature.result

/-- A method descriptor is read as the parameters and the result that it has. -/
theorem method_eq_ok_iff {signature : Signature} :
    method text = .ok signature ↔ Decomposes text signature := by
  constructor
  · intro parsed
    rcases bracketed_or_method_eq_error text with ⟨inside, result, rfl, unclosed⟩ | ⟨-, refused⟩
    · rw [method_bracketed unclosed] at parsed
      split at parsed
      · cases parsed
      · rename_i types split
        obtain ⟨areTypes, rfl⟩ := types?_eq_some_iff.mp split
        have parameters : ∀ type ∈ types, field type = .ok type ∧ 0x29 ∉ type := by
          intro type listed
          refine ⟨field_eq_ok_iff.mpr ⟨areTypes type listed, rfl⟩, fun closing => unclosed ?_⟩
          exact List.mem_flatten.mpr ⟨type, listed, closing⟩
        split at parsed
        · rename_i isVoid
          cases parsed
          exact ⟨parameters, .inl isVoid, rfl⟩
        · obtain ⟨type, found, rfl⟩ := map_eq_ok_iff.mp parsed
          obtain ⟨-, rfl⟩ := field_eq_ok_iff.mp found
          exact ⟨parameters, .inr found, rfl⟩
    · rw [refused] at parsed
      cases parsed
  · rintro ⟨parameters, result, rfl⟩
    have unclosed : 0x29 ∉ signature.parameters.flatten := by
      intro closing
      obtain ⟨type, listed, closing⟩ := List.mem_flatten.mp closing
      exact (parameters type listed).2 closing
    have areTypes : ∀ type ∈ signature.parameters, IsType type := fun type listed =>
      (field_eq_ok_iff.mp (parameters type listed).1).1
    rw [method_bracketed unclosed, types?_eq_some_iff.mpr ⟨areTypes, rfl⟩]
    dsimp only
    by_cases isVoid : signature.result = [0x56]
    · rw [if_pos isVoid]
    · rw [if_neg isVoid, result.resolve_left isVoid]
      rfl

/-- The parameters and the result of a method are types, no value being one of them. -/
theorem isType_of_method {signature : Signature} (parsed : method text = .ok signature) :
    ∀ type ∈ signature.parameters ++ [signature.result], IsType type := by
  have taken := method_eq_ok_iff.mp parsed
  rw [List.forall_mem_append, List.forall_mem_singleton]
  constructor
  · intro type listed
    exact (field_eq_ok_iff.mp (taken.parameters type listed).1).1
  · rcases taken.result with isVoid | found
    · rw [isVoid]
      exact .primitive rfl
    · exact (field_eq_ok_iff.mp found).1

/-- A text that is accepted as the type of a field, or as one in a method descriptor. -/
def Accepts (type : Text) : Prop :=
  field type = .ok type ∨ ∃ descriptor signature, method descriptor = .ok signature ∧
    type ∈ signature.parameters ++ [signature.result]

theorem Accepts.isType (accepted : Accepts type) : IsType type := by
  rcases accepted with found | ⟨descriptor, signature, parsed, listed⟩
  · exact (field_eq_ok_iff.mp found).1
  · exact isType_of_method parsed type listed

/-- A pair of brackets for each of some array dimensions. -/
def brackets (count : Nat) : Text :=
  (List.replicate count (Text.ofString "[]")).flatten

theorem brackets_succ (count : Nat) : brackets (count + 1) = brackets count ++ "[]" := by
  simp [brackets, List.replicate_succ']

theorem className?_primitive {letter : CodePoint} {word : Text}
    (known : primitive? [letter] = some word) : className? [letter] = none := by
  obtain ⟨notArray, notClass⟩ := ne_of_primitive? known
  simp [className?, notArray, notClass]

theorem className?_reference (name : Text) :
    className? (0x4C :: (name ++ [0x3B])) = some name := by
  have last : ((0x4C :: name) ++ [0x3B]).getLast? = some 0x3B := List.getLast?_concat
  rw [List.cons_append] at last
  simp [className?, last]

theorem className?_array (element : Text) :
    className? (0x5B :: element) = className? element := by
  simp [className?]

/-- What a text is shown as depends on no class but the one that it refers to. -/
theorem format_congr {m : Type → Type} [Monad m] {classText otherText : Text → m Text}
    (same : ∀ name, className? text = some name → classText name = otherText name) :
    format classText text = format otherText text := by
  induction text with
  | nil => rfl
  | cons first rest ih =>
    rw [format, format]
    by_cases isArray : first = 0x5B
    · subst isArray
      rw [className?_array] at same
      rw [if_pos rfl, if_pos rfl, ih same]
    · rw [if_neg isArray, if_neg isArray]
      split
      · rfl
      · split
        · rename_i name refers
          exact same name refers
        · rfl

/-- A type is shown as its class, or as the word for its primitive type, with brackets behind it.
The class is the one that it refers to, and no other is asked for. -/
theorem IsType.format_eq (isType : IsType type) {m : Type → Type} [Monad m] [LawfulMonad m]
    (classText : Text → m Text) :
    (∀ name, className? type = some name →
      format classText type = (· ++ brackets (dimensions type)) <$> classText name) ∧
    (className? type = none → ∃ letter word, primitive? [letter] = some word ∧
      format classText type = pure (word ++ brackets (dimensions type))) := by
  induction isType with
  | @primitive letter word known =>
    obtain ⟨notArray, -⟩ := ne_of_primitive? known
    rw [className?_primitive known, dimensions_other notArray]
    refine ⟨nofun, fun _ => ⟨letter, word, known, ?_⟩⟩
    simp [format, notArray, known, brackets]
  | @reference name unclosed =>
    have notPrimitive : primitive? (0x4C :: (name ++ [0x3B])) = none := by
      cases name <;> rfl
    rw [className?_reference, dimensions_other (by decide)]
    refine ⟨fun other same => ?_, nofun⟩
    cases same
    simp [format, notPrimitive, className?_reference, brackets]
  | @array element inner ih =>
    have shown : format classText (0x5B :: element) =
        (· ++ Text.ofString "[]") <$> format classText element := by
      simp [format]
    rw [className?_array, dimensions_array, shown, brackets_succ]
    refine ⟨fun name refers => ?_, fun refers => ?_⟩
    · rw [ih.1 name refers, ← comp_map]
      simp [Function.comp_def]
    · obtain ⟨letter, word, known, same⟩ := ih.2 refers
      exact ⟨letter, word, known, by simp [same]⟩

end Descriptor

end ClassOutline
