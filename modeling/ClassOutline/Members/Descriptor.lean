import ClassOutline.Decoding.Error

set_option autoImplicit false

namespace ClassOutline.Descriptor

/-- The word for a primitive letter. `V` is among them, the type of no value. -/
def primitive? : Text → Option Text
  | [0x42] => some "byte"
  | [0x43] => some "char"
  | [0x44] => some "double"
  | [0x46] => some "float"
  | [0x49] => some "int"
  | [0x4A] => some "long"
  | [0x53] => some "short"
  | [0x5A] => some "boolean"
  | [0x56] => some "void"
  | _ => none

/-- The length of the one type that a text begins with. -/
def typeLength? : Text → Option Nat
  | [] => none
  | first :: rest =>
    if first = 0x5B then (typeLength? rest).map (· + 1)
    else if first = 0x4C then (rest.idxOf? 0x3B).map (· + 2)
    else if (primitive? [first]).isSome then some 1
    else none

theorem typeLength?_pos {text : Text} {length : Nat} (found : typeLength? text = some length) :
    0 < length := by
  unfold typeLength? at found
  split at found
  · simp at found
  · split at found
    · obtain ⟨inner, -, rfl⟩ := Option.map_eq_some_iff.mp found
      omega
    · split at found
      · obtain ⟨inner, -, rfl⟩ := Option.map_eq_some_iff.mp found
        omega
      · split at found <;> simp_all
        omega

def types? (text : Text) : Option (List Text) :=
  if text = [] then some []
  else
    match _found : typeLength? text with
    | none => none
    | some length => (types? (text.drop length)).map (text.take length :: ·)
termination_by text.length
decreasing_by
  rename_i nonempty
  have positive := typeLength?_pos _found
  have inside := List.length_pos_iff.mpr nonempty
  rw [List.length_drop]
  exact Nat.sub_lt inside positive

def field (text : Text) : Decoded Text :=
  if typeLength? text = some text.length then .ok text
  else .error { fault := .fieldDescriptor text }

structure Signature where
  parameters : List Text
  result : Text
deriving DecidableEq, Repr

/-- Splits a method descriptor at its first closing bracket. -/
def method (text : Text) : Decoded Signature :=
  match text with
  | 0x28 :: rest =>
    if rest.contains 0x29 then
      let inside := rest.takeWhile (· != 0x29)
      let result := (rest.dropWhile (· != 0x29)).drop 1
      match types? inside with
      | none => .error { fault := .fieldDescriptor inside }
      | some parameters =>
        if result = [0x56] then .ok { parameters, result }
        else (field result).map fun result => { parameters, result }
    else .error { fault := .methodDescriptor text }
  | _ => .error { fault := .methodDescriptor text }

/-- The class that a type refers to, array dimensions aside. -/
def className? (text : Text) : Option Text :=
  let element := text.dropWhile (· == 0x5B)
  if element.head? = some 0x4C ∧ element.getLast? = some 0x3B then
    some (element.drop 1).dropLast
  else none

/-- The local variable slots that values of some types take: two for `long` and `double`. -/
def slots : List Text → Nat
  | [] => 0
  | type :: rest => (if type = [0x4A] ∨ type = [0x44] then 2 else 1) + slots rest

/-- The local variable slots that arguments take, the receiver included unless static. -/
def argumentSlots (parameters : List Text) (static : Bool) : Nat :=
  (if static then 0 else 1) + slots parameters

section

variable {m : Type → Type} [Monad m]

/-- The source form of a type. Any other text stays as it is. -/
def format (classText : Text → m Text) : Text → m Text
  | [] => return []
  | first :: rest =>
    if first = 0x5B then return (← format classText rest) ++ "[]"
    else match primitive? (first :: rest) with
      | some word => return word
      | none =>
        match className? (first :: rest) with
        | some name => classText name
        | none => return first :: rest

/-- The source form of a type, one call for each array dimension as long as there is room. -/
def formatWithin (exhausted : m Text) (classText : Text → m Text) : Nat → Text → m Text
  | _, [] => return []
  | room, first :: rest =>
    if first = 0x5B then
      match room with
      | 0 => exhausted
      | room + 1 => return (← formatWithin exhausted classText room rest) ++ "[]"
    else format classText (first :: rest)

end

def dimensions (text : Text) : Nat :=
  (text.takeWhile (· == 0x5B)).length

theorem dimensions_array (element : Text) :
    dimensions (0x5B :: element) = dimensions element + 1 := by
  simp [dimensions]

theorem dimensions_other {first : CodePoint} (notArray : first ≠ 0x5B) (rest : Text) :
    dimensions (first :: rest) = 0 := by
  simp [dimensions, notArray]

end ClassOutline.Descriptor
