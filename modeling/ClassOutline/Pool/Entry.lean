import ClassOutline.Decoding.View
import ClassOutline.Number.Decimal
import ClassOutline.Text.ModifiedUtf8

set_option autoImplicit false

namespace ClassOutline

/-- A value that can be loaded as a constant. -/
inductive Literal
  | int (value : Int)
  | float (value : FloatValue)
  | text (value : Text)
deriving DecidableEq, Repr

namespace Literal

/-- Numbers in decimal, texts quoted. -/
def shown : Literal → Text
  | .int value => Text.ofInt value
  | .float value => value.text
  | .text value => Text.quoted value

end Literal

inductive Entry
  | utf8 (text : Text)
  | integer (value : Int)
  | float (value : FloatValue)
  | long (value : Int)
  | double (value : FloatValue)
  | classRef (nameIndex : Nat)
  | string (textIndex : Nat)
  | fieldRef (classIndex nameAndTypeIndex : Nat)
  | methodRef (classIndex nameAndTypeIndex : Nat)
  | interfaceMethodRef (classIndex nameAndTypeIndex : Nat)
  | nameAndType (nameIndex descriptorIndex : Nat)
  | methodHandle (referenceKind referenceIndex : Nat)
  | methodType (descriptorIndex : Nat)
  | dynamic (bootstrapIndex nameAndTypeIndex : Nat)
  | invokeDynamic (bootstrapIndex nameAndTypeIndex : Nat)
  | moduleRef (nameIndex : Nat)
  | packageRef (nameIndex : Nat)
deriving DecidableEq, Repr

namespace Entry

def kind : Entry → Kind
  | .utf8 .. => .utf8
  | .integer .. => .integer
  | .float .. => .float
  | .long .. => .long
  | .double .. => .double
  | .classRef .. => .classRef
  | .string .. => .string
  | .fieldRef .. => .fieldRef
  | .methodRef .. => .methodRef
  | .interfaceMethodRef .. => .interfaceMethodRef
  | .nameAndType .. => .nameAndType
  | .methodHandle .. => .methodHandle
  | .methodType .. => .methodType
  | .dynamic .. => .dynamic
  | .invokeDynamic .. => .invokeDynamic
  | .moduleRef .. => .moduleRef
  | .packageRef .. => .packageRef

/-- What an entry holds, in the order of its bytes. -/
def arguments : Entry → List Literal
  | .utf8 text => [.text text]
  | .integer value | .long value => [.int value]
  | .float value | .double value => [.float value]
  | .classRef index | .string index | .methodType index | .moduleRef index
  | .packageRef index => [.int index]
  | .fieldRef first second | .methodRef first second | .interfaceMethodRef first second
  | .nameAndType first second | .methodHandle first second | .dynamic first second
  | .invokeDynamic first second => [.int first, .int second]

/-- The kind with the arguments in brackets; a single one has a comma behind it. -/
def shown (entry : Entry) : Text :=
  let arguments := entry.arguments.map Literal.shown
  let tail : Text := if arguments.length = 1 then "," else []
  entry.kind.name ++ ("(" ++ Text.joined ", " arguments ++ (tail ++ ")"))

/-- The slots that an entry fills: itself, and nothing in the second slot of a wide one. -/
def slots (entry : Entry) : Array (Option Entry) :=
  if entry.kind.slots = 2 then #[some entry, none] else #[some entry]

def readBody (view : View) (slot : Nat) : Kind → Decoded (Entry × Nat)
  | .utf8 => do
    let length ← view.u2 0
    let bytes ← view.raw 2 length
    match ModifiedUtf8.decode? bytes.toList with
    | some text => return (.utf8 text, 2 + length)
    | none =>
      throw { fault := .invalidUtf8 slot, offset := view.absolute 2, source := view.source }
  | .integer => do return (.integer (← view.s4 0), 4)
  | .float => do return (.float (← view.f4 0), 4)
  | .long => do return (.long (← view.s8 0), 8)
  | .double => do return (.double (← view.f8 0), 8)
  | .classRef => do return (.classRef (← view.u2 0), 2)
  | .string => do return (.string (← view.u2 0), 2)
  | .fieldRef => do return (.fieldRef (← view.u2 0) (← view.u2 2), 4)
  | .methodRef => do return (.methodRef (← view.u2 0) (← view.u2 2), 4)
  | .interfaceMethodRef => do return (.interfaceMethodRef (← view.u2 0) (← view.u2 2), 4)
  | .nameAndType => do return (.nameAndType (← view.u2 0) (← view.u2 2), 4)
  | .methodHandle => do return (.methodHandle (← view.u1 0) (← view.u2 1), 3)
  | .methodType => do return (.methodType (← view.u2 0), 2)
  | .dynamic => do return (.dynamic (← view.u2 0) (← view.u2 2), 4)
  | .invokeDynamic => do return (.invokeDynamic (← view.u2 0) (← view.u2 2), 4)
  | .moduleRef => do return (.moduleRef (← view.u2 0), 2)
  | .packageRef => do return (.packageRef (← view.u2 0), 2)

def read (view : View) (slot : Nat) : Decoded (Entry × Nat) := do
  let tag ← view.u1 0
  match Kind.ofTag? tag with
  | some kind =>
    let (entry, width) ← readBody (view.window 1) slot kind
    return (entry, 1 + width)
  | none => throw { fault := .unknownTag tag, offset := view.absolute 0, source := view.source }

end Entry

end ClassOutline
