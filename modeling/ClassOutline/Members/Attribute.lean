import ClassOutline.Decoding.Records
import ClassOutline.Pool.Basic

set_option autoImplicit false

/- Attributes of classes, fields, methods and code. Each has a header with the length of its body,
and that length alone decides where the next record begins. Seven names have bodies that are read;
all others are kept as bytes. -/

namespace ClassOutline

structure AttributeHeader where
  nameIndex : Nat
  name : Text
  length : Nat
  body : Array UInt8
deriving DecidableEq, Repr

/-- A range of code with the position that handles its exceptions, all of them if no type stands
with it. -/
structure ExceptionHandler where
  startPc : Nat
  endPc : Nat
  handlerPc : Nat
  catchType : Option Text
deriving DecidableEq, Repr

/-- What a code attribute holds besides nested attributes. -/
structure CodeBody where
  maxStack : Nat
  maxLocals : Nat
  code : Array UInt8
  handlers : List ExceptionHandler
deriving DecidableEq, Repr

inductive Attribute
  | unknown (header : AttributeHeader)
  | constantValue (header : AttributeHeader) (valueIndex : Nat) (value : Literal)
  | sourceFile (header : AttributeHeader) (filename : Text)
  | signature (header : AttributeHeader) (signature : Text)
  | exceptions (header : AttributeHeader) (names : List Text)
  | deprecated (header : AttributeHeader)
  | synthetic (header : AttributeHeader)
  | code (header : AttributeHeader) (body : CodeBody) (attributes : List Attribute)
deriving Repr

/-- The names whose bodies are read. -/
inductive AttributeKind
  | unknown
  | constantValue
  | sourceFile
  | signature
  | exceptions
  | deprecated
  | synthetic
  | code
deriving DecidableEq, Repr

namespace AttributeKind

def typeName : AttributeKind → Text
  | .unknown => "UnknownAttribute"
  | .constantValue => "ConstantValue"
  | .sourceFile => "SourceFile"
  | .signature => "Signature"
  | .exceptions => "Exceptions"
  | .deprecated => "Deprecated"
  | .synthetic => "Synthetic"
  | .code => "Code"

def ofName (name : Text) : AttributeKind :=
  let known : List AttributeKind :=
    [.constantValue, .sourceFile, .signature, .exceptions, .deprecated, .synthetic, .code]
  (known.find? fun kind => kind.typeName == name).getD .unknown

end AttributeKind

namespace AttributeHeader

def width : Nat := 6

def rawLength (header : AttributeHeader) : Nat :=
  width + header.length

def read (pool : ConstantPool) (view : View) : Decoded AttributeHeader := do
  let nameIndex ← view.u2 0
  let name ← pool.utf8 nameIndex
  let length ← view.u4 2
  let body ← view.raw width length
  return { nameIndex, name, length, body }

theorem base_lt_of_read {pool : ConstantPool} {view : View} {header : AttributeHeader}
    (success : read pool view = .ok header) : view.base < view.data.size := by
  unfold read at success
  cases number : view.u2 0 with
  | error fault => simp [number, bind, Except.bind] at success
  | ok nameIndex => exact View.base_lt_of_unsigned 0 number (by decide)

end AttributeHeader

namespace ExceptionHandler

def width : Nat := 8

/-- Reads a row of an exception table. Index zero stands for every exception. -/
def read (pool : ConstantPool) (view : View) : Decoded ExceptionHandler := do
  let startPc ← view.u2 0
  let endPc ← view.u2 2
  let handlerPc ← view.u2 4
  let catchIndex ← view.u2 6
  let catchType ← if catchIndex = 0 then pure none else some <$> pool.className catchIndex
  return { startPc, endPc, handlerPc, catchType }

end ExceptionHandler

namespace CodeBody

/-- Reads everything up to the nested attributes, with their count and the offset of the first. -/
def read (pool : ConstantPool) (view : View) : Decoded (CodeBody × Nat × Nat) := do
  let maxStack ← view.u2 0
  let maxLocals ← view.u2 2
  let codeLength ← view.u4 4
  let code ← view.raw 8 codeLength
  let tableOffset := 8 + codeLength
  let handlerCount ← view.u2 tableOffset
  let (handlers, tableLength) ← (view.window (tableOffset + 2)).records handlerCount
    (fun _ => ExceptionHandler.width) (ExceptionHandler.read pool)
  let countOffset := tableOffset + 2 + tableLength
  let count ← view.u2 countOffset
  return ({ maxStack, maxLocals, code, handlers }, count, countOffset + 2)

end CodeBody

namespace Attribute

def header : Attribute → AttributeHeader
  | .unknown header | .constantValue header .. | .sourceFile header .. | .signature header ..
  | .exceptions header .. | .deprecated header | .synthetic header | .code header .. => header

def kind : Attribute → AttributeKind
  | .unknown .. => .unknown
  | .constantValue .. => .constantValue
  | .sourceFile .. => .sourceFile
  | .signature .. => .signature
  | .exceptions .. => .exceptions
  | .deprecated .. => .deprecated
  | .synthetic .. => .synthetic
  | .code .. => .code

def name (record : Attribute) : Text :=
  record.header.name

def rawLength (record : Attribute) : Nat :=
  record.header.rawLength

/-- Reads a list of exception classes: the entries first, then their names. -/
def readExceptions (pool : ConstantPool) (view : View) : Decoded (List Text) := do
  let count ← view.u2 0
  let (nameIndices, _) ← (view.window 2).fixedRecords count 2 fun record => do
    pool.classEntry (← record.u2 0)
  nameIndices.mapM fun (nameIndex : Nat) => pool.utf8 nameIndex

section

variable {m : Type → Type} [Monad m] [MonadLiftT Decoded m]

/-- Reads the body that the name in a header calls for; `nested` reads the attribute that begins at
an offset of the body. What is read of a code attribute must fill its declared length exactly. -/
@[specialize] def readBody (pool : ConstantPool) (body : View) (header : AttributeHeader)
    (nested : Nat → m Attribute) : m Attribute :=
  match AttributeKind.ofName header.name with
  | .unknown => return .unknown header
  | .deprecated => return .deprecated header
  | .synthetic => return .synthetic header
  | .constantValue => do
    let valueIndex ← body.u2 0
    return .constantValue header valueIndex (← pool.literal valueIndex)
  | .sourceFile => do return .sourceFile header (← pool.utf8 (← body.u2 0))
  | .signature => do return .signature header (← pool.utf8 (← body.u2 0))
  | .exceptions => do return .exceptions header (← readExceptions pool body)
  | .code => do
    let (codeBody, count, start) ← CodeBody.read pool body
    let (attributes, nestedLength) ← recordsAt nested rawLength count start
    let used := start + nestedLength
    if used = header.length then return .code header codeBody attributes
    else
      (throw {
        fault := .codeLength header.length used
        offset := body.absolute 0
        source := body.source } : Decoded Attribute)

/-- Reads the attribute at the start of a view, and those nested in it to a limited depth. -/
@[specialize] def readWithin (exhausted : m Attribute) (pool : ConstantPool) :
    Nat → View → m Attribute
  | 0, _ => exhausted
  | limit + 1, view => do
    let header ← AttributeHeader.read pool view
    readBody pool (view.window AttributeHeader.width) header fun offset =>
      readWithin exhausted pool limit (view.window (AttributeHeader.width + offset : Nat))

end

def read (pool : ConstantPool) (view : View) : Decoded Attribute :=
  match _success : AttributeHeader.read pool view with
  | .error fault => .error fault
  | .ok header =>
    readBody pool (view.window AttributeHeader.width) header fun offset =>
      read pool (view.window (AttributeHeader.width + offset : Nat))
termination_by ((view.data.size : Int) - view.base).toNat
decreasing_by
  have inside := AttributeHeader.base_lt_of_read _success
  simp only [View.window_data, View.window_base, AttributeHeader.width]
  omega

theorem read_eq (pool : ConstantPool) (view : View) :
    read pool view = (do
      let header ← AttributeHeader.read pool view
      readBody pool (view.window AttributeHeader.width) header fun offset =>
        read pool (view.window (AttributeHeader.width + offset : Nat))) := by
  rw [read]
  split <;> rename_i found <;> rw [found] <;> rfl

/-- Reads the attribute at the start of a view, if there is room for those nested in it. -/
def readOn (stack : Stack) (pool : ConstantPool) (view : View) : Reached Attribute :=
  readWithin (.error (.beyond .depth)) pool stack.attributes view

/-- Reads the attribute at the start of a view that may lie out of reach. -/
def load (stack : Stack) (pool : ConstantPool) (view : View) : Reached Attribute :=
  if isIndex (view.absolute 0) then readOn stack pool view else .error (.beyond .position)

/-- The text `<type name (length bytes)>`. -/
def shown (record : Attribute) : Text :=
  "<" ++ record.kind.typeName ++ " " ++ record.name ++ " (" ++
    Text.ofNat record.header.length ++ " bytes)>"

mutual

/-- The exception classes that an attribute declares, those of nested attributes included. -/
def declaredExceptions : Attribute → List Text
  | .exceptions _ names => names
  | .code _ _ nested => allDeclaredExceptions nested
  | .unknown .. | .constantValue .. | .sourceFile .. | .signature .. | .deprecated ..
  | .synthetic .. => []

def allDeclaredExceptions : List Attribute → List Text
  | [] => []
  | record :: rest => declaredExceptions record ++ allDeclaredExceptions rest

end

end Attribute

end ClassOutline
