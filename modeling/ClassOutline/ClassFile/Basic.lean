import ClassOutline.Members.Basic

set_option autoImplicit false

namespace ClassOutline

/-- Where each section begins, and where the last one ends. -/
structure Layout where
  accessFlags : Nat
  thisClass : Nat
  superClass : Nat
  interfacesCount : Nat
  interfaces : Nat
  fieldsCount : Nat
  fields : Nat
  methodsCount : Nat
  methods : Nat
  attributesCount : Nat
  attributes : Nat
  finish : Nat
deriving DecidableEq, Repr

/-- The header of a class file with its constant pool. -/
structure Preamble where
  minorVersion : Nat
  majorVersion : Nat
  poolCount : Nat
  pool : ConstantPool
deriving Repr

/-- What follows the constant pool. Interfaces are the name indices of their class entries. -/
structure Sections where
  flags : List AccessFlag
  interfaces : List Nat
  fields : List Field
  methods : List Method
  attributes : List Attribute
  layout : Layout
deriving Repr

/-- A decoded class file. The class and its superclass are the name indices of their entries. -/
structure ClassFile extends Preamble, Sections where
  source : Option Text
  thisClass : Nat
  superClass : Option Nat
deriving Repr

namespace Preamble

def magic : Nat := 0xCAFEBABE

def width : Nat := 10

def read (view : View) : Decoded Preamble := do
  let found ← view.u4 0
  if found ≠ magic then
    throw { fault := .wrongMagic found, offset := some 0, source := view.source }
  let minorVersion ← view.u2 4
  let majorVersion ← view.u2 6
  let poolCount ← view.u2 8
  let pool ← ConstantPool.read (view.window width) poolCount
  return { minorVersion, majorVersion, poolCount, pool }

end Preamble

namespace Sections

/-- Reads the sections behind a pool; `readAttribute` reads the attribute at the start of a view. -/
@[specialize] def readWith {m : Type → Type} [Monad m] [MonadLiftT Decoded m]
    (readAttribute : View → m Attribute) (view : View) (pool : ConstantPool) : m Sections := do
  let accessFlags := Preamble.width + pool.rawLength
  let flags := AccessFlags.decode AccessFlags.classTable (← view.u2 accessFlags)
  let interfacesCount := accessFlags + 6
  let interfacesStart := interfacesCount + 2
  let count ← view.u2 interfacesCount
  let (interfaces, _) ← ((view.window interfacesStart).fixedRecords count 2 fun record => do
    pool.classEntry (← record.u2 0) : Decoded (List Nat × Int))
  let fieldsCount := interfacesStart + 2 * count
  let (fields, fieldsLength) ← (view.window (fieldsCount + 2 : Nat)).records
    (← view.u2 fieldsCount) (fun field => field.rawLength) (Field.readWith readAttribute pool)
  let methodsCount := fieldsCount + 2 + fieldsLength
  let (methods, methodsLength) ← (view.window (methodsCount + 2 : Nat)).records
    (← view.u2 methodsCount) (fun method => method.rawLength) (Method.readWith readAttribute pool)
  let attributesCount := methodsCount + 2 + methodsLength
  let (attributes, attributesLength) ← (view.window (attributesCount + 2 : Nat)).records
    (← view.u2 attributesCount) Attribute.rawLength readAttribute
  return {
    flags, interfaces, fields, methods, attributes
    layout := {
      accessFlags
      thisClass := accessFlags + 2
      superClass := accessFlags + 4
      interfacesCount
      interfaces := interfacesStart
      fieldsCount
      fields := fieldsCount + 2
      methodsCount
      methods := methodsCount + 2
      attributesCount
      attributes := attributesCount + 2
      finish := attributesCount + 2 + attributesLength } }

def read (view : View) (pool : ConstantPool) : Decoded Sections :=
  readWith (Attribute.read pool) view pool

end Sections

namespace ClassFile

section

variable {m : Type → Type} [Monad m] [MonadLiftT Decoded m]

@[specialize] def ofPreambleWith (readAttribute : View → m Attribute) (view : View)
    (preamble : Preamble) : m ClassFile := do
  let sections ← Sections.readWith readAttribute view preamble.pool
  let thisClass ← preamble.pool.classEntry (← view.u2 sections.layout.thisClass)
  let superIndex ← view.u2 sections.layout.superClass
  let superClass ←
    if superIndex = 0 then pure none else some <$> preamble.pool.classEntry superIndex
  return { preamble, sections with source := view.source, thisClass, superClass }

@[specialize] def ofViewWith (readAttribute : ConstantPool → View → m Attribute) (view : View) :
    m ClassFile := do
  let preamble ← Preamble.read view
  ofPreambleWith (readAttribute preamble.pool) view preamble

end

def ofView (view : View) : Decoded ClassFile :=
  ofViewWith Attribute.read view

/-- Decodes the bytes of a class file. The source names them in errors. -/
def decode (data : Array UInt8) (source : Option Text := none) : Decoded ClassFile :=
  ofView { data, source }

def decodeWithin (stack : Stack) (data : Array UInt8) (source : Option Text := none) :
    Reached ClassFile :=
  ofViewWith (Attribute.readOn stack) { data, source }

def isInterface (file : ClassFile) : Bool :=
  file.flags.contains .interfaceType

def references (file : ClassFile) : List Text :=
  file.fields.flatMap Field.references ++ file.methods.flatMap Method.references ++
    Attribute.allDeclaredExceptions file.attributes

end ClassFile

/-- How far the decoding of some bytes gets. -/
inductive Milestone
  | pool (count : Nat) (bytes : Nat)
  | layout (layout : Layout)
deriving DecidableEq, Repr

namespace ClassFile

def milestones (stack : Stack) (view : View) : List Milestone :=
  match Preamble.read view with
  | .error _ => []
  | .ok preamble =>
    .pool preamble.poolCount preamble.pool.rawLength ::
      match Sections.readWith (Attribute.readOn stack preamble.pool) view preamble.pool with
      | .error _ => []
      | .ok sections => [.layout sections.layout]

end ClassFile

end ClassOutline
