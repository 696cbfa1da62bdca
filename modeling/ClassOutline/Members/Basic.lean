import ClassOutline.Members.AccessFlags
import ClassOutline.Members.Attribute
import ClassOutline.Members.Descriptor

set_option autoImplicit false

namespace ClassOutline

structure Member where
  flags : List AccessFlag
  nameIndex : Nat
  name : Text
  descriptor : Text
  attributes : List Attribute
  attributesLength : Nat
deriving Repr

namespace Member

def headerWidth : Nat := 8

def rawLength (member : Member) : Nat :=
  headerWidth + member.attributesLength

@[specialize] def readWith {m : Type → Type} [Monad m] [MonadLiftT Decoded m]
    (readAttribute : View → m Attribute) (table : AccessFlags.Table) (pool : ConstantPool)
    (view : View) : m Member := do
  let flags := AccessFlags.decode table (← view.u2 0)
  let nameIndex ← view.u2 2
  let name ← pool.utf8 nameIndex
  let descriptor ← pool.utf8 (← view.u2 4)
  let count ← view.u2 6
  let (attributes, attributesLength) ←
    (view.window headerWidth).records count Attribute.rawLength readAttribute
  return { flags, nameIndex, name, descriptor, attributes, attributesLength }

def read (table : AccessFlags.Table) (pool : ConstantPool) (view : View) : Decoded Member :=
  readWith (Attribute.read pool) table pool view

def constantValue? (member : Member) : Option Literal :=
  member.attributes.findSome? fun
    | .constantValue _ _ value => some value
    | _ => none

def code? (member : Member) : Option CodeBody :=
  member.attributes.findSome? fun
    | .code _ body _ => some body
    | _ => none

/-- The classes in the first list of declared exceptions. -/
def exceptions (member : Member) : List Text :=
  (member.attributes.findSome? fun
    | .exceptions _ names => some names
    | _ => none).getD []

def shown (member : Member) (word : Text) : Text :=
  "<" ++ word ++ " " ++ member.name ++ member.descriptor ++ ">"

end Member

def typeClasses (types : List Text) : List Text :=
  (types.filterMap Descriptor.className?).filter fun name => !name.isEmpty

structure Field extends Member
deriving Repr

namespace Field

@[specialize] def readWith {m : Type → Type} [Monad m] [MonadLiftT Decoded m]
    (readAttribute : View → m Attribute) (pool : ConstantPool) (view : View) : m Field := do
  let member ← Member.readWith readAttribute AccessFlags.fieldTable pool view
  let _ ← Descriptor.field member.descriptor
  return { member with }

def read (pool : ConstantPool) (view : View) : Decoded Field :=
  readWith (Attribute.read pool) pool view

def shown (field : Field) : Text :=
  field.toMember.shown "Field"

def references (field : Field) : List Text :=
  Attribute.allDeclaredExceptions field.attributes ++ typeClasses [field.descriptor]

end Field

structure Method extends Member where
  signature : Descriptor.Signature
deriving Repr

namespace Method

@[specialize] def readWith {m : Type → Type} [Monad m] [MonadLiftT Decoded m]
    (readAttribute : View → m Attribute) (pool : ConstantPool) (view : View) : m Method := do
  let member ← Member.readWith readAttribute AccessFlags.methodTable pool view
  let signature ← Descriptor.method member.descriptor
  return { member with signature }

def read (pool : ConstantPool) (view : View) : Decoded Method :=
  readWith (Attribute.read pool) pool view

def shown (method : Method) : Text :=
  method.toMember.shown "Method"

/-- Abstract and native methods have no code. -/
def isBodyless (method : Method) : Bool :=
  method.flags.contains .abstractType || method.flags.contains .native

def isStatic (method : Method) : Bool :=
  method.flags.contains .static

/-- The classes that a method refers to by its attributes, parameter types and result. -/
def references (method : Method) : List Text :=
  Attribute.allDeclaredExceptions method.attributes ++
    typeClasses (method.signature.parameters ++ [method.signature.result])

end Method

end ClassOutline
