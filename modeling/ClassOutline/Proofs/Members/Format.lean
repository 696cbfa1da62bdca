import ClassOutline.Members.Basic
import ClassOutline.Proofs.Members.AccessFlags
import ClassOutline.Proofs.Pool.Lookups

set_option autoImplicit false

namespace ClassOutline

open View (numberAt)

/-- A header for a kind of attribute, its body within the data. -/
structure AttributeHeader.StandsAt (pool : ConstantPool) (data : Array UInt8) (start : Nat)
    (kind : AttributeKind) (header : AttributeHeader) : Prop where
  nameIndex : header.nameIndex = numberAt data start 2
  name : pool.utf8 header.nameIndex = .ok header.name
  kind : AttributeKind.ofName header.name = kind
  length : header.length = numberAt data (start + 2) 4
  body : header.body = data.extract (start + 6) (start + 6 + header.length)
  inside : start + 6 + header.length ≤ data.size

/-- A row of an exception table; index zero stands for every exception. -/
structure ExceptionHandler.StandsAt (pool : ConstantPool) (data : Array UInt8) (start : Nat)
    (handler : ExceptionHandler) : Prop where
  startPc : handler.startPc = numberAt data start 2
  endPc : handler.endPc = numberAt data (start + 2) 2
  handlerPc : handler.handlerPc = numberAt data (start + 4) 2
  catchType : handler.catchType = none ∧ numberAt data (start + 6) 2 = 0 ∨
    ∃ name, handler.catchType = some name ∧ numberAt data (start + 6) 2 ≠ 0 ∧
      pool.className (numberAt data (start + 6) 2) = .ok name
  inside : start + 8 ≤ data.size

/-- The bytes of a code attribute that are not those of nested ones: the fixed fields, the code
and the exception table. -/
def CodeBody.width (body : CodeBody) : Nat :=
  12 + body.code.size + 8 * body.handlers.length

/-- A code body in front of `count` nested attributes. -/
structure CodeBody.StandsAt (pool : ConstantPool) (data : Array UInt8) (start count : Nat)
    (body : CodeBody) : Prop where
  maxStack : body.maxStack = numberAt data start 2
  maxLocals : body.maxLocals = numberAt data (start + 2) 2
  codeLength : body.code.size = numberAt data (start + 4) 4
  code : body.code = data.extract (start + 8) (start + 8 + body.code.size)
  handlerCount : body.handlers.length = numberAt data (start + 8 + body.code.size) 2
  handlers : Consecutive (ExceptionHandler.StandsAt pool data) (fun _ => 8)
    (start + 10 + body.code.size) body.handlers
  count : count = numberAt data (start + 10 + body.code.size + 8 * body.handlers.length) 2
  inside : start + body.width ≤ data.size

/-- A class entry in a list of two-byte indices, by its name index. -/
structure ListsEntry (pool : ConstantPool) (data : Array UInt8) (start nameIndex : Nat) :
    Prop where
  classEntry : pool.classEntry (numberAt data start 2) = .ok nameIndex
  inside : start + 2 ≤ data.size

/-- A class in a list of two-byte indices. -/
structure ListsClass (pool : ConstantPool) (data : Array UInt8) (start : Nat) (name : Text) :
    Prop where
  className : pool.className (numberAt data start 2) = .ok name
  inside : start + 2 ≤ data.size

namespace Attribute

mutual

/-- The header of an attribute stands at a place, and the body says what the attribute holds. -/
def StandsAt (pool : ConstantPool) (data : Array UInt8) (start : Nat) : Attribute → Prop
  | .unknown header => header.StandsAt pool data start .unknown
  | .deprecated header => header.StandsAt pool data start .deprecated
  | .synthetic header => header.StandsAt pool data start .synthetic
  | .constantValue header valueIndex value =>
    header.StandsAt pool data start .constantValue ∧ start + 8 ≤ data.size ∧
      valueIndex = numberAt data (start + 6) 2 ∧ pool.literal valueIndex = .ok value
  | .sourceFile header text =>
    header.StandsAt pool data start .sourceFile ∧ start + 8 ≤ data.size ∧
      pool.utf8 (numberAt data (start + 6) 2) = .ok text
  | .signature header text =>
    header.StandsAt pool data start .signature ∧ start + 8 ≤ data.size ∧
      pool.utf8 (numberAt data (start + 6) 2) = .ok text
  | .exceptions header names =>
    header.StandsAt pool data start .exceptions ∧ start + 8 ≤ data.size ∧
      names.length = numberAt data (start + 6) 2 ∧
        Consecutive (ListsClass pool data) (fun _ => 2) (start + 8) names
  | .code header body nested =>
    header.StandsAt pool data start .code ∧ body.StandsAt pool data (start + 6) nested.length ∧
      header.length = body.width + totalLength rawLength nested ∧
        AllStandAt pool data (start + 6 + body.width) nested

/-- Each attribute of a list stands where the one before it ends. -/
def AllStandAt (pool : ConstantPool) (data : Array UInt8) (start : Nat) : List Attribute → Prop
  | [] => True
  | record :: rest =>
    StandsAt pool data start record ∧ AllStandAt pool data (start + record.rawLength) rest

end

variable {pool : ConstantPool} {data : Array UInt8} {start : Nat}

theorem StandsAt.header {record : Attribute} (stands : record.StandsAt pool data start) :
    record.header.StandsAt pool data start record.kind := by
  cases record <;> simp only [StandsAt] at stands
  case unknown | deprecated | synthetic => exact stands
  all_goals exact stands.1

theorem allStandAt_iff {records : List Attribute} :
    AllStandAt pool data start records ↔
      Consecutive (StandsAt pool data) rawLength start records := by
  induction records generalizing start with
  | nil => simp only [AllStandAt, Consecutive]
  | cons record rest ih => simp only [AllStandAt, Consecutive, ih]

theorem StandsAt.inside {record : Attribute} (stands : record.StandsAt pool data start) :
    start + record.rawLength ≤ data.size := by
  have inside := stands.header.inside
  rwa [Nat.add_assoc] at inside

theorem AllStandAt.inside {records : List Attribute} (stand : AllStandAt pool data start records)
    (begins : start ≤ data.size) : start + totalLength rawLength records ≤ data.size :=
  (allStandAt_iff.mp stand).inside StandsAt.inside begins

end Attribute

/-- A field or a method, with its attributes behind it. -/
structure Member.StandsAt (bits : AccessFlags.Bits) (pool : ConstantPool) (data : Array UInt8)
    (start : Nat) (member : Member) : Prop where
  flags : member.flags = AccessFlags.ofWord bits (numberAt data start 2)
  nameIndex : member.nameIndex = numberAt data (start + 2) 2
  name : pool.utf8 member.nameIndex = .ok member.name
  descriptor : pool.utf8 (numberAt data (start + 4) 2) = .ok member.descriptor
  attributeCount : member.attributes.length = numberAt data (start + 6) 2
  attributesLength : member.attributesLength = totalLength Attribute.rawLength member.attributes
  attributes : Attribute.AllStandAt pool data (start + 8) member.attributes
  inside : start + 8 ≤ data.size

structure Field.StandsAt (pool : ConstantPool) (data : Array UInt8) (start : Nat)
    (field : Field) : Prop where
  member : field.toMember.StandsAt AccessFlags.fieldBits pool data start
  descriptor : ∃ result, Descriptor.field field.descriptor = .ok result

structure Method.StandsAt (pool : ConstantPool) (data : Array UInt8) (start : Nat)
    (method : Method) : Prop where
  member : method.toMember.StandsAt AccessFlags.methodBits pool data start
  signature : Descriptor.method method.descriptor = .ok method.signature

end ClassOutline
