import ClassOutline.Proofs.Decoding.Bytes
import ClassOutline.Proofs.Members.Format
import ClassOutline.Proofs.Pool.Lookups

set_option autoImplicit false

/- Attributes and members as bytes. A draft holds the indices that are written and, beside each,
what the index leads to; it fits a pool if every index leads there and every count has room. -/

namespace ClassOutline

open View (numberAt)

variable {pool : ConstantPool} {data : Array UInt8} {start : Nat}

theorem HoldsAt.index_eq {α : Type} {index : Nat} {rest : Entry → Decoded α} {value : α}
    (holds : HoldsAt data start (bigEndianBytes 2 index)) (small : pool.entries.size ≤ 0x10000)
    (found : pool.entry index >>= rest = .ok value) : numberAt data start 2 = index := by
  have inside := (ConstantPool.index_inside found).2
  exact holds.numberAt_eq (by omega)

theorem HoldsAt.word_inside {number : Nat}
    (holds : HoldsAt data start (bigEndianBytes 2 number)) : start + 2 ≤ data.size := by
  have inside := holds.inside
  rwa [length_bigEndianBytes] at inside

/-- A row of an exception table, the class of its exceptions with the index if there is one. -/
structure HandlerDraft where
  startPc : Nat
  endPc : Nat
  handlerPc : Nat
  caught : Option (Nat × Text)
deriving DecidableEq, Repr

namespace HandlerDraft

def handler (draft : HandlerDraft) : ExceptionHandler where
  startPc := draft.startPc
  endPc := draft.endPc
  handlerPc := draft.handlerPc
  catchType := draft.caught.map Prod.snd

def catchIndex (draft : HandlerDraft) : Nat :=
  (draft.caught.map Prod.fst).getD 0

def bytes (draft : HandlerDraft) : List UInt8 :=
  bigEndianBytes 2 draft.startPc ++ (bigEndianBytes 2 draft.endPc ++
    (bigEndianBytes 2 draft.handlerPc ++ bigEndianBytes 2 draft.catchIndex))

structure Fits (pool : ConstantPool) (draft : HandlerDraft) : Prop where
  startPc : draft.startPc < 0x10000
  endPc : draft.endPc < 0x10000
  handlerPc : draft.handlerPc < 0x10000
  caught : ∀ index name, draft.caught = some (index, name) → pool.className index = .ok name

theorem length_bytes (draft : HandlerDraft) : draft.bytes.length = 8 := by
  simp only [bytes, List.length_append, length_bigEndianBytes]

theorem Fits.standsAt {draft : HandlerDraft} (fits : draft.Fits pool)
    (small : pool.entries.size ≤ 0x10000) (holds : HoldsAt data start draft.bytes) :
    draft.handler.StandsAt pool data start := by
  have inside := holds.inside
  rw [length_bytes] at inside
  simp only [bytes, holdsAt_append, length_bigEndianBytes] at holds
  obtain ⟨startPc, endPc, handlerPc, catchIndex⟩ := holds
  refine ⟨(startPc.numberAt_eq fits.startPc).symm, (endPc.numberAt_eq fits.endPc).symm,
    (handlerPc.numberAt_eq fits.handlerPc).symm, ?_, inside⟩
  obtain ⟨_, _, _, caught⟩ := draft
  cases caught with
  | none =>
    have number : numberAt data (start + 6) 2 = 0 := catchIndex.numberAt_eq (by decide : 0 < 65536)
    exact Or.inl ⟨rfl, number⟩
  | some named =>
    obtain ⟨index, name⟩ := named
    have found := fits.caught index name rfl
    obtain ⟨nameIndex, entry, -⟩ := ConstantPool.className_eq_ok_iff.mp found
    have positive := (ConstantPool.index_inside entry).1
    have number : numberAt data (start + 6) 2 = index := catchIndex.index_eq small entry
    rw [← number] at positive found
    exact Or.inr ⟨name, rfl, Nat.ne_of_gt positive, found⟩

end HandlerDraft

/-- What code holds besides nested attributes. -/
structure CodeDraft where
  maxStack : Nat
  maxLocals : Nat
  instructions : List UInt8
  handlers : List HandlerDraft
deriving DecidableEq, Repr

namespace CodeDraft

def body (draft : CodeDraft) : CodeBody where
  maxStack := draft.maxStack
  maxLocals := draft.maxLocals
  code := draft.instructions.toArray
  handlers := draft.handlers.map HandlerDraft.handler

/-- The bytes in front of `count` nested attributes. -/
def bytes (draft : CodeDraft) (count : Nat) : List UInt8 :=
  bigEndianBytes 2 draft.maxStack ++ (bigEndianBytes 2 draft.maxLocals ++
    (bigEndianBytes 4 draft.instructions.length ++ (draft.instructions ++
      (bigEndianBytes 2 draft.handlers.length ++
        (draft.handlers.flatMap HandlerDraft.bytes ++ bigEndianBytes 2 count)))))

structure Fits (pool : ConstantPool) (draft : CodeDraft) : Prop where
  maxStack : draft.maxStack < 0x10000
  maxLocals : draft.maxLocals < 0x10000
  codeLength : draft.instructions.length < 0x100000000
  handlerCount : draft.handlers.length < 0x10000
  handlers : ∀ handler ∈ draft.handlers, handler.Fits pool

theorem length_handlers (draft : CodeDraft) :
    (draft.handlers.flatMap HandlerDraft.bytes).length = 8 * draft.body.handlers.length := by
  simp only [length_flatMap, HandlerDraft.length_bytes, totalLength_const, body, List.length_map]

theorem length_bytes (draft : CodeDraft) (count : Nat) :
    (draft.bytes count).length = draft.body.width := by
  have table := length_handlers draft
  have code : draft.body.code.size = draft.instructions.length := List.size_toArray
  simp only [bytes, List.length_append, length_bigEndianBytes, CodeBody.width]
  omega

theorem Fits.standsAt {draft : CodeDraft} (fits : draft.Fits pool)
    (small : pool.entries.size ≤ 0x10000) {count : Nat} (few : count < 0x10000)
    (holds : HoldsAt data start (draft.bytes count)) :
    draft.body.StandsAt pool data start count := by
  have inside := holds.inside
  have code : draft.body.code.size = draft.instructions.length := List.size_toArray
  rw [length_bytes] at inside
  simp only [bytes, holdsAt_append, length_bigEndianBytes, length_handlers, ← code] at holds
  obtain ⟨maxStack, maxLocals, codeLength, instructions, handlerCount, handlers, nested⟩ := holds
  have table : start + 2 + 2 + 4 + draft.body.code.size + 2 =
      start + 10 + draft.body.code.size := by omega
  rw [table] at handlers nested
  refine ⟨?_, ?_, ?_, ?_, ?_, ?_, ?_, inside⟩
  · exact (maxStack.numberAt_eq fits.maxStack).symm
  · exact (maxLocals.numberAt_eq fits.maxLocals).symm
  · exact (codeLength.numberAt_eq (code ▸ fits.codeLength)).symm
  · have extract := instructions.extract
    rw [← code] at extract
    exact extract.symm
  · rw [body, List.length_map]
    exact (handlerCount.numberAt_eq fits.handlerCount).symm
  · apply handlers.consecutive
    · exact fun handler present place here => (fits.handlers handler present).standsAt small here
    · exact fun handler _ => handler.length_bytes.symm
  · exact (nested.numberAt_eq few).symm

end CodeDraft

inductive AttributeDraft
  | unknown (nameIndex : Nat) (name : Text) (body : List UInt8)
  | constantValue (nameIndex valueIndex : Nat) (value : Literal)
  | sourceFile (nameIndex textIndex : Nat) (filename : Text)
  | signature (nameIndex textIndex : Nat) (signature : Text)
  | exceptions (nameIndex : Nat) (classes : List (Nat × Text))
  | deprecated (nameIndex : Nat) (body : List UInt8)
  | synthetic (nameIndex : Nat) (body : List UInt8)
  | code (nameIndex : Nat) (own : CodeDraft) (nested : List AttributeDraft)

namespace AttributeDraft

def nameIndex : AttributeDraft → Nat
  | .unknown nameIndex .. | .constantValue nameIndex .. | .sourceFile nameIndex ..
  | .signature nameIndex .. | .exceptions nameIndex .. | .deprecated nameIndex ..
  | .synthetic nameIndex .. | .code nameIndex .. => nameIndex

def kind : AttributeDraft → AttributeKind
  | .unknown .. => .unknown
  | .constantValue .. => .constantValue
  | .sourceFile .. => .sourceFile
  | .signature .. => .signature
  | .exceptions .. => .exceptions
  | .deprecated .. => .deprecated
  | .synthetic .. => .synthetic
  | .code .. => .code

def name : AttributeDraft → Text
  | .unknown _ name _ => name
  | draft => draft.kind.typeName

mutual

def body : AttributeDraft → List UInt8
  | .unknown _ _ body | .deprecated _ body | .synthetic _ body => body
  | .constantValue _ index _ | .sourceFile _ index _ | .signature _ index _ =>
    bigEndianBytes 2 index
  | .exceptions _ classes =>
    bigEndianBytes 2 classes.length ++ classes.flatMap fun named => bigEndianBytes 2 named.1
  | .code _ own nested => own.bytes nested.length ++ allBytes nested

def allBytes : List AttributeDraft → List UInt8
  | [] => []
  | draft :: rest =>
    bigEndianBytes 2 draft.nameIndex ++ (bigEndianBytes 4 draft.body.length ++ draft.body) ++
      allBytes rest

end

def bytes (draft : AttributeDraft) : List UInt8 :=
  bigEndianBytes 2 draft.nameIndex ++ (bigEndianBytes 4 draft.body.length ++ draft.body)

def header (draft : AttributeDraft) : AttributeHeader where
  nameIndex := draft.nameIndex
  name := draft.name
  length := draft.body.length
  body := draft.body.toArray

mutual

def record : AttributeDraft → Attribute
  | .unknown nameIndex name body => .unknown (header (.unknown nameIndex name body))
  | .constantValue nameIndex valueIndex value =>
    .constantValue (header (.constantValue nameIndex valueIndex value)) valueIndex value
  | .sourceFile nameIndex textIndex filename =>
    .sourceFile (header (.sourceFile nameIndex textIndex filename)) filename
  | .signature nameIndex textIndex text =>
    .signature (header (.signature nameIndex textIndex text)) text
  | .exceptions nameIndex classes =>
    .exceptions (header (.exceptions nameIndex classes)) (classes.map Prod.snd)
  | .deprecated nameIndex body => .deprecated (header (.deprecated nameIndex body))
  | .synthetic nameIndex body => .synthetic (header (.synthetic nameIndex body))
  | .code nameIndex own nested =>
    .code (header (.code nameIndex own nested)) own.body (records nested)

def records : List AttributeDraft → List Attribute
  | [] => []
  | draft :: rest => record draft :: records rest

end

/-- The name is that of the kind, and the length of the body has room in the header. -/
structure HeaderFits (pool : ConstantPool) (draft : AttributeDraft) : Prop where
  name : pool.utf8 draft.nameIndex = .ok draft.name
  kind : AttributeKind.ofName draft.name = draft.kind
  length : draft.body.length < 0x100000000

mutual

/-- Every index in the body leads to what stands beside it, and every count has room. -/
def BodyFits (pool : ConstantPool) : AttributeDraft → Prop
  | .unknown .. | .deprecated .. | .synthetic .. => True
  | .constantValue _ valueIndex value => pool.literal valueIndex = .ok value
  | .sourceFile _ textIndex text | .signature _ textIndex text => pool.utf8 textIndex = .ok text
  | .exceptions _ classes =>
    classes.length < 0x10000 ∧ ∀ named ∈ classes, pool.className named.1 = .ok named.2
  | .code _ own nested => own.Fits pool ∧ nested.length < 0x10000 ∧ AllFit pool nested

def AllFit (pool : ConstantPool) : List AttributeDraft → Prop
  | [] => True
  | draft :: rest => (HeaderFits pool draft ∧ BodyFits pool draft) ∧ AllFit pool rest

end

@[simp] theorem length_records (drafts : List AttributeDraft) :
    (records drafts).length = drafts.length := by
  induction drafts with
  | nil => rfl
  | cons draft rest ih => rw [records, List.length_cons, ih, List.length_cons]

theorem header_record (draft : AttributeDraft) : draft.record.header = draft.header := by
  cases draft <;> rfl

theorem rawLength_record (draft : AttributeDraft) :
    draft.record.rawLength = draft.bytes.length := by
  rw [Attribute.rawLength, header_record, AttributeHeader.rawLength, bytes]
  simp only [List.length_append, length_bigEndianBytes, header, AttributeHeader.width]
  omega

theorem length_allBytes (drafts : List AttributeDraft) :
    (allBytes drafts).length = totalLength Attribute.rawLength (records drafts) := by
  induction drafts with
  | nil => rfl
  | cons draft rest ih =>
    rw [allBytes, List.length_append, ih, records, totalLength_cons, rawLength_record, bytes]

theorem header_standsAt {draft : AttributeDraft} (fits : draft.HeaderFits pool)
    (small : pool.entries.size ≤ 0x10000) (holds : HoldsAt data start draft.bytes) :
    draft.header.StandsAt pool data start draft.kind ∧ HoldsAt data (start + 6) draft.body := by
  simp only [bytes, holdsAt_append, length_bigEndianBytes] at holds
  obtain ⟨nameIndex, length, body⟩ := holds
  have inside := body.inside
  have extract := body.extract
  refine ⟨⟨(nameIndex.index_eq small fits.name).symm, fits.name, fits.kind,
    (length.numberAt_eq fits.length).symm, ?_, inside⟩, body⟩
  exact extract.symm

mutual

theorem standsAt (small : pool.entries.size ≤ 0x10000) {start : Nat} : (draft : AttributeDraft) →
    draft.HeaderFits pool → draft.BodyFits pool → HoldsAt data start draft.bytes →
      draft.record.StandsAt pool data start
  | .unknown .., headerFits, _, holds => (header_standsAt headerFits small holds).1
  | .deprecated .., headerFits, _, holds => (header_standsAt headerFits small holds).1
  | .synthetic .., headerFits, _, holds => (header_standsAt headerFits small holds).1
  | .constantValue _ valueIndex value, headerFits, fits, holds => by
    obtain ⟨header, body⟩ := header_standsAt headerFits small holds
    have index : HoldsAt data (start + 6) (bigEndianBytes 2 valueIndex) := body
    exact ⟨header, index.word_inside, (index.index_eq small fits).symm, fits⟩
  | .sourceFile _ textIndex text, headerFits, fits, holds
  | .signature _ textIndex text, headerFits, fits, holds => by
    obtain ⟨header, body⟩ := header_standsAt headerFits small holds
    have index : HoldsAt data (start + 6) (bigEndianBytes 2 textIndex) := body
    refine ⟨header, index.word_inside, ?_⟩
    rw [index.index_eq small fits]
    exact fits
  | .exceptions _ classes, headerFits, ⟨many, fits⟩, holds => by
    obtain ⟨header, body⟩ := header_standsAt headerFits small holds
    obtain ⟨count, listed⟩ := holdsAt_append.mp body
    rw [length_bigEndianBytes] at listed
    refine ⟨header, count.word_inside, ?_, listed.consecutive ?_ ?_⟩
    · rw [List.length_map]
      exact (count.numberAt_eq many).symm
    · intro named present place index
      have found := fits named present
      obtain ⟨nameIndex, entry, -⟩ := ConstantPool.className_eq_ok_iff.mp found
      refine ⟨?_, index.word_inside⟩
      rw [index.index_eq small entry]
      exact found
    · intro named _
      exact (length_bigEndianBytes 2 named.1).symm
  | .code _ own nested, headerFits, ⟨ownFits, few, nestedFit⟩, holds => by
    obtain ⟨header, body⟩ := header_standsAt headerFits small holds
    obtain ⟨front, behind⟩ := holdsAt_append.mp body
    rw [CodeDraft.length_bytes] at behind
    have bodyStands := ownFits.standsAt small few front
    rw [← length_records] at bodyStands
    refine ⟨header, bodyStands, ?_, allStandAt small nested nestedFit behind⟩
    rw [← length_allBytes, ← CodeDraft.length_bytes own nested.length]
    exact List.length_append

theorem allStandAt (small : pool.entries.size ≤ 0x10000) {start : Nat} :
    (drafts : List AttributeDraft) → AllFit pool drafts → HoldsAt data start (allBytes drafts) →
      Attribute.AllStandAt pool data start (records drafts)
  | [], _, _ => trivial
  | draft :: rest, ⟨⟨headerFits, bodyFits⟩, fits⟩, holds => by
    obtain ⟨first, others⟩ := holdsAt_append.mp holds
    refine ⟨standsAt small draft headerFits bodyFits first, ?_⟩
    rw [rawLength_record]
    exact allStandAt small rest fits others

end

end AttributeDraft

structure MemberDraft where
  access : Nat
  nameIndex : Nat
  name : Text
  descriptorIndex : Nat
  descriptor : Text
  attributes : List AttributeDraft

namespace MemberDraft

def bytes (draft : MemberDraft) : List UInt8 :=
  bigEndianBytes 2 draft.access ++ (bigEndianBytes 2 draft.nameIndex ++
    (bigEndianBytes 2 draft.descriptorIndex ++ (bigEndianBytes 2 draft.attributes.length ++
      AttributeDraft.allBytes draft.attributes)))

def member (bits : AccessFlags.Bits) (draft : MemberDraft) : Member where
  flags := AccessFlags.ofWord bits draft.access
  nameIndex := draft.nameIndex
  name := draft.name
  descriptor := draft.descriptor
  attributes := AttributeDraft.records draft.attributes
  attributesLength := (AttributeDraft.allBytes draft.attributes).length

structure Fits (pool : ConstantPool) (draft : MemberDraft) : Prop where
  access : draft.access < 0x10000
  name : pool.utf8 draft.nameIndex = .ok draft.name
  descriptor : pool.utf8 draft.descriptorIndex = .ok draft.descriptor
  attributeCount : draft.attributes.length < 0x10000
  attributes : AttributeDraft.AllFit pool draft.attributes

theorem rawLength_member (bits : AccessFlags.Bits) (draft : MemberDraft) :
    (draft.member bits).rawLength = draft.bytes.length := by
  simp only [bytes, List.length_append, length_bigEndianBytes, Member.rawLength,
    Member.headerWidth, member]
  omega

theorem Fits.standsAt {draft : MemberDraft} (fits : draft.Fits pool)
    (small : pool.entries.size ≤ 0x10000) (bits : AccessFlags.Bits)
    (holds : HoldsAt data start draft.bytes) :
    (draft.member bits).StandsAt bits pool data start := by
  simp only [bytes, holdsAt_append, length_bigEndianBytes] at holds
  obtain ⟨access, nameIndex, descriptorIndex, attributeCount, attributes⟩ := holds
  have flags := access.numberAt_eq fits.access
  have index := descriptorIndex.index_eq small fits.descriptor
  have count := attributeCount.numberAt_eq fits.attributeCount
  refine ⟨?_, (nameIndex.index_eq small fits.name).symm, fits.name, ?_, ?_,
    AttributeDraft.length_allBytes draft.attributes,
    AttributeDraft.allStandAt small draft.attributes fits.attributes attributes,
    attributes.within⟩
  · rw [flags]
    rfl
  · rw [index]
    exact fits.descriptor
  · rw [member, AttributeDraft.length_records]
    exact count.symm

end MemberDraft

/-- A field, its descriptor a type. -/
structure FieldDraft extends MemberDraft

namespace FieldDraft

def field (draft : FieldDraft) : Field :=
  { draft.member AccessFlags.fieldBits with }

structure Fits (pool : ConstantPool) (draft : FieldDraft) : Prop where
  member : draft.toMemberDraft.Fits pool
  accepted : ∃ result, Descriptor.field draft.descriptor = .ok result

theorem Fits.standsAt {draft : FieldDraft} (fits : draft.Fits pool)
    (small : pool.entries.size ≤ 0x10000) (holds : HoldsAt data start draft.bytes) :
    draft.field.StandsAt pool data start :=
  ⟨fits.member.standsAt small _ holds, fits.accepted⟩

end FieldDraft

/-- A method, with the parameters and the result in its descriptor. -/
structure MethodDraft extends MemberDraft where
  signature : Descriptor.Signature

namespace MethodDraft

def method (draft : MethodDraft) : Method :=
  { draft.member AccessFlags.methodBits with signature := draft.signature }

structure Fits (pool : ConstantPool) (draft : MethodDraft) : Prop where
  member : draft.toMemberDraft.Fits pool
  accepted : Descriptor.method draft.descriptor = .ok draft.signature

theorem Fits.standsAt {draft : MethodDraft} (fits : draft.Fits pool)
    (small : pool.entries.size ≤ 0x10000) (holds : HoldsAt data start draft.bytes) :
    draft.method.StandsAt pool data start :=
  ⟨fits.member.standsAt small _ holds, fits.accepted⟩

end MethodDraft

end ClassOutline
