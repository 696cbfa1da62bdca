import ClassOutline.Proofs.ClassFile.Format
import ClassOutline.Proofs.Members.Encoding
import ClassOutline.Proofs.Pool.Encoding

set_option autoImplicit false

namespace ClassOutline

open View (numberAt)

/-- A class file to be written. A class in it is the index of an entry with the name index there. -/
structure ClassDraft where
  source : Option Text
  minorVersion : Nat
  majorVersion : Nat
  constants : List Constant
  access : Nat
  thisClass : Nat × Nat
  superClass : Option (Nat × Nat)
  interfaces : List (Nat × Nat)
  fields : List FieldDraft
  methods : List MethodDraft
  attributes : List AttributeDraft

namespace ClassDraft

def pool (draft : ClassDraft) : ConstantPool :=
  ConstantPool.ofConstants draft.constants draft.source

def poolCount (draft : ClassDraft) : Nat :=
  1 + totalLength (fun constant => constant.entry.kind.slots) draft.constants

def superIndex (draft : ClassDraft) : Nat :=
  (draft.superClass.map Prod.fst).getD 0

def preambleBytes (draft : ClassDraft) : List UInt8 :=
  bigEndianBytes 4 Preamble.magic ++ (bigEndianBytes 2 draft.minorVersion ++
    (bigEndianBytes 2 draft.majorVersion ++ (bigEndianBytes 2 draft.poolCount ++
      draft.constants.flatMap Constant.bytes)))

def interfaceBytes (draft : ClassDraft) : List UInt8 :=
  draft.interfaces.flatMap fun entry => bigEndianBytes 2 entry.1

def fieldBytes (draft : ClassDraft) : List UInt8 :=
  draft.fields.flatMap fun field => field.bytes

def methodBytes (draft : ClassDraft) : List UInt8 :=
  draft.methods.flatMap fun method => method.bytes

def sectionBytes (draft : ClassDraft) : List UInt8 :=
  bigEndianBytes 2 draft.access ++ (bigEndianBytes 2 draft.thisClass.1 ++
    (bigEndianBytes 2 draft.superIndex ++
      (bigEndianBytes 2 draft.interfaces.length ++ (draft.interfaceBytes ++
        (bigEndianBytes 2 draft.fields.length ++ (draft.fieldBytes ++
          (bigEndianBytes 2 draft.methods.length ++ (draft.methodBytes ++
            (bigEndianBytes 2 draft.attributes.length ++
              AttributeDraft.allBytes draft.attributes)))))))))

def bytes (draft : ClassDraft) : List UInt8 :=
  draft.preambleBytes ++ draft.sectionBytes

def layout (draft : ClassDraft) : Layout :=
  Layout.spanning draft.pool.rawLength draft.interfaceBytes.length draft.fieldBytes.length
    draft.methodBytes.length (AttributeDraft.allBytes draft.attributes).length

def file (draft : ClassDraft) : ClassFile where
  minorVersion := draft.minorVersion
  majorVersion := draft.majorVersion
  poolCount := draft.poolCount
  pool := draft.pool
  flags := AccessFlags.ofWord AccessFlags.classBits draft.access
  interfaces := draft.interfaces.map Prod.snd
  fields := draft.fields.map FieldDraft.field
  methods := draft.methods.map MethodDraft.method
  attributes := AttributeDraft.records draft.attributes
  layout := draft.layout
  source := draft.source
  thisClass := draft.thisClass.2
  superClass := draft.superClass.map Prod.snd

/-- Every number has room in its bytes, and every index leads to what stands beside it. -/
structure Fits (draft : ClassDraft) : Prop where
  minorVersion : draft.minorVersion < 0x10000
  majorVersion : draft.majorVersion < 0x10000
  poolCount : draft.poolCount < 0x10000
  constants : ∀ constant ∈ draft.constants, constant.Fits
  classNames : ConstantPool.ClassesNamed draft.pool.entries
  access : draft.access < 0x10000
  thisClass : draft.pool.classEntry draft.thisClass.1 = .ok draft.thisClass.2
  superClass : ∀ entry ∈ draft.superClass, draft.pool.classEntry entry.1 = .ok entry.2
  interfaceCount : draft.interfaces.length < 0x10000
  interfaces : ∀ entry ∈ draft.interfaces, draft.pool.classEntry entry.1 = .ok entry.2
  fieldCount : draft.fields.length < 0x10000
  fields : ∀ field ∈ draft.fields, field.Fits draft.pool
  methodCount : draft.methods.length < 0x10000
  methods : ∀ method ∈ draft.methods, method.Fits draft.pool
  attributeCount : draft.attributes.length < 0x10000
  attributes : AttributeDraft.AllFit draft.pool draft.attributes

variable {draft : ClassDraft} {data : Array UInt8}

theorem size_pool (draft : ClassDraft) : draft.pool.entries.size = draft.poolCount := by
  rw [pool, ConstantPool.ofConstants, Array.size_append, ConstantPool.size_table,
    totalLength_map]
  rfl

theorem Fits.small_pool (fits : draft.Fits) : draft.pool.entries.size ≤ 0x10000 := by
  rw [size_pool]
  exact Nat.le_of_lt fits.poolCount

theorem length_interfaceBytes (draft : ClassDraft) :
    draft.interfaceBytes.length = 2 * draft.file.interfaces.length := by
  simp only [interfaceBytes, length_flatMap, length_bigEndianBytes, totalLength_const, file,
    List.length_map]

theorem length_fieldBytes (draft : ClassDraft) :
    draft.fieldBytes.length = totalLength (fun field => field.rawLength) draft.file.fields := by
  apply length_flatMap_map
  intro field
  exact MemberDraft.rawLength_member _ field.toMemberDraft

theorem length_methodBytes (draft : ClassDraft) :
    draft.methodBytes.length =
      totalLength (fun method => method.rawLength) draft.file.methods := by
  apply length_flatMap_map
  intro method
  exact MemberDraft.rawLength_member _ method.toMemberDraft

theorem layout_spans (draft : ClassDraft) :
    draft.layout.Spans draft.pool.rawLength (2 * draft.file.interfaces.length)
      (totalLength (fun field => field.rawLength) draft.file.fields)
      (totalLength (fun method => method.rawLength) draft.file.methods)
      (totalLength Attribute.rawLength draft.file.attributes) := by
  rw [Layout.spans_iff, ← length_interfaceBytes, ← length_fieldBytes, ← length_methodBytes]
  exact congrArg (Layout.spanning _ _ _ _) (AttributeDraft.length_allBytes draft.attributes)

theorem finish_layout (draft : ClassDraft) : draft.layout.finish = draft.bytes.length := by
  simp only [layout, Layout.spanning, bytes, preambleBytes, sectionBytes, List.length_append,
    length_bigEndianBytes, pool, ConstantPool.ofConstants]
  omega

theorem Fits.preamble_standsIn (fits : draft.Fits) (holds : HoldsAt data 0 draft.preambleBytes) :
    draft.file.toPreamble.StandsIn data := by
  simp only [preambleBytes, holdsAt_append, length_bigEndianBytes] at holds
  obtain ⟨magic, minorVersion, majorVersion, poolCount, constants⟩ := holds
  obtain ⟨records, stands⟩ := ConstantPool.ofConstants_standsAt fits.constants fits.classNames
    constants
  refine ⟨magic.numberAt_eq (by decide), (minorVersion.numberAt_eq fits.minorVersion).symm,
    (majorVersion.numberAt_eq fits.majorVersion).symm,
    (poolCount.numberAt_eq fits.poolCount).symm, ⟨records, ?_⟩, constants.within⟩
  have count : (draft.poolCount : Int) = draft.pool.entries.size := by
    rw [size_pool]
  dsimp only [file]
  rw [count]
  exact stands

theorem Fits.sections_standIn (fits : draft.Fits) (inside : draft.layout.finish ≤ data.size)
    (holds : HoldsAt data draft.layout.accessFlags draft.sectionBytes) :
    draft.file.toSections.StandsIn draft.pool data := by
  have small := fits.small_pool
  simp only [sectionBytes, holdsAt_append, length_bigEndianBytes] at holds
  obtain ⟨access, thisClass, superClass, interfaceCount, interfaces, fieldCount, fields,
    methodCount, methods, attributeCount, attributes⟩ := holds
  have flags : numberAt data draft.layout.accessFlags 2 = draft.access :=
    access.numberAt_eq fits.access
  have interfaceNumber : numberAt data draft.layout.interfacesCount 2 = draft.interfaces.length :=
    interfaceCount.numberAt_eq fits.interfaceCount
  have fieldNumber : numberAt data draft.layout.fieldsCount 2 = draft.fields.length :=
    fieldCount.numberAt_eq fits.fieldCount
  have methodNumber : numberAt data draft.layout.methodsCount 2 = draft.methods.length :=
    methodCount.numberAt_eq fits.methodCount
  have attributeNumber : numberAt data draft.layout.attributesCount 2 = draft.attributes.length :=
    attributeCount.numberAt_eq fits.attributeCount
  exact {
    layout := draft.layout_spans
    flags := by
      have drafted : draft.file.flags =
          AccessFlags.ofWord AccessFlags.classBits draft.access := rfl
      rw [drafted, ← flags]
      rfl
    interfaceCount := (List.length_map _).trans interfaceNumber.symm
    interfaces := by
      apply interfaces.consecutive
      · intro entry present place here
        have found := fits.interfaces entry present
        refine ⟨?_, here.word_inside⟩
        rw [here.index_eq small found]
        exact found
      · exact fun entry _ => (length_bigEndianBytes 2 entry.1).symm
    fieldCount := (List.length_map _).trans fieldNumber.symm
    fields := by
      apply fields.consecutive
      · exact fun field present place here => (fits.fields field present).standsAt small here
      · exact fun field _ => MemberDraft.rawLength_member _ field.toMemberDraft
    methodCount := (List.length_map _).trans methodNumber.symm
    methods := by
      apply methods.consecutive
      · exact fun method present place here => (fits.methods method present).standsAt small here
      · exact fun method _ => MemberDraft.rawLength_member _ method.toMemberDraft
    attributeCount := (AttributeDraft.length_records _).trans attributeNumber.symm
    attributes := AttributeDraft.allStandAt small _ fits.attributes attributes
    inside := inside }

theorem Fits.standsIn (fits : draft.Fits) (holds : HoldsAt data 0 draft.bytes) :
    draft.file.StandsIn data := by
  have small := fits.small_pool
  have inside := holds.inside
  rw [← finish_layout, Nat.zero_add] at inside
  obtain ⟨preamble, sections⟩ := holdsAt_append.mp holds
  have place : 0 + draft.preambleBytes.length = draft.layout.accessFlags := by
    simp only [preambleBytes, List.length_append, length_bigEndianBytes, layout, Layout.spanning,
      pool, ConstantPool.ofConstants]
    omega
  rw [place] at sections
  have sectionsStand := fits.sections_standIn inside sections
  simp only [sectionBytes, holdsAt_append, length_bigEndianBytes] at sections
  obtain ⟨-, thisClass, superClass, -⟩ := sections
  have thisFound := fits.thisClass
  have thisNumber : numberAt data draft.layout.thisClass 2 = draft.thisClass.1 :=
    thisClass.index_eq small thisFound
  refine ⟨fits.preamble_standsIn preamble, sectionsStand, ?_, ?_, rfl⟩
  · rw [← thisNumber] at thisFound
    exact thisFound
  · cases chosen : draft.superClass with
    | none =>
      rw [superIndex, chosen] at superClass
      have number : numberAt data draft.layout.superClass 2 = 0 :=
        superClass.numberAt_eq (by decide : 0 < 65536)
      exact Or.inl ⟨congrArg (Option.map Prod.snd) chosen, number⟩
    | some entry =>
      rw [superIndex, chosen] at superClass
      have found := fits.superClass entry chosen
      have number : numberAt data draft.layout.superClass 2 = entry.1 :=
        superClass.index_eq small found
      have positive := (ConstantPool.index_inside found).1
      rw [← number] at found positive
      exact Or.inr ⟨entry.2, congrArg (Option.map Prod.snd) chosen, Nat.ne_of_gt positive, found⟩

/-- What is drafted and written is read back, to the last byte. -/
theorem decode_bytes (fits : draft.Fits) :
    ClassFile.decode draft.bytes.toArray draft.source = .ok draft.file ∧
      draft.file.layout.finish = draft.bytes.length := by
  have stands := fits.standsIn (holdsAt_toArray draft.bytes)
  exact ⟨ClassFile.decode_eq_ok_iff.mpr ⟨stands, rfl⟩, draft.finish_layout⟩

/-- A class with an entry of every kind, a field with a value and a method with nested code. -/
def sample : ClassDraft where
  source := none
  minorVersion := 0
  majorVersion := 52
  constants := [
    .utf8 "A" .utf8, .classRef 1, .utf8 "Code" .utf16, .utf8 "()V" .utf8, .utf8 "I" .utf8,
    .utf8 "ConstantValue" .utf8, .integer (-1), .float 0x7FC00001, .long (-1), .double 0, .string 1,
    .nameAndType 1 5, .fieldRef 2 14, .methodRef 2 14, .interfaceMethodRef 2 14, .methodHandle 1 15,
    .methodType 4, .dynamic 0 14, .invokeDynamic 0 14, .moduleRef 1, .packageRef 1,
    .utf8 "Exceptions" .utf8, .utf8 [0, 0x1F600, 0xD800] .utf16]
  access := 0x21
  thisClass := (2, 1)
  superClass := some (2, 1)
  interfaces := [(2, 1)]
  fields := [{
    access := 0x18
    nameIndex := 1
    name := "A"
    descriptorIndex := 5
    descriptor := "I"
    attributes := [.constantValue 6 7 (.int (-1))] }]
  methods := [{
    access := 1
    nameIndex := 1
    name := "A"
    descriptorIndex := 4
    descriptor := "()V"
    attributes := [
      .code 3 ⟨1, 1, [0xB1], [⟨0, 1, 0, some (2, "A")⟩, ⟨0, 1, 0, none⟩]⟩
        [.code 3 ⟨0, 0, [], []⟩ []],
      .exceptions 24 [(2, "A")]]
    signature := { parameters := [], result := "V" } }]
  attributes := [.unknown 25 [0, 0x1F600, 0xD800] [1, 2, 3]]

set_option maxRecDepth 2000 in
theorem sample_fits : sample.Fits := by
  have text : ∀ {index : Nat} {text : Text}, sample.pool.entry? index = some (.utf8 text) →
      sample.pool.utf8 index = .ok text := ConstantPool.utf8_eq_ok_iff.mpr
  have name : sample.pool.utf8 (1 : Nat) = .ok "A" := text (by decide +kernel)
  have code : sample.pool.utf8 (3 : Nat) = .ok "Code" := text (by decide +kernel)
  have entry : sample.pool.classEntry (2 : Nat) = .ok 1 :=
    ConstantPool.classEntry_eq_ok_iff.mpr (by decide +kernel)
  have className : sample.pool.className (2 : Nat) = .ok "A" :=
    ConstantPool.className_eq_ok_iff.mpr ⟨1, entry, name⟩
  have number : sample.pool.literal (7 : Nat) = .ok (.int (-1)) := rfl
  have handlers : ∀ handler ∈ [⟨0, 1, 0, some (2, "A")⟩, ⟨0, 1, 0, none⟩],
      HandlerDraft.Fits sample.pool handler := by
    refine List.forall_mem_cons.mpr ⟨⟨by decide, by decide, by decide, ?_⟩,
      List.forall_mem_singleton.mpr ⟨by decide, by decide, by decide, ?_⟩⟩
    · rintro index name ⟨⟩
      exact className
    · rintro index name ⟨⟩
  have inner : AttributeDraft.AllFit sample.pool [.code 3 ⟨0, 0, [], []⟩ []] := by
    refine ⟨⟨⟨code, by decide, by decide⟩, ⟨by decide, by decide, by decide, by decide, ?_⟩,
      by decide, trivial⟩, trivial⟩
    rintro handler ⟨⟩
  exact {
    minorVersion := by decide
    majorVersion := by decide
    poolCount := by decide
    constants := by decide +kernel
    classNames := (ConstantPool.findClassNameFault_eq_none_iff _).mp (by decide +kernel)
    access := by decide
    thisClass := entry
    superClass := by
      rintro _ ⟨⟩
      exact entry
    interfaceCount := by decide
    interfaces := List.forall_mem_singleton.mpr entry
    fieldCount := by decide
    fields := by
      refine List.forall_mem_singleton.mpr ⟨⟨by decide, name, text (by decide +kernel), by decide,
        ⟨⟨⟨text (by decide +kernel), by decide, by decide⟩, number⟩, trivial⟩⟩, ⟨"I", ?_⟩⟩
      rfl
    methodCount := by decide
    methods := by
      refine List.forall_mem_singleton.mpr ⟨⟨by decide, name, text (by decide +kernel), by decide,
        ⟨⟨code, by decide, by decide⟩, ?_⟩, ⟨⟨text (by decide +kernel), by decide, by decide⟩, ?_⟩,
        trivial⟩, ?_⟩
      · exact ⟨⟨by decide, by decide, by decide, by decide, handlers⟩, by decide, inner⟩
      · exact ⟨by decide, List.forall_mem_singleton.mpr className⟩
      · cbv
    attributeCount := by decide
    attributes := ⟨⟨⟨text (by decide +kernel), by decide, by decide⟩, trivial⟩, trivial⟩ }

def bare : ClassDraft where
  source := none
  minorVersion := 0
  majorVersion := 52
  constants := [.utf8 "A" .utf8, .classRef 1, .utf8 "Code" .utf8]
  access := 0x21
  thisClass := (2, 1)
  superClass := none
  interfaces := []
  fields := []
  methods := []
  attributes := []

theorem bare_fits : bare.Fits where
  minorVersion := by decide
  majorVersion := by decide
  poolCount := by decide
  constants := by decide +kernel
  classNames := (ConstantPool.findClassNameFault_eq_none_iff _).mp (by decide +kernel)
  access := by decide
  thisClass := ConstantPool.classEntry_eq_ok_iff.mpr (by decide +kernel)
  superClass := nofun
  interfaceCount := by decide
  interfaces := nofun
  fieldCount := by decide
  fields := nofun
  methodCount := by decide
  methods := nofun
  attributeCount := by decide
  attributes := trivial

end ClassDraft

end ClassOutline
