import ClassOutline.ClassFile.Basic
import ClassOutline.Proofs.Members.Reading
import ClassOutline.Proofs.Pool.Format

set_option autoImplicit false

namespace ClassOutline

open View (numberAt)

/-- Each section begins where the one in front ends. The arguments are the lengths of the pool and
of the sections that vary. -/
structure Layout.Spans
    (poolLength interfacesLength fieldsLength methodsLength attributesLength : Nat)
    (layout : Layout) : Prop where
  accessFlags : layout.accessFlags = 10 + poolLength
  thisClass : layout.thisClass = layout.accessFlags + 2
  superClass : layout.superClass = layout.thisClass + 2
  interfacesCount : layout.interfacesCount = layout.superClass + 2
  interfaces : layout.interfaces = layout.interfacesCount + 2
  fieldsCount : layout.fieldsCount = layout.interfaces + interfacesLength
  fields : layout.fields = layout.fieldsCount + 2
  methodsCount : layout.methodsCount = layout.fields + fieldsLength
  methods : layout.methods = layout.methodsCount + 2
  attributesCount : layout.attributesCount = layout.methods + methodsLength
  attributes : layout.attributes = layout.attributesCount + 2
  finish : layout.finish = layout.attributes + attributesLength

/-- The one layout with sections of these lengths. -/
def Layout.spanning
    (poolLength interfacesLength fieldsLength methodsLength attributesLength : Nat) : Layout :=
  let accessFlags := 10 + poolLength
  let fieldsCount := accessFlags + 6 + 2 + interfacesLength
  let methodsCount := fieldsCount + 2 + fieldsLength
  let attributesCount := methodsCount + 2 + methodsLength
  { accessFlags
    thisClass := accessFlags + 2
    superClass := accessFlags + 4
    interfacesCount := accessFlags + 6
    interfaces := accessFlags + 6 + 2
    fieldsCount
    fields := fieldsCount + 2
    methodsCount
    methods := methodsCount + 2
    attributesCount
    attributes := attributesCount + 2
    finish := attributesCount + 2 + attributesLength }

theorem Layout.spans_iff
    {poolLength interfacesLength fieldsLength methodsLength attributesLength : Nat}
    {layout : Layout} :
    layout.Spans poolLength interfacesLength fieldsLength methodsLength attributesLength ↔
      layout =
        spanning poolLength interfacesLength fieldsLength methodsLength attributesLength := by
  constructor
  · intro spans
    cases layout
    cases spans
    simp only [spanning, Layout.mk.injEq] at *
    omega
  · rintro rfl
    exact ⟨rfl, rfl, rfl, rfl, rfl, rfl, rfl, rfl, rfl, rfl, rfl, rfl⟩

structure Preamble.StandsIn (data : Array UInt8) (preamble : Preamble) : Prop where
  magic : numberAt data 0 4 = Preamble.magic
  minorVersion : preamble.minorVersion = numberAt data 4 2
  majorVersion : preamble.majorVersion = numberAt data 6 2
  poolCount : preamble.poolCount = numberAt data 8 2
  pool : ∃ records, preamble.pool.StandsAt data 10 preamble.poolCount records
  inside : 10 ≤ data.size

structure Sections.StandsIn (pool : ConstantPool) (data : Array UInt8) (sections : Sections) :
    Prop where
  layout : sections.layout.Spans pool.rawLength (2 * sections.interfaces.length)
    (totalLength (fun field => field.rawLength) sections.fields)
    (totalLength (fun method => method.rawLength) sections.methods)
    (totalLength Attribute.rawLength sections.attributes)
  flags : sections.flags =
    AccessFlags.ofWord AccessFlags.classBits (numberAt data sections.layout.accessFlags 2)
  interfaceCount : sections.interfaces.length = numberAt data sections.layout.interfacesCount 2
  interfaces : Consecutive (ListsEntry pool data) (fun _ => 2) sections.layout.interfaces
    sections.interfaces
  fieldCount : sections.fields.length = numberAt data sections.layout.fieldsCount 2
  fields : Consecutive (Field.StandsAt pool data) (fun field => field.rawLength)
    sections.layout.fields sections.fields
  methodCount : sections.methods.length = numberAt data sections.layout.methodsCount 2
  methods : Consecutive (Method.StandsAt pool data) (fun method => method.rawLength)
    sections.layout.methods sections.methods
  attributeCount : sections.attributes.length = numberAt data sections.layout.attributesCount 2
  attributes : Attribute.AllStandAt pool data sections.layout.attributes sections.attributes
  inside : sections.layout.finish ≤ data.size

/-- A class file, the class and its superclass resolved. No index stands for no superclass. -/
structure ClassFile.StandsIn (data : Array UInt8) (file : ClassFile) : Prop where
  preamble : file.toPreamble.StandsIn data
  sections : file.toSections.StandsIn file.pool data
  thisClass : file.pool.classEntry (numberAt data file.layout.thisClass 2) = .ok file.thisClass
  superClass : file.superClass = none ∧ numberAt data file.layout.superClass 2 = 0 ∨
    ∃ nameIndex, file.superClass = some nameIndex ∧ numberAt data file.layout.superClass 2 ≠ 0 ∧
      file.pool.classEntry (numberAt data file.layout.superClass 2) = .ok nameIndex
  source : file.pool.source = file.source

variable {view : View}

theorem Preamble.read_eq_ok_iff (base : view.base = (0 : Nat)) {preamble : Preamble} :
    read view = .ok preamble ↔
      preamble.StandsIn view.data ∧ preamble.pool.source = view.source := by
  have behind := View.window_base_eq base 10
  constructor
  · intro found
    obtain ⟨-, found⟩ := (View.unsigned_bind_iff base 0 rfl).mp found
    dsimp only at found
    split at found
    · cases found
    rename_i right
    obtain ⟨-, found⟩ := (View.unsigned_bind_iff base 4 rfl).mp found
    obtain ⟨-, found⟩ := (View.unsigned_bind_iff base 6 rfl).mp found
    obtain ⟨inside, found⟩ := (View.unsigned_bind_iff base 8 rfl).mp found
    obtain ⟨pool, read, found⟩ := bind_eq_ok_iff.mp found
    obtain ⟨source, records, stands⟩ := (ConstantPool.read_eq_ok_iff behind).mp read
    obtain rfl := pure_eq_ok_iff.mp found
    exact ⟨⟨Decidable.not_not.mp right, rfl, rfl, rfl, ⟨records, stands⟩, inside⟩, source⟩
  · rintro ⟨⟨magic, minorVersion, majorVersion, poolCount, records, inside⟩, source⟩
    refine (View.unsigned_bind_iff base 0 rfl).mpr ⟨by omega, ?_⟩
    rw [if_neg (not_not_intro magic)]
    refine (View.unsigned_bind_iff base 4 minorVersion).mpr ⟨by omega, ?_⟩
    refine (View.unsigned_bind_iff base 6 majorVersion).mpr ⟨by omega, ?_⟩
    refine (View.unsigned_bind_iff base 8 poolCount).mpr ⟨inside, ?_⟩
    apply bind_eq_ok_iff.mpr
    exact ⟨preamble.pool, (ConstantPool.read_eq_ok_iff behind).mpr ⟨source, records⟩, rfl⟩

theorem Sections.read_eq_ok_iff (base : view.base = (0 : Nat)) {pool : ConstantPool}
    {sections : Sections} :
    read view pool = .ok sections ↔ sections.StandsIn pool view.data := by
  have word := View.word_eq_ok_iff base
  have place : ∀ place : Nat, (view.window place).base = place := by
    intro place
    rw [View.window_base_eq base, Nat.zero_add]
  constructor
  · intro found
    obtain ⟨-, found⟩ := (View.word_bind_iff base _ rfl).mp found
    obtain ⟨interfaceCount, read, found⟩ := bind_eq_ok_iff.mp found
    obtain ⟨-, interfaceCount⟩ := (word _).mp read
    obtain ⟨⟨interfaces, _⟩, read, found⟩ := bind_eq_ok_iff.mp found
    obtain ⟨rfl, -, interfacesStand⟩ :=
      (View.fixedRecords_eq_ok_iff (place _) ListsEntry.read_eq_ok_iff).mp read
    obtain ⟨fieldCount, read, found⟩ := bind_eq_ok_iff.mp found
    obtain ⟨-, fieldCount⟩ := (word _).mp read
    obtain ⟨⟨fields, _⟩, read, found⟩ := bind_eq_ok_iff.mp found
    obtain ⟨rfl, rfl, fieldsStand⟩ :=
      (View.records_eq_ok_iff (place _) Field.read_eq_ok_iff).mp read
    obtain ⟨methodCount, read, found⟩ := bind_eq_ok_iff.mp found
    obtain ⟨-, methodCount⟩ := (word _).mp read
    obtain ⟨⟨methods, _⟩, read, found⟩ := bind_eq_ok_iff.mp found
    obtain ⟨rfl, rfl, methodsStand⟩ :=
      (View.records_eq_ok_iff (place _) Method.read_eq_ok_iff).mp read
    obtain ⟨attributeCount, read, found⟩ := bind_eq_ok_iff.mp found
    obtain ⟨inside, attributeCount⟩ := (word _).mp read
    obtain ⟨⟨attributes, _⟩, read, found⟩ := bind_eq_ok_iff.mp found
    obtain ⟨rfl, rfl, attributesStand⟩ := (Attribute.records_eq_ok_iff (place _)).mp read
    obtain rfl := pure_eq_ok_iff.mp found
    exact {
      layout := ⟨rfl, rfl, rfl, rfl, rfl, rfl, rfl, rfl, rfl, rfl, rfl, rfl⟩
      flags := AccessFlags.decode_eq_ofWord AccessFlags.masks_class _
      interfaceCount := interfaceCount
      interfaces := interfacesStand
      fieldCount := fieldCount
      fields := fieldsStand
      methodCount := methodCount
      methods := methodsStand
      attributeCount := attributeCount
      attributes := attributesStand
      inside := attributesStand.inside inside }
  · rintro ⟨spans, flags, interfaceCount, interfacesStand, fieldCount, fieldsStand, methodCount,
      methodsStand, attributeCount, attributesStand, inside⟩
    obtain ⟨_, interfaces, fields, methods, attributes, layout⟩ := sections
    replace spans := Layout.spans_iff.mp spans
    dsimp only at spans
    subst spans
    dsimp only [Layout.spanning] at *
    have header : Preamble.width = 10 := rfl
    refine (View.word_bind_iff base _ rfl).mpr ⟨by omega, ?_⟩
    refine (View.word_bind_iff base _ interfaceCount).mpr ⟨by omega, ?_⟩
    apply bind_eq_ok_iff.mpr
    refine ⟨(_, _), (View.fixedRecords_eq_ok_iff (place _) ListsEntry.read_eq_ok_iff).mpr
      ⟨rfl, rfl, interfacesStand⟩, ?_⟩
    refine (View.word_bind_iff base _ fieldCount).mpr ⟨by omega, ?_⟩
    apply bind_eq_ok_iff.mpr
    refine ⟨(_, _), (View.records_eq_ok_iff (place _) Field.read_eq_ok_iff).mpr
      ⟨rfl, rfl, fieldsStand⟩, ?_⟩
    refine (View.word_bind_iff base _ methodCount).mpr ⟨by omega, ?_⟩
    apply bind_eq_ok_iff.mpr
    refine ⟨(_, _), (View.records_eq_ok_iff (place _) Method.read_eq_ok_iff).mpr
      ⟨rfl, rfl, methodsStand⟩, ?_⟩
    refine (View.word_bind_iff base _ attributeCount).mpr ⟨by omega, ?_⟩
    apply bind_eq_ok_iff.mpr
    refine ⟨(_, _), (Attribute.records_eq_ok_iff (place _)).mpr ⟨rfl, rfl, attributesStand⟩, ?_⟩
    rw [flags, ← AccessFlags.decode_eq_ofWord AccessFlags.masks_class]
    rfl

namespace ClassFile

variable {data : Array UInt8} {source : Option Text} {file : ClassFile}

theorem StandsIn.isInterface_iff (stands : file.StandsIn data) :
    file.isInterface = true ↔ numberAt data (10 + file.pool.rawLength) 2 / 0x0200 % 2 = 1 := by
  have bits (bit : Nat) : (bit, AccessFlag.interfaceType) ∈ AccessFlags.classBits ↔ bit = 9 := by
    simp [AccessFlags.classBits]
  rw [isInterface, List.contains_iff_mem, stands.sections.flags, AccessFlags.mem_ofWord_iff,
    stands.sections.layout.accessFlags]
  simp only [bits, exists_eq_left, Nat.testBit_eq_decide_div_mod_eq, decide_eq_true_iff]

/-- A class file is decoded exactly when the bytes hold it. -/
theorem decode_eq_ok_iff :
    decode data source = .ok file ↔ file.StandsIn data ∧ file.source = source := by
  have base : ({ data, source : View }).base = (0 : Nat) := rfl
  constructor
  · intro found
    obtain ⟨preamble, read, found⟩ := bind_eq_ok_iff.mp found
    obtain ⟨preambleStands, origin⟩ := (Preamble.read_eq_ok_iff rfl).mp read
    obtain ⟨sections, read, found⟩ := bind_eq_ok_iff.mp found
    have sectionsStand := (Sections.read_eq_ok_iff rfl).mp read
    obtain ⟨-, found⟩ := (View.word_bind_iff base _ rfl).mp found
    obtain ⟨thisClass, thisEntry, found⟩ := bind_eq_ok_iff.mp found
    obtain ⟨-, found⟩ := (View.word_bind_iff base _ rfl).mp found
    dsimp only at found
    split at found
    · rename_i absent
      obtain rfl := pure_eq_ok_iff.mp found
      exact ⟨⟨preambleStands, sectionsStand, thisEntry, Or.inl ⟨rfl, absent⟩, origin⟩, rfl⟩
    · rename_i present
      obtain ⟨superClass, read, found⟩ := bind_eq_ok_iff.mp found
      obtain ⟨nameIndex, entry, rfl⟩ := map_eq_ok_iff.mp read
      obtain rfl := pure_eq_ok_iff.mp found
      refine ⟨⟨preambleStands, sectionsStand, thisEntry, ?_, origin⟩, rfl⟩
      exact Or.inr ⟨nameIndex, rfl, present, entry⟩
  · rintro ⟨⟨preambleStands, sectionsStand, thisEntry, superEntry, origin⟩, rfl⟩
    have inside := sectionsStand.inside
    have spans := sectionsStand.layout
    have fits : file.layout.superClass + 2 ≤ file.layout.finish := by
      rw [spans.finish, spans.attributes, spans.attributesCount, spans.methods,
        spans.methodsCount, spans.fields, spans.fieldsCount, spans.interfaces,
        spans.interfacesCount]
      omega
    apply bind_eq_ok_iff.mpr
    refine ⟨_, (Preamble.read_eq_ok_iff rfl).mpr ⟨preambleStands, origin⟩, ?_⟩
    apply bind_eq_ok_iff.mpr
    refine ⟨_, (Sections.read_eq_ok_iff rfl).mpr sectionsStand, ?_⟩
    have below := spans.superClass
    refine (View.word_bind_iff base _ rfl).mpr ⟨?_, ?_⟩
    · dsimp only at *
      omega
    apply bind_eq_ok_iff.mpr
    refine ⟨_, thisEntry, ?_⟩
    refine (View.word_bind_iff base _ rfl).mpr ⟨?_, ?_⟩
    · dsimp only at *
      omega
    obtain ⟨preamble, sections, source, thisClass, superClass⟩ := file
    rcases superEntry with ⟨rfl, absent⟩ | ⟨nameIndex, rfl, present, entry⟩
    · exact if_pos absent
    · refine (if_neg present).trans ?_
      rw [entry]
      rfl

/-- A class with one method. In its code stand one instruction and an attribute for code again. -/
def nestedCode : Array UInt8 := #[
  0xCA, 0xFE, 0xBA, 0xBE, 0, 0, 0, 52, 0, 5,
  1, 0, 1, 0x41,
  7, 0, 1,
  1, 0, 4, 0x43, 0x6F, 0x64, 0x65,
  1, 0, 3, 0x28, 0x29, 0x56,
  0, 0, 0, 2, 0, 0, 0, 0, 0, 0, 0, 1,
  0, 0, 0, 1, 0, 4, 0, 1,
  0, 3, 0, 0, 0, 31, 0, 0, 0, 1, 0, 0, 0, 1, 0xB1, 0, 0, 0, 1,
  0, 3, 0, 0, 0, 12, 0, 0, 0, 0, 0, 0, 0, 0, 0, 0, 0, 0,
  0, 0]

theorem exists_decode_nestedCode : ∃ file, decode nestedCode = .ok file :=
  exists_ok_of_isOk (by decide +kernel)

end ClassFile

end ClassOutline
