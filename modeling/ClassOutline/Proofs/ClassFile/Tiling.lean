import ClassOutline.Proofs.ClassFile.Format
import ClassOutline.Proofs.Members.Tiling

set_option autoImplicit false

namespace ClassOutline.ClassFile

/-- The attributes of fields, methods and the class, those nested in code among them, each with the
place where it begins. -/
def placedAttributes (file : ClassFile) : List (Nat × Attribute) :=
  Member.placedFrom file.layout.fields (file.fields.map Field.toMember) ++
    Member.placedFrom file.layout.methods (file.methods.map Method.toMember) ++
      Attribute.placedFrom file.layout.attributes file.attributes

structure Tiles (data : Array UInt8) (file : ClassFile) : Prop where
  layout : file.layout.Spans file.pool.rawLength (2 * file.interfaces.length)
    (totalLength (fun field => field.rawLength) file.fields)
    (totalLength (fun method => method.rawLength) file.methods)
    (totalLength Attribute.rawLength file.attributes)
  pool : ∃ records, file.pool.StandsAt data 10 file.poolCount records
  fields : Consecutive (Field.StandsAt file.pool data) (fun field => field.rawLength)
    file.layout.fields file.fields
  methods : Consecutive (Method.StandsAt file.pool data) (fun method => method.rawLength)
    file.layout.methods file.methods
  fieldLength : ∀ field ∈ file.fields,
    field.rawLength = 8 + totalLength Attribute.rawLength field.attributes
  methodLength : ∀ method ∈ file.methods,
    method.rawLength = 8 + totalLength Attribute.rawLength method.attributes
  attributes : ∀ place record, (place, record) ∈ file.placedAttributes →
    record.OccupiesAt file.pool data place
  apart : file.placedAttributes.Pairwise Attribute.BehindOrWithin
  inside : file.layout.finish ≤ data.size

theorem StandsIn.nest {data : Array UInt8} {file : ClassFile} (stands : file.StandsIn data) :
    Attribute.Nest file.pool data file.layout.fields file.layout.finish file.placedAttributes := by
  have spans := stands.sections.layout
  have fields := Member.nest_placedFrom (stands.sections.fields.map fun _ _ field => field.member)
  have methods :=
    Member.nest_placedFrom (stands.sections.methods.map fun _ _ method => method.member)
  have attributes := Attribute.nest_placedFrom file.attributes stands.sections.attributes
  rw [totalLength_map, ← spans.methodsCount] at fields
  rw [totalLength_map, ← spans.attributesCount] at methods
  rw [← spans.finish] at attributes
  have before := spans.methods
  have behind := spans.attributes
  have lengths := And.intro spans.methodsCount (And.intro spans.attributesCount spans.finish)
  have members := (fields.widen (Nat.le_refl _) (by omega)).append methods (by omega) (by omega)
  exact (members.widen (Nat.le_refl _) (by omega)).append attributes (by omega) (by omega)

/-- The records of a class file that decodes tile its bytes. -/
theorem tiles_of_decode {data : Array UInt8} {source : Option Text} {file : ClassFile}
    (decoded : decode data source = .ok file) : file.Tiles data := by
  have stands := (decode_eq_ok_iff.mp decoded).1
  have nest := stands.nest
  exact {
    layout := stands.sections.layout
    pool := stands.preamble.pool
    fields := stands.sections.fields
    methods := stands.sections.methods
    fieldLength := by
      intro field present
      obtain ⟨place, here⟩ := stands.sections.fields.stands_of_mem present
      exact here.member.rawLength_eq
    methodLength := by
      intro method present
      obtain ⟨place, here⟩ := stands.sections.methods.stands_of_mem present
      exact here.member.rawLength_eq
    attributes := by
      intro place record present
      exact (nest.stand place record present).occupiesAt
    apart := nest.apart
    inside := stands.sections.inside }

theorem tiles_nestedCode : ∃ file, decode nestedCode = .ok file ∧ file.Tiles nestedCode := by
  obtain ⟨file, decoded⟩ := exists_decode_nestedCode
  exact ⟨file, decoded, tiles_of_decode decoded⟩

end ClassOutline.ClassFile
