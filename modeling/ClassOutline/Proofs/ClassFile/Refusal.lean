import ClassOutline.Proofs.ClassFile.Format
import ClassOutline.Proofs.Members.Refusal

set_option autoImplicit false

namespace ClassOutline

open Decoded (FailsBy)
open DecodeError (BorneOut EntriesStandIn Malformed Unfit)
open View (numberAt)

variable {view : View}

theorem Preamble.failsBy_read (base : view.base = (0 : Nat)) :
    FailsBy (BorneOut view.data view.source) (read view) := by
  have behind := View.window_base_eq base 10
  apply (View.failsBy_number base 4 0 (by omega)).bind
  intro found read
  obtain ⟨inside, same⟩ := (View.unsigned_eq_ok_iff base 0).mp read
  dsimp only
  by_cases right : found = magic
  · rw [if_neg (not_not_intro right)]
    apply (View.failsBy_number base 2 4 (by omega)).bind
    intro minorVersion _
    apply (View.failsBy_number base 2 6 (by omega)).bind
    intro majorVersion read
    have inside := ((View.unsigned_eq_ok_iff base 6).mp read).1
    apply (View.failsBy_number base 2 8 (by omega)).bind
    intro poolCount read
    obtain ⟨inside, declared⟩ := (View.unsigned_eq_ok_iff base 8).mp read
    apply (ConstantPool.failsBy_read behind inside declared).bind
    intro pool _
    exact FailsBy.ok _
  · rw [if_pos right]
    exact FailsBy.error (Or.inl (Malformed.magic inside same right))

theorem Preamble.pool_of_read (base : view.base = (0 : Nat)) {preamble : Preamble}
    (found : read view = .ok preamble) :
    preamble.pool.ReadFrom view.data view.source ∧
      width + preamble.pool.rawLength ≤ view.data.size := by
  obtain ⟨stands, source⟩ := (read_eq_ok_iff base).mp found
  obtain ⟨records, pool⟩ := stands.pool
  have fills := stands.poolCount ▸ pool.fills
  have inside := pool.run.inside Entry.StandsAt.inside stands.inside
  rw [← pool.rawLength] at inside
  exact ⟨⟨⟨records, pool.run, fills, pool.entries⟩, source⟩, inside⟩

theorem Sections.failsBy_read (base : view.base = (0 : Nat)) {pool : ConstantPool}
    (origin : pool.ReadFrom view.data view.source)
    (near : Preamble.width + pool.rawLength ≤ view.data.size) :
    FailsBy (BorneOut view.data view.source) (read view pool) := by
  have place (place : Nat) : (view.window place).base = place := by
    rw [View.window_base_eq base, Nat.zero_add]
  have word (place : Nat) (close : place ≤ view.data.size + 4) :
      FailsBy (BorneOut view.data view.source) (view.u2 place) :=
    View.failsBy_number base 2 place (by omega)
  have inside {place number : Nat} (found : view.u2 place = .ok number) :
      place + 2 ≤ view.data.size :=
    ((View.word_eq_ok_iff base place).mp found).1
  -- Each section ends within the data, so the count behind it stands near enough to be read.
  apply (word _ (by omega)).bind
  intro flags found
  have flagsInside := inside found
  apply (word _ (by omega)).bind
  intro interfaceCount found
  have begins := inside found
  apply (failsBy_classEntries (origin.window _) (place _) begins interfaceCount).bind
  intro (interfaces, interfacesLength) found
  obtain ⟨many, -, stand⟩ :=
    (View.fixedRecords_eq_ok_iff (place _) ListsEntry.read_eq_ok_iff).mp found
  have ends := stand.inside ListsEntry.inside begins
  rw [totalLength_const, many] at ends
  change _ + 2 * interfaceCount ≤ view.data.size at ends
  apply (word _ (by omega)).bind
  intro fieldCount found
  have begins := inside found
  apply (Field.failsBy_records (origin.window _) (place _) begins fieldCount).bind
  intro (fields, fieldsLength) found
  obtain ⟨-, length, stand⟩ := (View.records_eq_ok_iff (place _) Field.read_eq_ok_iff).mp found
  have ends := stand.inside (fun stands => stands.member.fits) begins
  rw [← length, View.window_data] at ends
  apply (word _ (by omega)).bind
  intro methodCount found
  have begins := inside found
  apply (Method.failsBy_records (origin.window _) (place _) begins methodCount).bind
  intro (methods, methodsLength) found
  obtain ⟨-, length, stand⟩ := (View.records_eq_ok_iff (place _) Method.read_eq_ok_iff).mp found
  have ends := stand.inside (fun stands => stands.member.fits) begins
  rw [← length, View.window_data] at ends
  apply (word _ (by omega)).bind
  intro attributeCount found
  have begins := inside found
  apply (Attribute.failsBy_records (origin.window _) (place _) begins attributeCount).bind
  intro (attributes, attributesLength) _
  exact FailsBy.ok _

namespace ClassFile

variable {data : Array UInt8} {source : Option Text}

theorem failsBy_decode : FailsBy (BorneOut data source) (decode data source) := by
  let view : View := { data, source }
  have base : view.base = (0 : Nat) := rfl
  have word (place : Nat) (close : place ≤ view.data.size + 4) :
      FailsBy (BorneOut data source) (view.u2 place) :=
    View.failsBy_number base 2 place (by rwa [Nat.zero_add])
  apply (Preamble.failsBy_read base).bind
  intro preamble found
  obtain ⟨origin, near⟩ := Preamble.pool_of_read base found
  apply (Sections.failsBy_read base origin near).bind
  intro sections found
  have stand := (Sections.read_eq_ok_iff base).mp found
  have fits : sections.layout.superClass ≤ view.data.size := by
    have spans := stand.layout
    have inside := stand.inside
    rw [spans.finish, spans.attributes, spans.attributesCount, spans.methods, spans.methodsCount,
      spans.fields, spans.fieldsCount, spans.interfaces, spans.interfacesCount] at inside
    omega
  have before := stand.layout.superClass
  apply (word _ (by omega)).bind
  intro thisIndex _
  apply (ConstantPool.failsBy_classEntry origin thisIndex).bind
  intro thisClass _
  apply (word _ (by omega)).bind
  intro superIndex _
  by_cases absent : superIndex = 0
  · simp only [absent, ↓reduceIte]
    exact FailsBy.ok _
  · simp only [absent, ↓reduceIte]
    apply ((ConstantPool.failsBy_classEntry origin superIndex).map some).bind
    intro superClass _
    exact FailsBy.ok _

/-- Any bytes are decoded into the class file that stands in them, complete, or hold no class file
at all. Then the bytes themselves are wrong, at the place that is given, or the pool that they hold
has no entry or no descriptor of the kind that is asked for; nothing else goes wrong. -/
theorem decode_complete_or_refused (data : Array UInt8) (source : Option Text) :
    (∃ file : ClassFile, decode data source = .ok file ∧ file.StandsIn data ∧
      file.source = source) ∨
    ∃ error, decode data source = .error error ∧
      (∀ file : ClassFile, file.source = source → ¬ file.StandsIn data) ∧
      (error.fault.isMalformed = true ∧ Malformed data source error ∨
        ∃ entries, EntriesStandIn data entries ∧ Unfit entries source error) := by
  cases decoded : decode data source with
  | ok file => exact Or.inl ⟨file, rfl, decode_eq_ok_iff.mp decoded⟩
  | error error =>
    refine Or.inr ⟨error, rfl, ?_, ?_⟩
    · intro file named stands
      have found := decode_eq_ok_iff.mpr ⟨stands, named⟩
      rw [decoded] at found
      cases found
    · cases failsBy_decode error decoded with
      | inl malformed => exact Or.inl ⟨malformed.isMalformed, malformed⟩
      | inr unfit => exact Or.inr unfit

example : decode #[0xCA, 0xFE] = .error { fault := .truncated 4, offset := some (0 : Nat) } :=
  rfl

end ClassFile

end ClassOutline
