import ClassOutline.Proofs.ClassFile.Format
import ClassOutline.Proofs.Members.Excerpt

set_option autoImplicit false

namespace ClassOutline

namespace Excerpt

variable {excerpt : Excerpt} {inner outer : View}

theorem Views.preamble (views : excerpt.Views inner outer) (first : excerpt.before.size = 0) :
    excerpt.Tracks (Preamble.read inner) (Preamble.read outer) := by
  apply Tracks.bind (views.unsigned 4 0 (by omega))
  intro found _
  by_cases wrong : found ≠ Preamble.magic
  · rw [if_pos wrong, if_pos wrong, views.source]
    have moved : excerpt.Tracks (α := Preamble) (.error _) (.error _) := Tracks.fault
      { fault := .wrongMagic found, offset := some 0, source := inner.source } (by rintro _ ⟨⟩)
    rwa [first, DecodeError.shifted_zero] at moved
  · rw [if_neg wrong, if_neg wrong]
    apply Tracks.bind (views.unsigned 2 4 (by omega))
    intro minorVersion _
    apply Tracks.bind (views.unsigned 2 6 (by omega))
    intro majorVersion _
    apply Tracks.bind (views.unsigned 2 8 (by omega))
    intro poolCount _
    apply Tracks.bind ((views.window Preamble.width (by omega)).constantPool poolCount)
    intro pool _
    exact Tracks.pure _

theorem Views.sections (pool : ConstantPool) (views : excerpt.Views inner outer) :
    excerpt.Tracks (Sections.read inner pool) (Sections.read outer pool) := by
  apply Tracks.bind (views.unsigned 2 _ (by omega))
  intro flags _
  apply Tracks.bind (views.unsigned 2 _ (by omega))
  intro count _
  apply Tracks.bind ((views.window _ (by omega)).classEntries pool count)
  rintro ⟨interfaces, interfacesLength⟩ -
  apply Tracks.bind (views.unsigned 2 _ (by omega))
  intro fieldCount _
  apply Tracks.bind ((views.window _ (by omega)).records _ _ (Views.field pool))
  rintro ⟨fields, fieldsLength⟩ -
  apply Tracks.bind (views.unsigned 2 _ (by omega))
  intro methodCount _
  apply Tracks.bind ((views.window _ (by omega)).records _ _ (Views.method pool))
  rintro ⟨methods, methodsLength⟩ -
  apply Tracks.bind (views.unsigned 2 _ (by omega))
  intro attributeCount _
  apply Tracks.bind ((views.window _ (by omega)).attributes pool _)
  rintro ⟨attributes, attributesLength⟩ -
  exact Tracks.pure _

theorem Views.classFile (views : excerpt.Views inner outer) (first : excerpt.before.size = 0) :
    excerpt.Tracks (ClassFile.ofView inner) (ClassFile.ofView outer) := by
  apply Tracks.bind (views.preamble first)
  intro preamble _
  apply Tracks.bind (views.sections preamble.pool)
  intro sections _
  apply Tracks.bind (views.unsigned 2 _ (by omega))
  intro classIndex _
  apply Tracks.bind (Tracks.classEntry preamble.pool classIndex)
  intro thisClass _
  apply Tracks.bind (views.unsigned 2 _ (by omega))
  intro superIndex _
  rw [views.source]
  by_cases absent : superIndex = 0
  · simp only [absent, ↓reduceIte]
    exact Tracks.pure _
  · simp only [absent, ↓reduceIte]
    apply Tracks.bind ((Tracks.classEntry preamble.pool superIndex).map some)
    intro superClass _
    exact Tracks.pure _

end Excerpt

namespace ClassFile

variable {data : Array UInt8} {source : Option Text} {file : ClassFile}

/-- With more bytes behind them some bytes decode to the same, unless they ran out. -/
theorem decode_append_eq_or_runsOut (data more : Array UInt8) (source : Option Text) :
    decode (data ++ more) source = decode data source ∨
      ∃ error, decode data source = .error error ∧ error.RunsOut data.size :=
  ((Excerpt.followed_views data more source).classFile rfl).eq_or_runsOut rfl

/-- A class file is the same with more bytes behind it, and malformed without its last ones. -/
theorem decode_append_and_cut (decoded : decode data source = .ok file) :
    (∀ more, decode (data ++ more) source = .ok file) ∧
      ∀ count < file.layout.finish, ∃ error,
        decode (data.extract 0 count) source = .error error ∧ error.fault.isMalformed = true := by
  constructor
  · intro more
    rcases decode_append_eq_or_runsOut data more source with same | ⟨error, failed, -⟩
    · rw [same, decoded]
    · rw [decoded] at failed
      cases failed
  · intro count cut
    have inside := (decode_eq_ok_iff.mp decoded).1.sections.inside
    have joined : data.extract 0 count ++ data.extract count data.size = data :=
      Excerpt.extract_append_rest (by omega)
    have size : (data.extract 0 count).size = count := by
      rw [Array.size_extract]
      omega
    rcases decode_append_eq_or_runsOut (data.extract 0 count) (data.extract count data.size) source
      with same | ⟨error, failed, short⟩
    · -- The shorter data would hold all sections of the file.
      rw [joined, decoded] at same
      have shorter := (decode_eq_ok_iff.mp same.symm).1.sections.inside
      omega
    · exact ⟨error, failed, short.isMalformed⟩

theorem decode_nestedCode_append_and_cut :
    ∃ file, decode nestedCode = .ok file ∧
      (∀ more, decode (nestedCode ++ more) = .ok file) ∧
        ∀ count < file.layout.finish, ∃ error,
          decode (nestedCode.extract 0 count) = .error error ∧ error.fault.isMalformed = true := by
  obtain ⟨file, decoded⟩ := exists_decode_nestedCode
  exact ⟨file, decoded, decode_append_and_cut decoded⟩

end ClassFile

end ClassOutline
