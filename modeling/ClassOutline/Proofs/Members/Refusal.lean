import ClassOutline.Proofs.Members.Brackets
import ClassOutline.Proofs.Members.Reading
import ClassOutline.Proofs.Pool.Refusal

set_option autoImplicit false

namespace ClassOutline

open Decoded (FailsBy)
open DecodeError (BorneOut Malformed Unfit)
open View (numberAt)

variable {view : View} {start : Nat} {pool : ConstantPool}

section

variable (origin : pool.ReadFrom view.data view.source) (base : view.base = start)
  (near : start ≤ view.data.size)

include origin base near

theorem AttributeHeader.failsBy_read :
    FailsBy (BorneOut view.data view.source) (AttributeHeader.read pool view) := by
  apply (View.failsBy_number base 2 0 (by omega)).bind
  intro nameIndex found
  have inside := ((View.unsigned_eq_ok_iff base 0).mp found).1
  apply (ConstantPool.failsBy_utf8 origin nameIndex).bind
  intro name _
  apply (View.failsBy_number base 4 2 (by omega)).bind
  intro length found
  have inside := ((View.unsigned_eq_ok_iff base 2).mp found).1
  apply (View.failsBy_bytes base 6 length (by omega)).bind
  intro body _
  exact FailsBy.ok _

theorem ExceptionHandler.failsBy_read :
    FailsBy (BorneOut view.data view.source) (ExceptionHandler.read pool view) := by
  apply (View.failsBy_number base 2 0 (by omega)).bind
  intro startPc _
  apply (View.failsBy_number base 2 2 (by omega)).bind
  intro endPc _
  apply (View.failsBy_number base 2 4 (by omega)).bind
  intro handlerPc found
  have inside := ((View.unsigned_eq_ok_iff base 4).mp found).1
  apply (View.failsBy_number base 2 6 (by omega)).bind
  intro catchIndex _
  by_cases always : catchIndex = 0
  · simp only [always, ↓reduceIte]
    exact FailsBy.ok _
  · simp only [always, ↓reduceIte]
    apply ((ConstantPool.failsBy_className origin catchIndex).map some).bind
    intro catchType _
    exact FailsBy.ok _

theorem CodeBody.failsBy_read :
    FailsBy (BorneOut view.data view.source) (CodeBody.read pool view) := by
  apply (View.failsBy_number base 2 0 (by omega)).bind
  intro maxStack _
  apply (View.failsBy_number base 2 2 (by omega)).bind
  intro maxLocals _
  apply (View.failsBy_number base 4 4 (by omega)).bind
  intro codeLength found
  have inside := ((View.unsigned_eq_ok_iff base 4).mp found).1
  apply (View.failsBy_bytes base 8 codeLength (by omega)).bind
  intro code found
  have inside := ((View.raw_eq_ok_iff base 8).mp found).1
  apply (View.failsBy_number base 2 (8 + codeLength) (by omega)).bind
  intro handlerCount found
  have inside := ((View.unsigned_eq_ok_iff base (8 + codeLength)).mp found).1
  have table := View.window_base_eq base (8 + codeLength + 2)
  have handlers : FailsBy (BorneOut view.data view.source)
      ((view.window (8 + codeLength + 2 : Nat)).records handlerCount
        (fun _ => ExceptionHandler.width) (ExceptionHandler.read pool)) := by
    refine View.failsBy_records table inside ?_ ?_ handlerCount
    · intro offset place here fits
      exact ExceptionHandler.failsBy_read origin here fits
    · intro offset place item here found
      exact ((ExceptionHandler.read_eq_ok_iff here).mp found).inside
  apply handlers.bind
  intro (rows, tableLength) found
  obtain ⟨-, total, run⟩ := (ExceptionHandler.records_eq_ok_iff table).mp found
  have behind := run.inside ExceptionHandler.StandsAt.inside inside
  rw [totalLength_const, ← total, View.window_data] at behind
  apply (View.failsBy_number base 2 (8 + codeLength + 2 + tableLength) (by omega)).bind
  intro count _
  exact FailsBy.ok _

theorem failsBy_classEntries (count : Nat) :
    FailsBy (BorneOut view.data view.source)
      (view.fixedRecords count 2 fun entry => do pool.classEntry (← entry.u2 0)) := by
  refine View.failsBy_fixedRecords base near ?_ ?_ count
  · intro offset place here fits
    apply (View.failsBy_number here 2 0 (Nat.le_add_right_of_le fits)).bind
    intro index _
    exact ConstantPool.failsBy_classEntry origin index
  · intro offset place item here found
    exact ((ListsEntry.read_eq_ok_iff here).mp found).inside

theorem Attribute.failsBy_readExceptions :
    FailsBy (BorneOut view.data view.source) (Attribute.readExceptions pool view) := by
  have behind := View.window_base_eq base 2
  apply (View.failsBy_number base 2 0 (by omega)).bind
  intro count found
  have inside := ((View.unsigned_eq_ok_iff base 0).mp found).1
  apply (failsBy_classEntries (origin.window 2) behind inside count).bind
  intro (nameIndices, total) _
  exact FailsBy.mapM fun nameIndex _ => ConstantPool.failsBy_utf8 origin nameIndex

end

/-- The body of an attribute, if the nested attributes that stand in it fail for a reason. -/
theorem Attribute.failsBy_readBody {body : View} (origin : pool.ReadFrom body.data body.source)
    (base : body.base = (start + 6 : Nat)) {header : AttributeHeader}
    (length : header.length = numberAt body.data (start + 2) 4)
    (inside : start + 6 + header.length ≤ body.data.size) {nested : Nat → Decoded Attribute}
    (each : ∀ offset, start + 6 + offset ≤ body.data.size →
      FailsBy (BorneOut body.data body.source) (nested offset))
    (next : ∀ offset record, nested offset = .ok record →
      start + 6 + offset + record.rawLength ≤ body.data.size) :
    FailsBy (BorneOut body.data body.source) (readBody pool body header nested) := by
  have near : start + 6 ≤ body.data.size := by omega
  unfold readBody
  cases AttributeKind.ofName header.name with
  | unknown | deprecated | synthetic => exact FailsBy.ok _
  | constantValue =>
    apply (View.failsBy_number base 2 0 (by omega)).bind
    intro valueIndex _
    apply (ConstantPool.failsBy_literal origin valueIndex).bind
    intro value _
    exact FailsBy.ok _
  | sourceFile | signature =>
    apply (View.failsBy_number base 2 0 (by omega)).bind
    intro index _
    apply (ConstantPool.failsBy_utf8 origin index).bind
    intro text _
    exact FailsBy.ok _
  | exceptions =>
    apply (failsBy_readExceptions origin base near).bind
    intro names _
    exact FailsBy.ok _
  | code =>
    apply (CodeBody.failsBy_read origin base near).bind
    intro (codeBody, count, first) found
    obtain ⟨stands, width⟩ := (CodeBody.read_eq_ok_iff base).mp found
    have fits := stands.inside
    rw [← width] at fits
    have run : FailsBy (BorneOut body.data body.source)
        (recordsAt nested rawLength count first) := by
      refine FailsBy.recordsAt (fun offset => start + 6 + offset ≤ body.data.size) each ?_ count
        fits
      intro offset record _ read
      have behind := next offset record read
      omega
    apply run.bind
    intro (attributes, nestedLength) _
    by_cases filled : first + nestedLength = header.length
    · simp only [filled, ↓reduceIte]
      exact FailsBy.ok _
    · simp only [filled, ↓reduceIte]
      have place : body.absolute 0 = (start + 6 : Nat) := by
        rw [View.absolute, base]
        omega
      rw [place]
      exact FailsBy.error (Or.inl (Malformed.code length filled))

theorem Attribute.failsBy_read (origin : pool.ReadFrom view.data view.source)
    (base : view.base = start) (near : start ≤ view.data.size) :
    FailsBy (BorneOut view.data view.source) (Attribute.read pool view) := by
  induction view using Attribute.read.induct pool generalizing start with
  | case1 view error failed =>
    rw [read_eq]
    apply (AttributeHeader.failsBy_read origin base near).bind
    intro header found
    rw [failed] at found
    cases found
  | case2 view header read ih =>
    rw [read_eq, read]
    have stands := (AttributeHeader.read_eq_ok_iff base).mp read
    have place : ∀ offset : Nat,
        (view.window (AttributeHeader.width + offset : Nat)).base = (start + (6 + offset) : Nat) :=
      fun offset => View.window_base_eq base (6 + offset)
    refine failsBy_readBody (origin.window 6) (View.window_base_eq base 6) stands.length
      stands.inside ?_ ?_
    · intro offset fits
      exact ih offset origin (place offset) (by rwa [← Nat.add_assoc])
    · intro offset record found
      have inside := ((read_eq_ok_iff (place offset)).mp found).inside
      rwa [Nat.add_assoc start 6 offset]

theorem Attribute.failsBy_records (origin : pool.ReadFrom view.data view.source)
    (base : view.base = start) (near : start ≤ view.data.size) (count : Nat) :
    FailsBy (BorneOut view.data view.source)
      (view.records count Attribute.rawLength (Attribute.read pool)) := by
  refine View.failsBy_records base near ?_ ?_ count
  · intro offset place here fits
    exact Attribute.failsBy_read (origin.window offset) here fits
  · intro offset place record here found
    exact ((Attribute.read_eq_ok_iff here).mp found).inside

namespace Descriptor

variable {data : Array UInt8} {source : Option Text} {text : Text}

theorem failsBy_field (origin : pool.ReadFrom data source)
    (unfit : typeLength? text ≠ some text.length →
      Unfit pool.entries source { fault := .fieldDescriptor text }) :
    FailsBy (BorneOut data source) (field text) := by
  unfold field
  by_cases single : typeLength? text = some text.length
  · rw [if_pos single]
    exact FailsBy.ok text
  · rw [if_neg single]
    exact origin.failsBy_error (unfit single)

theorem failsBy_method (origin : pool.ReadFrom data source)
    (held : some (Entry.utf8 text) ∈ pool.entries) :
    FailsBy (BorneOut data source) (method text) := by
  cases bracketed_or_method_eq_error text with
  | inr unbracketed =>
    rw [unbracketed.2]
    exact origin.failsBy_error (Unfit.unbracketed held unbracketed.1)
  | inl bracketed =>
    obtain ⟨parameters, result, rfl, unclosed⟩ := bracketed
    rw [method_bracketed unclosed]
    cases split : types? parameters with
    | none => exact origin.failsBy_error (Unfit.parameterTypes held unclosed split)
    | some types =>
      dsimp only
      by_cases void : result = [0x56]
      · rw [if_pos void]
        exact FailsBy.ok _
      · rw [if_neg void]
        apply FailsBy.map
        apply failsBy_field origin
        exact Unfit.resultType held unclosed void

end Descriptor

theorem Member.StandsAt.fits {bits : AccessFlags.Bits} {data : Array UInt8} {member : Member}
    (stands : member.StandsAt bits pool data start) :
    start + member.rawLength ≤ data.size := by
  have behind := stands.attributes.inside stands.inside
  rwa [← stands.attributesLength, Nat.add_assoc] at behind

section

variable (origin : pool.ReadFrom view.data view.source) (base : view.base = start)
  (near : start ≤ view.data.size)

include origin base near

theorem Member.failsBy_read (table : AccessFlags.Table) :
    FailsBy (BorneOut view.data view.source) (read table pool view) := by
  have behind := View.window_base_eq base 8
  apply (View.failsBy_number base 2 0 (by omega)).bind
  intro flags _
  apply (View.failsBy_number base 2 2 (by omega)).bind
  intro nameIndex _
  apply (ConstantPool.failsBy_utf8 origin nameIndex).bind
  intro name _
  apply (View.failsBy_number base 2 4 (by omega)).bind
  intro descriptorIndex found
  have inside := ((View.unsigned_eq_ok_iff base 4).mp found).1
  apply (ConstantPool.failsBy_utf8 origin descriptorIndex).bind
  intro descriptor _
  apply (View.failsBy_number base 2 6 (by omega)).bind
  intro count found
  have inside := ((View.unsigned_eq_ok_iff base 6).mp found).1
  apply (Attribute.failsBy_records (origin.window 8) behind inside count).bind
  intro (attributes, attributesLength) _
  exact FailsBy.ok _

theorem Field.failsBy_read : FailsBy (BorneOut view.data view.source) (read pool view) := by
  apply (Member.failsBy_read origin base near AccessFlags.fieldTable).bind
  intro member found
  have stands := (Member.read_eq_ok_iff base AccessFlags.masks_field).mp found
  have held := ConstantPool.mem_of_utf8 stands.descriptor
  apply (Descriptor.failsBy_field origin (Unfit.fieldType held)).bind
  intro descriptor _
  exact FailsBy.ok _

theorem Method.failsBy_read : FailsBy (BorneOut view.data view.source) (read pool view) := by
  apply (Member.failsBy_read origin base near AccessFlags.methodTable).bind
  intro member found
  have stands := (Member.read_eq_ok_iff base AccessFlags.masks_method).mp found
  have held := ConstantPool.mem_of_utf8 stands.descriptor
  apply (Descriptor.failsBy_method origin held).bind
  intro signature _
  exact FailsBy.ok _

end

section

variable (origin : pool.ReadFrom view.data view.source) (base : view.base = start)
  (near : start ≤ view.data.size) (count : Nat)

include origin base near

theorem Field.failsBy_records :
    FailsBy (BorneOut view.data view.source)
      (view.records count (fun field => field.rawLength) (read pool)) := by
  refine View.failsBy_records base near ?_ ?_ count
  · intro offset place here fits
    exact failsBy_read (origin.window offset) here fits
  · intro offset place field here found
    exact ((read_eq_ok_iff here).mp found).member.fits

theorem Method.failsBy_records :
    FailsBy (BorneOut view.data view.source)
      (view.records count (fun method => method.rawLength) (read pool)) := by
  refine View.failsBy_records base near ?_ ?_ count
  · intro offset place here fits
    exact failsBy_read (origin.window offset) here fits
  · intro offset place method here found
    exact ((read_eq_ok_iff here).mp found).member.fits

end

end ClassOutline
