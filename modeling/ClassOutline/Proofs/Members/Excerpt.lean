import ClassOutline.Members.Basic
import ClassOutline.Proofs.Pool.Excerpt

set_option autoImplicit false

namespace ClassOutline.Excerpt

variable {excerpt : Excerpt} {inner outer : View}

theorem Views.attributeHeader (pool : ConstantPool) (views : excerpt.Views inner outer) :
    excerpt.Tracks (AttributeHeader.read pool inner) (AttributeHeader.read pool outer) := by
  apply Tracks.bind (views.unsigned 2 0 (by omega))
  intro nameIndex _
  apply Tracks.bind (Tracks.utf8 pool nameIndex)
  intro name _
  apply Tracks.bind (views.unsigned 4 2 (by omega))
  intro length _
  apply Tracks.bind (views.raw AttributeHeader.width length (by omega))
  intro body _
  exact Tracks.pure _

theorem Views.exceptionHandler (pool : ConstantPool) (views : excerpt.Views inner outer) :
    excerpt.Tracks (ExceptionHandler.read pool inner) (ExceptionHandler.read pool outer) := by
  apply Tracks.bind (views.unsigned 2 0 (by omega))
  intro startPc _
  apply Tracks.bind (views.unsigned 2 2 (by omega))
  intro endPc _
  apply Tracks.bind (views.unsigned 2 4 (by omega))
  intro handlerPc _
  apply Tracks.bind (views.unsigned 2 6 (by omega))
  intro catchIndex _
  by_cases always : catchIndex = 0
  · simp only [always, ↓reduceIte]
    exact Tracks.pure _
  · simp only [always, ↓reduceIte]
    apply Tracks.bind ((Tracks.className pool catchIndex).map some)
    intro catchType _
    exact Tracks.pure _

theorem Views.codeBody (pool : ConstantPool) (views : excerpt.Views inner outer) :
    excerpt.Tracks (CodeBody.read pool inner) (CodeBody.read pool outer) := by
  apply Tracks.bind (views.unsigned 2 0 (by omega))
  intro maxStack _
  apply Tracks.bind (views.unsigned 2 2 (by omega))
  intro maxLocals _
  apply Tracks.bind (views.unsigned 4 4 (by omega))
  intro codeLength _
  apply Tracks.bind (views.raw 8 codeLength (by omega))
  intro code _
  apply Tracks.bind (views.unsigned 2 _ (by omega))
  intro handlerCount _
  apply Tracks.bind ((views.window _ (by omega)).records _ _ (Views.exceptionHandler pool))
  rintro ⟨handlers, tableLength⟩ -
  apply Tracks.bind (views.unsigned 2 _ (by omega))
  intro count _
  exact Tracks.pure _

theorem Tracks.mapM {α β : Type} {read : α → Decoded β}
    (each : ∀ item, excerpt.Tracks (read item) (read item)) (items : List α) :
    excerpt.Tracks (items.mapM read) (items.mapM read) := by
  induction items with
  | nil => exact Tracks.pure _
  | cons item rest ih =>
    rw [List.mapM_cons]
    apply Tracks.bind (each item)
    intro value _
    apply Tracks.bind ih
    intro values _
    exact Tracks.pure _

theorem Views.classEntries (pool : ConstantPool) (views : excerpt.Views inner outer)
    (count : Int) :
    excerpt.Tracks (inner.fixedRecords count 2 fun entry => do pool.classEntry (← entry.u2 0))
      (outer.fixedRecords count 2 fun entry => do pool.classEntry (← entry.u2 0)) := by
  apply views.fixedRecords _ _ (by omega)
  intro inner outer views
  apply Tracks.bind (views.unsigned 2 0 (by omega))
  intro index _
  exact Tracks.classEntry pool index

theorem Views.exceptions (pool : ConstantPool) (views : excerpt.Views inner outer) :
    excerpt.Tracks (Attribute.readExceptions pool inner)
      (Attribute.readExceptions pool outer) := by
  apply Tracks.bind (views.unsigned 2 0 (by omega))
  intro count _
  apply Tracks.bind ((views.window 2 (by omega)).classEntries pool count)
  rintro ⟨nameIndices, total⟩ -
  apply Tracks.mapM
  intro nameIndex
  exact Tracks.utf8 pool nameIndex

theorem Views.attributeBody (pool : ConstantPool) (views : excerpt.Views inner outer)
    (header : AttributeHeader) {innerNested outerNested : Nat → Decoded Attribute}
    (nested : ∀ offset, excerpt.Tracks (innerNested offset) (outerNested offset)) :
    excerpt.Tracks (Attribute.readBody pool inner header innerNested)
      (Attribute.readBody pool outer header outerNested) := by
  unfold Attribute.readBody
  cases AttributeKind.ofName header.name with
  | unknown | deprecated | synthetic => exact Tracks.value _
  | constantValue =>
    apply Tracks.bind (views.unsigned 2 0 (by omega))
    intro valueIndex _
    apply Tracks.bind (Tracks.literal pool valueIndex)
    intro value _
    exact Tracks.pure _
  | sourceFile | signature =>
    apply Tracks.bind (views.unsigned 2 0 (by omega))
    intro index _
    apply Tracks.bind (Tracks.utf8 pool index)
    intro text _
    exact Tracks.pure _
  | exceptions =>
    apply Tracks.bind (views.exceptions pool)
    intro names _
    exact Tracks.pure _
  | code =>
    apply Tracks.bind (views.codeBody pool)
    rintro ⟨codeBody, count, start⟩ -
    apply Tracks.bind (Tracks.recordsAt Attribute.rawLength nested count start)
    rintro ⟨attributes, nestedLength⟩ -
    by_cases filled : start + nestedLength = header.length
    · simp only [filled, ↓reduceIte]
      exact Tracks.pure _
    · simp only [filled, ↓reduceIte]
      exact views.fault _ 0 (by simp)

theorem Views.attribute (pool : ConstantPool) (views : excerpt.Views inner outer) :
    excerpt.Tracks (Attribute.read pool inner) (Attribute.read pool outer) := by
  induction inner using Attribute.read.induct pool generalizing outer with
  | case1 inner error failed =>
    rw [Attribute.read_eq, Attribute.read_eq]
    apply Tracks.bind (views.attributeHeader pool)
    intro header found
    rw [failed] at found
    cases found
  | case2 inner header _ ih =>
    rw [Attribute.read_eq, Attribute.read_eq]
    apply Tracks.bind (views.attributeHeader pool)
    intro found same
    apply (views.window AttributeHeader.width (by omega)).attributeBody pool found
    intro offset
    exact ih offset (views.window _ (by omega))

/-- Where a constant pool or an attribute begins makes no difference. With other bytes in front, the
entries and their length are the same, as are the attribute and what is nested in it, its declared
exceptions among them; and an error is the same but for its place, which is so many bytes further
on. -/
theorem read_preceded (front bytes : Array UInt8) (source : Option Text) (count : Int)
    (pool : ConstantPool) :
    ConstantPool.read { data := front ++ bytes, base := front.size, source } count =
        (ConstantPool.read { data := bytes, source } count).mapError (·.shifted front.size) ∧
      Attribute.read pool { data := front ++ bytes, base := front.size, source } =
        (Attribute.read pool { data := bytes, source }).mapError (·.shifted front.size) := by
  have views := preceded_views front bytes source
  exact ⟨(views.constantPool count).eq_shifted rfl, (views.attribute pool).eq_shifted rfl⟩

theorem Views.attributes (pool : ConstantPool) (views : excerpt.Views inner outer) (count : Int) :
    excerpt.Tracks (inner.records count Attribute.rawLength (Attribute.read pool))
      (outer.records count Attribute.rawLength (Attribute.read pool)) :=
  views.records count Attribute.rawLength (Views.attribute pool)

theorem Views.member (table : AccessFlags.Table) (pool : ConstantPool)
    (views : excerpt.Views inner outer) :
    excerpt.Tracks (Member.read table pool inner) (Member.read table pool outer) := by
  apply Tracks.bind (views.unsigned 2 0 (by omega))
  intro flags _
  apply Tracks.bind (views.unsigned 2 2 (by omega))
  intro nameIndex _
  apply Tracks.bind (Tracks.utf8 pool nameIndex)
  intro name _
  apply Tracks.bind (views.unsigned 2 4 (by omega))
  intro descriptorIndex _
  apply Tracks.bind (Tracks.utf8 pool descriptorIndex)
  intro descriptor _
  apply Tracks.bind (views.unsigned 2 6 (by omega))
  intro count _
  apply Tracks.bind ((views.window Member.headerWidth (by omega)).attributes pool count)
  rintro ⟨attributes, attributesLength⟩ -
  exact Tracks.pure _

/-- Descriptors are at fault without a place. -/
theorem Tracks.field (descriptor : Text) :
    excerpt.Tracks (Descriptor.field descriptor) (Descriptor.field descriptor) := by
  unfold Descriptor.field
  split
  · exact Tracks.value _
  · exact Tracks.unplaced _ _ (by simp)

theorem Tracks.method (descriptor : Text) :
    excerpt.Tracks (Descriptor.method descriptor) (Descriptor.method descriptor) := by
  unfold Descriptor.method
  split
  · split
    · dsimp only
      split
      · exact Tracks.unplaced _ _ (by simp)
      · split
        · exact Tracks.value _
        · exact (Tracks.field _).map _
    · exact Tracks.unplaced _ _ (by simp)
  · exact Tracks.unplaced _ _ (by simp)

theorem Views.field (pool : ConstantPool) (views : excerpt.Views inner outer) :
    excerpt.Tracks (Field.read pool inner) (Field.read pool outer) := by
  apply Tracks.bind (views.member AccessFlags.fieldTable pool)
  intro member _
  apply Tracks.bind (Tracks.field member.descriptor)
  intro descriptor _
  exact Tracks.pure _

theorem Views.method (pool : ConstantPool) (views : excerpt.Views inner outer) :
    excerpt.Tracks (Method.read pool inner) (Method.read pool outer) := by
  apply Tracks.bind (views.member AccessFlags.methodTable pool)
  intro member _
  apply Tracks.bind (Tracks.method member.descriptor)
  intro signature _
  exact Tracks.pure _

end ClassOutline.Excerpt
