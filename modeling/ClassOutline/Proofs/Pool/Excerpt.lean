import ClassOutline.Proofs.Decoding.Excerpt
import ClassOutline.Proofs.Pool.Format

set_option autoImplicit false

namespace ClassOutline

namespace Excerpt

variable {excerpt : Excerpt} {inner outer : View}

/-- A fault at a place of the view is met at the same place in the longer data. -/
theorem Views.fault {α : Type} (views : excerpt.Views inner outer) (fault : DecodeFault)
    (offset : Int) (other : ∀ width, fault ≠ .truncated width) :
    excerpt.Tracks (α := α)
      (.error { fault, offset := inner.absolute offset, source := inner.source })
      (.error { fault, offset := outer.absolute offset, source := outer.source }) := by
  rw [views.absolute, views.source]
  exact Tracks.fault _ (fun width same => absurd same (other width))

theorem Views.entryBody (views : excerpt.Views inner outer) (slot : Nat) (kind : Kind) :
    excerpt.Tracks (Entry.readBody inner slot kind) (Entry.readBody outer slot kind) := by
  have number : ∀ {width : Nat} (offset : Int), 0 ≤ offset →
      excerpt.Tracks (inner.unsigned width offset) (outer.unsigned width offset) :=
    fun offset forward => views.unsigned _ offset forward
  have two : ∀ {build : Nat → Nat → Entry} {second length first : Nat} (place : Int), 0 ≤ place →
      excerpt.Tracks
        (do return (build (← inner.unsigned first 0) (← inner.unsigned second place), length))
        (do return (build (← outer.unsigned first 0) (← outer.unsigned second place), length)) := by
    intro build second length first place forward
    apply Tracks.bind (number 0 (by omega))
    intro left _
    apply Tracks.bind (number place forward)
    intro right _
    exact Tracks.pure _
  cases kind with
  | utf8 =>
    apply Tracks.bind (number 0 (by omega))
    intro length _
    apply Tracks.bind (views.raw 2 length (by omega))
    intro bytes _
    cases ModifiedUtf8.decode? bytes.toList with
    | some text => exact Tracks.pure _
    | none => exact views.fault _ 2 (by simp)
  | integer | long =>
    apply Tracks.bind (views.signed _ 0 (by omega))
    intro value _
    exact Tracks.pure _
  | float | double =>
    apply Tracks.bind ((number 0 (by omega)).map _)
    intro value _
    exact Tracks.pure _
  | classRef | string | methodType | moduleRef | packageRef =>
    apply Tracks.bind (number 0 (by omega))
    intro index _
    exact Tracks.pure _
  | fieldRef | methodRef | interfaceMethodRef | nameAndType | dynamic | invokeDynamic =>
    exact two 2 (by omega)
  | methodHandle => exact two 1 (by omega)

theorem Views.entry (views : excerpt.Views inner outer) (slot : Nat) :
    excerpt.Tracks (Entry.read inner slot) (Entry.read outer slot) := by
  apply Tracks.bind (views.unsigned 1 0 (by omega))
  intro tag _
  cases Kind.ofTag? tag with
  | some kind =>
    apply Tracks.bind ((views.window 1 (by omega)).entryBody slot kind)
    rintro ⟨entry, width⟩ -
    exact Tracks.pure _
  | none => exact views.fault _ 0 (by simp)

theorem Views.slots (views : excerpt.Views inner outer) (count : Int)
    (slots : Array (Option Entry)) (offset : Nat) :
    excerpt.Tracks (ConstantPool.readSlots inner count slots offset)
      (ConstantPool.readSlots outer count slots offset) := by
  induction slots, offset using ConstantPool.readSlots.induct inner count with
  | case1 slots offset room error failed =>
    rw [ConstantPool.readSlots_of_lt room, ConstantPool.readSlots_of_lt room]
    apply Tracks.bind ((views.window offset (by omega)).entry slots.size)
    intro result read
    rw [failed] at read
    cases read
  | case2 slots offset room entry width found ih =>
    rw [ConstantPool.readSlots_of_lt room, ConstantPool.readSlots_of_lt room]
    apply Tracks.bind ((views.window offset (by omega)).entry slots.size)
    intro result read
    rw [found] at read
    cases read
    exact ih
  | case3 slots offset full =>
    rw [ConstantPool.readSlots, ConstantPool.readSlots, if_neg full, if_neg full]
    exact Tracks.value _

theorem Views.constantPool (views : excerpt.Views inner outer) (count : Int) :
    excerpt.Tracks (ConstantPool.read inner count) (ConstantPool.read outer count) := by
  apply Tracks.bind (views.slots count #[none] 0)
  rintro ⟨entries, rawLength⟩ -
  dsimp only
  rw [views.source]
  cases found : ConstantPool.findClassNameFault entries with
  | some fault =>
    obtain ⟨⟨entry, slot⟩, -, named⟩ := List.exists_of_findSome?_eq_some found
    apply Tracks.unplaced
    rintro width rfl
    dsimp only [ConstantPool.classNameFault] at named
    split at named
    · split at named <;> cases named
    · cases named
  | none => exact Tracks.pure _

theorem Tracks.lookup (pool : ConstantPool) (index : Int) :
    excerpt.Tracks (pool.entry index) (pool.entry index) := by
  unfold ConstantPool.entry
  cases pool.entry? index with
  | some entry => exact Tracks.value entry
  | none => exact Tracks.unplaced _ _ (by simp)

theorem Tracks.utf8 (pool : ConstantPool) (index : Int) :
    excerpt.Tracks (pool.utf8 index) (pool.utf8 index) := by
  apply Tracks.bind (Tracks.lookup pool index)
  intro entry _
  cases entry with
  | utf8 text => exact Tracks.pure _
  | _ => exact Tracks.unplaced _ _ (by simp)

theorem Tracks.classEntry (pool : ConstantPool) (index : Int) :
    excerpt.Tracks (pool.classEntry index) (pool.classEntry index) := by
  apply Tracks.bind (Tracks.lookup pool index)
  intro entry _
  cases entry with
  | classRef nameIndex => exact Tracks.pure _
  | _ => exact Tracks.unplaced _ _ (by simp)

theorem Tracks.className (pool : ConstantPool) (index : Int) :
    excerpt.Tracks (pool.className index) (pool.className index) := by
  apply Tracks.bind (Tracks.classEntry pool index)
  intro nameIndex _
  exact Tracks.utf8 pool nameIndex

theorem Tracks.literal (pool : ConstantPool) (index : Int) :
    excerpt.Tracks (pool.literal index) (pool.literal index) := by
  apply Tracks.bind (Tracks.lookup pool index)
  intro entry _
  cases entry with
  | string textIndex =>
    apply Tracks.bind (Tracks.utf8 pool textIndex)
    intro text _
    exact Tracks.pure _
  | integer value | long value | float value | double value => exact Tracks.pure _
  | _ => exact Tracks.unplaced _ _ (by simp)

end Excerpt

end ClassOutline
