import ClassOutline.Pool.Basic
import ClassOutline.Proofs.Decoding.Runs

set_option autoImplicit false

namespace ClassOutline.ConstantPool

variable {pool : ConstantPool} {index : Int}

theorem entry_eq_ok_iff {entry : Entry} :
    pool.entry index = .ok entry ↔ pool.entry? index = some entry := by
  unfold ConstantPool.entry
  cases pool.entry? index <;> simp only [reduceCtorEq, Except.ok.injEq, Option.some.injEq]

/-- A look-up that takes one entry and refuses all others. -/
theorem lookup_eq_ok_iff {α : Type} {rest : Entry → Decoded α} {value : α} {chosen : Entry}
    (only : ∀ entry, rest entry = .ok value ↔ entry = chosen) :
    pool.entry index >>= rest = .ok value ↔ pool.entry? index = some chosen := by
  rw [bind_eq_ok_iff]
  constructor
  · intro ⟨entry, found, taken⟩
    rw [← (only entry).mp taken]
    exact entry_eq_ok_iff.mp found
  · intro found
    exact ⟨chosen, entry_eq_ok_iff.mpr found, (only chosen).mpr rfl⟩

theorem utf8_eq_ok_iff {text : Text} :
    pool.utf8 index = .ok text ↔ pool.entry? index = some (.utf8 text) := by
  apply lookup_eq_ok_iff
  intro entry
  cases entry with
  | utf8 found => simp only [pure_eq_ok_iff, Entry.utf8.injEq]
  | _ => simp only [throw_eq_ok_iff, reduceCtorEq]

theorem classEntry_eq_ok_iff {nameIndex : Nat} :
    pool.classEntry index = .ok nameIndex ↔ pool.entry? index = some (.classRef nameIndex) := by
  apply lookup_eq_ok_iff
  intro entry
  cases entry with
  | classRef found => simp only [pure_eq_ok_iff, Entry.classRef.injEq]
  | _ => simp only [throw_eq_ok_iff, reduceCtorEq]

theorem className_eq_ok_iff {name : Text} :
    pool.className index = .ok name ↔
      ∃ nameIndex, pool.classEntry index = .ok nameIndex ∧ pool.utf8 nameIndex = .ok name :=
  bind_eq_ok_iff

theorem index_inside {α : Type} {index : Nat} {rest : Entry → Decoded α} {value : α}
    (found : pool.entry index >>= rest = .ok value) : 0 < index ∧ index < pool.entries.size := by
  obtain ⟨entry, lookup, -⟩ := bind_eq_ok_iff.mp found
  have present := entry_eq_ok_iff.mp lookup
  unfold entry? at present
  split at present
  · have occupied := Option.join_eq_some_iff.mp present
    have inside := (Array.getElem?_eq_some_iff.mp occupied).1
    omega
  · cases present

/-- No error is about the bytes themselves. -/
def Unresolved {α : Type} (result : Decoded α) : Prop :=
  ∀ error, result = .error error → error.fault.isMalformed = false

theorem Unresolved.bind {α β : Type} {first : Decoded α} {rest : α → Decoded β}
    (lookup : Unresolved first) (others : ∀ value, Unresolved (rest value)) :
    Unresolved (first >>= rest) := by
  intro error failed
  cases first with
  | error =>
    cases failed
    exact lookup error rfl
  | ok value => exact others value error failed

theorem unresolved_pure {α : Type} (value : α) : Unresolved (pure value) := by
  intro error failed
  cases failed

theorem unresolved_error {α : Type} (error : DecodeError)
    (index : error.fault.isMalformed = false) : Unresolved (α := α) (.error error) := by
  intro other failed
  cases failed
  exact index

theorem unresolved_entry (pool : ConstantPool) (index : Int) : Unresolved (pool.entry index) := by
  unfold ConstantPool.entry
  cases pool.entry? index with
  | some entry => exact unresolved_pure entry
  | none => exact unresolved_error _ rfl

theorem unresolved_utf8 (pool : ConstantPool) (index : Int) : Unresolved (pool.utf8 index) := by
  apply (unresolved_entry pool index).bind
  intro entry
  cases entry with
  | utf8 text => exact unresolved_pure text
  | _ => exact unresolved_error _ rfl

theorem unresolved_literal (pool : ConstantPool) (index : Int) :
    Unresolved (pool.literal index) := by
  apply (unresolved_entry pool index).bind
  intro entry
  cases entry with
  | string textIndex =>
    exact (unresolved_utf8 pool textIndex).bind fun text => unresolved_pure (Literal.text text)
  | integer value | long value | float value | double value => exact unresolved_pure _
  | _ => exact unresolved_error _ rfl

end ClassOutline.ConstantPool
