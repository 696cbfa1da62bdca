import Mathlib.Algebra.Group.Nat.Defs
import Mathlib.Data.List.Forall2
import ClassOutline.Decoding.View

set_option autoImplicit false

namespace ClassOutline

section

variable {ε α β : Type}

theorem bind_eq_ok_iff {first : Except ε α} {rest : α → Except ε β} {result : β} :
    first >>= rest = .ok result ↔ ∃ value, first = .ok value ∧ rest value = .ok result := by
  cases first with
  | error fault => simp only [bind, Except.bind, reduceCtorEq, false_and, exists_false]
  | ok value => simp only [bind, Except.bind, Except.ok.injEq, exists_eq_left']

theorem pure_eq_ok_iff {value result : α} :
    (pure value : Except ε α) = .ok result ↔ value = result := by
  simp only [pure, Except.pure, Except.ok.injEq]

theorem ite_eq_ok_iff {condition : Prop} [Decidable condition] {value result : α} {fault : ε} :
    (if condition then .ok value else .error fault : Except ε α) = .ok result ↔
      condition ∧ result = value := by
  split
  · rename_i holds
    simp only [Except.ok.injEq, holds, true_and]
    exact eq_comm
  · rename_i fails
    simp only [reduceCtorEq, fails, false_and]

theorem throw_eq_ok_iff {fault : ε} {result : α} :
    (throw fault : Except ε α) = .ok result ↔ False := by
  simp only [throw, throwThe, MonadExceptOf.throw, reduceCtorEq]

theorem bind_eq_error_iff {first : Except ε α} {rest : α → Except ε β} {fault : ε} :
    first >>= rest = .error fault ↔
      first = .error fault ∨ ∃ value, first = .ok value ∧ rest value = .error fault := by
  cases first with
  | error other => simp only [bind, Except.bind, Except.error.injEq, reduceCtorEq, false_and,
      exists_false, or_false]
  | ok value => simp only [bind, Except.bind, reduceCtorEq, Except.ok.injEq, exists_eq_left',
      false_or]

theorem mapM_eq_ok_iff {items : List α} {convert : α → Except ε β} {values : List β} :
    items.mapM convert = .ok values ↔
      List.Forall₂ (fun item value => convert item = .ok value) items values := by
  induction items generalizing values with
  | nil => simp [pure, Except.pure, eq_comm]
  | cons first rest ih =>
    rw [List.mapM_cons, bind_eq_ok_iff, List.forall₂_cons_left_iff]
    simp only [bind_eq_ok_iff, pure_eq_ok_iff, ih]
    constructor
    · intro made
      obtain ⟨value, here, others, later, whole⟩ := made
      exact ⟨value, others, here, later, whole.symm⟩
    · intro made
      obtain ⟨value, others, here, later, whole⟩ := made
      exact ⟨value, here, others, later, whole.symm⟩

theorem mapM_eq_error_iff {items : List α} {convert : α → Except ε β} {fault : ε} :
    items.mapM convert = .error fault ↔
      ∃ place values item, (items.take place).mapM convert = .ok values ∧
        items[place]? = some item ∧ convert item = .error fault := by
  induction items with
  | nil => simp [pure, Except.pure]
  | cons first rest ih =>
    rw [List.mapM_cons, bind_eq_error_iff]
    constructor
    · intro failed
      cases failed with
      | inl here => exact ⟨0, [], first, rfl, rfl, here⟩
      | inr later =>
        obtain ⟨value, made, others⟩ := later
        cases bind_eq_error_iff.mp others with
        | inl there =>
          obtain ⟨place, values, item, before, found, failed⟩ := ih.mp there
          refine ⟨place + 1, value :: values, item, ?_, found, failed⟩
          exact mapM_eq_ok_iff.mpr (.cons made (mapM_eq_ok_iff.mp before))
        | inr never =>
          obtain ⟨_, _, absurdity⟩ := never
          cases absurdity
    · intro failed
      obtain ⟨place, values, item, before, found, failed⟩ := failed
      cases place with
      | zero =>
        cases found
        exact Or.inl failed
      | succ place =>
        rw [List.take_succ_cons, mapM_eq_ok_iff] at before
        cases before with
        | @cons _ value _ more made others =>
          have there := ih.mpr ⟨place, more, item, mapM_eq_ok_iff.mpr others, found, failed⟩
          exact Or.inr ⟨value, made, bind_eq_error_iff.mpr (Or.inl there)⟩

theorem map_eq_error_iff {first : Except ε α} {convert : α → β} {fault : ε} :
    first.map convert = .error fault ↔ first = .error fault := by
  cases first with
  | error other => simp only [Except.map, Except.error.injEq]
  | ok value => simp only [Except.map, reduceCtorEq]

theorem map_eq_ok_iff {first : Except ε α} {convert : α → β} {result : β} :
    first.map convert = .ok result ↔ ∃ value, first = .ok value ∧ convert value = result := by
  cases first with
  | error fault => simp only [Except.map, reduceCtorEq, false_and, exists_false]
  | ok value => simp only [Except.map, Except.ok.injEq, exists_eq_left']

theorem eq_ok_of_toOption {attempt : Except ε α} {result : α}
    (found : attempt.toOption = some result) : attempt = .ok result := by
  cases attempt with
  | error fault => cases found
  | ok value => exact congrArg Except.ok (Option.some.inj found)

theorem exists_ok_of_isOk {attempt : Except ε α} (success : attempt.isOk = true) :
    ∃ result, attempt = .ok result := by
  cases attempt with
  | error fault => cases success
  | ok value => exact ⟨value, rfl⟩

end

/-- The last `width` bytes of a number, the most significant one first. -/
def bigEndianBytes : Nat → Nat → List UInt8
  | 0, _ => []
  | width + 1, number => bigEndianBytes width (number / 256) ++ [UInt8.ofNat number]

@[simp] theorem length_bigEndianBytes (width number : Nat) :
    (bigEndianBytes width number).length = width := by
  induction width generalizing number with
  | zero => rfl
  | succ width ih => simp only [bigEndianBytes, List.length_append, ih, List.length_singleton]

namespace View

@[simp] theorem bigEndian_nil : bigEndian [] = 0 := rfl

theorem bigEndian_append_singleton (bytes : List UInt8) (byte : UInt8) :
    bigEndian (bytes ++ [byte]) = bigEndian bytes * 256 + byte.toNat := by
  simp only [bigEndian, List.foldl_append, List.foldl_cons, List.foldl_nil]

theorem bigEndian_bigEndianBytes (width number : Nat) (fits : number < 256 ^ width) :
    bigEndian (bigEndianBytes width number) = number := by
  induction width generalizing number with
  | zero =>
    rw [Nat.pow_zero] at fits
    rw [bigEndianBytes, bigEndian_nil]
    omega
  | succ width ih =>
    have upper : number / 256 < 256 ^ width := by
      rw [Nat.pow_succ] at fits
      exact Nat.div_lt_of_lt_mul (by rwa [Nat.mul_comm] at fits)
    rw [bigEndianBytes, bigEndian_append_singleton, ih (number / 256) upper,
      UInt8.toNat_ofNat']
    omega

/-- The number that the `width` bytes from a position on stand for. -/
def numberAt (data : Array UInt8) (position width : Nat) : Nat :=
  bigEndian (data.extract position (position + width)).toList

section

variable {view : View} {start : Nat}

theorem unsigned_eq (base : view.base = start) (width offset : Nat) :
    view.unsigned width offset =
      if start + offset + width ≤ view.data.size then
        .ok (numberAt view.data (start + offset) width)
      else .error (view.truncated offset width) := by
  have place : view.absolute offset = (start + offset : Nat) := by
    rw [absolute, base]
    omega
  have natural : ¬ ((start + offset : Nat) : Int) < 0 := by omega
  simp only [unsigned, numberBytes, place, numberStart?, natural, ↓reduceIte]
  by_cases fits : start + offset + width ≤ view.data.size
  · have inside : (0 : Int) ≤ (start + offset : Nat) ∧
        ((start + offset : Nat) : Int) + width ≤ view.data.size := by omega
    simp only [inside, and_self, fits, ↓reduceIte, Int.toNat_natCast]
    rfl
  · have outside : ¬ ((0 : Int) ≤ (start + offset : Nat) ∧
        ((start + offset : Nat) : Int) + width ≤ view.data.size) := by omega
    simp only [outside, fits, ↓reduceIte]
    rfl

theorem raw_eq (base : view.base = start) (offset length : Nat) :
    view.raw offset length =
      if start + offset + length ≤ view.data.size then
        .ok (view.data.extract (start + offset) (start + offset + length))
      else .error (view.truncated offset length) := by
  have place : view.absolute offset = (start + offset : Nat) := by
    rw [absolute, base]
    omega
  have natural : ∀ bound : Nat, ¬ (bound : Int) < 0 := by omega
  by_cases fits : start + offset + length ≤ view.data.size
  · have inside : ¬ ((offset : Int) < 0 ∨
        (view.data.size : Int) < (start + offset : Nat) + length) := by omega
    have finish : ((start + offset : Nat) : Int) + length = (start + offset + length : Nat) := by
      omega
    simp only [raw, place]
    rw [if_neg inside, if_pos fits, finish]
    simp only [sliceBound, natural, ↓reduceIte, Int.toNat_natCast]
    rw [Nat.min_eq_left (by omega), Nat.min_eq_left fits]
  · have outside : (offset : Int) < 0 ∨
        (view.data.size : Int) < (start + offset : Nat) + length := by omega
    simp only [raw, place, outside, fits, ↓reduceIte]

theorem unsigned_eq_ok_iff (base : view.base = start) (offset : Nat) {width number : Nat} :
    view.unsigned width offset = .ok number ↔
      start + offset + width ≤ view.data.size ∧
        number = numberAt view.data (start + offset) width := by
  rw [unsigned_eq base, ite_eq_ok_iff]

/-- What is done with a number that is read, the number given by any name. -/
theorem unsigned_bind_iff (base : view.base = start) (offset : Nat) {width number : Nat}
    (same : number = numberAt view.data (start + offset) width) {α : Type} {rest : Nat → Decoded α}
    {result : α} :
    view.unsigned width offset >>= rest = .ok result ↔
      start + offset + width ≤ view.data.size ∧ rest number = .ok result := by
  rw [bind_eq_ok_iff, same]
  simp only [unsigned_eq_ok_iff base, and_assoc, exists_and_left, exists_eq_left]

theorem word_eq_ok_iff (base : view.base = (0 : Nat)) (position : Nat) {number : Nat} :
    view.u2 position = .ok number ↔
      position + 2 ≤ view.data.size ∧ number = numberAt view.data position 2 := by
  rw [u2, unsigned_eq_ok_iff base, Nat.zero_add]

theorem word_bind_iff (base : view.base = (0 : Nat)) (position : Nat) {number : Nat}
    (same : number = numberAt view.data position 2) {α : Type} {rest : Nat → Decoded α}
    {result : α} :
    view.u2 position >>= rest = .ok result ↔
      position + 2 ≤ view.data.size ∧ rest number = .ok result := by
  rw [← Nat.zero_add position] at same
  rw [u2, unsigned_bind_iff base position same, Nat.zero_add]

theorem unsigned_map_eq_ok_iff {α : Type} (base : view.base = start) (offset : Nat) {width : Nat}
    {convert : Nat → α} {result : α} :
    (view.unsigned width offset).map convert = .ok result ↔
      start + offset + width ≤ view.data.size ∧
        result = convert (numberAt view.data (start + offset) width) := by
  simp only [map_eq_ok_iff, unsigned_eq_ok_iff base, and_assoc, exists_and_left, exists_eq_left]
  exact and_congr_right fun _ => eq_comm

theorem raw_eq_ok_iff (base : view.base = start) (offset : Nat) {length : Nat}
    {bytes : Array UInt8} :
    view.raw offset length = .ok bytes ↔
      start + offset + length ≤ view.data.size ∧
        bytes = view.data.extract (start + offset) (start + offset + length) := by
  rw [raw_eq base, ite_eq_ok_iff]

theorem raw_bind_iff (base : view.base = start) (offset : Nat) {length : Nat} {bytes : Array UInt8}
    (same : bytes = view.data.extract (start + offset) (start + offset + length)) {α : Type}
    {rest : Array UInt8 → Decoded α} {result : α} :
    view.raw offset length >>= rest = .ok result ↔
      start + offset + length ≤ view.data.size ∧ rest bytes = .ok result := by
  rw [bind_eq_ok_iff, same]
  simp only [raw_eq_ok_iff base, and_assoc, exists_and_left, exists_eq_left]

theorem window_base_eq (base : view.base = start) (offset : Nat) :
    (view.window offset).base = (start + offset : Nat) := by
  rw [window_base, base, Int.natCast_add]

end

end View

end ClassOutline
