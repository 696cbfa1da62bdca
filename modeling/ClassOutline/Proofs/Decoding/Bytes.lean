import ClassOutline.Proofs.Decoding.Runs

set_option autoImplicit false

namespace ClassOutline

open View (numberAt)

/-- The data hold some bytes from a place on. -/
structure HoldsAt (data : Array UInt8) (start : Nat) (bytes : List UInt8) : Prop where
  within : start ≤ data.size
  begins : bytes <+: data.toList.drop start

variable {data : Array UInt8} {start : Nat} {bytes : List UInt8}

theorem holdsAt_toArray (bytes : List UInt8) : HoldsAt bytes.toArray 0 bytes where
  within := Nat.zero_le _
  begins := List.prefix_rfl

theorem HoldsAt.inside (holds : HoldsAt data start bytes) : start + bytes.length ≤ data.size := by
  have within := holds.within
  have shorter := holds.begins.length_le
  have size : data.toList.length = data.size := Array.length_toList
  rw [List.length_drop] at shorter
  omega

theorem HoldsAt.extract (holds : HoldsAt data start bytes) :
    data.extract start (start + bytes.length) = bytes.toArray := by
  apply Array.toList_inj.mp
  rw [Array.toList_extract, List.extract_eq_take_drop, Nat.add_sub_cancel_left]
  exact (List.prefix_iff_eq_take.mp holds.begins).symm

theorem holdsAt_append {front back : List UInt8} :
    HoldsAt data start (front ++ back) ↔
      HoldsAt data start front ∧ HoldsAt data (start + front.length) back := by
  constructor
  · intro holds
    have inside := holds.inside
    rw [List.length_append] at inside
    obtain ⟨rest, same⟩ := holds.begins
    rw [List.append_assoc] at same
    refine ⟨⟨holds.within, ⟨_, same⟩⟩, ⟨by omega, ⟨rest, ?_⟩⟩⟩
    rw [← List.drop_drop, ← same, List.drop_left]
  · rintro ⟨⟨within, rest, same⟩, -, other, behind⟩
    refine ⟨within, other, ?_⟩
    rw [← List.drop_drop, ← same, List.drop_left] at behind
    rw [List.append_assoc, behind, same]

theorem HoldsAt.numberAt_eq {width number : Nat}
    (holds : HoldsAt data start (bigEndianBytes width number)) (fits : number < 256 ^ width) :
    numberAt data start width = number := by
  have extract := holds.extract
  rw [length_bigEndianBytes] at extract
  rw [numberAt, extract, View.bigEndian_bigEndianBytes width number fits]

theorem HoldsAt.extract_within (holds : HoldsAt data start bytes) {place width : Nat}
    (inside : place + width ≤ bytes.length) :
    data.extract (start + place) (start + place + width) =
      bytes.toArray.extract place (place + width) := by
  obtain ⟨rest, same⟩ := holds.begins
  apply Array.toList_inj.mp
  rw [Array.toList_extract, Array.toList_extract, List.extract_eq_take_drop,
    List.extract_eq_take_drop, Nat.add_sub_cancel_left, Nat.add_sub_cancel_left, ← List.drop_drop,
    ← same, List.drop_append_of_le_length (by omega), List.take_append_of_le_length]
  rw [List.length_drop]
  omega

theorem HoldsAt.numberAt_within (holds : HoldsAt data start bytes) {place width : Nat}
    (inside : place + width ≤ bytes.length) :
    numberAt data (start + place) width = numberAt bytes.toArray place width := by
  rw [numberAt, numberAt, holds.extract_within inside]

theorem holdsAt_extract {width : Nat} (inside : start + width ≤ data.size) :
    HoldsAt data start (data.extract start (start + width)).toList := by
  refine ⟨by omega, ?_⟩
  rw [Array.toList_extract, List.extract_eq_take_drop, Nat.add_sub_cancel_left]
  exact List.take_prefix _ _

theorem holdsAt_byte (inside : start + 1 ≤ data.size) :
    HoldsAt data start (bigEndianBytes 1 (numberAt data start 1)) := by
  have holds := holdsAt_extract inside
  have length : (data.extract start (start + 1)).toList.length = 1 := by
    rw [Array.length_toList, Array.size_extract]
    omega
  obtain ⟨byte, only⟩ := List.length_eq_one_iff.mp length
  have value : numberAt data start 1 = 0 * 256 + byte.toNat := by
    rw [numberAt, only]
    rfl
  rw [value, Nat.zero_mul, Nat.zero_add, bigEndianBytes, UInt8.ofNat_toNat]
  rwa [only] at holds

theorem length_flatMap {α : Type} (bytes : α → List UInt8) (items : List α) :
    (items.flatMap bytes).length = totalLength (fun item => (bytes item).length) items := by
  induction items with
  | nil => rfl
  | cons item rest ih => rw [List.flatMap_cons, List.length_append, ih, totalLength_cons]

theorem length_flatMap_map {α β : Type} {bytes : α → List UInt8} {convert : α → β}
    {length : β → Nat} (same : ∀ item, length (convert item) = (bytes item).length)
    (items : List α) :
    (items.flatMap bytes).length = totalLength length (items.map convert) := by
  rw [length_flatMap, totalLength_map]
  congr 1
  funext item
  exact (same item).symm

/-- Pieces one after another are records one after another. -/
theorem HoldsAt.consecutive {α β : Type} {bytes : α → List UInt8} {convert : α → β}
    {stands : Nat → β → Prop} {length : β → Nat} {items : List α}
    (holds : HoldsAt data start (items.flatMap bytes))
    (each : ∀ item ∈ items, ∀ place, HoldsAt data place (bytes item) → stands place (convert item))
    (width : ∀ item ∈ items, length (convert item) = (bytes item).length) :
    Consecutive stands length start (items.map convert) := by
  induction items generalizing start with
  | nil => trivial
  | cons item rest ih =>
    rw [List.flatMap_cons, holdsAt_append] at holds
    obtain ⟨first, others⟩ := holds
    rw [← width item List.mem_cons_self] at others
    refine ⟨each item List.mem_cons_self start first, ih others ?_ ?_⟩
    · exact fun other later => each other (List.mem_cons_of_mem _ later)
    · exact fun other later => width other (List.mem_cons_of_mem _ later)

end ClassOutline
