import ClassOutline.Decoding.Reach
import ClassOutline.Proofs.Decoding.Numbers

set_option autoImplicit false

/- Which bytes a read gives. A read that begins within the data, at an offset that is not negative,
gives the bytes at its positions or is refused. In front of the data both kinds of reads go wrong,
each in its own way: a number is taken from the end of the data, and so are bytes, of which some or
all may be missing. -/

namespace ClassOutline

open View (bigEndian twosComplement)

/-- The kinds of numbers that can be read. -/
inductive NumberKind
  | u1
  | u2
  | u4
  | s2
  | s4
  | s8
  | f4
  | f8
deriving DecidableEq, Repr

namespace NumberKind

def width : NumberKind → Nat
  | .u1 => 1
  | .u2 | .s2 => 2
  | .u4 | .s4 | .f4 => 4
  | .s8 | .f8 => 8

def read (kind : NumberKind) (view : View) (offset : Int) : Decoded (Int ⊕ FloatValue) :=
  match kind with
  | .u1 => (view.u1 offset).map fun number => .inl number
  | .u2 => (view.u2 offset).map fun number => .inl number
  | .u4 => (view.u4 offset).map fun number => .inl number
  | .s2 => (view.s2 offset).map .inl
  | .s4 => (view.s4 offset).map .inl
  | .s8 => (view.s8 offset).map .inl
  | .f4 => (view.f4 offset).map .inr
  | .f8 => (view.f8 offset).map .inr

def valueOf (bytes : List UInt8) : NumberKind → Int ⊕ FloatValue
  | .u1 | .u2 | .u4 => .inl (bigEndian bytes)
  | .s2 => .inl (twosComplement 2 (bigEndian bytes))
  | .s4 => .inl (twosComplement 4 (bigEndian bytes))
  | .s8 => .inl (twosComplement 8 (bigEndian bytes))
  | .f4 => .inr (binary32.decode (bigEndian bytes))
  | .f8 => .inr (binary64.decode (bigEndian bytes))

theorem width_pos (kind : NumberKind) : 0 < kind.width := by
  cases kind <;> decide

theorem read_eq (kind : NumberKind) (view : View) (offset : Int) :
    kind.read view offset =
      (view.numberBytes offset kind.width).map fun bytes => kind.valueOf bytes := by
  cases kind <;>
    simp only [read, width, valueOf, View.u1, View.u2, View.u4, View.s2, View.s4, View.s8, View.f4,
      View.f8, View.signed, View.unsigned] <;>
    cases view.numberBytes offset _ <;> rfl

end NumberKind

namespace View

theorem data_foldl_window (windows : List Int) (view : View) :
    (windows.foldl window view).data = view.data := by
  induction windows generalizing view with
  | nil => rfl
  | cons offset rest ih => exact ih (view.window offset)

/-- Where the bytes of a number begin: at its position, or, if that is negative, as far from the end
of the data. -/
theorem numberStart?_eq_some_iff {size width start : Nat} {position : Int} :
    numberStart? size position width = some start ↔
      (position = start ∨ position < 0 ∧ position + size = start) ∧ start + width ≤ size := by
  unfold numberStart?
  dsimp only
  rw [Option.ite_none_right_eq_some, Option.some.injEq]
  split
  · rename_i negative
    constructor
    · rintro ⟨inside, rfl⟩
      omega
    · rintro ⟨place, inside⟩
      omega
  · rename_i natural
    constructor
    · rintro ⟨inside, rfl⟩
      omega
    · rintro ⟨place, inside⟩
      omega

variable {view : View} {offset : Int} {length : Nat}

theorem numberBytes_eq_ok_iff {width : Nat} {bytes : List UInt8} :
    view.numberBytes offset width = .ok bytes ↔
      ∃ start : Nat, (view.absolute offset = start ∨
          view.absolute offset < 0 ∧ view.absolute offset + view.data.size = start) ∧
        start + width ≤ view.data.size ∧
        bytes = (view.data.extract start (start + width)).toList := by
  unfold numberBytes
  cases found : numberStart? view.data.size (view.absolute offset) width with
  | none =>
    refine ⟨nofun, ?_⟩
    rintro ⟨start, place, inside, -⟩
    rw [numberStart?_eq_some_iff.mpr ⟨place, inside⟩] at found
    cases found
  | some start =>
    obtain ⟨place, inside⟩ := numberStart?_eq_some_iff.mp found
    constructor
    · rintro ⟨⟩
      exact ⟨start, place, inside, rfl⟩
    · rintro ⟨other, otherPlace, otherInside, rfl⟩
      rw [numberStart?_eq_some_iff.mpr ⟨otherPlace, otherInside⟩] at found
      cases found
      rfl

theorem raw_eq_ok_iff_slice {bytes : Array UInt8} :
    view.raw offset length = .ok bytes ↔
      0 ≤ offset ∧ view.absolute offset + length ≤ view.data.size ∧
        bytes = view.data.extract (sliceBound view.data.size (view.absolute offset))
          (sliceBound view.data.size (view.absolute offset + length)) := by
  unfold raw
  dsimp only
  split
  · rename_i outside
    refine ⟨nofun, ?_⟩
    rintro ⟨forward, inside, -⟩
    omega
  · rename_i inside
    rw [Except.ok.injEq]
    constructor
    · rintro rfl
      exact ⟨by omega, by omega, rfl⟩
    · rintro ⟨-, -, rfl⟩
      rfl

theorem sliceBound_natCast {size bound : Nat} (inside : bound ≤ size) :
    sliceBound size bound = bound := by
  simp only [sliceBound]
  omega

/-- A slice that begins within the data is cut at its positions. -/
theorem raw_eq_ok_iff_of_within {start : Nat} (place : view.absolute offset = start)
    {bytes : Array UInt8} :
    view.raw offset length = .ok bytes ↔
      0 ≤ offset ∧ start + length ≤ view.data.size ∧
        bytes = view.data.extract start (start + length) := by
  have finish : (start : Int) + length = (start + length : Nat) := by omega
  rw [raw_eq_ok_iff_slice, place, finish, Int.ofNat_le]
  refine and_congr_right fun _ => and_congr_right fun inside => ?_
  rw [sliceBound_natCast (by omega), sliceBound_natCast inside]

theorem isIndex_of_size {size : Nat} {number : Int} (addressable : isIndex size = true)
    (lower : -(size : Int) ≤ number) (upper : number ≤ size) : isIndex number = true := by
  unfold isIndex at addressable ⊢
  simp only [Bool.and_eq_true, decide_eq_true_eq] at addressable ⊢
  omega

theorem isMalformed_of_raw {error : DecodeError} (refused : view.raw offset length = .error error) :
    error.fault.isMalformed = true := by
  unfold raw at refused
  dsimp only at refused
  split at refused <;> cases refused
  rfl

/-- What is asked of the reads of `length` bytes at an offset: `raw` gives exactly the bytes at
these positions, all of them within the data, or finds the data too short, and a number of that
width is read exactly if the bytes are, and is the one they stand for. -/
structure ReadsExactly (view : View) (offset : Int) (length : Nat) : Prop where
  refused : ∀ error, view.raw offset length = .error error → error.fault.isMalformed = true
  size : ∀ bytes, view.raw offset length = .ok bytes → bytes.size = length
  bytes : ∀ bytes, view.raw offset length = .ok bytes → ∀ place < length,
    ∃ position : Nat, (position : Int) = view.absolute offset + place ∧
      position < view.data.size ∧ bytes[place]? = view.data[position]?
  numbers : ∀ kind : NumberKind, kind.width = length → ∀ value,
    view.reach offset kind.read = .ok value ↔
      ∃ bytes, view.raw offset length = .ok bytes ∧ value = kind.valueOf bytes.toList

/-- Bytes are read from the front of the data on, and no number lies at an offset that is negative,
neither from the front nor from the end of the data. -/
structure ReadsForward (size : Nat) (offset position : Int) (length : Nat) : Prop where
  bytes : 0 ≤ offset → position + length ≤ size → 0 ≤ position ∨ length = 0
  numbers : offset < 0 → ∀ kind : NumberKind, kind.width = length → ∀ start : Nat,
    position = start ∨ position < 0 ∧ position + size = start → size < start + length

theorem ReadsExactly.forward (addressable : isIndex view.data.size = true)
    (exactly : view.ReadsExactly offset length) :
    ReadsForward view.data.size offset (view.absolute offset) length where
  bytes := by
    intro forward inside
    obtain ⟨found, read⟩ : ∃ found, view.raw offset length = .ok found :=
      ⟨_, raw_eq_ok_iff_slice.mpr ⟨forward, inside, rfl⟩⟩
    rcases Nat.eq_zero_or_pos length with none | some
    · exact Or.inr none
    · obtain ⟨position, same, -⟩ := exactly.bytes found read 0 some
      exact Or.inl (by omega)
  numbers := by
    rintro negative kind rfl start place
    apply Nat.lt_of_not_le
    intro inside
    have read := numberBytes_eq_ok_iff.mpr ⟨start, place, inside, rfl⟩
    have near : isIndex (view.absolute offset) = true :=
      isIndex_of_size addressable (by omega) (by omega)
    have reached := reach_eq_ok_iff.mpr ⟨near, (kind.read_eq view offset).trans (congrArg _ read)⟩
    obtain ⟨bytes, found, -⟩ := (exactly.numbers kind rfl _).mp reached
    have forward := (raw_eq_ok_iff_slice.mp found).1
    omega

theorem reach_eq_ok_iff_of_within (addressable : isIndex view.data.size = true) (kind : NumberKind)
    {start : Nat} (place : view.absolute offset = start) {value : Int ⊕ FloatValue} :
    view.reach offset kind.read = .ok value ↔
      start + kind.width ≤ view.data.size ∧
        value = kind.valueOf (view.data.extract start (start + kind.width)).toList := by
  rw [reach_eq_ok_iff, kind.read_eq, map_eq_ok_iff]
  constructor
  · rintro ⟨-, bytes, found, rfl⟩
    obtain ⟨other, otherPlace, inside, rfl⟩ := numberBytes_eq_ok_iff.mp found
    obtain rfl : other = start := by omega
    exact ⟨inside, rfl⟩
  · rintro ⟨inside, rfl⟩
    have near : isIndex (view.absolute offset) = true :=
      isIndex_of_size addressable (by omega) (by omega)
    exact ⟨near, _, numberBytes_eq_ok_iff.mpr ⟨start, Or.inl place, inside, rfl⟩, rfl⟩

theorem ReadsForward.exactly (addressable : isIndex view.data.size = true)
    (forward : ReadsForward view.data.size offset (view.absolute offset) length) :
    view.ReadsExactly offset length where
  refused error := isMalformed_of_raw
  size := by
    intro bytes found
    obtain ⟨ahead, inside, rfl⟩ := raw_eq_ok_iff_slice.mp found
    rcases forward.bytes ahead inside with within | rfl
    · obtain ⟨start, place⟩ := Int.eq_ofNat_of_zero_le within
      obtain ⟨-, fits, same⟩ := (raw_eq_ok_iff_of_within place).mp found
      rw [same, Array.size_extract]
      omega
    · rw [Array.size_extract, Int.natCast_zero, Int.add_zero]
      omega
  bytes := by
    intro bytes found index inLength
    obtain ⟨ahead, inside, -⟩ := raw_eq_ok_iff_slice.mp found
    have within : 0 ≤ view.absolute offset := by
      rcases forward.bytes ahead inside with within | none
      · exact within
      · omega
    obtain ⟨start, place⟩ := Int.eq_ofNat_of_zero_le within
    obtain ⟨-, fits, rfl⟩ := (raw_eq_ok_iff_of_within place).mp found
    refine ⟨start + index, by omega, by omega, ?_⟩
    rw [Array.getElem?_extract, if_pos (by omega)]
  numbers := by
    rintro kind rfl value
    have positive := kind.width_pos
    -- In front of the data no bytes are read, and no number from the end of the data either.
    have neither (outside : offset < 0 ∨ view.absolute offset < 0) :
        view.reach offset kind.read = .ok value ↔
          ∃ bytes, view.raw offset kind.width = .ok bytes ∧
            value = kind.valueOf bytes.toList := by
      constructor
      · intro reached
        obtain ⟨-, read⟩ := reach_eq_ok_iff.mp reached
        rw [kind.read_eq, map_eq_ok_iff] at read
        obtain ⟨bytes, found, -⟩ := read
        obtain ⟨start, place, inside, -⟩ := numberBytes_eq_ok_iff.mp found
        by_cases negative : offset < 0
        · have short := forward.numbers negative kind rfl start place
          omega
        · have within := forward.bytes (by omega) (by omega)
          omega
      · rintro ⟨bytes, found, -⟩
        obtain ⟨ahead, inside, -⟩ := raw_eq_ok_iff_slice.mp found
        have within := forward.bytes ahead inside
        omega
    by_cases outside : offset < 0 ∨ view.absolute offset < 0
    · exact neither outside
    · obtain ⟨start, place⟩ := Int.eq_ofNat_of_zero_le (a := view.absolute offset) (by omega)
      have ahead : 0 ≤ offset := by omega
      rw [reach_eq_ok_iff_of_within addressable kind place]
      simp only [raw_eq_ok_iff_of_within place, ahead, true_and, and_assoc, exists_and_left,
        exists_eq_left]

/-- Which reads give exactly what is asked for, in a view that any windows lead to: those that lie
ahead of the front of the data. So do all at offsets that are not negative, if the view begins
within the data or behind them. No data are so long that a position in them is out of reach. -/
theorem readsExactly_iff {data : Array UInt8} (addressable : isIndex data.size = true)
    (source : Option Text) (windows : List Int) (offset : Int) (length : Nat) :
    let view := windows.foldl window { data, source }
    (view.ReadsExactly offset length ↔
        ReadsForward data.size offset (view.absolute offset) length) ∧
      (0 ≤ view.base → 0 ≤ offset → view.ReadsExactly offset length) := by
  intro view
  have same : view.data = data := data_foldl_window windows _
  rw [← same] at addressable ⊢
  refine ⟨⟨ReadsExactly.forward addressable, ReadsForward.exactly addressable⟩, ?_⟩
  intro base ahead
  have position : 0 ≤ view.absolute offset := Int.add_nonneg base ahead
  apply ReadsForward.exactly addressable
  exact {
    bytes := fun _ _ => Or.inl position
    numbers := fun behind => absurd ahead (Int.not_le.mpr behind) }

/-- Two bytes behind the first one are read. At the first one they are refused from a view that
begins behind it, while a number is read there, and in front of the data nothing is refused. -/
theorem readsExactly_iff_around :
    let data : Array UInt8 := #[1, 2, 3]
    isIndex data.size = true ∧
      ([5, -4].foldl window { data }).ReadsExactly 0 2 ∧
      ¬ ([5, -4].foldl window { data }).ReadsExactly (-1) 2 ∧
      ¬ ([-2].foldl window { data }).ReadsExactly 0 2 := by
  intro data
  have addressable : isIndex data.size = true := by decide
  refine ⟨addressable, ?_, ?_, ?_⟩
  · exact (readsExactly_iff addressable none [5, -4] 0 2).2 (by decide) (by decide)
  · rw [(readsExactly_iff addressable none [5, -4] (-1) 2).1]
    intro forward
    have short := forward.numbers (by decide) .u2 rfl 0 (Or.inl rfl)
    exact absurd short (by decide)
  · rw [(readsExactly_iff addressable none [-2] 0 2).1]
    intro forward
    rcases forward.bytes (by decide) (by decide) with within | none
    · exact absurd within (by decide)
    · cases none

/-- In front of the data no byte is given where two are asked for. -/
theorem not_forall_readsExactly :
    ¬ ∀ (data : Array UInt8) (windows : List Int) (offset : Int) (length : Nat),
      (windows.foldl window { data }).ReadsExactly offset length := by
  intro exactly
  have found : ([-2].foldl window { data := #[1, 2, 3] }).raw 0 (2 : Nat) = .ok #[] := rfl
  have size := (exactly #[1, 2, 3] [-2] 0 2).size _ found
  cases size

end View

end ClassOutline
