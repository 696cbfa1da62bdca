import ClassOutline.Proofs.Decoding.Runs

set_option autoImplicit false

/- Reading the same bytes in two places: on their own, and as an excerpt of longer data. A reader
that never looks back finds the same in both, its errors moved by what stands in front, unless the
bytes run out where the longer data go on. -/

namespace ClassOutline

namespace DecodeError

/-- The error in data with `shift` more bytes in front. -/
def shifted (shift : Nat) (error : DecodeError) : DecodeError :=
  { error with offset := error.offset.map (· + (shift : Int)) }

@[simp] theorem shifted_zero (error : DecodeError) : error.shifted 0 = error := by
  obtain ⟨fault, offset, source⟩ := error
  cases offset <;> simp [shifted]

theorem shifted_of_offset_eq_none {error : DecodeError} (placeless : error.offset = none)
    (shift : Nat) : error.shifted shift = error := by
  obtain ⟨fault, offset, source⟩ := error
  subst placeless
  rfl

/-- A read that ends beyond the first `size` bytes was refused. -/
def RunsOut (size : Nat) (error : DecodeError) : Prop :=
  ∃ width position : Int, error.fault = .truncated width ∧ error.offset = some position ∧
    size < position + width

/-- Only a read that ends beyond the first `size` bytes is refused as one that does. -/
def Honest (size : Nat) (error : DecodeError) : Prop :=
  ∀ width, error.fault = .truncated width → error.RunsOut size

theorem RunsOut.isMalformed {size : Nat} {error : DecodeError} (short : error.RunsOut size) :
    error.fault.isMalformed = true := by
  obtain ⟨width, position, fault, -, -⟩ := short
  rw [fault]
  rfl

end DecodeError

/-- Some bytes with those that stand before and after them in longer data. -/
structure Excerpt where
  before : Array UInt8
  bytes : Array UInt8
  after : Array UInt8

namespace Excerpt

variable {excerpt : Excerpt} {α β : Type}

def whole (excerpt : Excerpt) : Array UInt8 :=
  excerpt.before ++ excerpt.bytes ++ excerpt.after

/-- Two views of the same byte, one in the excerpt and one in the longer data. -/
structure Views (excerpt : Excerpt) (inner outer : View) : Prop where
  innerData : inner.data = excerpt.bytes
  outerData : outer.data = excerpt.whole
  base : outer.base = inner.base + excerpt.before.size
  source : outer.source = inner.source
  natural : 0 ≤ inner.base

/-- How the result in the excerpt tells that in the longer data. -/
inductive Tracks (excerpt : Excerpt) : Decoded α → Decoded α → Prop
  | value (value : α) : Tracks excerpt (.ok value) (.ok value)
  | fault (error : DecodeError) (honest : error.Honest excerpt.bytes.size) :
      Tracks excerpt (.error error) (.error (error.shifted excerpt.before.size))
  | cut (error : DecodeError) (other : Decoded α) (more : 0 < excerpt.after.size)
      (short : error.RunsOut excerpt.bytes.size) : Tracks excerpt (.error error) other

theorem Views.window {inner outer : View} (views : excerpt.Views inner outer) (offset : Int)
    (forward : 0 ≤ offset) : excerpt.Views (inner.window offset) (outer.window offset) where
  innerData := views.innerData
  outerData := views.outerData
  base := by
    have base := views.base
    simp only [View.window_base]
    omega
  source := views.source
  natural := by
    have natural := views.natural
    simp only [View.window_base]
    omega

theorem Views.absolute {inner outer : View} (views : excerpt.Views inner outer) (offset : Int) :
    outer.absolute offset = inner.absolute offset + excerpt.before.size := by
  have base := views.base
  simp only [View.absolute]
  omega

theorem Views.shifted_truncated {inner outer : View} (views : excerpt.Views inner outer)
    (offset width : Int) :
    (inner.truncated offset width).shifted excerpt.before.size = outer.truncated offset width := by
  simp only [DecodeError.shifted, View.truncated, Option.map_some, views.absolute, views.source]

theorem Views.extract {inner outer : View} (views : excerpt.Views inner outer)
    (start finish : Nat) (inside : finish ≤ inner.data.size) :
    outer.data.extract (excerpt.before.size + start) (excerpt.before.size + finish) =
      inner.data.extract start finish := by
  rw [views.innerData] at inside
  rw [views.innerData, views.outerData, whole, Array.append_assoc, Array.extract_append,
    Array.extract_append]
  have front : excerpt.before.extract (excerpt.before.size + start)
      (excerpt.before.size + finish) = #[] := by
    rw [Array.extract_eq_empty_iff]
    omega
  have back : excerpt.after.extract (start - excerpt.bytes.size) (finish - excerpt.bytes.size) =
      #[] := by
    rw [Array.extract_eq_empty_iff]
    omega
  rw [front, Nat.add_sub_cancel_left, Nat.add_sub_cancel_left, back, Array.empty_append,
    Array.append_empty]

theorem Views.size {inner outer : View} (views : excerpt.Views inner outer) :
    outer.data.size = excerpt.before.size + inner.data.size + excerpt.after.size := by
  rw [views.innerData, views.outerData, whole, Array.size_append, Array.size_append]

theorem Views.outer_base {inner outer : View} (views : excerpt.Views inner outer) {start : Nat}
    (base : inner.base = start) : outer.base = (excerpt.before.size + start : Nat) := by
  rw [views.base, base]
  omega

/-- Bytes within the data are the same in both places. Those beyond are refused in the longer data
too, or the data go on there. -/
theorem Views.bounded {inner outer : View} (views : excerpt.Views inner outer) {start : Nat}
    (base : inner.base = start) (offset width : Nat) (convert : Array UInt8 → α) :
    excerpt.Tracks
      (if start + offset + width ≤ inner.data.size then
        .ok (convert (inner.data.extract (start + offset) (start + offset + width)))
      else .error (inner.truncated offset width))
      (if excerpt.before.size + start + offset + width ≤ outer.data.size then
        .ok (convert (outer.data.extract (excerpt.before.size + start + offset)
          (excerpt.before.size + start + offset + width)))
      else .error (outer.truncated offset width)) := by
  have size := views.size
  by_cases fits : start + offset + width ≤ inner.data.size
  · have same := views.extract (start + offset) _ fits
    simp only [← Nat.add_assoc] at same
    rw [if_pos fits, if_pos (by omega), same]
    exact Tracks.value _
  · have runsOut : (inner.truncated offset width).RunsOut excerpt.bytes.size := by
      refine ⟨width, inner.absolute offset, rfl, rfl, ?_⟩
      rw [← views.innerData, View.absolute, base]
      omega
    rw [if_neg fits]
    by_cases more : 0 < excerpt.after.size
    · exact Tracks.cut _ _ more runsOut
    · rw [if_neg (by omega), ← views.shifted_truncated]
      exact Tracks.fault _ (fun _ _ => runsOut)

namespace Tracks

theorem pure (value : α) : excerpt.Tracks (Pure.pure value) (Pure.pure value) :=
  Tracks.value value

/-- A fault without a place is met the same everywhere. -/
theorem unplaced (fault : DecodeFault) (source : Option Text)
    (other : ∀ width, fault ≠ .truncated width) :
    excerpt.Tracks (α := α) (.error { fault, source }) (.error { fault, source }) := by
  have moved : excerpt.Tracks (α := α) _ _ :=
    Tracks.fault { fault, source } (fun width same => absurd same (other width))
  rwa [DecodeError.shifted_of_offset_eq_none rfl] at moved

theorem bind {inner outer : Decoded α} {innerRest outerRest : α → Decoded β}
    (first : excerpt.Tracks inner outer)
    (rest : ∀ value, inner = .ok value → excerpt.Tracks (innerRest value) (outerRest value)) :
    excerpt.Tracks (inner >>= innerRest) (outer >>= outerRest) := by
  cases first with
  | value value => exact rest value rfl
  | fault error honest => exact Tracks.fault error honest
  | cut error _ more short => exact Tracks.cut error _ more short

theorem map {inner outer : Decoded α} (convert : α → β) (first : excerpt.Tracks inner outer) :
    excerpt.Tracks (inner.map convert) (outer.map convert) := by
  cases first with
  | value value => exact Tracks.value (convert value)
  | fault error honest => exact Tracks.fault error honest
  | cut error _ more short => exact Tracks.cut error _ more short

/-- Without bytes in front the two results are equal, or the excerpt ran out of bytes. -/
theorem eq_or_runsOut {inner outer : Decoded α} (tracks : excerpt.Tracks inner outer)
    (first : excerpt.before.size = 0) :
    outer = inner ∨ ∃ error, inner = .error error ∧ error.RunsOut excerpt.bytes.size := by
  cases tracks with
  | value value => exact Or.inl rfl
  | fault error _ => exact Or.inl (by rw [first, DecodeError.shifted_zero])
  | cut error _ _ short => exact Or.inr ⟨error, rfl, short⟩

/-- Without bytes behind, an excerpt tells the whole result: the same value, or the same error
further on. -/
theorem eq_shifted {inner outer : Decoded α} (tracks : excerpt.Tracks inner outer)
    (last : excerpt.after.size = 0) :
    outer = inner.mapError (·.shifted excerpt.before.size) := by
  cases tracks with
  | value value => rfl
  | fault error _ => rfl
  | cut error _ more _ => omega

theorem honest {inner outer : Decoded α} (tracks : excerpt.Tracks inner outer)
    {error : DecodeError} (failed : inner = .error error) :
    error.Honest excerpt.bytes.size := by
  cases tracks with
  | value value => cases failed
  | fault _ honest =>
    cases failed
    exact honest
  | cut _ _ _ short =>
    cases failed
    exact fun _ _ => short

end Tracks

theorem Views.unsigned {inner outer : View} (views : excerpt.Views inner outer) (width : Nat)
    (offset : Int) (forward : 0 ≤ offset) :
    excerpt.Tracks (inner.unsigned width offset) (outer.unsigned width offset) := by
  obtain ⟨start, base⟩ := Int.eq_ofNat_of_zero_le views.natural
  obtain ⟨offset, rfl⟩ := Int.eq_ofNat_of_zero_le forward
  rw [View.unsigned_eq base, View.unsigned_eq (views.outer_base base)]
  exact views.bounded base offset width (fun bytes => View.bigEndian bytes.toList)

theorem Views.raw {inner outer : View} (views : excerpt.Views inner outer) (offset : Int)
    (length : Nat) (forward : 0 ≤ offset) :
    excerpt.Tracks (inner.raw offset length) (outer.raw offset length) := by
  obtain ⟨start, base⟩ := Int.eq_ofNat_of_zero_le views.natural
  obtain ⟨offset, rfl⟩ := Int.eq_ofNat_of_zero_le forward
  rw [View.raw_eq base, View.raw_eq (views.outer_base base)]
  exact views.bounded base offset length (fun bytes => bytes)

theorem Views.signed {inner outer : View} (views : excerpt.Views inner outer) (width : Nat)
    (offset : Int) (forward : 0 ≤ offset) :
    excerpt.Tracks (inner.signed width offset) (outer.signed width offset) :=
  (views.unsigned width offset forward).map _

/-- Records track each other if each of them does. -/
theorem Tracks.recordsAt {inner outer : Nat → Decoded α} (length : α → Nat)
    (each : ∀ offset, excerpt.Tracks (inner offset) (outer offset)) (count offset : Nat) :
    excerpt.Tracks (ClassOutline.recordsAt inner length count offset)
      (ClassOutline.recordsAt outer length count offset) := by
  induction count generalizing offset with
  | zero => exact Tracks.value _
  | succ count ih =>
    rw [recordsAt_succ, recordsAt_succ]
    apply Tracks.bind (each offset)
    intro item _
    apply Tracks.bind (ih (offset + length item))
    rintro ⟨items, total⟩ -
    exact Tracks.pure _

theorem Views.records {inner outer : View} (views : excerpt.Views inner outer) (count : Int)
    (length : α → Nat) {read : View → Decoded α}
    (each : ∀ {inner outer : View}, excerpt.Views inner outer →
      excerpt.Tracks (read inner) (read outer)) :
    excerpt.Tracks (inner.records count length read) (outer.records count length read) :=
  Tracks.recordsAt length (fun offset => each (views.window offset (by omega))) _ _

theorem Views.fixedRecords {inner outer : View} (views : excerpt.Views inner outer)
    (count width : Int) {read : View → Decoded α} (forward : 0 ≤ width)
    (each : ∀ {inner outer : View}, excerpt.Views inner outer →
      excerpt.Tracks (read inner) (read outer)) :
    excerpt.Tracks (inner.fixedRecords count width read)
      (outer.fixedRecords count width read) := by
  apply Tracks.bind
  · apply Tracks.recordsAt
    intro index
    exact each (views.window _ (Int.mul_nonneg (by omega) forward))
  · rintro ⟨items, total⟩ -
    exact Tracks.pure _

theorem extract_append_rest {data : Array UInt8} {count : Nat} (inside : count ≤ data.size) :
    data.extract 0 count ++ data.extract count data.size = data := by
  rw [Array.extract_append_extract, Nat.max_eq_right inside, Nat.min_eq_left (Nat.zero_le _),
    Array.extract_size]

def followed (bytes more : Array UInt8) : Excerpt :=
  { before := #[], bytes, after := more }

theorem followed_views (bytes more : Array UInt8) (source : Option Text) :
    (followed bytes more).Views { data := bytes, source } { data := bytes ++ more, source } where
  innerData := rfl
  outerData := by
    rw [whole, followed, Array.empty_append]
  base := rfl
  source := rfl
  natural := Int.le_refl 0

def preceded (front bytes : Array UInt8) : Excerpt :=
  { before := front, bytes, after := #[] }

theorem preceded_views (front bytes : Array UInt8) (source : Option Text) :
    (preceded front bytes).Views { data := bytes, source }
      { data := front ++ bytes, base := front.size, source } where
  innerData := rfl
  outerData := by
    rw [whole, preceded, Array.append_empty]
  base := by
    rw [preceded, Int.zero_add]
  source := rfl
  natural := Int.le_refl 0

end Excerpt

end ClassOutline
