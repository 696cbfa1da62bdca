import ClassOutline.Proofs.Pool.Records
import ClassOutline.Proofs.Text.CodeUnits

set_option autoImplicit false

namespace ClassOutline

/-- The record of a text as it is written, whether or not the bytes can be read. -/
def textBytes (payload : List UInt8) : List UInt8 :=
  bigEndianBytes 1 Kind.utf8.tag ++ (bigEndianBytes 2 payload.length ++ payload)

/-- Why the text in a slot cannot be read. -/
def invalidText (slot place : Nat) (source : Option Text) : DecodeError :=
  { fault := .invalidUtf8 slot, offset := some place, source }

theorem Entry.read_textBytes {view : View} {start : Nat} (base : view.base = start)
    {payload : List UInt8} (small : payload.length < 0x10000)
    (holds : HoldsAt view.data start (textBytes payload))
    (invalid : ModifiedUtf8.decode? payload = none) (slot : Nat) :
    Entry.read view slot = .error (invalidText slot (start + 3) view.source) := by
  obtain ⟨first, behind⟩ := holdsAt_append.mp holds
  obtain ⟨second, bytes⟩ := holdsAt_append.mp behind
  rw [length_bigEndianBytes] at second bytes
  rw [length_bigEndianBytes] at bytes
  have near : (view.window 1).base = (start + 1 : Nat) := View.window_base_eq base 1
  have tag : view.u1 0 = .ok Kind.utf8.tag :=
    (View.unsigned_eq_ok_iff base 0).mpr ⟨first.inside, (first.numberAt_eq (by decide)).symm⟩
  have length : (view.window 1).u2 0 = .ok payload.length :=
    (View.unsigned_eq_ok_iff near 0).mpr ⟨second.inside, (second.numberAt_eq small).symm⟩
  have content : (view.window 1).raw 2 payload.length = .ok payload.toArray :=
    (View.raw_eq_ok_iff near 2).mpr ⟨bytes.inside, bytes.extract.symm⟩
  have place : (view.window 1).absolute 2 = (start + 3 : Nat) := by
    rw [View.absolute, near]
    omega
  have body : readBody (view.window 1) slot .utf8 =
      .error (invalidText slot (start + 3) view.source) := by
    refine bind_eq_error_iff.mpr (Or.inr ⟨_, length, ?_⟩)
    refine bind_eq_error_iff.mpr (Or.inr ⟨_, content, ?_⟩)
    rw [List.toList_toArray, invalid, place]
    rfl
  refine bind_eq_error_iff.mpr (Or.inr ⟨_, tag, ?_⟩)
  exact bind_eq_error_iff.mpr (Or.inl body)

namespace ConstantPool

/-- Entries that the table has more room than for are read before what stands behind them. -/
theorem readSlots_of_consecutive {view : View} {start : Nat} (base : view.base = start)
    {count : Int} {slots : Array (Option Entry)} {offset : Nat} {run : List (Entry × Nat)}
    (stand : Consecutive (Entry.StandsAt view.data) Prod.snd (start + offset) run)
    (room : ((slots.size + (table (run.map Prod.fst)).size : Nat) : Int) < count) :
    readSlots view count slots offset =
      readSlots view count (slots ++ table (run.map Prod.fst))
        (offset + totalLength Prod.snd run) := by
  induction run generalizing slots offset with
  | nil =>
    rw [List.map_nil, table, Array.append_empty]
    rfl
  | cons record rest ih =>
    obtain ⟨entry, width⟩ := record
    obtain ⟨stands, others⟩ := stand
    rw [List.map_cons, table, Array.size_append] at room
    rw [readSlots_of_standsAt base (by omega) stands]
    rw [Nat.add_assoc] at others
    rw [List.map_cons, table, ← Array.append_assoc, totalLength_cons, ← Nat.add_assoc]
    exact ih others (by rwa [Array.size_append, Nat.add_assoc])

/-- Behind any records that leave a slot for it, a text that cannot be read makes the pool
unreadable. -/
theorem read_textBytes {before : List PoolRecord} {payload behind : List UInt8} {count : Int}
    (small : payload.length < 0x10000)
    (room : (slotOf (before.map PoolRecord.entry) before.length : Int) < count)
    (invalid : ModifiedUtf8.decode? payload = none) (source : Option Text) :
    let front := before.flatMap PoolRecord.bytes
    read { data := (front ++ (textBytes payload ++ behind)).toArray, source } count =
      .error (invalidText (slotOf (before.map PoolRecord.entry) before.length)
        (front.length + 3) source) := by
  intro front
  let view : View := { data := (front ++ (textBytes payload ++ behind)).toArray, source }
  let run := before.map fun record => (record.entry, record.bytes.length)
  obtain ⟨first, rest⟩ :=
    holdsAt_append.mp (holdsAt_toArray (front ++ (textBytes payload ++ behind)))
  obtain ⟨record, -⟩ := holdsAt_append.mp rest
  rw [Nat.zero_add] at record
  have stand : Consecutive (Entry.StandsAt view.data) Prod.snd 0 run :=
    (PoolRecord.consecutive_iff (Nat.zero_le _)).mpr ⟨before, first, rfl⟩
  have entries : run.map Prod.fst = before.map PoolRecord.entry := by
    rw [List.map_map]
    rfl
  have width : totalLength Prod.snd run = front.length := by
    rw [totalLength_map, length_flatMap]
  have slot : slotOf (before.map PoolRecord.entry) before.length =
      (#[none] ++ table (run.map Prod.fst)).size := by
    rw [entries, ← slotOf_length, List.length_map]
  have base : view.base = (0 : Nat) := rfl
  have near := View.window_base_eq base front.length
  rw [Nat.zero_add] at near
  have failed : readSlots view count #[none] 0 =
      .error (invalidText (slotOf (before.map PoolRecord.entry) before.length) (front.length + 3)
        source) := by
    rw [slot] at room ⊢
    rw [readSlots_of_consecutive base stand, Nat.zero_add, readSlots_of_lt room, width,
      Entry.read_textBytes near small record invalid]
    · rfl
    · rwa [Array.size_append] at room
  exact bind_eq_error_iff.mpr (Or.inl failed)

end ConstantPool

namespace ModifiedUtf8

open ConstantPool (slotOf)

/-- Bytes are a text exactly if they are well-formed sequences. The text is that of their characters
with the surrogates joined: its code units are theirs, no pair is left apart, and going by way of
UTF-8 and UTF-16 gives the same. Other bytes are no text, and no pool is read that holds them as
one, in whatever slot. -/
theorem decode?_sequences_or_refused (bytes : List UInt8) :
    (∀ text, decode? bytes = some text ↔
      ∃ points, Sequences bytes points ∧ text = joinPairs points) ∧
    (∀ points, Sequences bytes points → units (joinPairs points) = units points ∧
      PairFree (joinPairs points) ∧ ReadInPasses bytes (joinPairs points)) ∧
    ((¬ ∃ points, Sequences bytes points) → decode? bytes = none ∧
      ∀ (before : List PoolRecord) (behind : List UInt8) (count : Int) (source : Option Text),
        bytes.length < 0x10000 →
        (slotOf (before.map PoolRecord.entry) before.length : Int) < count →
        ∃ error : DecodeError, error.fault.isMalformed = true ∧
          error = invalidText (slotOf (before.map PoolRecord.entry) before.length)
            ((before.flatMap PoolRecord.bytes).length + 3) source ∧
          ConstantPool.read { data := (before.flatMap PoolRecord.bytes ++
            (textBytes bytes ++ behind)).toArray, source } count = .error error) := by
  refine ⟨fun text => decode?_eq_some_iff, fun points sequences => ?_, fun malformed => ?_⟩
  · have read := decode?_eq_some_iff.mpr ⟨points, sequences, rfl⟩
    exact ⟨units_joinPairs points, pairFree_joinPairs points,
      decode?_eq_some_iff_readInPasses.mp read⟩
  · have invalid : decode? bytes = none := by
      rw [Option.eq_none_iff_forall_ne_some]
      intro text read
      obtain ⟨points, sequences, -⟩ := decode?_eq_some_iff.mp read
      exact malformed ⟨points, sequences⟩
    exact ⟨invalid, fun before behind count source small room =>
      ⟨_, rfl, rfl, ConstantPool.read_textBytes small room invalid source⟩⟩

/-- Two halves of a character are joined. The letter A in two bytes is refused, here in the slot
behind those of a mixed pool. -/
theorem decode?_halves_and_overlong :
    Sequences [0xED, 0xA0, 0xBD, 0xED, 0xB8, 0x80] [0xD83D, 0xDE00] ∧
    decode? [0xED, 0xA0, 0xBD, 0xED, 0xB8, 0x80] = some [0x1F600] ∧ PairFree [0x1F600] ∧
    (¬ ∃ points, Sequences [0xC1, 0x81] points) ∧ decode? [0xC1, 0x81] = none ∧
    ∃ error : DecodeError, error.fault = .invalidUtf8 7 ∧
      ConstantPool.read { data := (ConstantPool.mixedRecords.flatMap PoolRecord.bytes ++
        (textBytes [0xC1, 0x81] ++ [])).toArray } 8 = .error error := by
  have halves : Sequences [0xED, 0xA0, 0xBD, 0xED, 0xB8, 0x80] [0xD83D, 0xDE00] :=
    points?_eq_some_iff.mp (by decide)
  obtain ⟨read, joined, -⟩ := decode?_sequences_or_refused [0xED, 0xA0, 0xBD, 0xED, 0xB8, 0x80]
  obtain ⟨accepted, -, refused⟩ := decode?_sequences_or_refused [0xC1, 0x81]
  have malformed : ¬ ∃ points, Sequences [0xC1, 0x81] points := by
    rintro ⟨points, sequences⟩
    have invalid : points? [0xC1, 0x81] = none := by decide
    rw [points?_eq_some_iff.mpr sequences] at invalid
    cases invalid
  obtain ⟨invalid, unreadable⟩ := refused malformed
  obtain ⟨error, -, same, failed⟩ :=
    unreadable ConstantPool.mixedRecords [] 8 none (by decide) (by decide)
  exact ⟨halves, (read _).mpr ⟨_, halves, rfl⟩, (joined _ halves).2.1, malformed, invalid, error,
    same ▸ rfl, failed⟩

end ModifiedUtf8

end ClassOutline
