import ClassOutline.Proofs.Decoding.Bytes
import ClassOutline.Proofs.Pool.Format
import ClassOutline.Proofs.Pool.Lookups

set_option autoImplicit false

namespace ClassOutline

open View (numberAt)

section

variable {data : Array UInt8} {start : Nat} {bytes : List UInt8}

/-- What stands behind a tag depends on its own bytes alone. -/
theorem HoldsAt.kind_eq (holds : HoldsAt data start bytes) (kind : Kind)
    (complete : kind.bodyWidth bytes.toArray 0 ≤ bytes.length ∨
      kind.bodyWidth data start ≤ bytes.length) :
    kind.bodyWidth data start = kind.bodyWidth bytes.toArray 0 ∧
      kind.entryAt data start = kind.entryAt bytes.toArray 0 := by
  have first (width : Nat) (inside : width ≤ bytes.length) :
      numberAt data start width = numberAt bytes.toArray 0 width := by
    have within : 0 + width ≤ bytes.length := by omega
    exact holds.numberAt_within within
  have second (place width : Nat) (inside : place + width ≤ bytes.length) :
      numberAt data (start + place) width = numberAt bytes.toArray (0 + place) width := by
    rw [holds.numberAt_within inside, Nat.zero_add]
  cases kind with
  | utf8 =>
    have header : 2 ≤ bytes.length := by
      simp only [Kind.bodyWidth] at complete
      omega
    have length := first 2 header
    rw [Kind.bodyWidth, Kind.bodyWidth, length, or_self] at complete
    refine ⟨congrArg (2 + ·) length, ?_⟩
    rw [Kind.entryAt, Kind.entryAt, length, holds.extract_within complete, Nat.zero_add]
  | integer | float =>
    have fits : 4 ≤ bytes.length := complete.elim id id
    refine ⟨rfl, ?_⟩
    rw [Kind.entryAt, Kind.entryAt, first 4 fits]
  | long | double =>
    have fits : 8 ≤ bytes.length := complete.elim id id
    refine ⟨rfl, ?_⟩
    rw [Kind.entryAt, Kind.entryAt, first 8 fits]
  | classRef | string | methodType | moduleRef | packageRef =>
    have fits : 2 ≤ bytes.length := complete.elim id id
    refine ⟨rfl, ?_⟩
    rw [Kind.entryAt, Kind.entryAt, first 2 fits]
  | fieldRef | methodRef | interfaceMethodRef | nameAndType | dynamic | invokeDynamic =>
    have fits : 4 ≤ bytes.length := complete.elim id id
    refine ⟨rfl, ?_⟩
    rw [Kind.entryAt, Kind.entryAt, first 2 (by omega), second 2 2 fits]
  | methodHandle =>
    have fits : 3 ≤ bytes.length := complete.elim id id
    refine ⟨rfl, ?_⟩
    rw [Kind.entryAt, Kind.entryAt, first 1 (by omega), second 1 2 fits]

end

/-- A record as it is written: an entry, and the bytes behind its tag. They are as many as an entry
of the kind takes, and say what it holds. -/
structure PoolRecord where
  entry : Entry
  body : List UInt8
  width : body.length = entry.kind.bodyWidth body.toArray 0
  content : entry.kind.entryAt body.toArray 0 = some entry

namespace PoolRecord

def bytes (record : PoolRecord) : List UInt8 :=
  bigEndianBytes 1 record.entry.kind.tag ++ record.body

theorem length_bytes (record : PoolRecord) : record.bytes.length = 1 + record.body.length := by
  rw [bytes, List.length_append, length_bigEndianBytes]

variable {data : Array UInt8} {start : Nat}

theorem standsAt {record : PoolRecord} (holds : HoldsAt data start record.bytes) :
    Entry.StandsAt data start (record.entry, record.bytes.length) := by
  obtain ⟨first, behind⟩ := holdsAt_append.mp holds
  rw [length_bigEndianBytes] at behind
  obtain ⟨width, content⟩ := behind.kind_eq record.entry.kind
    (Or.inl (Nat.le_of_eq record.width.symm))
  have tag : record.entry.kind.tag < 256 ^ 1 := by
    cases record.entry.kind <;> decide
  refine ⟨first.numberAt_eq tag, ?_, ?_, holds.inside⟩
  · rw [content]
    exact record.content
  · rw [length_bytes, width, record.width]

theorem exists_of_standsAt {entry : Entry} {width : Nat}
    (stands : Entry.StandsAt data start (entry, width)) :
    ∃ record : PoolRecord, record.entry = entry ∧ record.bytes.length = width ∧
      HoldsAt data start record.bytes := by
  obtain ⟨tag, found, total, inside⟩ := stands
  dsimp only at tag found total inside
  subst total
  let body := (data.extract (start + 1) (start + 1 + entry.kind.bodyWidth data (start + 1))).toList
  have first : HoldsAt data start (bigEndianBytes 1 entry.kind.tag) :=
    tag ▸ holdsAt_byte (by omega)
  have behind : HoldsAt data (start + 1) body := holdsAt_extract (by omega)
  have length : body.length = entry.kind.bodyWidth data (start + 1) := by
    rw [Array.length_toList, Array.size_extract]
    omega
  obtain ⟨width, content⟩ := behind.kind_eq entry.kind (Or.inr (Nat.le_of_eq length.symm))
  let record : PoolRecord := ⟨entry, body, length.trans width, content.symm.trans found⟩
  refine ⟨record, rfl, ?_, ?_⟩
  · rw [length_bytes, length]
  · exact holdsAt_append.mpr ⟨first, by rwa [length_bigEndianBytes]⟩

/-- Entries stand one behind another where the bytes of records of them do. -/
theorem consecutive_iff (within : start ≤ data.size) {run : List (Entry × Nat)} :
    Consecutive (Entry.StandsAt data) Prod.snd start run ↔
      ∃ records : List PoolRecord, HoldsAt data start (records.flatMap bytes) ∧
        run = records.map fun record => (record.entry, record.bytes.length) := by
  constructor
  · intro stand
    induction run generalizing start with
    | nil => exact ⟨[], ⟨within, List.nil_prefix⟩, rfl⟩
    | cons first rest ih =>
      obtain ⟨stands, others⟩ := stand
      have inside := stands.inside
      obtain ⟨records, behind, rfl⟩ := ih inside others
      obtain ⟨record, same, length, here⟩ := exists_of_standsAt stands
      refine ⟨record :: records, ?_, ?_⟩
      · rw [List.flatMap_cons]
        exact holdsAt_append.mpr ⟨here, length ▸ behind⟩
      · rw [List.map_cons, same, length]
  · rintro ⟨records, holds, rfl⟩
    exact holds.consecutive (fun record _ place here => standsAt here) fun _ _ => rfl

end PoolRecord

namespace ConstantPool

/-- The slot of an entry by its place in the pool: one for the first, and behind each entry as many
further on as it takes. -/
def slotOf (entries : List Entry) (index : Nat) : Nat :=
  1 + totalLength (fun entry => entry.kind.slots) (entries.take index)

section

variable {entries : List Entry} {entry : Entry} {index : Nat}

@[simp] theorem slotOf_zero (entries : List Entry) : slotOf entries 0 = 1 := rfl

@[simp] theorem slotOf_cons_succ (entry : Entry) (entries : List Entry) (index : Nat) :
    slotOf (entry :: entries) (index + 1) = entry.kind.slots + slotOf entries index := by
  simp only [slotOf, List.take_succ_cons, totalLength_cons]
  omega

theorem slotOf_succ (present : entries[index]? = some entry) :
    slotOf entries (index + 1) = slotOf entries index + entry.kind.slots := by
  induction entries generalizing index with
  | nil => cases present
  | cons first rest ih =>
    cases index with
    | zero =>
      cases present
      rw [slotOf_cons_succ, slotOf_zero, slotOf_zero, Nat.add_comm]
    | succ index =>
      rw [slotOf_cons_succ, slotOf_cons_succ, ih present, Nat.add_assoc]

theorem slotOf_length (entries : List Entry) :
    slotOf entries entries.length = (#[none] ++ table entries).size := by
  rw [slotOf, List.take_length, Array.size_append, size_table]
  rfl

theorem slotOf_pos (entries : List Entry) (index : Nat) : 1 ≤ slotOf entries index :=
  Nat.le_add_right 1 _

theorem slotOf_add_le {other : Nat} (present : entries[index]? = some entry)
    (before : index < other)
    (inside : other ≤ entries.length) :
    slotOf entries index + entry.kind.slots ≤ slotOf entries other := by
  induction before with
  | refl => exact Nat.le_of_eq (slotOf_succ present).symm
  | @step other _ ih =>
    have next := slotOf_succ (List.getElem?_eq_getElem (Nat.lt_of_succ_le inside))
    have earlier := ih (Nat.le_of_succ_le inside)
    rw [Nat.succ_eq_add_one]
    omega

theorem getElem?_slots {place : Nat} {found : Entry} :
    entry.slots[place]? = some (some found) ↔ entry = found ∧ place = 0 := by
  unfold Entry.slots
  split <;> rcases place with _ | _ | place <;> simp

/-- What the table holds at a place is the entry with this slot. -/
theorem getElem?_table {place : Nat} :
    (table entries)[place]? = some (some entry) ↔
      ∃ index, entries[index]? = some entry ∧ slotOf entries index = 1 + place := by
  induction entries generalizing place with
  | nil => simp [table]
  | cons first rest ih =>
    rw [table, Array.getElem?_append, size_slots]
    by_cases within : place < first.kind.slots
    · rw [if_pos within, getElem?_slots]
      constructor
      · rintro ⟨rfl, rfl⟩
        exact ⟨0, rfl, rfl⟩
      · rintro ⟨index, present, slot⟩
        cases index with
        | zero =>
          rw [slotOf_zero] at slot
          exact ⟨Option.some.inj present, by omega⟩
        | succ index =>
          have positive := slotOf_pos rest index
          rw [slotOf_cons_succ] at slot
          omega
    · rw [if_neg within, ih]
      constructor
      · rintro ⟨index, present, slot⟩
        refine ⟨index + 1, present, ?_⟩
        rw [slotOf_cons_succ]
        omega
      · rintro ⟨index, present, slot⟩
        cases index with
        | zero =>
          have positive := first.kind.slots_pos
          rw [slotOf_zero] at slot
          omega
        | succ index =>
          rw [slotOf_cons_succ] at slot
          exact ⟨index, present, by omega⟩

theorem fills_iff {count : Int} {slot : Nat} :
    Fills count (slot + 1) entries ↔
      (∀ index < entries.length, ((slot + slotOf entries index : Nat) : Int) < count) ∧
        count ≤ (slot + slotOf entries entries.length : Nat) := by
  induction entries generalizing slot with
  | nil => exact ⟨fun full => ⟨nofun, full⟩, fun filled => filled.2⟩
  | cons first rest ih =>
    have further : slot + 1 + first.kind.slots = slot + first.kind.slots + 1 := by omega
    rw [Fills, further, ih, List.length_cons, slotOf_cons_succ, ← Nat.add_assoc, ← and_assoc]
    refine and_congr_left fun _ => ⟨?_, ?_⟩
    · rintro ⟨room, others⟩ index inside
      cases index with
      | zero => exact room
      | succ index =>
        rw [slotOf_cons_succ, ← Nat.add_assoc]
        exact others index (Nat.lt_of_succ_lt_succ inside)
    · intro room
      refine ⟨room 0 (Nat.succ_pos _), fun index inside => ?_⟩
      have later := room (index + 1) (Nat.succ_lt_succ inside)
      rwa [slotOf_cons_succ, ← Nat.add_assoc] at later

/-- What a pool with slot zero in front of the table holds in a slot. -/
theorem getElem?_pool {place : Nat} :
    (#[none] ++ table entries)[place]? = some (some entry) ↔
      ∃ index, entries[index]? = some entry ∧ slotOf entries index = place := by
  cases place with
  | zero =>
    have nothing : (#[none] ++ table entries)[0]? = some none := by
      rw [Array.getElem?_append_left Nat.one_pos]
      rfl
    rw [nothing]
    refine ⟨nofun, ?_⟩
    rintro ⟨index, -, slot⟩
    have positive := slotOf_pos entries index
    omega
  | succ place =>
    rw [Array.getElem?_append_right (Nat.succ_pos place), Nat.add_comm place 1]
    have behind : 1 + place - (#[none] : Array (Option Entry)).size = place :=
      Nat.add_sub_cancel_left 1 place
    rw [behind, getElem?_table]

end

/-- Some entries that a pool with a number of slots can have: every one begins in front of the end,
the last one reaches it, and every class names a text. -/
structure WellFormed (count : Int) (entries : List Entry) : Prop where
  room : ∀ index < entries.length, (slotOf entries index : Int) < count
  full : count ≤ slotOf entries entries.length
  named : ∀ nameIndex, Entry.classRef nameIndex ∈ entries →
    1 ≤ nameIndex ∧ nameIndex < slotOf entries entries.length ∧
      ∃ index text, entries[index]? = some (Entry.utf8 text) ∧ slotOf entries index = nameIndex

theorem mem_pool_iff {entries : List Entry} {entry : Entry} :
    some entry ∈ #[none] ++ table entries ↔ entry ∈ entries := by
  rw [Array.mem_iff_getElem?, List.mem_iff_getElem?]
  constructor
  · rintro ⟨place, found⟩
    obtain ⟨index, present, -⟩ := getElem?_pool.mp found
    exact ⟨index, present⟩
  · rintro ⟨index, present⟩
    exact ⟨slotOf entries index, getElem?_pool.mpr ⟨index, present, rfl⟩⟩

theorem wellFormed_iff {count : Int} {entries : List Entry} :
    WellFormed count entries ↔
      Fills count 1 entries ∧ ClassesNamed (#[none] ++ table entries) := by
  have fills := @fills_iff entries count 0
  simp only [Nat.zero_add] at fills
  rw [fills]
  constructor
  · intro formed
    refine ⟨⟨formed.room, formed.full⟩, fun nameIndex present => ?_⟩
    obtain ⟨-, -, index, text, found, slot⟩ := formed.named nameIndex (mem_pool_iff.mp present)
    exact ⟨text, getElem?_pool.mpr ⟨index, found, slot⟩⟩
  · rintro ⟨⟨room, full⟩, named⟩
    refine ⟨room, full, fun nameIndex present => ?_⟩
    obtain ⟨text, found⟩ := named nameIndex (mem_pool_iff.mpr present)
    obtain ⟨index, found, slot⟩ := getElem?_pool.mp found
    have inside := (List.getElem?_eq_some_iff.mp found).1
    have before := slotOf_add_le found inside (Nat.le_refl _)
    have positive := slotOf_pos entries index
    have taken := (Entry.utf8 text).kind.slots_pos
    exact ⟨by omega, by omega, index, text, found, slot⟩

/-- An index leads to the entry that begins in this slot, and to nothing if none does: slot zero,
the second slots of wide entries, and whatever lies behind the last entry. -/
structure Resolves (pool : ConstantPool) (entries : List Entry) : Prop where
  entry : ∀ index entry, entries[index]? = some entry →
    pool.entry (slotOf entries index) = .ok entry
  front : ∀ index < 1, pool.entry index = .error (pool.fault (.noEntry index))
  second : ∀ index entry, entries[index]? = some entry → entry.kind.slots = 2 →
    pool.entry (slotOf entries index + 1) =
      .error (pool.fault (.noEntry (slotOf entries index + 1)))
  behind : ∀ index : Int, slotOf entries entries.length ≤ index →
    pool.entry index = .error (pool.fault (.noEntry index))

def ofRecords (records : List PoolRecord) (source : Option Text) : ConstantPool where
  entries := #[none] ++ table (records.map PoolRecord.entry)
  rawLength := totalLength (fun record => record.bytes.length) records
  source

/-- A pool is read exactly where records of well-formed entries are. -/
theorem read_eq_ok_iff_ofRecords {view : View} {start : Nat} (base : view.base = start)
    (within : start ≤ view.data.size) {count : Int} {pool : ConstantPool} :
    read view count = .ok pool ↔
      ∃ records : List PoolRecord, HoldsAt view.data start (records.flatMap PoolRecord.bytes) ∧
        WellFormed count (records.map PoolRecord.entry) ∧ pool = ofRecords records view.source := by
  have entries (records : List PoolRecord) :
      (records.map fun record => (record.entry, record.bytes.length)).map Prod.fst =
        records.map PoolRecord.entry := by
    rw [List.map_map]
    rfl
  rw [read_eq_ok_iff base]
  constructor
  · rintro ⟨source, run, stands⟩
    obtain ⟨records, holds, rfl⟩ := (PoolRecord.consecutive_iff within).mp stands.run
    obtain ⟨-, fills, table, rawLength, named⟩ := stands
    rw [entries] at fills table
    rw [totalLength_map] at rawLength
    rw [table] at named
    refine ⟨records, holds, wellFormed_iff.mpr ⟨fills, named⟩, ?_⟩
    rw [ofRecords, ← table, ← rawLength, ← source]
  · rintro ⟨records, holds, formed, rfl⟩
    obtain ⟨fills, named⟩ := wellFormed_iff.mp formed
    refine ⟨rfl, records.map fun record => (record.entry, record.bytes.length), ?_⟩
    refine ⟨(PoolRecord.consecutive_iff within).mpr ⟨records, holds, rfl⟩, ?_, ?_, ?_, named⟩
    · rwa [entries]
    · rw [entries, ofRecords]
    · rw [totalLength_map, ofRecords]

/-- An index leads to the entry that begins in this slot of the table. -/
theorem entry?_eq_some_iff {pool : ConstantPool} {entries : List Entry}
    (filled : pool.entries = #[none] ++ table entries) {index : Int} {entry : Entry} :
    pool.entry? index = some entry ↔
      ∃ place, entries[place]? = some entry ∧ (slotOf entries place : Int) = index := by
  unfold entry?
  rw [filled]
  constructor
  · intro found
    split at found
    · obtain ⟨place, present, slot⟩ := getElem?_pool.mp (Option.join_eq_some_iff.mp found)
      exact ⟨place, present, by omega⟩
    · cases found
  · rintro ⟨place, present, rfl⟩
    have positive := slotOf_pos entries place
    rw [if_pos (by omega), Int.toNat_natCast]
    exact Option.join_eq_some_iff.mpr (getElem?_pool.mpr ⟨place, present, rfl⟩)

theorem entry?_ofRecords {records : List PoolRecord} {source : Option Text} {index : Int}
    {entry : Entry} :
    entry? (ofRecords records source) index = some entry ↔
      ∃ place, (records.map PoolRecord.entry)[place]? = some entry ∧
        (slotOf (records.map PoolRecord.entry) place : Int) = index :=
  entry?_eq_some_iff rfl

theorem entry_eq_error {pool : ConstantPool} {index : Int}
    (nothing : ∀ entry, pool.entry? index ≠ some entry) :
    pool.entry index = .error (pool.fault (.noEntry index)) := by
  rw [ConstantPool.entry, Option.eq_none_iff_forall_ne_some.mpr nothing]

theorem resolves_ofRecords (records : List PoolRecord) (source : Option Text) :
    (ofRecords records source).Resolves (records.map PoolRecord.entry) where
  entry place entry present := entry_eq_ok_iff.mpr (entry?_ofRecords.mpr ⟨place, present, rfl⟩)
  front index outside := by
    apply entry_eq_error
    intro entry found
    obtain ⟨place, -, slot⟩ := entry?_ofRecords.mp found
    have positive := slotOf_pos (records.map PoolRecord.entry) place
    omega
  second place entry present wide := by
    apply entry_eq_error
    intro other found
    obtain ⟨otherPlace, otherPresent, slot⟩ := entry?_ofRecords.mp found
    have inside := (List.getElem?_eq_some_iff.mp present).1
    have otherInside := (List.getElem?_eq_some_iff.mp otherPresent).1
    rcases Nat.lt_trichotomy place otherPlace with before | rfl | after
    · have apart := slotOf_add_le present before (Nat.le_of_lt otherInside)
      omega
    · omega
    · have apart := slotOf_add_le otherPresent after (Nat.le_of_lt inside)
      have taken := other.kind.slots_pos
      omega
  behind index outside := by
    apply entry_eq_error
    intro entry found
    obtain ⟨place, present, slot⟩ := entry?_ofRecords.mp found
    have inside := (List.getElem?_eq_some_iff.mp present).1
    have before := slotOf_add_le present inside (Nat.le_refl _)
    have taken := entry.kind.slots_pos
    omega

/-- A pool is read exactly from data that begin with records of well-formed entries. Whatever the
records are, each index then leads to the one in its slot, and the length is that of them all. -/
theorem read_iff_wellFormed (data : List UInt8) (source : Option Text) (count : Int) :
    ((∃ pool, read { data := data.toArray, source } count = .ok pool) ↔
      ∃ records : List PoolRecord, records.flatMap PoolRecord.bytes <+: data ∧
        WellFormed count (records.map PoolRecord.entry)) ∧
    ∀ pool, read { data := data.toArray, source } count = .ok pool →
      ∀ records : List PoolRecord, records.flatMap PoolRecord.bytes <+: data →
        WellFormed count (records.map PoolRecord.entry) →
          pool.Resolves (records.map PoolRecord.entry) ∧
            pool.rawLength = totalLength (fun record => record.bytes.length) records := by
  have holds {records : List PoolRecord} :
      HoldsAt data.toArray 0 (records.flatMap PoolRecord.bytes) ↔
        records.flatMap PoolRecord.bytes <+: data :=
    ⟨fun here => here.begins, fun begins => ⟨Nat.zero_le _, begins⟩⟩
  have read_iff {pool : ConstantPool} :=
    @read_eq_ok_iff_ofRecords { data := data.toArray, source } 0 rfl (Nat.zero_le _) count pool
  simp only [holds] at read_iff
  constructor
  · constructor
    · rintro ⟨pool, found⟩
      obtain ⟨records, begins, formed, -⟩ := read_iff.mp found
      exact ⟨records, begins, formed⟩
    · rintro ⟨records, begins, formed⟩
      exact ⟨_, read_iff.mpr ⟨records, begins, formed, rfl⟩⟩
  · intro pool found records begins formed
    have same := read_iff.mpr ⟨records, begins, formed, rfl⟩
    rw [found] at same
    obtain rfl := Except.ok.inj same
    exact ⟨resolves_ofRecords records source, rfl⟩

/-- A class that is named further on, two wide entries, the second one in the last slot, and a text
with a NUL. -/
def mixedRecords : List PoolRecord := [
  ⟨.classRef 4, [0, 4], rfl, rfl⟩,
  ⟨.long (-1), [0xFF, 0xFF, 0xFF, 0xFF, 0xFF, 0xFF, 0xFF, 0xFF], rfl, rfl⟩,
  ⟨.utf8 [0x41, 0], [0, 3, 0x41, 0xC0, 0x80], rfl, rfl⟩,
  ⟨.double (binary64.decode 0), [0, 0, 0, 0, 0, 0, 0, 0], rfl, rfl⟩]

theorem wellFormed_mixedRecords : WellFormed 6 (mixedRecords.map PoolRecord.entry) where
  room := by decide
  full := by decide
  named nameIndex present := by
    have only : nameIndex = 4 := by simpa [mixedRecords] using present
    subst only
    exact ⟨by decide, by decide, 2, [0x41, 0], rfl, rfl⟩

theorem read_iff_wellFormed_mixed :
    let data := mixedRecords.flatMap PoolRecord.bytes ++ [0xFF]
    WellFormed 6 (mixedRecords.map PoolRecord.entry) ∧
      ∃ pool, read { data := data.toArray } 6 = .ok pool ∧
        pool.Resolves (mixedRecords.map PoolRecord.entry) ∧ pool.rawLength = 27 := by
  obtain ⟨accepted, resolved⟩ :=
    read_iff_wellFormed (mixedRecords.flatMap PoolRecord.bytes ++ [0xFF]) none 6
  have begins := List.prefix_append (mixedRecords.flatMap PoolRecord.bytes) [0xFF]
  obtain ⟨pool, found⟩ := accepted.mpr ⟨mixedRecords, begins, wellFormed_mixedRecords⟩
  obtain ⟨resolves, length⟩ := resolved pool found mixedRecords begins wellFormed_mixedRecords
  exact ⟨wellFormed_mixedRecords, pool, found, resolves, length⟩

end ConstantPool

end ClassOutline
