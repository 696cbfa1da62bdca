import ClassOutline.Pool.Basic
import ClassOutline.Proofs.Decoding.Runs

set_option autoImplicit false

namespace ClassOutline

open View (numberAt twosComplement)

namespace Kind

/-- The number of bytes behind the tag. A text tells its own. -/
def bodyWidth (data : Array UInt8) (start : Nat) : Kind → Nat
  | .utf8 => 2 + numberAt data start 2
  | .integer | .float => 4
  | .long | .double => 8
  | .classRef | .string | .methodType | .moduleRef | .packageRef => 2
  | .fieldRef | .methodRef | .interfaceMethodRef | .nameAndType | .dynamic | .invokeDynamic => 4
  | .methodHandle => 3

/-- What the bytes behind the tag say. -/
def entryAt (data : Array UInt8) (start : Nat) : Kind → Option Entry
  | .utf8 =>
    let bytes := data.extract (start + 2) (start + 2 + numberAt data start 2)
    (ModifiedUtf8.decode? bytes.toList).map Entry.utf8
  | .integer => some (.integer (twosComplement 4 (numberAt data start 4)))
  | .float => some (.float (binary32.decode (numberAt data start 4)))
  | .long => some (.long (twosComplement 8 (numberAt data start 8)))
  | .double => some (.double (binary64.decode (numberAt data start 8)))
  | .classRef => some (.classRef (numberAt data start 2))
  | .string => some (.string (numberAt data start 2))
  | .fieldRef => some (.fieldRef (numberAt data start 2) (numberAt data (start + 2) 2))
  | .methodRef => some (.methodRef (numberAt data start 2) (numberAt data (start + 2) 2))
  | .interfaceMethodRef =>
    some (.interfaceMethodRef (numberAt data start 2) (numberAt data (start + 2) 2))
  | .nameAndType => some (.nameAndType (numberAt data start 2) (numberAt data (start + 2) 2))
  | .methodHandle => some (.methodHandle (numberAt data start 1) (numberAt data (start + 1) 2))
  | .methodType => some (.methodType (numberAt data start 2))
  | .dynamic => some (.dynamic (numberAt data start 2) (numberAt data (start + 2) 2))
  | .invokeDynamic => some (.invokeDynamic (numberAt data start 2) (numberAt data (start + 2) 2))
  | .moduleRef => some (.moduleRef (numberAt data start 2))
  | .packageRef => some (.packageRef (numberAt data start 2))

theorem kind_of_entryAt {data : Array UInt8} {start : Nat} {kind : Kind} {entry : Entry}
    (found : kind.entryAt data start = some entry) : entry.kind = kind := by
  cases kind with
  | utf8 =>
    obtain ⟨text, -, rfl⟩ := Option.map_eq_some_iff.mp found
    rfl
  | _ =>
    cases found
    rfl

theorem ofTag?_eq_some_iff {tag : Nat} {kind : Kind} :
    ofTag? tag = some kind ↔ tag = kind.tag := by
  constructor
  · intro found
    unfold ofTag? at found
    split at found <;> cases found <;> rfl
  · rintro rfl
    exact ofTag?_tag kind

theorem slots_pos (kind : Kind) : 0 < kind.slots := by
  cases kind <;> decide

end Kind

/-- An entry with the number of its bytes, as it stands at a place of the data. -/
structure Entry.StandsAt (data : Array UInt8) (start : Nat) (record : Entry × Nat) : Prop where
  tag : numberAt data start 1 = record.1.kind.tag
  body : record.1.kind.entryAt data (start + 1) = some record.1
  width : record.2 = 1 + record.1.kind.bodyWidth data (start + 1)
  inside : start + record.2 ≤ data.size

namespace Entry

variable {view : View} {start : Nat} {entry : Entry} {width taken size : Nat}

theorem one_eq_ok_iff {α : Type} {read : Decoded α} {value : α}
    (found : ∀ result, read = .ok result ↔ start + taken ≤ size ∧ result = value)
    {build : α → Entry} :
    (do return (build (← read), taken)) = Except.ok (ε := DecodeError) (entry, width) ↔
      some (build value) = some entry ∧ width = taken ∧ start + width ≤ size := by
  rw [bind_eq_ok_iff]
  constructor
  · rintro ⟨result, first, same⟩
    obtain ⟨fits, rfl⟩ := (found result).mp first
    obtain ⟨rfl, rfl⟩ := Prod.mk.inj (pure_eq_ok_iff.mp same)
    exact ⟨rfl, rfl, fits⟩
  · rintro ⟨same, rfl, fits⟩
    cases same
    exact ⟨value, (found value).mpr ⟨fits, rfl⟩, rfl⟩

theorem two_eq_ok_iff (base : view.base = start) (first second : Nat)
    {build : Nat → Nat → Entry} :
    (do return (build (← view.unsigned first 0) (← view.unsigned second first), first + second)) =
        Except.ok (ε := DecodeError) (entry, width) ↔
      some (build (numberAt view.data start first) (numberAt view.data (start + first) second)) =
          some entry ∧ width = first + second ∧ start + width ≤ view.data.size := by
  have near : ∀ result, view.unsigned first 0 = .ok result ↔
      start + first ≤ view.data.size ∧ result = numberAt view.data start first :=
    fun _ => View.unsigned_eq_ok_iff base 0
  have far : ∀ result, view.unsigned second first = .ok result ↔
      start + (first + second) ≤ view.data.size ∧
        result = numberAt view.data (start + first) second := by
    intro result
    rw [View.unsigned_eq_ok_iff base, Nat.add_assoc]
  rw [bind_eq_ok_iff]
  constructor
  · rintro ⟨left, found, rest⟩
    obtain ⟨-, rfl⟩ := (near left).mp found
    exact (one_eq_ok_iff far).mp rest
  · rintro ⟨same, rfl, fits⟩
    exact ⟨_, (near _).mpr ⟨by omega, rfl⟩, (one_eq_ok_iff far).mpr ⟨same, rfl, fits⟩⟩

theorem readText_eq_ok_iff (base : view.base = start) (slot : Nat) :
    readBody view slot .utf8 = .ok (entry, width) ↔
      Kind.utf8.entryAt view.data start = some entry ∧
        width = 2 + numberAt view.data start 2 ∧ start + width ≤ view.data.size := by
  constructor
  · intro found
    obtain ⟨-, found⟩ := (View.unsigned_bind_iff base 0 rfl).mp found
    obtain ⟨fits, found⟩ := (View.raw_bind_iff base 2 rfl).mp found
    split at found
    · rename_i text decoded
      obtain ⟨rfl, rfl⟩ := Prod.mk.inj (pure_eq_ok_iff.mp found)
      exact ⟨Option.map_eq_some_iff.mpr ⟨text, decoded, rfl⟩, rfl, by omega⟩
    · exact (throw_eq_ok_iff.mp found).elim
  · rintro ⟨found, rfl, fits⟩
    obtain ⟨text, decoded, rfl⟩ := Option.map_eq_some_iff.mp found
    have length : numberAt view.data start 2 = numberAt view.data (start + 0) 2 := rfl
    refine (View.unsigned_bind_iff base 0 length).mpr ⟨by omega, ?_⟩
    refine (View.raw_bind_iff base 2 rfl).mpr ⟨by omega, ?_⟩
    rw [decoded]
    rfl

theorem readBody_eq_ok_iff (base : view.base = start) (slot : Nat) (kind : Kind) :
    readBody view slot kind = .ok (entry, width) ↔
      kind.entryAt view.data start = some entry ∧ width = kind.bodyWidth view.data start ∧
        start + width ≤ view.data.size := by
  cases kind with
  | utf8 => exact readText_eq_ok_iff base slot
  | integer | long | float | double =>
    exact one_eq_ok_iff (fun _ => View.unsigned_map_eq_ok_iff base 0)
  | classRef | string | methodType | moduleRef | packageRef =>
    exact one_eq_ok_iff (fun _ => View.unsigned_eq_ok_iff base 0)
  | fieldRef | methodRef | interfaceMethodRef | nameAndType | dynamic | invokeDynamic =>
    exact two_eq_ok_iff base 2 2
  | methodHandle => exact two_eq_ok_iff base 1 2

/-- An entry is read exactly where it stands. -/
theorem read_eq_ok_iff (base : view.base = start) (slot : Nat) {record : Entry × Nat} :
    read view slot = .ok record ↔ StandsAt view.data start record := by
  have behind : (view.window 1).base = (start + 1 : Nat) := View.window_base_eq base 1
  obtain ⟨entry, width⟩ := record
  constructor
  · intro found
    obtain ⟨-, found⟩ := (View.unsigned_bind_iff base 0 rfl).mp found
    split at found
    · rename_i kind known
      obtain ⟨⟨entry, taken⟩, body, found⟩ := bind_eq_ok_iff.mp found
      obtain ⟨rfl, rfl⟩ := Prod.mk.inj (pure_eq_ok_iff.mp found)
      obtain ⟨stands, rfl, fits⟩ := (readBody_eq_ok_iff behind slot kind).mp body
      obtain rfl := Kind.kind_of_entryAt stands
      rw [View.window_data] at stands fits
      refine ⟨Kind.ofTag?_eq_some_iff.mp known, stands, rfl, ?_⟩
      rwa [← Nat.add_assoc]
    · exact (throw_eq_ok_iff.mp found).elim
  · rintro ⟨tag, body, total, inside⟩
    dsimp only at tag body total inside
    subst total
    refine (View.unsigned_bind_iff base 0 tag.symm).mpr ⟨by omega, ?_⟩
    rw [Kind.ofTag?_tag]
    apply bind_eq_ok_iff.mpr
    refine ⟨(entry, _), (readBody_eq_ok_iff behind slot entry.kind).mpr ⟨body, rfl, ?_⟩, rfl⟩
    rwa [Nat.add_assoc]

end Entry

namespace ConstantPool

/-- The slots that some entries fill, one entry after another. -/
def table : List Entry → Array (Option Entry)
  | [] => #[]
  | entry :: rest => entry.slots ++ table rest

/-- The entries from a slot on are as many as a table with `count` slots has room for. -/
def Fills (count : Int) : Nat → List Entry → Prop
  | slot, [] => count ≤ slot
  | slot, entry :: rest => slot < count ∧ Fills count (slot + entry.kind.slots) rest

/-- Every class entry names a text. -/
def ClassesNamed (entries : Array (Option Entry)) : Prop :=
  ∀ nameIndex, some (Entry.classRef nameIndex) ∈ entries →
    ∃ text, entries[nameIndex]? = some (some (Entry.utf8 text))

/-- A pool with its records as they stand in the data. -/
structure StandsAt (data : Array UInt8) (start : Nat) (count : Int) (records : List (Entry × Nat))
    (pool : ConstantPool) : Prop where
  run : Consecutive (Entry.StandsAt data) Prod.snd start records
  fills : Fills count 1 (records.map Prod.fst)
  entries : pool.entries = #[none] ++ table (records.map Prod.fst)
  rawLength : pool.rawLength = totalLength Prod.snd records
  classesNamed : ClassesNamed pool.entries

@[simp] theorem size_slots (entry : Entry) : entry.slots.size = entry.kind.slots := by
  cases entry <;> rfl

theorem size_table (entries : List Entry) :
    (table entries).size = totalLength (fun entry => entry.kind.slots) entries := by
  induction entries with
  | nil => rfl
  | cons entry rest ih => rw [table, Array.size_append, size_slots, ih, totalLength_cons]

theorem readSlots_of_lt {view : View} {count : Int} {slots : Array (Option Entry)}
    (room : slots.size < count) (offset : Nat) :
    readSlots view count slots offset = (do
      let (entry, width) ← Entry.read (view.window offset) slots.size
      readSlots view count (slots ++ entry.slots) (offset + width)) := by
  rw [readSlots, if_pos room]
  cases Entry.read (view.window offset) slots.size <;> rfl

/-- An entry that the table has room for is read before what stands behind it. -/
theorem readSlots_of_standsAt {view : View} {start : Nat} (base : view.base = start) {count : Int}
    {slots : Array (Option Entry)} (room : slots.size < count) {offset : Nat} {entry : Entry}
    {width : Nat} (stands : Entry.StandsAt view.data (start + offset) (entry, width)) :
    readSlots view count slots offset =
      readSlots view count (slots ++ entry.slots) (offset + width) := by
  have place := View.window_base_eq base offset
  rw [readSlots_of_lt room, (Entry.read_eq_ok_iff place _).mpr stands]
  rfl

theorem readSlots_eq_ok_iff {view : View} {start : Nat} (base : view.base = start) {count : Int}
    {slots entries : Array (Option Entry)} {offset finish : Nat} :
    readSlots view count slots offset = .ok (entries, finish) ↔
      ∃ records, Consecutive (Entry.StandsAt view.data) Prod.snd (start + offset) records ∧
        Fills count slots.size (records.map Prod.fst) ∧
        entries = slots ++ table (records.map Prod.fst) ∧
        finish = offset + totalLength Prod.snd records := by
  constructor
  · intro found
    induction slots, offset using readSlots.induct view count with
    | case1 slots offset room error failed =>
      rw [readSlots_of_lt room, failed] at found
      cases found
    | case2 slots offset room entry width read ih =>
      rw [readSlots_of_lt room, read] at found
      obtain ⟨records, run, fills, rfl, rfl⟩ := ih found
      have place := View.window_base_eq base offset
      refine ⟨(entry, width) :: records, ⟨(Entry.read_eq_ok_iff place _).mp read, ?_⟩,
        ⟨room, ?_⟩, ?_, ?_⟩
      · rwa [← Nat.add_assoc] at run
      · rwa [Array.size_append, size_slots] at fills
      · rw [List.map_cons, table, Array.append_assoc]
      · rw [totalLength_cons, Nat.add_assoc]
    | case3 slots offset full =>
      rw [readSlots, if_neg full] at found
      cases found
      refine ⟨[], trivial, Int.not_lt.mp full, ?_, rfl⟩
      rw [List.map_nil, table, Array.append_empty]
  · rintro ⟨records, run, fills, rfl, rfl⟩
    induction records generalizing slots offset with
    | nil =>
      rw [readSlots, if_neg (Int.not_lt.mpr fills), List.map_nil, table, Array.append_empty]
      rfl
    | cons record rest ih =>
      obtain ⟨entry, width⟩ := record
      obtain ⟨stands, run⟩ := run
      obtain ⟨room, fills⟩ := fills
      rw [readSlots_of_standsAt base room stands]
      rw [Nat.add_assoc] at run
      rw [← size_slots, ← Array.size_append] at fills
      rw [List.map_cons, table, ← Array.append_assoc, totalLength_cons, ← Nat.add_assoc]
      exact ih run fills

/-- What is read into a table fills it, wherever it is read. -/
theorem table_of_readSlots {view : View} {count : Int} {slots entries : Array (Option Entry)}
    {offset finish : Nat} (found : readSlots view count slots offset = .ok (entries, finish)) :
    ∃ constants, Fills count slots.size constants ∧ entries = slots ++ table constants := by
  induction slots, offset using readSlots.induct view count with
  | case1 slots offset room error failed =>
    rw [readSlots_of_lt room, failed] at found
    cases found
  | case2 slots offset room entry width read ih =>
    rw [readSlots_of_lt room, read] at found
    obtain ⟨constants, fills, rfl⟩ := ih found
    rw [Array.size_append, size_slots] at fills
    exact ⟨entry :: constants, ⟨room, fills⟩, Array.append_assoc⟩
  | case3 slots offset full =>
    rw [readSlots, if_neg full] at found
    cases found
    exact ⟨[], Int.not_lt.mp full, Array.append_empty.symm⟩

theorem classNameFault_eq_none_iff (entries : Array (Option Entry)) (slot : Nat)
    (entry : Option Entry) :
    classNameFault entries slot entry = none ↔
      ∀ nameIndex, entry = some (.classRef nameIndex) →
        ∃ text, entries[nameIndex]? = some (some (Entry.utf8 text)) := by
  unfold classNameFault
  split
  · rename_i nameIndex
    split
    · rename_i text found
      refine ⟨fun _ other same => ?_, fun _ => rfl⟩
      cases same
      exact ⟨text, Option.join_eq_some_iff.mp found⟩
    · rename_i other
      refine ⟨fun faultless => (by cases faultless), fun named => ?_⟩
      obtain ⟨text, found⟩ := named nameIndex rfl
      exact absurd (Option.join_eq_some_iff.mpr found) (other text)
  · rename_i other
    exact ⟨fun _ nameIndex same => absurd same (other nameIndex), fun _ => rfl⟩

theorem findClassNameFault_eq_none_iff (entries : Array (Option Entry)) :
    findClassNameFault entries = none ↔ ClassesNamed entries := by
  unfold findClassNameFault
  rw [List.findSome?_eq_none_iff]
  constructor
  · intro faultless nameIndex present
    obtain ⟨slot, found⟩ := Array.mem_iff_getElem?.mp present
    have numbered : (some (Entry.classRef nameIndex), slot) ∈ entries.toList.zipIdx := by
      rw [List.mk_mem_zipIdx_iff_getElem?, Array.getElem?_toList]
      exact found
    exact (classNameFault_eq_none_iff entries slot _).mp (faultless _ numbered) nameIndex rfl
  · rintro named ⟨entry, slot⟩ numbered
    apply (classNameFault_eq_none_iff entries slot entry).mpr
    rintro nameIndex rfl
    exact named nameIndex (Array.mem_toList_iff.mp (List.fst_mem_of_mem_zipIdx numbered))

/-- The constants of a pool that was read, wherever it stands. -/
theorem exists_table_of_read {view : View} {count : Int} {pool : ConstantPool}
    (found : read view count = .ok pool) :
    ∃ constants, Fills count 1 constants ∧ pool.entries = #[none] ++ table constants ∧
      ClassesNamed pool.entries := by
  obtain ⟨⟨entries, rawLength⟩, slots, made⟩ := bind_eq_ok_iff.mp found
  obtain ⟨constants, fills, rfl⟩ := table_of_readSlots slots
  dsimp only at made
  split at made
  · exact (throw_eq_ok_iff.mp made).elim
  · rename_i faultless
    obtain rfl := pure_eq_ok_iff.mp made
    exact ⟨constants, fills, rfl, (findClassNameFault_eq_none_iff _).mp faultless⟩

/-- A pool is read exactly where it stands. -/
theorem read_eq_ok_iff {view : View} {start : Nat} (base : view.base = start) {count : Int}
    {pool : ConstantPool} :
    read view count = .ok pool ↔
      pool.source = view.source ∧ ∃ records, StandsAt view.data start count records pool := by
  constructor
  · intro found
    obtain ⟨⟨entries, rawLength⟩, first, found⟩ := bind_eq_ok_iff.mp found
    obtain ⟨records, run, fills, rfl, rfl⟩ := (readSlots_eq_ok_iff base).mp first
    dsimp only at found
    split at found
    · exact (throw_eq_ok_iff.mp found).elim
    · rename_i named
      obtain rfl := pure_eq_ok_iff.mp found
      refine ⟨rfl, records, run, fills, rfl, Nat.zero_add _, ?_⟩
      exact (findClassNameFault_eq_none_iff _).mp named
  · rintro ⟨source, records, stands⟩
    apply bind_eq_ok_iff.mpr
    refine ⟨(pool.entries, pool.rawLength), (readSlots_eq_ok_iff base).mpr ?_, ?_⟩
    · exact ⟨records, stands.run, stands.fills, stands.entries,
        stands.rawLength.trans (Nat.zero_add _).symm⟩
    · dsimp only
      rw [(findClassNameFault_eq_none_iff _).mpr stands.classesNamed, ← source]
      rfl

end ConstantPool

end ClassOutline
