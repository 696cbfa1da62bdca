import ClassOutline.Members.Descriptor
import ClassOutline.Proofs.Decoding.Refusal
import ClassOutline.Proofs.Pool.Format
import ClassOutline.Proofs.Pool.Lookups

set_option autoImplicit false

namespace ClassOutline

open Decoded (FailsBy)
open DecodeError (Malformed)
open View (numberAt)

namespace DecodeError

/-- What is wrong with an index into some entries or with a text among them. -/
inductive Unfit (entries : Array (Option Entry)) (source : Option Text) : DecodeError → Prop
  | className {slot nameIndex : Nat} (present : entries[slot]? = some (some (.classRef nameIndex)))
      (nameless : ∀ text, entries[nameIndex]? ≠ some (some (.utf8 text))) :
      Unfit entries source
        { fault := .classNameIndex slot nameIndex ((entries[nameIndex]?).join.map Entry.kind)
          source }
  | noEntry {index : Nat} (absent : index = 0 ∨ (entries[index]?).join = none) :
      Unfit entries source { fault := .noEntry index, source }
  | wrongKind {index : Nat} {entry : Entry} {expected : Kind}
      (found : entries[index]? = some (some entry)) (other : entry.kind ≠ expected) :
      Unfit entries source { fault := .wrongKind index entry.kind expected.name, source }
  | notLiteral {index : Nat} {entry : Entry} (found : entries[index]? = some (some entry))
      (other : entry.kind ∉ [Kind.string, .integer, .long, .float, .double]) :
      Unfit entries source { fault := .notLiteral index entry.kind, source }
  | fieldType {text : Text} (held : some (Entry.utf8 text) ∈ entries)
      (other : Descriptor.typeLength? text ≠ some text.length) :
      Unfit entries source { fault := .fieldDescriptor text }
  | parameterTypes {parameters result : Text}
      (held : some (Entry.utf8 (0x28 :: parameters ++ 0x29 :: result)) ∈ entries)
      (unclosed : 0x29 ∉ parameters) (other : Descriptor.types? parameters = none) :
      Unfit entries source { fault := .fieldDescriptor parameters }
  | resultType {parameters result : Text}
      (held : some (Entry.utf8 (0x28 :: parameters ++ 0x29 :: result)) ∈ entries)
      (unclosed : 0x29 ∉ parameters) (nonvoid : result ≠ [0x56])
      (other : Descriptor.typeLength? result ≠ some result.length) :
      Unfit entries source { fault := .fieldDescriptor result }
  | unbracketed {text : Text} (held : some (Entry.utf8 text) ∈ entries)
      (other : ∀ parameters result, text ≠ 0x28 :: parameters ++ 0x29 :: result) :
      Unfit entries source { fault := .methodDescriptor text }

/-- The entries of the constant pool that the data hold, whether or not its class entries name
texts. -/
def EntriesStandIn (data : Array UInt8) (entries : Array (Option Entry)) : Prop :=
  ∃ records, Consecutive (Entry.StandsAt data) Prod.snd 10 records ∧
    ConstantPool.Fills (numberAt data 8 2) 1 (records.map Prod.fst) ∧
    entries = #[none] ++ ConstantPool.table (records.map Prod.fst)

/-- The data bear an error out. -/
def BorneOut (data : Array UInt8) (source : Option Text) (error : DecodeError) : Prop :=
  Malformed data source error ∨
    ∃ entries, EntriesStandIn data entries ∧ Unfit entries source error

end DecodeError

open DecodeError (BorneOut EntriesStandIn Unfit)

namespace View

variable {view : View} {start : Nat}

theorem failsBy_number (base : view.base = start) (width offset : Nat)
    (near : start + offset ≤ view.data.size + 4) :
    FailsBy (BorneOut view.data view.source) (view.unsigned width offset) :=
  (failsBy_unsigned base width offset near).mono fun _ => Or.inl

theorem failsBy_bytes (base : view.base = start) (offset length : Nat)
    (near : start + offset ≤ view.data.size + 4) :
    FailsBy (BorneOut view.data view.source) (view.raw offset length) :=
  (failsBy_raw base offset length near).mono fun _ => Or.inl

end View

namespace Entry

variable {view : View} {start : Nat}

theorem failsBy_readBody (base : view.base = start) (near : start ≤ view.data.size) (slot : Nat)
    (kind : Kind) : FailsBy (Malformed view.data view.source) (readBody view slot kind) := by
  have first (width : Nat) : FailsBy (Malformed view.data view.source) (view.unsigned width 0) :=
    View.failsBy_unsigned base width 0 (by omega)
  have two {build : Nat → Nat → Entry} {width other length : Nat} (place : Nat)
      (close : place ≤ 2) : FailsBy (Malformed view.data view.source)
        (do return (build (← view.unsigned width 0) (← view.unsigned other place), length)) := by
    apply (first width).bind
    intro left _
    apply (View.failsBy_unsigned base other place (by omega)).bind
    intro right _
    exact FailsBy.ok _
  cases kind with
  | utf8 =>
    apply (first 2).bind
    intro length found
    have inside := ((View.unsigned_eq_ok_iff base 0).mp found).1
    apply (View.failsBy_raw base 2 length (by omega)).bind
    intro bytes taken
    obtain ⟨fits, same⟩ := (View.raw_eq_ok_iff base 2).mp taken
    cases decoded : ModifiedUtf8.decode? bytes.toList with
    | some text => exact FailsBy.ok _
    | none =>
      have place : view.absolute 2 = (start + 2 : Nat) := by
        rw [View.absolute, base]
        omega
      rw [place]
      exact FailsBy.error (Malformed.text fits (same ▸ decoded))
  | integer | long | float | double =>
    apply ((first _).map _).bind
    intro value _
    exact FailsBy.ok _
  | classRef | string | methodType | moduleRef | packageRef =>
    apply (first 2).bind
    intro index _
    exact FailsBy.ok _
  | fieldRef | methodRef | interfaceMethodRef | nameAndType | dynamic | invokeDynamic =>
    exact two 2 (by omega)
  | methodHandle => exact two 1 (by omega)

theorem failsBy_read (base : view.base = start) (near : start ≤ view.data.size) (slot : Nat) :
    FailsBy (Malformed view.data view.source) (read view slot) := by
  have behind : (view.window 1).base = (start + 1 : Nat) := View.window_base_eq base 1
  apply (View.failsBy_unsigned base 1 0 (by omega)).bind
  intro tag found
  obtain ⟨inside, same⟩ := (View.unsigned_eq_ok_iff base 0).mp found
  cases known : Kind.ofTag? tag with
  | some kind =>
    apply (failsBy_readBody behind inside slot kind).bind
    intro result _
    exact FailsBy.ok _
  | none =>
    have place : view.absolute 0 = (start : Nat) := by
      rw [View.absolute, base]
      omega
    rw [place]
    exact FailsBy.error (Malformed.tag (by omega) same known)

end Entry

namespace ConstantPool

variable {view : View} {start : Nat}

theorem failsBy_readSlots (base : view.base = start) (count : Int) (slots : Array (Option Entry))
    (offset : Nat) (near : start + offset ≤ view.data.size) :
    FailsBy (Malformed view.data view.source) (readSlots view count slots offset) := by
  have place (offset : Nat) : (view.window offset).base = (start + offset : Nat) :=
    View.window_base_eq base offset
  induction slots, offset using readSlots.induct view count with
  | case1 slots offset room error failed =>
    rw [readSlots_of_lt room]
    apply (Entry.failsBy_read (place offset) near slots.size).bind
    intro result read
    rw [failed] at read
    cases read
  | case2 slots offset room entry width found ih =>
    rw [readSlots_of_lt room, found]
    have stands := (Entry.read_eq_ok_iff (place offset) _).mp found
    have inside := stands.inside
    exact ih (by rwa [← Nat.add_assoc])
  | case3 slots offset full =>
    rw [readSlots, if_neg full]
    exact FailsBy.ok _

/-- The first class entry that names no text is there, and what it names is what is said. -/
theorem unfit_of_findClassNameFault {entries : Array (Option Entry)} {fault : DecodeFault}
    (found : findClassNameFault entries = some fault) (source : Option Text) :
    Unfit entries source { fault, source } := by
  obtain ⟨⟨entry, slot⟩, numbered, named⟩ := List.exists_of_findSome?_eq_some found
  have present : entries[slot]? = some entry := by
    rw [List.mk_mem_zipIdx_iff_getElem?, Array.getElem?_toList] at numbered
    exact numbered
  dsimp only [classNameFault] at named
  split at named
  · rename_i nameIndex
    split at named
    · cases named
    · rename_i nameless
      cases named
      apply Unfit.className present
      intro text leads
      exact nameless text (Option.join_eq_some_iff.mpr leads)
  · cases named

theorem failsBy_read (base : view.base = (10 : Nat)) (near : 10 ≤ view.data.size) {count : Nat}
    (declared : count = numberAt view.data 8 2) :
    FailsBy (BorneOut view.data view.source) (read view count) := by
  apply ((failsBy_readSlots base count #[none] 0 near).mono fun _ => Or.inl).bind
  intro (entries, rawLength) found
  obtain ⟨records, run, fills, same, -⟩ := (readSlots_eq_ok_iff base).mp found
  have stand : EntriesStandIn view.data entries := ⟨records, run, declared ▸ fills, same⟩
  dsimp only
  cases fault : findClassNameFault entries with
  | none => exact FailsBy.ok _
  | some fault =>
    exact FailsBy.error (Or.inr ⟨entries, stand, unfit_of_findClassNameFault fault _⟩)

/-- A pool that was read from some data. -/
structure ReadFrom (data : Array UInt8) (source : Option Text) (pool : ConstantPool) : Prop where
  entries : EntriesStandIn data pool.entries
  source : pool.source = source

theorem ReadFrom.window {pool : ConstantPool} (origin : pool.ReadFrom view.data view.source)
    (offset : Nat) : pool.ReadFrom (view.window offset).data (view.window offset).source :=
  origin

section

variable {data : Array UInt8} {source : Option Text} {pool : ConstantPool}

theorem ReadFrom.failsBy_error {α : Type} (origin : pool.ReadFrom data source)
    {error : DecodeError} (unfit : Unfit pool.entries source error) :
    FailsBy (α := α) (BorneOut data source) (.error error) :=
  FailsBy.error (Or.inr ⟨pool.entries, origin.entries, unfit⟩)

theorem stored_of_entry {index : Nat} {entry : Entry} (found : pool.entry? index = some entry) :
    pool.entries[index]? = some (some entry) := by
  unfold entry? at found
  split at found
  · exact Option.join_eq_some_iff.mp found
  · cases found

theorem mem_of_utf8 {index : Nat} {text : Text} (found : pool.utf8 index = .ok text) :
    some (Entry.utf8 text) ∈ pool.entries :=
  Array.mem_iff_getElem?.mpr ⟨index, stored_of_entry (utf8_eq_ok_iff.mp found)⟩

variable (origin : pool.ReadFrom data source)

include origin

theorem failsBy_entry (index : Nat) : FailsBy (BorneOut data source) (pool.entry index) := by
  unfold ConstantPool.entry
  cases found : pool.entry? index with
  | some entry => exact FailsBy.ok entry
  | none =>
    rw [fault, origin.source]
    apply origin.failsBy_error
    apply Unfit.noEntry
    unfold entry? at found
    split at found
    · exact Or.inr found
    · exact Or.inl (by omega)

/-- A look-up that wants one kind of entry refuses the others as such. -/
theorem failsBy_wrongKind {α : Type} {index : Nat} {entry : Entry} {expected : Kind}
    (found : pool.entry index = .ok entry) (other : entry.kind ≠ expected) :
    FailsBy (α := α) (BorneOut data source)
      (.error (pool.fault (.wrongKind index entry.kind expected.name))) := by
  rw [fault, origin.source]
  exact origin.failsBy_error
    (Unfit.wrongKind (stored_of_entry (entry_eq_ok_iff.mp found)) other)

theorem failsBy_notLiteral {α : Type} {index : Nat} {entry : Entry}
    (found : pool.entry index = .ok entry)
    (other : entry.kind ∉ [Kind.string, .integer, .long, .float, .double]) :
    FailsBy (α := α) (BorneOut data source)
      (.error (pool.fault (.notLiteral index entry.kind))) := by
  rw [fault, origin.source]
  exact origin.failsBy_error
    (Unfit.notLiteral (stored_of_entry (entry_eq_ok_iff.mp found)) other)

theorem failsBy_utf8 (index : Nat) : FailsBy (BorneOut data source) (pool.utf8 index) := by
  apply (failsBy_entry origin index).bind
  intro entry found
  cases entry with
  | utf8 text => exact FailsBy.ok text
  | _ => exact failsBy_wrongKind origin found nofun

theorem failsBy_classEntry (index : Nat) :
    FailsBy (BorneOut data source) (pool.classEntry index) := by
  apply (failsBy_entry origin index).bind
  intro entry found
  cases entry with
  | classRef nameIndex => exact FailsBy.ok nameIndex
  | _ => exact failsBy_wrongKind origin found nofun

theorem failsBy_className (index : Nat) :
    FailsBy (BorneOut data source) (pool.className index) := by
  apply (failsBy_classEntry origin index).bind
  intro nameIndex _
  exact failsBy_utf8 origin nameIndex

theorem failsBy_literal (index : Nat) : FailsBy (BorneOut data source) (pool.literal index) := by
  apply (failsBy_entry origin index).bind
  intro entry found
  cases entry with
  | string textIndex =>
    apply (failsBy_utf8 origin textIndex).bind
    intro text _
    exact FailsBy.ok _
  | integer value | long value | float value | double value => exact FailsBy.ok _
  | _ => exact failsBy_notLiteral origin found (by simp [Entry.kind])

end

end ConstantPool

end ClassOutline
