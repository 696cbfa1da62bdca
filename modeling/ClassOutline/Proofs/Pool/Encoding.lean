import ClassOutline.Proofs.Decoding.Bytes
import ClassOutline.Proofs.Pool.Format
import ClassOutline.Proofs.Text.ModifiedUtf8

set_option autoImplicit false

namespace ClassOutline

open View (numberAt twosComplement)

/-- The two's complement of a number in `width` bytes. -/
def signedBytes (width : Nat) (value : Int) : List UInt8 :=
  bigEndianBytes width (value % (256 ^ width : Nat)).toNat

theorem HoldsAt.twosComplement_eq {data : Array UInt8} {start width half : Nat} {value : Int}
    (holds : HoldsAt data start (signedBytes width value))
    (range : -(half : Int) ≤ value ∧ value < half) (top : Nat.pow 2 (8 * width - 1) = half)
    (whole : Nat.pow 2 (8 * width) = 2 * half) (modulus : 256 ^ width = 2 * half) :
    twosComplement width (numberAt data start width) = value := by
  have number := holds.numberAt_eq (by omega)
  rw [number, twosComplement, top, whole, modulus]
  by_cases negative : value < 0
  · have shifted : value % ((2 * half : Nat) : Int) = value + (2 * half : Nat) := by
      rw [← Int.add_emod_right, Int.emod_eq_of_lt] <;> omega
    rw [shifted, if_neg (by omega)]
    omega
  · have same : value % ((2 * half : Nat) : Int) = value := by
      rw [Int.emod_eq_of_lt] <;> omega
    rw [same, if_pos (by omega)]
    omega

/-- What a pool entry is made from. -/
inductive Constant
  | utf8 (text : Text) (spelling : ModifiedUtf8.Spelling)
  | integer (value : Int)
  | float (bits : Nat)
  | long (value : Int)
  | double (bits : Nat)
  | classRef (nameIndex : Nat)
  | string (textIndex : Nat)
  | fieldRef (classIndex nameAndTypeIndex : Nat)
  | methodRef (classIndex nameAndTypeIndex : Nat)
  | interfaceMethodRef (classIndex nameAndTypeIndex : Nat)
  | nameAndType (nameIndex descriptorIndex : Nat)
  | methodHandle (referenceKind referenceIndex : Nat)
  | methodType (descriptorIndex : Nat)
  | dynamic (bootstrapIndex nameAndTypeIndex : Nat)
  | invokeDynamic (bootstrapIndex nameAndTypeIndex : Nat)
  | moduleRef (nameIndex : Nat)
  | packageRef (nameIndex : Nat)
deriving DecidableEq, Repr

namespace Constant

def entry : Constant → Entry
  | .utf8 text _ => .utf8 text
  | .integer value => .integer value
  | .float bits => .float (binary32.decode bits)
  | .long value => .long value
  | .double bits => .double (binary64.decode bits)
  | .classRef nameIndex => .classRef nameIndex
  | .string textIndex => .string textIndex
  | .fieldRef first second => .fieldRef first second
  | .methodRef first second => .methodRef first second
  | .interfaceMethodRef first second => .interfaceMethodRef first second
  | .nameAndType first second => .nameAndType first second
  | .methodHandle first second => .methodHandle first second
  | .methodType descriptorIndex => .methodType descriptorIndex
  | .dynamic first second => .dynamic first second
  | .invokeDynamic first second => .invokeDynamic first second
  | .moduleRef nameIndex => .moduleRef nameIndex
  | .packageRef nameIndex => .packageRef nameIndex

def body : Constant → List UInt8
  | .utf8 text spelling =>
    bigEndianBytes 2 (ModifiedUtf8.encode text spelling).length ++ ModifiedUtf8.encode text spelling
  | .integer value => signedBytes 4 value
  | .float bits => bigEndianBytes 4 bits
  | .long value => signedBytes 8 value
  | .double bits => bigEndianBytes 8 bits
  | .classRef index | .string index | .methodType index | .moduleRef index
  | .packageRef index => bigEndianBytes 2 index
  | .fieldRef first second | .methodRef first second | .interfaceMethodRef first second
  | .nameAndType first second | .dynamic first second
  | .invokeDynamic first second => bigEndianBytes 2 first ++ bigEndianBytes 2 second
  | .methodHandle first second => bigEndianBytes 1 first ++ bigEndianBytes 2 second

def bytes (constant : Constant) : List UInt8 :=
  bigEndianBytes 1 constant.entry.kind.tag ++ constant.body

/-- The numbers fit their bytes, and the text can be read back. -/
def Fits : Constant → Prop
  | .utf8 text spelling =>
    (∀ point ∈ text, point < 0x110000) ∧ ModifiedUtf8.PairFree text ∧
      (ModifiedUtf8.encode text spelling).length < 0x10000
  | .integer value => -0x80000000 ≤ value ∧ value < 0x80000000
  | .float bits => bits < 0x100000000
  | .long value => -0x8000000000000000 ≤ value ∧ value < 0x8000000000000000
  | .double bits => bits < 0x10000000000000000
  | .classRef index | .string index | .methodType index | .moduleRef index
  | .packageRef index => index < 0x10000
  | .fieldRef first second | .methodRef first second | .interfaceMethodRef first second
  | .nameAndType first second | .dynamic first second
  | .invokeDynamic first second => first < 0x10000 ∧ second < 0x10000
  | .methodHandle first second => first < 0x100 ∧ second < 0x10000

theorem fits_ascii {text : Text} (ascii : ∀ point ∈ text, point < 0x80)
    (short : text.length < 0x10000) : (utf8 text .utf8).Fits := by
  have single : ModifiedUtf8.encode text .utf8 = text.map UInt8.ofNat := by
    rw [ModifiedUtf8.encode, List.map_eq_flatMap]
    exact List.flatMap_congr fun point listed => if_pos (ascii point listed)
  have free : ModifiedUtf8.PairFree text := by
    clear short single
    induction text with
    | nil => trivial
    | cons first rest ih =>
      cases rest with
      | nil => trivial
      | cons second rest =>
        refine ⟨fun both => ?_, ih fun point listed => ascii point (List.mem_cons_of_mem _ listed)⟩
        have small : first < 0x80 := ascii first List.mem_cons_self
        have large := (Bool.and_eq_true_iff.mp both.1).1
        exact absurd (of_decide_eq_true large) (Nat.not_le.mpr (Nat.lt_trans small (by decide)))
  refine ⟨fun point listed => ?_, free, ?_⟩
  · exact Nat.lt_trans (ascii point listed) (by decide)
  · rwa [single, List.length_map]

instance : (constant : Constant) → Decidable constant.Fits
  | .utf8 .. => inferInstanceAs (Decidable (_ ∧ _ ∧ _))
  | .integer _ | .long _ => inferInstanceAs (Decidable (_ ∧ _))
  | .float _ | .double _ | .classRef _ | .string _ | .methodType _ | .moduleRef _
  | .packageRef _ => inferInstanceAs (Decidable (_ < _))
  | .fieldRef .. | .methodRef .. | .interfaceMethodRef .. | .nameAndType .. | .dynamic ..
  | .invokeDynamic .. | .methodHandle .. => inferInstanceAs (Decidable (_ ∧ _))

variable {data : Array UInt8} {start : Nat}

theorem entryAt_eq {constant : Constant} (fits : constant.Fits)
    (holds : HoldsAt data start constant.body) :
    constant.entry.kind.entryAt data start = some constant.entry ∧
      constant.entry.kind.bodyWidth data start = constant.body.length := by
  cases constant with
  | utf8 text spelling =>
    obtain ⟨valid, free, short⟩ := fits
    obtain ⟨first, second⟩ := holdsAt_append.mp holds
    have length := first.numberAt_eq short
    have extract := second.extract
    rw [length_bigEndianBytes] at extract
    constructor
    · simp only [entry, Entry.kind, Kind.entryAt, length, extract]
      rw [ModifiedUtf8.decode?_encode valid free]
      rfl
    · simp only [entry, Entry.kind, Kind.bodyWidth, body, length, List.length_append,
        length_bigEndianBytes]
  | integer value =>
    have number := holds.twosComplement_eq fits rfl rfl rfl
    exact ⟨congrArg (some ∘ Entry.integer) number, (length_bigEndianBytes _ _).symm⟩
  | long value =>
    have number := holds.twosComplement_eq fits rfl rfl rfl
    exact ⟨congrArg (some ∘ Entry.long) number, (length_bigEndianBytes _ _).symm⟩
  | float bits =>
    have number := holds.numberAt_eq fits
    exact ⟨congrArg (some ∘ Entry.float ∘ binary32.decode) number,
      (length_bigEndianBytes _ _).symm⟩
  | double bits =>
    have number := holds.numberAt_eq fits
    exact ⟨congrArg (some ∘ Entry.double ∘ binary64.decode) number,
      (length_bigEndianBytes _ _).symm⟩
  | classRef index | string index | methodType index | moduleRef index | packageRef index =>
    have number := holds.numberAt_eq fits
    refine ⟨?_, (length_bigEndianBytes _ _).symm⟩
    simp only [entry, Entry.kind, Kind.entryAt, number]
  | fieldRef first second | methodRef first second | interfaceMethodRef first second
  | nameAndType first second | dynamic first second | invokeDynamic first second
  | methodHandle first second =>
    obtain ⟨near, far⟩ := holdsAt_append.mp holds
    rw [length_bigEndianBytes] at far
    refine ⟨?_, ?_⟩
    · simp only [entry, Entry.kind, Kind.entryAt, near.numberAt_eq fits.1, far.numberAt_eq fits.2]
    · simp only [entry, Entry.kind, Kind.bodyWidth, body, List.length_append,
        length_bigEndianBytes]

theorem Fits.standsAt {constant : Constant} (fits : constant.Fits)
    (holds : HoldsAt data start constant.bytes) :
    Entry.StandsAt data start (constant.entry, constant.bytes.length) := by
  obtain ⟨first, behind⟩ := holdsAt_append.mp holds
  rw [length_bigEndianBytes] at behind
  obtain ⟨body, width⟩ := entryAt_eq fits behind
  have tag : constant.entry.kind.tag < 256 ^ 1 := by
    cases constant.entry.kind <;> decide
  refine ⟨first.numberAt_eq tag, body, ?_, holds.inside⟩
  rw [width, bytes, List.length_append, length_bigEndianBytes]

end Constant

namespace ConstantPool

/-- The pool with some constants, from slot one on. -/
def ofConstants (constants : List Constant) (source : Option Text) : ConstantPool where
  entries := #[none] ++ table (constants.map Constant.entry)
  rawLength := (constants.flatMap Constant.bytes).length
  source

variable {data : Array UInt8} {start : Nat} {constants : List Constant} {source : Option Text}

theorem fills_size_table (slot : Nat) (entries : List Entry) :
    Fills (slot + (table entries).size : Nat) slot entries := by
  induction entries generalizing slot with
  | nil => exact Int.le_refl _
  | cons entry rest ih =>
    have positive := entry.kind.slots_pos
    have again := ih (slot + entry.kind.slots)
    rw [table, Array.size_append, size_slots, ← Nat.add_assoc]
    exact ⟨by omega, again⟩

theorem ofConstants_standsAt (fits : ∀ constant ∈ constants, constant.Fits)
    (named : ClassesNamed (ofConstants constants source).entries)
    (holds : HoldsAt data start (constants.flatMap Constant.bytes)) :
    ∃ records, (ofConstants constants source).StandsAt data start
      (ofConstants constants source).entries.size records := by
  let record : Constant → Entry × Nat := fun constant => (constant.entry, constant.bytes.length)
  have entries : (constants.map record).map Prod.fst = constants.map Constant.entry := by
    rw [List.map_map]
    rfl
  refine ⟨constants.map record, ?_, ?_, ?_, ?_, named⟩
  · apply holds.consecutive
    · exact fun constant present place here => (fits constant present).standsAt here
    · exact fun _ _ => rfl
  · rw [entries, ofConstants, Array.size_append]
    exact fills_size_table 1 _
  · rw [entries, ofConstants]
  · rw [totalLength_map]
    exact length_flatMap _ _

end ConstantPool

end ClassOutline
