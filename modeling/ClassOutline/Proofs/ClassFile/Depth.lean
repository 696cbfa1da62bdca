import ClassOutline.Proofs.ClassFile.Refusal
import ClassOutline.Proofs.Members.Depth

set_option autoImplicit false

namespace ClassOutline

open Bounded (Room)

section

variable {reader : View → Decoded Attribute} {tooDeep : View → Prop}
  {limited : View → Reached Attribute} (room : Room reader tooDeep limited)
  (pool : ConstantPool) (view : View) (before : List Attribute)

include room

theorem Member.bounded_readWith (table : AccessFlags.Table) :
    Bounded reader tooDeep before (fun other => readWith other table pool view)
      (readWith limited table pool view) fun member => before ++ member.attributes := by
  unfold readWith
  refine Bounded.lift_bind fun flags _ => ?_
  refine Bounded.lift_bind fun nameIndex _ => ?_
  refine Bounded.lift_bind fun name _ => ?_
  refine Bounded.lift_bind fun descriptorIndex _ => ?_
  refine Bounded.lift_bind fun descriptor _ => ?_
  refine Bounded.lift_bind fun count _ => ?_
  exact (Bounded.answers room _ _ _ _).bind fun attributes _ => Bounded.pure rfl

theorem Field.bounded_readWith :
    Bounded reader tooDeep before (fun other => readWith other pool view)
      (readWith limited pool view) fun field => before ++ field.attributes := by
  unfold readWith
  refine (Member.bounded_readWith room pool view before _).bind fun member _ => ?_
  exact Bounded.lift_bind fun type _ => Bounded.pure rfl

theorem Method.bounded_readWith :
    Bounded reader tooDeep before (fun other => readWith other pool view)
      (readWith limited pool view) fun method => before ++ method.attributes := by
  unfold readWith
  refine (Member.bounded_readWith room pool view before _).bind fun member _ => ?_
  exact Bounded.lift_bind fun signature _ => Bounded.pure rfl

def Sections.outerAttributes (sections : Sections) : List Attribute :=
  sections.fields.flatMap (·.attributes) ++ sections.methods.flatMap (·.attributes) ++
    sections.attributes

theorem Sections.bounded_readWith :
    Bounded reader tooDeep [] (fun other => readWith other view pool) (readWith limited view pool)
      outerAttributes := by
  unfold readWith
  refine Bounded.lift_bind fun flags _ => ?_
  refine Bounded.lift_bind fun interfaceCount _ => ?_
  refine Bounded.lift_bind fun interfaces _ => ?_
  refine Bounded.lift_bind fun fieldCount _ => ?_
  refine (Bounded.records (fun view before => Field.bounded_readWith room pool view before)
    _ _ _).bind fun fields _ => ?_
  refine Bounded.lift_bind fun methodCount _ => ?_
  refine (Bounded.records (fun view before => Method.bounded_readWith room pool view before)
    _ _ _).bind fun methods _ => ?_
  refine Bounded.lift_bind fun attributeCount _ => ?_
  exact (Bounded.answers room _ _ _ _).bind fun attributes _ => Bounded.pure rfl

end

namespace ClassFile

theorem bounded_ofPreambleWith {reader : View → Decoded Attribute} {tooDeep : View → Prop}
    {limited : View → Reached Attribute} (room : Room reader tooDeep limited) (view : View)
    (preamble : Preamble) :
    Bounded reader tooDeep [] (fun other => ofPreambleWith other view preamble)
      (ofPreambleWith limited view preamble) fun file => file.outerAttributes := by
  unfold ofPreambleWith
  refine (Sections.bounded_readWith room preamble.pool view).bind fun sections _ => ?_
  refine Bounded.lift_bind fun thisIndex _ => ?_
  refine Bounded.lift_bind fun thisClass _ => ?_
  refine Bounded.lift_bind fun superIndex _ => ?_
  split
  · exact Bounded.pure rfl
  · cases preamble.pool.classEntry superIndex with
    | error error => exact Bounded.fail
    | ok superClass => exact Bounded.pure rfl

/-- How many attributes of a class, or of its members, are inside one another. -/
def depth (file : ClassFile) : Nat :=
  Attribute.depthOfAll file.outerAttributes

/-- Decoding some bytes comes to more attributes inside one another than there is room for: it reads
their pool and then an attribute in which that many others are read. -/
def DescendsBeyond (stack : Stack) (data : Array UInt8) (source : Option Text) : Prop :=
  ∃ preamble outer, Preamble.read { data, source } = .ok preamble ∧
    Consults (Attribute.read preamble.pool)
      (fun other => ofPreambleWith other { data, source } preamble) outer ∧
    Attribute.Descends preamble.pool stack.attributes outer

variable {stack : Stack} {data : Array UInt8} {source : Option Text}

section

variable {preamble : Preamble} (found : Preamble.read { data, source } = .ok preamble)

include found

theorem decode_of_read :
    decode data source =
      ofPreambleWith (Attribute.read preamble.pool) { data, source } preamble := by
  unfold decode ofView ofViewWith
  rw [found]
  rfl

theorem decodeWithin_of_read :
    decodeWithin stack data source =
      ofPreambleWith (Attribute.readOn stack preamble.pool) { data, source } preamble := by
  unfold decodeWithin ofViewWith
  rw [found]
  rfl

theorem bounded_decode :
    Bounded (Attribute.read preamble.pool) (Attribute.Descends preamble.pool stack.attributes) []
      (fun other => ofPreambleWith other { data, source } preamble)
      (decodeWithin stack data source) fun file => file.outerAttributes := by
  rw [decodeWithin_of_read found]
  exact bounded_ofPreambleWith (Attribute.room_readWithin _ _) _ preamble

end

theorem decodeWithin_of_read_eq_error {error : DecodeError}
    (failed : Preamble.read { data, source } = .error error) :
    decodeWithin stack data source = .error (.decode error) := by
  unfold decodeWithin ofViewWith
  rw [failed]
  rfl

theorem decodeWithin_of_descendsBeyond (deep : DescendsBeyond stack data source) :
    decodeWithin stack data source = .error (.beyond .depth) := by
  obtain ⟨preamble, outer, found, consults, descends⟩ := deep
  exact (bounded_decode found).stops outer consults descends

/-- With room for its attributes, decoding is as without a limit. -/
theorem decodeWithin_of_not (shallow : ¬ DescendsBeyond stack data source) :
    decodeWithin stack data source = .ofDecoded (decode data source) := by
  cases found : Preamble.read { data, source } with
  | error error =>
    rw [decodeWithin_of_read_eq_error found]
    unfold decode ofView ofViewWith
    rw [found]
    rfl
  | ok preamble =>
    rw [decode_of_read found]
    exact (bounded_decode found).goesOn fun outer consults descends =>
      shallow ⟨preamble, outer, found, consults, descends⟩

/-- The attributes that are read inside one another are those of the class. -/
theorem descendsBeyond_iff_lt_depth {file : ClassFile} (decoded : decode data source = .ok file) :
    DescendsBeyond stack data source ↔ stack.attributes < file.depth := by
  obtain ⟨preamble, found, -⟩ := bind_eq_ok_iff.mp decoded
  have read := decode_of_read found
  rw [decoded] at read
  have bounded : Bounded (Attribute.read preamble.pool)
      (Attribute.Descends preamble.pool stack.attributes) [] _ _ _ := bounded_decode found
  have holds := bounded.holds file read.symm
  unfold depth
  rw [Attribute.lt_depthOfAll_iff]
  constructor
  · rintro ⟨other, outer, same, consults, descends⟩
    cases found.symm.trans same
    obtain ⟨record, given⟩ := consults.exists_answer read.symm
    have listed := (holds record).mpr (Or.inr ⟨outer, consults, given⟩)
    exact ⟨record, listed, (Attribute.descends_iff_lt_depth given).mp descends⟩
  · rintro ⟨record, listed, deeper⟩
    obtain ⟨outer, consults, given⟩ := ((holds record).mp listed).resolve_left List.not_mem_nil
    exact ⟨preamble, outer, found, consults, (Attribute.descends_iff_lt_depth given).mpr deeper⟩

/-- A class that is decoded without a limit is decoded if there is room for its attributes. -/
theorem decodeWithin_eq_ite {file : ClassFile} (decoded : decode data source = .ok file) :
    decodeWithin stack data source =
      if file.depth ≤ stack.attributes then .ok file else .error (.beyond .depth) := by
  by_cases fits : file.depth ≤ stack.attributes
  · rw [if_pos fits, decodeWithin_of_not, decoded]
    · rfl
    · rw [descendsBeyond_iff_lt_depth decoded]
      exact Nat.not_lt.mpr fits
  · rw [if_neg fits, decodeWithin_of_descendsBeyond]
    exact (descendsBeyond_iff_lt_depth decoded).mpr (Nat.lt_of_not_le fits)

theorem decode_of_decodeWithin {file : ClassFile}
    (decoded : decodeWithin stack data source = .ok file) : decode data source = .ok file := by
  by_cases deep : DescendsBeyond stack data source
  · rw [decodeWithin_of_descendsBeyond deep] at decoded
    cases decoded
  · rw [decodeWithin_of_not deep] at decoded
    exact Reached.ofDecoded_eq_ok_iff.mp decoded

end ClassFile

end ClassOutline
