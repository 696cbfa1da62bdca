import ClassOutline.Proofs.Decoding.Bounds
import ClassOutline.Proofs.Members.Nesting

set_option autoImplicit false

namespace ClassOutline

open Bounded (Room)

namespace Attribute

def nested : Attribute → List Attribute
  | .code _ _ nested => nested
  | _ => []

mutual

/-- How many attributes are inside one another, this one included. -/
def depth : Attribute → Nat
  | .code _ _ nested => depthOfAll nested + 1
  | .unknown .. | .constantValue .. | .sourceFile .. | .signature .. | .exceptions ..
  | .deprecated .. | .synthetic .. => 1

def depthOfAll : List Attribute → Nat
  | [] => 0
  | record :: rest => max (depth record) (depthOfAll rest)

end

theorem depth_eq (record : Attribute) : record.depth = depthOfAll record.nested + 1 := by
  cases record <;> simp [depth, nested, depthOfAll]

theorem lt_depthOfAll_iff {limit : Nat} {records : List Attribute} :
    limit < depthOfAll records ↔ ∃ record ∈ records, limit < depth record := by
  induction records with
  | nil => simp [depthOfAll]
  | cons record rest ih =>
    rw [depthOfAll, List.exists_mem_cons_iff, ← ih]
    omega

variable {pool : ConstantPool} {view : View}

/-- More than some number of attributes are read inside one another, the one at the start of the
view and each further one in the one before. -/
def Descends (pool : ConstantPool) (limit : Nat) (view : View) : Prop :=
  ∃ calls, List.IsChain (Calls pool) (view :: calls) ∧ calls.length = limit

theorem descends_zero : Descends pool 0 view :=
  ⟨[], .singleton view, rfl⟩

theorem descends_succ {limit : Nat} :
    Descends pool (limit + 1) view ↔
      ∃ inner, Calls pool view inner ∧ Descends pool limit inner := by
  constructor
  · rintro ⟨_ | ⟨inner, rest⟩, chain, length⟩
    · cases length
    · obtain ⟨call, later⟩ := List.isChain_cons_cons.mp chain
      exact ⟨inner, call, rest, later, Nat.succ.inj length⟩
  · rintro ⟨inner, call, rest, chain, rfl⟩
    exact ⟨inner :: rest, .cons_cons call chain, rfl⟩

theorem bounded_readBody {reader : Nat → Decoded Attribute} {tooDeep : Nat → Prop}
    {limited : Nat → Reached Attribute} (room : Room reader tooDeep limited) (body : View)
    (header : AttributeHeader) :
    Bounded reader tooDeep [] (fun other => readBody pool body header other)
      (readBody pool body header limited) nested := by
  unfold readBody
  cases AttributeKind.ofName header.name with
  | unknown => exact Bounded.pure rfl
  | deprecated => exact Bounded.pure rfl
  | synthetic => exact Bounded.pure rfl
  | constantValue =>
    refine Bounded.lift_bind fun index _ => ?_
    exact Bounded.lift_bind fun value _ => Bounded.pure rfl
  | sourceFile =>
    refine Bounded.lift_bind fun index _ => ?_
    exact Bounded.lift_bind fun name _ => Bounded.pure rfl
  | signature =>
    refine Bounded.lift_bind fun index _ => ?_
    exact Bounded.lift_bind fun text _ => Bounded.pure rfl
  | exceptions => exact Bounded.lift_bind fun names _ => Bounded.pure rfl
  | code =>
    refine Bounded.lift_bind fun result _ => ?_
    refine (Bounded.answers room id _ _ _).bind fun found _ => ?_
    dsimp only
    split
    · exact Bounded.pure rfl
    · exact Bounded.fail

theorem room_readWithin (pool : ConstantPool) (limit : Nat) :
    Room (read pool) (Descends pool limit) (readWithin (.error (.beyond .depth)) pool limit) := by
  induction limit with
  | zero =>
    exact { stops := fun _ _ => rfl, goesOn := fun _ shallow => absurd descends_zero shallow }
  | succ limit ih =>
    have nestedRoom (view : View) : Room (nestedAt pool view)
        (fun offset => Descends pool limit (view.window (AttributeHeader.width + offset : Nat)))
        fun offset => readWithin (.error (.beyond .depth)) pool limit
          (view.window (AttributeHeader.width + offset : Nat)) :=
      { stops := fun offset => ih.stops _, goesOn := fun offset => ih.goesOn _ }
    constructor
    · intro view deep
      obtain ⟨inner, call, deeper⟩ := descends_succ.mp deep
      obtain ⟨header, offset, found, rfl, consults⟩ := call
      rw [readWithin, found]
      exact (bounded_readBody (nestedRoom view) _ header).stops offset consults deeper
    · intro view shallow
      rw [readWithin, read_eq]
      cases found : AttributeHeader.read pool view with
      | error error => rfl
      | ok header =>
        refine (bounded_readBody (nestedRoom view) _ header).goesOn fun offset consults deeper => ?_
        exact shallow (descends_succ.mpr ⟨_, ⟨header, offset, found, rfl, consults⟩, deeper⟩)

/-- The attributes that are read inside one another are those of the record. -/
theorem descends_iff_lt_depth {record : Attribute} (found : read pool view = .ok record)
    {limit : Nat} : Descends pool limit view ↔ limit < record.depth := by
  induction limit generalizing view record with
  | zero =>
    rw [depth_eq]
    exact ⟨fun _ => Nat.succ_pos _, fun _ => descends_zero⟩
  | succ limit ih =>
    rw [depth_eq, Nat.succ_lt_succ_iff, lt_depthOfAll_iff, descends_succ]
    rw [read_eq] at found
    obtain ⟨header, opens, body⟩ := bind_eq_ok_iff.mp found
    have room : Room (nestedAt pool view) (fun _ => False) fun offset =>
        .ofDecoded (nestedAt pool view offset) :=
      { stops := nofun, goesOn := fun _ _ => rfl }
    have holds := (bounded_readBody room _ header).holds record body
    constructor
    · rintro ⟨inner, ⟨other, offset, same, rfl, consults⟩, deeper⟩
      cases opens.symm.trans same
      obtain ⟨inside, given⟩ := Consults.exists_answer consults body
      exact ⟨inside, (holds inside).mpr (Or.inr ⟨offset, consults, given⟩), (ih given).mp deeper⟩
    · rintro ⟨inside, listed, deeper⟩
      obtain ⟨offset, consults, given⟩ := ((holds inside).mp listed).resolve_left List.not_mem_nil
      exact ⟨_, ⟨header, offset, opens, rfl, consults⟩, (ih given).mpr deeper⟩

end Attribute

end ClassOutline
