import Mathlib.Data.List.Chain
import Mathlib.Logic.Relation
import ClassOutline.Proofs.Members.Reading

set_option autoImplicit false

/- How deep attributes nest. Nothing keeps a nested attribute within the length that the outer one
declares, which is only compared with what was read once everything is; but the header and the fixed
fields of code take 18 bytes, and they must have been there. So each attribute begins at least that
far behind the one it is nested in, and not behind the data, also where reading fails in the end. -/

namespace ClassOutline

namespace Attribute

variable {pool : ConstantPool} {data : Array UInt8} {source : Option Text} {view outer inner : View}
  {start offset : Nat}

/-- The body of an attribute takes the nested one at an offset: it is code, everything in front of
the nested attributes was read, and so were those in front of this one. -/
structure ReadsNested (pool : ConstantPool) (body : View) (header : AttributeHeader)
    (nested : Nat → Decoded Attribute) (offset : Nat) : Prop where
  code : AttributeKind.ofName header.name = .code
  reached : ∃ codeBody count first, CodeBody.read pool body = .ok (codeBody, count, first) ∧
    Reaches nested rawLength count first offset

section

variable {body : View} {header : AttributeHeader} {nested other : Nat → Decoded Attribute}

theorem readBody_congr
    (same : ∀ offset, ReadsNested pool body header nested offset → other offset = nested offset) :
    readBody pool body header other = readBody pool body header nested := by
  unfold readBody
  cases kind : AttributeKind.ofName header.name with
  | code =>
    cases found : CodeBody.read pool body with
    | error fault => rfl
    | ok result =>
      obtain ⟨codeBody, count, first⟩ := result
      have run : recordsAt other rawLength count first = recordsAt nested rawLength count first :=
        recordsAt_congr fun offset reached =>
          same offset ⟨kind, codeBody, count, first, found, reached⟩
      simp only [monadLift_self, bind, Except.bind]
      rw [run]
  | _ => rfl

/-- The nested attributes that are read are those whose failure, whatever the error, is that of the
whole. -/
theorem readsNested_iff :
    ReadsNested pool body header nested offset ↔
      ∀ fault, readBody pool body header (Function.update nested offset (.error fault)) =
        .error fault := by
  constructor
  · rintro ⟨code, codeBody, count, first, found, reached⟩ fault
    unfold readBody
    rw [code, found]
    simp only [monadLift_self, bind, Except.bind]
    rw [reached.failing]
  · intro failing
    by_contra unread
    have kept : ∀ fault, readBody pool body header nested = .error fault := by
      intro fault
      rw [← failing fault]
      refine (readBody_congr fun place reads => ?_).symm
      have apart : place ≠ offset := by
        rintro rfl
        exact unread reads
      exact Function.update_of_ne apart _ _
    have same := (kept { fault := .truncated 0 }).symm.trans (kept { fault := .truncated 1 })
    cases same

end

/-- The reader of the attributes in the body of the one at the start of a view. -/
def nestedAt (pool : ConstantPool) (view : View) (offset : Nat) : Decoded Attribute :=
  read pool (view.window (AttributeHeader.width + offset : Nat))

/-- To read the attribute at the start of the outer view is to read the one at the start of the
inner view as well: the outer one fails with whatever error the inner one might. -/
def Calls (pool : ConstantPool) (outer inner : View) : Prop :=
  ∃ header offset, AttributeHeader.read pool outer = .ok header ∧
    inner = outer.window (AttributeHeader.width + offset : Nat) ∧
    ∀ fault, readBody pool (outer.window AttributeHeader.width) header
      (Function.update (nestedAt pool outer) offset (.error fault)) = .error fault

theorem calls_iff :
    Calls pool outer inner ↔
      ∃ header offset, AttributeHeader.read pool outer = .ok header ∧
        inner = outer.window (AttributeHeader.width + offset : Nat) ∧
        ReadsNested pool (outer.window AttributeHeader.width) header (nestedAt pool outer)
          offset := by
  simp only [Calls, readsNested_iff]

/-- A nested attribute that is read begins behind the header and the fixed fields of code, and not
behind the data. -/
theorem ReadsNested.between {header : AttributeHeader} (base : view.base = start)
    (reads : ReadsNested pool (view.window AttributeHeader.width) header (nestedAt pool view)
      offset) :
    start + 18 ≤ start + (6 + offset) ∧ start + (6 + offset) ≤ view.data.size := by
  obtain ⟨-, codeBody, count, first, found, reached⟩ := reads
  have inBody : (view.window AttributeHeader.width).base = (start + 6 : Nat) :=
    View.window_base_eq base 6
  obtain ⟨stands, rfl⟩ := (CodeBody.read_eq_ok_iff inBody).mp found
  have fixed := codeBody.width_eq
  have fits := stands.inside
  rw [View.window_data] at fits
  suffices codeBody.width ≤ offset ∧ start + (6 + offset) ≤ view.data.size by omega
  refine reached.inside
    (fun place => codeBody.width ≤ place ∧ start + (6 + place) ≤ view.data.size) ?_ ?_
  · intro place record between found
    have opens := View.window_base_eq base (6 + place)
    have ends := ((read_eq_ok_iff opens).mp found).inside
    rw [View.window_data] at ends
    omega
  · omega

theorem Calls.exists_place (base : outer.base = start) (call : Calls pool outer inner) :
    ∃ place : Nat, inner = { outer with base := place } ∧ start + 18 ≤ place ∧
      place ≤ outer.data.size := by
  obtain ⟨header, offset, -, rfl, reads⟩ := calls_iff.mp call
  have between := reads.between base
  have place := View.window_base_eq base (AttributeHeader.width + offset)
  have moved := congrArg (fun base => { outer with base }) place
  exact ⟨start + (6 + offset), moved, between⟩

/-- A limit on the depth makes no difference if there is one more for every 18 bytes. -/
theorem readWithin_eq (exhausted : Decoded Attribute) (limit : Nat) (base : view.base = start)
    (enough : (view.data.size - start) / 18 + 1 ≤ limit) :
    readWithin exhausted pool limit view = read pool view := by
  induction limit generalizing view start with
  | zero => cases enough
  | succ limit ih =>
    rw [readWithin, read_eq]
    cases AttributeHeader.read pool view with
    | error fault => rfl
    | ok header =>
      refine readBody_congr fun offset reads => ?_
      have between := reads.between base
      refine ih (View.window_base_eq base (AttributeHeader.width + offset)) ?_
      rw [View.window_data, AttributeHeader.width]
      omega

theorem exists_place_of_reflTransGen (base : view.base = start)
    (calls : Relation.ReflTransGen (Calls pool) view outer) :
    ∃ place : Nat, outer = { view with base := place } := by
  induction calls with
  | refl => exact ⟨start, congrArg (fun base => { view with base }) base⟩
  | tail _ call ih =>
    obtain ⟨place, rfl⟩ := ih
    obtain ⟨next, rfl, -, -⟩ := call.exists_place rfl
    exact ⟨next, rfl⟩

theorem acc_calls (base : view.base = start) :
    Acc (fun inner outer => Calls pool outer inner) view := by
  induction left : view.data.size - start using Nat.strong_induction_on generalizing view start with
  | _ left ih =>
    refine Acc.intro view fun inner call => ?_
    obtain ⟨place, rfl, behind, inside⟩ := call.exists_place base
    exact ih (view.data.size - place) (by omega) rfl rfl

theorem length_le_of_isChain (base : view.base = start) {calls : List View}
    (chain : List.IsChain (Calls pool) (view :: calls)) :
    calls.length ≤ (view.data.size - start) / 18 := by
  induction calls generalizing view start with
  | nil => exact Nat.zero_le _
  | cons inner rest ih =>
    obtain ⟨call, chain⟩ := List.isChain_cons_cons.mp chain
    obtain ⟨place, rfl, behind, inside⟩ := call.exists_place base
    have fewer := ih rfl chain
    dsimp only at fewer
    rw [List.length_cons]
    omega

/-- Reading an attribute reads nested ones further and further on, and so ends. -/
structure NestingEnds (pool : ConstantPool) (view : View) : Prop where
  /-- Every nested attribute, of one that is read at whatever depth, begins at least 18 bytes behind
  the one it is nested in and not behind the data. -/
  between : ∀ outer inner, Relation.ReflTransGen (Calls pool) view outer → Calls pool outer inner →
    outer.base + 18 ≤ inner.base ∧ inner.base ≤ view.data.size
  /-- There is no endless descent. -/
  wellFounded : Acc (fun inner outer => Calls pool outer inner) view
  /-- The attributes that are being read at one time, the first one and each nested in the one
  before. -/
  depth : ∀ calls, List.IsChain (Calls pool) (view :: calls) →
    ((view :: calls).length : Int) ≤ (view.data.size - view.base) / 18 + 1
  /-- With that limit on the depth, reading has the same result, an error or not. -/
  limited : ∀ exhausted, ∀ limit : Nat, (view.data.size - view.base) / 18 + 1 ≤ limit →
    readWithin exhausted pool limit view = read pool view

/-- Wherever in the data reading an attribute begins, and whether or not it fails. -/
theorem nestingEnds (pool : ConstantPool) (data : Array UInt8) (source : Option Text) (start : Nat)
    (begins : start ≤ data.size) : NestingEnds pool { data, base := start, source } where
  between := by
    intro outer inner calls call
    obtain ⟨place, rfl⟩ := exists_place_of_reflTransGen rfl calls
    obtain ⟨next, rfl, behind, inside⟩ := call.exists_place rfl
    dsimp only at inside ⊢
    omega
  wellFounded := acc_calls rfl
  depth := by
    intro calls chain
    have few := length_le_of_isChain rfl chain
    rw [List.length_cons]
    dsimp only at few ⊢
    omega
  limited := by
    intro exhausted limit enough
    refine readWithin_eq exhausted limit rfl ?_
    dsimp only at enough ⊢
    omega

def codePool : ConstantPool where
  entries := #[none, some (.utf8 "Code")]
  rawLength := 7

/-- Code of no bytes in code of no bytes. The inner one has another one nested in it too, for which
no bytes are left. -/
def codeInCode : Array UInt8 :=
  #[0, 1, 0, 0, 0, 30, 0, 0, 0, 0, 0, 0, 0, 0, 0, 0, 0, 1,
    0, 1, 0, 0, 0, 12, 0, 0, 0, 0, 0, 0, 0, 0, 0, 0, 0, 1]

/-- The inner code begins 18 bytes behind the outer one and the missing attribute, that is read all
the same, where the data end. So as many are being read at one time as the limit allows. -/
theorem nestingEnds_codeInCode :
    let view (base : Nat) : View := { data := codeInCode, base }
    NestingEnds codePool (view 0) ∧
      List.IsChain (Calls codePool) [view 0, view 18, view 36] ∧
      ([view 0, view 18, view 36].length : Int) = (codeInCode.size - (view 0).base) / 18 + 1 ∧
      read codePool (view 0) = .error { fault := .truncated 2, offset := some 36 } := by
  intro view
  have ends : NestingEnds codePool (view 0) := nestingEnds codePool codeInCode none 0 (by decide)
  have code : AttributeKind.ofName "Code" = .code := by decide +kernel
  have calls : ∀ (outer length : Nat),
      (AttributeHeader.read codePool (view outer)).toOption =
        some ⟨1, "Code", length, codeInCode.extract (outer + 6) 36⟩ →
      (CodeBody.read codePool ((view outer).window AttributeHeader.width)).toOption =
        some (⟨0, 0, #[], []⟩, 1, 12) →
      Calls codePool (view outer) (view (outer + 18)) := by
    intro outer length opens found
    exact calls_iff.mpr ⟨_, 12, eq_ok_of_toOption opens, rfl, code, _, 1, 12,
      eq_ok_of_toOption found, .here 0 12⟩
  refine ⟨ends, ?_, by decide, ?_⟩
  · have first := calls 0 30 (by decide +kernel) (by decide +kernel)
    have second := calls 18 12 (by decide +kernel) (by decide +kernel)
    exact .cons_cons first (.cons_cons second (.singleton _))
  · have failed : (readWithin (.error { fault := .noEntry 0 } : Decoded _) codePool 3
        (view 0)).map kind =
        .error { fault := .truncated 2, offset := some 36 } := by decide +kernel
    rw [← ends.limited _ 3 (by decide)]
    exact map_eq_error_iff.mp failed

end Attribute

end ClassOutline
