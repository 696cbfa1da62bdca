import ClassOutline.Analysis.Basic
import ClassOutline.Proofs.Decoding.Numbers

set_option autoImplicit false

namespace ClassOutline

namespace Selection

variable {selection : Selection} {name : Text}

/-- A method is asked for by a name that is not left out, and that is among those to analyse if
there are any. -/
def AsksFor (selection : Selection) (name : Text) : Prop :=
  name ∉ selection.skip ∧ ∀ names, selection.only = some names → name ∈ names

theorem includes_iff : selection.includes name = true ↔ selection.AsksFor name := by
  unfold includes AsksFor
  cases selection.only <;> simp

instance : Decidable (selection.AsksFor name) :=
  decidable_of_iff _ includes_iff

theorem includes_eq_decide : selection.includes name = decide (selection.AsksFor name) := by
  rw [Bool.eq_iff_iff, includes_iff, decide_eq_true_iff]

theorem asksFor_ofSwitches {noAnalyse keepGoing : Bool} {analyse skip : Option (List Text)} :
    (ofSwitches noAnalyse analyse skip keepGoing).AsksFor name ↔
      name ∉ skip.getD [] ∧ noAnalyse = false ∧
        (analyse.getD [] = [] ∨ name ∈ analyse.getD []) := by
  unfold ofSwitches AsksFor
  cases noAnalyse with
  | true => simp
  | false =>
    rcases analyse with _ | _ | ⟨first, rest⟩ <;> simp

end Selection

namespace Descriptor

def isWide (type : Text) : Bool :=
  type = "J" || type = "D"

/-- The slots that arguments take: one each, a second one for a wide one, and one for the receiver
if there is one. -/
def slotCount (parameters : List Text) (receiver : Bool) : Nat :=
  parameters.length + parameters.countP isWide + receiver.toNat

theorem slots_eq_add_countP (types : List Text) :
    slots types = types.length + types.countP isWide := by
  induction types with
  | nil => rfl
  | cons type rest ih =>
    have wide : isWide type = true ↔ type = [0x4A] ∨ type = [0x44] := by
      rw [isWide, Bool.or_eq_true, decide_eq_true_eq, decide_eq_true_eq]
      rfl
    rw [slots, ih, List.length_cons, List.countP_cons]
    simp only [wide]
    split <;> omega

theorem argumentSlots_eq_slotCount (parameters : List Text) (static : Bool) :
    argumentSlots parameters static = slotCount parameters (!static) := by
  rw [argumentSlots, slotCount, slots_eq_add_countP, Nat.add_comm]
  cases static <;> rfl

end Descriptor

namespace ExceptionHandler

/-- A row that covers a range of the code and is handled in it. -/
structure Within (handler : ExceptionHandler) (codeLength : Nat) : Prop where
  start : handler.startPc < handler.endPc
  finish : handler.endPc ≤ codeLength
  target : handler.handlerPc < codeLength

variable {handler : ExceptionHandler} {handlers : List ExceptionHandler} {codeLength : Nat}

theorem liesIn_iff : handler.liesIn codeLength = true ↔ handler.Within codeLength := by
  simp only [liesIn, Bool.and_eq_true, decide_eq_true_eq]
  constructor
  · rintro ⟨⟨start, finish⟩, target⟩
    exact ⟨start, finish, target⟩
  · rintro ⟨start, finish, target⟩
    exact ⟨⟨start, finish⟩, target⟩

theorem find?_outside_eq_none_iff :
    handlers.find? (fun handler => !handler.liesIn codeLength) = none ↔
      ∀ handler ∈ handlers, handler.Within codeLength := by
  simp only [List.find?_eq_none, Bool.not_eq_true', Bool.not_eq_false, liesIn_iff]

/-- The row that is found is the first one that does not stay within the code. -/
theorem find?_outside_eq_some_iff :
    handlers.find? (fun handler => !handler.liesIn codeLength) = some handler ↔
      ¬handler.Within codeLength ∧ ∃ front back, handlers = front ++ handler :: back ∧
        ∀ other ∈ front, other.Within codeLength := by
  simp only [List.find?_eq_some_iff_append, Bool.not_eq_true', Bool.not_not, ← liesIn_iff,
    Bool.not_eq_true]

end ExceptionHandler

def CodeBody.summary (code : CodeBody) (slots : Nat) : CodeSummary where
  codeLength := code.code.size
  maxStack := code.maxStack
  maxLocals := code.maxLocals
  argumentSlots := slots
  exceptionHandlers := code.handlers.length

namespace Member

/-- The first code attribute of a member holds some code. -/
def HasCode (member : Member) (code : CodeBody) : Prop :=
  ∃ front header nested back, member.attributes = front ++ .code header code nested :: back ∧
    ∀ other ∈ front, other.kind ≠ .code

def LacksCode (member : Member) : Prop :=
  ∀ record ∈ member.attributes, record.kind ≠ .code

variable {member : Member} {code : CodeBody}

theorem code?_eq_none_iff : member.code? = none ↔ member.LacksCode := by
  rw [code?, List.findSome?_eq_none_iff]
  refine forall₂_congr fun record _ => ?_
  cases record <;> simp [Attribute.kind]

theorem code?_eq_some_iff : member.code? = some code ↔ member.HasCode code := by
  rw [code?, List.findSome?_eq_some_iff]
  constructor
  · rintro ⟨front, record, back, split, found, before⟩
    cases record <;> cases found
    refine ⟨front, _, _, back, split, fun other listed isCode => ?_⟩
    have skipped := before other listed
    cases other <;> cases isCode
    cases skipped
  · rintro ⟨front, header, nested, back, split, before⟩
    refine ⟨front, _, back, split, rfl, fun other listed => ?_⟩
    have otherKind := before other listed
    cases other with
    | code => exact absurd rfl otherKind
    | _ => rfl

end Member

namespace Method

def Bodyless (method : Method) : Prop :=
  .abstractType ∈ method.flags ∨ .native ∈ method.flags

def argumentSlots (method : Method) : Decoded Nat :=
  (Descriptor.method method.descriptor).map fun signature =>
    Descriptor.slotCount signature.parameters (.static ∉ method.flags)

/-- A method that needs a body and has one that is not empty. -/
structure Carries (method : Method) (code : CodeBody) : Prop where
  concrete : ¬method.Bodyless
  present : method.HasCode code
  nonempty : code.code.size ≠ 0

/-- Code with room for the arguments and with an exception table that stays within it. -/
structure Consistent (method : Method) (code : CodeBody) (slots : Nat) : Prop extends
    method.Carries code where
  counted : method.argumentSlots = .ok slots
  enough : slots ≤ code.maxLocals
  handlers : ∀ handler ∈ code.handlers, handler.Within code.code.size

/-- The first thing that is wrong with a method. -/
inductive Refuses (method : Method) : AnalysisFault → Prop
  | codeOnBodyless {code : CodeBody} (bodyless : method.Bodyless)
    (present : method.HasCode code) : Refuses method .codeOnBodyless
  | missingCode (concrete : ¬method.Bodyless) (absent : method.LacksCode) :
    Refuses method .missingCode
  | emptyCode {code : CodeBody} (concrete : ¬method.Bodyless) (present : method.HasCode code)
    (empty : code.code.size = 0) : Refuses method .emptyCode
  | tooFewLocals {code : CodeBody} {slots : Nat} (carries : method.Carries code)
    (counted : method.argumentSlots = .ok slots) (short : code.maxLocals < slots) :
    Refuses method (.tooFewLocals code.maxLocals slots)
  | handlerOutside {code : CodeBody} {slots : Nat} {front back : List ExceptionHandler}
    {handler : ExceptionHandler} (carries : method.Carries code)
    (counted : method.argumentSlots = .ok slots) (enough : slots ≤ code.maxLocals)
    (table : code.handlers = front ++ handler :: back)
    (before : ∀ other ∈ front, other.Within code.code.size)
    (outside : ¬handler.Within code.code.size) :
    Refuses method (.handlerOutside handler code.code.size)

/-- What a method deserves: no summary, the summary of its code, or a fault. -/
inductive Verdict (method : Method) : Except AnalysisFault (Option CodeSummary) → Prop
  | withoutBody (bodyless : method.Bodyless) (absent : method.LacksCode) :
    Verdict method (.ok none)
  | consistent {code : CodeBody} {slots : Nat} (consistent : method.Consistent code slots) :
    Verdict method (.ok (some (code.summary slots)))
  | refused {fault : AnalysisFault} (refuses : method.Refuses fault) : Verdict method (.error fault)

/-- The descriptor of a method parses, and its analysis tells which verdict it deserves. -/
structure Judged (method : Method) : Prop where
  parses : Descriptor.method method.descriptor = .ok method.signature
  withoutBody : method.analyse = .ok none ↔ method.Bodyless ∧ method.LacksCode
  consistent : ∀ summary, method.analyse = .ok (some summary) ↔
    ∃ code slots, method.Consistent code slots ∧ summary = code.summary slots
  refused : ∀ fault, method.analyse = .error fault ↔ method.Refuses fault

variable {method : Method} {code : CodeBody} {slots : Nat}

theorem isBodyless_iff : method.isBodyless = true ↔ method.Bodyless := by
  rw [isBodyless, Bool.or_eq_true, List.contains_iff_mem, List.contains_iff_mem, Bodyless]

/-- What is left of the analysis of a method that needs a body and has one. -/
theorem analyse_of_present (concrete : ¬method.Bodyless) (present : method.HasCode code) :
    method.analyse = (method.analyseCode code).map some := by
  rw [analyse, if_neg (fun bodyless => concrete (isBodyless_iff.mp bodyless)),
    Member.code?_eq_some_iff.mpr present]

theorem argumentSlots_isStatic (parameters : List Text) :
    Descriptor.argumentSlots parameters method.isStatic =
      Descriptor.slotCount parameters (.static ∉ method.flags) := by
  rw [Descriptor.argumentSlots_eq_slotCount, isStatic, List.contains_eq_mem, decide_not]

section

variable (parsed : Descriptor.method method.descriptor = .ok method.signature)

include parsed

theorem argumentSlots_eq : method.argumentSlots =
    .ok (Descriptor.argumentSlots method.signature.parameters method.isStatic) := by
  rw [argumentSlots, parsed, argumentSlots_isStatic]
  rfl

theorem slots_eq (counted : method.argumentSlots = .ok slots) :
    Descriptor.argumentSlots method.signature.parameters method.isStatic = slots :=
  Except.ok.inj ((argumentSlots_eq parsed).symm.trans counted)

theorem verdict_analyseCode (concrete : ¬method.Bodyless) (present : method.HasCode code) :
    method.Verdict ((method.analyseCode code).map some) := by
  have counted := argumentSlots_eq parsed
  unfold analyseCode
  by_cases empty : code.code.size = 0
  · rw [if_pos empty]
    exact .refused (.emptyCode concrete present empty)
  · have carries : method.Carries code := ⟨concrete, present, empty⟩
    rw [if_neg empty]
    split
    · rename_i short
      exact .refused (.tooFewLocals carries counted short)
    · rename_i enough
      split
      · rename_i handler found
        obtain ⟨outside, front, back, table, before⟩ :=
          ExceptionHandler.find?_outside_eq_some_iff.mp found
        exact .refused
          (.handlerOutside carries counted (Nat.le_of_not_lt enough) table before outside)
      · rename_i none
        exact .consistent ⟨carries, counted, Nat.le_of_not_lt enough,
          ExceptionHandler.find?_outside_eq_none_iff.mp none⟩

theorem verdict_analyse : method.Verdict method.analyse := by
  unfold analyse
  split
  · rename_i bodyless
    rw [isBodyless_iff] at bodyless
    split
    · rename_i code present
      exact .refused (.codeOnBodyless bodyless (Member.code?_eq_some_iff.mp present))
    · rename_i absent
      exact .withoutBody bodyless (Member.code?_eq_none_iff.mp absent)
  · rename_i concrete
    rw [isBodyless_iff] at concrete
    split
    · rename_i code present
      exact verdict_analyseCode parsed concrete (Member.code?_eq_some_iff.mp present)
    · rename_i absent
      exact .refused (.missingCode concrete (Member.code?_eq_none_iff.mp absent))

/-- A verdict is the analysis: no method deserves two. -/
theorem Verdict.analyse_eq {result : Except AnalysisFault (Option CodeSummary)}
    (verdict : method.Verdict result) : method.analyse = result := by
  cases verdict with
  | withoutBody bodyless absent =>
    rw [analyse, if_pos (isBodyless_iff.mpr bodyless), Member.code?_eq_none_iff.mpr absent]
  | consistent consistent =>
    obtain ⟨⟨concrete, present, nonempty⟩, counted, enough, handlers⟩ := consistent
    rw [← slots_eq parsed counted] at enough ⊢
    rw [analyse_of_present concrete present, analyseCode, if_neg nonempty,
      if_neg (Nat.not_lt.mpr enough), ExceptionHandler.find?_outside_eq_none_iff.mpr handlers]
    rfl
  | refused refuses =>
    cases refuses with
    | codeOnBodyless bodyless present =>
      rw [analyse, if_pos (isBodyless_iff.mpr bodyless), Member.code?_eq_some_iff.mpr present]
    | missingCode concrete absent =>
      rw [analyse, if_neg (fun bodyless => concrete (isBodyless_iff.mp bodyless)),
        Member.code?_eq_none_iff.mpr absent]
    | emptyCode concrete present empty =>
      rw [analyse_of_present concrete present, analyseCode, if_pos empty]
      rfl
    | tooFewLocals carries counted short =>
      obtain ⟨concrete, present, nonempty⟩ := carries
      rw [← slots_eq parsed counted] at short ⊢
      rw [analyse_of_present concrete present, analyseCode, if_neg nonempty, if_pos short]
      rfl
    | handlerOutside carries counted enough table before outside =>
      obtain ⟨concrete, present, nonempty⟩ := carries
      -- The search stops at the first row that does not stay within the code.
      have found := ExceptionHandler.find?_outside_eq_some_iff.mpr ⟨outside, _, _, table, before⟩
      rw [← slots_eq parsed counted] at enough
      rw [analyse_of_present concrete present, analyseCode, if_neg nonempty,
        if_neg (Nat.not_lt.mpr enough), found]
      rfl

theorem analyse_eq_iff {result : Except AnalysisFault (Option CodeSummary)} :
    method.analyse = result ↔ method.Verdict result :=
  ⟨fun same => same ▸ verdict_analyse parsed, Verdict.analyse_eq parsed⟩

theorem judged_of_method : method.Judged where
  parses := parsed
  withoutBody := by
    rw [analyse_eq_iff parsed]
    constructor
    · intro verdict
      cases verdict with
      | withoutBody bodyless absent => exact ⟨bodyless, absent⟩
    · rintro ⟨bodyless, absent⟩
      exact .withoutBody bodyless absent
  consistent := by
    intro summary
    rw [analyse_eq_iff parsed]
    constructor
    · intro verdict
      cases verdict with
      | consistent consistent => exact ⟨_, _, consistent, rfl⟩
    · rintro ⟨code, slots, consistent, rfl⟩
      exact .consistent consistent
  refused := by
    intro fault
    rw [analyse_eq_iff parsed]
    constructor
    · intro verdict
      cases verdict with
      | refused refuses => exact refuses
    · exact .refused

end

end Method

end ClassOutline
