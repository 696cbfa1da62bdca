import ClassOutline.Proofs.Members.Format

set_option autoImplicit false

namespace ClassOutline

open View (numberAt)

variable {pool : ConstantPool} {view : View} {start : Nat}

theorem AttributeHeader.read_eq_ok_iff (base : view.base = start) {header : AttributeHeader} :
    read pool view = .ok header ↔
      header.StandsAt pool view.data start (AttributeKind.ofName header.name) := by
  constructor
  · intro found
    obtain ⟨-, found⟩ := (View.unsigned_bind_iff base 0 rfl).mp found
    obtain ⟨name, named, found⟩ := bind_eq_ok_iff.mp found
    obtain ⟨-, found⟩ := (View.unsigned_bind_iff base 2 rfl).mp found
    obtain ⟨inside, found⟩ := (View.raw_bind_iff base 6 rfl).mp found
    obtain rfl := pure_eq_ok_iff.mp found
    exact ⟨rfl, named, rfl, rfl, rfl, inside⟩
  · rintro ⟨nameIndex, named, -, length, body, inside⟩
    refine (View.unsigned_bind_iff base 0 nameIndex).mpr ⟨by omega, ?_⟩
    apply bind_eq_ok_iff.mpr
    refine ⟨header.name, named, ?_⟩
    refine (View.unsigned_bind_iff base 2 length).mpr ⟨by omega, ?_⟩
    exact (View.raw_bind_iff base 6 body).mpr ⟨inside, rfl⟩

theorem ExceptionHandler.read_eq_ok_iff (base : view.base = start) {handler : ExceptionHandler} :
    read pool view = .ok handler ↔ handler.StandsAt pool view.data start := by
  constructor
  · intro found
    obtain ⟨-, found⟩ := (View.unsigned_bind_iff base 0 rfl).mp found
    obtain ⟨-, found⟩ := (View.unsigned_bind_iff base 2 rfl).mp found
    obtain ⟨-, found⟩ := (View.unsigned_bind_iff base 4 rfl).mp found
    obtain ⟨inside, found⟩ := (View.unsigned_bind_iff base 6 rfl).mp found
    dsimp only at found
    split at found
    · rename_i always
      obtain rfl := pure_eq_ok_iff.mp found
      exact ⟨rfl, rfl, rfl, Or.inl ⟨rfl, always⟩, inside⟩
    · rename_i typed
      obtain ⟨catchType, caught, found⟩ := bind_eq_ok_iff.mp found
      obtain ⟨name, named, rfl⟩ := map_eq_ok_iff.mp caught
      obtain rfl := pure_eq_ok_iff.mp found
      exact ⟨rfl, rfl, rfl, Or.inr ⟨name, rfl, typed, named⟩, inside⟩
  · rintro ⟨startPc, endPc, handlerPc, catchType, inside⟩
    refine (View.unsigned_bind_iff base 0 startPc).mpr ⟨by omega, ?_⟩
    refine (View.unsigned_bind_iff base 2 endPc).mpr ⟨by omega, ?_⟩
    refine (View.unsigned_bind_iff base 4 handlerPc).mpr ⟨by omega, ?_⟩
    refine (View.unsigned_bind_iff base 6 rfl).mpr ⟨by omega, ?_⟩
    obtain ⟨startPc, endPc, handlerPc, caught⟩ := handler
    rcases catchType with ⟨rfl, always⟩ | ⟨name, rfl, typed, named⟩
    · rw [if_pos always]
      rfl
    · rw [if_neg typed, named]
      rfl

theorem ExceptionHandler.records_eq_ok_iff (base : view.base = start) {count total : Nat}
    {handlers : List ExceptionHandler} :
    view.records count (fun _ => width) (read pool) = .ok (handlers, total) ↔
      handlers.length = count ∧ total = 8 * handlers.length ∧
        Consecutive (StandsAt pool view.data) (fun _ => 8) start handlers := by
  rw [View.records_eq_ok_iff base read_eq_ok_iff, totalLength_const]
  rfl

theorem CodeBody.width_eq (body : CodeBody) :
    body.width = 8 + body.code.size + 2 + 8 * body.handlers.length + 2 := by
  rw [width]
  omega

theorem CodeBody.read_eq_ok_iff (base : view.base = start) {body : CodeBody} {count first : Nat} :
    read pool view = .ok (body, count, first) ↔
      body.StandsAt pool view.data start count ∧ first = body.width := by
  constructor
  · intro found
    obtain ⟨-, found⟩ := (View.unsigned_bind_iff base 0 rfl).mp found
    obtain ⟨-, found⟩ := (View.unsigned_bind_iff base 2 rfl).mp found
    obtain ⟨codeLength, read, found⟩ := bind_eq_ok_iff.mp found
    obtain ⟨-, declared⟩ := (View.unsigned_eq_ok_iff base 4).mp read
    obtain ⟨code, read, found⟩ := bind_eq_ok_iff.mp found
    obtain ⟨fits, extracted⟩ := (View.raw_eq_ok_iff base 8).mp read
    obtain ⟨handlerCount, read, found⟩ := bind_eq_ok_iff.mp found
    obtain ⟨-, many⟩ := (View.unsigned_eq_ok_iff base (8 + codeLength)).mp read
    obtain ⟨⟨handlers, tableLength⟩, read, found⟩ := bind_eq_ok_iff.mp found
    have table := View.window_base_eq base (8 + codeLength + 2)
    obtain ⟨rfl, rfl, stand⟩ := (ExceptionHandler.records_eq_ok_iff table).mp read
    obtain ⟨nestedCount, read, found⟩ := bind_eq_ok_iff.mp found
    obtain ⟨inside, nested⟩ := (View.unsigned_eq_ok_iff base
      (8 + codeLength + 2 + 8 * handlers.length)).mp read
    have size : code.size = codeLength := by
      rw [extracted, Array.size_extract]
      omega
    subst size
    cases pure_eq_ok_iff.mp found
    have atTable : start + (8 + code.size + 2) = start + 10 + code.size := by omega
    have atCount : start + (8 + code.size + 2 + 8 * handlers.length) =
        start + 10 + code.size + 8 * handlers.length := by omega
    rw [← Nat.add_assoc] at many
    rw [atTable] at stand
    rw [atCount] at inside nested
    refine ⟨⟨rfl, rfl, declared, extracted, many, stand, nested, ?_⟩, ?_⟩
    · rw [width_eq]
      dsimp only
      omega
    · rw [width_eq]
  · rintro ⟨⟨maxStack, maxLocals, codeLength, code, handlerCount, handlers, nested, inside⟩, rfl⟩
    rw [width_eq] at inside
    refine (View.unsigned_bind_iff base 0 maxStack).mpr ⟨by omega, ?_⟩
    refine (View.unsigned_bind_iff base 2 maxLocals).mpr ⟨by omega, ?_⟩
    refine (View.unsigned_bind_iff base 4 codeLength).mpr ⟨by omega, ?_⟩
    refine (View.raw_bind_iff base 8 code).mpr ⟨by omega, ?_⟩
    rw [Nat.add_assoc] at handlerCount
    refine (View.unsigned_bind_iff base (8 + body.code.size) handlerCount).mpr ⟨by omega, ?_⟩
    apply bind_eq_ok_iff.mpr
    have table := View.window_base_eq base (8 + body.code.size + 2)
    have atTable : start + (8 + body.code.size + 2) = start + 10 + body.code.size := by omega
    rw [← atTable] at handlers
    refine ⟨(_, _), (ExceptionHandler.records_eq_ok_iff table).mpr ⟨rfl, rfl, handlers⟩, ?_⟩
    have atCount : start + 10 + body.code.size + 8 * body.handlers.length =
        start + (8 + body.code.size + 2 + 8 * body.handlers.length) := by omega
    rw [atCount] at nested
    refine (View.unsigned_bind_iff base _ nested).mpr ⟨by omega, ?_⟩
    rw [width_eq]
    rfl

theorem ListsEntry.read_eq_ok_iff (base : view.base = start) {nameIndex : Nat} :
    (do pool.classEntry (← view.u2 0)) = .ok nameIndex ↔
      ListsEntry pool view.data start nameIndex := by
  refine (View.unsigned_bind_iff base 0 rfl).trans ⟨?_, ?_⟩
  · rintro ⟨inside, entry⟩
    exact ⟨entry, inside⟩
  · rintro ⟨entry, inside⟩
    exact ⟨inside, entry⟩

/-- The name indices of class entries lead to names in a second step. -/
theorem listsClasses_iff {count : Nat} {names : List Text} :
    (∃ nameIndices : List Nat, nameIndices.length = count ∧
      Consecutive (ListsEntry pool view.data) (fun _ => 2) start nameIndices ∧
      (nameIndices.mapM fun (nameIndex : Nat) => pool.utf8 nameIndex) = .ok names) ↔
    names.length = count ∧ Consecutive (ListsClass pool view.data) (fun _ => 2) start names := by
  induction count generalizing start names with
  | zero =>
    constructor
    · rintro ⟨nameIndices, none, -, found⟩
      rw [List.eq_nil_of_length_eq_zero none] at found
      cases pure_eq_ok_iff.mp found
      exact ⟨rfl, trivial⟩
    · rintro ⟨none, -⟩
      rw [List.eq_nil_of_length_eq_zero none]
      exact ⟨[], rfl, trivial, rfl⟩
  | succ count ih =>
    constructor
    · rintro ⟨nameIndices, many, places, found⟩
      cases nameIndices with
      | nil => cases many
      | cons nameIndex nameIndices =>
        obtain ⟨⟨listed, inside⟩, places⟩ := places
        rw [List.mapM_cons] at found
        obtain ⟨name, named, found⟩ := bind_eq_ok_iff.mp found
        obtain ⟨others, run, same⟩ := bind_eq_ok_iff.mp found
        cases pure_eq_ok_iff.mp same
        obtain ⟨length, rest⟩ := ih.mp ⟨nameIndices, Nat.succ.inj many, places, run⟩
        have className := ConstantPool.className_eq_ok_iff.mpr ⟨nameIndex, listed, named⟩
        exact ⟨congrArg Nat.succ length, ⟨className, inside⟩, rest⟩
    · rintro ⟨many, listed⟩
      cases names with
      | nil => cases many
      | cons name names =>
        obtain ⟨⟨className, inside⟩, rest⟩ := listed
        obtain ⟨nameIndex, listed, named⟩ := ConstantPool.className_eq_ok_iff.mp className
        obtain ⟨nameIndices, length, places, found⟩ := ih.mpr ⟨Nat.succ.inj many, rest⟩
        refine ⟨nameIndex :: nameIndices, congrArg Nat.succ length, ⟨⟨listed, inside⟩, places⟩, ?_⟩
        rw [List.mapM_cons, named, found]
        rfl

theorem Attribute.readExceptions_eq_ok_iff (base : view.base = start) {names : List Text} :
    readExceptions pool view = .ok names ↔
      start + 2 ≤ view.data.size ∧ names.length = numberAt view.data start 2 ∧
        Consecutive (ListsClass pool view.data) (fun _ => 2) (start + 2) names := by
  have table := View.window_base_eq base 2
  constructor
  · intro found
    obtain ⟨inside, found⟩ := (View.unsigned_bind_iff base 0 rfl).mp found
    obtain ⟨⟨nameIndices, total⟩, read, found⟩ := bind_eq_ok_iff.mp found
    obtain ⟨many, -, places⟩ :=
      (View.fixedRecords_eq_ok_iff table ListsEntry.read_eq_ok_iff).mp read
    obtain ⟨length, listed⟩ := listsClasses_iff.mp ⟨nameIndices, many, places, found⟩
    exact ⟨inside, length, listed⟩
  · rintro ⟨inside, many, listed⟩
    obtain ⟨nameIndices, length, places, found⟩ := listsClasses_iff.mpr ⟨many, listed⟩
    refine (View.unsigned_bind_iff base 0 rfl).mpr ⟨inside, ?_⟩
    apply bind_eq_ok_iff.mpr
    exact ⟨(nameIndices, _),
      (View.fixedRecords_eq_ok_iff table ListsEntry.read_eq_ok_iff).mpr ⟨length, rfl, places⟩,
      found⟩

namespace Attribute

theorem readBody_eq_ok_iff (base : view.base = start) {header : AttributeHeader}
    (opens : header.StandsAt pool view.data start (AttributeKind.ofName header.name))
    {nested : Nat → Decoded Attribute}
    (each : ∀ offset record, nested offset = .ok record ↔
      StandsAt pool view.data (start + 6 + offset) record) {record : Attribute} :
    readBody pool (view.window AttributeHeader.width) header nested = .ok record ↔
      record.header = header ∧ record.StandsAt pool view.data start := by
  have place := View.window_base_eq base 6
  have run : ∀ {offset : Nat} {records : List Attribute},
      Consecutive (fun place record => nested place = .ok record) rawLength offset records ↔
        AllStandAt pool view.data (start + 6 + offset) records := by
    intro offset records
    rw [consecutive_congr each, consecutive_shift, allStandAt_iff]
  constructor
  · intro found
    unfold readBody at found
    split at found
    case h_1 kind | h_2 kind | h_3 kind =>
      rw [kind] at opens
      cases found
      exact ⟨rfl, opens⟩
    case h_4 kind =>
      obtain ⟨inside, found⟩ := (View.unsigned_bind_iff place 0 rfl).mp found
      obtain ⟨value, literal, found⟩ := bind_eq_ok_iff.mp found
      cases pure_eq_ok_iff.mp found
      exact ⟨rfl, kind ▸ opens, inside, rfl, literal⟩
    case h_5 kind | h_6 kind =>
      obtain ⟨inside, found⟩ := (View.unsigned_bind_iff place 0 rfl).mp found
      obtain ⟨text, named, found⟩ := bind_eq_ok_iff.mp found
      cases pure_eq_ok_iff.mp found
      exact ⟨rfl, kind ▸ opens, inside, named⟩
    case h_7 kind =>
      obtain ⟨names, read, found⟩ := bind_eq_ok_iff.mp found
      cases pure_eq_ok_iff.mp found
      obtain ⟨inside, many, listed⟩ := (readExceptions_eq_ok_iff place).mp read
      exact ⟨rfl, kind ▸ opens, inside, many, listed⟩
    case h_8 kind =>
      obtain ⟨⟨body, count, first⟩, read, found⟩ := bind_eq_ok_iff.mp found
      obtain ⟨stands, rfl⟩ := (CodeBody.read_eq_ok_iff place).mp read
      obtain ⟨⟨attributes, length⟩, read, found⟩ := bind_eq_ok_iff.mp found
      obtain ⟨rfl, rfl, nestedStand⟩ := recordsAt_eq_ok_iff.mp read
      dsimp only at found
      split at found
      · rename_i filled
        cases pure_eq_ok_iff.mp found
        exact ⟨rfl, kind ▸ opens, stands, filled.symm, run.mp nestedStand⟩
      · exact (throw_eq_ok_iff.mp found).elim
  · rintro ⟨rfl, stands⟩
    have kind := stands.header.kind
    unfold readBody
    rw [kind]
    cases record with
    | unknown | deprecated | synthetic => rfl
    | constantValue header valueIndex value =>
      obtain ⟨-, inside, read, value⟩ := stands
      refine (View.unsigned_bind_iff place 0 read).mpr ⟨inside, ?_⟩
      rw [value]
      rfl
    | sourceFile header text | signature header text =>
      obtain ⟨-, inside, named⟩ := stands
      refine (View.unsigned_bind_iff place 0 rfl).mpr ⟨inside, ?_⟩
      rw [Nat.add_zero, View.window_data, named]
      rfl
    | exceptions header names =>
      obtain ⟨-, inside, many, listed⟩ := stands
      apply bind_eq_ok_iff.mpr
      exact ⟨names, (readExceptions_eq_ok_iff place).mpr ⟨inside, many, listed⟩, rfl⟩
    | code header body attributes =>
      obtain ⟨-, bodyStands, length, nestedStand⟩ := stands
      apply bind_eq_ok_iff.mpr
      refine ⟨_, (CodeBody.read_eq_ok_iff place).mpr ⟨bodyStands, rfl⟩, ?_⟩
      apply bind_eq_ok_iff.mpr
      refine ⟨(attributes, _), recordsAt_eq_ok_iff.mpr ⟨rfl, rfl, run.mpr nestedStand⟩, ?_⟩
      exact if_pos length.symm

/-- An attribute is read exactly where it stands. -/
theorem read_eq_ok_iff (base : view.base = start) {record : Attribute} :
    read pool view = .ok record ↔ record.StandsAt pool view.data start := by
  induction view using read.induct pool generalizing start record with
  | case1 view error failed =>
    rw [read_eq, failed]
    constructor
    · intro found
      cases found
    · intro stands
      have kind := stands.header.kind
      have found := (AttributeHeader.read_eq_ok_iff base).mpr (kind ▸ stands.header)
      rw [failed] at found
      cases found
  | case2 view header found ih =>
    have opens := (AttributeHeader.read_eq_ok_iff base).mp found
    have each : ∀ (offset : Nat) record,
        read pool (view.window (AttributeHeader.width + offset : Nat)) = .ok record ↔
          StandsAt pool view.data (start + 6 + offset) record := by
      intro offset record
      have place := View.window_base_eq base (AttributeHeader.width + offset)
      rw [← Nat.add_assoc] at place
      exact ih offset place
    have body : ∀ {record}, read pool view = .ok record ↔
        record.header = header ∧ record.StandsAt pool view.data start := by
      intro record
      rw [read_eq, found]
      exact readBody_eq_ok_iff base opens each
    rw [body]
    refine ⟨And.right, fun stands => ⟨?_, stands⟩⟩
    have kind := stands.header.kind
    have again := (AttributeHeader.read_eq_ok_iff base).mpr (kind ▸ stands.header)
    rw [found] at again
    exact (Except.ok.inj again).symm

theorem records_eq_ok_iff (base : view.base = start) {count total : Nat}
    {records : List Attribute} :
    view.records count rawLength (read pool) = .ok (records, total) ↔
      records.length = count ∧ total = totalLength rawLength records ∧
        AllStandAt pool view.data start records := by
  rw [View.records_eq_ok_iff base read_eq_ok_iff, allStandAt_iff]

end Attribute

theorem Member.read_eq_ok_iff (base : view.base = start) {table : AccessFlags.Table}
    {bits : AccessFlags.Bits} (masks : AccessFlags.Masks table bits) {member : Member} :
    read table pool view = .ok member ↔ member.StandsAt bits pool view.data start := by
  have behind := View.window_base_eq base 8
  constructor
  · intro found
    obtain ⟨-, found⟩ := (View.unsigned_bind_iff base 0 rfl).mp found
    obtain ⟨-, found⟩ := (View.unsigned_bind_iff base 2 rfl).mp found
    obtain ⟨name, named, found⟩ := bind_eq_ok_iff.mp found
    obtain ⟨-, found⟩ := (View.unsigned_bind_iff base 4 rfl).mp found
    obtain ⟨descriptor, described, found⟩ := bind_eq_ok_iff.mp found
    obtain ⟨inside, found⟩ := (View.unsigned_bind_iff base 6 rfl).mp found
    obtain ⟨⟨attributes, total⟩, read, found⟩ := bind_eq_ok_iff.mp found
    obtain ⟨many, rfl, stand⟩ := (Attribute.records_eq_ok_iff behind).mp read
    obtain rfl := pure_eq_ok_iff.mp found
    exact ⟨AccessFlags.decode_eq_ofWord masks _, rfl, named, described, many, rfl, stand, inside⟩
  · rintro ⟨flags, nameIndex, named, described, many, total, stand, inside⟩
    refine (View.unsigned_bind_iff base 0 rfl).mpr ⟨by omega, ?_⟩
    refine (View.unsigned_bind_iff base 2 nameIndex).mpr ⟨by omega, ?_⟩
    apply bind_eq_ok_iff.mpr
    refine ⟨_, named, ?_⟩
    refine (View.unsigned_bind_iff base 4 rfl).mpr ⟨by omega, ?_⟩
    apply bind_eq_ok_iff.mpr
    refine ⟨_, described, ?_⟩
    refine (View.unsigned_bind_iff base 6 many).mpr ⟨inside, ?_⟩
    apply bind_eq_ok_iff.mpr
    refine ⟨_, (Attribute.records_eq_ok_iff behind).mpr ⟨rfl, total, stand⟩, ?_⟩
    obtain ⟨_, _, _, _, _, _⟩ := member
    rw [← AccessFlags.decode_eq_ofWord masks] at flags
    cases flags
    rfl

theorem Field.read_eq_ok_iff (base : view.base = start) {field : Field} :
    read pool view = .ok field ↔ field.StandsAt pool view.data start := by
  constructor
  · intro found
    obtain ⟨member, first, found⟩ := bind_eq_ok_iff.mp found
    obtain ⟨descriptor, accepted, found⟩ := bind_eq_ok_iff.mp found
    obtain rfl := pure_eq_ok_iff.mp found
    exact ⟨(Member.read_eq_ok_iff base AccessFlags.masks_field).mp first, descriptor, accepted⟩
  · rintro ⟨stands, descriptor, accepted⟩
    apply bind_eq_ok_iff.mpr
    refine ⟨field.toMember, (Member.read_eq_ok_iff base AccessFlags.masks_field).mpr stands, ?_⟩
    apply bind_eq_ok_iff.mpr
    exact ⟨descriptor, accepted, rfl⟩

theorem Method.read_eq_ok_iff (base : view.base = start) {method : Method} :
    read pool view = .ok method ↔ method.StandsAt pool view.data start := by
  constructor
  · intro found
    obtain ⟨member, first, found⟩ := bind_eq_ok_iff.mp found
    obtain ⟨signature, accepted, found⟩ := bind_eq_ok_iff.mp found
    obtain rfl := pure_eq_ok_iff.mp found
    exact ⟨(Member.read_eq_ok_iff base AccessFlags.masks_method).mp first, accepted⟩
  · rintro ⟨stands, accepted⟩
    apply bind_eq_ok_iff.mpr
    refine ⟨method.toMember, (Member.read_eq_ok_iff base AccessFlags.masks_method).mpr stands, ?_⟩
    apply bind_eq_ok_iff.mpr
    exact ⟨method.signature, accepted, rfl⟩

end ClassOutline
