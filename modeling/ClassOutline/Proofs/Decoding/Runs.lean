import Mathlib.Logic.Function.Basic
import ClassOutline.Decoding.Records
import ClassOutline.Proofs.Decoding.Numbers

set_option autoImplicit false

namespace ClassOutline

/-- Each item stands at its place, the first one at `start` and every other right behind the one
before it. -/
def Consecutive {α : Type} (stands : Nat → α → Prop) (length : α → Nat) : Nat → List α → Prop
  | _, [] => True
  | start, item :: rest =>
    stands start item ∧ Consecutive stands length (start + length item) rest

def totalLength {α : Type} (length : α → Nat) : List α → Nat
  | [] => 0
  | item :: rest => length item + totalLength length rest

section

variable {α : Type} {stands other : Nat → α → Prop} {length : α → Nat}

@[simp] theorem totalLength_cons (item : α) (rest : List α) :
    totalLength length (item :: rest) = length item + totalLength length rest := rfl

theorem totalLength_const (width : Nat) (items : List α) :
    totalLength (fun _ => width) items = width * items.length := by
  induction items with
  | nil => rfl
  | cons item rest ih =>
    rw [totalLength_cons, ih, List.length_cons, Nat.mul_succ]
    exact Nat.add_comm _ _

theorem totalLength_map {β : Type} (convert : β → α) (items : List β) :
    totalLength length (items.map convert) =
      totalLength (fun item => length (convert item)) items := by
  induction items with
  | nil => rfl
  | cons item rest ih => rw [List.map_cons, totalLength_cons, totalLength_cons, ih]

theorem Consecutive.map {β : Type} {convert : β → α} {before : Nat → β → Prop}
    (each : ∀ place item, before place item → stands place (convert item)) {start : Nat}
    {items : List β} (run : Consecutive before (fun item => length (convert item)) start items) :
    Consecutive stands length start (items.map convert) := by
  induction items generalizing start with
  | nil => trivial
  | cons item rest ih => exact ⟨each start item run.1, ih run.2⟩

theorem consecutive_congr (same : ∀ place item, stands place item ↔ other place item)
    (start : Nat) (items : List α) :
    Consecutive stands length start items ↔ Consecutive other length start items := by
  induction items generalizing start with
  | nil => exact Iff.rfl
  | cons item rest ih => exact and_congr (same start item) (ih _)

theorem consecutive_shift (shift start : Nat) (items : List α) :
    Consecutive (fun place => stands (shift + place)) length start items ↔
      Consecutive stands length (shift + start) items := by
  induction items generalizing start with
  | nil => exact Iff.rfl
  | cons item rest ih =>
    rw [Consecutive, Consecutive, ih, Nat.add_assoc]

/-- The items at equal distances, found by their indices. -/
theorem consecutive_indexed (width start index : Nat) (items : List α) :
    Consecutive (fun place => stands (start + place * width)) (fun _ => 1) index items ↔
      Consecutive stands (fun _ => width) (start + index * width) items := by
  induction items generalizing index with
  | nil => exact Iff.rfl
  | cons item rest ih =>
    rw [Consecutive, Consecutive, ih, Nat.add_mul, Nat.one_mul, Nat.add_assoc]

theorem Consecutive.stands_of_mem {start : Nat} {items : List α} {item : α}
    (run : Consecutive stands length start items) (present : item ∈ items) :
    ∃ place, stands place item := by
  induction items generalizing start with
  | nil => cases present
  | cons first rest ih =>
    rcases List.mem_cons.mp present with rfl | later
    · exact ⟨start, run.1⟩
    · exact ih run.2 later

/-- A run that begins within a bound ends within it, if each of its records does. -/
theorem Consecutive.inside {size start : Nat} {items : List α}
    (run : Consecutive stands length start items)
    (each : ∀ {place item}, stands place item → place + length item ≤ size)
    (begins : start ≤ size) : start + totalLength length items ≤ size := by
  induction items generalizing start with
  | nil => exact begins
  | cons item rest ih =>
    rw [totalLength_cons, ← Nat.add_assoc]
    exact ih run.2 (each run.1)

end

theorem recordsAt_zero {α ε : Type} (read : Nat → Except ε α) (length : α → Nat) (offset : Nat) :
    recordsAt read length 0 offset = .ok ([], 0) := by
  change Except.ok ([], offset - offset) = _
  rw [Nat.sub_self]

theorem le_of_recordsFrom {α ε : Type} {read : Nat → Except ε α} {length : α → Nat}
    {count offset finish : Nat} {items : List α}
    (run : recordsFrom read (fun place item => place + length item) count offset =
      .ok (items, finish)) : offset ≤ finish := by
  induction count generalizing offset items with
  | zero =>
    cases run
    exact Nat.le_refl _
  | succ count ih =>
    obtain ⟨item, -, found⟩ := bind_eq_ok_iff.mp run
    obtain ⟨⟨rest, behind⟩, later, same⟩ := bind_eq_ok_iff.mp found
    obtain ⟨-, rfl⟩ := Prod.mk.inj (pure_eq_ok_iff.mp same)
    exact Nat.le_trans (Nat.le_add_right _ _) (ih later)

theorem recordsAt_succ {α ε : Type} (read : Nat → Except ε α) (length : α → Nat)
    (count offset : Nat) :
    recordsAt read length (count + 1) offset = do
      let item ← read offset
      let (items, total) ← recordsAt read length count (offset + length item)
      return (item :: items, length item + total) := by
  rw [recordsAt, recordsFrom]
  cases read offset with
  | error fault => rfl
  | ok item =>
    simp only [recordsAt, bind, Except.bind]
    cases run : recordsFrom read (fun place item => place + length item) count
        (offset + length item) with
    | error fault => rfl
    | ok result =>
      have forward := le_of_recordsFrom run
      have total : result.2 - offset =
          length item + (result.2 - (offset + length item)) := by omega
      simp only [pure, Except.pure, total]

theorem recordsAt_eq_ok_iff {α ε : Type} {read : Nat → Except ε α} {length : α → Nat}
    {count offset total : Nat} {items : List α} :
    recordsAt read length count offset = .ok (items, total) ↔
      items.length = count ∧ total = totalLength length items ∧
        Consecutive (fun place item => read place = .ok item) length offset items := by
  induction count generalizing offset items total with
  | zero =>
    rw [recordsAt_zero, Except.ok.injEq, Prod.mk.injEq]
    constructor
    · rintro ⟨rfl, rfl⟩
      exact ⟨rfl, rfl, trivial⟩
    · rintro ⟨empty, rfl, -⟩
      rw [List.eq_nil_of_length_eq_zero empty]
      exact ⟨rfl, rfl⟩
  | succ count ih =>
    rw [recordsAt_succ, bind_eq_ok_iff]
    constructor
    · rintro ⟨item, first, found⟩
      obtain ⟨⟨rest, behind⟩, run, same⟩ := bind_eq_ok_iff.mp found
      obtain ⟨rfl, rfl⟩ := Prod.mk.inj (pure_eq_ok_iff.mp same)
      obtain ⟨rfl, rfl, stands⟩ := ih.mp run
      exact ⟨rfl, rfl, first, stands⟩
    · rintro ⟨many, rfl, run⟩
      cases items with
      | nil => cases many
      | cons item rest =>
        refine ⟨item, run.1, bind_eq_ok_iff.mpr ⟨(rest, totalLength length rest), ?_, rfl⟩⟩
        exact ih.mpr ⟨Nat.succ.inj many, rfl, run.2⟩

/-- A run reads the record at an offset: those in front of it were read, and it begins right behind
them. -/
inductive Reaches {α ε : Type} (read : Nat → Except ε α) (length : α → Nat) :
    Nat → Nat → Nat → Prop
  | here (count offset : Nat) : Reaches read length (count + 1) offset offset
  | behind {count start offset : Nat} {item : α} (found : read start = .ok item)
      (later : Reaches read length count (start + length item) offset) :
      Reaches read length (count + 1) start offset

section

variable {α ε : Type} {read other : Nat → Except ε α} {length : α → Nat} {count start offset : Nat}

/-- What holds of the first place, and of the place behind every record, holds of each place that
is read. -/
theorem Reaches.inside (reached : Reaches read length count start offset) (inside : Nat → Prop)
    (next : ∀ place item, inside place → read place = .ok item → inside (place + length item))
    (first : inside start) : inside offset := by
  induction reached with
  | here count offset => exact first
  | behind found _ ih => exact ih (next _ _ first found)

/-- A run fails as a record does that it reads. -/
theorem recordsAt_eq_error_iff {fault : ε} :
    recordsAt read length count start = .error fault ↔
      ∃ offset, Reaches read length count start offset ∧ read offset = .error fault := by
  induction count generalizing start with
  | zero =>
    rw [recordsAt_zero]
    refine ⟨nofun, ?_⟩
    rintro ⟨offset, reached, -⟩
    cases reached
  | succ count ih =>
    rw [recordsAt_succ, bind_eq_error_iff]
    constructor
    · rintro (here | ⟨item, found, later⟩)
      · exact ⟨start, .here count start, here⟩
      · rcases bind_eq_error_iff.mp later with run | ⟨_, _, never⟩
        · obtain ⟨offset, reached, failed⟩ := ih.mp run
          exact ⟨offset, .behind found reached, failed⟩
        · cases never
    · rintro ⟨offset, reached, failed⟩
      cases reached with
      | here => exact Or.inl failed
      | @behind _ _ _ item found later =>
        have run := ih.mpr ⟨offset, later, failed⟩
        exact Or.inr ⟨item, found, bind_eq_error_iff.mpr (Or.inl run)⟩

theorem Reaches.failing (reached : Reaches read length count start offset) (fault : ε) :
    recordsAt (Function.update read offset (.error fault)) length count start = .error fault := by
  induction reached with
  | here count offset =>
    rw [recordsAt_succ, Function.update_self]
    rfl
  | @behind count start offset item found _ ih =>
    rw [recordsAt_succ]
    by_cases same : start = offset
    · rw [same, Function.update_self]
      rfl
    · rw [Function.update_of_ne same, found]
      dsimp only [bind, Except.bind]
      rw [ih]

/-- The records that a run does not read make no difference to it. -/
theorem recordsAt_congr
    (same : ∀ offset, Reaches read length count start offset → other offset = read offset) :
    recordsAt other length count start = recordsAt read length count start := by
  induction count generalizing start with
  | zero => rfl
  | succ count ih =>
    rw [recordsAt_succ, recordsAt_succ, same start (.here count start)]
    cases found : read start with
    | error fault => rfl
    | ok item =>
      dsimp only [bind, Except.bind]
      rw [ih fun offset later => same offset (.behind found later)]

end

namespace View

variable {α ε : Type} {view : View} {start : Nat} {stands : Array UInt8 → Nat → α → Prop}
  {read : View → Except ε α}

theorem records_eq_ok_iff (base : view.base = start)
    (each : ∀ {record : View} {place : Nat}, record.base = place →
      ∀ {item}, read record = .ok item ↔ stands record.data place item)
    {count : Nat} {length : α → Nat} {items : List α} {total : Nat} :
    view.records count length read = .ok (items, total) ↔
      items.length = count ∧ total = totalLength length items ∧
        Consecutive (stands view.data) length start items := by
  have places : ∀ place item, read (view.window (place : Nat)) = .ok item ↔
      stands view.data (start + place) item := by
    intro place item
    exact each (window_base_eq base place)
  rw [records, recordsAt_eq_ok_iff, Int.toNat_natCast, consecutive_congr places,
    consecutive_shift, Nat.add_zero]

theorem fixedRecords_eq_ok_iff (base : view.base = start)
    (each : ∀ {record : View} {place : Nat}, record.base = place →
      ∀ {item}, read record = .ok item ↔ stands record.data place item)
    {count width : Nat} {items : List α} {total : Int} :
    view.fixedRecords count width read = .ok (items, total) ↔
      items.length = count ∧ total = count * width ∧
        Consecutive (stands view.data) (fun _ => width) start items := by
  have places : ∀ place item, read (view.window ((place : Nat) * (width : Int))) = .ok item ↔
      stands view.data (start + place * width) item := by
    intro place item
    rw [← Int.natCast_mul]
    exact each (window_base_eq base (place * width))
  have run : ∀ {found : List α} {taken : Nat},
      recordsAt (fun index : Nat => read (view.window (index * (width : Int)))) (fun _ => 1) count 0
          = .ok (found, taken) ↔
        found.length = count ∧ taken = count ∧
          Consecutive (stands view.data) (fun _ => width) start found := by
    intro found taken
    rw [recordsAt_eq_ok_iff, consecutive_congr places, consecutive_indexed, Nat.zero_mul,
      Nat.add_zero, totalLength_const, Nat.one_mul]
    constructor
    · rintro ⟨many, rfl, stand⟩
      exact ⟨many, many, stand⟩
    · rintro ⟨many, rfl, stand⟩
      exact ⟨many, many.symm, stand⟩
  rw [fixedRecords, bind_eq_ok_iff, Int.toNat_natCast]
  constructor
  · rintro ⟨⟨found, taken⟩, first, same⟩
    obtain ⟨rfl, rfl⟩ := Prod.mk.inj (pure_eq_ok_iff.mp same)
    obtain ⟨many, -, stand⟩ := run.mp first
    exact ⟨many, rfl, stand⟩
  · rintro ⟨many, rfl, stand⟩
    exact ⟨(items, count), run.mpr ⟨many, rfl, stand⟩, rfl⟩

end View

end ClassOutline
