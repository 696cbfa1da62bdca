import ClassOutline.Proofs.Pool.Records

set_option autoImplicit false

namespace ClassOutline

theorem Kind.slots_le (kind : Kind) : kind.slots ≤ 2 := by
  cases kind <;> decide

namespace ConstantPool

/-- A constant has a second slot outside the declared ones, which are those below `count`. -/
def Overhangs (pool : ConstantPool) (count : Int) : Prop :=
  ∃ index entry, pool.entry index = .ok entry ∧ entry.kind.slots = 2 ∧ count ≤ index + 1

section

variable {pool : ConstantPool} {count : Int} {constants : List Entry}

/-- The last constant begins in a declared slot, so only a wide one in the last of these leaves a
slot more. -/
theorem WellFormed.ends (formed : WellFormed count constants) (positive : 1 ≤ count) :
    (slotOf constants constants.length : Int) = count ∨
      (slotOf constants constants.length : Int) = count + 1 ∧
        ∃ place entry, constants[place]? = some entry ∧ entry.kind.slots = 2 ∧
          (slotOf constants place : Int) = count - 1 := by
  have full := formed.full
  cases number : constants.length with
  | zero =>
    rw [number, slotOf_zero] at full
    rw [slotOf_zero]
    exact Or.inl (by omega)
  | succ last =>
    have inside : last < constants.length := by omega
    have present := List.getElem?_eq_getElem inside
    have next := slotOf_succ present
    have room := formed.room last inside
    have few := constants[last].kind.slots_le
    rw [number] at full
    by_cases level : (slotOf constants (last + 1) : Int) = count
    · exact Or.inl level
    · exact Or.inr ⟨by omega, last, constants[last], present, by omega, by omega⟩

/-- A wide constant begins in a declared slot and has both its slots in the table. -/
theorem WellFormed.bounds (formed : WellFormed count constants) {place : Nat} {entry : Entry}
    (present : constants[place]? = some entry) (wide : entry.kind.slots = 2) :
    (slotOf constants place : Int) < count ∧
      slotOf constants place + 2 ≤ slotOf constants constants.length := by
  have inside := (List.getElem?_eq_some_iff.mp present).1
  have before := slotOf_add_le present inside (Nat.le_refl _)
  rw [wide] at before
  exact ⟨formed.room place inside, before⟩

theorem overhangs_iff (filled : pool.entries = #[none] ++ table constants)
    (formed : WellFormed count constants) (positive : 1 ≤ count) :
    pool.Overhangs count ↔ (slotOf constants constants.length : Int) = count + 1 := by
  have ends := formed.ends positive
  constructor
  · rintro ⟨index, entry, found, wide, outside⟩
    obtain ⟨place, present, rfl⟩ := (entry?_eq_some_iff filled).mp (entry_eq_ok_iff.mp found)
    obtain ⟨begins, finishes⟩ := formed.bounds present wide
    omega
  · intro longer
    rcases ends with level | ⟨-, place, entry, present, wide, last⟩
    · omega
    · have found := (entry?_eq_some_iff filled).mpr ⟨place, present, rfl⟩
      exact ⟨_, entry, entry_eq_ok_iff.mpr found, wide, by omega⟩

end

/-- A pool that was read has the declared size unless a constant has its second slot outside the
declared ones. One such constant at most is there, in the last declared slot, and it makes the pool
one slot longer. -/
theorem size_eq_iff {view : View} {count : Int} {pool : ConstantPool} (positive : 1 ≤ count)
    (found : read view count = .ok pool) :
    ((pool.size : Int) = count - 1 ↔ ¬ pool.Overhangs count) ∧
      ((pool.size : Int) = count ↔ pool.Overhangs count) ∧
      ∀ index entry, pool.entry index = .ok entry → entry.kind.slots = 2 → count ≤ index + 1 →
        index = count - 1 := by
  obtain ⟨constants, fills, filled, named⟩ := exists_table_of_read found
  rw [filled] at named
  have formed := wellFormed_iff.mpr ⟨fills, named⟩
  have ends := formed.ends positive
  have size : (pool.size : Int) = slotOf constants constants.length - 1 := by
    have begins := slotOf_pos constants constants.length
    rw [ConstantPool.size, filled, ← slotOf_length]
    omega
  rw [overhangs_iff filled formed positive, size]
  refine ⟨by omega, by omega, fun index entry there wide outside => ?_⟩
  obtain ⟨place, present, rfl⟩ := (entry?_eq_some_iff filled).mp (entry_eq_ok_iff.mp there)
  have begins := (formed.bounds present wide).1
  omega

def longRecord : Array UInt8 := #[5, 0, 0, 0, 0, 0, 0, 0, 7]

def longPool : ConstantPool where
  entries := #[none, some (.long 7), none]
  rawLength := 9

theorem read_longRecord_two : read { data := longRecord } 2 = .ok longPool :=
  eq_ok_of_toOption (by decide +kernel)

/-- The number has room in a pool of three slots, slot zero included. In one of two slots the same
pool is one too long, and the number overhangs. -/
theorem size_eq_iff_long :
    read { data := longRecord } 3 = .ok longPool ∧ ¬ longPool.Overhangs 3 ∧
      read { data := longRecord } 2 = .ok longPool ∧ longPool.Overhangs 2 := by
  have roomy : read { data := longRecord } 3 = .ok longPool :=
    eq_ok_of_toOption (by decide +kernel)
  have fits := (size_eq_iff (by decide) roomy).1.mp rfl
  have overhangs := (size_eq_iff (by decide) read_longRecord_two).2.1.mp rfl
  exact ⟨roomy, fits, read_longRecord_two, overhangs⟩

/-- A long number in the only declared slot is accepted, and the pool has two. -/
theorem not_forall_size_eq :
    ¬ ∀ (data : Array UInt8) (count : Int) (pool : ConstantPool), 1 ≤ count →
      read { data } count = .ok pool → (pool.size : Int) = count - 1 := by
  intro declared
  have size := declared longRecord 2 longPool (by decide) read_longRecord_two
  exact absurd size (by decide)

end ConstantPool

end ClassOutline
