import ClassOutline.Proofs.Decoding.Numbers
import ClassOutline.Decoding.Records
import ClassOutline.Proofs.Effects.Steps

set_option autoImplicit false

namespace ClassOutline

open MonadAttach (CanReturn)

section

variable {m : Type → Type} [Monad m] [LawfulMonad m] {α β π ρ : Type}

section

variable [MonadAttach m] [WeaklyLawfulMonadAttach m]

/-- What comes after a step only matters for the values that the step can have. -/
theorem bind_congr_of_canReturn {first : m α} {rest other : α → m β}
    (same : ∀ value, CanReturn first value → rest value = other value) :
    first >>= rest = first >>= other := by
  rw [← WeaklyLawfulMonadAttach.attach_bind_val (f := rest),
    ← WeaklyLawfulMonadAttach.attach_bind_val (f := other)]
  apply bind_congr
  intro value
  exact same value.val value.property

/-- Two runs are alike if they read the same at places that correspond, and the records there lead
to places that correspond. -/
theorem recordsFrom_convert {read : π → m α} {next : π → α → π} {other : ρ → m α}
    {otherNext : ρ → α → ρ} (convert : π → ρ)
    (same : ∀ place, other (convert place) = read place)
    (leads : ∀ place item, CanReturn (read place) item →
      otherNext (convert place) item = convert (next place item)) (count : Nat) (place : π) :
    recordsFrom other otherNext count (convert place) =
      (fun run => (run.1, convert run.2)) <$> recordsFrom read next count place := by
  induction count generalizing place with
  | zero => simp only [recordsFrom, map_pure]
  | succ count ih =>
    simp only [recordsFrom, same, map_bind, map_pure]
    apply bind_congr_of_canReturn
    intro item possible
    rw [leads place item possible, ih, bind_map_left]

end

theorem recordsFrom_indices (read : Nat → m α) (count start : Nat) :
    recordsFrom read (fun index _ => index + 1) count start =
      (fun items => (items, start + count)) <$> (List.range' start count).mapM read := by
  induction count generalizing start with
  | zero => simp [recordsFrom]
  | succ count ih =>
    have finish : start + 1 + count = start + (count + 1) := by omega
    simp [recordsFrom, ih, List.range'_succ, finish]

end

/-- A run fails as a record does, the first one that fails: the run of those in front of it ends
where it begins. -/
theorem run_recordsFrom_eq_error_iff {ε σ α π : Type} {read : π → ExceptT ε (StateM σ) α}
    {next : π → α → π} {count : Nat} {place : π} {before after : σ} {fault : ε} :
    (recordsFrom read next count place).run before = (.error fault, after) ↔
      ∃ index < count, ∃ items here between,
        (recordsFrom read next index place).run before = (.ok (items, here), between) ∧
          (read here).run between = (.error fault, after) := by
  -- On the records that are left, at whatever place and in whatever state those before them end.
  induction count generalizing place before with
  | zero =>
    constructor
    · intro never
      cases never
    · intro ⟨index, never, _⟩
      omega
  | succ count ih =>
    rw [recordsFrom, run_bind_eq_error_iff]
    constructor
    · intro failed
      cases failed with
      | inl here => exact ⟨0, by omega, [], place, before, rfl, here⟩
      | inr there =>
        obtain ⟨item, state, first, later⟩ := there
        cases run_bind_eq_error_iff.mp later with
        | inl rest =>
          obtain ⟨index, inside, items, here, between, made, failed⟩ := ih.mp rest
          refine ⟨index + 1, by omega, item :: items, here, between, ?_, failed⟩
          rw [recordsFrom, run_bind_of_ok first, run_bind_of_ok made]
          rfl
        | inr never =>
          obtain ⟨_, _, _, absurdity⟩ := never
          cases absurdity
    · intro ⟨index, inside, items, here, between, made, failed⟩
      cases index with
      | zero =>
        cases made
        exact Or.inl failed
      | succ index =>
        obtain ⟨item, state, first, later⟩ := run_bind_eq_ok_iff.mp made
        obtain ⟨⟨others, finish⟩, _, rest, whole⟩ := run_bind_eq_ok_iff.mp later
        cases whole
        have behind := ih.mpr ⟨index, by omega, others, here, between, rest, failed⟩
        exact Or.inr ⟨item, state, first, run_bind_eq_error_iff.mpr (Or.inl behind)⟩

namespace View

section

variable {m : Type → Type} [Monad m] {α : Type}

/-- Lengths without a sign are a special case of those with one. -/
theorem map_records [LawfulMonad m] (view : View) (count : Int) (length : α → Nat)
    (read : View → m α) :
    (fun run => (run.1, (run.2 : Int))) <$> view.records count length read =
      view.signedRecords count (fun item => length item) read := by
  -- Every item leads on alike, so it makes no difference which ones the reader can give.
  let _ : MonadAttach m := MonadAttach.trivial
  have run : recordsFrom (fun offset : Int => read (view.window offset))
      (fun offset item => offset + (length item : Int)) count.toNat (0 : Nat) =
        (fun run => (run.1, (run.2 : Int))) <$> recordsFrom
          (fun offset : Nat => read (view.window offset))
          (fun offset item => offset + length item) count.toNat 0 :=
    recordsFrom_convert (fun offset : Nat => (offset : Int)) (fun _ => rfl) (fun _ _ _ => rfl) _ _
  rw [signedRecords, ← Int.natCast_zero, run]
  simp [records, recordsAt]

theorem fixedRecords_eq_mapM [LawfulMonad m] (view : View) (count width : Int)
    (read : View → m α) :
    view.fixedRecords count width read =
      (fun items => (items, count * width)) <$> (List.range count.toNat).mapM
        fun index : Nat => read (view.window (index * width)) := by
  simp [fixedRecords, recordsAt, recordsFrom_indices, List.range_eq_range']

/-- The place that the lengths lead to is the product of index and width. -/
theorem fixedRecords_eq_signedRecords [LawfulMonad m] [MonadAttach m] [WeaklyLawfulMonadAttach m]
    {view : View} {count width : Int} {length : α → Int} {read : View → m α}
    (reports : ∀ (index : Nat) item, CanReturn (read (view.window (index * width))) item →
      length item = width) (natural : 0 ≤ count) :
    view.fixedRecords count width read = view.signedRecords count length read := by
  have leads : ∀ (index : Nat) item, CanReturn (read (view.window (index * width))) item →
      index * width + length item = (index + 1 : Nat) * width := by
    intro index item possible
    rw [reports index item possible, Int.natCast_succ, Int.add_mul, Int.one_mul]
  have run : recordsFrom (fun offset : Int => read (view.window offset))
      (fun offset item => offset + length item) count.toNat ((0 : Nat) * width) =
        (fun run => (run.1, (run.2 : Int) * width)) <$> recordsFrom
          (fun index : Nat => read (view.window (index * width))) (fun index _ => index + 1)
          count.toNat 0 :=
    recordsFrom_convert (fun index : Nat => (index : Int) * width) (fun _ => rfl) leads _ _
  have finish : (count.toNat : Int) = count := Int.toNat_of_nonneg natural
  rw [Int.natCast_zero, Int.zero_mul, recordsFrom_indices] at run
  rw [fixedRecords_eq_mapM, signedRecords, run, List.range_eq_range']
  simp [finish]

theorem fixedRecords_of_neg [LawfulMonad m] (view : View) {count : Int} (negative : count < 0)
    (width : Int) (read : View → m α) :
    view.fixedRecords count width read = pure ([], count * width) := by
  have none : count.toNat = 0 := by omega
  simp [fixedRecords_eq_mapM, none]

theorem signedRecords_of_neg (view : View) {count : Int} (negative : count < 0)
    (length : α → Int) (read : View → m α) :
    view.signedRecords count length read = pure ([], 0) := by
  have none : count.toNat = 0 := by omega
  simp [signedRecords, recordsFrom, none]

end

section

variable {ε σ α : Type}

/-- A run of records fails with the one at an index. It makes those in front of it, and fails as the
reader does behind them. -/
def FailsAt (view : View) (read : View → ExceptT ε (StateM σ) α)
    (run : Int → ExceptT ε (StateM σ) (List α × Int)) (index : Nat) (before : σ) (fault : ε)
    (after : σ) : Prop :=
  ∃ items total between, (run index).run before = (.ok (items, total), between) ∧
    (read (view.window total)).run between = (.error fault, after)

theorem signedRecords_eq_error_iff {view : View} {count : Int} {length : α → Int}
    {read : View → ExceptT ε (StateM σ) α} {before after : σ} {fault : ε} :
    (view.signedRecords count length read).run before = (.error fault, after) ↔
      ∃ index : Nat, (index : Int) < count ∧
        view.FailsAt read (view.signedRecords · length read) index before fault after := by
  rw [signedRecords, run_recordsFrom_eq_error_iff]
  apply exists_congr
  intro index
  have inside : index < count.toNat ↔ (index : Int) < count := by omega
  rw [inside]
  rfl

/-- A number of records that is not negative: those found by index are the ones that are found by
their lengths, with the same total and the same effects on whatever state the reader keeps, and they
are those at the multiples of the width, in their order. If one of them fails, both runs fail with
it. For a negative number no record is read, and only the totals differ. -/
theorem fixedRecords_agrees (view : View) (count width : Int) {length : α → Int}
    {read : View → ExceptT ε (StateM σ) α}
    (reports : ∀ (index : Nat) before item after,
      (read (view.window (index * width))).run before = (.ok item, after) → length item = width) :
    let fixed (number : Int) := view.fixedRecords number width read
    let signed (number : Int) := view.signedRecords number length read
    (0 ≤ count → fixed count = signed count ∧
      fixed count = (fun items => (items, count * width)) <$> (List.range count.toNat).mapM
        fun index : Nat => read (view.window (index * width))) ∧
    (count < 0 → fixed count = pure ([], count * width) ∧ signed count = pure ([], 0)) ∧
    ∀ before fault after,
      ((fixed count).run before = (.error fault, after) ↔
        (signed count).run before = (.error fault, after)) ∧
      ((fixed count).run before = (.error fault, after) ↔
        ∃ index : Nat, (index : Int) < count ∧
          view.FailsAt read fixed index before fault after ∧
          view.FailsAt read signed index before fault after) := by
  intro fixed signed
  have agree : ∀ number : Int, 0 ≤ number → fixed number = signed number := by
    intro number natural
    apply fixedRecords_eq_signedRecords _ natural
    intro index item ⟨before, after, made⟩
    exact reports index before item after made
  have nothing : count < 0 →
      fixed count = pure ([], count * width) ∧ signed count = pure ([], 0) := fun negative =>
    ⟨fixedRecords_of_neg view negative width read, signedRecords_of_neg view negative length read⟩
  refine ⟨fun natural => ⟨agree count natural, fixedRecords_eq_mapM view count width read⟩,
    nothing, ?_⟩
  intro before fault after
  have failing : ∀ index : Nat, view.FailsAt read fixed index before fault after ↔
      view.FailsAt read signed index before fault after := by
    intro index
    simp only [FailsAt, agree index (Int.natCast_nonneg index)]
  have same : (fixed count).run before = (.error fault, after) ↔
      (signed count).run before = (.error fault, after) := by
    by_cases negative : count < 0
    · rw [(nothing negative).1, (nothing negative).2]
      constructor <;> intro never <;> cases never
    · rw [agree count (by omega)]
  refine ⟨same, same.trans ?_⟩
  simp only [failing, and_self]
  exact signedRecords_eq_error_iff

/-- Reads two bytes and counts the records that it is asked for. -/
def countedPair (record : View) : ExceptT DecodeError (StateM Nat) (Array UInt8) :=
  ExceptT.mk fun calls => (record.raw 0 2, calls + 1)

theorem size_of_countedPair {data bytes : Array UInt8} {index before after : Nat}
    (made : (countedPair (window { data } (index * 2))).run before = (.ok bytes, after)) :
    (bytes.size : Int) = 2 := by
  have base : (window { data } (index * 2)).base = (index * 2 : Nat) := by simp
  have read : (window { data } (index * 2)).raw (0 : Nat) (2 : Nat) = .ok bytes :=
    congrArg Prod.fst made
  obtain ⟨inside, rfl⟩ := (raw_eq_ok_iff base 0).mp read
  simp only [window_data] at inside ⊢
  rw [Array.size_extract]
  omega

/-- Of five bytes, two pairs are made and the third one fails. -/
theorem fixedRecords_agrees_pairs :
    let view : View := { data := #[1, 2, 3, 4, 5] }
    let size (bytes : Array UInt8) : Int := bytes.size
    (view.signedRecords 2 size countedPair).run 0 = (.ok ([#[1, 2], #[3, 4]], 4), 2) ∧
      view.fixedRecords 2 2 countedPair = view.signedRecords 2 size countedPair ∧
      (view.fixedRecords 3 2 countedPair).run 0 = (.error (view.truncated 4 2), 3) ∧
      (view.signedRecords 3 size countedPair).run 0 = (.error (view.truncated 4 2), 3) ∧
      ∃ index : Nat, (index : Int) < 3 ∧
        view.FailsAt countedPair (view.fixedRecords · 2 countedPair) index 0
          (view.truncated 4 2) 3 ∧
        view.FailsAt countedPair (view.signedRecords · size countedPair) index 0
          (view.truncated 4 2) 3 := by
  intro view size
  have reports : ∀ (index : Nat) before item after,
      (countedPair (view.window (index * 2))).run before = (.ok item, after) → size item = 2 :=
    fun index before item after => size_of_countedPair
  have pairs : (view.signedRecords 2 size countedPair).run 0 = (.ok ([#[1, 2], #[3, 4]], 4), 2) :=
    Prod.ext (by decide +kernel) (by decide +kernel)
  have third : (view.fixedRecords 3 2 countedPair).run 0 = (.error (view.truncated 4 2), 3) :=
    Prod.ext (by decide +kernel) (by decide +kernel)
  have failing := (fixedRecords_agrees view 3 2 reports).2.2 0 (view.truncated 4 2) 3
  exact ⟨pairs, ((fixedRecords_agrees view 2 2 reports).1 (by decide)).1, third,
    failing.1.mp third, failing.2.mp third⟩

/-- One record less than none, of two bytes each: nothing is read, but the total of the records
found by index is two bytes less than nothing. -/
theorem not_forall_fixedRecords_eq :
    ¬ ∀ (view : View) (count width : Int) (length : Array UInt8 → Int)
      (read : View → ExceptT DecodeError (StateM Nat) (Array UInt8)),
      (∀ record before item after,
        (read record).run before = (.ok item, after) → length item = width) →
      view.fixedRecords count width read = view.signedRecords count length read := by
  intro agree
  have same := agree { data := #[1, 2] } (-1) 2 (fun _ => 2) countedPair fun _ _ _ _ _ => rfl
  have total := congrArg (fun run => (run.run 0).1.toOption.map Prod.snd) same
  exact absurd total (by decide)

end

end View

end ClassOutline
