import Mathlib.Logic.Function.Basic
import ClassOutline.Decoding.Reach
import ClassOutline.Decoding.Records

set_option autoImplicit false

namespace ClassOutline

variable {ι α β γ : Type} [DecidableEq ι]

/-- A program consults its reader about a place: it fails with whatever error the reader gives
there. -/
def Consults (reader : ι → Decoded β) (program : (ι → Decoded β) → Decoded α) (place : ι) : Prop :=
  ∀ error, program (Function.update reader place (.error error)) = .error error

/-- A program, and what becomes of it when there is no room to read at some places. Its result holds
the answers of the reader to it, and some that were given before. -/
structure Bounded (reader : ι → Decoded β) (tooDeep : ι → Prop) (before : List β)
    (program : (ι → Decoded β) → Decoded α) (limited : Reached α) (held : α → List β) : Prop where
  ignores : ∀ place, ¬ Consults reader program place → ∀ answer,
    program (Function.update reader place answer) = program reader
  stops : ∀ place, Consults reader program place → tooDeep place →
    limited = .error (.beyond .depth)
  goesOn : (∀ place, Consults reader program place → ¬ tooDeep place) →
    limited = .ofDecoded (program reader)
  holds : ∀ result, program reader = .ok result → ∀ answer, answer ∈ held result ↔
    answer ∈ before ∨ ∃ place, Consults reader program place ∧ reader place = .ok answer

variable {reader : ι → Decoded β} {tooDeep : ι → Prop} {before : List β}

/-- What is always the same does not fail with every error. -/
theorem not_consults_of_eq {program : (ι → Decoded β) → Decoded α} {place : ι} {result : Decoded α}
    (same : ∀ error, program (Function.update reader place (.error error)) = result) :
    ¬ Consults reader program place := by
  intro consults
  have first := (same { fault := .truncated 0 }).symm.trans (consults _)
  have second := (same { fault := .truncated 1 }).symm.trans (consults _)
  cases first.symm.trans second

theorem Consults.exists_answer {program : (ι → Decoded β) → Decoded α} {place : ι} {result : α}
    (consults : Consults reader program place) (success : program reader = .ok result) :
    ∃ answer, reader place = .ok answer := by
  cases given : reader place with
  | ok answer => exact ⟨answer, rfl⟩
  | error error =>
    have failed := consults error
    rw [← given, Function.update_eq_self, success] at failed
    cases failed

namespace Bounded

section

variable {program : (ι → Decoded β) → Decoded γ} {rest : γ → (ι → Decoded β) → Decoded α}
  {limited : Reached γ} {limitedRest : γ → Reached α} {heldFirst : γ → List β}
  {held : α → List β}

theorem consults_bind_iff (first : Bounded reader tooDeep before program limited heldFirst)
    {place : ι} :
    Consults reader (fun other => program other >>= fun value => rest value other) place ↔
      Consults reader program place ∨
        ∃ value, program reader = .ok value ∧ Consults reader (rest value) place := by
  constructor
  · intro consults
    by_cases here : Consults reader program place
    · exact Or.inl here
    · have same := first.ignores place here
      cases found : program reader with
      | error error =>
        have stuck (other : DecodeError) :
            (program (Function.update reader place (.error other)) >>= fun value =>
              rest value (Function.update reader place (.error other))) = .error error := by
          rw [same, found]
          rfl
        exact absurd consults (not_consults_of_eq stuck)
      | ok value =>
        refine Or.inr ⟨value, rfl, fun error => ?_⟩
        have failed := consults error
        simp only [same, found] at failed
        exact failed
  · rintro (here | ⟨value, found, later⟩) error
    · simp only [here error]
      rfl
    · by_cases here : Consults reader program place
      · simp only [here error]
        rfl
      · simp only [first.ignores place here, found]
        exact later error

theorem bind (first : Bounded reader tooDeep before program limited heldFirst)
    (later : ∀ value, program reader = .ok value →
      Bounded reader tooDeep (heldFirst value) (rest value) (limitedRest value) held) :
    Bounded reader tooDeep before (fun other => program other >>= fun value => rest value other)
      (limited >>= limitedRest) held where
  ignores := by
    intro place unread answer
    rw [consults_bind_iff first, not_or] at unread
    obtain ⟨here, there⟩ := unread
    simp only [first.ignores place here]
    cases found : program reader with
    | error error => rfl
    | ok value =>
      exact (later value found).ignores place (fun read => there ⟨value, found, read⟩) answer
  stops := by
    intro place consults deep
    by_cases early : ∃ other, Consults reader program other ∧ tooDeep other
    · obtain ⟨other, here, exceeds⟩ := early
      rw [first.stops other here exceeds]
      rfl
    · have fits := first.goesOn fun other here exceeds => early ⟨other, here, exceeds⟩
      rcases (consults_bind_iff first).mp consults with here | ⟨value, found, there⟩
      · exact absurd ⟨place, here, deep⟩ early
      · rw [fits, found]
        exact (later value found).stops place there deep
  goesOn := by
    intro fits
    have fitsFirst := first.goesOn fun place here =>
      fits place ((consults_bind_iff first).mpr (Or.inl here))
    rw [fitsFirst]
    cases found : program reader with
    | error error => rfl
    | ok value =>
      exact (later value found).goesOn fun place there =>
        fits place ((consults_bind_iff first).mpr (Or.inr ⟨value, found, there⟩))
  holds := by
    intro result success answer
    cases found : program reader with
    | error error =>
      simp only [found] at success
      cases success
    | ok value =>
      simp only [found] at success
      rw [(later value found).holds result success, first.holds value found, or_assoc]
      apply or_congr_right
      constructor
      · rintro (⟨place, here, given⟩ | ⟨place, there, given⟩)
        · exact ⟨place, (consults_bind_iff first).mpr (Or.inl here), given⟩
        · exact ⟨place, (consults_bind_iff first).mpr (Or.inr ⟨value, found, there⟩), given⟩
      · rintro ⟨place, consults, given⟩
        rcases (consults_bind_iff first).mp consults with here | ⟨other, same, there⟩
        · exact Or.inl ⟨place, here, given⟩
        · cases found.symm.trans same
          exact Or.inr ⟨place, there, given⟩

end

theorem lift {result : Decoded α} {held : α → List β}
    (holds : ∀ value, result = .ok value → held value = before) :
    Bounded reader tooDeep before (fun _ => result) (.ofDecoded result) held where
  ignores := fun _ _ _ => rfl
  stops := fun _ consults => absurd consults (not_consults_of_eq fun _ => rfl)
  goesOn := fun _ => rfl
  holds := by
    intro value success answer
    rw [holds value success]
    refine ⟨Or.inl, fun known => known.elim id ?_⟩
    rintro ⟨place, consults, -⟩
    exact absurd consults (not_consults_of_eq fun _ => rfl)

theorem pure {value : α} {held : α → List β} (holds : held value = before) :
    Bounded reader tooDeep before (fun _ => Pure.pure value) (Pure.pure value) held := by
  have given (other : α) (same : (.ok value : Decoded α) = .ok other) : held other = before := by
    cases same
    exact holds
  exact lift given

theorem fail {error : DecodeError} {held : α → List β} :
    Bounded reader tooDeep before (fun _ => .error error) (.ofDecoded (.error error)) held := by
  have nothing (value : α) (success : (.error error : Decoded α) = .ok value) :
      held value = before := by
    cases success
  exact lift nothing

theorem lift_bind {result : Decoded γ} {rest : γ → (ι → Decoded β) → Decoded α}
    {limitedRest : γ → Reached α} {held : α → List β}
    (later : ∀ value, result = .ok value →
      Bounded reader tooDeep before (rest value) (limitedRest value) held) :
    Bounded reader tooDeep before (fun other => result >>= fun value => rest value other)
      (.ofDecoded result >>= limitedRest) held := by
  have first :
      Bounded reader tooDeep before (fun _ => result) (.ofDecoded result) fun _ => before :=
    lift fun _ _ => rfl
  exact first.bind later

/-- What a reader with limited room answers. -/
structure Room (reader : ι → Decoded β) (tooDeep : ι → Prop) (limited : ι → Reached β) : Prop where
  stops : ∀ place, tooDeep place → limited place = .error (.beyond .depth)
  goesOn : ∀ place, ¬ tooDeep place → limited place = .ofDecoded (reader place)

theorem ask {limited : ι → Reached β} (room : Room reader tooDeep limited) (place : ι) :
    Bounded reader tooDeep before (fun other => other place) (limited place)
      fun answer => before ++ [answer] := by
  have consults_iff {other : ι} : Consults reader (fun reads => reads place) other ↔
      other = place := by
    constructor
    · intro consults
      by_contra apart
      have same (error : DecodeError) :
          Function.update reader other (.error error) place = reader place :=
        Function.update_of_ne (Ne.symm apart) _ _
      exact not_consults_of_eq same consults
    · rintro rfl error
      exact Function.update_self ..
  refine ⟨?_, ?_, ?_, ?_⟩
  · intro other unread answer
    exact Function.update_of_ne (fun same => unread (consults_iff.mpr same.symm)) _ _
  · intro other consults deep
    obtain rfl := consults_iff.mp consults
    exact room.stops _ deep
  · intro fits
    exact room.goesOn place (fits place (consults_iff.mpr rfl))
  · intro result success answer
    simp only [List.mem_append, List.mem_singleton, consults_iff, exists_eq_left]
    rw [show reader place = .ok result from success, Except.ok.injEq, eq_comm]

section

variable {π : Type} {item : π → (ι → Decoded β) → Decoded γ} {limitedItem : π → Reached γ}
  {heldItem : γ → List β}
  (each : ∀ place before, Bounded reader tooDeep before (item place) (limitedItem place)
    fun value => before ++ heldItem value)

include each

theorem recordsFrom (next : π → γ → π) (count : Nat) (place : π) (before : List β) :
    Bounded reader tooDeep before
      (fun other => ClassOutline.recordsFrom (fun place => item place other) next count place)
      (ClassOutline.recordsFrom limitedItem next count place)
      fun result => before ++ result.1.flatMap heldItem := by
  induction count generalizing place before with
  | zero => exact Bounded.pure (List.append_nil before)
  | succ count ih =>
    refine (each place before).bind fun value _ => ?_
    refine (ih (next place value) (before ++ heldItem value)).bind fun result _ => ?_
    refine Bounded.pure ?_
    rw [List.flatMap_cons, List.append_assoc]

end

theorem recordsAt {item : Nat → (ι → Decoded β) → Decoded γ} {limitedItem : Nat → Reached γ}
    {heldItem : γ → List β}
    (each : ∀ place before, Bounded reader tooDeep before (item place) (limitedItem place)
      fun value => before ++ heldItem value) (length : γ → Nat) (count start : Nat) :
    Bounded reader tooDeep before
      (fun other => ClassOutline.recordsAt (fun place => item place other) length count start)
      (ClassOutline.recordsAt limitedItem length count start)
      fun result => before ++ result.1.flatMap heldItem :=
  (recordsFrom each _ count start before).bind fun _ _ => Bounded.pure rfl

theorem answers {limited : ι → Reached β} (room : Room reader tooDeep limited) (place : Nat → ι)
    (length : β → Nat) (count start : Nat) :
    Bounded reader tooDeep before
      (fun other => ClassOutline.recordsAt (fun offset => other (place offset)) length count start)
      (ClassOutline.recordsAt (fun offset => limited (place offset)) length count start)
      fun result => before ++ result.1 := by
  have run : Bounded reader tooDeep before _ _ fun result : List β × Nat =>
      before ++ result.1.flatMap ([·]) :=
    recordsAt (fun offset _ => ask room (place offset)) length count start
  simp only [List.flatMap_singleton'] at run
  exact run

theorem records {item : View → (ι → Decoded β) → Decoded γ} {limitedItem : View → Reached γ}
    {heldItem : γ → List β}
    (each : ∀ view before, Bounded reader tooDeep before (item view) (limitedItem view)
      fun value => before ++ heldItem value) (view : View) (count : Int) (length : γ → Nat) :
    Bounded reader tooDeep before
      (fun other => view.records count length fun place => item place other)
      (view.records count length limitedItem)
      fun result => before ++ result.1.flatMap heldItem :=
  recordsAt (fun offset => each (view.window offset)) length count.toNat 0

end Bounded

end ClassOutline
