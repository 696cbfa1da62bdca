import ClassOutline.Decoding.Error

set_option autoImplicit false

namespace ClassOutline

variable {ε σ α β : Type}

theorem run_bind (first : ExceptT ε (StateM σ) α) (rest : α → ExceptT ε (StateM σ) β) (state : σ) :
    (first >>= rest).run state =
      match first.run state with
      | (.ok value, next) => (rest value).run next
      | (.error fault, next) => (.error fault, next) := by
  change (match first.run state with
    | (result, next) => ExceptT.bindCont rest result next) = _
  rcases first.run state with ⟨_ | _, next⟩ <;> rfl

theorem run_get_bind (rest : σ → ExceptT ε (StateM σ) β) (state : σ) :
    (get >>= rest).run state = (rest state).run state := rfl

theorem run_bind_of_ok {first : ExceptT ε (StateM σ) α} {state next : σ} {value : α}
    (success : first.run state = (.ok value, next)) (rest : α → ExceptT ε (StateM σ) β) :
    (first >>= rest).run state = (rest value).run next := by
  rw [run_bind, success]

theorem run_bind_of_error {first : ExceptT ε (StateM σ) α} {state next : σ} {fault : ε}
    (failure : first.run state = (.error fault, next)) (rest : α → ExceptT ε (StateM σ) β) :
    (first >>= rest).run state = (.error fault, next) := by
  rw [run_bind, failure]

theorem run_bind_eq_ok_iff {first : ExceptT ε (StateM σ) α} {rest : α → ExceptT ε (StateM σ) β}
    {before after : σ} {result : β} :
    (first >>= rest).run before = (.ok result, after) ↔
      ∃ value between, first.run before = (.ok value, between) ∧
        (rest value).run between = (.ok result, after) := by
  constructor
  · intro success
    rw [run_bind] at success
    split at success
    · rename_i value between here
      exact ⟨value, between, here, success⟩
    · cases success
  · intro ⟨value, between, here, later⟩
    rw [run_bind_of_ok here, later]

theorem run_bind_eq_error_iff {first : ExceptT ε (StateM σ) α}
    {rest : α → ExceptT ε (StateM σ) β} {before after : σ} {fault : ε} :
    (first >>= rest).run before = (.error fault, after) ↔
      first.run before = (.error fault, after) ∨
        ∃ value between, first.run before = (.ok value, between) ∧
          (rest value).run between = (.error fault, after) := by
  constructor
  · intro failure
    rw [run_bind] at failure
    split at failure
    · rename_i value between here
      exact Or.inr ⟨value, between, here, failure⟩
    · rename_i here
      cases failure
      exact Or.inl here
  · intro failure
    cases failure with
    | inl here => rw [run_bind_of_error here]
    | inr there =>
      obtain ⟨value, between, here, later⟩ := there
      rw [run_bind_of_ok here, later]

end ClassOutline
