import ClassOutline.Members.Descriptor

set_option autoImplicit false

namespace ClassOutline.Descriptor

variable {text parameters result : Text}

/-- The parameter types stand in front of the first closing bracket, the result type behind it. -/
theorem method_bracketed (unclosed : 0x29 ∉ parameters) :
    method (0x28 :: parameters ++ 0x29 :: result) =
      match types? parameters with
      | none => .error { fault := .fieldDescriptor parameters }
      | some parameters =>
        if result = [0x56] then .ok { parameters, result }
        else (field result).map fun result => { parameters, result } := by
  have inside : ∀ character ∈ parameters, (character != 0x29) = true := by
    intro character listed
    exact bne_iff_ne.mpr (ne_of_mem_of_not_mem listed unclosed)
  have closed : (parameters ++ 0x29 :: result).contains 0x29 = true :=
    List.contains_iff_mem.mpr (List.mem_append_right parameters List.mem_cons_self)
  have front : (parameters ++ 0x29 :: result).takeWhile (· != 0x29) = parameters := by
    rw [List.takeWhile_append_of_pos inside, List.takeWhile_cons_of_neg (by decide),
      List.append_nil]
  have behind : ((parameters ++ 0x29 :: result).dropWhile (· != 0x29)).drop 1 = result := by
    rw [List.dropWhile_append_of_pos inside, List.dropWhile_cons_of_neg (by decide)]
    rfl
  rw [List.cons_append, method, if_pos closed]
  cases split : types? parameters with
  | none => simp only [front, split]
  | some types => simp only [front, behind, split]

/-- A text has brackets to split it at, or is refused for having none. -/
theorem bracketed_or_method_eq_error (text : Text) :
    (∃ parameters result, text = 0x28 :: parameters ++ 0x29 :: result ∧ 0x29 ∉ parameters) ∨
      ((∀ parameters result, text ≠ 0x28 :: parameters ++ 0x29 :: result) ∧
        method text = .error { fault := .methodDescriptor text }) := by
  unfold method
  split
  · rename_i rest
    by_cases closed : 0x29 ∈ rest
    · left
      obtain ⟨parameters, result, same, unclosed⟩ := List.eq_append_cons_of_mem closed
      exact ⟨parameters, result, congrArg (0x28 :: ·) same, unclosed⟩
    · right
      constructor
      · intro parameters result same
        apply closed
        rw [List.cons_append] at same
        rw [List.tail_eq_of_cons_eq same]
        exact List.mem_append_right parameters List.mem_cons_self
      · rw [if_neg]
        rwa [List.contains_iff_mem]
  · rename_i unopened
    right
    constructor
    · intro parameters result same
      exact unopened _ same
    · rfl

end ClassOutline.Descriptor
