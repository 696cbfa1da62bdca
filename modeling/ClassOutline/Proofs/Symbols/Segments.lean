import Mathlib.Data.List.DropRight
import ClassOutline.Symbols.Table

set_option autoImplicit false

namespace ClassOutline

namespace Text

variable {mark : CodePoint} {front back : Text}

theorem takeWhile_reverse_append (last : mark ∉ back) :
    (front ++ mark :: back).reverse.takeWhile (· != mark) = back.reverse := by
  have behind : ∀ point ∈ back.reverse, (point != mark) = true := fun point listed =>
    bne_iff_ne.mpr (ne_of_mem_of_not_mem (List.mem_reverse.mp listed) last)
  rw [List.reverse_append, List.reverse_cons, List.append_assoc,
    List.takeWhile_append_of_pos behind, List.singleton_append,
    List.takeWhile_cons_of_neg (by simp), List.append_nil]

theorem dropWhile_reverse_append (last : mark ∉ back) :
    (front ++ mark :: back).reverse.dropWhile (· != mark) = mark :: front.reverse := by
  have behind : ∀ point ∈ back.reverse, (point != mark) = true := fun point listed =>
    bne_iff_ne.mpr (ne_of_mem_of_not_mem (List.mem_reverse.mp listed) last)
  rw [List.reverse_append, List.reverse_cons, List.append_assoc,
    List.dropWhile_append_of_pos behind, List.singleton_append,
    List.dropWhile_cons_of_neg (by simp)]

theorem afterLast_append (last : mark ∉ back) : afterLast mark (front ++ mark :: back) = back := by
  rw [afterLast, takeWhile_reverse_append last, List.reverse_reverse]

theorem beforeLast_append (last : mark ∉ back) :
    beforeLast mark (front ++ mark :: back) = front := by
  rw [beforeLast, dropWhile_reverse_append last, List.drop_succ_cons, List.drop_zero,
    List.reverse_reverse]

theorem afterLast_eq_self {text : Text} (unmarked : mark ∉ text) : afterLast mark text = text :=
  List.rtakeWhile_eq_self_iff.mpr fun _ listed =>
    bne_iff_ne.mpr (ne_of_mem_of_not_mem listed unmarked)

theorem not_mem_afterLast (text : Text) : mark ∉ afterLast mark text := by
  intro listed
  have differs := List.mem_rtakeWhile_imp listed
  simp at differs

theorem afterLast_subset (text : Text) : afterLast mark text ⊆ text :=
  (List.rtakeWhile_suffix _ text).subset

/-- A text with a mark is cut at the last one. -/
theorem exists_cut_at_last {text : Text} (marked : mark ∈ text) :
    ∃ front back, text = front ++ mark :: back ∧ mark ∉ back := by
  obtain ⟨back, front, same, last⟩ := List.eq_append_cons_of_mem (List.mem_reverse.mpr marked)
  refine ⟨front.reverse, back.reverse, ?_, fun listed => last (List.mem_reverse.mp listed)⟩
  rw [← List.reverse_reverse text, same, List.reverse_append, List.reverse_cons,
    List.append_assoc, List.singleton_append]

theorem not_mem_beforeFirst (text : Text) : mark ∉ beforeFirst mark text := by
  intro listed
  have differs := List.mem_takeWhile_imp listed
  simp at differs

theorem beforeFirst_eq_self {text : Text} (unmarked : mark ∉ text) :
    beforeFirst mark text = text :=
  List.takeWhile_eq_self_iff.mpr fun _ listed =>
    bne_iff_ne.mpr (ne_of_mem_of_not_mem listed unmarked)

theorem beforeFirst_subset (text : Text) : beforeFirst mark text ⊆ text :=
  (List.takeWhile_sublist _).subset

theorem beforeFirst_append (unmarked : mark ∉ front) :
    beforeFirst mark (front ++ back) = front ++ beforeFirst mark back :=
  List.takeWhile_append_of_pos fun _ listed =>
    bne_iff_ne.mpr (ne_of_mem_of_not_mem listed unmarked)

end Text

namespace Names

def lastSegment (name : Text) : Text :=
  Text.afterLast 0x2F name

/-- The outermost class of a class: its package with what stands before the first dollar of its last
segment. -/
def topLevel (name : Text) : Text :=
  let outer := Text.beforeFirst 0x24 (lastSegment name)
  if hasPackage name then package name ++ 0x2F :: outer else outer

variable {name : Text}

theorem hasPackage_iff : hasPackage name = true ↔ 0x2F ∈ name :=
  List.contains_iff_mem

theorem not_mem_lastSegment (name : Text) : 0x2F ∉ lastSegment name :=
  Text.not_mem_afterLast name

theorem lastSegment_eq_self (noPackage : ¬hasPackage name = true) : lastSegment name = name :=
  Text.afterLast_eq_self fun listed => noPackage (hasPackage_iff.mpr listed)

theorem package_append {front back : Text} (last : 0x2F ∉ back) :
    package (front ++ 0x2F :: back) = front :=
  Text.beforeLast_append last

theorem eq_package_append_lastSegment (packaged : hasPackage name = true) :
    name = package name ++ 0x2F :: lastSegment name := by
  obtain ⟨front, back, rfl, last⟩ := Text.exists_cut_at_last (hasPackage_iff.mp packaged)
  rw [package_append last, lastSegment, Text.afterLast_append last]

/-- Points become other ones only where they are a slash or a dollar. -/
theorem dot_mem_sourceName :
    0x2E ∈ sourceName name ↔ 0x2F ∈ name ∨ 0x24 ∈ name ∨ 0x2E ∈ name := by
  rw [sourceName, List.mem_map]
  constructor
  · rintro ⟨point, listed, same⟩
    split at same
    · rename_i marks
      rcases marks with rfl | rfl
      · exact Or.inl listed
      · exact Or.inr (Or.inl listed)
    · subst same
      exact Or.inr (Or.inr listed)
  · rintro (slash | dollar | dot)
    · exact ⟨0x2F, slash, rfl⟩
    · exact ⟨0x24, dollar, rfl⟩
    · exact ⟨0x2E, dot, rfl⟩

theorem simpleName_eq_sourceName (noPackage : ¬hasPackage name = true) :
    simpleName name = sourceName name := by
  show sourceName (lastSegment name) = sourceName name
  rw [lastSegment_eq_self noPackage]

/-- The source name of a class in a package is longer than its simple name. -/
theorem simpleName_ne_sourceName (packaged : hasPackage name = true) :
    simpleName name ≠ sourceName name := by
  intro same
  have lengths : (lastSegment name).length = name.length := by
    have equal := congrArg List.length same
    rwa [simpleName, sourceName, sourceName, List.length_map, List.length_map] at equal
  rw [eq_package_append_lastSegment packaged, lastSegment,
    Text.afterLast_append (not_mem_lastSegment name), List.length_append,
    List.length_cons] at lengths
  omega

theorem package_topLevel (packaged : hasPackage name = true) :
    package (topLevel name) = package name := by
  rw [topLevel, if_pos packaged]
  exact package_append fun listed =>
    not_mem_lastSegment name (Text.beforeFirst_subset _ listed)

theorem hasPackage_topLevel : hasPackage (topLevel name) = true ↔ hasPackage name = true := by
  rw [topLevel]
  constructor
  · intro packaged
    by_contra noPackage
    rw [if_neg noPackage, hasPackage_iff] at packaged
    exact not_mem_lastSegment name (Text.beforeFirst_subset _ packaged)
  · intro packaged
    rw [if_pos packaged, hasPackage_iff]
    exact List.mem_append_right _ List.mem_cons_self

theorem not_mem_outermost (name : Text) : 0x24 ∉ outermost name :=
  Text.not_mem_beforeFirst name

/-- Cut at its first dollar, a name is its outermost class unless its package has a dollar. -/
theorem outermost_eq_topLevel (plain : 0x24 ∉ package name) : outermost name = topLevel name := by
  rw [topLevel, outermost]
  by_cases packaged : hasPackage name = true
  · rw [if_pos packaged]
    conv_lhs => rw [eq_package_append_lastSegment packaged]
    have unmarked : 0x24 ∉ package name ++ [0x2F] := by
      rw [List.mem_append, not_or]
      exact ⟨plain, by decide⟩
    rw [← List.singleton_append, ← List.append_assoc, Text.beforeFirst_append unmarked,
      List.append_assoc, List.singleton_append]
  · rw [if_neg packaged, lastSegment_eq_self packaged]

theorem dollar_mem_topLevel (packaged : hasPackage name = true) (inPackage : 0x24 ∈ package name) :
    0x24 ∈ topLevel name := by
  rw [topLevel, if_pos packaged]
  exact List.mem_append_left _ inPackage

theorem topLevel_eq_self (plain : 0x24 ∉ name) : topLevel name = name := by
  have inSegment : lastSegment name ⊆ name := Text.afterLast_subset name
  rw [topLevel, Text.beforeFirst_eq_self fun listed => plain (inSegment listed)]
  by_cases packaged : hasPackage name = true
  · rw [if_pos packaged, ← eq_package_append_lastSegment packaged]
  · rw [if_neg packaged, lastSegment_eq_self packaged]

end Names

end ClassOutline
