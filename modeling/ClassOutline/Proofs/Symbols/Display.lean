import ClassOutline.Proofs.Symbols.Segments
import ClassOutline.Proofs.Symbols.Shortening

set_option autoImplicit false

namespace ClassOutline

namespace Names

/-- Two names that are written alike: in full if the simple names of both are shared, or one in full
and the other short. -/
def Collide (classes : List Text) (first second : Text) : Prop :=
  (Shared classes (simpleName first) ∧ Shared classes (simpleName second) ∧
    sourceName first = sourceName second) ∨
  (¬Shared classes (simpleName first) ∧ Shared classes (simpleName second) ∧
    simpleName first = sourceName second) ∨
  (Shared classes (simpleName first) ∧ ¬Shared classes (simpleName second) ∧
    sourceName first = simpleName second)

/-- A name in which only slashes become dots. -/
def Plain (name : Text) : Prop :=
  0x24 ∉ name ∧ 0x2E ∉ name

instance (name : Text) : Decidable (Plain name) :=
  inferInstanceAs (Decidable (0x24 ∉ name ∧ 0x2E ∉ name))

variable {classes : List Text} {first second : Text}

theorem shared_of_two (firstIn : first ∈ classes) (secondIn : second ∈ classes)
    (different : first ≠ second) (same : simpleName first = simpleName second) :
    Shared classes (simpleName first) :=
  ⟨first, firstIn, second, secondIn, different, rfl, same.symm⟩

theorem displayed_of_shared (shared : Shared classes (simpleName first)) :
    displayed classes first = sourceName first :=
  if_pos shared

theorem displayed_of_not_shared (own : ¬Shared classes (simpleName first)) :
    displayed classes first = simpleName first :=
  if_neg own

theorem point_eq_of_dotted {left right : Nat} (leftPlain : left ≠ 0x24 ∧ left ≠ 0x2E)
    (rightPlain : right ≠ 0x24 ∧ right ≠ 0x2E)
    (same : (if left = 0x2F ∨ left = 0x24 then 0x2E else left) =
      if right = 0x2F ∨ right = 0x24 then 0x2E else right) : left = right := by
  split at same <;> split at same <;> omega

/-- A plain name can be read back from its source form. -/
theorem eq_of_sourceName_eq (firstPlain : Plain first) (secondPlain : Plain second)
    (same : sourceName first = sourceName second) : first = second := by
  unfold sourceName at same
  induction first generalizing second with
  | nil => exact (List.map_eq_nil_iff.mp same.symm).symm
  | cons point rest ih =>
    cases second with
    | nil => cases same
    | cons other later =>
      simp only [Plain, List.mem_cons, not_or] at firstPlain secondPlain
      obtain ⟨⟨firstDollar, restDollar⟩, firstDot, restDot⟩ := firstPlain
      obtain ⟨⟨secondDollar, laterDollar⟩, secondDot, laterDot⟩ := secondPlain
      obtain ⟨heads, tails⟩ := List.cons.inj same
      rw [ih ⟨restDollar, restDot⟩ ⟨laterDollar, laterDot⟩ tails,
        point_eq_of_dotted ⟨Ne.symm firstDollar, Ne.symm firstDot⟩
          ⟨Ne.symm secondDollar, Ne.symm secondDot⟩ heads]

/-- Only a full name in a package is read like the short name of another class. -/
theorem eq_of_simpleName_eq_sourceName (firstPlain : Plain first)
    (same : simpleName first = sourceName second) : simpleName first = simpleName second := by
  -- The slash behind a package is a dot now, and a plain last segment has none.
  by_cases packaged : hasPackage second = true
  · have dot : 0x2E ∈ simpleName first := by
      rw [same, dot_mem_sourceName]
      exact Or.inl (hasPackage_iff.mp packaged)
    have inSegment : lastSegment first ⊆ first := Text.afterLast_subset first
    rcases dot_mem_sourceName.mp dot with slash | dollar | dotted
    · exact absurd slash (not_mem_lastSegment first)
    · exact absurd (inSegment dollar) firstPlain.1
    · exact absurd (inSegment dotted) firstPlain.2
  · rw [same, simpleName_eq_sourceName packaged]

section

variable (firstIn : first ∈ classes) (secondIn : second ∈ classes) (different : first ≠ second)

include firstIn secondIn different

theorem displayed_eq_iff :
    displayed classes first = displayed classes second ↔ Collide classes first second := by
  unfold Collide
  by_cases firstShared : Shared classes (simpleName first) <;>
    by_cases secondShared : Shared classes (simpleName second)
  · simp [displayed, firstShared, secondShared]
  · simp [displayed, firstShared, secondShared]
  · simp [displayed, firstShared, secondShared]
  · have apart : simpleName first ≠ simpleName second := fun same =>
      firstShared (shared_of_two firstIn secondIn different same)
    simp [displayed, firstShared, secondShared, apart]

theorem not_collide_of_plain (firstPlain : Plain first) (secondPlain : Plain second) :
    ¬Collide classes first second := by
  rintro (⟨-, -, same⟩ | ⟨own, -, same⟩ | ⟨-, own, same⟩)
  · exact different (eq_of_sourceName_eq firstPlain secondPlain same)
  · have simple := eq_of_simpleName_eq_sourceName firstPlain same
    exact own (shared_of_two firstIn secondIn different simple)
  · have simple := eq_of_simpleName_eq_sourceName secondPlain same.symm
    exact own (shared_of_two secondIn firstIn different.symm simple)

end

end Names

namespace ConstantPool

def blank : ConstantPool where
  entries := #[none]
  rawLength := 0

theorem read_blank : read { data := #[] } 1 = .ok blank :=
  eq_ok_of_toOption (by decide +kernel)

/-- Marked names that stand in order and once each are all that a blank pool refers to. -/
theorem referenced_blank {marked : List Text}
    (ordered : (marked.Pairwise fun left right => Text.precedes left right = true) ∧
      Text.dropRepeats marked = marked) : blank.referenced marked = marked := by
  show Text.sortedSet (marked ++ []) = marked
  rw [List.append_nil, Text.sortedSet_of_ordered ordered]

end ConstantPool

namespace SymbolTable

open Names (Collide Plain displayed)

variable {pool : ConstantPool}

/-- Two referenced classes are displayed by the same text exactly if they collide: both are
ambiguous and have one source name, or one alone is and its source name is the simple name of the
other. Plain names never do. -/
theorem displayName_eq_iff {view : View} {count : Int}
    (found : ConstantPool.read view count = .ok pool) (marked : List Text) {first second : Text}
    (firstIn : first ∈ pool.referenced marked) (secondIn : second ∈ pool.referenced marked)
    (different : first ≠ second) :
    let classes := pool.referenced marked
    referencedClasses.Answers pool marked classes ∧
      (displayName first).Answers pool marked (displayed classes first) ∧
      (displayName second).Answers pool marked (displayed classes second) ∧
      (displayed classes first = displayed classes second ↔ Collide classes first second) ∧
      (Plain first → Plain second → ¬Collide classes first second) := by
  have resolved := ConstantPool.resolved_of_read found
  exact ⟨answers_referencedClasses resolved, answers_displayName resolved first,
    answers_displayName resolved second, Names.displayed_eq_iff firstIn secondIn different,
    Names.not_collide_of_plain firstIn secondIn different⟩

/-- Two classes named `B`, and a nested one whose short name is the full name of the first. -/
theorem displayName_eq_iff_nested :
    let marked : List Text := ["A/B", "p/A$B", "q/B"]
    let classes := ConstantPool.blank.referenced marked
    ConstantPool.read { data := #[] } 1 = .ok ConstantPool.blank ∧
      Text.ofString "A/B" ∈ classes ∧ Text.ofString "p/A$B" ∈ classes ∧
      (referencedClasses.Answers ConstantPool.blank marked classes ∧
        (displayName "A/B").Answers ConstantPool.blank marked (displayed classes "A/B") ∧
        (displayName "p/A$B").Answers ConstantPool.blank marked (displayed classes "p/A$B") ∧
        (displayed classes "A/B" = displayed classes "p/A$B" ↔ Collide classes "A/B" "p/A$B") ∧
        (Plain "A/B" → Plain "p/A$B" → ¬Collide classes "A/B" "p/A$B")) := by
  intro marked classes
  have first : Text.ofString "A/B" ∈ classes := ConstantPool.mem_referenced.mpr (Or.inl (by decide))
  have second : Text.ofString "p/A$B" ∈ classes :=
    ConstantPool.mem_referenced.mpr (Or.inl (by decide))
  exact ⟨ConstantPool.read_blank, first, second,
    displayName_eq_iff ConstantPool.read_blank _ first second (by decide)⟩

/-- Display names are not always different: a short nested name may read like a full one. -/
theorem not_forall_displayName_ne :
    ¬∀ (view : View) (count : Int) (pool : ConstantPool) (marked : List Text)
      (first second shown other : Text), ConstantPool.read view count = .ok pool →
      first ∈ pool.referenced marked → second ∈ pool.referenced marked → first ≠ second →
      (displayName first).Answers pool marked shown →
      (displayName second).Answers pool marked other → shown ≠ other := by
  intro apart
  let marked : List Text := ["A/B", "p/A$B", "q/B"]
  have classes : ConstantPool.blank.referenced marked = marked :=
    ConstantPool.referenced_blank (by decide)
  have resolved := ConstantPool.resolved_of_read ConstantPool.read_blank
  have first : (displayName "A/B").Answers ConstantPool.blank marked "A.B" := by
    have answers : (displayName "A/B").Answers ConstantPool.blank marked _ :=
      answers_displayName resolved "A/B"
    rw [classes] at answers
    exact answers
  have second : (displayName "p/A$B").Answers ConstantPool.blank marked "A.B" := by
    have answers : (displayName "p/A$B").Answers ConstantPool.blank marked _ :=
      answers_displayName resolved "p/A$B"
    rw [classes] at answers
    exact answers
  refine apart _ _ _ marked "A/B" "p/A$B" _ _ ConstantPool.read_blank ?_ ?_ (by decide) first
    second rfl <;> rw [classes] <;> decide

end SymbolTable

end ClassOutline
