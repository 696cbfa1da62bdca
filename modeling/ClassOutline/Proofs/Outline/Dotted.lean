import ClassOutline.Proofs.Loaded.Declared
import ClassOutline.Proofs.Outline.Imported

set_option autoImplicit false

/- Whether class names are written as words with single dots between them. Slashes and dollars all
become dots, and an import is cut off at the first dollar. So names are written as they should be
only if their slashes and dollars stand apart, while dollars may stand anywhere in a name. -/

namespace ClassOutline

namespace Text

/-- Marks stand apart in a text: none of the pieces before, between and behind them is empty. -/
def Apart (isMark : CodePoint → Bool) (text : Text) : Prop :=
  [] ∉ text.splitOnP isMark

instance (isMark : CodePoint → Bool) (text : Text) : Decidable (Apart isMark text) :=
  inferInstanceAs (Decidable ([] ∉ text.splitOnP isMark))

variable {isMark other : CodePoint → Bool} {mark : CodePoint} {text front back : Text}

theorem apart_append_cons_iff (marked : isMark mark = true) :
    Apart isMark (front ++ mark :: back) ↔ Apart isMark front ∧ Apart isMark back := by
  rw [Apart, List.splitOnP_append_cons _ _ marked, List.mem_append, not_or]
  rfl

theorem apart_iff_of_unmarked (plain : ∀ point ∈ text, isMark point = false) :
    Apart isMark text ↔ text ≠ [] := by
  rw [Apart, List.splitOnP_eq_singleton plain, List.mem_singleton, eq_comm]

theorem apart_iff_of_not_mem (absent : mark ∉ text) : Apart (· == mark) text ↔ text ≠ [] :=
  apart_iff_of_unmarked fun _ present => beq_false_of_ne (ne_of_mem_of_not_mem present absent)

theorem splitOnP_congr (same : ∀ point ∈ text, isMark point = other point) :
    text.splitOnP isMark = text.splitOnP other := by
  induction text with
  | nil => simp
  | cons point rest ih =>
    have later := ih fun next listed => same next (List.mem_cons_of_mem point listed)
    simp only [List.splitOnP_cons_eq_if_modifyHead, same point List.mem_cons_self, later]

theorem splitOnP_map (convert : CodePoint → CodePoint) :
    (text.map convert).splitOnP isMark =
      (text.splitOnP fun point => isMark (convert point)).map (List.map convert) := by
  induction text with
  | nil => simp
  | cons point rest ih =>
    rw [List.map_cons, List.splitOnP_cons_eq_if_modifyHead, List.splitOnP_cons_eq_if_modifyHead, ih]
    split
    · rfl
    · cases List.splitOnP (fun point => isMark (convert point)) rest <;> rfl

theorem apart_map_iff (convert : CodePoint → CodePoint) :
    Apart isMark (text.map convert) ↔ Apart (fun point => isMark (convert point)) text := by
  rw [Apart, splitOnP_map, List.mem_map]
  simp [Apart]

/-- Words without a mark, joined by single ones. -/
theorem apart_joined {words : List Text} (nonempty : words ≠ [])
    (plain : ∀ word ∈ words, word ≠ [] ∧ mark ∉ word) :
    Apart (· == mark) (joined [mark] words) := by
  have single (word : Text) (listed : word ∈ words) : Apart (· == mark) word :=
    (apart_iff_of_not_mem (plain word listed).2).mpr (plain word listed).1
  fun_induction joined [mark] words with
  | case1 => exact absurd rfl nonempty
  | case2 word => exact single word List.mem_cons_self
  | case3 word rest more ih =>
    rw [List.append_assoc, List.singleton_append, apart_append_cons_iff (by simp)]
    constructor
    · exact single word List.mem_cons_self
    · apply ih more
      · exact fun other listed => plain other (List.mem_cons_of_mem word listed)
      · exact fun other listed => single other (List.mem_cons_of_mem word listed)

/-- A text in which marks stand apart is made of words, cut off one after the other at the last
mark. -/
theorem exists_joined (apart : Apart (· == mark) text) :
    ∃ words : List Text, words ≠ [] ∧ (∀ word ∈ words, word ≠ [] ∧ mark ∉ word) ∧
      text = joined [mark] words := by
  induction size : text.length using Nat.strongRecOn generalizing text with
  | ind length ih =>
    by_cases marked : mark ∈ text
    · obtain ⟨front, back, rfl, last⟩ := exists_cut_at_last marked
      obtain ⟨before, behind⟩ := (apart_append_cons_iff (by simp)).mp apart
      have shorter : front.length < length := by
        rw [← size, List.length_append, List.length_cons]
        omega
      obtain ⟨words, nonempty, plain, whole⟩ := ih front.length shorter before rfl
      obtain ⟨first, rest, rfl⟩ := List.exists_cons_of_ne_nil nonempty
      refine ⟨first :: rest ++ [back], by simp, ?_, ?_⟩
      · intro word listed
        cases List.mem_append.mp listed with
        | inl early => exact plain word early
        | inr late =>
          rw [List.mem_singleton.mp late]
          exact ⟨(apart_iff_of_not_mem last).mp behind, last⟩
      · rw [joined_concat, ← whole, List.append_assoc, List.singleton_append]
    · have nonempty := (apart_iff_of_not_mem marked).mp apart
      exact ⟨[text], List.cons_ne_nil _ _, by simp [nonempty, marked], rfl⟩

theorem exists_joined_iff :
    (∃ words : List Text, words ≠ [] ∧ (∀ word ∈ words, word ≠ [] ∧ mark ∉ word) ∧
      text = joined [mark] words) ↔ Apart (· == mark) text := by
  constructor
  · intro parted
    obtain ⟨words, nonempty, plain, rfl⟩ := parted
    exact apart_joined nonempty plain
  · exact exists_joined

theorem eq_beforeFirst_or (mark : CodePoint) (text : Text) :
    text = beforeFirst mark text ∨ ∃ back, text = beforeFirst mark text ++ mark :: back := by
  by_cases marked : mark ∈ text
  · obtain ⟨front, back, rfl, first⟩ := List.eq_append_cons_of_mem marked
    have cut : beforeFirst mark (mark :: back) = [] := List.takeWhile_cons_of_neg (by simp)
    rw [beforeFirst_append first, cut, List.append_nil]
    exact Or.inr ⟨back, rfl⟩
  · exact Or.inl (beforeFirst_eq_self marked).symm

end Text

namespace Names

/-- Words with dots between them. None is empty or has a dot. -/
def IsDotted (text : Text) : Prop :=
  ∃ words : List Text, words ≠ [] ∧ (∀ word ∈ words, word ≠ [] ∧ 0x2E ∉ word) ∧
    text = Text.joined [0x2E] words

/-- What is a dot in the source form of a name. -/
def isSeparator (point : CodePoint) : Bool :=
  point == 0x2F || point == 0x24 || point == 0x2E

variable {classes : List Text} {name : Text}

theorem isDotted_sourceName_iff : IsDotted (sourceName name) ↔ name.Apart isSeparator := by
  have dots (point : CodePoint) : ((if point = 0x2F ∨ point = 0x24 then 0x2E else point) == 0x2E) =
      isSeparator point := by
    by_cases becomes : point = 0x2F ∨ point = 0x24
    · rcases becomes with rfl | rfl <;> rfl
    · obtain ⟨notSlash, notDollar⟩ := not_or.mp becomes
      simp [isSeparator, notSlash, notDollar]
  rw [IsDotted, Text.exists_joined_iff, sourceName, Text.apart_map_iff]
  simp only [dots]

theorem Segmented.apart (segmented : Segmented name) : name.Apart (· == 0x2F) := by
  obtain ⟨segments, nonempty, plain, whole⟩ := segmented
  exact Text.exists_joined_iff.mp ⟨segments, nonempty,
    fun segment listed => ⟨(plain segment listed).1, (plain segment listed).2.1⟩, whole⟩

/-- A class is written in full, or by its last segment. -/
theorem isDotted_displayed_iff : IsDotted (displayed classes name) ↔
    (if Shared classes (simpleName name) then name else lastSegment name).Apart isSeparator := by
  rw [displayed]
  split
  · exact isDotted_sourceName_iff
  · exact isDotted_sourceName_iff

theorem apart_lastSegment (apart : name.Apart isSeparator) :
    (lastSegment name).Apart isSeparator := by
  by_cases packaged : hasPackage name = true
  · rw [eq_package_append_lastSegment packaged, Text.apart_append_cons_iff rfl] at apart
    exact apart.2
  · rwa [lastSegment_eq_self packaged]

theorem apart_outermost (apart : name.Apart isSeparator) : (outermost name).Apart isSeparator := by
  cases Text.eq_beforeFirst_or 0x24 name with
  | inl whole =>
    rw [whole] at apart
    exact apart
  | inr cut =>
    obtain ⟨back, whole⟩ := cut
    rw [whole, Text.apart_append_cons_iff rfl] at apart
    exact apart.1

/-- Of an outermost class only the last segment can be cut off to nothing. -/
theorem apart_outermost_iff (segmented : Segmented name)
    (packaged : hasPackage (outermost name) = true) :
    (outermost name).Apart isSeparator ↔ simpleName (outermost name) ≠ [] := by
  have split := eq_package_append_lastSegment packaged
  have noDot : 0x2E ∉ outermost name := fun listed =>
    segmented.noDot (Text.beforeFirst_subset name listed)
  -- The package was not cut, and its only separators are slashes.
  have parted : (package (outermost name)).Apart (· == 0x2F) := by
    obtain ⟨tail, whole⟩ : outermost name <+: name := List.takeWhile_prefix _
    have apart := segmented.apart
    rw [← whole, split, List.append_assoc, List.cons_append,
      Text.apart_append_cons_iff (by simp)] at apart
    exact apart.1
  have slashes : ∀ point ∈ outermost name, isSeparator point = (point == 0x2F) := by
    intro point listed
    have notDollar : (point == 0x24) = false :=
      beq_false_of_ne (ne_of_mem_of_not_mem listed (not_mem_outermost name))
    have notDot : (point == 0x2E) = false := beq_false_of_ne (ne_of_mem_of_not_mem listed noDot)
    rw [isSeparator, notDollar, notDot, Bool.or_false, Bool.or_false]
  have inPackage : (package (outermost name)).Apart isSeparator := by
    have same : ∀ point ∈ package (outermost name), isSeparator point = (point == 0x2F) := by
      intro point listed
      apply slashes point
      rw [split]
      exact List.mem_append_left _ listed
    rwa [Text.Apart, Text.splitOnP_congr same]
  have inSegment : (lastSegment (outermost name)).Apart isSeparator ↔
      lastSegment (outermost name) ≠ [] := by
    apply Text.apart_iff_of_unmarked
    intro point listed
    rw [slashes point (Text.afterLast_subset _ listed)]
    exact beq_false_of_ne (ne_of_mem_of_not_mem listed (not_mem_lastSegment _))
  rw [split, Text.apart_append_cons_iff rfl, ← split, inSegment]
  simp [inPackage, simpleName, sourceName, lastSegment]

end Names

namespace Imports

open Names (IsDotted Segmented Shared displayed hasPackage isSeparator lastSegment outermost
  simpleName sourceName)
open Rendition (importLines imported)

variable {classes : List Text} {thisClass name : Text}

/-- What is imported is the outermost class of a referenced class, and in a package. -/
theorem exists_of_mem_imported (present : name ∈ imported classes thisClass) :
    ∃ other ∈ classes, outermost other = name ∧ hasPackage name = true := by
  have needed := (mem_imported.mp present).1
  obtain ⟨other, listed, same⟩ := mem_candidates.mp (mem_needed.mp needed).1
  exact ⟨other, listed, same, packaged_of_needed needed⟩

/-- Of classes whose segments are neither empty nor dotted, one is imported as words with single
dots between them unless its first dollar begins a segment. One that is displayed in full is
displayed so exactly if its slashes and dollars stand apart, and one that is displayed short if its
dollars do in its last segment. If they stand apart in each class, nothing else is written. -/
theorem isDotted_names_iff {view : View} {count : Int} {pool : ConstantPool}
    (found : ConstantPool.read view count = .ok pool) (marked : List Text) (thisClass : Text)
    (segmented : ∀ name ∈ pool.referenced marked, Segmented name) :
    let classes := pool.referenced marked
    let names := imported classes thisClass
    (draw thisClass).Renders pool marked [] (.ok names.length) (importLines names) ∧
      (∀ name ∈ names, IsDotted (sourceName name) ↔ simpleName name ≠ []) ∧
      (∀ name ∈ classes,
        (SymbolTable.displayName name).Answers pool marked (displayed classes name) ∧
        (IsDotted (displayed classes name) ↔
          (if Shared classes (simpleName name) then name else lastSegment name).Apart
            isSeparator)) ∧
      ((∀ name ∈ classes, name.Apart isSeparator) →
        (∀ name ∈ names, IsDotted (sourceName name)) ∧
          ∀ name ∈ classes, IsDotted (displayed classes name)) := by
  intro classes names
  have resolved := ConstantPool.resolved_of_read found
  refine ⟨renders_draw resolved thisClass, ?_, ?_, ?_⟩
  · intro name present
    obtain ⟨other, listed, rfl, packaged⟩ := exists_of_mem_imported present
    rw [Names.isDotted_sourceName_iff]
    exact Names.apart_outermost_iff (segmented other listed) packaged
  · intro name _
    exact ⟨SymbolTable.answers_displayName resolved name, Names.isDotted_displayed_iff⟩
  · intro apart
    constructor
    · intro name present
      obtain ⟨other, listed, rfl, _⟩ := exists_of_mem_imported present
      exact Names.isDotted_sourceName_iff.mpr (Names.apart_outermost (apart other listed))
    · intro name listed
      rw [Names.isDotted_displayed_iff]
      split
      · exact apart name listed
      · exact Names.apart_lastSegment (apart name listed)

/-- A nested class whose outermost class has a package, and one whose name begins with a dollar. -/
theorem isDotted_names_iff_dollars :
    let marked : List Text := ["a/X$Y", "b/$X"]
    let classes := ConstantPool.blank.referenced marked
    let names := imported classes "c/D"
    ConstantPool.read { data := #[] } 1 = .ok ConstantPool.blank ∧
      (∀ name ∈ classes, Segmented name) ∧
      ((draw "c/D").Renders ConstantPool.blank marked [] (.ok names.length) (importLines names) ∧
        (∀ name ∈ names, IsDotted (sourceName name) ↔ simpleName name ≠ []) ∧
        (∀ name ∈ classes,
          (SymbolTable.displayName name).Answers ConstantPool.blank marked
            (displayed classes name) ∧
          (IsDotted (displayed classes name) ↔
            (if Shared classes (simpleName name) then name else lastSegment name).Apart
              isSeparator)) ∧
        ((∀ name ∈ classes, name.Apart isSeparator) →
          (∀ name ∈ names, IsDotted (sourceName name)) ∧
            ∀ name ∈ classes, IsDotted (displayed classes name))) := by
  intro marked classes names
  have whole : classes = marked := ConstantPool.referenced_blank (by decide)
  have segmented : ∀ name ∈ classes, Segmented name := by
    rw [whole]
    intro name listed
    cases List.mem_cons.mp listed with
    | inl first =>
      rw [first]
      exact ⟨["a", "X$Y"], by decide, by decide, rfl⟩
    | inr second =>
      rw [List.mem_singleton.mp second]
      exact ⟨["b", "$X"], by decide, by decide, rfl⟩
  exact ⟨ConstantPool.read_blank, segmented,
    isDotted_names_iff ConstantPool.read_blank marked "c/D" segmented⟩

/-- Names are not always written as words with dots between them: `a/$X` is imported as `a.`. -/
theorem not_forall_isDotted :
    ¬∀ (view : View) (count : Int) (pool : ConstantPool) (marked : List Text) (thisClass : Text)
      (names : List Text), ConstantPool.read view count = .ok pool →
      (∀ name ∈ pool.referenced marked, Segmented name) →
      (draw thisClass).Renders pool marked [] (.ok names.length) (importLines names) →
      (∀ name ∈ pool.referenced marked, ∀ shown,
        (SymbolTable.displayName name).Answers pool marked shown → IsDotted shown) ∧
      ∀ name ∈ names, IsDotted (sourceName name) := by
  intro always
  let marked : List Text := ["a/$X"]
  have classes : ConstantPool.blank.referenced marked = marked :=
    ConstantPool.referenced_blank (by decide)
  have outer : candidates marked = ["a/"] := Text.sortedSet_of_ordered (by decide)
  have names : imported marked [] = ["a/"] := by
    rw [imported, outer]
    decide
  have segmented : ∀ name ∈ ConstantPool.blank.referenced marked, Segmented name := by
    rw [classes]
    intro name listed
    rw [List.mem_singleton.mp listed]
    exact ⟨["a", "$X"], by decide, by decide, rfl⟩
  have drawn : (draw []).Renders ConstantPool.blank marked [] _ _ :=
    renders_draw (ConstantPool.resolved_of_read ConstantPool.read_blank) []
  obtain ⟨_, imports⟩ := always _ _ _ marked [] _ ConstantPool.read_blank segmented drawn
  rw [classes, names] at imports
  have dotted := imports "a/" (by decide)
  rw [Names.isDotted_sourceName_iff] at dotted
  revert dotted
  decide

end Imports

end ClassOutline
