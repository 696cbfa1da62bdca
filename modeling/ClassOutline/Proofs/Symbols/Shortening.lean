import ClassOutline.Proofs.Symbols.Resolution
import ClassOutline.Proofs.Text.Order

set_option autoImplicit false

/- What a symbol table answers. The referenced classes and the names they are displayed by follow
from the pool and the marked names alone, whatever was looked up before: the ambiguous names, once
known, stay right until a new name is marked, and then they are forgotten. -/

namespace ClassOutline

namespace Names

/-- Two of some classes have a simple name. -/
def Shared (classes : List Text) (simple : Text) : Prop :=
  ∃ first ∈ classes, ∃ second ∈ classes,
    first ≠ second ∧ simpleName first = simple ∧ simpleName second = simple

instance (classes : List Text) (simple : Text) : Decidable (Shared classes simple) :=
  inferInstanceAs (Decidable (∃ first ∈ classes, ∃ second ∈ classes,
    first ≠ second ∧ simpleName first = simple ∧ simpleName second = simple))

/-- The simple name of a class, or its full source name if the simple one is shared. -/
def displayed (classes : List Text) (name : Text) : Text :=
  if Shared classes (simpleName name) then sourceName name else simpleName name

theorem shared_cons_iff {first simple : Text} {rest : List Text} (fresh : first ∉ rest) :
    Shared (first :: rest) simple ↔
      Shared rest simple ∨
        simpleName first = simple ∧ ∃ other ∈ rest, simpleName other = simple := by
  constructor
  · rintro ⟨left, leftIn, right, rightIn, different, leftNamed, rightNamed⟩
    rcases List.mem_cons.mp leftIn with same | leftLater
    · subst same
      rcases List.mem_cons.mp rightIn with same | rightLater
      · exact absurd same.symm different
      · exact Or.inr ⟨leftNamed, right, rightLater, rightNamed⟩
    · rcases List.mem_cons.mp rightIn with same | rightLater
      · subst same
        exact Or.inr ⟨rightNamed, left, leftLater, leftNamed⟩
      · exact Or.inl ⟨left, leftLater, right, rightLater, different, leftNamed, rightNamed⟩
  · rintro (⟨left, leftIn, right, rightIn, both⟩ | ⟨named, other, later, otherNamed⟩)
    · exact ⟨left, List.mem_cons_of_mem first leftIn, right, List.mem_cons_of_mem first rightIn,
        both⟩
    · have different : first ≠ other := fun same => fresh (same ▸ later)
      exact ⟨first, List.mem_cons_self, other, List.mem_cons_of_mem first later, different, named,
        otherNamed⟩

theorem two_le_count_iff {classes : List Text} (distinct : classes.Nodup) (simple : Text) :
    2 ≤ (classes.map simpleName).count simple ↔ Shared classes simple := by
  induction classes with
  | nil => simp [Shared]
  | cons first rest ih =>
    obtain ⟨fresh, others⟩ := List.nodup_cons.mp distinct
    rw [shared_cons_iff fresh, ← ih others, List.map_cons]
    have present : (∃ other ∈ rest, simpleName other = simple) ↔
        1 ≤ (rest.map simpleName).count simple := by
      rw [← List.mem_map, ← List.count_pos_iff]
      exact Iff.rfl
    rw [present]
    by_cases named : simpleName first = simple
    · simp only [named, List.count_cons_self, true_and]
      omega
    · simp only [named, List.count_cons_of_ne named, false_and, or_false]

end Names

namespace SymbolTable

theorem contains_ambiguousNames {classes : List Text} (distinct : classes.Nodup) (simple : Text) :
    (ambiguousNames classes).contains simple = true ↔ Names.Shared classes simple := by
  rw [List.contains_iff_mem, ambiguousNames, Text.mem_dropRepeats,
    Text.mem_repeats_iff (Text.pairwise_sorted _), (Text.sorted_perm _).count_eq,
    Names.two_le_count_iff distinct]

end SymbolTable

namespace ConstantPool

def textAt (pool : ConstantPool) (index : Nat) : Text :=
  (pool.utf8 index).toOption.getD []

/-- The names of the class entries that are not arrays. -/
def classNames (pool : ConstantPool) : List Text :=
  (pool.classNameIndices.map pool.textAt).filter fun name => !Names.isArray name

/-- The classes that a pool and some marked names refer to, by code point, each once. -/
def referenced (pool : ConstantPool) (marked : List Text) : List Text :=
  Text.sortedSet (marked ++ pool.classNames)

variable {pool : ConstantPool} {marked : List Text}

theorem textAt_eq {index : Nat} {text : Text} (found : pool.utf8 index = .ok text) :
    pool.textAt index = text := by
  rw [textAt, found]
  rfl

theorem utf8_eq_textAt {index : Nat} (named : pool.NamesText index) :
    pool.utf8 index = .ok (pool.textAt index) := by
  obtain ⟨text, found⟩ := named
  rw [textAt_eq found, found]

theorem mem_referenced {name : Text} :
    name ∈ pool.referenced marked ↔ name ∈ marked ∨ name ∈ pool.classNames := by
  rw [referenced, Text.mem_sortedSet, List.mem_append]

theorem mem_classNames_iff (resolved : pool.Resolved) {name : Text} :
    name ∈ pool.classNames ↔
      ∃ nameIndex ∈ pool.classNameIndices,
        pool.utf8 nameIndex = .ok name ∧ Names.isArray name = false := by
  simp only [classNames, List.mem_filter, List.mem_map, Bool.not_eq_true']
  constructor
  · rintro ⟨⟨nameIndex, present, rfl⟩, plain⟩
    exact ⟨nameIndex, present, utf8_eq_textAt (resolved nameIndex present), plain⟩
  · rintro ⟨nameIndex, present, found, plain⟩
    exact ⟨⟨nameIndex, present, textAt_eq found⟩, plain⟩

theorem nodup_referenced : (pool.referenced marked).Nodup :=
  Text.nodup_sortedSet _

theorem referenced_congr {other : List Text} (same : ∀ name, name ∈ marked ↔ name ∈ other) :
    pool.referenced marked = pool.referenced other :=
  Text.sortedSet_congr fun name => by rw [List.mem_append, List.mem_append, same]

end ConstantPool

variable {α β : Type} {pool : ConstantPool} {marked : List Text}

/-- A table of a pool with some marked names. If it knows the ambiguous names, they are right. -/
structure SymbolTable.Holds (table : SymbolTable) (pool : ConstantPool) (marked : List Text) :
    Prop where
  ambiguous : ∀ names, table.ambiguous = some names →
    names = SymbolTable.ambiguousNames (pool.referenced marked)
  pool : table.pool = pool
  marked : table.marked = marked

/-- A search with one answer in all tables of a pool with some marked names. It leaves such a table
behind. -/
def Lookup.Answers (pool : ConstantPool) (marked : List Text) (search : Lookup α) (value : α) :
    Prop :=
  ∀ table : SymbolTable, table.Holds pool marked →
    ∃ next, search.run table = (.ok value, next) ∧ next.Holds pool marked

namespace Lookup.Answers

theorem pure (value : α) : Answers pool marked (Pure.pure value) value :=
  fun table holds => ⟨table, rfl, holds⟩

theorem bind {first : Lookup α} {rest : α → Lookup β} {value : α} {result : β}
    (here : Answers pool marked first value) (others : Answers pool marked (rest value) result) :
    Answers pool marked (first >>= rest) result := by
  intro table holds
  obtain ⟨next, success, kept⟩ := here table holds
  rw [run_bind_of_ok success]
  exact others next kept

theorem map {search : Lookup α} {value : α} (convert : α → β)
    (here : Answers pool marked search value) :
    Answers pool marked (convert <$> search) (convert value) :=
  here.bind (pure (convert value))

theorem mapM {search : α → Lookup β} {answer : α → β} {items : List α}
    (each : ∀ item ∈ items, Answers pool marked (search item) (answer item)) :
    Answers pool marked (items.mapM search) (items.map answer) := by
  induction items with
  | nil => exact pure []
  | cons item rest ih =>
    have later := ih fun other present => each other (List.mem_cons_of_mem item present)
    rw [List.mapM_cons]
    exact (each item List.mem_cons_self).bind (later.bind (pure _))

theorem ite {condition : Prop} [Decidable condition] {yes no : Lookup α} {whenTrue whenFalse : α}
    (first : Answers pool marked yes whenTrue) (second : Answers pool marked no whenFalse) :
    Answers pool marked (if condition then yes else no)
      (if condition then whenTrue else whenFalse) := by
  split
  · exact first
  · exact second

end Lookup.Answers

namespace SymbolTable

theorem holds_ofNames : (ofNames pool marked).Holds pool marked where
  ambiguous := nofun
  pool := rfl
  marked := rfl

/-- Marking a name that is marked already changes nothing. -/
theorem Holds.mark {table : SymbolTable} (holds : table.Holds pool marked) (name : Text) :
    (table.mark name).Holds pool (table.mark name).marked where
  ambiguous := by
    unfold SymbolTable.mark
    split
    · rw [holds.marked]
      exact holds.ambiguous
    · exact nofun
  pool := (pool_mark name table).trans holds.pool
  marked := rfl

theorem mem_marked_mark {table : SymbolTable} {name other : Text} :
    other ∈ (table.mark name).marked ↔ other ∈ table.marked ∨ other = name := by
  unfold mark
  split
  · rename_i present
    constructor
    · exact Or.inl
    · rintro (known | same)
      · exact known
      · rw [same]
        exact List.contains_iff_mem.mp present
  · rw [List.mem_cons, or_comm]

theorem answers_utf8 {index : Nat} (named : pool.NamesText index) :
    (utf8 index).Answers pool marked (pool.textAt index) := by
  rintro table ⟨ambiguous, rfl, rfl⟩
  have found := ConstantPool.utf8_eq_textAt named
  refine ⟨{ table with lookups := table.lookups + 1 }, ?_, ⟨ambiguous, rfl, rfl⟩⟩
  rw [← found]
  rfl

variable (resolved : pool.Resolved)

include resolved

theorem answers_referencedClasses :
    referencedClasses.Answers pool marked (pool.referenced marked) := by
  rintro table ⟨ambiguous, rfl, rfl⟩
  have names : Lookup.Answers table.pool table.marked
      (table.pool.classNameIndices.mapM fun (index : Nat) => utf8 index)
      (table.pool.classNameIndices.map table.pool.textAt) :=
    Lookup.Answers.mapM fun index present => answers_utf8 (resolved index present)
  have collected : Lookup.Answers table.pool table.marked (do
      let names ← table.pool.classNameIndices.mapM fun (index : Nat) => utf8 index
      return Text.sortedSet (table.marked ++ names.filter fun name => !Names.isArray name))
      (table.pool.referenced table.marked) :=
    names.bind (Lookup.Answers.pure _)
  exact collected table ⟨ambiguous, rfl, rfl⟩

theorem answers_knownAmbiguous :
    knownAmbiguous.Answers pool marked (ambiguousNames (pool.referenced marked)) := by
  intro table holds
  cases known : table.ambiguous with
  | some names =>
    -- What the table knows was right when it was counted, and nothing was marked since.
    refine ⟨table, ?_, holds⟩
    rw [knownAmbiguous, run_get_bind, known, ← holds.ambiguous names known]
    rfl
  | none =>
    obtain ⟨next, success, kept⟩ := answers_referencedClasses resolved table holds
    let names := ambiguousNames (pool.referenced marked)
    refine ⟨{ next with ambiguous := some names }, ?_, ?_, kept.pool, kept.marked⟩
    · rw [knownAmbiguous, run_get_bind, known]
      exact run_bind_of_ok success _
    · intro others same
      cases same
      rfl

theorem answers_displayName (name : Text) :
    (displayName name).Answers pool marked (Names.displayed (pool.referenced marked) name) := by
  apply (answers_knownAmbiguous resolved).bind
  have distinct : (pool.referenced marked).Nodup := ConstantPool.nodup_referenced
  have same := contains_ambiguousNames distinct (Names.simpleName name)
  unfold Names.displayed
  simp only [same]
  exact Lookup.Answers.pure _

theorem answers_typeName {nameIndex : Nat} (present : nameIndex ∈ pool.classNameIndices) :
    (typeName nameIndex).Answers pool marked
      (Names.displayed (pool.referenced marked) (pool.textAt nameIndex)) :=
  (answers_utf8 (resolved nameIndex present)).bind (answers_displayName resolved _)

end SymbolTable

end ClassOutline
