import ClassOutline.Proofs.Outline.Rendering

set_option autoImplicit false

namespace ClassOutline

variable {α β : Type} {pool : ConstantPool} {marked : List Text}

/-- A search that leaves a table right behind, whether it finds something or fails. -/
def Lookup.Keeps (pool : ConstantPool) (marked : List Text) (search : Lookup α) : Prop :=
  ∀ table : SymbolTable, table.Holds pool marked → (search.run table).2.Holds pool marked

namespace Lookup.Keeps

theorem of_answers {search : Lookup α} {value : α} (answers : search.Answers pool marked value) :
    Keeps pool marked search := by
  intro table holds
  obtain ⟨next, success, kept⟩ := answers table holds
  rw [success]
  exact kept

theorem pure (value : α) : Keeps pool marked (Pure.pure value) :=
  fun _ holds => holds

theorem bind {first : Lookup α} {rest : α → Lookup β} (here : Keeps pool marked first)
    (others : ∀ value, Keeps pool marked (rest value)) : Keeps pool marked (first >>= rest) := by
  intro table holds
  have kept := here table holds
  rw [run_bind]
  split
  · rename_i value next success
    rw [success] at kept
    exact others value next kept
  · rename_i fault next failure
    rw [failure] at kept
    exact kept

theorem get_bind {rest : SymbolTable → Lookup β}
    (others : ∀ table, Keeps pool marked (rest table)) :
    Keeps pool marked (get >>= rest) :=
  fun table holds => others table table holds

theorem mapM {search : α → Lookup β} (each : ∀ item, Keeps pool marked (search item))
    (items : List α) : Keeps pool marked (items.mapM search) := by
  induction items with
  | nil => exact pure []
  | cons item rest ih =>
    rw [List.mapM_cons]
    exact (each item).bind fun value => ih.bind fun values => pure (value :: values)

/-- To count a lookup changes neither the marked names nor what is known of them. -/
theorem counted (find : ConstantPool → Decoded α) : Keeps pool marked (SymbolTable.counted find) :=
  fun _ holds => { ambiguous := holds.ambiguous, pool := holds.pool, marked := holds.marked }

theorem literal (index : Int) : Keeps pool marked (SymbolTable.literal index) := by
  apply bind (counted _)
  intro entry
  split
  · exact (counted _).bind fun text => pure _
  · exact fun _ holds => holds

theorem constants (kind : Text) : Keeps pool marked (SymbolTable.constants kind) := by
  apply get_bind
  intro table
  refine bind (mapM ?_ _) fun values => pure _
  intro entry
  split
  · exact (counted _).bind fun text => pure _
  · exact pure _

theorem typeName (resolved : pool.Resolved) (nameIndex : Nat) :
    Keeps pool marked (SymbolTable.typeName nameIndex) :=
  (counted _).bind fun name => of_answers (SymbolTable.answers_displayName resolved name)

end Lookup.Keeps

/-- The symbols that a drawing leaves behind are right if it plays. -/
theorem Draw.Plays.holds {drawing : Draw α} {result : Except DrawFault α}
    {script : List Printer.Action} (plays : drawing.Plays pool marked result script)
    {symbols : SymbolTable} (holds : symbols.Holds pool marked) (printer : Printer) :
    (drawing.run { symbols, printer }).2.symbols.Holds pool marked := by
  obtain ⟨next, kept, run⟩ := plays symbols holds
  rw [run]
  exact kept

namespace Names

/-- Only which names are known decides how one is displayed. -/
theorem displayed_congr {classes others : List Text} (same : ∀ name, name ∈ classes ↔ name ∈ others)
    (name : Text) : displayed classes name = displayed others name := by
  have shared : Shared classes (simpleName name) ↔ Shared others (simpleName name) := by
    simp only [Shared, same]
  simp only [displayed, shared]

end Names

namespace SymbolTable

/-- Something to ask of a symbol table, or a name to mark in it. Imports go to a printer of any
state. -/
inductive Query
  | mark (name : Text)
  | displayName (name : Text)
  | referencedClasses
  | drawImports (thisClass : Text) (printer : Printer)
  | entry (index : Int)
  | entryNamed (index : Int) (kind : Text)
  | utf8 (index : Int)
  | classEntry (index : Int)
  | literal (index : Int)
  | constants (kind : Text)
  | typeName (nameIndex : Nat)

namespace Query

def perform (table : SymbolTable) : Query → SymbolTable
  | .mark name => table.mark name
  | .displayName name => ((SymbolTable.displayName name).run table).2
  | .referencedClasses => (SymbolTable.referencedClasses.run table).2
  | .drawImports thisClass printer =>
    ((Imports.draw thisClass).run { symbols := table, printer }).2.symbols
  | .entry index => ((SymbolTable.entry index).run table).2
  | .entryNamed index kind => ((SymbolTable.entryNamed index kind).run table).2
  | .utf8 index => ((SymbolTable.utf8 index).run table).2
  | .classEntry index => ((SymbolTable.classEntry index).run table).2
  | .literal index => ((SymbolTable.literal index).run table).2
  | .constants kind => ((SymbolTable.constants kind).run table).2
  | .typeName nameIndex => ((SymbolTable.typeName nameIndex).run table).2

def after (history : List Query) (table : SymbolTable) : SymbolTable :=
  history.foldl perform table

variable {table : SymbolTable}

/-- A query leaves a right table behind, and only a mark adds a name to the marked ones. -/
theorem holds_perform (resolved : pool.Resolved) (holds : table.Holds pool marked) (query : Query) :
    (query.perform table).Holds pool (query.perform table).marked ∧
      ∀ name, name ∈ (query.perform table).marked ↔ name ∈ marked ∨ .mark name = query := by
  have unmarked {next : SymbolTable} (kept : next.Holds pool marked)
      (noMark : ∀ name, .mark name ≠ query) :
      next.Holds pool next.marked ∧
        ∀ name, name ∈ next.marked ↔ name ∈ marked ∨ .mark name = query := by
    rw [kept.marked]
    exact ⟨kept, fun name => (or_iff_left (noMark name)).symm⟩
  cases query with
  | mark name =>
    refine ⟨holds.mark name, fun other => ?_⟩
    rw [perform, mem_marked_mark, holds.marked, Query.mark.injEq]
  | displayName name =>
    exact unmarked (Lookup.Keeps.of_answers (answers_displayName resolved name) table holds) nofun
  | referencedClasses =>
    exact unmarked (Lookup.Keeps.of_answers (answers_referencedClasses resolved) table holds) nofun
  | drawImports thisClass printer =>
    have renders : Draw.Renders pool marked [] (Imports.draw thisClass) _ _ :=
      Imports.renders_draw resolved thisClass
    obtain ⟨script, plays, -, -⟩ := renders
    exact unmarked (plays.holds holds printer) nofun
  | entry index => exact unmarked (Lookup.Keeps.counted _ table holds) nofun
  | entryNamed index kind => exact unmarked (Lookup.Keeps.counted _ table holds) nofun
  | utf8 index => exact unmarked (Lookup.Keeps.counted _ table holds) nofun
  | classEntry index => exact unmarked (Lookup.Keeps.counted _ table holds) nofun
  | literal index => exact unmarked (Lookup.Keeps.literal index table holds) nofun
  | constants kind => exact unmarked (Lookup.Keeps.constants kind table holds) nofun
  | typeName nameIndex =>
    exact unmarked (Lookup.Keeps.typeName resolved nameIndex table holds) nofun

theorem holds_after (resolved : pool.Resolved) (holds : table.Holds pool marked)
    (history : List Query) :
    (after history table).Holds pool (after history table).marked ∧
      ∀ name, name ∈ (after history table).marked ↔ name ∈ marked ∨ .mark name ∈ history := by
  induction history generalizing table marked with
  | nil =>
    rw [after, List.foldl_nil, holds.marked]
    exact ⟨holds, fun name => by simp⟩
  | cons query rest ih =>
    obtain ⟨kept, marks⟩ := holds_perform resolved holds query
    obtain ⟨last, later⟩ := ih kept
    refine ⟨last, fun name => ?_⟩
    rw [List.mem_cons, ← or_assoc, ← marks]
    exact later name

end Query

theorem Holds.forget {table : SymbolTable} (holds : table.Holds pool marked) :
    { table with ambiguous := none }.Holds pool marked where
  ambiguous := nofun
  pool := holds.pool
  marked := holds.marked

theorem Holds.displayName {table : SymbolTable} (resolved : pool.Resolved)
    (holds : table.Holds pool marked) (name : Text) :
    ((displayName name).run table).1 = .ok (Names.displayed (marked ++ pool.classNames) name) := by
  have known (other : Text) :
      other ∈ pool.referenced marked ↔ other ∈ marked ++ pool.classNames := by
    rw [ConstantPool.mem_referenced, List.mem_append]
  obtain ⟨next, success, -⟩ := answers_displayName resolved name table holds
  rw [success, Names.displayed_congr known]

/-- Whatever was asked of a table before, a class is displayed by its simple name, or by its source
name if two of the names that are marked by then or stand in the pool have that simple name. A table
that counts the names anew displays it alike, and so does one with the same names marked in another
order, more often, or between other queries. -/
theorem displayName_after {view : View} {count : Int}
    (found : ConstantPool.read view count = .ok pool) (marked : List Text) (history : List Query)
    (name : Text) :
    let now := Query.after history (ofNames pool marked)
    let shown := Names.displayed (now.marked ++ pool.classNames) name
    (∀ other, other ∈ now.marked ↔ other ∈ marked ∨ .mark other ∈ history) ∧
      ((displayName name).run now).1 = .ok shown ∧
      ((displayName name).run { now with ambiguous := none }).1 = .ok shown ∧
      ∀ others : List Query, (∀ other, .mark other ∈ others ↔ .mark other ∈ history) →
        ((displayName name).run (Query.after others (ofNames pool marked))).1 = .ok shown := by
  have resolved := ConstantPool.resolved_of_read found
  have fresh : (ofNames pool marked).Holds pool marked := holds_ofNames
  obtain ⟨kept, marks⟩ := Query.holds_after resolved fresh history
  refine ⟨marks, kept.displayName resolved name, kept.forget.displayName resolved name, ?_⟩
  intro others same
  obtain ⟨keptToo, marksToo⟩ := Query.holds_after resolved fresh others
  rw [keptToo.displayName resolved name]
  apply congrArg Except.ok
  apply Names.displayed_congr
  intro other
  rw [List.mem_append, List.mem_append, marks, marksToo, same]

/-- A pool with the class `p/A` and an array of a class. -/
def arrayPool : ConstantPool where
  entries := #[none, some (.utf8 "p/A"), some (.classRef 1), some (.utf8 "[Lr/A;"),
    some (.classRef 3)]
  rawLength := 21

def arrayPoolData : Array UInt8 := #[
  1, 0, 3, 0x70, 0x2F, 0x41, 7, 0, 1,
  1, 0, 6, 0x5B, 0x4C, 0x72, 0x2F, 0x41, 0x3B, 7, 0, 3]

theorem read_arrayPoolData : ConstantPool.read { data := arrayPoolData } 5 = .ok arrayPool :=
  eq_ok_of_toOption (by decide +kernel)

/-- A second class `A` is marked twice, and between the two an index is looked up that leads
nowhere. -/
theorem displayName_after_marks :
    let history : List Query :=
      [.displayName "p/A", .mark "q/A", .utf8 9, .mark "q/A", .drawImports [] {}]
    let now := Query.after history (ofNames arrayPool [])
    let shown := Names.displayed (now.marked ++ arrayPool.classNames) "p/A"
    ConstantPool.read { data := arrayPoolData } 5 = .ok arrayPool ∧ shown = "p.A" ∧
      (∀ other, other ∈ now.marked ↔ other ∈ [] ∨ .mark other ∈ history) ∧
      ((displayName "p/A").run now).1 = .ok shown ∧
      ((displayName "p/A").run { now with ambiguous := none }).1 = .ok shown ∧
      ∀ others : List Query, (∀ other, .mark other ∈ others ↔ .mark other ∈ history) →
        ((displayName "p/A").run (Query.after others (ofNames arrayPool []))).1 = .ok shown := by
  intro history now shown
  have answers := displayName_after read_arrayPoolData [] history "p/A"
  have listed : arrayPool.classNames = [Text.ofString "p/A"] := by decide
  have known (other : Text) :
      other ∈ now.marked ++ arrayPool.classNames ↔
        other ∈ [Text.ofString "q/A", Text.ofString "p/A"] := by
    rw [List.mem_append, answers.1, listed]
    simp [history]
  have written : shown = "p.A" := by
    rw [show shown = _ from Names.displayed_congr known _]
    decide
  exact ⟨read_arrayPoolData, written, answers⟩

end SymbolTable

end ClassOutline
