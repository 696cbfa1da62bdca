import ClassOutline.Proofs.Loaded.Operations
import ClassOutline.Proofs.Outline.Rendering
import ClassOutline.Proofs.Outline.Sequence

set_option autoImplicit false

namespace ClassOutline

open View (numberAt)

/-- The name that an operation adds to those that are referred to. -/
def Operation.marked? : Operation → Option Text
  | .mark name => some name
  | _ => none

/-- Each summary is what the analysis of the method in its place gives. -/
def LoadedClass.Truthful (methods : List Method) (summaries : List (Option CodeSummary)) : Prop :=
  ∀ (place : Nat) (method : Method) (summary : CodeSummary), methods[place]? = some method →
    summaries[place]? = some (some summary) → method.analyse = .ok (some summary)

/-- A class with resolved names and some marked ones, whose symbol table is right about them, and
with a summary or none for each method. -/
structure LoadedClass.Knows (loaded : LoadedClass) (names : List Text) : Prop where
  resolved : loaded.file.Resolved
  symbols : loaded.symbols.Holds loaded.file.pool loaded.symbols.marked
  marked : ∀ name, name ∈ loaded.symbols.marked ↔ name ∈ names
  matched : loaded.summaries.length = loaded.file.methods.length
  truthful : Truthful loaded.file.methods loaded.summaries

theorem Lookup.Answers.foundIn {α : Type} {pool : ConstantPool} {marked : List Text}
    {search : Lookup α} {value : α} (answers : search.Answers pool marked value) :
    search.FoundIn (·.Holds pool marked) := by
  intro table holds
  obtain ⟨next, success, kept⟩ := answers table holds
  exact ⟨value, next, success, kept⟩

namespace ClassFile.Resolved

variable {file : ClassFile} {marked : List Text} (resolved : file.Resolved)

include resolved

theorem answers_superClassName :
    file.superClassName.Answers file.pool marked (file.superClass.map file.pool.textAt) := by
  unfold superClassName
  cases found : file.superClass with
  | none => exact Lookup.Answers.pure none
  | some nameIndex =>
    have named := resolved.classes nameIndex (resolved.superClass nameIndex found)
    exact (SymbolTable.answers_utf8 named).map some

theorem answers_interfaceNames :
    file.interfaceNames.Answers file.pool marked
      (file.interfaces.map fun nameIndex => file.pool.textAt nameIndex) :=
  Lookup.Answers.mapM fun index present =>
    SymbolTable.answers_utf8 (resolved.classes _ (resolved.interfaces index present))

/-- Tables that are right about the names of a class are good for drawing it. -/
theorem served_holds : file.Served (·.Holds file.pool marked) where
  className := resolved.answers_className.foundIn
  classType := resolved.answers_classType.foundIn
  superType := fun nameIndex found =>
    (SymbolTable.answers_typeName resolved.classes (resolved.superClass nameIndex found)).foundIn
  interfaceType := fun nameIndex listed =>
    (SymbolTable.answers_typeName resolved.classes (resolved.interfaces nameIndex listed)).foundIn
  referencedClasses := (SymbolTable.answers_referencedClasses resolved.classes).foundIn
  displayName := fun name => (SymbolTable.answers_displayName resolved.classes name).foundIn

end ClassFile.Resolved

namespace LoadedClass

variable {methods : List Method} {summaries : List (Option CodeSummary)}

/-- An update puts in what the analysis gives, or leaves what it gave before. -/
theorem Truthful.of_updated (truthful : Truthful methods summaries) {place : Nat} {method : Method}
    {old : Option CodeSummary} {summary : CodeSummary} (there : methods[place]? = some method)
    (before : summaries[place]? = some old) (shown : updated old method.analyse = some summary) :
    method.analyse = .ok (some summary) := by
  unfold updated at shown
  split at shown
  · rename_i fresh given
    cases shown
    exact given
  · subst shown
    exact truthful _ _ _ there before

theorem Truthful.modify (truthful : Truthful methods summaries) {place : Nat} {method : Method}
    (found : methods[place]? = some method) :
    Truthful methods (summaries.modify place (updated · method.analyse)) := by
  intro other member summary there shown
  rw [List.getElem?_modify] at shown
  obtain ⟨old, before, same⟩ := Option.map_eq_some_iff.mp shown
  split at same
  · rename_i here
    subst here
    obtain rfl := Option.some.inj (found.symm.trans there)
    exact truthful.of_updated there before same
  · subst same
    exact truthful _ _ _ there before

theorem Truthful.map_zip (truthful : Truthful methods summaries) (chosen : Method → Bool) :
    Truthful methods ((methods.zip summaries).map fun (method, old) =>
      if chosen method then updated old method.analyse else old) := by
  intro place method summary there shown
  rw [List.getElem?_map] at shown
  obtain ⟨⟨member, old⟩, row, same⟩ := Option.map_eq_some_iff.mp shown
  obtain ⟨found, before⟩ := List.getElem?_zip_eq_some.mp row
  obtain rfl := Option.some.inj (found.symm.trans there)
  dsimp only at same
  split at same
  · exact truthful.of_updated there before same
  · rw [same] at before
    exact truthful _ _ _ there before

end LoadedClass

namespace Operation

/-- What a step that marks nothing may change. -/
structure Keeps (loaded later : LoadedClass) : Prop where
  file : later.file = loaded.file
  symbols : later.symbols.Holds loaded.file.pool loaded.symbols.marked
  matched : later.summaries.length = loaded.file.methods.length
  truthful : LoadedClass.Truthful loaded.file.methods later.summaries

variable {loaded later : LoadedClass} {names : List Text} {α : Type}

theorem Keeps.knows (keeps : Keeps loaded later) (knows : loaded.Knows names) :
    later.Knows names where
  resolved := by
    rw [keeps.file]
    exact knows.resolved
  symbols := by
    rw [keeps.file, keeps.symbols.marked]
    exact keeps.symbols
  marked := by
    rw [keeps.symbols.marked]
    exact knows.marked
  matched := by
    rw [keeps.file]
    exact keeps.matched
  truthful := by
    rw [keeps.file]
    exact keeps.truthful

section

variable (knows : loaded.Knows names)

include knows

/-- Only the symbol table and the known names of members change. -/
theorem keeps_symbols (file : later.file = loaded.file)
    (summaries : later.summaries = loaded.summaries)
    (kept : later.symbols.Holds loaded.file.pool loaded.symbols.marked) : Keeps loaded later where
  file := file
  symbols := kept
  matched := summaries ▸ knows.matched
  truthful := summaries ▸ knows.truthful

theorem keeps_self : Keeps loaded loaded :=
  keeps_symbols knows rfl rfl knows.symbols

theorem keeps_withMember {act : α → LoadedClass → Option Refusal × LoadedClass}
    (each : ∀ member, Keeps loaded (act member loaded).2) (member? : Option α) :
    Keeps loaded (withMember act member? loaded).2 := by
  cases member? with
  | some member => exact each member
  | none => exact keeps_self knows

theorem keeps_lookUp {search : Lookup α} {value : α}
    (answers : search.Answers loaded.file.pool loaded.symbols.marked value) :
    Keeps loaded (lookUp search loaded).2 := by
  obtain ⟨next, success, kept⟩ := answers loaded.symbols knows.symbols
  have step : (lookUp search loaded).2 = { loaded with symbols := next } := by
    simp only [lookUp, LoadedClass.lookup, success]
  rw [step]
  exact keeps_symbols knows rfl rfl kept

/-- A drawing may end early, and still leaves the table right. -/
theorem keeps_drawOn {drawing : Draw α} {stop? : Option Draw.Stop} {lead : List Printer.Action}
    (scripted : drawing.Scripted (·.Holds loaded.file.pool loaded.symbols.marked) stop? lead)
    (printer : Printer) : Keeps loaded (drawOn drawing printer loaded).2 := by
  obtain ⟨result, next, actions, kept, -, run⟩ := scripted loaded.symbols knows.symbols
  have step : (drawOn drawing printer loaded).2 = { loaded with symbols := next } := by
    simp only [drawOn, LoadedClass.draw, run]
  rw [step]
  exact keeps_symbols knows rfl rfl kept

theorem holds_place (name : Text) (known : Option (List Text)) {nameIndices : List Nat}
    (named : ∀ index ∈ nameIndices, loaded.file.pool.NamesText index) :
    (LoadedClass.place name known nameIndices loaded.symbols).2.2.Holds loaded.file.pool
      loaded.symbols.marked := by
  cases known with
  | some names =>
    have success : (pure names : Lookup (List Text)).run loaded.symbols =
        (.ok names, loaded.symbols) := rfl
    cases last : LoadedClass.lastPlace? name names <;>
      simp only [LoadedClass.place, success, last, knows.symbols]
  | none =>
    have texts : Lookup.Answers loaded.file.pool loaded.symbols.marked
        (nameIndices.mapM fun (index : Nat) => SymbolTable.utf8 index) _ :=
      Lookup.Answers.mapM fun index present => SymbolTable.answers_utf8 (named index present)
    obtain ⟨next, success, kept⟩ := texts loaded.symbols knows.symbols
    cases last : LoadedClass.lastPlace? name (nameIndices.map loaded.file.pool.textAt) <;>
      simp only [LoadedClass.place, success, last, kept]

theorem keeps_findField (name : Text) : Keeps loaded (loaded.findField name).2 := by
  refine keeps_symbols knows rfl rfl (holds_place knows name _ ?_)
  intro index present
  obtain ⟨field, listed, rfl⟩ := List.mem_map.mp present
  exact ⟨field.name, knows.resolved.fieldName field listed⟩

theorem keeps_findMethod (name : Text) : Keeps loaded (loaded.findMethod name).2 := by
  refine keeps_symbols knows rfl rfl (holds_place knows name _ ?_)
  intro index present
  obtain ⟨method, listed, rfl⟩ := List.mem_map.mp present
  exact ⟨method.name, knows.resolved.methodName method listed⟩

theorem keeps_analyseMethod (place : Nat) : Keeps loaded (loaded.analyseMethod place).2 := by
  unfold LoadedClass.analyseMethod
  split
  · exact keeps_self knows
  · rename_i found
    exact {
      file := rfl
      symbols := knows.symbols
      matched := (List.length_modify ..).trans knows.matched
      truthful := knows.truthful.modify found }

theorem keeps_analyseMethods (selection : Selection) :
    Keeps loaded (loaded.analyseMethods selection).2 where
  file := rfl
  symbols := knows.symbols
  matched := by
    have matched := knows.matched
    simp only [LoadedClass.analyseMethods, List.length_map, List.length_zip]
    omega
  truthful := knows.truthful.map_zip fun method => selection.includes method.name

theorem keeps_analyseAll (selection : Selection) :
    Keeps loaded (loaded.analyseAll selection).2 := by
  have kept := keeps_analyseMethods knows selection
  simp only [LoadedClass.analyseAll]
  split <;> exact kept

theorem knows_mark (name : Text) :
    LoadedClass.Knows { loaded with symbols := loaded.symbols.mark name } (names ++ [name]) where
  resolved := knows.resolved
  symbols := knows.symbols.mark name
  marked := fun other => by
    rw [SymbolTable.mem_marked_mark, knows.marked, List.mem_append, List.mem_singleton]
  matched := knows.matched
  truthful := knows.truthful

theorem knows_perform (operation : Operation) :
    (operation.perform loaded).2.Knows (names ++ operation.marked?.toList) := by
  have resolved := knows.resolved
  have unmarked {step : LoadedClass} (keeps : Keeps loaded step) : step.Knows (names ++ []) := by
    rw [List.append_nil]
    exact keeps.knows knows
  have served : loaded.file.Served (·.Holds loaded.file.pool loaded.symbols.marked) :=
    resolved.served_holds
  have types := Declaration.scriptedTypes_unbounded served.displayName
  cases operation with
  | mark name => exact knows_mark knows name
  | className => exact unmarked (keeps_lookUp knows resolved.answers_className)
  | superClassName => exact unmarked (keeps_lookUp knows resolved.answers_superClassName)
  | interfaceNames => exact unmarked (keeps_lookUp knows resolved.answers_interfaceNames)
  | classType => exact unmarked (keeps_lookUp knows resolved.answers_classType)
  | findField name => exact unmarked (keeps_findField knows name)
  | findMethod name => exact unmarked (keeps_findMethod knows name)
  | methodsNamed name => exact unmarked (keeps_self knows)
  | analyseMethod place => exact unmarked (keeps_analyseMethod knows place)
  | analyseMethods selection => exact unmarked (keeps_analyseMethods knows selection)
  | analyseAll selection => exact unmarked (keeps_analyseAll knows selection)
  | referencedClasses =>
    exact unmarked (keeps_lookUp knows (SymbolTable.answers_referencedClasses resolved.classes))
  | displayName name =>
    exact unmarked (keeps_lookUp knows (SymbolTable.answers_displayName resolved.classes name))
  | signature place includeAbstract =>
    apply unmarked
    apply keeps_withMember knows
    intro method
    exact keeps_lookUp knows (Declaration.answers_signature resolved method includeAbstract)
  | drawImports thisClass printer =>
    exact unmarked (keeps_drawOn knows (Imports.scripted_draw served thisClass) printer)
  | drawField place printer =>
    apply unmarked
    apply keeps_withMember knows
    intro field
    exact keeps_drawOn knows (Declaration.scripted_drawFieldWith types field) printer
  | drawMethod place printer =>
    apply unmarked
    apply keeps_withMember knows
    intro row
    exact keeps_drawOn knows (Declaration.scripted_drawMethodWith served types row.1 row.2) printer
  | drawAsInterface printer =>
    exact unmarked
      (keeps_drawOn knows (Declaration.scripted_drawAsInterfaceWith served types) printer)
  | drawAsClass printer =>
    exact unmarked
      (keeps_drawOn knows (Declaration.scripted_drawAsClassWith served types _) printer)
  | dump printer =>
    obtain ⟨stop?, scripted⟩ := Declaration.exists_scripted_drawWith served types loaded.summaries
    exact unmarked (keeps_drawOn knows scripted printer)
  | drawWithin stack part printer =>
    obtain ⟨stop?, scripted⟩ :=
      exists_scripted_part served (Declaration.scriptedTypes_within served.displayName stack) part
    exact unmarked (keeps_drawOn knows scripted printer)

end

theorem knows_after (knows : loaded.Knows names) (history : List Operation) :
    (after history loaded).Knows (names ++ history.filterMap marked?) := by
  induction history generalizing loaded names with
  | nil =>
    rw [List.filterMap_nil, List.append_nil]
    exact knows
  | cons operation rest ih =>
    have later := ih (knows_perform knows operation)
    have split : (operation :: rest).filterMap marked? =
        operation.marked?.toList ++ rest.filterMap marked? := by
      cases operation <;> rfl
    rw [split, ← List.append_assoc]
    exact later

end Operation

namespace LoadedClass

theorem knows_ofFile {file : ClassFile} (resolved : file.Resolved) :
    (ofFile file).Knows file.references where
  resolved := resolved
  symbols := SymbolTable.holds_ofNames
  marked := fun _ => Iff.rfl
  matched := List.length_map ..
  truthful := by
    intro place method summary _ shown
    rw [ofFile, List.getElem?_map] at shown
    obtain ⟨_, _, absurdity⟩ := Option.map_eq_some_iff.mp shown
    cases absurdity

theorem dump_of_run {now : LoadedClass} {printer : Printer} {result : Except DrawFault Unit}
    {next : Canvas}
    (run : (Declaration.draw now.file now.summaries).run { symbols := now.symbols, printer } =
      (result, next)) :
    now.dump printer = (result, { now with symbols := next.symbols }, next.printer) := by
  simp only [dump, draw, run]

/-- On a printer of its own a class is its rendition, or fails as that does. -/
theorem Knows.dump {now : LoadedClass} {names : List Text} (knows : now.Knows names) :
    (now.dump {}).1.map (fun _ => (now.dump {}).2.2.text) =
      (Rendition.text (now.file.pool.referenced names) now.file now.summaries).mapError
        DrawFault.literal := by
  have resolved := knows.resolved
  rw [← ConstantPool.referenced_congr knows.marked]
  cases made : Rendition.text (now.file.pool.referenced now.symbols.marked) now.file
      now.summaries with
  | ok text =>
    obtain ⟨next, run, written⟩ :=
      (Declaration.delivers_draw resolved knows.matched made).run_new knows.symbols
    rw [dump_of_run run]
    exact congrArg Except.ok written
  | error fault =>
    obtain ⟨isClass, place, lines, stops⟩ := (Rendition.text_eq_error_iff _).mp made
    obtain ⟨next, run, _⟩ :=
      (Declaration.delivers_draw_error resolved now.summaries isClass stops).run_new knows.symbols
    rw [dump_of_run run]
    rfl

/-- Apart from the opening, a class does the same to every printer. -/
theorem Knows.exists_script {loaded : LoadedClass} {names : List Text} (knows : loaded.Knows names)
    (stack : Stack) :
    ∃ result next actions, Draw.Ends (loaded.file.stop? stack.stop?) result ∧
      (∀ printer, loaded.dumpWithin stack printer =
        (result, next, printer.performAll (Declaration.opening ++ actions))) ∧
      (loaded.file.stop? stack.stop? = none → (Printer.alone actions).Settled) := by
  have served := knows.resolved.served
  have scripted := Declaration.scripted_drawWith served
    (Declaration.scriptedTypes_within served.displayName stack) knows.matched
  obtain ⟨result, next, actions, -, ends, run⟩ := scripted loaded.symbols knows.symbols.pool
  refine ⟨result, { loaded with symbols := next }, actions, ends, fun printer => ?_, fun none => ?_⟩
  · simp only [dumpWithin, draw, run]
  · rw [none] at ends
    obtain ⟨value, success⟩ := ends
    rw [success] at run
    exact Declaration.settles_drawWith loaded.file loaded.summaries _ _ (run {})

end LoadedClass

end ClassOutline
