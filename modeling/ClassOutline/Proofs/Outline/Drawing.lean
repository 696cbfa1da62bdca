import ClassOutline.Proofs.Outline.Dimensions
import ClassOutline.Proofs.Outline.Script
import ClassOutline.Proofs.Symbols.Resolution

set_option autoImplicit false

namespace ClassOutline

open Printer (Action)

variable {α β : Type} {Good : SymbolTable → Prop}

/-- A search that succeeds in every good table, and leaves a good one behind. -/
def Lookup.FoundIn (Good : SymbolTable → Prop) (search : Lookup α) : Prop :=
  ∀ table : SymbolTable, Good table →
    ∃ value next, search.run table = (.ok value, next) ∧ Good next

/-- In good tables a drawing of a class finds every name that it looks up. -/
structure ClassFile.Served (file : ClassFile) (Good : SymbolTable → Prop) : Prop where
  className : file.className.FoundIn Good
  classType : file.classType.FoundIn Good
  superType : ∀ nameIndex, file.superClass = some nameIndex →
    (SymbolTable.typeName nameIndex).FoundIn Good
  interfaceType : ∀ nameIndex ∈ file.interfaces, (SymbolTable.typeName nameIndex).FoundIn Good
  referencedClasses : SymbolTable.referencedClasses.FoundIn Good
  displayName : ∀ name, (SymbolTable.displayName name).FoundIn Good

theorem ClassFile.Resolved.served {file : ClassFile} (resolved : file.Resolved) :
    file.Served (·.pool = file.pool) where
  className := resolved.finds_className
  classType := resolved.finds_classType
  superType := fun nameIndex found =>
    SymbolTable.finds_typeName resolved.classes (resolved.superClass nameIndex found)
  interfaceType := fun nameIndex listed =>
    SymbolTable.finds_typeName resolved.classes (resolved.interfaces nameIndex listed)
  referencedClasses := SymbolTable.finds_referencedClasses resolved.classes
  displayName := SymbolTable.finds_displayName resolved.classes

/-- What can stop a drawing that finds all names: a constant without source form, or a type that
there is no room for. -/
inductive Draw.Stop
  | literal (fault : LiteralFault)
  | tooDeep
deriving DecidableEq, Repr

def Draw.Stop.fault : Stop → DrawFault
  | literal fault => .literal fault
  | tooDeep => .tooDeep

/-- An end of a drawing: what stopped it, or nothing. -/
def Draw.Ends (stop? : Option Stop) (result : Except DrawFault α) : Prop :=
  match stop? with
  | none => ∃ value, result = .ok value
  | some stop => result = .error stop.fault

/-- Over each good table a drawing ends as said and leaves a good one behind, and what it does to a
printer is a script that starts as said, the same for every printer. -/
def Draw.Scripted (Good : SymbolTable → Prop) (stop? : Option Stop) (lead : List Action)
    (drawing : Draw α) : Prop :=
  ∀ symbols : SymbolTable, Good symbols → ∃ result next actions,
    Good next ∧ Ends stop? result ∧
      ∀ printer, drawing.run { symbols, printer } =
        (result, { symbols := next, printer := printer.performAll (lead ++ actions) })

namespace Draw.Scripted

variable {first? second? : Option Stop} {lead : List Action}

theorem pure (value : α) : Scripted Good none [] (Pure.pure value) :=
  fun symbols good => ⟨.ok value, symbols, [], good, ⟨value, rfl⟩, fun _ => rfl⟩

theorem throw (stop : Stop) :
    Scripted Good (some stop) [] (MonadExcept.throw stop.fault : Draw α) :=
  fun symbols good => ⟨.error stop.fault, symbols, [], good, rfl, fun _ => rfl⟩

theorem change (action : Action) : Scripted Good none [action] (Draw.change (·.perform action)) :=
  fun symbols good => ⟨.ok (), symbols, [], good, ⟨(), rfl⟩, fun _ => rfl⟩

theorem forget {drawing : Draw α} (scripted : Scripted Good first? lead drawing) :
    Scripted Good first? [] drawing := by
  intro symbols good
  obtain ⟨result, next, actions, kept, ends, run⟩ := scripted symbols good
  exact ⟨result, next, lead ++ actions, kept, ends, run⟩

theorem print (text : Text) : Scripted Good none [] (Draw.print text) :=
  (change (.print text)).forget

/-- The first stop is the one that shows. -/
theorem bind_or {first : Draw α} {rest : α → Draw β} (here : Scripted Good first? lead first)
    (others : ∀ value, Scripted Good second? [] (rest value)) :
    Scripted Good (first?.or second?) lead (first >>= rest) := by
  intro symbols good
  obtain ⟨result, next, actions, kept, ends, run⟩ := here symbols good
  cases first? with
  | some stop =>
    have failed : result = .error stop.fault := ends
    subst failed
    refine ⟨.error stop.fault, next, actions, kept, rfl, fun printer => ?_⟩
    exact run_bind_of_error (run printer) rest
  | none =>
    obtain ⟨value, success⟩ := ends
    subst success
    obtain ⟨final, last, more, keptToo, endsToo, runToo⟩ := others value next kept
    refine ⟨final, last, actions ++ more, keptToo, endsToo, fun printer => ?_⟩
    rw [run_bind_of_ok (run printer), runToo, List.nil_append, ← Printer.performAll_append,
      List.append_assoc]

theorem bind {first : Draw α} {rest : α → Draw β} (here : Scripted Good none lead first)
    (others : ∀ value, Scripted Good second? [] (rest value)) :
    Scripted Good second? lead (first >>= rest) :=
  here.bind_or others

theorem bind_sure {first : Draw α} {rest : α → Draw β}
    (here : Scripted Good first? lead first)
    (others : ∀ value, Scripted Good none [] (rest value)) :
    Scripted Good first? lead (first >>= rest) := by
  have both := here.bind_or others
  rwa [Option.or_none] at both

theorem map {drawing : Draw α} (scripted : Scripted Good first? lead drawing) (change : α → β) :
    Scripted Good first? lead (change <$> drawing) := by
  rw [map_eq_pure_bind]
  exact scripted.bind_sure fun _ => pure _

theorem change_bind {action : Action} {rest : Unit → Draw β}
    (later : Scripted Good first? lead (rest ())) :
    Scripted Good first? (action :: lead) (Draw.change (·.perform action) >>= rest) := by
  intro symbols good
  obtain ⟨result, next, actions, kept, ends, run⟩ := later symbols good
  exact ⟨result, next, actions, kept, ends, fun printer => run (printer.perform action)⟩

theorem lookup {search : Lookup α} (found : search.FoundIn Good) :
    Scripted Good none [] (Draw.lookup search) := by
  intro symbols good
  obtain ⟨value, next, success, kept⟩ := found symbols good
  refine ⟨.ok value, next, [], kept, ⟨value, rfl⟩, fun printer => ?_⟩
  show ((search.run symbols).1.mapError DrawFault.symbol,
    Canvas.mk (search.run symbols).2 printer) = _
  rw [success]
  rfl

theorem indented {body : Draw Unit} (scripted : Scripted Good first? [] body) :
    Scripted Good first? [] (Draw.indented body) := by
  intro symbols good
  obtain ⟨result, next, actions, kept, ends, run⟩ := scripted symbols good
  refine ⟨result, next, [.block actions], kept, ends, fun printer => ?_⟩
  have inner := run printer.indent
  show ((body.run ⟨symbols, printer.indent⟩).1,
    Canvas.mk (body.run ⟨symbols, printer.indent⟩).2.symbols
      (body.run ⟨symbols, printer.indent⟩).2.printer.dedent) = _
  rw [inner]
  rfl

theorem ite {condition : Prop} [Decidable condition] {yes no : Draw α}
    (whenTrue : Scripted Good first? lead yes) (whenFalse : Scripted Good first? lead no) :
    Scripted Good first? lead (if condition then yes else no) := by
  split
  · exact whenTrue
  · exact whenFalse

theorem forM {items : List α} {body : α → Draw Unit} {stop? : α → Option Stop}
    (each : ∀ item ∈ items, Scripted Good (stop? item) [] (body item)) :
    Scripted Good (items.findSome? stop?) [] (items.forM body) := by
  induction items with
  | nil => exact pure ()
  | cons item rest ih =>
    have later := ih fun other present => each other (List.mem_cons_of_mem item present)
    have both := (each item List.mem_cons_self).bind_or fun _ => later
    show Scripted Good _ [] (body item >>= fun _ => rest.forM body)
    rw [List.findSome?_cons]
    cases found : stop? item <;> rwa [found] at both

theorem mapM {items : List α} {body : α → Draw β} {stop? : α → Option Stop}
    (each : ∀ item ∈ items, Scripted Good (stop? item) [] (body item)) :
    Scripted Good (items.findSome? stop?) [] (items.mapM body) := by
  induction items with
  | nil => exact pure []
  | cons item rest ih =>
    have later := ih fun other present => each other (List.mem_cons_of_mem item present)
    have both := (each item List.mem_cons_self).bind_or fun value =>
      later.bind_sure fun values => pure (value :: values)
    rw [List.mapM_cons, List.findSome?_cons]
    cases found : stop? item <;> rwa [found] at both

theorem findSome?_none (items : List α) :
    (items.findSome? fun _ => (none : Option Stop)) = none :=
  List.findSome?_eq_none_iff.mpr fun _ _ => rfl

theorem forM_none {items : List α} {body : α → Draw Unit}
    (each : ∀ item ∈ items, Scripted Good none [] (body item)) :
    Scripted Good none [] (items.forM body) := by
  rw [← findSome?_none items]
  exact forM each

theorem mapM_none {items : List α} {body : α → Draw β}
    (each : ∀ item ∈ items, Scripted Good none [] (body item)) :
    Scripted Good none [] (items.mapM body) := by
  rw [← findSome?_none items]
  exact mapM each

end Draw.Scripted

/-- A drawing that, if nothing is wrong, ends at the start of a line. -/
def Draw.Settles (drawing : Draw Unit) : Prop :=
  ∀ canvas next, drawing.run canvas = (.ok (), next) → next.printer.Settled

theorem Draw.Settles.bind {rest : α → Draw Unit} (others : ∀ value, Settles (rest value))
    (first : Draw α) : Settles (first >>= rest) := by
  intro canvas next success
  obtain ⟨value, between, -, later⟩ := run_bind_eq_ok_iff.mp success
  exact others value between next later

theorem Draw.settles_print {line : Text} (single : Text.lines line = [line])
    (ends : line.getLast? = some 0x0A) : Settles (Draw.print line) := by
  intro canvas next success
  cases success
  exact Printer.settled_print single ends canvas.printer

open Draw

/-- Why a field has no source form: its constant has none. -/
def Field.literalFault? (field : Field) : Option LiteralFault :=
  field.constantValue?.bind fun literal =>
    match literalText literal field.descriptor with
    | .ok _ => none
    | .error fault => some fault

/-- What stops a type: it has too many dimensions. -/
def Stack.stop? (stack : Stack) (type : Text) : Option Stop :=
  if Descriptor.dimensions type ≤ stack.dimensions then none else some .tooDeep

section

variable (typeStop? : Text → Option Stop)

/-- What stops the drawing of a field. Its type comes before its constant. -/
def Field.stop? (field : Field) : Option Stop :=
  (typeStop? field.descriptor).or (field.literalFault?.map .literal)

def Method.stop? (method : Method) : Option Stop :=
  method.shownTypes.findSome? typeStop?

/-- What stops the drawing of a class. An interface is drawn without its fields. -/
def ClassFile.stop? (file : ClassFile) : Option Stop :=
  if file.isInterface then file.methods.findSome? (·.stop? typeStop?)
  else (file.fields.findSome? (·.stop? typeStop?)).or (file.methods.findSome? (·.stop? typeStop?))

end

variable {file : ClassFile}

/-- If each constant has a source form, a class is stopped by the types that it shows. -/
theorem ClassFile.stop?_eq_findSome? (literals : file.stop? (fun _ => none) = none)
    (typeStop? : Text → Option Stop) :
    file.stop? typeStop? = file.shownTypes.findSome? typeStop? := by
  unfold stop? at literals ⊢
  unfold shownTypes
  have methods : (file.methods.flatMap (·.shownTypes)).findSome? typeStop? =
      file.methods.findSome? (·.stop? typeStop?) := by
    rw [← List.head?_filterMap, List.filterMap_flatMap, List.head?_flatMap]
    simp only [List.head?_filterMap]
    rfl
  rw [List.findSome?_append, methods]
  split
  · rfl
  · rename_i isClass
    rw [if_neg isClass, Option.or_eq_none_iff, List.findSome?_eq_none_iff] at literals
    have fields : ∀ field ∈ file.fields, field.stop? typeStop? = typeStop? field.descriptor := by
      intro field listed
      have literal := literals.1 field listed
      rw [Field.stop?, Option.none_or] at literal
      rw [Field.stop?, literal, Option.or_none]
    rw [← List.head?_filterMap, List.filterMap_congr fields, List.head?_filterMap,
      List.findSome?_map]
    rfl

/-- A type that there is no room for stops a class that nothing else stops. -/
theorem ClassFile.stop?_eq_tooDeep {stack : Stack} {type : Text}
    (literals : file.stop? (fun _ => none) = none) (shown : type ∈ file.shownTypes)
    (tooMany : stack.dimensions < Descriptor.dimensions type) :
    file.stop? stack.stop? = some .tooDeep := by
  rw [stop?_eq_findSome? literals]
  cases found : file.shownTypes.findSome? stack.stop? with
  | none =>
    have fits := List.findSome?_eq_none_iff.mp found type shown
    rw [Stack.stop?, if_neg (Nat.not_le.mpr tooMany)] at fits
    cases fits
  | some stop =>
    obtain ⟨other, -, stops⟩ := List.exists_of_findSome?_eq_some found
    rw [Stack.stop?] at stops
    split at stops <;> cases stops
    rfl

namespace Imports

variable (served : file.Served Good) (thisClass : Text)

include served

theorem scripted_drawOne (name : Text) :
    Scripted Good none [] (drawOne thisClass name) := by
  unfold drawOne
  split
  · exact Scripted.pure false
  · apply (Scripted.lookup (served.displayName name)).bind
    intro shown
    split
    · exact Scripted.pure false
    · exact (Scripted.print _).bind fun _ => Scripted.pure true

theorem scripted_draw :
    Scripted Good none [] (draw thisClass) := by
  unfold draw
  apply (Scripted.lookup served.referencedClasses).bind
  intro referenced
  apply (Scripted.mapM_none fun name _ => scripted_drawOne served thisClass name).bind
  intro drawn
  dsimp only
  split
  · exact (Scripted.print _).bind fun _ => Scripted.pure _
  · exact Scripted.pure _

end Imports

namespace Declaration

variable {written : Text → Draw Text} {typeStop? : Text → Option Stop}

theorem findSome?_zip {methods : List Method} {summaries : List (Option CodeSummary)}
    (matched : summaries.length = methods.length) :
    ((methods.zip summaries).findSome? fun row => row.1.stop? typeStop?) =
      methods.findSome? fun method => method.stop? typeStop? := by
  have first : (methods.zip summaries).map Prod.fst = methods :=
    List.map_fst_zip (Nat.le_of_eq matched.symm)
  conv => rhs; rw [← first, List.findSome?_map]
  rfl

/-- How types are written, and which of them there is no room for. -/
def ScriptedTypes (Good : SymbolTable → Prop) (written : Text → Draw Text)
    (typeStop? : Text → Option Stop) : Prop :=
  ∀ type, Scripted Good (typeStop? type) [] (written type)

theorem scriptedTypes_unbounded
    (displayed : ∀ name, (SymbolTable.displayName name).FoundIn Good) :
    ScriptedTypes Good unboundedTypeText fun _ => none := by
  intro type
  unfold unboundedTypeText typeText
  rw [Descriptor.lookup_format]
  induction type with
  | nil => exact Scripted.pure []
  | cons first rest ih =>
    rw [Descriptor.format]
    split
    · exact ih.bind fun _ => Scripted.pure _
    · split
      · exact Scripted.pure _
      · split
        · exact Scripted.lookup (displayed _)
        · exact Scripted.pure _

theorem scriptedTypes_within
    (displayed : ∀ name, (SymbolTable.displayName name).FoundIn Good) (stack : Stack) :
    ScriptedTypes Good (typeTextWithin stack) stack.stop? := by
  intro type
  unfold Stack.stop?
  split
  · rename_i fits
    rw [typeTextWithin_of_le fits]
    exact scriptedTypes_unbounded displayed type
  · rename_i exceeds
    rw [typeTextWithin_of_lt (Nat.lt_of_not_le exceeds)]
    exact Scripted.throw .tooDeep

theorem scripted_drawFieldWith (types : ScriptedTypes Good written typeStop?) (field : Field) :
    Scripted Good (field.stop? typeStop?) [] (drawFieldWith written field) := by
  unfold drawFieldWith Field.stop? Field.literalFault?
  apply (types field.descriptor).bind_or
  intro type
  cases field.constantValue? with
  | none => exact (Scripted.pure _).bind fun _ => Scripted.print _
  | some literal =>
    cases made : literalText literal field.descriptor with
    | ok text =>
      simp only [Option.bind_some, made]
      exact (Scripted.pure _).bind fun _ => Scripted.print _
    | error fault =>
      simp only [Option.bind_some, made]
      exact (Scripted.throw (.literal fault)).bind_or fun _ => Scripted.print _

theorem scripted_parameters (types : ScriptedTypes Good written typeStop?) (varargs : Bool)
    (count : Nat) (parameters : List Text) :
    Scripted Good (parameters.findSome? typeStop?) []
      (parameters.zipIdx.mapM fun row => parameterWith written varargs count row.1 row.2) := by
  have first : parameters.zipIdx.map Prod.fst = parameters := List.zipIdx_map_fst 0 parameters
  have stops : parameters.findSome? typeStop? =
      parameters.zipIdx.findSome? fun row => typeStop? row.1 := by
    conv => lhs; rw [← first, List.findSome?_map]
    rfl
  rw [stops]
  exact Scripted.mapM fun row _ => (types row.1).bind_sure fun _ => Scripted.pure _

theorem scripted_drawTypes (keyword : Text) {nameIndices : List Nat}
    (found : ∀ nameIndex ∈ nameIndices, (SymbolTable.typeName nameIndex).FoundIn Good) :
    Scripted Good none [] (drawTypes keyword nameIndices) := by
  unfold drawTypes
  apply Scripted.ite
  · apply (Scripted.print _).bind
    intro _
    apply Scripted.forM_none
    intro row listed
    have known := found row.1 (List.fst_mem_of_mem_zipIdx listed)
    exact (Scripted.lookup known).bind fun _ => Scripted.print _
  · exact Scripted.pure ()

variable (served : file.Served Good)

include served

theorem scripted_signatureWith (types : ScriptedTypes Good written typeStop?)
    (method : Method) (includeAbstract : Bool) :
    Scripted Good (method.stop? typeStop?) []
      (signatureWith Draw.lookup written file method includeAbstract) := by
  have thrown : Scripted Good none []
      (Draw.lookup (method.exceptions.mapM SymbolTable.displayName)) := by
    rw [Draw.lookup_mapM]
    exact Scripted.mapM_none fun name _ => Scripted.lookup (served.displayName name)
  unfold signatureWith Method.stop? Method.shownTypes
  split
  · exact Scripted.pure _
  · by_cases isConstructor : method.name = "<init>"
    · simp only [if_pos isConstructor]
      apply (scripted_parameters types _ _ _).bind_sure
      intro _
      apply (Scripted.lookup served.classType).bind
      exact fun _ => thrown.bind fun _ => Scripted.pure _
    · simp only [if_neg isConstructor]
      rw [List.findSome?_append]
      apply (scripted_parameters types _ _ _).bind_or
      intro _
      rw [List.findSome?_singleton]
      apply ((types _).map _).bind_sure
      exact fun _ => thrown.bind fun _ => Scripted.pure _

theorem scripted_drawMethodWith (types : ScriptedTypes Good written typeStop?)
    (method : Method) (summary : Option CodeSummary) :
    Scripted Good (method.stop? typeStop?) []
      (drawMethodWith written file method summary) := by
  unfold drawMethodWith
  apply (scripted_signatureWith served types method true).bind_sure
  intro text
  cases method.code? with
  | none => exact Scripted.print _
  | some code =>
    apply (Scripted.print _).bind
    intro _
    exact (Scripted.print _).indented.bind fun _ => Scripted.print _

theorem scripted_drawInterfaceHeader :
    Scripted Good none [] (drawInterfaceHeader file) := by
  unfold drawInterfaceHeader
  apply (Scripted.lookup served.classType).bind
  intro type
  apply (Scripted.print _).bind
  intro _
  apply (scripted_drawTypes _ served.interfaceType).bind
  exact fun _ => (Scripted.change .dropBreak).forget

theorem scripted_drawClassHeader : Scripted Good none [] (drawClassHeader file) := by
  unfold drawClassHeader
  have ending :=
    (scripted_drawTypes "implements" served.interfaceType).bind
      fun _ => (Scripted.change .dropBreak).forget
  apply (Scripted.lookup served.classType).bind
  intro type
  apply (Scripted.print _).bind
  intro _
  cases found : file.superClass with
  | none => exact (Scripted.pure ()).bind fun _ => ending
  | some nameIndex =>
    apply (Scripted.lookup (served.superType nameIndex found)).bind
    intro superType
    exact (Scripted.print _).bind fun _ => ending

/-- How the drawing of every class starts. -/
def opening : List Action :=
  [.freshLine, .print "// Imports\n"]

theorem scripted_drawPreamble : Scripted Good none opening (drawPreamble file) := by
  have references : Scripted Good none []
      (do let _ ← Imports.draw (← Draw.lookup file.className)) := by
    apply (Scripted.lookup served.className).bind
    intro name
    exact (Imports.scripted_draw served name).bind fun _ => Scripted.pure ()
  exact Scripted.change_bind references.change_bind

theorem scripted_drawAsInterfaceWith (types : ScriptedTypes Good written typeStop?) :
    Scripted Good (file.methods.findSome? (·.stop? typeStop?)) opening
      (drawAsInterfaceWith written file) := by
  unfold drawAsInterfaceWith
  apply (scripted_drawPreamble served).bind
  intro _
  apply (scripted_drawInterfaceHeader served).bind
  intro _
  apply (Scripted.print _).bind
  intro _
  have softBreak : Scripted Good none [] (Draw.change Printer.softBreak) :=
    (Scripted.change .softBreak).forget
  apply Scripted.bind_sure _ fun _ => Scripted.print _
  apply Scripted.indented
  dsimp only
  split
  · apply (Scripted.print _).bind
    intro _
    apply Scripted.bind_sure _ fun _ => softBreak
    apply Scripted.forM
    intro method _
    apply softBreak.bind
    intro _
    exact (scripted_signatureWith served types method false).bind_sure fun _ => Scripted.print _
  · rename_i absent
    have none_left : file.methods = [] := by simpa using absent
    rw [none_left]
    exact softBreak

theorem scripted_drawAsClassWith (types : ScriptedTypes Good written typeStop?)
    (summaries : List (Option CodeSummary)) :
    Scripted Good
      ((file.fields.findSome? (·.stop? typeStop?)).or
        ((file.methods.zip summaries).findSome? (·.1.stop? typeStop?))) opening
      (drawAsClassWith written file summaries) := by
  have softBreak : Scripted Good none [] (Draw.change Printer.softBreak) :=
    (Scripted.change .softBreak).forget
  unfold drawAsClassWith
  apply (scripted_drawPreamble served).bind
  intro _
  apply (scripted_drawClassHeader served).bind
  intro _
  apply (Scripted.print _).bind
  intro _
  apply Scripted.bind_sure _ fun _ => Scripted.print _
  apply Scripted.indented
  have methods : Scripted Good
      ((file.methods.zip summaries).findSome? (·.1.stop? typeStop?)) [] (do
      if !file.methods.isEmpty then
        Draw.print "// Methods\n"
        (file.methods.zip summaries).forM fun row => do
          Draw.change Printer.softBreak
          drawMethodWith written file row.1 row.2
      Draw.change Printer.softBreak) := by
    dsimp only
    split
    · apply (Scripted.print _).bind
      intro _
      apply Scripted.bind_sure _ fun _ => softBreak
      apply Scripted.forM
      intro row _
      exact softBreak.bind fun _ => scripted_drawMethodWith served types row.1 row.2
    · rename_i absent
      have none_left : file.methods = [] := by simpa using absent
      rw [none_left]
      exact softBreak
  dsimp only
  split
  · apply (Scripted.print _).bind
    intro _
    have fields : Scripted Good (file.fields.findSome? (·.stop? typeStop?)) []
        (file.fields.forM (drawFieldWith written)) :=
      Scripted.forM fun field _ => scripted_drawFieldWith types field
    exact fields.bind_or fun _ => methods
  · rename_i absent
    have none_left : file.fields = [] := by simpa using absent
    rw [none_left]
    exact methods

theorem scripted_drawWith (types : ScriptedTypes Good written typeStop?)
    {summaries : List (Option CodeSummary)} (matched : summaries.length = file.methods.length) :
    Scripted Good (file.stop? typeStop?) opening (drawWith written file summaries) := by
  unfold drawWith ClassFile.stop?
  split
  · exact scripted_drawAsInterfaceWith served types
  · rw [← findSome?_zip matched]
    exact scripted_drawAsClassWith served types summaries

/-- Whatever the summaries are. -/
theorem exists_scripted_drawWith (types : ScriptedTypes Good written typeStop?)
    (summaries : List (Option CodeSummary)) :
    ∃ stop?, Scripted Good stop? opening (drawWith written file summaries) := by
  unfold drawWith
  split
  · exact ⟨_, scripted_drawAsInterfaceWith served types⟩
  · exact ⟨_, scripted_drawAsClassWith served types summaries⟩

omit served

theorem settles_drawWith (file : ClassFile) (summaries : List (Option CodeSummary)) :
    Settles (drawWith written file summaries) := by
  have closed : Settles (Draw.print "\x7d\n") := settles_print (by decide) (by decide)
  unfold drawWith
  split
  · unfold drawAsInterfaceWith
    iterate 4 apply Settles.bind; intro _
    exact closed
  · unfold drawAsClassWith
    iterate 4 apply Settles.bind; intro _
    exact closed

end Declaration

end ClassOutline
