import ClassOutline.LoadedClass
import ClassOutline.Proofs.Outline.Drawing

set_option autoImplicit false

namespace ClassOutline

/-- What is drawn of a loaded class. Members are named by their places. -/
inductive Part
  | signature (place : Nat) (includeAbstract : Bool)
  | field (place : Nat)
  | method (place : Nat)
  | whole

/-- Draws a part with the types in it written as said, or nothing if there is no such member. -/
def Part.draw (written : Text → Draw Text) (loaded : LoadedClass) : Part → Draw Unit
  | .signature place includeAbstract =>
    loaded.file.methods[place]?.forM fun method => do
      let _ ← Declaration.signatureWith Draw.lookup written loaded.file method includeAbstract
  | .field place => loaded.file.fields[place]?.forM (Declaration.drawFieldWith written)
  | .method place =>
    (loaded.file.methods.zip loaded.summaries)[place]?.forM fun row =>
      Declaration.drawMethodWith written loaded.file row.1 row.2
  | .whole => Declaration.drawWith written loaded.file loaded.summaries

/-- Something to ask of a loaded class. Members are named by their places, and what is drawn goes
to a printer of any state. -/
inductive Operation
  | className
  | superClassName
  | interfaceNames
  | classType
  | findField (name : Text)
  | findMethod (name : Text)
  | methodsNamed (name : Text)
  | analyseMethod (place : Nat)
  | analyseMethods (selection : Selection)
  | analyseAll (selection : Selection)
  | mark (name : Text)
  | referencedClasses
  | displayName (name : Text)
  | signature (place : Nat) (includeAbstract : Bool)
  | drawImports (thisClass : Text) (printer : Printer)
  | drawField (place : Nat) (printer : Printer)
  | drawMethod (place : Nat) (printer : Printer)
  | drawAsInterface (printer : Printer)
  | drawAsClass (printer : Printer)
  | dump (printer : Printer)
  | drawWithin (stack : Stack) (part : Part) (printer : Printer)

/-- Why something asked of a loaded class is refused. -/
inductive Refusal
  | decode (error : DecodeError)
  | notFound (name : Text)
  | literal (fault : LiteralFault)
  | tooDeep
  | analysis (fault : AnalysisFault)
  | analyses (failures : List AnalysisOutcome)

namespace Refusal

def ofName : NameFault → Refusal
  | .symbol error => .decode error
  | .notFound name => .notFound name

def ofDraw : DrawFault → Refusal
  | .symbol error => .decode error
  | .literal fault => .literal fault
  | .tooDeep => .tooDeep

end Refusal

namespace Operation

def refusal? {ε α : Type} (convert : ε → Refusal) : Except ε α → Option Refusal
  | .ok _ => none
  | .error fault => some (convert fault)

def lookUp {α : Type} (search : Lookup α) (loaded : LoadedClass) :
    Option Refusal × LoadedClass :=
  let (result, after) := loaded.lookup search
  (refusal? .decode result, after)

def drawOn {α : Type} (drawing : Draw α) (printer : Printer) (loaded : LoadedClass) :
    Option Refusal × LoadedClass :=
  let (result, after, _) := loaded.draw drawing printer
  (refusal? .ofDraw result, after)

def withMember {α : Type} (act : α → LoadedClass → Option Refusal × LoadedClass)
    (member? : Option α) (loaded : LoadedClass) : Option Refusal × LoadedClass :=
  match member? with
  | some member => act member loaded
  | none => (none, loaded)

/-- The refusal, if the operation is refused, and the class after it. -/
def perform (loaded : LoadedClass) : Operation → Option Refusal × LoadedClass
  | .className => lookUp loaded.file.className loaded
  | .superClassName => lookUp loaded.file.superClassName loaded
  | .interfaceNames => lookUp loaded.file.interfaceNames loaded
  | .classType => lookUp loaded.file.classType loaded
  | .findField name =>
    let (result, after) := loaded.findField name
    (refusal? .ofName result, after)
  | .findMethod name =>
    let (result, after) := loaded.findMethod name
    (refusal? .ofName result, after)
  | .methodsNamed _ => (none, loaded)
  | .analyseMethod place =>
    let (result, after) := loaded.analyseMethod place
    (result.bind (refusal? .analysis), after)
  | .analyseMethods selection => (none, (loaded.analyseMethods selection).2)
  | .analyseAll selection =>
    let (result, after) := loaded.analyseAll selection
    (refusal? .analyses result, after)
  | .mark name => (none, { loaded with symbols := loaded.symbols.mark name })
  | .referencedClasses => lookUp SymbolTable.referencedClasses loaded
  | .displayName name => lookUp (SymbolTable.displayName name) loaded
  | .signature place includeAbstract =>
    withMember (fun method => lookUp (Declaration.signature loaded.file method includeAbstract))
      loaded.file.methods[place]? loaded
  | .drawImports thisClass printer => drawOn (Imports.draw thisClass) printer loaded
  | .drawField place printer =>
    withMember (fun field => drawOn (Declaration.drawField field) printer)
      loaded.file.fields[place]? loaded
  | .drawMethod place printer =>
    withMember
      (fun (row : Method × Option CodeSummary) =>
        drawOn (Declaration.drawMethod loaded.file row.1 row.2) printer)
      (loaded.file.methods.zip loaded.summaries)[place]? loaded
  | .drawAsInterface printer => drawOn (Declaration.drawAsInterface loaded.file) printer loaded
  | .drawAsClass printer =>
    drawOn (Declaration.drawAsClass loaded.file loaded.summaries) printer loaded
  | .dump printer => drawOn (Declaration.draw loaded.file loaded.summaries) printer loaded
  | .drawWithin stack part printer =>
    drawOn (part.draw (Declaration.typeTextWithin stack) loaded) printer loaded

/-- The class after some operations. A refused one leaves behind what it did before. -/
def after (history : List Operation) (loaded : LoadedClass) : LoadedClass :=
  history.foldl (fun before operation => (operation.perform before).2) loaded

end Operation

/-- A class whose names all resolve in the pool that it looks them up in. -/
structure LoadedClass.Sound (loaded : LoadedClass) : Prop where
  resolved : loaded.file.Resolved
  pool : loaded.symbols.pool = loaded.file.pool

namespace Operation

/-- A step that keeps the class sound and its file as it is, without a fault of decoding. -/
structure Safe (loaded : LoadedClass) (step : Option Refusal × LoadedClass) : Prop where
  file : step.2.file = loaded.file
  pool : step.2.symbols.pool = loaded.symbols.pool
  noDecodeFault : ∀ error, step.1 ≠ some (.decode error)

theorem Safe.sound {loaded : LoadedClass} {step : Option Refusal × LoadedClass}
    (safe : Safe loaded step) (sound : loaded.Sound) : step.2.Sound where
  resolved := by
    rw [safe.file]
    exact sound.resolved
  pool := by
    rw [safe.file, safe.pool]
    exact sound.pool

theorem Safe.of_none {loaded after : LoadedClass} (file : after.file = loaded.file)
    (pool : after.symbols.pool = loaded.symbols.pool) : Safe loaded (none, after) where
  file := file
  pool := pool
  noDecodeFault := nofun

variable {loaded : LoadedClass} {α : Type}

theorem safe_withMember {act : α → LoadedClass → Option Refusal × LoadedClass}
    (each : ∀ member, Safe loaded (act member loaded)) (member? : Option α) :
    Safe loaded (withMember act member? loaded) := by
  cases member? with
  | some member => exact each member
  | none => exact Safe.of_none rfl rfl

theorem safe_lookUp {search : Lookup α} (found : search.Finds loaded.symbols.pool) :
    Safe loaded (lookUp search loaded) := by
  obtain ⟨value, next, success, kept⟩ := found loaded.symbols rfl
  have run : lookUp search loaded = (none, { loaded with symbols := next }) := by
    simp only [lookUp, LoadedClass.lookup, success, refusal?]
  rw [run]
  exact Safe.of_none rfl kept

theorem safe_drawOn {drawing : Draw α} {stop? : Option Draw.Stop} {lead : List Printer.Action}
    (scripted : drawing.Scripted (·.pool = loaded.symbols.pool) stop? lead) (printer : Printer) :
    Safe loaded (drawOn drawing printer loaded) := by
  obtain ⟨result, next, actions, kept, ends, run⟩ := scripted loaded.symbols rfl
  have step : drawOn drawing printer loaded =
      (refusal? .ofDraw result, { loaded with symbols := next }) := by
    simp only [drawOn, LoadedClass.draw, run]
  rw [step]
  cases stop? with
  | none =>
    obtain ⟨value, success⟩ := ends
    subst success
    exact Safe.of_none rfl kept
  | some stop =>
    have failed : result = .error stop.fault := ends
    subst failed
    exact {
      file := rfl
      pool := kept
      noDecodeFault := by cases stop <;> exact nofun }

/-- Whatever part of a class is drawn, and however types are written. -/
theorem exists_scripted_part {Good : SymbolTable → Prop} (served : loaded.file.Served Good)
    {written : Text → Draw Text} {typeStop? : Text → Option Draw.Stop}
    (types : Declaration.ScriptedTypes Good written typeStop?) (part : Part) :
    ∃ stop?, (part.draw written loaded).Scripted Good stop? [] := by
  have ofMember {β : Type} {act : β → Draw Unit}
      (each : ∀ member, ∃ stop?, (act member).Scripted Good stop? []) (member? : Option β) :
      ∃ stop?, (member?.forM act).Scripted Good stop? [] := by
    cases member? with
    | none => exact ⟨none, Draw.Scripted.pure ()⟩
    | some member => exact each member
  cases part with
  | signature place includeAbstract =>
    exact ofMember (fun method => ⟨_, (Declaration.scripted_signatureWith served types method
      includeAbstract).bind_sure fun _ => Draw.Scripted.pure ()⟩) _
  | field place =>
    exact ofMember (fun field => ⟨_, Declaration.scripted_drawFieldWith types field⟩) _
  | method place =>
    exact ofMember (fun (row : Method × Option CodeSummary) =>
      ⟨_, Declaration.scripted_drawMethodWith served types row.1 row.2⟩) _
  | whole =>
    obtain ⟨stop?, scripted⟩ :=
      Declaration.exists_scripted_drawWith served types loaded.summaries
    exact ⟨stop?, scripted.forget⟩

/-- A name is there or not, but the texts of the names can always be looked up. -/
theorem exists_place_eq (name : Text) (known : Option (List Text)) {nameIndices : List Nat}
    {symbols : SymbolTable} (named : ∀ index ∈ nameIndices, symbols.pool.NamesText index) :
    ∃ texts next, next.pool = symbols.pool ∧
      LoadedClass.place name known nameIndices symbols =
        ((LoadedClass.lastPlace? name texts).elim (.error (.notFound name)) .ok, some texts,
          next) := by
  cases known with
  | some names =>
    have success : (pure names : Lookup (List Text)).run symbols = (.ok names, symbols) := rfl
    refine ⟨names, symbols, rfl, ?_⟩
    cases last : LoadedClass.lastPlace? name names <;>
      simp only [LoadedClass.place, success, last, Option.elim]
  | none =>
    have finds : Lookup.Finds symbols.pool
        (nameIndices.mapM fun (index : Nat) => SymbolTable.utf8 index) :=
      Lookup.Finds.mapM fun index present => SymbolTable.finds_utf8 (named index present)
    obtain ⟨texts, next, success, kept⟩ := finds symbols rfl
    refine ⟨texts, next, kept, ?_⟩
    cases last : LoadedClass.lastPlace? name texts <;>
      simp only [LoadedClass.place, success, last, Option.elim]

theorem place_cases (name : Text) (known : Option (List Text)) {nameIndices : List Nat}
    {symbols : SymbolTable} (named : ∀ index ∈ nameIndices, symbols.pool.NamesText index) :
    ((LoadedClass.place name known nameIndices symbols).2.2.pool = symbols.pool) ∧
      ∀ error, (LoadedClass.place name known nameIndices symbols).1 ≠ .error (.symbol error) := by
  obtain ⟨texts, next, kept, step⟩ := exists_place_eq name known named
  rw [step]
  cases LoadedClass.lastPlace? name texts with
  | some place => exact ⟨kept, nofun⟩
  | none => exact ⟨kept, nofun⟩

theorem noDecodeFault_refusal {result : Except NameFault α}
    (clean : ∀ error, result ≠ .error (.symbol error)) (error : DecodeError) :
    refusal? .ofName result ≠ some (.decode error) := by
  cases result with
  | ok value => exact nofun
  | error fault =>
    cases fault with
    | symbol other => exact absurd rfl (clean other)
    | notFound name => exact nofun

theorem named_fields (sound : loaded.Sound) :
    ∀ index : Nat, index ∈ loaded.file.fields.map (·.nameIndex) →
      loaded.symbols.pool.NamesText index := by
  intro index present
  obtain ⟨field, listed, same⟩ := List.mem_map.mp present
  subst same
  rw [sound.pool]
  exact ⟨field.name, sound.resolved.fieldName field listed⟩

theorem named_methods (sound : loaded.Sound) :
    ∀ index : Nat, index ∈ loaded.file.methods.map (·.nameIndex) →
      loaded.symbols.pool.NamesText index := by
  intro index present
  obtain ⟨method, listed, same⟩ := List.mem_map.mp present
  subst same
  rw [sound.pool]
  exact ⟨method.name, sound.resolved.methodName method listed⟩

theorem safe_perform (sound : loaded.Sound) (operation : Operation) :
    Safe loaded (operation.perform loaded) := by
  have resolved := sound.resolved
  have classes : loaded.symbols.pool.Resolved := by
    rw [sound.pool]
    exact resolved.classes
  have served : loaded.file.Served (·.pool = loaded.symbols.pool) := by
    rw [sound.pool]
    exact resolved.served
  have types := Declaration.scriptedTypes_unbounded served.displayName
  cases operation with
  | className => exact safe_lookUp (sound.pool ▸ resolved.finds_className)
  | superClassName => exact safe_lookUp (sound.pool ▸ resolved.finds_superClassName)
  | interfaceNames => exact safe_lookUp (sound.pool ▸ resolved.finds_interfaceNames)
  | classType => exact safe_lookUp (sound.pool ▸ resolved.finds_classType)
  | findField name =>
    have found := place_cases name loaded.fieldNames (named_fields sound)
    exact {
      file := rfl
      pool := found.1
      noDecodeFault := noDecodeFault_refusal found.2 }
  | findMethod name =>
    have found := place_cases name loaded.methodNames (named_methods sound)
    exact {
      file := rfl
      pool := found.1
      noDecodeFault := noDecodeFault_refusal found.2 }
  | methodsNamed name => exact Safe.of_none rfl rfl
  | analyseMethod place =>
    simp only [perform, LoadedClass.analyseMethod]
    split
    · exact Safe.of_none rfl rfl
    · rename_i method _
      cases method.analyse with
      | ok summary => exact Safe.of_none rfl rfl
      | error fault => exact { file := rfl, pool := rfl, noDecodeFault := nofun }
  | analyseMethods selection => exact Safe.of_none rfl rfl
  | analyseAll selection =>
    simp only [perform, LoadedClass.analyseAll]
    split
    · exact { file := rfl, pool := rfl, noDecodeFault := nofun }
    · exact Safe.of_none rfl rfl
  | mark name => exact Safe.of_none rfl (SymbolTable.pool_mark name loaded.symbols)
  | referencedClasses => exact safe_lookUp (SymbolTable.finds_referencedClasses classes)
  | displayName name => exact safe_lookUp (SymbolTable.finds_displayName classes name)
  | signature place includeAbstract =>
    apply safe_withMember
    intro method
    exact safe_lookUp (sound.pool ▸ Declaration.finds_signature resolved method includeAbstract)
  | drawImports thisClass printer =>
    exact safe_drawOn (Imports.scripted_draw served thisClass) printer
  | drawField place printer =>
    apply safe_withMember
    intro field
    exact safe_drawOn (Declaration.scripted_drawFieldWith types field) printer
  | drawMethod place printer =>
    apply safe_withMember
    intro row
    exact safe_drawOn (Declaration.scripted_drawMethodWith served types row.1 row.2) printer
  | drawAsInterface printer =>
    exact safe_drawOn (Declaration.scripted_drawAsInterfaceWith served types) printer
  | drawAsClass printer =>
    exact safe_drawOn (Declaration.scripted_drawAsClassWith served types _) printer
  | dump printer =>
    obtain ⟨stop?, scripted⟩ := Declaration.exists_scripted_drawWith served types loaded.summaries
    exact safe_drawOn scripted printer
  | drawWithin stack part printer =>
    obtain ⟨stop?, scripted⟩ :=
      exists_scripted_part served (Declaration.scriptedTypes_within served.displayName stack) part
    exact safe_drawOn scripted printer

theorem sound_after (sound : loaded.Sound) (history : List Operation) :
    (after history loaded).Sound ∧ (after history loaded).file = loaded.file := by
  induction history generalizing loaded with
  | nil => exact ⟨sound, rfl⟩
  | cons operation rest ih =>
    have safe := safe_perform sound operation
    obtain ⟨still, same⟩ := ih (safe.sound sound)
    exact ⟨still, same.trans safe.file⟩

end Operation

namespace LoadedClass

theorem file_of_decode {data : Array UInt8} {source : Option Text} {loaded : LoadedClass}
    (decoded : decode data source = .ok loaded) :
    ∃ file, ClassFile.decode data source = .ok file ∧ loaded = ofFile file := by
  obtain ⟨file, found, same⟩ := map_eq_ok_iff.mp decoded
  exact ⟨file, found, same.symm⟩

theorem sound_of_decode {data : Array UInt8} {source : Option Text} {loaded : LoadedClass}
    (decoded : decode data source = .ok loaded) : loaded.Sound := by
  obtain ⟨file, found, same⟩ := file_of_decode decoded
  subst same
  exact { resolved := ClassFile.resolved_of_decode found, pool := rfl }

/-- A decoded class answers whatever is asked of it, after any history: names are missing and
constants have no source text, but nothing turns out to be malformed or unresolved. The descriptors
of its members parse again to what was stored of them. -/
theorem decode_final {data : Array UInt8} {source : Option Text} {loaded : LoadedClass}
    (decoded : decode data source = .ok loaded) (history : List Operation) :
    let now := Operation.after history loaded
    now.file = loaded.file ∧
      (∀ operation error, (Operation.perform now operation).1 ≠ some (.decode error)) ∧
      (∀ field ∈ now.file.fields, Descriptor.field field.descriptor = .ok field.descriptor) ∧
      ∀ method ∈ now.file.methods,
        Descriptor.method method.descriptor = .ok method.signature := by
  obtain ⟨sound, same⟩ := Operation.sound_after (sound_of_decode decoded) history
  have safe := Operation.safe_perform sound
  exact ⟨same, fun operation => (safe operation).noDecodeFault, sound.resolved.fieldType,
    sound.resolved.signature⟩

/-- The class is drawn, a class that it does not know is marked, and it is drawn again. -/
theorem decode_final_nestedCode :
    ∃ loaded, decode ClassFile.nestedCode = .ok loaded ∧
      let now := Operation.after [.dump {}, .mark "x/Code", .dump {}] loaded
      now.file = loaded.file ∧
        (∀ operation error, (Operation.perform now operation).1 ≠ some (.decode error)) ∧
        (∀ field ∈ now.file.fields, Descriptor.field field.descriptor = .ok field.descriptor) ∧
        ∀ method ∈ now.file.methods,
          Descriptor.method method.descriptor = .ok method.signature := by
  obtain ⟨file, decoded⟩ := ClassFile.exists_decode_nestedCode
  have found : decode ClassFile.nestedCode = .ok (ofFile file) := by
    rw [decode, decoded]
    rfl
  exact ⟨ofFile file, found, decode_final found _⟩

end LoadedClass

end ClassOutline
