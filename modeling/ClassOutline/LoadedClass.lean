import ClassOutline.Analysis.Basic
import ClassOutline.Outline.Declaration

set_option autoImplicit false

namespace ClassOutline

structure LoadedClass where
  file : ClassFile
  symbols : SymbolTable
  fieldNames : Option (List Text) := none
  methodNames : Option (List Text) := none
  summaries : List (Option CodeSummary)
deriving Repr

inductive NameFault
  | symbol (error : DecodeError)
  | notFound (name : Text)
deriving DecidableEq, Repr

namespace LoadedClass

def ofFile (file : ClassFile) : LoadedClass where
  file
  symbols := SymbolTable.ofNames file.pool file.references
  summaries := file.methods.map fun _ => none

def decode (data : Array UInt8) (source : Option Text := none) : Decoded LoadedClass :=
  (ClassFile.decode data source).map ofFile

def decodeWithin (stack : Stack) (data : Array UInt8) (source : Option Text := none) :
    Reached LoadedClass :=
  (ClassFile.decodeWithin stack data source).map ofFile

def lookup {α : Type} (search : Lookup α) (loaded : LoadedClass) :
    Except DecodeError α × LoadedClass :=
  let (result, symbols) := search.run loaded.symbols
  (result, { loaded with symbols })

/-- Draws on a printer. What was drawn before a failure stays there. -/
def draw {α : Type} (drawing : Draw α) (loaded : LoadedClass) (printer : Printer) :
    Except DrawFault α × LoadedClass × Printer :=
  let (result, canvas) := drawing.run { symbols := loaded.symbols, printer }
  (result, { loaded with symbols := canvas.symbols }, canvas.printer)

def dump (loaded : LoadedClass) (printer : Printer) :
    Except DrawFault Unit × LoadedClass × Printer :=
  loaded.draw (Declaration.draw loaded.file loaded.summaries) printer

/-- Draws the whole class, or what comes before a type whose dimensions there is no room for. -/
def dumpWithin (stack : Stack) (loaded : LoadedClass) (printer : Printer) :
    Except DrawFault Unit × LoadedClass × Printer :=
  loaded.draw (Declaration.drawWith (Declaration.typeTextWithin stack) loaded.file loaded.summaries)
    printer

/-- The place of the last of several equal names. -/
def lastPlace? (name : Text) (names : List Text) : Option Nat :=
  ((names.zipIdx.filter fun row => row.1 == name).getLast?).map Prod.snd

/-- Finds a name among the names at some pool indices, which are looked up if they are not known. -/
def place (name : Text) (known : Option (List Text)) (nameIndices : List Nat)
    (symbols : SymbolTable) : Except NameFault Nat × Option (List Text) × SymbolTable :=
  let search : Lookup (List Text) := match known with
    | some names => return names
    | none => nameIndices.mapM fun (index : Nat) => SymbolTable.utf8 index
  let (names, symbols) := search.run symbols
  match names with
  | .error error => (.error (.symbol error), none, symbols)
  | .ok names =>
    match lastPlace? name names with
    | some place => (.ok place, some names, symbols)
    | none => (.error (.notFound name), some names, symbols)

def findField (name : Text) (loaded : LoadedClass) : Except NameFault Nat × LoadedClass :=
  let (result, fieldNames, symbols) :=
    place name loaded.fieldNames (loaded.file.fields.map (·.nameIndex)) loaded.symbols
  (result, { loaded with fieldNames, symbols })

def findMethod (name : Text) (loaded : LoadedClass) : Except NameFault Nat × LoadedClass :=
  let (result, methodNames, symbols) :=
    place name loaded.methodNames (loaded.file.methods.map (·.nameIndex)) loaded.symbols
  (result, { loaded with methodNames, symbols })

def methodsNamed (name : Text) (loaded : LoadedClass) : List Nat :=
  (loaded.file.methods.zipIdx.filter fun row => row.1.name == name).map Prod.snd

/-- A new summary takes the place of the old one; without a new one the old one stays. -/
def updated (old : Option CodeSummary) :
    Except AnalysisFault (Option CodeSummary) → Option CodeSummary
  | .ok (some summary) => some summary
  | _ => old

def analyseMethod (place : Nat) (loaded : LoadedClass) :
    Option (Except AnalysisFault (Option CodeSummary)) × LoadedClass :=
  match loaded.file.methods[place]? with
  | none => (none, loaded)
  | some method =>
    (some method.analyse,
      { loaded with summaries := loaded.summaries.modify place (updated · method.analyse) })

/-- Analyses each selected method in order. A failure does not stop the others. -/
def analyseMethods (selection : Selection) (loaded : LoadedClass) :
    List AnalysisOutcome × LoadedClass :=
  let outcomes := (loaded.file.methods.filter fun method => selection.includes method.name).map
    fun method => { name := method.name, descriptor := method.descriptor, result := method.analyse }
  let summaries := (loaded.file.methods.zip loaded.summaries).map fun (method, old) =>
    if selection.includes method.name then updated old method.analyse else old
  (outcomes, { loaded with summaries })

/-- Analyses the selected methods. The failed ones are the error if failures count. -/
def analyseAll (selection : Selection) (loaded : LoadedClass) :
    Except (List AnalysisOutcome) (List AnalysisOutcome) × LoadedClass :=
  let (outcomes, analysed) := loaded.analyseMethods selection
  let failures := outcomes.filter fun outcome => outcome.fault?.isSome
  if !failures.isEmpty && selection.raiseOnFailure then (.error failures, analysed)
  else (.ok outcomes, analysed)

end LoadedClass

end ClassOutline
