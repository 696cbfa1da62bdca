import ClassOutline.Command.Arguments
import ClassOutline.Command.FileTree
import ClassOutline.Command.Spool
import ClassOutline.LoadedClass

set_option autoImplicit false

namespace ClassOutline.Command

inductive LogLevel
  | debug
  | error
deriving DecidableEq, Repr

inductive LogTopic
  | constantPool
  | classFile
  | command
deriving DecidableEq, Repr

structure LogEntry where
  level : LogLevel
  topic : LogTopic
  message : Text
deriving DecidableEq, Repr

namespace LogEntry

def levelName : LogLevel → Text
  | .debug => "DEBUG"
  | .error => "ERROR"

def topicName : LogTopic → Text
  | .constantPool => "classdump.constant_pool"
  | .classFile => "classdump.classfile"
  | .command => "classdump.cli"

def line (entry : LogEntry) : Text :=
  levelName entry.level ++ " " ++ topicName entry.topic ++ ": " ++ entry.message ++ "\n"

end LogEntry

/-- What ends a run before its end. -/
inductive Abort
  | literal (fault : LiteralFault)
  | beyond (limit : Limit)
  | unencodable
  | missingName
  | path (fault : PathFault)
deriving DecidableEq, Repr

/-- How a run goes about its files. The listing goes to the standard output unless `output` is the
place of a file for it. -/
structure Settings where
  selection : Selection := {}
  verbose : Bool := false
  output : Option (List Text) := none
  stack : Stack := {}
deriving DecidableEq, Repr

/-- The listing so far, what was logged, and how many files failed. -/
structure Listing where
  printer : Printer := {}
  log : List LogEntry := []
  failed : Nat := 0
deriving DecidableEq, Repr

abbrev Run := ExceptT Abort (StateM Listing)

namespace Run

def log (entries : List LogEntry) : Run Unit :=
  modify fun listing => { listing with log := listing.log ++ entries }

def fail (path reason : Text) : Run Unit :=
  modify fun listing => { listing with
    log := listing.log ++ [⟨.error, .command, "Error analysing " ++ path ++ ": " ++ reason⟩]
    failed := listing.failed + 1 }

end Run

def layoutText (layout : Layout) : Text :=
  let rows : List (Text × Nat) := [("access_flags", layout.accessFlags),
    ("this_class", layout.thisClass), ("super_class", layout.superClass),
    ("interfaces_count", layout.interfacesCount), ("interfaces", layout.interfaces),
    ("fields_count", layout.fieldsCount), ("fields", layout.fields),
    ("methods_count", layout.methodsCount), ("methods", layout.methods),
    ("attributes_count", layout.attributesCount), ("attributes", layout.attributes),
    ("end", layout.finish)]
  "Layout(" ++ Text.joined ", " (rows.map fun row => row.1 ++ "=" ++ Text.ofNat row.2) ++ ")"

def milestoneEntry (path : Text) : Milestone → LogEntry
  | .pool count bytes =>
    ⟨.debug, .constantPool, "constant pool: " ++ Text.ofInt ((count : Int) - 1) ++ " slots, " ++
      Text.ofNat bytes ++ " bytes"⟩
  | .layout layout => ⟨.debug, .classFile, path ++ ": " ++ layoutText layout⟩

def failureNote (outcome : AnalysisOutcome) : LogEntry :=
  ⟨.debug, .classFile, "Exception analysing " ++ outcome.name⟩

def failureEntries (outcomes : List AnalysisOutcome) : List LogEntry :=
  (AnalysisOutcome.failureLines outcomes).map fun line =>
    ⟨.error, .classFile, "Exception analysing " ++ line⟩

/-- Draws a class. On the standard output the first piece that cannot be encoded ends the run, and
is not written itself. -/
def drawClass (settings : Settings) (path : Text) (loaded : LoadedClass) : Run Unit := do
  let before := (← get).printer
  let (result, _, after) := loaded.dumpWithin settings.stack before
  let written := after.writes.toList.drop before.writes.size
  if settings.output.isNone && !written.all Text.isEncodable then
    let kept := (written.takeWhile Text.isEncodable).foldl Printer.write before
    modify fun listing => { listing with printer := kept }
    throw .unencodable
  modify fun listing => { listing with printer := after }
  match result with
  | .ok () => pure ()
  | .error (.literal fault) => throw (.literal fault)
  | .error .tooDeep => throw (.beyond .depth)
  | .error (.symbol error) => Run.fail path error.message

def listData (settings : Settings) (path : Text) (data : Array UInt8) : Run Unit := do
  if settings.verbose then
    Run.log
      ((ClassFile.milestones settings.stack { data, source := path }).map (milestoneEntry path))
  match LoadedClass.decodeWithin settings.stack data (some path) with
  | .error (.decode error) => Run.fail path error.message
  | .error (.beyond limit) => throw (.beyond limit)
  | .ok loaded =>
    let (result, analysed) := loaded.analyseAll settings.selection
    let outcomes := match result with
      | .ok outcomes | .error outcomes => outcomes
    if settings.verbose then
      Run.log ((outcomes.filter fun outcome => outcome.fault?.isSome).map failureNote)
    Run.log (failureEntries outcomes)
    match result with
    | .ok _ => drawClass settings path analysed
    | .error failures => Run.fail path (Text.ofNat failures.length ++ " method(s) failed")

/-- The bytes of a file. The one that the listing goes to holds what is stored of it so far. -/
def readFile (settings : Settings) (tree : FileTree) (printer : Printer) (path : Text) :
    Except PathFault (Array UInt8) := do
  let place ← tree.resolve path
  if settings.output = some place then return Spool.contents printer.writes.toList
  else tree.read path

def listFile (settings : Settings) (tree : FileTree) (path : Text) : Run Unit := do
  match readFile settings tree (← get).printer path with
  | .ok data => listData settings path data
  | .error fault =>
    if fault.system?.isSome then Run.fail path (fault.message path) else throw (.path fault)

def listAll (settings : Settings) (tree : FileTree) (paths : List Text) : Run Unit := do
  (tree.expand paths).forM (listFile settings tree)
  modify fun listing => { listing with printer := listing.printer.flush }

inductive Ending
  | exited (status : Nat)
  | stopped (stop : Stop)
  | aborted (cause : Abort)
deriving DecidableEq, Repr

/-- What a run leaves behind. `written` is the file that it made or changed. -/
structure Report where
  ending : Ending
  stdout : Text := []
  log : List LogEntry := []
  written : Option (List Text × Text) := none
deriving DecidableEq, Repr

namespace Report

def logText (report : Report) : Text :=
  report.log.flatMap LogEntry.line

end Report

def ending (result : Except Abort Unit) (listing : Listing) : Ending :=
  match result with
  | .ok () => .exited (if listing.failed = 0 then 0 else 1)
  | .error cause => .aborted cause

def runToStdout (settings : Settings) (tree : FileTree) (paths : List Text) : Report :=
  let (result, listing) := (listAll settings tree paths).run {}
  { ending := ending result listing, stdout := listing.printer.text, log := listing.log }

/-- Lists to a file, which is emptied first. -/
def runToFile (settings : Settings) (tree : FileTree) (paths : List Text) (output : Text) :
    Report :=
  match tree.target output with
  | .error fault => { ending := .aborted (.path fault) }
  | .ok place =>
    let (result, listing) := (listAll { settings with output := some place }
      (tree.write place #[]) paths).run {}
    let text := Text.escapeSurrogates listing.printer.text
    let written := if tree.file? place = some (Text.utf8 text) then none else some (place, text)
    match ending result listing with
    | .exited status =>
      if output.all fun point => !Text.isSurrogate point then
        { ending := .exited status, stdout := "Listing written to: " ++ output ++ "\n",
          log := listing.log, written }
      else { ending := .aborted .unencodable, log := listing.log, written }
    | other => { ending := other, log := listing.log, written }

/-- The method names that an option was given, if it was given any. None of them may be missing. -/
def methodNames : Option (List (Option Text)) → Except Abort (Option (List Text))
  | none => .ok none
  | some values =>
    match values.mapM id with
    | some names => .ok (some names)
    | none => .error .missingName

/-- The methods that the arguments select. Names to analyse do not matter if none is analysed. -/
def selectionOf (arguments : Arguments) : Except Abort Selection := do
  let analyse ← if arguments.noAnalyse then pure none else methodNames arguments.analyse
  let skip ← methodNames arguments.skip
  return Selection.ofSwitches arguments.noAnalyse analyse skip arguments.keepGoing

/-- Runs a command line on the files of a tree. An empty output path stands for none. -/
def run (tree : FileTree) (texts : List Text) : Report :=
  match Arguments.ofTexts texts with
  | .error stop => { ending := .stopped stop }
  | .ok arguments =>
    match selectionOf arguments with
    | .error cause => { ending := .aborted cause }
    | .ok selection =>
      let settings : Settings := { selection, verbose := arguments.verbose }
      match arguments.output with
      | none | some [] => runToStdout settings tree arguments.paths
      | some output => runToFile settings tree arguments.paths output

end ClassOutline.Command
