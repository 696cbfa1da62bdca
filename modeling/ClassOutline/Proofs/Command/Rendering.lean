import ClassOutline.Command.Run
import ClassOutline.Proofs.ClassFile.Depth
import ClassOutline.Proofs.Command.Stored
import ClassOutline.Proofs.Loaded.Rendering

set_option autoImplicit false

namespace ClassOutline

/-- No selected method fails its analysis, unless failures do not count. -/
def Selection.passes (selection : Selection) (file : ClassFile) : Bool :=
  !selection.raiseOnFailure ||
    file.methods.all fun method => !selection.includes method.name || method.analyse.isOk

namespace Command

/-- What an analysed class shows on a printer of its own, or why a run would end at it. -/
def drawnAlone (settings : Settings) (loaded : LoadedClass) : Except Abort Text :=
  let (result, _, printer) := loaded.dumpWithin settings.stack {}
  if settings.output.isNone && !printer.text.isEncodable then .error .unencodable
  else match result with
    | .error (.literal fault) => .error (.literal fault)
    | .error .tooDeep => .error (.beyond .depth)
    | _ => .ok printer.text

/-- What becomes of some bytes on their own: a text, nothing if they fail, or the end of a run. -/
def renderingOf (settings : Settings) (path : Text) (data : Array UInt8) :
    Except Abort (Option Text) :=
  match LoadedClass.decodeWithin settings.stack data (some path) with
  | .error (.decode _) => .ok none
  | .error (.beyond limit) => .error (.beyond limit)
  | .ok loaded =>
    if settings.selection.passes loaded.file then
      (drawnAlone settings (loaded.analyseMethods settings.selection).2).map some
    else .ok none

/-- What becomes of a file on its own. The system refuses some paths, and cannot be asked about
others. -/
def rendering (settings : Settings) (tree : FileTree) (path : Text) :
    Except Abort (Option Text) :=
  match readFile settings tree {} path with
  | .ok data => renderingOf settings path data
  | .error fault => if fault.system?.isSome then .ok none else .error (.path fault)

def Abort.ofStop : Draw.Stop → Abort
  | .literal fault => .literal fault
  | .tooDeep => .beyond .depth

/-- What one more file does to a listing: it adds a text to those shown, or counts a failure and
leaves the printer as it is. -/
def Listing.Adds (before after : Listing) (texts : List Text) : Option Text → Prop
  | some text => after.printer.Shows (texts ++ [text]) ∧ after.failed = before.failed
  | none => after.printer = before.printer ∧ after.failed = before.failed + 1

/-- A step ends as the file does on its own: it adds what that shows, or ends the run. -/
def Listing.EndsAs (before : Listing) (texts : List Text) (alone : Except Abort (Option Text))
    (ending : Except Abort Unit × Listing) : Prop :=
  match alone with
  | .ok text? => ending.1 = .ok () ∧ before.Adds ending.2 texts text?
  | .error cause => ending.1 = .error cause ∧ ending.2.failed = before.failed

def Run.Follows (alone : Except Abort (Option Text)) (step : Run Unit) : Prop :=
  ∀ (before : Listing) (texts : List Text), before.printer.Shows texts →
    before.EndsAs texts alone (step.run before)

end Command

namespace LoadedClass

theorem file_of_decodeWithin {stack : Stack} {data : Array UInt8} {source : Option Text}
    {loaded : LoadedClass} (decoded : decodeWithin stack data source = .ok loaded) :
    ∃ file, ClassFile.decodeWithin stack data source = .ok file ∧ loaded = ofFile file := by
  obtain ⟨file, found, same⟩ := map_eq_ok_iff.mp decoded
  exact ⟨file, found, same.symm⟩

theorem exists_knows_of_decodeWithin {stack : Stack} {data : Array UInt8} {source : Option Text}
    {loaded : LoadedClass} (decoded : decodeWithin stack data source = .ok loaded) :
    ∃ names, loaded.Knows names := by
  obtain ⟨file, found, rfl⟩ := file_of_decodeWithin decoded
  exact ⟨file.references,
    knows_ofFile (ClassFile.resolved_of_decode (ClassFile.decode_of_decodeWithin found))⟩

end LoadedClass

namespace Command

variable {settings : Settings} {path : Text}

/-- The pieces that a class adds can be encoded if those on a printer of its own can. -/
theorem all_isEncodable_written {printer : Printer} {texts : List Text}
    (before : printer.Shows texts) (actions : List Printer.Action) :
    ((printer.performAll (Declaration.opening ++ actions)).writes.toList.drop
        printer.writes.size).all Text.isEncodable =
      (Printer.alone actions).text.isEncodable := by
  have flat : (Printer.alone actions).text.isEncodable =
      (Printer.alone actions).writes.toList.all Text.isEncodable := by
    simp only [Printer.text, Text.isEncodable, List.all_flatten]
    rfl
  rw [flat]
  cases texts with
  | nil =>
    rw [before.fresh rfl]
    rfl
  | cons first rest =>
    have started := before.started (List.cons_ne_nil first rest)
    have line : Text.isEncodable [0x0A] = true := by decide
    rw [Printer.performAll_opening_append actions before.settled before.depth started]
    simp [Printer.behind, line]

section

variable {loaded next : LoadedClass} {before : Listing} {after : Printer}

theorem drawClass_unencodable (path : Text) {result : Except DrawFault Unit}
    (drawn : loaded.dumpWithin settings.stack before.printer = (result, next, after))
    (refused : (settings.output.isNone &&
      !(after.writes.toList.drop before.printer.writes.size).all Text.isEncodable) = true) :
    ∃ printer, (drawClass settings path loaded).run before =
      (.error .unencodable, { before with printer }) := by
  unfold drawClass
  rw [run_get_bind]
  simp only [drawn, refused, ↓reduceIte]
  exact ⟨_, rfl⟩

theorem drawClass_error {stop : Draw.Stop}
    (drawn : loaded.dumpWithin settings.stack before.printer = (.error stop.fault, next, after))
    (taken : (settings.output.isNone &&
      !(after.writes.toList.drop before.printer.writes.size).all Text.isEncodable) = false) :
    (drawClass settings path loaded).run before =
      (.error (Abort.ofStop stop), { before with printer := after }) := by
  unfold drawClass
  rw [run_get_bind]
  cases stop <;> simp only [Draw.Stop.fault] at drawn <;> simp only [drawn, taken] <;> rfl

theorem drawClass_ok
    (drawn : loaded.dumpWithin settings.stack before.printer = (.ok (), next, after))
    (taken : (settings.output.isNone &&
      !(after.writes.toList.drop before.printer.writes.size).all Text.isEncodable) = false) :
    (drawClass settings path loaded).run before = (.ok (), { before with printer := after }) := by
  unfold drawClass
  rw [run_get_bind]
  simp only [drawn, taken]
  rfl

end

theorem follows_drawClass {loaded : LoadedClass} {names : List Text}
    (knows : loaded.Knows names) :
    Run.Follows ((drawnAlone settings loaded).map some) (drawClass settings path loaded) := by
  obtain ⟨result, next, actions, ends, run, settles⟩ := knows.exists_script settings.stack
  intro before texts shown
  have drawn := run before.printer
  have written := all_isEncodable_written shown actions
  have alone : loaded.dumpWithin settings.stack {} = (result, next, Printer.alone actions) :=
    run {}
  by_cases refused :
    (settings.output.isNone && !(Printer.alone actions).text.isEncodable) = true
  · have stops : drawnAlone settings loaded = .error .unencodable := by
      simp only [drawnAlone, alone, refused, ↓reduceIte]
    obtain ⟨printer, stopped⟩ := drawClass_unencodable path drawn (by rw [written, refused])
    rw [stops, stopped]
    exact ⟨rfl, rfl⟩
  · have taken := eq_false_of_ne_true refused
    cases stop? : loaded.file.stop? settings.stack.stop? with
    | none =>
      rw [stop?] at ends
      obtain ⟨value, success⟩ := ends
      subst success
      have shows_ : drawnAlone settings loaded = .ok (Printer.alone actions).text := by
        simp only [drawnAlone, alone, taken]
        rfl
      rw [shows_, drawClass_ok drawn (by rw [written, taken])]
      exact ⟨rfl, shown.drawn (settles stop?), rfl⟩
    | some stop =>
      rw [stop?] at ends
      have failed : result = .error stop.fault := ends
      subst failed
      have stops : drawnAlone settings loaded = .error (Abort.ofStop stop) := by
        cases stop <;> simp only [Draw.Stop.fault] at alone <;>
          simp only [drawnAlone, alone, taken] <;> rfl
      rw [stops, drawClass_error drawn (by rw [written, taken])]
      exact ⟨rfl, rfl⟩

theorem isEmpty_failures (selection : Selection) (loaded : LoadedClass) :
    ((loaded.analyseMethods selection).1.filter fun outcome => outcome.fault?.isSome).isEmpty =
      loaded.file.methods.all fun method =>
        !selection.includes method.name || method.analyse.isOk := by
  have failed (method : Method) (name descriptor : Text) :
      (AnalysisOutcome.fault? ⟨name, descriptor, method.analyse⟩).isSome =
        !method.analyse.isOk := by
    unfold AnalysisOutcome.fault?
    cases method.analyse <;> rfl
  rw [Bool.eq_iff_iff, List.isEmpty_iff, List.filter_eq_nil_iff, List.all_eq_true]
  simp only [LoadedClass.analyseMethods, List.mem_map, List.mem_filter]
  constructor
  · intro none method present
    by_cases chosen : selection.includes method.name = true
    · have passed := none _ ⟨method, ⟨present, chosen⟩, rfl⟩
      rw [failed] at passed
      simpa [chosen] using passed
    · simp [chosen]
  · rintro every outcome ⟨method, ⟨present, chosen⟩, rfl⟩
    rw [failed]
    have passed := every method present
    simpa [chosen] using passed

/-- Analysis ends the listing of a class exactly if the class does not pass it. -/
theorem analyseAll_eq (selection : Selection) (loaded : LoadedClass) :
    loaded.analyseAll selection =
      (if selection.passes loaded.file then .ok (loaded.analyseMethods selection).1
        else .error ((loaded.analyseMethods selection).1.filter fun outcome =>
          outcome.fault?.isSome),
        (loaded.analyseMethods selection).2) := by
  unfold LoadedClass.analyseAll Selection.passes
  dsimp only
  rw [isEmpty_failures]
  cases loaded.file.methods.all fun method =>
      !selection.includes method.name || method.analyse.isOk <;>
    cases selection.raiseOnFailure <;> rfl

theorem Run.follows_fail (reason : Text) : Run.Follows (.ok none) (Run.fail path reason) :=
  fun _ _ _ => ⟨rfl, rfl, rfl⟩

theorem Run.Follows.log {alone : Except Abort (Option Text)} {step : Run Unit}
    (follows : Run.Follows alone step) (entries : List LogEntry) :
    Run.Follows alone (Run.log entries >>= fun _ => step) := by
  intro before texts shown
  have same := follows { before with log := before.log ++ entries } texts shown
  match alone with
  | .ok none => exact same
  | .ok (some text) => exact same
  | .error cause => exact same

theorem Run.Follows.log_if {alone : Except Abort (Option Text)} {rest : Unit → Run Unit}
    (follows : Run.Follows alone (rest ())) (verbose : Bool) (entries : List LogEntry) :
    Run.Follows alone
      (if verbose = true then Run.log entries >>= fun done => rest done else rest ()) := by
  split
  · exact follows.log entries
  · exact follows

theorem follows_listData (data : Array UInt8) :
    Run.Follows (renderingOf settings path data) (listData settings path data) := by
  unfold listData renderingOf
  apply Run.Follows.log_if
  cases decoded : LoadedClass.decodeWithin settings.stack data (some path) with
  | error fault =>
    cases fault with
    | beyond limit => exact fun _ _ _ => ⟨rfl, rfl⟩
    | decode error => exact Run.follows_fail error.message
  | ok loaded =>
    obtain ⟨names, knows⟩ := LoadedClass.exists_knows_of_decodeWithin decoded
    dsimp only
    rw [analyseAll_eq]
    dsimp only
    apply Run.Follows.log_if
    apply Run.Follows.log
    by_cases passes : settings.selection.passes loaded.file = true
    · simp only [passes, ↓reduceIte]
      have analysed := (Operation.keeps_analyseMethods knows settings.selection).knows knows
      exact follows_drawClass analysed
    · simp only [passes]
      exact Run.follows_fail _

/-- The file that the listing goes to fails, whatever is stored of the listing so far. -/
theorem renderingOf_contents {printer : Printer} {texts : List Text}
    (shown : printer.Shows texts) :
    renderingOf settings path (Spool.contents printer.writes.toList) = .ok none := by
  have comment : printer.writes.toList.flatten = [] ∨
      printer.writes.toList.flatten.head? = some 0x2F := by
    cases texts with
    | nil =>
      rw [shown.fresh rfl]
      exact Or.inl rfl
    | cons first rest => exact Or.inr (shown.comment (List.cons_ne_nil first rest))
  obtain ⟨error, refused⟩ := Spool.exists_read_contents_eq_error comment (some path)
  simp only [renderingOf, LoadedClass.decodeWithin, ClassFile.decodeWithin_of_read_eq_error refused,
    Except.map]

/-- The bytes of a file do not depend on the listing so far, unless it is what the listing goes
to. -/
theorem renderingOf_readFile (tree : FileTree) {printer : Printer} {texts : List Text}
    (shown : printer.Shows texts) :
    rendering settings tree path =
      match readFile settings tree printer path with
      | .ok data => renderingOf settings path data
      | .error fault => if fault.system?.isSome then .ok none else .error (.path fault) := by
  unfold rendering
  cases found : tree.resolve path with
  | error fault => simp only [readFile, found, bind, Except.bind]
  | ok place =>
    have read (printer : Printer) : readFile settings tree printer path =
        if settings.output = some place then .ok (Spool.contents printer.writes.toList)
        else tree.read path := by
      simp only [readFile, found]
      rfl
    rw [read, read]
    by_cases same : settings.output = some place
    · rw [if_pos same, if_pos same]
      exact (renderingOf_contents Printer.shows_nothing).trans (renderingOf_contents shown).symm
    · rw [if_neg same, if_neg same]

theorem follows_listFile (tree : FileTree) (path : Text) :
    Run.Follows (rendering settings tree path) (listFile settings tree path) := by
  intro before texts shown
  unfold listFile
  rw [run_get_bind, renderingOf_readFile tree shown]
  cases readFile settings tree before.printer path with
  | ok data => exact follows_listData data before texts shown
  | error fault =>
    dsimp only
    split
    · exact Run.follows_fail _ before texts shown
    · exact ⟨rfl, rfl⟩

end Command

end ClassOutline
