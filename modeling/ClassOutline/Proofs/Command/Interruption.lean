import ClassOutline.Proofs.Command.Listing

set_option autoImplicit false

namespace ClassOutline.Command

/-- Why a file interrupts a run: its path has a part that no path can have, or there is no room to
decode it, or it is decoded and passes its analysis, but a constant that would be drawn has no
source text or there is no room for the dimensions of a type. -/
def interruption? (settings : Settings) (tree : FileTree) (path : Text) : Option Abort :=
  match readFile settings tree {} path with
  | .error fault => if fault.system?.isSome then none else some (.path fault)
  | .ok data =>
    match ClassFile.decodeWithin settings.stack data (some path) with
    | .error (.beyond limit) => some (.beyond limit)
    | .error (.decode _) => none
    | .ok file =>
      if settings.selection.passes file then
        (file.stop? settings.stack.stop?).map Abort.ofStop
      else none

variable {settings : Settings}

theorem cause?_map {α β : Type} (convert : α → β) (result : Except Abort α) :
    cause? (result.map convert) = cause? result := by
  cases result <;> rfl

/-- Drawn for an output that takes any text, a class ends a run by a constant or by a type. -/
theorem cause?_drawnAlone (accepting : settings.output.isNone = false) {loaded : LoadedClass}
    {names : List Text} (knows : loaded.Knows names) :
    cause? (drawnAlone settings loaded) =
      (loaded.file.stop? settings.stack.stop?).map Abort.ofStop := by
  obtain ⟨result, next, actions, ends, run, settles⟩ := knows.exists_script settings.stack
  have alone : loaded.dumpWithin settings.stack {} = (result, next, Printer.alone actions) :=
    run {}
  simp only [drawnAlone, alone, accepting, Bool.false_and]
  cases stop? : loaded.file.stop? settings.stack.stop? with
  | none =>
    rw [stop?] at ends
    obtain ⟨value, success⟩ := ends
    subst success
    rfl
  | some stop =>
    rw [stop?] at ends
    have failed : result = .error stop.fault := ends
    subst failed
    cases stop <;> rfl

theorem cause?_renderingOf (accepting : settings.output.isNone = false) (path : Text)
    (data : Array UInt8) :
    cause? (renderingOf settings path data) =
      match ClassFile.decodeWithin settings.stack data (some path) with
      | .error (.beyond limit) => some (.beyond limit)
      | .error (.decode _) => none
      | .ok file =>
        if settings.selection.passes file then
          (file.stop? settings.stack.stop?).map Abort.ofStop
        else none := by
  unfold renderingOf LoadedClass.decodeWithin
  cases decoded : ClassFile.decodeWithin settings.stack data (some path) with
  | error fault => cases fault <;> rfl
  | ok file =>
    have knows := LoadedClass.knows_ofFile
      (ClassFile.resolved_of_decode (ClassFile.decode_of_decodeWithin decoded))
    have drawn := cause?_drawnAlone accepting
      ((Operation.keeps_analyseMethods knows settings.selection).knows knows)
    have loaded : Except.map LoadedClass.ofFile (.ok file : Reached ClassFile) =
        .ok (LoadedClass.ofFile file) := rfl
    rw [loaded]
    dsimp only
    by_cases passes : settings.selection.passes file = true
    · have passed : settings.selection.passes (LoadedClass.ofFile file).file = true := passes
      rw [if_pos passed, if_pos passes, cause?_map]
      exact drawn
    · have refused : ¬ settings.selection.passes (LoadedClass.ofFile file).file = true := passes
      rw [if_neg refused, if_neg passes]
      rfl

theorem stop?_eq_interruption? (accepting : settings.output.isNone = false) (tree : FileTree)
    (path : Text) : stop? settings tree path = interruption? settings tree path := by
  unfold stop? rendering interruption?
  cases readFile settings tree {} path with
  | ok data => exact cause?_renderingOf accepting path data
  | error fault =>
    dsimp only
    cases fault.system? <;> rfl

/-- On an output that takes any text a run ends as the first file that interrupts it, and until then
the failed files are counted. It is made to the end only if no file interrupts it, and then it lists
what the others show. -/
theorem listAll_ends_at_interruption (settings : Settings) (place : List Text) (tree : FileTree)
    (paths : List Text) :
    let accepting := { settings with output := some place }
    let files := tree.expand paths
    ∃ listing, (listAll accepting tree paths).run {} =
        (match files.findSome? (interruption? accepting tree) with
          | some cause => .error cause
          | none => .ok (), listing) ∧
      listing.failed =
        (files.takeWhile fun path => (interruption? accepting tree path).isNone).countP
          (fails accepting tree) ∧
      (files.findSome? (interruption? accepting tree) = none →
        listing.printer.text = Text.joined [0x0A] (files.filterMap (listed? accepting tree))) := by
  intro accepting files
  have takesAll : accepting.output.isNone = false := rfl
  have same : stop? accepting tree = interruption? accepting tree :=
    funext fun path => stop?_eq_interruption? takesAll tree path
  have whole := run_listAll accepting tree paths
  simp only [reached, same] at whole
  exact whole

/-- A class with a constant of type `float`, the greatest finite one. -/
def greatestFloat : Array UInt8 := #[
  0xCA, 0xFE, 0xBA, 0xBE, 0, 0, 0, 52, 0, 7,
  1, 0, 1, 0x41,
  7, 0, 1,
  1, 0, 3, 0x4D, 0x41, 0x58,
  1, 0, 1, 0x46,
  1, 0, 13, 0x43, 0x6F, 0x6E, 0x73, 0x74, 0x61, 0x6E, 0x74, 0x56, 0x61, 0x6C, 0x75, 0x65,
  4, 0x7F, 0x7F, 0xFF, 0xFF,
  0, 0x21, 0, 2, 0, 0, 0, 0,
  0, 1, 0, 0x19, 0, 3, 0, 4, 0, 1, 0, 5, 0, 0, 0, 2, 0, 6,
  0, 0, 0, 0]

def interruptedTree : FileTree where
  here := []
  files := [(["A.class"], greatestFloat), (["B.class"], ClassFile.nestedCode)]

theorem expand_interruptedTree :
    interruptedTree.expand ["A.class", "B.class"] =
      [Text.ofString "A.class", Text.ofString "B.class"] := by
  have ordered : [Text.ofString "A.class", Text.ofString "B.class"].Pairwise
      fun left right => Text.precedes left right = true := by decide
  have found : ([Text.ofString "A.class", Text.ofString "B.class"].flatMap
      interruptedTree.standsFor) = [Text.ofString "A.class", Text.ofString "B.class"] := by
    decide +kernel
  show Text.sorted ([Text.ofString "A.class", Text.ofString "B.class"].flatMap
    interruptedTree.standsFor) = _
  rw [found, Text.sorted_of_pairwise ordered]

/-- Both files can be decoded, but the run ends at the first one. -/
theorem not_forall_listAll_ok :
    ¬ ∀ (settings : Settings) (place : List Text) (tree : FileTree) (paths : List Text),
      ((listAll { settings with output := some place } tree paths).run {}).1 = .ok () := by
  intro always
  have finished := always {} ["listing"] interruptedTree ["A.class", "B.class"]
  have interrupted : ([Text.ofString "A.class", Text.ofString "B.class"].findSome?
      (interruption? { output := some ["listing"] } interruptedTree)) =
        some (.literal .overflow) := by decide +kernel
  have same : stop? { output := some ["listing"] } interruptedTree =
      interruption? { output := some ["listing"] } interruptedTree :=
    funext fun path => stop?_eq_interruption? rfl interruptedTree path
  obtain ⟨listing, ended, -, -⟩ :=
    run_listAll { output := some ["listing"] } interruptedTree ["A.class", "B.class"]
  rw [same, expand_interruptedTree, interrupted] at ended
  rw [ended] at finished
  cases finished

end ClassOutline.Command
