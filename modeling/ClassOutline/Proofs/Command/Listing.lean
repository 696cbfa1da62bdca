import ClassOutline.Proofs.Command.Expansion
import ClassOutline.Proofs.Command.Rendering

set_option autoImplicit false

namespace ClassOutline.Command

def cause? {α : Type} : Except Abort α → Option Abort
  | .ok _ => none
  | .error cause => some cause

section

variable (settings : Settings) (tree : FileTree)

/-- What a file adds to a listing. -/
def listed? (path : Text) : Option Text :=
  match rendering settings tree path with
  | .ok text? => text?
  | .error _ => none

/-- Whether a file fails, so that it is counted and adds nothing. -/
def fails (path : Text) : Bool :=
  match rendering settings tree path with
  | .ok none => true
  | _ => false

def stop? (path : Text) : Option Abort :=
  cause? (rendering settings tree path)

/-- The files that are listed before the run ends. -/
def reached (paths : List Text) : List Text :=
  paths.takeWhile fun path => (stop? settings tree path).isNone

end

variable (settings : Settings) (tree : FileTree)

theorem reached_eq_self {paths : List Text}
    (goesOn : paths.findSome? (stop? settings tree) = none) :
    reached settings tree paths = paths := by
  have calm : ∀ path ∈ paths, (stop? settings tree path).isNone = true := by
    intro path present
    rw [List.findSome?_eq_none_iff.mp goesOn path present]
    rfl
  have whole : (paths ++ []).takeWhile (fun path => (stop? settings tree path).isNone) =
      paths ++ [].takeWhile _ := List.takeWhile_append_of_pos calm
  rwa [List.append_nil, List.takeWhile_nil, List.append_nil] at whole

section

variable {settings tree} {path : Text} {before : Listing} {texts : List Text}
  (shown : before.printer.Shows texts)

include shown

theorem run_listFile_of_stop {cause : Abort} (stops : stop? settings tree path = some cause) :
    ∃ next, (listFile settings tree path).run before = (.error cause, next) ∧
      next.failed = before.failed := by
  have here : before.EndsAs texts (rendering settings tree path)
      ((listFile settings tree path).run before) := follows_listFile tree path before texts shown
  unfold stop? at stops
  cases found : rendering settings tree path with
  | ok text? =>
    rw [found] at stops
    cases stops
  | error fault =>
    rw [found] at stops here
    cases stops
    obtain ⟨failure, same⟩ := here
    exact ⟨_, Prod.ext failure rfl, same⟩

theorem run_listFile_of_goesOn (goesOn : stop? settings tree path = none) :
    ∃ next, (listFile settings tree path).run before = (.ok (), next) ∧
      next.failed = before.failed + (if fails settings tree path then 1 else 0) ∧
      next.printer.Shows (texts ++ (listed? settings tree path).toList) := by
  have here : before.EndsAs texts (rendering settings tree path)
      ((listFile settings tree path).run before) := follows_listFile tree path before texts shown
  unfold stop? at goesOn
  cases found : rendering settings tree path with
  | error cause =>
    rw [found] at goesOn
    cases goesOn
  | ok text? =>
    rw [found] at here
    obtain ⟨success, adds⟩ := here
    refine ⟨_, Prod.ext success rfl, ?_⟩
    cases text? with
    | none =>
      obtain ⟨samePrinter, counted⟩ := adds
      rw [counted, samePrinter]
      simpa [fails, listed?, found] using shown
    | some text =>
      obtain ⟨shownToo, same⟩ := adds
      rw [same]
      simpa [fails, listed?, found] using shownToo

end

/-- A run over some files ends as the first of them that ends it. Until then every file adds its
rendering or is counted. -/
theorem run_forM_listFile (paths : List Text) {before : Listing} {texts : List Text}
    (shown : before.printer.Shows texts) :
    ∃ after, (paths.forM (listFile settings tree)).run before =
        (match paths.findSome? (stop? settings tree) with
          | some cause => .error cause
          | none => .ok (), after) ∧
      after.failed = before.failed + (reached settings tree paths).countP (fails settings tree) ∧
      (paths.findSome? (stop? settings tree) = none →
        after.printer.Shows (texts ++ paths.filterMap (listed? settings tree))) := by
  -- What is shown before the first file varies: for the rest it is what that file left.
  induction paths generalizing before texts with
  | nil =>
    refine ⟨before, rfl, rfl, fun _ => ?_⟩
    rwa [List.filterMap_nil, List.append_nil]
  | cons path rest ih =>
    have unfolded : (path :: rest).forM (listFile settings tree) =
      listFile settings tree path >>= fun _ => rest.forM (listFile settings tree) := rfl
    rw [unfolded, List.findSome?_cons]
    cases stops : stop? settings tree path with
    | some cause =>
      obtain ⟨next, step, same⟩ := run_listFile_of_stop shown stops
      have unreached : reached settings tree (path :: rest) = [] := by
        simp only [reached, List.takeWhile_cons, stops, Option.isNone_some, Bool.false_eq_true,
          ↓reduceIte]
      refine ⟨next, run_bind_of_error step _, ?_, nofun⟩
      rw [unreached, List.countP_nil, same, Nat.add_zero]
    | none =>
      obtain ⟨next, step, counted, shownNext⟩ := run_listFile_of_goesOn shown stops
      obtain ⟨after, run, failed, shownAfter⟩ := ih shownNext
      have first : reached settings tree (path :: rest) = path :: reached settings tree rest := by
        simp only [reached, List.takeWhile_cons, stops, Option.isNone_none, ↓reduceIte]
      have listed : (path :: rest).filterMap (listed? settings tree) =
          (listed? settings tree path).toList ++ rest.filterMap (listed? settings tree) := by
        rw [List.filterMap_cons]
        cases listed? settings tree path <;> rfl
      rw [run_bind_of_ok step, first, listed]
      refine ⟨after, run, ?_, ?_⟩
      · rw [failed, counted, List.countP_cons]
        omega
      · rwa [List.append_assoc] at shownAfter

theorem run_listAll (paths : List Text) :
    ∃ listing, (listAll settings tree paths).run {} =
        (match (tree.expand paths).findSome? (stop? settings tree) with
          | some cause => .error cause
          | none => .ok (), listing) ∧
      listing.failed =
        (reached settings tree (tree.expand paths)).countP (fails settings tree) ∧
      ((tree.expand paths).findSome? (stop? settings tree) = none →
        listing.printer.text =
          Text.joined [0x0A] ((tree.expand paths).filterMap (listed? settings tree))) := by
  have nothing : ({} : Listing).printer.Shows [] := Printer.shows_nothing
  obtain ⟨after, run, failed, shows_⟩ :=
    run_forM_listFile settings tree (tree.expand paths) nothing
  unfold listAll
  cases stops : (tree.expand paths).findSome? (stop? settings tree) with
  | some cause =>
    rw [stops] at run
    refine ⟨after, run_bind_of_error run _, ?_, nofun⟩
    rw [failed, Nat.zero_add]
  | none =>
    rw [stops] at run
    have shown := shows_ stops
    have flushed : after.printer.flush = after.printer := by
      simp only [Printer.flush, shown.settled.noBreak]
      rfl
    refine ⟨after, ?_, ?_, fun _ => ?_⟩
    · rw [run_bind_of_ok run]
      show (Except.ok (), { after with printer := after.printer.flush }) = _
      rw [flushed]
    · rw [failed, Nat.zero_add]
    · exact shown.text

/-- A command line that asks for a listing, and the tree in which the listing is made: an output
file is emptied before. -/
inductive Asks (before : FileTree) (texts : List Text) : Settings → FileTree → List Text → Prop
  | forStdout {arguments : Arguments} {selection : Selection}
      (understood : Arguments.ofTexts texts = .ok arguments)
      (selected : selectionOf arguments = .ok selection)
      (unnamed : arguments.output.getD [] = []) :
      Asks before texts { selection, verbose := arguments.verbose } before arguments.paths
  | forFile {arguments : Arguments} {selection : Selection} {output : Text} {place : List Text}
      (understood : Arguments.ofTexts texts = .ok arguments)
      (selected : selectionOf arguments = .ok selection)
      (named : arguments.output = some output) (nonempty : output ≠ [])
      (target : before.target output = .ok place)
      (shown : output.all (fun point => !Text.isSurrogate point) = true) :
      Asks before texts { selection, verbose := arguments.verbose, output := some place }
        (before.write place #[]) arguments.paths

theorem ending_ok (listing : Listing) :
    ending (.ok ()) listing = .exited (if 0 < listing.failed then 1 else 0) := by
  unfold ending
  by_cases clean : listing.failed = 0
  · simp only [clean, Nat.lt_irrefl, ↓reduceIte]
  · simp only [clean, Nat.pos_of_ne_zero clean, ↓reduceIte]

section

variable {settings : Settings} {tree : FileTree} {paths : List Text} {listing : Listing}

theorem ending_runToStdout (listed : (listAll settings tree paths).run {} = (.ok (), listing)) :
    (runToStdout settings tree paths).ending = .exited (if 0 < listing.failed then 1 else 0) := by
  simp only [runToStdout, listed, ending_ok]

/-- A file is named in a message, so its path must have no surrogates. -/
theorem ending_runToFile {output : Text} {place : List Text}
    (target : tree.target output = .ok place)
    (shown : output.all (fun point => !Text.isSurrogate point) = true)
    (listed : (listAll { settings with output := some place } (tree.write place #[]) paths).run {} =
      (.ok (), listing)) :
    (runToFile settings tree paths output).ending =
      .exited (if 0 < listing.failed then 1 else 0) := by
  simp only [runToFile, target, listed, ending_ok, shown, ↓reduceIte]

end

/-- The status of a command whose listing is made to the end. -/
theorem Asks.ending_run {before : FileTree} {texts : List Text} {settings : Settings}
    {tree : FileTree} {paths : List Text} (asks : Asks before texts settings tree paths)
    {listing : Listing} (listed : (listAll settings tree paths).run {} = (.ok (), listing)) :
    (run before texts).ending = .exited (if 0 < listing.failed then 1 else 0) := by
  cases asks with
  | @forStdout arguments selection understood selected unnamed =>
    have made := ending_runToStdout listed
    simp only [run, understood, selected]
    split
    · exact made
    · exact made
    · rename_i output nonempty named
      rw [named] at unnamed
      exact absurd unnamed nonempty
  | @forFile arguments selection output place understood selected named nonempty target shown =>
    have made : (runToFile { selection, verbose := arguments.verbose } before arguments.paths
        output).ending = .exited (if 0 < listing.failed then 1 else 0) :=
      ending_runToFile target shown listed
    simp only [run, understood, selected]
    split
    · rename_i none
      rw [named] at none
      cases none
    · rename_i empty
      rw [named] at empty
      cases empty
      exact absurd rfl nonempty
    · rename_i other _ same
      rw [named] at same
      cases same
      exact made

/-- What is listed of some paths, if no rendering ends the run: the renderings of the files that do
not fail, each made on its own, in the order of their paths and with an empty line between
neighbours. The others are counted, and a command that asked for the listing tells by its status
whether there are any. -/
theorem listAll_eq_joined (paths : List Text)
    (calm : ∀ path ∈ tree.expand paths, ∀ cause, rendering settings tree path ≠ .error cause) :
    (tree.expand paths).Perm (paths.flatMap tree.standsFor) ∧
      (∀ given place path, tree.directory? given = some place →
        (path ∈ tree.standsFor given ↔
          ∃ names, tree.HasClassFile given place names ∧
            path = FileTree.joinPath given names)) ∧
      (tree.expand paths).Pairwise (fun first second => first.precedes second = true) ∧
      ∃ listing, (listAll settings tree paths).run {} = (.ok (), listing) ∧
        listing.printer.text =
          Text.joined [0x0A] ((tree.expand paths).filterMap (listed? settings tree)) ∧
        listing.failed = (tree.expand paths).countP (fails settings tree) ∧
        ∀ before texts, Asks before texts settings tree paths →
          (run before texts).ending = .exited (if 0 < listing.failed then 1 else 0) := by
  have goesOn : ∀ path ∈ tree.expand paths, stop? settings tree path = none := by
    intro path present
    unfold stop?
    cases found : rendering settings tree path with
    | ok text? => rfl
    | error cause => exact absurd found (calm path present cause)
  have none_stops : (tree.expand paths).findSome? (stop? settings tree) = none :=
    List.findSome?_eq_none_iff.mpr goesOn
  have all_reached := reached_eq_self settings tree none_stops
  obtain ⟨listing, made, failed, text⟩ := run_listAll settings tree paths
  rw [none_stops] at made
  rw [all_reached] at failed
  refine ⟨tree.expand_perm paths, ?_, tree.pairwise_expand paths, listing, made,
    text none_stops, failed, ?_⟩
  · intro given place path leads
    exact FileTree.mem_standsFor_iff leads path
  · intro before texts asks
    exact asks.ending_run made

theorem ofTexts_word {path : Text} (word : Token.ofTexts [path] = .ok [.word path]) :
    Arguments.ofTexts [path] = .ok { paths := [path] } := by
  have unread : ¬ (Token.word path).isOption = true := Bool.false_ne_true
  have taken : ({} : Progress).takeAll [.word path] = .ok { paths := some [path] } := by
    rw [Progress.takeAll, if_neg unread]
    show Progress.takeAll { paths := some [path] } [] = _
    rw [Progress.takeAll]
  rw [Arguments.ofTexts, word]
  change (({} : Progress).takeAll [.word path] >>= _) = _
  rw [taken]
  rfl

def sampleTree : FileTree where
  here := ["work"]
  files := [(["work", "A.class"], ClassFile.nestedCode), (["work", "B.class"], #[0])]

theorem expand_sampleTree :
    sampleTree.expand ["."] = [Text.ofString "./A.class", Text.ofString "./B.class"] := by
  have ordered : [Text.ofString "./A.class", Text.ofString "./B.class"].Pairwise
      fun left right => Text.precedes left right = true := by decide
  have found : ([Text.ofString "."].flatMap sampleTree.standsFor) =
      [Text.ofString "./A.class", Text.ofString "./B.class"] := by decide +kernel
  show Text.sorted ([Text.ofString "."].flatMap sampleTree.standsFor) = _
  rw [found, Text.sorted_of_pairwise ordered]

theorem listAll_eq_joined_sampleTree :
    (∀ path ∈ sampleTree.expand ["."], ∀ cause, rendering {} sampleTree path ≠ .error cause) ∧
      ∃ listing, (listAll {} sampleTree ["."]).run {} = (.ok (), listing) ∧
        listing.printer.text = Text.joined [0x0A]
          ((sampleTree.expand ["."]).filterMap (listed? {} sampleTree)) ∧
        listing.failed = 1 ∧ (run sampleTree ["."]).ending = .exited 1 := by
  have calm : ∀ path ∈ sampleTree.expand ["."], ∀ cause,
      rendering {} sampleTree path ≠ .error cause := by
    have good : ([Text.ofString "./A.class", Text.ofString "./B.class"].all fun path =>
        (rendering {} sampleTree path).isOk) = true := by decide +kernel
    intro path present cause stops
    rw [expand_sampleTree] at present
    have fine := List.all_eq_true.mp good path present
    rw [stops] at fine
    cases fine
  have one : (sampleTree.expand ["."]).countP (fails {} sampleTree) = 1 := by
    rw [expand_sampleTree]
    decide +kernel
  have understood : Arguments.ofTexts ["."] = .ok { paths := ["."] } := ofTexts_word rfl
  obtain ⟨-, -, -, listing, made, text, failed, status⟩ :=
    listAll_eq_joined {} sampleTree ["."] calm
  rw [one] at failed
  have asks : Asks sampleTree ["."] {} sampleTree ["."] := Asks.forStdout understood rfl rfl
  have ended := status sampleTree ["."] asks
  rw [failed] at ended
  exact ⟨calm, listing, made, text, failed, ended⟩

end ClassOutline.Command
