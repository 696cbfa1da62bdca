import ClassOutline.Proofs.Outline.Dimensions
import ClassOutline.Proofs.Outline.Rendition
import ClassOutline.Proofs.Outline.Writing

set_option autoImplicit false

namespace ClassOutline

open Printer (Writes)
open Text (startsAfter)

variable {pool : ConstantPool} {marked : List Text}

open Draw

namespace Imports

theorem renders_drawOne (resolved : pool.Resolved) (thisClass name : Text) :
    Renders pool marked [] (drawOne thisClass name)
      (.ok (Rendition.isImported (pool.referenced marked) thisClass name))
      (if Rendition.isImported (pool.referenced marked) thisClass name then Rendition.importLine name
        else []) := by
  unfold drawOne Rendition.isImported
  cases isVisible thisClass name with
  | true => exact Renders.pure false
  | false =>
    apply Renders.lookup_bind (SymbolTable.answers_displayName resolved name)
    by_cases own : Names.displayed (pool.referenced marked) name = Names.simpleName name
    · rw [if_neg (not_not_intro own), own]
      simp only [beq_self_eq_true, Bool.not_false, Bool.and_self, ↓reduceIte]
      exact (Renders.print_append (fun _ => rfl) _).bind_pure fun _ => true
    · rw [if_pos own]
      simp only [beq_false_of_ne own, Bool.and_false, Bool.false_eq_true, ↓reduceIte]
      exact Renders.pure false

theorem count_imported (needed : Text → Bool) (names : List Text) :
    (names.map needed).count true = (names.filter needed).length := by
  rw [List.count, List.countP_map, ← List.countP_eq_length_filter]
  exact List.countP_congr fun name _ => by simp

theorem flatMap_imported (needed : Text → Bool) (names : List Text) :
    (names.flatMap fun name => if needed name then Rendition.importLine name else []) =
      (names.filter needed).flatMap Rendition.importLine := by
  induction names with
  | nil => rfl
  | cons name rest ih =>
    cases chosen : needed name <;> simp [chosen, ih]

theorem importLines_eq_append (names : List Text) :
    Rendition.importLines names =
      names.flatMap Rendition.importLine ++ if names.isEmpty then [] else [0x0A] := by
  cases names <;> rfl

theorem renders_draw (resolved : pool.Resolved) (thisClass : Text) :
    Renders pool marked [] (draw thisClass)
      (.ok (Rendition.imported (pool.referenced marked) thisClass).length)
      (Rendition.importBlock (pool.referenced marked) thisClass) := by
  have each (name : Text) : Renders pool marked [] (drawOne thisClass name) _ _ :=
    renders_drawOne resolved thisClass name
  have lines := Renders.mapM fun name (_ : name ∈ candidates (pool.referenced marked)) => each name
  rw [flatMap_imported] at lines
  unfold draw Rendition.importBlock
  apply Renders.lookup_bind (SymbolTable.answers_referencedClasses resolved)
  rw [importLines_eq_append]
  apply lines.bind
  have chosen : (candidates (pool.referenced marked)).filter
      (Rendition.isImported (pool.referenced marked) thisClass) =
        Rendition.imported (pool.referenced marked) thisClass := rfl
  rw [count_imported, chosen]
  cases Rendition.imported (pool.referenced marked) thisClass with
  | nil => exact Renders.pure 0
  | cons first rest =>
    have ends : startsAfter true [0x0A] = true := rfl
    exact (Renders.print ends).bind_pure fun _ => (first :: rest).length

end Imports

namespace Rendition

def typeEnd (count place : Nat) : Text :=
  if place + 1 < count then ",\n" else "\n"

def typeLines (keyword : Text) (types : List Text) : List Text :=
  if types.isEmpty then []
  else (keyword ++ " ") :: types.zipIdx.map fun row => row.1 ++ typeEnd types.length row.2

theorem flatten_types {first : Text} {rest : List Text} {place count : Nat}
    (last : place + rest.length + 1 = count) :
    (((first :: rest).zipIdx place).map fun row => row.1 ++ typeEnd count row.2).flatten =
      Text.joined ",\n" (first :: rest) ++ "\n" := by
  induction rest generalizing first place with
  | nil =>
    have ends : typeEnd count place = "\n" := if_neg (by rw [← last]; exact Nat.lt_irrefl _)
    simp [Text.joined, ends]
  | cons second later ih =>
    rw [List.length_cons] at last
    have inner : typeEnd count place = ",\n" := if_pos (by omega)
    rw [List.zipIdx_cons, List.map_cons, List.flatten_cons, ih (by omega), inner]
    show first ++ Text.ofString ",\n" ++ _ =
      first ++ Text.ofString ",\n" ++ Text.joined ",\n" (second :: later) ++ _
    rw [List.append_assoc _ (Text.joined _ _)]

theorem flatten_typeLines (keyword : Text) (types : List Text) :
    (typeLines keyword types).flatten = typeList keyword types := by
  cases types with
  | nil => rfl
  | cons first rest =>
    have listed : ((first :: rest).zipIdx.map fun row =>
        row.1 ++ typeEnd (first :: rest).length row.2).flatten = _ :=
      flatten_types (by rw [Nat.zero_add]; rfl)
    show keyword ++ Text.ofString " " ++ _ =
      keyword ++ Text.ofString " " ++ Text.joined ",\n" (first :: rest) ++ _
    rw [listed, List.append_assoc _ (Text.joined _ _)]

example : typeList "implements" ["A", "B"] = "implements A,\nB\n" := by decide

/-- A list of types ends its last line, and so does what stands before it. -/
theorem startsAfter_typeList {front : Text} (ends : startsAfter true front = true)
    (keyword : Text) (types : List Text) :
    startsAfter true (front ++ typeList keyword types) = true := by
  rw [Text.startsAfter_append, ends, typeList]
  split
  · rfl
  · rw [Text.startsAfter_append]
    rfl

theorem startsAfter_fieldLines {classes : List Text} {fields : List Field} {lines : List Text}
    (made : fields.mapM (fieldLine classes) = .ok lines) :
    startsAfter true lines.flatten = true := by
  induction mapM_eq_ok_iff.mp made with
  | nil => rfl
  | cons first others ih =>
    obtain ⟨value, _, rfl⟩ := map_eq_ok_iff.mp first
    rw [List.flatten_cons, Text.startsAfter_append, Text.startsAfter_append]
    exact ih (mapM_eq_ok_iff.mpr others)

end Rendition

namespace Declaration

theorem zip_eq_map_zipIdx {methods : List Method} {summaries : List (Option CodeSummary)}
    (matched : summaries.length = methods.length) :
    methods.zip summaries =
      methods.zipIdx.map fun row => (row.1, (summaries[row.2]?).join) := by
  apply List.ext_getElem
  · simp [matched]
  · intro place inside _
    have known : place < summaries.length := by
      rw [List.length_zip] at inside
      omega
    simp [known]

section

variable (resolved : pool.Resolved) {field : Field}

include resolved

theorem plays_drawField {line : Text}
    (made : Rendition.fieldLine (pool.referenced marked) field = .ok line) :
    Plays pool marked (drawField field) (.ok ()) [.print line] := by
  obtain ⟨value, clause, rfl⟩ := map_eq_ok_iff.mp made
  rw [← AccessFlags.render_fieldWords]
  unfold Rendition.constantClause at clause
  unfold drawField
  apply Plays.lookup_bind (answers_typeText resolved field.descriptor)
  cases constant : field.constantValue? with
  | none =>
    rw [constant] at clause
    cases clause
    exact (Plays.pure []).bind (Plays.print _)
  | some literal =>
    rw [constant] at clause
    obtain ⟨text, shown, rfl⟩ := map_eq_ok_iff.mp clause
    simp only [shown]
    exact (Plays.pure _).bind (Plays.print _)

theorem plays_drawField_error {fault : LiteralFault}
    (failed : Rendition.constantClause field = .error fault) :
    Plays pool marked (drawField field) (.error (.literal fault)) [] := by
  unfold Rendition.constantClause at failed
  unfold drawField
  apply Plays.lookup_bind (answers_typeText resolved field.descriptor)
  cases constant : field.constantValue? with
  | none =>
    rw [constant] at failed
    cases failed
  | some literal =>
    rw [constant] at failed
    simp only [map_eq_error_iff.mp failed]
    exact (Plays.throw _).bind_error _

theorem plays_fields {fields : List Field} {lines : List Text}
    (made : fields.mapM (Rendition.fieldLine (pool.referenced marked)) = .ok lines) :
    Plays pool marked (fields.forM drawField) (.ok ()) (lines.map .print) := by
  induction mapM_eq_ok_iff.mp made with
  | nil => exact Plays.pure ()
  | cons first _ ih =>
    exact (plays_drawField resolved first).bind (ih (mapM_eq_ok_iff.mpr ‹_›))

/-- Drawing ends at the first field whose constant has no text, behind the lines before it. -/
theorem plays_fields_error {fields : List Field} {place : Nat} {lines : List Text}
    {fault : LiteralFault}
    (stops : Rendition.StopsAt (pool.referenced marked) fields place lines fault) :
    Plays pool marked (fields.forM drawField) (.error (.literal fault)) (lines.map .print) := by
  obtain ⟨before, field, found, failed⟩ := stops
  obtain ⟨inside, rfl⟩ := List.getElem?_eq_some_iff.mp found
  have drawn := plays_fields resolved before
  have here :
      Plays pool marked ((fields.drop place).forM drawField) (.error (.literal fault)) [] := by
    rw [List.drop_eq_getElem_cons inside]
    exact (plays_drawField_error resolved failed).bind_error _
  rw [← List.take_append_drop place fields, List.forM_eq_forM,
    List.forM_append, ← List.append_nil (List.map _ _)]
  exact drawn.bind here

end

variable {file : ClassFile} (resolved : file.Resolved)

include resolved

theorem renders_drawMethod (method : Method) (summary : Option CodeSummary) :
    Renders file.pool marked [] (drawMethod file method summary) (.ok ())
      (Rendition.methodBlock (file.pool.referenced marked) (Rendition.thisClass file) method
        summary) := by
  unfold drawMethod drawMethodWith Rendition.methodBlock
  rw [signatureWith_unboundedTypeText]
  apply Renders.lookup_bind (answers_signature resolved method true)
  cases method.code? with
  | none => exact Renders.print_append (fun _ => rfl) _
  | some code =>
    have comment : Renders file.pool marked [] (Draw.print (codeComment code summary)) (.ok ())
        (Rendition.comment code summary) := by
      rw [Rendition.codeComment_eq_comment]
      cases summary <;> exact Renders.print_append (fun _ => rfl) _
    dsimp only
    rw [List.append_assoc _ (Text.indented _)]
    apply (Renders.print_append (fun _ => rfl) _).bind
    exact comment.indented.bind (Renders.print rfl)

theorem plays_drawTypes (keyword : Text) {nameIndices : List Nat}
    (present : ∀ nameIndex ∈ nameIndices, nameIndex ∈ file.pool.classNameIndices) :
    Plays file.pool marked (drawTypes keyword nameIndices) (.ok ())
      ((Rendition.typeLines keyword (nameIndices.map fun nameIndex =>
        Names.displayed (file.pool.referenced marked) (file.pool.textAt nameIndex))).map
        .print) := by
  unfold drawTypes Rendition.typeLines
  rw [List.isEmpty_map, List.length_map, List.zipIdx_map, List.map_map]
  cases nameIndices.isEmpty with
  | true => exact Plays.pure ()
  | false =>
    apply Plays.print_bind
    rw [List.map_map, List.map_eq_flatMap]
    apply Plays.forM
    intro row listed
    have known := present row.1 (List.fst_mem_of_mem_zipIdx listed)
    exact Plays.lookup_bind (SymbolTable.answers_typeName resolved.classes known) (Plays.print _)

/-- The interfaces end a header, so no break is asked for behind them. -/
theorem plays_drawInterfaces (keyword : Text) :
    Plays file.pool marked (do
        drawTypes keyword file.interfaces
        Draw.change Printer.dropBreak) (.ok ())
      ((Rendition.typeLines keyword
        (Rendition.interfaceTypes (file.pool.referenced marked) file)).map .print ++ [.dropBreak]) :=
  (plays_drawTypes resolved keyword resolved.interfaces).bind (Plays.change .dropBreak)

theorem renders_drawInterfaceHeader :
    Renders file.pool marked [] (drawInterfaceHeader file) (.ok ())
      (Rendition.interfaceHeader (file.pool.referenced marked) file) := by
  unfold Rendition.interfaceHeader
  rw [← AccessFlags.render_interfaceWords, ← Rendition.flatten_typeLines]
  apply Renders.prints
  · unfold drawInterfaceHeader
    apply Plays.lookup_bind resolved.answers_classType
    apply Plays.print_bind
    exact plays_drawInterfaces resolved "extends"
  · rw [List.flatten_cons, Rendition.flatten_typeLines]
    apply Rendition.startsAfter_typeList
    rw [Text.startsAfter_append]
    rfl

theorem renders_drawClassHeader :
    Renders file.pool marked [] (drawClassHeader file) (.ok ())
      (Rendition.classHeader (file.pool.referenced marked) file) := by
  have headEnds (front : Text) : startsAfter true (front ++ "\n") = true := by
    rw [Text.startsAfter_append]
    rfl
  unfold Rendition.classHeader
  rw [← AccessFlags.render_classWords, ← Rendition.flatten_typeLines]
  cases found : file.superClass with
  | none =>
    dsimp only
    rw [List.append_nil]
    apply Renders.prints
    · unfold drawClassHeader
      rw [found]
      apply Plays.lookup_bind resolved.answers_classType
      apply Plays.print_bind
      exact plays_drawInterfaces resolved "implements"
    · rw [List.flatten_cons, Rendition.flatten_typeLines]
      exact Rendition.startsAfter_typeList (headEnds _) _ _
  | some nameIndex =>
    have known := resolved.superClass nameIndex found
    dsimp only
    rw [List.append_assoc _ (_ ++ _), ← List.flatten_cons, ← List.flatten_cons]
    apply Renders.prints
    · unfold drawClassHeader
      rw [found]
      apply Plays.lookup_bind resolved.answers_classType
      apply Plays.print_bind
      apply Plays.lookup_bind (SymbolTable.answers_typeName resolved.classes known)
      apply Plays.print_bind
      exact plays_drawInterfaces resolved "implements"
    · rw [List.flatten_cons, List.flatten_cons, Rendition.flatten_typeLines, ← List.append_assoc]
      apply Rendition.startsAfter_typeList
      rw [Text.startsAfter_append, headEnds]
      exact headEnds _

theorem renders_drawPreamble :
    Renders file.pool marked [.freshLine] (drawPreamble file) (.ok ())
      ("// Imports\n" ++ Rendition.importBlock (file.pool.referenced marked)
        (Rendition.thisClass file)) := by
  unfold drawPreamble
  apply Renders.change_bind
  apply (Renders.print rfl).bind
  apply Renders.lookup_bind resolved.answers_className
  exact (Imports.renders_draw resolved.classes _).bind_pure fun _ => ()

/-- The signatures in an interface have soft breaks between them. -/
theorem renders_signatures (methods : List Method) :
    Renders file.pool marked [] (do
        methods.forM fun method => do
          Draw.change Printer.softBreak
          Draw.print ((← Draw.lookup (signature file method false)) ++ ";")
        Draw.change Printer.softBreak) (.ok ())
      (methods.flatMap fun method => Rendition.signature (file.pool.referenced marked)
        (Rendition.thisClass file) method false ++ ";\n") := by
  let shown (method : Method) : Text := Rendition.signature (file.pool.referenced marked)
    (Rendition.thisClass file) method false
  refine ⟨methods.flatMap (fun method => [.softBreak, .print (shown method ++ ";")]) ++
    [.softBreak], ?_, ?_, ?_⟩
  · have softBreak : Plays file.pool marked (Draw.change Printer.softBreak) (.ok ())
        [.softBreak] := Plays.change .softBreak
    rw [List.nil_append]
    refine Plays.bind (Plays.forM fun method _ => ?_) softBreak
    refine softBreak.bind ?_
    exact Plays.lookup_bind (answers_signature resolved method false) (Plays.print _)
  -- No signature ends its line, so each break but the first one shows.
  · have goesOn : ∀ text ∈ methods.map (shown · ++ Text.ofString ";"), ∀ atStart,
        startsAfter atStart text = false := by
      intro text present atStart
      obtain ⟨method, _, rfl⟩ := List.mem_map.mp present
      rw [Text.startsAfter_append]
      rfl
    have lines (method : Method) : shown method ++ Text.ofString ";" ++ [0x0A] =
        shown method ++ Text.ofString ";\n" := List.append_assoc _ _ _
    have written : Writes true _ _ := Writes.broken goesOn
    simp only [List.flatMap_map, lines] at written
    exact written
  · apply Text.startsAfter_flatMap
    intro method _
    rw [Text.startsAfter_append]
    rfl

theorem renders_interfaceBody :
    Renders file.pool marked [] (do
        if !file.methods.isEmpty then
          Draw.print "// Methods\n"
          file.methods.forM fun method => do
            Draw.change Printer.softBreak
            Draw.print ((← Draw.lookup (signature file method false)) ++ ";")
        Draw.change Printer.softBreak) (.ok ())
      (Rendition.interfaceBody (file.pool.referenced marked) file) := by
  unfold Rendition.interfaceBody Rendition.titled
  rw [List.isEmpty_map, ← List.flatMap_def]
  cases file.methods.isEmpty with
  | true => exact Renders.softBreak
  | false =>
    apply (Renders.print rfl).bind
    exact renders_signatures resolved file.methods

/-- The methods of a class begin where a line begins, so no soft break shows. -/
theorem renders_methods (rows : List (Method × Option CodeSummary)) :
    Renders file.pool marked [] (do
        rows.forM fun row => do
          Draw.change Printer.softBreak
          drawMethod file row.1 row.2
        Draw.change Printer.softBreak) (.ok ())
      (rows.flatMap fun row => Rendition.methodBlock (file.pool.referenced marked)
        (Rendition.thisClass file) row.1 row.2) := by
  have each : ∀ row ∈ rows, Renders file.pool marked [] (do
      Draw.change Printer.softBreak
      drawMethod file row.1 row.2) (.ok ())
      (Rendition.methodBlock (file.pool.referenced marked) (Rendition.thisClass file)
        row.1 row.2) :=
    fun row _ => Renders.softBreak.bind (renders_drawMethod resolved row.1 row.2)
  rw [← List.append_nil (List.flatMap _ _)]
  exact (Renders.forM each).bind Renders.softBreak

theorem renders_methodPart {summaries : List (Option CodeSummary)}
    (matched : summaries.length = file.methods.length) :
    Renders file.pool marked [] (do
        if !file.methods.isEmpty then
          Draw.print "// Methods\n"
          (file.methods.zip summaries).forM fun row => do
            Draw.change Printer.softBreak
            drawMethod file row.1 row.2
        Draw.change Printer.softBreak) (.ok ())
      (Rendition.titled "// Methods\n" (file.methods.zipIdx.map fun row =>
        Rendition.methodBlock (file.pool.referenced marked) (Rendition.thisClass file) row.1
          (summaries[row.2]?).join)) := by
  have empty : file.methods.zipIdx.isEmpty = file.methods.isEmpty := by
    cases file.methods <;> rfl
  have blocks : Renders file.pool marked [] _ _ _ :=
    renders_methods resolved (file.methods.zip summaries)
  unfold Rendition.titled
  rw [List.isEmpty_map, empty, ← List.flatMap_def]
  cases file.methods.isEmpty with
  | true => exact Renders.softBreak
  | false =>
    apply (Renders.print rfl).bind
    rw [zip_eq_map_zipIdx matched, List.flatMap_map] at blocks
    rw [zip_eq_map_zipIdx matched]
    exact blocks

theorem renders_fieldPart {lines : List Text} {others : Draw Unit} {text : Text}
    (made : file.fields.mapM (Rendition.fieldLine (file.pool.referenced marked)) = .ok lines)
    (later : Renders file.pool marked [] others (.ok ()) text) :
    Renders file.pool marked [] (do
        if !file.fields.isEmpty then
          Draw.print "// Fields\n"
          file.fields.forM drawField
        others) (.ok ())
      (Rendition.titled "// Fields\n" lines ++ text) := by
  have drawn : Renders file.pool marked [] (file.fields.forM drawField) (.ok ()) lines.flatten :=
    ⟨_, plays_fields resolved.classes made, Writes.prints lines,
      Rendition.startsAfter_fieldLines made⟩
  have empty : lines.isEmpty = file.fields.isEmpty := by
    rw [Bool.eq_iff_iff, List.isEmpty_iff_length_eq_zero, List.isEmpty_iff_length_eq_zero,
      (mapM_eq_ok_iff.mp made).length_eq]
  unfold Rendition.titled
  rw [empty]
  cases file.fields.isEmpty with
  | true => exact later
  | false =>
    have title : Renders file.pool marked [] (Draw.print "// Fields\n") (.ok ()) "// Fields\n" :=
      Renders.print rfl
    exact (title.andThen drawn).andThen later

theorem delivers_fieldPart_error {place : Nat} {lines : List Text} {fault : LiteralFault}
    (stops : Rendition.StopsAt (file.pool.referenced marked) file.fields place lines fault)
    (others : Draw Unit) :
    Delivers file.pool marked [] (do
        if !file.fields.isEmpty then
          Draw.print "// Fields\n"
          file.fields.forM drawField
        others) (.error (.literal fault)) ("// Fields\n" ++ lines.flatten) := by
  have some_field : file.fields.isEmpty = false := by
    obtain ⟨field, found, _⟩ := stops.here
    rw [List.isEmpty_eq_false_iff]
    exact List.ne_nil_of_mem (List.mem_of_getElem? found)
  have drawn : Plays file.pool marked (do
      Draw.print "// Fields\n"
      file.fields.forM drawField) (.error (.literal fault)) _ :=
    Plays.print_bind (plays_fields_error resolved.classes stops)
  have ends : startsAfter true (Text.ofString "// Fields\n" :: lines).flatten = true := by
    rw [List.flatten_cons, Text.startsAfter_append]
    exact Rendition.startsAfter_fieldLines stops.before
  rw [some_field]
  exact (Delivers.prints drawn ends).bind_error _

theorem delivers_framed {header body : Draw Unit} {head inner : Text}
    (above : Renders file.pool marked [] header (.ok ()) head)
    (within : Renders file.pool marked [] body (.ok ()) inner) :
    Delivers file.pool marked [.freshLine] (do
        drawPreamble file
        header
        Draw.print "\x7b\n"
        Draw.indented body
        Draw.print "\x7d\n") (.ok ())
      ("// Imports\n" ++ Rendition.importBlock (file.pool.referenced marked)
          (Rendition.thisClass file) ++ head ++ "\x7b\n" ++ Text.indented inner ++ "\x7d\n") := by
  simp only [List.append_assoc]
  rw [← List.append_assoc (Text.ofString "// Imports\n")]
  refine Delivers.behind ?_ (renders_drawPreamble resolved)
  refine Delivers.behind ?_ above
  refine Delivers.behind ?_ (Renders.print rfl)
  refine Delivers.behind ?_ within.indented
  exact Delivers.print rfl

theorem delivers_framed_error {header body : Draw Unit} {head inner : Text} {fault : DrawFault}
    (above : Renders file.pool marked [] header (.ok ()) head)
    (within : Delivers file.pool marked [] body (.error fault) inner) :
    Delivers file.pool marked [.freshLine] (do
        drawPreamble file
        header
        Draw.print "\x7b\n"
        Draw.indented body
        Draw.print "\x7d\n") (.error fault)
      ("// Imports\n" ++ Rendition.importBlock (file.pool.referenced marked)
          (Rendition.thisClass file) ++ head ++ "\x7b\n" ++ Text.indented inner) := by
  simp only [List.append_assoc]
  rw [← List.append_assoc (Text.ofString "// Imports\n")]
  refine Delivers.behind ?_ (renders_drawPreamble resolved)
  refine Delivers.behind ?_ above
  refine Delivers.behind ?_ (Renders.print rfl)
  exact within.indented.bind_error _

theorem delivers_drawAsInterface :
    Delivers file.pool marked [.freshLine] (drawAsInterface file) (.ok ())
      ("// Imports\n" ++ Rendition.importBlock (file.pool.referenced marked)
          (Rendition.thisClass file) ++
        Rendition.interfaceHeader (file.pool.referenced marked) file ++ "\x7b\n" ++
        Text.indented (Rendition.interfaceBody (file.pool.referenced marked) file) ++
        "\x7d\n") := by
  unfold drawAsInterface drawAsInterfaceWith
  simp only [signatureWith_unboundedTypeText]
  exact delivers_framed resolved (renders_drawInterfaceHeader resolved)
    (renders_interfaceBody resolved)

variable {summaries : List (Option CodeSummary)}

theorem delivers_drawAsClass {body : Text} (matched : summaries.length = file.methods.length)
    (made : Rendition.classBody (file.pool.referenced marked) file summaries = .ok body) :
    Delivers file.pool marked [.freshLine] (drawAsClass file summaries) (.ok ())
      ("// Imports\n" ++ Rendition.importBlock (file.pool.referenced marked)
          (Rendition.thisClass file) ++
        Rendition.classHeader (file.pool.referenced marked) file ++ "\x7b\n" ++
        Text.indented body ++ "\x7d\n") := by
  obtain ⟨lines, found, same⟩ := bind_eq_ok_iff.mp made
  cases same
  exact delivers_framed resolved (renders_drawClassHeader resolved)
    (renders_fieldPart resolved found (renders_methodPart resolved matched))

theorem delivers_draw {text : Text} (matched : summaries.length = file.methods.length)
    (made : Rendition.text (file.pool.referenced marked) file summaries = .ok text) :
    Delivers file.pool marked [.freshLine] (draw file summaries) (.ok ()) text := by
  unfold draw drawWith
  unfold Rendition.text at made
  cases kind : file.isInterface with
  | true =>
    simp only [kind, ↓reduceIte] at made
    cases made
    exact delivers_drawAsInterface resolved
  | false =>
    simp only [kind, Bool.false_eq_true, ↓reduceIte] at made
    obtain ⟨body, found, same⟩ := bind_eq_ok_iff.mp made
    cases same
    exact delivers_drawAsClass resolved matched found

/-- A class stops where its fields do. Its methods are not reached, and its body is not closed. -/
theorem delivers_drawAsClass_error (summaries : List (Option CodeSummary)) {place : Nat}
    {lines : List Text} {fault : LiteralFault}
    (stops : Rendition.StopsAt (file.pool.referenced marked) file.fields place lines fault) :
    Delivers file.pool marked [.freshLine] (drawAsClass file summaries) (.error (.literal fault))
      (Rendition.stopped (file.pool.referenced marked) file lines) :=
  delivers_framed_error resolved (renders_drawClassHeader resolved)
    (delivers_fieldPart_error resolved stops _)

theorem delivers_draw_error (summaries : List (Option CodeSummary)) {place : Nat}
    {lines : List Text} {fault : LiteralFault} (isClass : file.isInterface = false)
    (stops : Rendition.StopsAt (file.pool.referenced marked) file.fields place lines fault) :
    Delivers file.pool marked [.freshLine] (draw file summaries) (.error (.literal fault))
      (Rendition.stopped (file.pool.referenced marked) file lines) := by
  rw [draw, drawWith, isClass]
  exact delivers_drawAsClass_error resolved summaries stops

end Declaration

end ClassOutline
