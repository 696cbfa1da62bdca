import ClassOutline.Proofs.Members.Types
import ClassOutline.Proofs.Outline.Rendition

set_option autoImplicit false

/- A rendition in pieces: the classes and types that are displayed in it, and the text between them.
The pieces follow from the class file, its constants and the summaries of its methods alone. How
classes are displayed decides only what is shown in the place of their names. -/

namespace ClassOutline.Rendition

open AccessFlags (shownWords interfaceModifiers classModifiers fieldModifiers methodModifiers)
open Names (displayed)

/-- Text that stands as it is, a class that is displayed, the class that is declared, or a type,
whose last array dimension may be an ellipsis. -/
inductive Piece
  | plain (text : Text)
  | className (name : Text)
  | declared (name : Text)
  | type (descriptor : Text) (varargs : Bool)

namespace Piece

def shown (display : Text → Text) : Piece → Text
  | .plain text => text
  | .className name => display name
  | .declared name =>
    if (Text.afterLast 0x2F name).contains 0x24 then Text.afterLast 0x24 name else display name
  | .type descriptor varargs =>
    let type := Id.run (Descriptor.format (fun name => pure (display name)) descriptor)
    if varargs then withEllipsis type else type

def name? : Piece → Option Text
  | .plain _ => none
  | .className name | .declared name => some name
  | .type descriptor _ => Descriptor.className? descriptor

end Piece

/-- Some pieces as they are shown if classes are displayed in a certain way. -/
def shown (display : Text → Text) (pieces : List Piece) : Text :=
  pieces.flatMap (Piece.shown display)

def named (pieces : List Piece) : List Text :=
  pieces.filterMap Piece.name?

/-- Pieces with a separator between neighbours. -/
def joinedPieces (separator : Text) : List (List Piece) → List Piece
  | [] => []
  | [part] => part
  | part :: rest => part ++ .plain separator :: joinedPieces separator rest

def titledPieces (title : Text) (parts : List (List Piece)) : List Piece :=
  if parts.isEmpty then [] else .plain title :: parts.flatten

def parameterPieces (varargs : Bool) (count : Nat) (descriptor : Text) (place : Nat) : List Piece :=
  [.type descriptor (varargs && place + 1 == count), .plain (" arg" ++ Text.ofNat place)]

/-- What is declared: a constructor under the name of its class, or a method behind its result. -/
def subjectPieces (thisClass : Text) (method : Method) : List Piece :=
  if method.name = "<init>" then [.declared thisClass]
  else [.type method.signature.result false, .plain (" " ++ method.name)]

def thrownPieces (names : List Text) : List Piece :=
  if names.isEmpty then []
  else .plain " throws " :: joinedPieces ", " (names.map fun name => [.className name])

def signaturePieces (thisClass : Text) (method : Method) (includeAbstract : Bool) : List Piece :=
  if method.name = "<clinit>" then [.plain "static"]
  else
    let flags :=
      if includeAbstract then method.flags
      else method.flags.filter fun flag => flag != .abstractType
    let parameters := method.signature.parameters
    let arguments := parameters.zipIdx.map fun (descriptor, place) =>
      parameterPieces (flags.contains .varargs) parameters.length descriptor place
    .plain (shownWords methodModifiers flags) :: subjectPieces thisClass method ++
      .plain "(" :: joinedPieces ", " arguments ++ .plain ")" :: thrownPieces method.exceptions

/-- A field with the clause for its constant. -/
def fieldPieces (field : Field) (clause : Text) : List Piece :=
  [.plain (shownWords fieldModifiers field.flags), .type field.descriptor false,
    .plain (" " ++ field.name ++ clause ++ ";\n")]

def methodPieces (thisClass : Text) (method : Method) (summary : Option CodeSummary) : List Piece :=
  let ending : Text := match method.code? with
    | none => ";\n"
    | some code => " \x7b\n" ++ Text.indented (comment code summary) ++ "\x7d\n"
  signaturePieces thisClass method true ++ [.plain ending]

def typeListPieces (keyword : Text) (names : List Text) : List Piece :=
  if names.isEmpty then []
  else .plain (keyword ++ " ") ::
    joinedPieces ",\n" (names.map fun name => [.className name]) ++ [.plain "\n"]

section

variable (file : ClassFile)

def interfacePieces (keyword : Text) : List Piece :=
  typeListPieces keyword (file.interfaces.map fun nameIndex => file.pool.textAt nameIndex)

def superPieces : List Piece :=
  match file.superClass with
  | none => []
  | some nameIndex => [.plain "extends ", .className (file.pool.textAt nameIndex), .plain "\n"]

def headerPieces : List Piece :=
  if file.isInterface then
    .plain (shownWords interfaceModifiers file.flags ++ "interface ") ::
      .declared (thisClass file) :: .plain "\n" :: interfacePieces file "extends"
  else
    .plain (shownWords classModifiers file.flags ++ "class ") ::
      .declared (thisClass file) :: .plain "\n" :: superPieces file ++
      interfacePieces file "implements"

/-- The clauses for the constants of the fields, if each has one. An interface shows no field. -/
def clauses : Except LiteralFault (List Text) :=
  if file.isInterface then .ok [] else file.fields.mapM constantClause

/-- What stands between the braces, the clauses being those of the fields in order. -/
def bodyPieces (clauses : List Text) (summaries : List (Option CodeSummary)) : List Piece :=
  if file.isInterface then
    titledPieces "// Methods\n" (file.methods.map fun method =>
      signaturePieces (thisClass file) method false ++ [.plain ";\n"])
  else
    titledPieces "// Fields\n" ((file.fields.zip clauses).map fun (field, clause) =>
      fieldPieces field clause) ++
    titledPieces "// Methods\n" (file.methods.zipIdx.map fun (method, place) =>
      methodPieces (thisClass file) method (summaries[place]?).join)

end

theorem mem_named_iff {name : Text} {pieces : List Piece} :
    name ∈ named pieces ↔ ∃ piece ∈ pieces, piece.name? = some name :=
  List.mem_filterMap

@[simp] theorem named_nil : named [] = [] := rfl

@[simp] theorem named_plain (text : Text) (rest : List Piece) :
    named (.plain text :: rest) = named rest := rfl

@[simp] theorem named_className (name : Text) (rest : List Piece) :
    named (.className name :: rest) = name :: named rest := rfl

@[simp] theorem named_declared (name : Text) (rest : List Piece) :
    named (.declared name :: rest) = name :: named rest := rfl

@[simp] theorem named_type (descriptor : Text) (varargs : Bool) (rest : List Piece) :
    named (.type descriptor varargs :: rest) =
      (Descriptor.className? descriptor).toList ++ named rest := by
  cases found : Descriptor.className? descriptor <;> simp [named, Piece.name?, found]

@[simp] theorem named_append (front back : List Piece) :
    named (front ++ back) = named front ++ named back :=
  List.filterMap_append

theorem named_flatten (parts : List (List Piece)) : named parts.flatten = parts.flatMap named := by
  induction parts with
  | nil => rfl
  | cons part rest ih => rw [List.flatten_cons, named_append, ih, List.flatMap_cons]

theorem named_joinedPieces (separator : Text) (parts : List (List Piece)) :
    named (joinedPieces separator parts) = parts.flatMap named := by
  induction parts using joinedPieces.induct with
  | case1 => rfl
  | case2 part => simp [joinedPieces]
  | case3 part rest more ih =>
    rw [joinedPieces, named_append, named_plain, ih, List.flatMap_cons]
    exact more

theorem named_titledPieces (title : Text) (parts : List (List Piece)) :
    named (titledPieces title parts) = parts.flatMap named := by
  unfold titledPieces
  split
  · rename_i empty
    rw [List.isEmpty_iff.mp empty]
    rfl
  · rw [named_plain, named_flatten]

theorem exists_of_mem_named_titledPieces {α : Type} {title name : Text} {items : List α}
    {part : α → List Piece} (mentioned : name ∈ named (titledPieces title (items.map part))) :
    ∃ item ∈ items, name ∈ named (part item) := by
  rw [named_titledPieces, List.flatMap_map] at mentioned
  exact List.mem_flatMap.mp mentioned

theorem named_thrownPieces (names : List Text) : named (thrownPieces names) = names := by
  unfold thrownPieces
  split
  · rename_i empty
    exact (List.isEmpty_iff.mp empty).symm
  · simp [named_joinedPieces, List.flatMap_map]

theorem named_typeListPieces (keyword : Text) (names : List Text) :
    named (typeListPieces keyword names) = names := by
  unfold typeListPieces
  split
  · rename_i empty
    exact (List.isEmpty_iff.mp empty).symm
  · simp [named_joinedPieces, List.flatMap_map]

section

variable (display : Text → Text)

@[simp] theorem shown_nil : shown display [] = [] := rfl

@[simp] theorem shown_cons (piece : Piece) (rest : List Piece) :
    shown display (piece :: rest) = piece.shown display ++ shown display rest := rfl

@[simp] theorem shown_append (front back : List Piece) :
    shown display (front ++ back) = shown display front ++ shown display back :=
  List.flatMap_append

theorem shown_flatten (parts : List (List Piece)) :
    shown display parts.flatten = (parts.map (shown display)).flatten := by
  induction parts with
  | nil => rfl
  | cons part rest ih => rw [List.flatten_cons, shown_append, ih, List.map_cons, List.flatten_cons]

theorem Piece.shown_congr {display other : Text → Text} {piece : Piece}
    (same : ∀ name, piece.name? = some name → display name = other name) :
    piece.shown display = piece.shown other := by
  cases piece with
  | plain text => rfl
  | className name => exact same name rfl
  | declared name => rw [Piece.shown, Piece.shown, same name rfl]
  | type descriptor varargs =>
    have formatted : Descriptor.format (m := Id) display descriptor =
        Descriptor.format (m := Id) other descriptor := Descriptor.format_congr same
    exact congrArg (fun type => if varargs then withEllipsis type else type) formatted

/-- What is shown depends on how the named classes are displayed, and on no other class. -/
theorem shown_congr {display other : Text → Text} {pieces : List Piece}
    (same : ∀ name ∈ named pieces, display name = other name) :
    shown display pieces = shown other pieces := by
  induction pieces with
  | nil => rfl
  | cons piece rest ih =>
    have first : piece.shown display = piece.shown other :=
      Piece.shown_congr fun name found =>
        same name (mem_named_iff.mpr ⟨piece, List.mem_cons_self, found⟩)
    have later : shown display rest = shown other rest := ih fun name mentioned => by
      obtain ⟨member, listed, found⟩ := mem_named_iff.mp mentioned
      exact same name (mem_named_iff.mpr ⟨member, List.mem_cons_of_mem piece listed, found⟩)
    rw [shown_cons, shown_cons, first, later]

theorem shown_joinedPieces (separator : Text) (parts : List (List Piece)) :
    shown display (joinedPieces separator parts) =
      Text.joined separator (parts.map (shown display)) := by
  induction parts using joinedPieces.induct with
  | case1 => rfl
  | case2 part => rfl
  | case3 part rest more ih =>
    have nonempty : rest.map (shown display) = [] → False := fun empty =>
      more (List.map_eq_nil_iff.mp empty)
    rw [joinedPieces, shown_append, shown_cons, ih, List.map_cons, Text.joined, Piece.shown,
      List.append_assoc]
    all_goals assumption

theorem shown_titledPieces (title : Text) (parts : List (List Piece)) :
    shown display (titledPieces title parts) = titled title (parts.map (shown display)) := by
  unfold titledPieces titled
  rw [List.isEmpty_map]
  split
  · rfl
  · rw [shown_cons, shown_flatten, Piece.shown]

end

section

variable (classes : List Text)

theorem shown_type (descriptor : Text) :
    (Piece.type descriptor false).shown (displayed classes) = typeText classes descriptor := rfl

theorem shown_classNames (names : List Text) :
    (names.map fun name => [Piece.className name]).map (shown (displayed classes)) =
      names.map (displayed classes) := by
  simp [Piece.shown]

theorem shown_declared (name : Text) :
    (Piece.declared name).shown (displayed classes) = classType classes name := rfl

theorem shown_parameterPieces (varargs : Bool) (count : Nat) (descriptor : Text) (place : Nat) :
    shown (displayed classes) (parameterPieces varargs count descriptor place) =
      parameter classes varargs count descriptor place := by
  simp [parameterPieces, parameter, Piece.shown, typeText]

theorem shown_subjectPieces (thisClass : Text) (method : Method) :
    shown (displayed classes) (subjectPieces thisClass method) =
      if method.name = "<init>" then classType classes thisClass
      else typeText classes method.signature.result ++ " " ++ method.name := by
  unfold subjectPieces
  split
  · rw [shown_cons, shown_declared, shown_nil, List.append_nil]
  · rw [shown_cons, shown_cons, shown_type, shown_nil, Piece.shown, List.append_nil,
      List.append_assoc]

theorem shown_thrownPieces (names : List Text) :
    shown (displayed classes) (thrownPieces names) =
      if (names.map (displayed classes)).isEmpty then []
      else Text.ofString " throws " ++ Text.joined ", " (names.map (displayed classes)) := by
  unfold thrownPieces
  rw [List.isEmpty_map]
  split
  · rfl
  · rw [shown_cons, shown_joinedPieces, shown_classNames, Piece.shown]

theorem shown_signaturePieces (thisClass : Text) (method : Method) (includeAbstract : Bool) :
    shown (displayed classes) (signaturePieces thisClass method includeAbstract) =
      signature classes thisClass method includeAbstract := by
  unfold signaturePieces signature
  split
  · rfl
  · simp only [shown_cons, shown_append, shown_subjectPieces, shown_joinedPieces, List.map_map,
      Function.comp_def, shown_parameterPieces, shown_thrownPieces, Piece.shown, List.append_assoc]

theorem shown_fieldPieces (field : Field) (clause : Text) :
    shown (displayed classes) (fieldPieces field clause) =
      shownWords fieldModifiers field.flags ++ typeText classes field.descriptor ++
        " " ++ field.name ++ clause ++ ";\n" := by
  simp [fieldPieces, typeText, Piece.shown]

theorem shown_methodPieces (thisClass : Text) (method : Method) (summary : Option CodeSummary) :
    shown (displayed classes) (methodPieces thisClass method summary) =
      methodBlock classes thisClass method summary := by
  unfold methodPieces methodBlock
  rw [shown_append, shown_signaturePieces]
  cases method.code? <;> simp [Piece.shown]

theorem shown_typeListPieces (keyword : Text) (names : List Text) :
    shown (displayed classes) (typeListPieces keyword names) =
      typeList keyword (names.map (displayed classes)) := by
  unfold typeListPieces typeList
  rw [List.isEmpty_map]
  split
  · rfl
  · rw [shown_append, shown_cons, shown_joinedPieces, shown_classNames]
    simp [Piece.shown]

variable (file : ClassFile)

theorem shown_interfacePieces (keyword : Text) :
    shown (displayed classes) (interfacePieces file keyword) =
      typeList keyword (interfaceTypes classes file) := by
  rw [interfacePieces, shown_typeListPieces, List.map_map]
  rfl

theorem shown_headerPieces : shown (displayed classes) (headerPieces file) =
    if file.isInterface then interfaceHeader classes file else classHeader classes file := by
  unfold headerPieces
  split
  · simp [shown_interfacePieces, interfaceHeader, classType, Piece.shown]
  · cases found : file.superClass <;>
      simp [shown_interfacePieces, classHeader, classType, superPieces, found, Piece.shown]

theorem shown_bodyPieces_interface (isInterface : file.isInterface = true) (clauses : List Text)
    (summaries : List (Option CodeSummary)) :
    shown (displayed classes) (bodyPieces file clauses summaries) = interfaceBody classes file := by
  rw [bodyPieces, if_pos isInterface, shown_titledPieces, List.map_map, interfaceBody]
  simp [Function.comp_def, shown_signaturePieces, Piece.shown]

theorem mapM_fieldLine (fields : List Field) :
    fields.mapM (fieldLine classes) = (fields.mapM constantClause).map fun clauses =>
      (fields.zip clauses).map fun (field, clause) =>
        shown (displayed classes) (fieldPieces field clause) := by
  induction fields with
  | nil => rfl
  | cons field rest ih =>
    rw [List.mapM_cons, List.mapM_cons, ih, fieldLine]
    simp only [shown_fieldPieces]
    cases constantClause field with
    | error fault => rfl
    | ok clause =>
      cases rest.mapM constantClause with
      | error fault => rfl
      | ok clauses => rfl

theorem shown_bodyPieces_class (isClass : ¬file.isInterface = true)
    (summaries : List (Option CodeSummary)) :
    classBody classes file summaries = (clauses file).map fun clauses =>
      shown (displayed classes) (bodyPieces file clauses summaries) := by
  rw [classBody, mapM_fieldLine, clauses, if_neg isClass]
  simp only [bodyPieces, if_neg isClass, shown_append, shown_titledPieces, List.map_map,
    Function.comp_def, shown_methodPieces]
  cases file.fields.mapM constantClause <;> rfl

/-- A rendition is its imports and its pieces, as they are shown by the classes referred to. -/
theorem text_eq_pieces (summaries : List (Option CodeSummary)) :
    text classes file summaries = (clauses file).map fun clauses =>
      "// Imports\n" ++ importBlock classes (thisClass file) ++
        shown (displayed classes) (headerPieces file) ++ "\x7b\n" ++
        Text.indented (shown (displayed classes) (bodyPieces file clauses summaries)) ++
        "\x7d\n" := by
  rw [text, shown_headerPieces]
  by_cases isInterface : file.isInterface = true
  · rw [if_pos isInterface, if_pos isInterface, clauses, if_pos isInterface]
    simp only [shown_bodyPieces_interface classes file isInterface]
    rfl
  · rw [if_neg isInterface, if_neg isInterface, shown_bodyPieces_class classes file isInterface]
    cases clauses file <;> rfl

end

end ClassOutline.Rendition
