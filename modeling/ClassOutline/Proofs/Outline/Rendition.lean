import ClassOutline.LoadedClass
import ClassOutline.Proofs.Members.AccessFlags
import ClassOutline.Proofs.Outline.Indentation
import ClassOutline.Proofs.Symbols.Shortening

set_option autoImplicit false

namespace ClassOutline

namespace Rendition

open AccessFlags (shownWords interfaceModifiers classModifiers fieldModifiers methodModifiers)
open Names (displayed)

def importLine (name : Text) : Text :=
  "import " ++ Names.sourceName name ++ ";\n"

/-- The import lines of some classes with an empty line behind them, if there are any. -/
def importLines (names : List Text) : Text :=
  if names.isEmpty then [] else names.flatMap importLine ++ [0x0A]

/-- A variable-arity parameter has an ellipsis in the place of its last array dimension. -/
def withEllipsis (type : Text) : Text :=
  if Text.ofString "[]" <:+ type then type.take (type.length - 2) ++ "..." else type

theorem ellipsis_eq_withEllipsis (type : Text) : Declaration.ellipsis type = withEllipsis type := by
  have shorter : type.dropLast.dropLast = type.take (type.length - 2) := by
    rw [List.dropLast_eq_take, List.dropLast_eq_take, List.take_take, List.length_take]
    congr 1
    omega
  rw [Declaration.ellipsis, withEllipsis, shorter]
  simp only [List.isSuffixOf_iff_suffix]

def handlerCount : Nat → Text
  | 0 => []
  | count => ", " ++ Text.ofNat count ++ " exception handler(s)"

/-- What stands for the code of a method: its size, and its summary once it was analysed. -/
def comment (code : CodeBody) : Option CodeSummary → Text
  | none => "// " ++ Text.ofNat code.code.size ++ " bytes of bytecode, not analysed\n"
  | some summary =>
    "// " ++ Text.ofNat summary.codeLength ++ " bytes of bytecode, max_stack=" ++
      Text.ofNat summary.maxStack ++ ", max_locals=" ++ Text.ofNat summary.maxLocals ++
      handlerCount summary.exceptionHandlers ++ "\n"

theorem codeComment_eq_comment (code : CodeBody) (summary : Option CodeSummary) :
    Declaration.codeComment code summary = comment code summary := by
  cases summary with
  | none => rfl
  | some summary =>
    simp only [Declaration.codeComment, comment, CodeSummary.describe, List.append_assoc]
    cases summary.exceptionHandlers <;> rfl

section

variable (classes : List Text)

def typeText (descriptor : Text) : Text :=
  Id.run (Descriptor.format (fun name => pure (displayed classes name)) descriptor)

def parameter (varargs : Bool) (count : Nat) (descriptor : Text) (place : Nat) : Text :=
  let type := typeText classes descriptor
  let shown := if varargs && place + 1 == count then withEllipsis type else type
  shown ++ " arg" ++ Text.ofNat place

def classType (name : Text) : Text :=
  if (Text.afterLast 0x2F name).contains 0x24 then Text.afterLast 0x24 name
  else displayed classes name

def signature (thisClass : Text) (method : Method) (includeAbstract : Bool) : Text :=
  if method.name = "<clinit>" then "static"
  else
    let flags :=
      if includeAbstract then method.flags
      else method.flags.filter fun flag => flag != .abstractType
    let parameters := method.signature.parameters
    let arguments := parameters.zipIdx.map fun (descriptor, place) =>
      parameter classes (flags.contains .varargs) parameters.length descriptor place
    let subject :=
      if method.name = "<init>" then classType classes thisClass
      else typeText classes method.signature.result ++ " " ++ method.name
    let thrown := method.exceptions.map (displayed classes)
    let clause : Text := if thrown.isEmpty then [] else " throws " ++ Text.joined ", " thrown
    shownWords methodModifiers flags ++ subject ++ "(" ++
      Text.joined ", " arguments ++ ")" ++ clause

/-- An outermost class is imported if it needs an import and its simple name is not shared. -/
def isImported (thisClass name : Text) : Bool :=
  !Imports.isVisible thisClass name && displayed classes name == Names.simpleName name

def imported (thisClass : Text) : List Text :=
  (Imports.candidates classes).filter (isImported classes thisClass)

def importBlock (thisClass : Text) : Text :=
  importLines (imported classes thisClass)

/-- What a field is set to, if it has a constant. The constant may have no text. -/
def constantClause (field : Field) : Except LiteralFault Text :=
  match field.constantValue? with
  | none => .ok []
  | some literal => (literalText literal field.descriptor).map (" = " ++ ·)

/-- The line of a field, unless its constant has no text. -/
def fieldLine (field : Field) : Except LiteralFault Text :=
  (constantClause field).map fun value =>
    shownWords fieldModifiers field.flags ++
      typeText classes field.descriptor ++ " " ++ field.name ++ value ++ ";\n"

/-- A method: its signature, and what stands for its code if it has any. -/
def methodBlock (thisClass : Text) (method : Method) (summary : Option CodeSummary) : Text :=
  let head := signature classes thisClass method true
  match method.code? with
  | none => head ++ ";\n"
  | some code =>
    head ++ " \x7b\n" ++ Text.indented (comment code summary) ++ "\x7d\n"

end

/-- Types behind a keyword, each on a line of its own. -/
def typeList (keyword : Text) (types : List Text) : Text :=
  if types.isEmpty then [] else keyword ++ " " ++ Text.joined ",\n" types ++ "\n"

/-- Parts below a title, which stands there only if there are any. -/
def titled (title : Text) (parts : List Text) : Text :=
  if parts.isEmpty then [] else title ++ parts.flatten

section

variable (classes : List Text) (file : ClassFile)

def thisClass : Text :=
  file.pool.textAt file.thisClass

def interfaceTypes : List Text :=
  file.interfaces.map fun nameIndex => displayed classes (file.pool.textAt nameIndex)

def interfaceHeader : Text :=
  shownWords interfaceModifiers file.flags ++ "interface " ++
    classType classes (thisClass file) ++ "\n" ++ typeList "extends" (interfaceTypes classes file)

def classHeader : Text :=
  let superLine : Text := match file.superClass with
    | none => []
    | some nameIndex => "extends " ++ displayed classes (file.pool.textAt nameIndex) ++ "\n"
  shownWords classModifiers file.flags ++ "class " ++
    classType classes (thisClass file) ++ "\n" ++ superLine ++
    typeList "implements" (interfaceTypes classes file)

def interfaceBody : Text :=
  titled "// Methods\n" (file.methods.map fun method =>
    signature classes (thisClass file) method false ++ ";\n")

/-- The fields and then the methods, each with its summary if there is one. -/
def classBody (summaries : List (Option CodeSummary)) : Except LiteralFault Text := do
  let fields ← file.fields.mapM (fieldLine classes)
  let methods := file.methods.zipIdx.map fun (method, place) =>
    methodBlock classes (thisClass file) method (summaries[place]?).join
  return titled "// Fields\n" fields ++ titled "// Methods\n" methods

/-- A class as one text. It has none if a constant of one of its fields has none, but an interface
is written without its fields. -/
def text (summaries : List (Option CodeSummary)) : Except LiteralFault Text := do
  let header := if file.isInterface then interfaceHeader classes file else classHeader classes file
  let body ← if file.isInterface then pure (interfaceBody classes file)
    else classBody classes file summaries
  return "// Imports\n" ++ importBlock classes (thisClass file) ++ header ++ "\x7b\n" ++
    Text.indented body ++ "\x7d\n"

end

/-- The fields before a place have lines, and the constant of the one there has no text. -/
structure StopsAt (classes : List Text) (fields : List Field) (place : Nat) (lines : List Text)
    (fault : LiteralFault) : Prop where
  before : (fields.take place).mapM (fieldLine classes) = .ok lines
  here : ∃ field, fields[place]? = some field ∧ constantClause field = .error fault

/-- What stands of a class of whose fields only some have lines. -/
def stopped (classes : List Text) (file : ClassFile) (lines : List Text) : Text :=
  "// Imports\n" ++ importBlock classes (thisClass file) ++ classHeader classes file ++ "\x7b\n" ++
    Text.indented ("// Fields\n" ++ lines.flatten)

section

variable {classes : List Text} {file : ClassFile} {fault : LiteralFault}

theorem mapM_fieldLine_eq_error_iff {fields : List Field} :
    fields.mapM (fieldLine classes) = .error fault ↔
      ∃ place lines, StopsAt classes fields place lines fault := by
  rw [mapM_eq_error_iff]
  constructor
  · intro failed
    obtain ⟨place, lines, field, before, found, made⟩ := failed
    exact ⟨place, lines, before, field, found, map_eq_error_iff.mp made⟩
  · intro stops
    obtain ⟨place, lines, before, field, found, clause⟩ := stops
    exact ⟨place, lines, field, before, found, map_eq_error_iff.mpr clause⟩

theorem classBody_eq_error_iff (summaries : List (Option CodeSummary)) :
    classBody classes file summaries = .error fault ↔
      ∃ place lines, StopsAt classes file.fields place lines fault := by
  rw [← mapM_fieldLine_eq_error_iff]
  simp [classBody, bind_eq_error_iff, pure, Except.pure]

/-- The fields of an interface are not looked at. -/
theorem text_eq_error_iff (summaries : List (Option CodeSummary)) :
    text classes file summaries = .error fault ↔
      file.isInterface = false ∧ ∃ place lines, StopsAt classes file.fields place lines fault := by
  unfold text
  cases kind : file.isInterface with
  | true => simp [bind, Except.bind, pure, Except.pure]
  | false =>
    rw [← classBody_eq_error_iff summaries]
    simp [bind_eq_error_iff, pure, Except.pure]

end

end Rendition

variable {marked : List Text}

namespace Declaration

theorem answers_typeText {pool : ConstantPool} (resolved : pool.Resolved) (descriptor : Text) :
    (typeText descriptor).Answers pool marked
      (Rendition.typeText (pool.referenced marked) descriptor) := by
  unfold typeText Rendition.typeText
  induction descriptor with
  | nil => exact Lookup.Answers.pure []
  | cons first rest ih =>
    rw [Descriptor.format, Descriptor.format]
    split
    · exact ih.bind (Lookup.Answers.pure _)
    · split
      · exact Lookup.Answers.pure _
      · split
        · exact SymbolTable.answers_displayName resolved _
        · exact Lookup.Answers.pure _

theorem answers_parameter {pool : ConstantPool} (resolved : pool.Resolved) (varargs : Bool)
    (count : Nat) (descriptor : Text) (place : Nat) :
    (parameterWith typeText varargs count descriptor place).Answers pool marked
      (Rendition.parameter (pool.referenced marked) varargs count descriptor place) := by
  unfold parameterWith
  simp only [Rendition.ellipsis_eq_withEllipsis]
  exact (answers_typeText resolved descriptor).bind (Lookup.Answers.pure _)

end Declaration

variable {file : ClassFile} (resolved : file.Resolved)

include resolved

theorem ClassFile.Resolved.answers_className :
    file.className.Answers file.pool marked (Rendition.thisClass file) :=
  SymbolTable.answers_utf8 (resolved.classes _ resolved.thisClass)

theorem ClassFile.Resolved.answers_classType :
    file.classType.Answers file.pool marked
      (Rendition.classType (file.pool.referenced marked) (Rendition.thisClass file)) := by
  apply resolved.answers_className.bind
  apply Lookup.Answers.ite
  · exact Lookup.Answers.pure _
  · exact SymbolTable.answers_typeName resolved.classes resolved.thisClass

theorem Declaration.answers_signature (method : Method) (includeAbstract : Bool) :
    (signature file method includeAbstract).Answers file.pool marked
      (Rendition.signature (file.pool.referenced marked) (Rendition.thisClass file) method
        includeAbstract) := by
  unfold signature signatureWith Rendition.signature
  simp only [AccessFlags.render_methodWords]
  apply Lookup.Answers.ite
  · exact Lookup.Answers.pure _
  · apply (Lookup.Answers.mapM fun row _ =>
      answers_parameter resolved.classes _ _ row.1 row.2).bind
    have shown (name : Text) : (SymbolTable.displayName name).Answers file.pool marked _ :=
      SymbolTable.answers_displayName resolved.classes name
    have thrown := Lookup.Answers.mapM fun name (_ : name ∈ method.exceptions) => shown name
    by_cases isConstructor : method.name = "<init>"
    · rw [if_pos isConstructor, if_pos isConstructor]
      exact resolved.answers_classType.bind (thrown.bind (Lookup.Answers.pure _))
    · rw [if_neg isConstructor, if_neg isConstructor]
      exact ((answers_typeText resolved.classes _).map _).bind
        (thrown.bind (Lookup.Answers.pure _))

end ClassOutline
