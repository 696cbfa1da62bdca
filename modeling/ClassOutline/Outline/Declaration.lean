import ClassOutline.Analysis.Basic
import ClassOutline.Outline.Imports

set_option autoImplicit false

namespace ClassOutline

namespace ClassFile

def className (file : ClassFile) : Lookup Text :=
  SymbolTable.utf8 file.thisClass

def superClassName (file : ClassFile) : Lookup (Option Text) :=
  match file.superClass with
  | none => return none
  | some nameIndex => some <$> SymbolTable.utf8 nameIndex

def interfaceNames (file : ClassFile) : Lookup (List Text) :=
  file.interfaces.mapM fun (nameIndex : Nat) => SymbolTable.utf8 nameIndex

def shown (file : ClassFile) : Lookup Text := do
  return "<ClassFile " ++ (← file.className) ++ " " ++ Text.ofNat file.majorVersion ++ "." ++
    Text.ofNat file.minorVersion ++ ">"

/-- The name by which the class declares itself: the innermost one if it is nested. -/
def classType (file : ClassFile) : Lookup Text := do
  let name ← file.className
  if (Text.afterLast 0x2F name).contains 0x24 then return Text.afterLast 0x24 name
  else SymbolTable.typeName file.thisClass

end ClassFile

namespace Declaration

def typeText (descriptor : Text) : Lookup Text :=
  Descriptor.format SymbolTable.displayName descriptor

def unboundedTypeText (descriptor : Text) : Draw Text :=
  Draw.lookup (typeText descriptor)

def typeTextWithin (stack : Stack) (descriptor : Text) : Draw Text :=
  Descriptor.formatWithin (throw .tooDeep) (fun name => Draw.lookup (SymbolTable.displayName name))
    stack.dimensions descriptor

/-- The last array dimension of a variable-arity parameter is written as an ellipsis. -/
def ellipsis (type : Text) : Text :=
  if (Text.ofString "[]").isSuffixOf type then type.dropLast.dropLast ++ "..." else type

section

variable {m : Type → Type} [Monad m] (ask : {α : Type} → Lookup α → m α)
  (written : Text → m Text)

def parameterWith (varargs : Bool) (count : Nat) (descriptor : Text) (place : Nat) : m Text := do
  let type ← written descriptor
  let shown := if varargs && place + 1 == count then ellipsis type else type
  return shown ++ " arg" ++ Text.ofNat place

/-- Flags, type, name and parameters of a method, and what it throws. A constructor has the name of
its class, and a class initialiser is `static` alone. -/
def signatureWith (file : ClassFile) (method : Method) (includeAbstract : Bool) : m Text := do
  if method.name = "<clinit>" then return "static"
  let flags :=
    if includeAbstract then method.flags
    else method.flags.filter fun flag => flag != .abstractType
  let parameters := method.signature.parameters
  let varargs := flags.contains .varargs
  let count := parameters.length
  let arguments ← parameters.zipIdx.mapM fun (descriptor, place) =>
    parameterWith written varargs count descriptor place
  let subject ←
    if method.name = "<init>" then ask file.classType
    else (· ++ " " ++ method.name) <$> written method.signature.result
  let thrown ← ask (method.exceptions.mapM SymbolTable.displayName)
  let clause : Text := if thrown.isEmpty then [] else " throws " ++ Text.joined ", " thrown
  return AccessFlags.render AccessFlags.methodWords flags ++ subject ++ "(" ++
    Text.joined ", " arguments ++ ")" ++ clause

end

def signature (file : ClassFile) (method : Method) (includeAbstract : Bool) : Lookup Text :=
  signatureWith (fun search => search) typeText file method includeAbstract

section

variable (written : Text → Draw Text)

def drawFieldWith (field : Field) : Draw Unit := do
  let type ← written field.descriptor
  let value : Text ← match field.constantValue? with
    | none => pure []
    | some literal =>
      match literalText literal field.descriptor with
      | .ok text => pure ((" = " : Text) ++ text)
      | .error fault => throw (.literal fault)
  Draw.print (AccessFlags.render AccessFlags.fieldWords field.flags ++ type ++ " " ++ field.name ++
    value ++ ";\n")

/-- What stands for the code of a method, before or after its analysis. -/
def codeComment (code : CodeBody) : Option CodeSummary → Text
  | some summary => ("// " : Text) ++ summary.describe ++ "\n"
  | none => ("// " : Text) ++ Text.ofNat code.code.size ++ " bytes of bytecode, not analysed\n"

def drawMethodWith (file : ClassFile) (method : Method) (summary : Option CodeSummary) :
    Draw Unit := do
  let text ← signatureWith Draw.lookup written file method true
  match method.code? with
  | none => Draw.print (text ++ ";\n")
  | some code =>
    Draw.print (text ++ " \x7b\n")
    Draw.indented (Draw.print (codeComment code summary))
    Draw.print "\x7d\n"

/-- The types behind a keyword, one on each line. -/
def drawTypes (keyword : Text) (nameIndices : List Nat) : Draw Unit := do
  if !nameIndices.isEmpty then
    Draw.print (keyword ++ " ")
    let count := nameIndices.length
    nameIndices.zipIdx.forM fun (nameIndex, place) => do
      let type ← Draw.lookup (SymbolTable.typeName nameIndex)
      let ending : Text := if place + 1 < count then ",\n" else "\n"
      Draw.print (type ++ ending)

def drawInterfaceHeader (file : ClassFile) : Draw Unit := do
  let type ← Draw.lookup file.classType
  Draw.print (AccessFlags.render AccessFlags.interfaceWords file.flags ++ "interface " ++ type ++
    "\n")
  drawTypes "extends" file.interfaces
  Draw.change Printer.dropBreak

def drawClassHeader (file : ClassFile) : Draw Unit := do
  let type ← Draw.lookup file.classType
  Draw.print (AccessFlags.render AccessFlags.classWords file.flags ++ "class " ++ type ++ "\n")
  match file.superClass with
  | none => pure ()
  | some nameIndex =>
    let superType ← Draw.lookup (SymbolTable.typeName nameIndex)
    Draw.print ("extends " ++ superType ++ "\n")
  drawTypes "implements" file.interfaces
  Draw.change Printer.dropBreak

def drawPreamble (file : ClassFile) : Draw Unit := do
  Draw.change Printer.freshLine
  Draw.print "// Imports\n"
  let _ ← Imports.draw (← Draw.lookup file.className)

def drawAsInterfaceWith (file : ClassFile) : Draw Unit := do
  drawPreamble file
  drawInterfaceHeader file
  Draw.print "\x7b\n"
  Draw.indented do
    if !file.methods.isEmpty then
      Draw.print "// Methods\n"
      file.methods.forM fun method => do
        Draw.change Printer.softBreak
        Draw.print ((← signatureWith Draw.lookup written file method false) ++ ";")
    Draw.change Printer.softBreak
  Draw.print "\x7d\n"

/-- The summaries stand for the methods in order. -/
def drawAsClassWith (file : ClassFile) (summaries : List (Option CodeSummary)) : Draw Unit := do
  drawPreamble file
  drawClassHeader file
  Draw.print "\x7b\n"
  Draw.indented do
    if !file.fields.isEmpty then
      Draw.print "// Fields\n"
      file.fields.forM (drawFieldWith written)
    if !file.methods.isEmpty then
      Draw.print "// Methods\n"
      (file.methods.zip summaries).forM fun (method, summary) => do
        Draw.change Printer.softBreak
        drawMethodWith written file method summary
    Draw.change Printer.softBreak
  Draw.print "\x7d\n"

def drawWith (file : ClassFile) (summaries : List (Option CodeSummary)) : Draw Unit :=
  if file.isInterface then drawAsInterfaceWith written file
  else drawAsClassWith written file summaries

end

def drawField (field : Field) : Draw Unit :=
  drawFieldWith unboundedTypeText field

def drawMethod (file : ClassFile) (method : Method) (summary : Option CodeSummary) : Draw Unit :=
  drawMethodWith unboundedTypeText file method summary

def drawAsInterface (file : ClassFile) : Draw Unit :=
  drawAsInterfaceWith unboundedTypeText file

def drawAsClass (file : ClassFile) (summaries : List (Option CodeSummary)) : Draw Unit :=
  drawAsClassWith unboundedTypeText file summaries

def draw (file : ClassFile) (summaries : List (Option CodeSummary)) : Draw Unit :=
  drawWith unboundedTypeText file summaries

end Declaration

end ClassOutline
