import ClassOutline.ClassFile.Basic

set_option autoImplicit false

namespace ClassOutline

/-- The simple names of the methods to analyse are in `only`, none meaning all of them. What is in
`skip` is left out either way. -/
structure Selection where
  only : Option (List Text) := none
  skip : List Text := []
  raiseOnFailure : Bool := true
deriving DecidableEq, Repr

namespace Selection

def ofSwitches (noAnalyse : Bool) (analyse skip : Option (List Text)) (keepGoing : Bool) :
    Selection where
  only :=
    if noAnalyse then some []
    else match analyse with
      | some [] | none => none
      | some names => some names
  skip := skip.getD []
  raiseOnFailure := !keepGoing

def includes (selection : Selection) (name : Text) : Bool :=
  !selection.skip.contains name &&
    match selection.only with
    | none => true
    | some names => names.contains name

end Selection

structure CodeSummary where
  codeLength : Nat
  maxStack : Nat
  maxLocals : Nat
  argumentSlots : Nat
  exceptionHandlers : Nat
deriving DecidableEq, Repr

namespace CodeSummary

def describe (summary : CodeSummary) : Text :=
  let handlers : Text :=
    if summary.exceptionHandlers = 0 then []
    else ", " ++ Text.ofNat summary.exceptionHandlers ++ " exception handler(s)"
  Text.ofNat summary.codeLength ++ " bytes of bytecode, max_stack=" ++
    Text.ofNat summary.maxStack ++ ", max_locals=" ++ Text.ofNat summary.maxLocals ++ handlers

end CodeSummary

inductive AnalysisFault
  | codeOnBodyless
  | missingCode
  | emptyCode
  | tooFewLocals (maxLocals slots : Nat)
  | handlerOutside (handler : ExceptionHandler) (codeLength : Nat)
deriving DecidableEq, Repr

namespace AnalysisFault

def message : AnalysisFault → Text
  | .codeOnBodyless => "abstract or native method carries a Code attribute"
  | .missingCode => "missing Code attribute"
  | .emptyCode => "empty bytecode"
  | .tooFewLocals maxLocals slots =>
    "max_locals " ++ Text.ofNat maxLocals ++ " is less than the " ++ Text.ofNat slots ++
      " argument slot(s)"
  | .handlerOutside handler codeLength =>
    "exception handler [" ++ Text.ofNat handler.startPc ++ ", " ++ Text.ofNat handler.endPc ++
      ") -> " ++ Text.ofNat handler.handlerPc ++ " outside " ++ Text.ofNat codeLength ++
      " bytes of code"

end AnalysisFault

namespace ExceptionHandler

/-- The range is not empty and lies in the code, as does the position that handles it. -/
def liesIn (handler : ExceptionHandler) (codeLength : Nat) : Bool :=
  handler.startPc < handler.endPc && handler.endPc ≤ codeLength &&
    handler.handlerPc < codeLength

end ExceptionHandler

namespace Method

def analyseCode (method : Method) (code : CodeBody) : Except AnalysisFault CodeSummary :=
  let codeLength := code.code.size
  let slots := Descriptor.argumentSlots method.signature.parameters method.isStatic
  if codeLength = 0 then .error .emptyCode
  else if code.maxLocals < slots then .error (.tooFewLocals code.maxLocals slots)
  else match code.handlers.find? fun handler => !handler.liesIn codeLength with
    | some handler => .error (.handlerOutside handler codeLength)
    | none => .ok {
        codeLength
        maxStack := code.maxStack
        maxLocals := code.maxLocals
        argumentSlots := slots
        exceptionHandlers := code.handlers.length }

def analyse (method : Method) : Except AnalysisFault (Option CodeSummary) :=
  if method.isBodyless then
    match method.code? with
    | some _ => .error .codeOnBodyless
    | none => .ok none
  else
    match method.code? with
    | some code => (method.analyseCode code).map some
    | none => .error .missingCode

end Method

/-- What the analysis of one method came to. -/
structure AnalysisOutcome where
  name : Text
  descriptor : Text
  result : Except AnalysisFault (Option CodeSummary)

namespace AnalysisOutcome

def fault? (outcome : AnalysisOutcome) : Option AnalysisFault :=
  match outcome.result with
  | .error fault => some fault
  | .ok _ => none

/-- The line for each failure: the method and what is wrong with it. -/
def failureLines (outcomes : List AnalysisOutcome) : List Text :=
  outcomes.filterMap fun outcome =>
    outcome.fault?.map fun fault => outcome.name ++ ": " ++ fault.message

def failureMessage (outcomes : List AnalysisOutcome) : Text :=
  let lines := failureLines outcomes
  "Failed to analyse " ++ Text.ofNat lines.length ++ " method(s)\n" ++ Text.joined [0x0A] lines

end AnalysisOutcome

end ClassOutline
