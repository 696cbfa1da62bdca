import ClassOutline.Text.Printable

set_option autoImplicit false

namespace ClassOutline.Command

/-- Why a command line is not run: help was asked for, or it is not understood. -/
inductive Stop
  | help
  | usage
deriving DecidableEq, Repr

inductive Switch
  | help
  | analyse
  | skip
  | noAnalyse
  | keepGoing
  | output
  | verbose
deriving DecidableEq, Repr

namespace Switch

def takesValue : Switch → Bool
  | .analyse | .skip | .output => true
  | .help | .noAnalyse | .keepGoing | .verbose => false

def longNames : List (Text × Switch) :=
  [("--help", .help), ("--analyse", .analyse), ("--skip", .skip), ("--no-analyse", .noAnalyse),
    ("--keep-going", .keepGoing), ("--output", .output), ("--verbose", .verbose)]

def ofLetter? (letter : CodePoint) : Option Switch :=
  if letter = 0x68 then some .help
  else if letter = 0x6F then some .output
  else if letter = 0x76 then some .verbose
  else none

end Switch

/-- A text of the command line. An option may have text attached, behind an equals sign or right
behind its letter. -/
inductive Token
  | word (text : Text)
  | separator
  | long (switch : Switch) (attached : Option Text)
  | short (switch : Switch) (attached : Option Text)
  | unknown
deriving DecidableEq, Repr

namespace Token

/-- A minus sign with digits behind it, among them at most one point, which a digit follows. A
line feed may end it. -/
def isNegativeNumber (text : Text) : Bool :=
  match text with
  | 0x2D :: rest =>
    let body := if rest.getLast? = some 0x0A then rest.dropLast else rest
    let fraction := body.dropWhile Text.isDigit
    match fraction with
    | [] => !body.isEmpty
    | point :: digits => point == 0x2E && !digits.isEmpty && digits.all Text.isDigit
  | _ => false

def splitEquals (text : Text) : Text × Option Text :=
  let name := Text.beforeFirst 0x3D text
  (name, if text.contains 0x3D then some (text.drop (name.length + 1)) else none)

/-- What is not an option after all: a negative number, or a text with a space. -/
def otherwise (text : Text) : Token :=
  if isNegativeNumber text || text.contains 0x20 then .word text else .unknown

/-- A long option may be cut short as long as it could not be another one. -/
def ofLong (text : Text) : Except Stop Token :=
  let (name, attached) := splitEquals text
  match Switch.longNames.find? fun row => row.1 == name with
  | some row => .ok (.long row.2 attached)
  | none =>
    match Switch.longNames.filter fun row => name.isPrefixOf row.1 with
    | [] => .ok (otherwise text)
    | [row] => .ok (.long row.2 attached)
    | _ => .error .usage

def ofShort (letter : CodePoint) (rest : Text) : Token :=
  match Switch.ofLetter? letter with
  | none => otherwise (0x2D :: letter :: rest)
  | some switch =>
    match rest with
    | [] => .short switch none
    | 0x3D :: text => .short switch (some text)
    | text => .short switch (some text)

/-- A text before the separator, other than the separator. A lone minus sign is a word. -/
def ofText (text : Text) : Except Stop Token :=
  match text with
  | 0x2D :: 0x2D :: _ => ofLong text
  | 0x2D :: letter :: rest => .ok (ofShort letter rest)
  | _ => .ok (.word text)

def ofTexts : List Text → Except Stop (List Token)
  | [] => .ok []
  | text :: rest =>
    if text = "--" then .ok (.separator :: rest.map .word)
    else do return (← ofText text) :: (← ofTexts rest)

def isOption : Token → Bool
  | .word _ | .separator => false
  | .long .. | .short .. | .unknown => true

def word? : Token → Option Text
  | .word text => some text
  | _ => none

end Token

/-- What a command line asks for. An option given without a value that counts has none among its
values. -/
structure Arguments where
  paths : List Text := []
  analyse : Option (List (Option Text)) := none
  skip : Option (List (Option Text)) := none
  noAnalyse : Bool := false
  keepGoing : Bool := false
  output : Option Text := none
  verbose : Bool := false
deriving DecidableEq, Repr

namespace Arguments

def apply (arguments : Arguments) (switch : Switch) (value : Option Text) :
    Except Stop Arguments :=
  match switch with
  | .help => .error .help
  | .analyse => .ok { arguments with analyse := some (arguments.analyse.getD [] ++ [value]) }
  | .skip => .ok { arguments with skip := some (arguments.skip.getD [] ++ [value]) }
  | .noAnalyse => .ok { arguments with noAnalyse := true }
  | .keepGoing => .ok { arguments with keepGoing := true }
  | .output => .ok { arguments with output := value }
  | .verbose => .ok { arguments with verbose := true }

def applyAll (arguments : Arguments) : List (Switch × Option Text) → Except Stop Arguments
  | [] => .ok arguments
  | (switch, value) :: rest => do applyAll (← arguments.apply switch value) rest

end Arguments

/-- The switches that one option stands for, and how many of the words behind it they take. -/
structure OptionUse where
  uses : List (Switch × Option Text)
  taken : Nat := 0
  understood : Bool := true
deriving DecidableEq, Repr

namespace OptionUse

/-- The value that attached text stands for. The separator alone does not count. -/
def attachedValue (text : Text) : Option Text :=
  if text = "--" then none else some text

def plain (switch : Switch) (following : Option Text) : Except Stop OptionUse :=
  if switch.takesValue then
    match following with
    | some value => .ok { uses := [(switch, some value)], taken := 1 }
    | none => .error .usage
  else .ok { uses := [(switch, none)] }

/-- A short option with text behind its letter: a value, or more letters, all of them known. -/
def cluster (switch : Switch) (following : Option Text) : Text → Except Stop OptionUse
  | [] => if switch.takesValue then .ok { uses := [(switch, some [])] } else .error .usage
  | letter :: text =>
    if switch.takesValue then .ok { uses := [(switch, attachedValue (letter :: text))] }
    else match Switch.ofLetter? letter with
      | none => .error .usage
      | some next => do
        let more ← match text with
          | [] => plain next following
          | letters => cluster next following letters
        return { more with uses := (switch, none) :: more.uses }

def ofToken (token : Token) (following : Option Text) : Except Stop OptionUse :=
  match token with
  | .long switch none | .short switch none => plain switch following
  | .long switch (some attached) =>
    if switch.takesValue then .ok { uses := [(switch, attachedValue attached)] }
    else .error .usage
  | .short switch (some attached) => cluster switch following attached
  | .word _ | .separator | .unknown => .ok { uses := [], understood := false }

end OptionUse

structure Progress where
  arguments : Arguments := {}
  paths : Option (List Text) := none
  understood : Bool := true
deriving DecidableEq, Repr

namespace Progress

/-- A run of words is taken as the paths if it is the first one. -/
def takeWords (progress : Progress) (words : List Text) : Progress :=
  if progress.paths.isNone && !words.isEmpty then { progress with paths := some words }
  else { progress with understood := false }

def takeAll (progress : Progress) : List Token → Except Stop Progress
  | [] => .ok progress
  | token :: rest =>
    if token.isOption then do
      let use ← OptionUse.ofToken token (rest.head?.bind Token.word?)
      let arguments ← progress.arguments.applyAll use.uses
      let understood := progress.understood && use.understood
      takeAll { progress with arguments, understood } (rest.drop use.taken)
    else
      let words := ((token :: rest).takeWhile (!·.isOption)).filterMap Token.word?
      takeAll (progress.takeWords words) (rest.dropWhile (!·.isOption))
termination_by tokens => tokens.length
decreasing_by
  · simp only [List.length_drop, List.length_cons]
    omega
  · have shorter := (List.dropWhile_suffix (l := rest) (fun token => !token.isOption)).length_le
    simp only [List.length_cons]
    omega

end Progress

namespace Arguments

/-- Reads a command line. At least one path is needed, and every text must be understood. -/
def ofTexts (texts : List Text) : Except Stop Arguments := do
  let progress ← Progress.takeAll {} (← Token.ofTexts texts)
  match progress.paths with
  | some paths =>
    if progress.understood then return { progress.arguments with paths } else throw .usage
  | none => throw .usage

end Arguments

end ClassOutline.Command
