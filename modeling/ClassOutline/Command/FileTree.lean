import ClassOutline.Text.Printable

set_option autoImplicit false

namespace ClassOutline.Command

/-- Files with their bytes, and directories, each by the names on the way to it from the root. A
directory on the way to something need not be listed itself. Relative paths start at `here`. -/
structure FileTree where
  here : List Text
  files : List (List Text × Array UInt8)
  directories : List (List Text) := []
deriving DecidableEq, Repr

inductive PathFault
  | missing
  | notDirectory
  | isDirectory
  | nameTooLong
  | nullByte
  | unencodable
deriving DecidableEq, Repr

namespace PathFault

/-- The system's number and words for a fault, if the system sees the path at all. -/
def system? : PathFault → Option (Nat × Text)
  | .missing => some (2, "No such file or directory")
  | .notDirectory => some (20, "Not a directory")
  | .isDirectory => some (21, "Is a directory")
  | .nameTooLong => some (36, "File name too long")
  | .nullByte | .unencodable => none

def message (fault : PathFault) (path : Text) : Text :=
  match fault.system? with
  | some (number, words) =>
    ("[Errno " : Text) ++ Text.ofNat number ++ "] " ++ words ++ ": " ++ Text.quoted path
  | none => []

end PathFault

def splitPath : Text → List Text
  | [] => [[]]
  | point :: rest =>
    if point = 0x2F then [] :: splitPath rest
    else match splitPath rest with
      | [] => [[point]]
      | part :: parts => (point :: part) :: parts

/-- The bytes that a code point takes. A surrogate from U+DC80 to U+DCFF stands for one byte. -/
def systemWidth (point : CodePoint) : Nat :=
  if point < 0x80 ∨ (0xDC80 ≤ point ∧ point < 0xDD00) then 1
  else if point < 0x800 then 2
  else if point < 0x10000 then 3
  else 4

def systemLength (text : Text) : Nat :=
  text.foldl (fun length point => length + systemWidth point) 0

def isSystemPoint (point : CodePoint) : Bool :=
  !Text.isSurrogate point || (0xDC80 ≤ point && point < 0xDD00)

namespace FileTree

def isDirectory (tree : FileTree) (place : List Text) : Bool :=
  place.isPrefixOf tree.here || tree.directories.any place.isPrefixOf ||
    tree.files.any fun file => place != file.1 && place.isPrefixOf file.1

def file? (tree : FileTree) (place : List Text) : Option (Array UInt8) :=
  (tree.files.find? fun file => file.1 == place).map Prod.snd

/-- Follows the parts of a path. Every part but the last must be that of a directory. -/
def follow (tree : FileTree) (place : List Text) : List Text → Except PathFault (List Text)
  | [] => .ok place
  | part :: parts =>
    if !tree.isDirectory place then .error .notDirectory
    else if part = [] ∨ part = "." then follow tree place parts
    else if part = ".." then follow tree place.dropLast parts
    else if 255 < systemLength part then .error .nameTooLong
    else
      let next := place ++ [part]
      if tree.isDirectory next || (tree.file? next).isSome then follow tree next parts
      else .error .missing

def isTooLong (path : Text) : Bool :=
  4096 ≤ systemLength path

/-- What keeps a path from being looked up at all. -/
def pathFault? (path : Text) : Option PathFault :=
  if !path.all isSystemPoint then some .unencodable
  else if path.contains 0 then some .nullByte
  else if path.isEmpty then some .missing
  else if isTooLong path then some .nameTooLong
  else none

def start (tree : FileTree) (path : Text) : List Text :=
  if path.head? = some 0x2F then [] else tree.here

def resolve (tree : FileTree) (path : Text) : Except PathFault (List Text) :=
  match pathFault? path with
  | some fault => .error fault
  | none => tree.follow (tree.start path) (splitPath path)

def directory? (tree : FileTree) (path : Text) : Option (List Text) :=
  match tree.resolve path with
  | .ok place => if tree.isDirectory place then some place else none
  | .error _ => none

def read (tree : FileTree) (path : Text) : Except PathFault (Array UInt8) := do
  match tree.file? (← tree.resolve path) with
  | some bytes => return bytes
  | none => throw .isDirectory

def target (tree : FileTree) (path : Text) : Except PathFault (List Text) := do
  match pathFault? path with
  | some fault => throw fault
  | none => pure ()
  let parts := splitPath path
  let named := (parts.reverse.dropWhile (· == [])).reverse
  let place ← tree.follow (tree.start path) named.dropLast
  if !tree.isDirectory place then throw .notDirectory
  let name := named.getLast?.getD []
  if name = [] ∨ named.length ≠ parts.length ∨ name = "." ∨ name = ".." then throw .isDirectory
  if 255 < systemLength name then throw .nameTooLong
  if tree.isDirectory (place ++ [name]) then throw .isDirectory
  return place ++ [name]

def write (tree : FileTree) (place : List Text) (bytes : Array UInt8) : FileTree :=
  { tree with files := (place, bytes) :: tree.files.filter fun file => file.1 != place }

def below? (tree : FileTree) (place : List Text) : Option (List Text) :=
  if tree.here.isPrefixOf place then some (place.drop tree.here.length) else none

def joinPath (path : Text) (names : List Text) : Text :=
  let separator : Text := if path.getLast? = some 0x2F then [] else "/"
  path ++ separator ++ Text.joined "/" names

/-- The names below a directory that lead to a class file, if it is one and lies there. A file in a
directory whose own path is too long is not found. -/
def classFileBelow? (path : Text) (place file : List Text) : Option (List Text) :=
  let names := file.drop place.length
  if place.isPrefixOf file && (Text.ofString ".class").isSuffixOf (file.getLast?.getD []) &&
      (names.length ≤ 1 || !isTooLong (joinPath path names.dropLast)) then some names
  else none

def classFilesBelow (tree : FileTree) (path : Text) (place : List Text) : List Text :=
  (tree.files.filterMap fun file => classFileBelow? path place file.1).map (joinPath path)

/-- The paths to list, by code point. A directory stands for the class files below it. -/
def expand (tree : FileTree) (paths : List Text) : List Text :=
  Text.sorted (paths.flatMap fun path =>
    match tree.directory? path with
    | some place => tree.classFilesBelow path place
    | none => [path])

end FileTree

end ClassOutline.Command
