import ClassOutline.Command.Run

set_option autoImplicit false

namespace ClassOutline.Main

def string (text : Text) : String :=
  String.ofList (text.map Char.ofNat)

/-- The names on the way to a path from the root, without empty ones and dots. -/
def place (here : List Text) (path : Text) : List Text :=
  let start := if path.head? = some 0x2F then [] else here
  (Command.splitPath path).foldl (fun names name =>
    if name = [] ∨ name = "." then names
    else if name = ".." then names.dropLast
    else names ++ [name]) start

def stages (path : Text) : List Text :=
  ((List.range (path.length + 1)).filter fun length =>
    0 < length && (length == path.length || path[length]? == some 0x2F)).map path.take

/-- Whether the walk through a directory takes an entry: a class file, or a directory of its own. -/
def isWalked (entry : IO.FS.DirEntry) : IO Bool := do
  if (Text.ofString ".class").isSuffixOf (Text.ofString entry.fileName) then return true
  return (← entry.path.isDir) && (← entry.path.symlinkMetadata).type != .symlink

/-- Adds a file or directory as it is on the disk, and what a directory holds if asked to. -/
partial def gather (deep : Bool) (tree : Command.FileTree) (path : Text) :
    IO Command.FileTree := do
  try
    let real ← IO.FS.realPath (string path)
    let names := place tree.here path
    if ← real.isDir then
      let mut tree := { tree with directories := names :: tree.directories }
      if deep then
        for entry in ← real.readDir do
          if ← isWalked entry then
            let below := Command.FileTree.joinPath path [Text.ofString entry.fileName]
            tree ← gather deep tree below
      return tree
    else if (tree.file? names).isSome then return tree
    else return tree.write names (← IO.FS.readBinFile (string path)).data
  catch _ => return tree

def gatherAll (arguments : Command.Arguments) : IO Command.FileTree := do
  let here ← IO.currentDir
  let mut tree : Command.FileTree := { here := place [] (Text.ofString here.toString), files := [] }
  for path in arguments.paths ++ arguments.output.toList do
    for stage in stages path do
      tree ← gather false tree stage
  for path in arguments.paths do
    tree ← gather true tree path
  return tree

def abortText : Command.Abort → Text
  | .literal .wrongType => "a constant does not fit the type of its field"
  | .literal .notCodePoint => "a character constant is not a code point"
  | .literal .overflow => "a constant is too large for the type of its field"
  | .beyond .position => "a position in the data is too large"
  | .beyond .depth => "attributes or array dimensions are nested too deep"
  | .unencodable => "the output cannot hold a lone surrogate"
  | .missingName => "an option for method names has no value"
  | .path fault => (fault.system?.map Prod.snd).getD "a path cannot be looked up"

def usageText : String :=
  "usage: classoutline [-h] [--analyse NAME] [--skip NAME] [--no-analyse] [--keep-going] " ++
    "[-o FILE] [-v] PATH [PATH ...]"

/-- Carries a report out, with the status to exit with. -/
def deliver (arguments : Command.Arguments) (report : Command.Report) : IO UInt32 := do
  match report.written, arguments.output with
  | some (_, content), some output => IO.FS.writeFile (string output) (string content)
  | _, _ => pure ()
  IO.print (string report.stdout)
  IO.eprint (string (Text.escapeSurrogates report.logText))
  match report.ending with
  | .exited status => return UInt32.ofNat status
  | .stopped .help => return 0
  | .stopped .usage => return 2
  | .aborted cause =>
    IO.eprintln (string (abortText cause))
    return 1

end ClassOutline.Main

def main (texts : List String) : IO UInt32 := do
  let texts := texts.map ClassOutline.Text.ofString
  match ClassOutline.Command.Arguments.ofTexts texts with
  | .error .help =>
    IO.println ClassOutline.Main.usageText
    return 0
  | .error .usage =>
    IO.eprintln ClassOutline.Main.usageText
    return 2
  | .ok arguments =>
    let tree ← ClassOutline.Main.gatherAll arguments
    ClassOutline.Main.deliver arguments (ClassOutline.Command.run tree texts)
