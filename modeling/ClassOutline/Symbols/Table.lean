import ClassOutline.Pool.Basic

set_option autoImplicit false

/- The names that a class file refers to. A constant pool with the names that descriptors and throws
clauses add to those of its class entries, a count of the lookups made, and the simple names known
to belong to more than one class. -/

namespace ClassOutline

namespace Names

/-- Slashes and dollars become dots. -/
def sourceName (internal : Text) : Text :=
  internal.map fun point => if point = 0x2F ∨ point = 0x24 then 0x2E else point

/-- The source form of what follows the last slash. -/
def simpleName (internal : Text) : Text :=
  sourceName (Text.afterLast 0x2F internal)

def hasPackage (internal : Text) : Bool :=
  internal.contains 0x2F

/-- What stands before the last slash. -/
def package (internal : Text) : Text :=
  Text.beforeLast 0x2F internal

/-- The outermost class: what stands before the first dollar. -/
def outermost (internal : Text) : Text :=
  Text.beforeFirst 0x24 internal

def isArray (internal : Text) : Bool :=
  internal.head? == some 0x5B

end Names

structure SymbolTable where
  pool : ConstantPool
  lookups : Nat := 0
  marked : List Text := []
  ambiguous : Option (List Text) := none
deriving DecidableEq, Repr

/-- A computation over a symbol table. What it did to the table stays when it fails. -/
abbrev Lookup := ExceptT DecodeError (StateM SymbolTable)

namespace SymbolTable

/-- A table with some names marked from the start. A name may be among them more than once. -/
def ofNames (pool : ConstantPool) (names : List Text) : SymbolTable :=
  { pool, marked := names }

def counted {α : Type} (find : ConstantPool → Decoded α) : Lookup α := do
  modify fun table => { table with lookups := table.lookups + 1 }
  ExceptT.mk (return find (← get).pool)

def entry (index : Int) : Lookup Entry :=
  counted (·.entry index)

def entryNamed (index : Int) (kind : Text) : Lookup Entry :=
  counted (·.entryNamed index kind)

def utf8 (index : Int) : Lookup Text :=
  counted (·.utf8 index)

def classEntry (index : Int) : Lookup Nat :=
  counted (·.classEntry index)

/-- The value of a loadable literal. The text of a string takes a second lookup. -/
def literal (index : Int) : Lookup Literal := do
  match ← entry index with
  | .string textIndex => return .text (← utf8 textIndex)
  | _ => ExceptT.mk (return (← get).pool.literal index)

/-- The values of the entries of a kind, in pool order: the texts of strings, the first argument
of all others. -/
def constants (kind : Text) : Lookup (List Literal) := do
  let entries := ((← get).pool.entries.toList.filterMap id).filter (·.kind.name == kind)
  let values ← entries.mapM fun
    | .string textIndex => do return [.text (← utf8 textIndex)]
    | other => return other.arguments.take 1
  return values.flatten

/-- Notes that a class is referred to. A new name makes the ambiguous names unknown again. -/
def mark (name : Text) (table : SymbolTable) : SymbolTable :=
  if table.marked.contains name then table
  else { table with marked := name :: table.marked, ambiguous := none }

/-- The marked names and those of the class entries that are not arrays, by code point. -/
def referencedClasses : Lookup (List Text) := do
  let table ← get
  let names ← table.pool.classNameIndices.mapM fun (index : Nat) => utf8 index
  return Text.sortedSet (table.marked ++ names.filter fun name => !Names.isArray name)

/-- The simple names that more than one of these classes has. -/
def ambiguousNames (classes : List Text) : List Text :=
  Text.dropRepeats (Text.repeats (Text.sorted (classes.map Names.simpleName)))

/-- The ambiguous simple names, found once and kept until a new name is marked. -/
def knownAmbiguous : Lookup (List Text) := do
  match (← get).ambiguous with
  | some names => return names
  | none =>
    let names := ambiguousNames (← referencedClasses)
    modify fun table => { table with ambiguous := some names }
    return names

/-- The simple name of a class, or its full source name if the simple one is ambiguous. -/
def displayName (name : Text) : Lookup Text := do
  let simple := Names.simpleName name
  return if (← knownAmbiguous).contains simple then Names.sourceName name else simple

/-- The display name of the class that the entry with this name index names. -/
def typeName (nameIndex : Nat) : Lookup Text := do
  displayName (← utf8 nameIndex)

end SymbolTable

end ClassOutline
