import ClassOutline.Decoding.Reach
import ClassOutline.Pool.Entry

set_option autoImplicit false

namespace ClassOutline

structure ConstantPool where
  entries : Array (Option Entry)
  rawLength : Nat
  source : Option Text := none
deriving DecidableEq, Repr

namespace ConstantPool

/-- Reads entries until the table has `count` slots; the last one may need one slot more. -/
def readSlots (view : View) (count : Int) (slots : Array (Option Entry)) (offset : Nat) :
    Decoded (Array (Option Entry) × Nat) :=
  if slots.size < count then
    match Entry.read (view.window offset) slots.size with
    | .error fault => .error fault
    | .ok (entry, width) => readSlots view count (slots ++ entry.slots) (offset + width)
  else
    .ok (slots, offset)
termination_by (count - slots.size).toNat
decreasing_by
  simp only [Array.size_append, Entry.slots]
  split <;> simp <;> omega

/-- The fault of a class entry whose name index is not that of a text. -/
def classNameFault (entries : Array (Option Entry)) (slot : Nat) :
    Option Entry → Option DecodeFault
  | some (.classRef nameIndex) =>
    match (entries[nameIndex]?).join with
    | some (.utf8 _) => none
    | found => some (.classNameIndex slot nameIndex (found.map Entry.kind))
  | _ => none

/-- The first class entry that does not name a text. -/
def findClassNameFault (entries : Array (Option Entry)) : Option DecodeFault :=
  entries.toList.zipIdx.findSome? fun (entry, slot) => classNameFault entries slot entry

/-- Reads `count - 1` slots from the start of the view. Every class entry must name a text. -/
def read (view : View) (count : Int) : Decoded ConstantPool := do
  let (entries, rawLength) ← readSlots view count #[none] 0
  match findClassNameFault entries with
  | some fault => throw { fault, source := view.source }
  | none => return { entries, rawLength, source := view.source }

/-- Reads a pool that may lie out of reach. A pool without slots after slot zero is nowhere. -/
def load (view : View) (count : Int) : Reached ConstantPool :=
  if count ≤ 1 then Reached.ofDecoded (read view count)
  else view.reach 0 fun view _ => read view count

def size (pool : ConstantPool) : Nat :=
  pool.entries.size - 1

def entry? (pool : ConstantPool) (index : Int) : Option Entry :=
  if 1 ≤ index then (pool.entries[index.toNat]?).join else none

def fault (pool : ConstantPool) (cause : DecodeFault) : DecodeError :=
  { fault := cause, source := pool.source }

def entry (pool : ConstantPool) (index : Int) : Decoded Entry :=
  match pool.entry? index with
  | some entry => .ok entry
  | none => .error (pool.fault (.noEntry index))

/-- The entry at an index if its kind has the given name. -/
def entryNamed (pool : ConstantPool) (index : Int) (kind : Text) : Decoded Entry := do
  let entry ← pool.entry index
  if entry.kind.name = kind then return entry
  else throw (pool.fault (.wrongKind index entry.kind kind))

def utf8 (pool : ConstantPool) (index : Int) : Decoded Text := do
  match ← pool.entry index with
  | .utf8 text => return text
  | other => throw (pool.fault (.wrongKind index other.kind Kind.utf8.name))

def classEntry (pool : ConstantPool) (index : Int) : Decoded Nat := do
  match ← pool.entry index with
  | .classRef nameIndex => return nameIndex
  | other => throw (pool.fault (.wrongKind index other.kind Kind.classRef.name))

def className (pool : ConstantPool) (index : Int) : Decoded Text := do
  pool.utf8 (← pool.classEntry index)

def literal (pool : ConstantPool) (index : Int) : Decoded Literal := do
  match ← pool.entry index with
  | .string textIndex => return .text (← pool.utf8 textIndex)
  | .integer value | .long value => return .int value
  | .float value | .double value => return .float value
  | other => throw (pool.fault (.notLiteral index other.kind))

def classNameIndices (pool : ConstantPool) : List Nat :=
  pool.entries.toList.filterMap fun
    | some (.classRef nameIndex) => some nameIndex
    | _ => none

end ConstantPool

end ClassOutline
