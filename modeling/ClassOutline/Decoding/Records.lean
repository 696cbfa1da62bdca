import ClassOutline.Decoding.View

set_option autoImplicit false

namespace ClassOutline

variable {m : Type → Type} [Monad m] {α : Type}

/-- Reads `count` records, the first one at `place` and every other where the one before it leads.
The second result is where the last one leads. -/
@[specialize] def recordsFrom {π : Type} (read : π → m α) (next : π → α → π) :
    Nat → π → m (List α × π)
  | 0, place => pure ([], place)
  | count + 1, place => do
    let item ← read place
    let (items, finish) ← recordsFrom read next count (next place item)
    return (item :: items, finish)

/-- Reads `count` records one after another from `offset` on. Each reports the bytes it takes, and
the next begins right after it. The second result is the total of the reported lengths. -/
@[specialize] def recordsAt (read : Nat → m α) (length : α → Nat) (count offset : Nat) :
    m (List α × Nat) := do
  let (items, finish) ← recordsFrom read (fun place item => place + length item) count offset
  return (items, finish - offset)

namespace View

/-- Records of varying length, none if the count is not positive. -/
@[specialize] def records (view : View) (count : Int) (length : α → Nat) (read : View → m α) :
    m (List α × Nat) :=
  recordsAt (fun offset => read (view.window offset)) length count.toNat 0

/-- Records that may report lengths of either sign, the next one beginning so far behind. -/
@[specialize] def signedRecords (view : View) (count : Int) (length : α → Int)
    (read : View → m α) : m (List α × Int) :=
  recordsFrom (fun offset : Int => read (view.window offset))
    (fun offset item => offset + length item) count.toNat 0

/-- Records of one width, each found by its index. The total is the product of count and width, of
whatever sign they are. -/
@[specialize] def fixedRecords (view : View) (count width : Int) (read : View → m α) :
    m (List α × Int) := do
  let (items, _) ← recordsAt (fun (index : Nat) => read (view.window (index * width)))
    (fun _ => 1) count.toNat 0
  return (items, count * width)

end View

end ClassOutline
