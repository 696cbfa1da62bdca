import ClassOutline.Decoding.View

set_option autoImplicit false

/- What lies beyond the limits of a machine. Positions are signed numbers of 64 bits, and calls go
only so deep. To go further is another failure than reading past the end of the data. -/

namespace ClassOutline

inductive Limit
  | position
  | depth
deriving DecidableEq, Repr

/-- The room for calls inside calls: for attributes inside one another while they are read, and for
the dimensions of a type while it is written. -/
structure Stack where
  attributes : Nat := 165
  dimensions : Nat := 990
deriving DecidableEq, Repr

inductive ReachFault
  | beyond (limit : Limit)
  | decode (error : DecodeError)
deriving DecidableEq, Repr

abbrev Reached := Except ReachFault

namespace Reached

def ofDecoded {α : Type} : Decoded α → Reached α
  | .ok value => .ok value
  | .error error => .error (.decode error)

instance : MonadLift Decoded Reached where
  monadLift := ofDecoded

theorem ofDecoded_eq_ok_iff {α : Type} {result : Decoded α} {value : α} :
    ofDecoded result = .ok value ↔ result = .ok value := by
  cases result <;> simp [ofDecoded]

end Reached

def isIndex (number : Int) : Bool :=
  -0x8000000000000000 ≤ number && number < 0x8000000000000000

namespace View

/-- What `read` finds at an offset, if its position is within reach. -/
def reach {α : Type} (view : View) (offset : Int) (read : View → Int → Decoded α) :
    Reached α :=
  if isIndex (view.absolute offset) then Reached.ofDecoded (read view offset)
  else .error (.beyond .position)

def size? (view : View) : Option Nat :=
  if isIndex view.size then some view.size else none

theorem reach_eq_ok_iff {α : Type} {view : View} {offset : Int}
    {read : View → Int → Decoded α} {value : α} :
    view.reach offset read = .ok value ↔
      isIndex (view.absolute offset) = true ∧ read view offset = .ok value := by
  unfold reach
  split <;> simp_all [Reached.ofDecoded_eq_ok_iff]

end View

end ClassOutline
