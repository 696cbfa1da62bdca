import ClassOutline.Decoding.Error
import ClassOutline.Number.Binary

set_option autoImplicit false

/- Random access to big-endian numbers. Offsets are relative to the base of a view, so that a record
is read the same way wherever it lies in the data. -/

namespace ClassOutline

structure View where
  data : Array UInt8
  base : Int := 0
  source : Option Text := none
deriving DecidableEq, Repr

namespace View

def size (view : View) : Nat :=
  ((view.data.size : Int) - view.base).toNat

def window (view : View) (offset : Int) : View :=
  { view with base := view.base + offset }

def absolute (view : View) (offset : Int) : Int :=
  view.base + offset

@[simp] theorem window_data (view : View) (offset : Int) :
    (view.window offset).data = view.data := rfl

@[simp] theorem window_base (view : View) (offset : Int) :
    (view.window offset).base = view.base + offset := rfl

@[simp] theorem window_source (view : View) (offset : Int) :
    (view.window offset).source = view.source := rfl

def truncated (view : View) (offset width : Int) : DecodeError :=
  { fault := .truncated width, offset := view.absolute offset, source := view.source }

/-- Where the `width` bytes of a number begin. A negative position counts from the end. -/
def numberStart? (size : Nat) (position : Int) (width : Nat) : Option Nat :=
  let start := if position < 0 then position + size else position
  if 0 ≤ start ∧ start + width ≤ size then some start.toNat else none

def numberBytes (view : View) (offset : Int) (width : Nat) : Decoded (List UInt8) :=
  match numberStart? view.data.size (view.absolute offset) width with
  | some start => .ok (view.data.extract start (start + width)).toList
  | none => .error (view.truncated offset width)

def bigEndian (bytes : List UInt8) : Nat :=
  bytes.foldl (fun value byte => value * 256 + byte.toNat) 0

/-- The two's complement reading of a number of `width` bytes. -/
def twosComplement (width number : Nat) : Int :=
  if number < Nat.pow 2 (8 * width - 1) then number
  else (number : Int) - (Nat.pow 2 (8 * width) : Int)

def unsigned (view : View) (width : Nat) (offset : Int) : Decoded Nat :=
  (view.numberBytes offset width).map bigEndian

def signed (view : View) (width : Nat) (offset : Int) : Decoded Int :=
  (view.unsigned width offset).map (twosComplement width)

def u1 (view : View) (offset : Int) : Decoded Nat := view.unsigned 1 offset

def u2 (view : View) (offset : Int) : Decoded Nat := view.unsigned 2 offset

def u4 (view : View) (offset : Int) : Decoded Nat := view.unsigned 4 offset

def s2 (view : View) (offset : Int) : Decoded Int := view.signed 2 offset

def s4 (view : View) (offset : Int) : Decoded Int := view.signed 4 offset

def s8 (view : View) (offset : Int) : Decoded Int := view.signed 8 offset

def f4 (view : View) (offset : Int) : Decoded FloatValue :=
  (view.unsigned 4 offset).map binary32.decode

def f8 (view : View) (offset : Int) : Decoded FloatValue :=
  (view.unsigned 8 offset).map binary64.decode

/-- A slice bound as an index: a negative one counts from the end, and no bound leaves the data. -/
def sliceBound (size : Nat) (bound : Int) : Nat :=
  min (if bound < 0 then bound + size else bound).toNat size

def raw (view : View) (offset length : Int) : Decoded (Array UInt8) :=
  let start := view.absolute offset
  if offset < 0 ∨ (view.data.size : Int) < start + length then
    .error (view.truncated offset length)
  else
    .ok (view.data.extract (sliceBound view.data.size start)
      (sliceBound view.data.size (start + length)))

theorem base_lt_of_unsigned {view : View} {width number : Nat} (offset : Nat)
    (success : view.unsigned width offset = .ok number) (positive : 0 < width) :
    view.base < view.data.size := by
  unfold unsigned numberBytes at success
  split at success
  · rename_i start found
    unfold numberStart? absolute at found
    split at found <;> simp_all <;> omega
  · simp [Except.map] at success

end View

end ClassOutline
