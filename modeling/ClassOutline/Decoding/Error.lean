import ClassOutline.Pool.Kind
import ClassOutline.Text.Printable

set_option autoImplicit false

namespace ClassOutline

inductive DecodeFault
  | truncated (width : Int)
  | wrongMagic (magic : Nat)
  | unknownTag (tag : Nat)
  | invalidUtf8 (slot : Nat)
  | codeLength (declared used : Nat)
  | fieldDescriptor (descriptor : Text)
  | methodDescriptor (descriptor : Text)
  | classNameIndex (slot nameIndex : Nat) (found : Option Kind)
  | noEntry (index : Int)
  | wrongKind (index : Int) (found : Kind) (expected : Text)
  | notLiteral (index : Int) (found : Kind)
deriving DecidableEq, Repr

namespace DecodeFault

def isMalformed : DecodeFault → Bool
  | .classNameIndex .. | .noEntry .. | .wrongKind .. | .notLiteral .. => false
  | _ => true

def message : DecodeFault → Text
  | .truncated width => "Truncated data reading " ++ Text.ofInt width ++ " byte(s)"
  | .wrongMagic magic => "Magic 0x" ++ Text.ofUpperHex 8 magic ++ " != 0xCAFEBABE"
  | .unknownTag tag => "Unknown constant pool tag " ++ Text.ofNat tag
  | .invalidUtf8 slot => "Invalid modified UTF-8 in constant pool entry " ++ Text.ofNat slot
  | .codeLength declared used =>
    "Code attribute declares " ++ Text.ofNat declared ++ " bytes but contains " ++ Text.ofNat used
  | .fieldDescriptor descriptor => "Malformed descriptor " ++ Text.quoted descriptor
  | .methodDescriptor descriptor => "Malformed method descriptor " ++ Text.quoted descriptor
  | .classNameIndex slot nameIndex found =>
    "Class entry " ++ Text.ofNat slot ++ " names constant pool index " ++ Text.ofNat nameIndex ++
      ", which is " ++ (found.map Kind.name).getD "nothing" ++ ", expected Utf8"
  | .noEntry index => "Constant pool index " ++ Text.ofInt index ++ " does not name an entry"
  | .wrongKind index found expected =>
    "Constant pool index " ++ Text.ofInt index ++ " is " ++ found.name ++ ", expected " ++ expected
  | .notLiteral index found =>
    "Constant pool index " ++ Text.ofInt index ++ " is " ++ found.name ++ ", not a literal"

end DecodeFault

/-- A fault, the absolute position where it was met and the name of the data, as far as known. -/
structure DecodeError where
  fault : DecodeFault
  offset : Option Int := none
  source : Option Text := none
deriving DecidableEq, Repr

namespace DecodeError

/-- Upper-case hexadecimal after `0x`, the sign behind it. -/
def offsetText (offset : Int) : Text :=
  ("0x" : Text) ++ ((if offset < 0 then [0x2D] else []) ++ Text.ofUpperHex 1 offset.natAbs)

def message (error : DecodeError) : Text :=
  let place := match error.offset with
    | none => []
    | some offset => (" (at offset " : Text) ++ offsetText offset ++ ")"
  let origin := match error.source with
    | none | some [] => []
    | some source => source ++ ": "
  origin ++ error.fault.message ++ place

end DecodeError

abbrev Decoded := Except DecodeError

end ClassOutline
