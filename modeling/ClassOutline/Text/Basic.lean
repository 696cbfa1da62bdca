set_option autoImplicit false

namespace ClassOutline

abbrev CodePoint := Nat

abbrev Text := List CodePoint

namespace Text

def ofString (characters : String) : Text :=
  characters.toList.map Char.toNat

instance : Coe String Text := ⟨ofString⟩

def isHighSurrogate (point : CodePoint) : Bool :=
  0xD800 ≤ point && point < 0xDC00

def isLowSurrogate (point : CodePoint) : Bool :=
  0xDC00 ≤ point && point < 0xE000

def isSurrogate (point : CodePoint) : Bool :=
  0xD800 ≤ point && point < 0xE000

/-- A text that UTF-8 can carry has no surrogate. -/
def isEncodable (text : Text) : Bool :=
  text.all fun point => !isSurrogate point

def ofNat (number : Nat) : Text :=
  (Nat.toDigits 10 number).map Char.toNat

def ofInt : Int → Text
  | .ofNat number => ofNat number
  | .negSucc number => 0x2D :: ofNat (number + 1)

/-- Lower-case hexadecimal digits, zero-filled on the left to at least `width`. -/
def ofHex (width number : Nat) : Text :=
  let digits := (Nat.toDigits 16 number).map Char.toNat
  List.replicate (width - digits.length) 0x30 ++ digits

def ofUpperHex (width number : Nat) : Text :=
  (ofHex width number).map fun digit => if 0x61 ≤ digit then digit - 0x20 else digit

/-- Surrogates become `\u` escapes. -/
def escapeSurrogates (text : Text) : Text :=
  text.flatMap fun point => if isSurrogate point then "\\u" ++ ofHex 4 point else [point]

def utf8 (text : Text) : Array UInt8 :=
  (String.ofList (text.map Char.ofNat)).toUTF8.data

/-- The part before the first `mark`; the whole text if there is none. -/
def beforeFirst (mark : CodePoint) (text : Text) : Text :=
  text.takeWhile (· != mark)

/-- The part after the last `mark`; the whole text if there is none. -/
def afterLast (mark : CodePoint) (text : Text) : Text :=
  (text.reverse.takeWhile (· != mark)).reverse

/-- The part before the last `mark`; empty if there is none. -/
def beforeLast (mark : CodePoint) (text : Text) : Text :=
  ((text.reverse.dropWhile (· != mark)).drop 1).reverse

/-- The texts one after another with `separator` between neighbours. -/
def joined (separator : Text) : List Text → Text
  | [] => []
  | [text] => text
  | text :: rest => text ++ separator ++ joined separator rest

/-- Keeps one of each run of equal neighbours. -/
def dropRepeats : List Text → List Text
  | first :: second :: rest =>
    if first = second then dropRepeats (second :: rest)
    else first :: dropRepeats (second :: rest)
  | short => short

/-- The texts that equal their right neighbour. -/
def repeats : List Text → List Text
  | first :: second :: rest =>
    if first = second then first :: repeats (second :: rest) else repeats (second :: rest)
  | _ => []

/-- The order of texts: the first code points that differ decide, and a text comes before those
that it begins. -/
def precedes : Text → Text → Bool
  | [], _ => true
  | _ :: _, [] => false
  | left :: lefts, right :: rights => left < right || (left == right && precedes lefts rights)

def sorted (texts : List Text) : List Text :=
  texts.mergeSort precedes

/-- Ordered by code point, each text once. -/
def sortedSet (texts : List Text) : List Text :=
  dropRepeats (sorted texts)

end Text

end ClassOutline
