import ClassOutline.Text.Basic

set_option autoImplicit false

/- The string encoding of class files. NUL is written `C0 80`, every other character below U+10000
as in UTF-8, surrogates included, and a character above U+FFFF as its two surrogates. -/

namespace ClassOutline.ModifiedUtf8

def isContinuation (byte : UInt8) : Bool :=
  0x80 ≤ byte.toNat && byte.toNat < 0xC0

/-- A two-byte sequence: NUL, or a character that does not fit one byte. -/
def pair? (first second : UInt8) : Option CodePoint :=
  if first.toNat = 0xC0 ∧ second.toNat = 0x80 then some 0
  else if 0xC2 ≤ first.toNat ∧ first.toNat < 0xE0 ∧ isContinuation second then
    some ((first.toNat - 0xC0) * 0x40 + (second.toNat - 0x80))
  else none

/-- A three-byte sequence: a character that does not fit two bytes. -/
def triple? (first second third : UInt8) : Option CodePoint :=
  let point := (first.toNat - 0xE0) * 0x1000 + (second.toNat - 0x80) * 0x40 + (third.toNat - 0x80)
  if 0xE0 ≤ first.toNat ∧ first.toNat < 0xF0 ∧ isContinuation second ∧ isContinuation third ∧
      0x800 ≤ point then some point
  else none

/-- A four-byte sequence: a character from U+10000 to U+10FFFF. -/
def quadruple? (first second third fourth : UInt8) : Option CodePoint :=
  let point := (first.toNat - 0xF0) * 0x40000 + (second.toNat - 0x80) * 0x1000 +
    (third.toNat - 0x80) * 0x40 + (fourth.toNat - 0x80)
  if 0xF0 ≤ first.toNat ∧ first.toNat < 0xF8 ∧ isContinuation second ∧ isContinuation third ∧
      isContinuation fourth ∧ 0x10000 ≤ point ∧ point < 0x110000 then some point
  else none

/-- The code points of consecutive well-formed sequences. -/
def points? : List UInt8 → Option Text
  | [] => some []
  | first :: rest =>
    if first.toNat < 0x80 then (points? rest).map (first.toNat :: ·)
    else match rest with
      | [] => none
      | second :: rest =>
        match pair? first second with
        | some point => (points? rest).map (point :: ·)
        | none => match rest with
          | [] => none
          | third :: rest =>
            match triple? first second third with
            | some point => (points? rest).map (point :: ·)
            | none => match rest with
              | [] => none
              | fourth :: rest =>
                match quadruple? first second third fourth with
                | some point => (points? rest).map (point :: ·)
                | none => none

def combine (high low : CodePoint) : CodePoint :=
  0x10000 + (high - 0xD800) * 0x400 + (low - 0xDC00)

/-- Each high surrogate and the low one right after it become one character; others stay. -/
def joinPairs : Text → Text
  | high :: low :: rest =>
    if Text.isHighSurrogate high && Text.isLowSurrogate low then combine high low :: joinPairs rest
    else high :: joinPairs (low :: rest)
  | short => short

def decode? (bytes : List UInt8) : Option Text :=
  (points? bytes).map joinPairs

end ClassOutline.ModifiedUtf8
