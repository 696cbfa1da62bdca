import ClassOutline.Text.Lines

set_option autoImplicit false

/- A sink for indented text. A soft break ends the current line if it is not empty, but only once
more text follows it. -/

namespace ClassOutline

/-- The state of a sink. `writes` holds each piece of text that went to the stream, in order. -/
structure Printer where
  writes : Array Text := #[]
  atStart : Bool := true
  pendingBreak : Bool := false
  depth : Nat := 0
  empty : Bool := true
deriving DecidableEq, Repr

namespace Printer

def text (printer : Printer) : Text :=
  printer.writes.toList.flatten

def write (printer : Printer) (piece : Text) : Printer :=
  { printer with writes := printer.writes.push piece }

/-- Four spaces for each open block. -/
def indentation (printer : Printer) : Text :=
  List.replicate (4 * printer.depth) 0x20

def flush (printer : Printer) : Printer :=
  if printer.pendingBreak then
    { printer.write [0x0A] with atStart := true, pendingBreak := false }
  else printer

/-- Writes one line, indented unless it continues another or is empty. -/
def printLine (printer : Printer) (line : Text) : Printer :=
  let indented :=
    if printer.atStart && line != [0x0A] then printer.write printer.indentation else printer
  { indented.write line with empty := false, atStart := line.getLast? == some 0x0A }

def print (printer : Printer) (text : Text) : Printer :=
  (Text.lines text).foldl printLine printer.flush

def softBreak (printer : Printer) : Printer :=
  if printer.atStart then printer else { printer with pendingBreak := true }

def dropBreak (printer : Printer) : Printer :=
  { printer with pendingBreak := false }

/-- Starts a fresh line with an empty one before it, unless nothing was printed yet. -/
def freshLine (printer : Printer) : Printer :=
  if printer.empty then printer else printer.softBreak.print [0x0A]

def indent (printer : Printer) : Printer :=
  { printer with depth := printer.depth + 1 }

def dedent (printer : Printer) : Printer :=
  { printer with depth := printer.depth - 1 }

end Printer

end ClassOutline
