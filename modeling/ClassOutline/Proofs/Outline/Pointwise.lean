import ClassOutline.Proofs.Outline.Indentation

set_option autoImplicit false

/- A printer that takes a text one character at a time. It knows nothing of line boundaries but the
line feed, and comes to the same text in the same state as the one that cuts the text into lines
first. So it does not matter where a text is cut before it is printed, not even between a carriage
return and the line feed behind it. -/

namespace ClassOutline.Printer

/-- Writes one character, indented if it begins a line and is not a line feed. -/
def printPoint (printer : Printer) (point : CodePoint) : Printer :=
  let indented :=
    if printer.atStart && point != 0x0A then printer.write printer.indentation else printer
  { indented.write [point] with empty := false, atStart := point == 0x0A }

/-- Prints a text character by character, behind the soft break if one is pending. -/
def printPoints (printer : Printer) (text : Text) : Printer :=
  text.foldl printPoint printer.flush

/-- Two printers in one state with one text, whatever pieces it was written in. -/
structure Alike (first second : Printer) : Prop where
  text : first.text = second.text
  atStart : first.atStart = second.atStart
  pendingBreak : first.pendingBreak = second.pendingBreak
  depth : first.depth = second.depth
  empty : first.empty = second.empty

/-- What a printer becomes by a text is told by the text. -/
theorem Continues.alike {printer first second : Printer} {added : Text}
    (here : printer.Continues added first) (there : printer.Continues added second) :
    first.Alike second where
  text := here.text.trans there.text.symm
  atStart := here.atStart.trans there.atStart.symm
  pendingBreak := here.pendingBreak.trans there.pendingBreak.symm
  depth := here.depth.trans there.depth.symm
  empty := here.empty.trans there.empty.symm

theorem continues_printPoint (printer : Printer) (point : CodePoint) :
    printer.Continues [point] (printer.printPoint point) := by
  by_cases begins : printer.atStart && point != 0x0A
  · constructor <;> simp [printPoint, begins, Text.indentedFrom, Text.startsAfter, write, text]
  · constructor <;> simp [printPoint, begins, Text.indentedFrom, Text.startsAfter, write, text]

theorem continues_printPoints (printer : Printer) (text : Text) :
    printer.flush.Continues text (printer.printPoints text) := by
  have points := Continues.foldl (fun point (_ : point ∈ text) (before : Printer) =>
    continues_printPoint before point) printer.flush
  rwa [List.flatMap_singleton'] at points

theorem continues_print_print (printer : Printer) (first second : Text) :
    printer.flush.Continues (first ++ second) ((printer.print first).print second) := by
  have later := continues_print (printer.print first) second
  rw [flush_eq_self (pendingBreak_print first printer)] at later
  exact (continues_print printer first).append later

/-- To print a text comes to the same as to print its characters one by one, on a printer in any
state, and to print two texts comes to the same as to print them as one. -/
theorem print_alike_printPoints (printer : Printer) (text : Text) :
    (printer.print text).Alike (printer.printPoints text) ∧
      ∀ more, ((printer.print text).print more).Alike (printer.print (text ++ more)) := by
  constructor
  · exact (continues_print printer text).alike (continues_printPoints printer text)
  · intro more
    exact (continues_print_print printer text more).alike (continues_print printer (text ++ more))

/-- A carriage return and its line feed, cut apart between a line and the next. -/
example : let printer : Printer := { depth := 1 }
    ((printer.print "a\r").print "\nb").text = "    a\r\n    b" ∧
      (printer.printPoints "a\r\nb").text = "    a\r\n    b" := by decide

end ClassOutline.Printer
