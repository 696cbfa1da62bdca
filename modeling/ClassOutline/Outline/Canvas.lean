import ClassOutline.Outline.LiteralText
import ClassOutline.Outline.Printer
import ClassOutline.Symbols.Table

set_option autoImplicit false

/- Drawing with a symbol table at hand. What was drawn before a failure stays, and every block that
it leaves is closed. -/

namespace ClassOutline

structure Canvas where
  symbols : SymbolTable
  printer : Printer := {}
deriving Repr

inductive DrawFault
  | symbol (error : DecodeError)
  | literal (fault : LiteralFault)
  | tooDeep
deriving DecidableEq, Repr

abbrev Draw := ExceptT DrawFault (StateM Canvas)

namespace Draw

def lookup {α : Type} (search : Lookup α) : Draw α :=
  ExceptT.mk fun canvas =>
    let (result, symbols) := search.run canvas.symbols
    (result.mapError .symbol, { canvas with symbols })

def change (step : Printer → Printer) : Draw Unit :=
  modify fun canvas => { canvas with printer := step canvas.printer }

def print (text : Text) : Draw Unit :=
  change (·.print text)

def indented (body : Draw Unit) : Draw Unit :=
  ExceptT.mk fun canvas =>
    let (result, inner) := body.run { canvas with printer := canvas.printer.indent }
    (result, { inner with printer := inner.printer.dedent })

end Draw

end ClassOutline
