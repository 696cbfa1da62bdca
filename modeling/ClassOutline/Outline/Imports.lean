import ClassOutline.Outline.Canvas

set_option autoImplicit false

/- The import block of a class. Each referenced class is imported by its outermost class, and a
nested one is then written as `Outer.Inner`. -/

namespace ClassOutline.Imports

def javaLang : Text := "java/lang"

/-- The outermost classes of some classes, by code point, each once. -/
def candidates (referenced : List Text) : List Text :=
  Text.sortedSet (referenced.map Names.outermost)

/-- Whether a class can be written without an import for another reason than its name: it has no
package, is the class itself, or lies in `java.lang` or in the same package. -/
def isVisible (thisClass : Text) (name : Text) : Bool :=
  !Names.hasPackage name || (!thisClass.isEmpty && name == Names.outermost thisClass) ||
    Names.package name == javaLang ||
    (Names.hasPackage thisClass && Names.package name == Names.package thisClass)

def line (name : Text) : Text :=
  "import " ++ Names.sourceName name ++ ";\n"

/-- Prints the import of a class if it needs one and its simple name is its own. The result tells
whether it did. -/
def drawOne (thisClass : Text) (name : Text) : Draw Bool := do
  if isVisible thisClass name then return false
  if (← Draw.lookup (SymbolTable.displayName name)) ≠ Names.simpleName name then return false
  Draw.print (line name)
  return true

/-- Prints the import lines and an empty line behind them, if there are any. An empty `thisClass`
stands for none. The result is the number of lines. -/
def draw (thisClass : Text) : Draw Nat := do
  let referenced ← Draw.lookup SymbolTable.referencedClasses
  let drawn ← (candidates referenced).mapM (drawOne thisClass)
  let count := drawn.count true
  if count ≠ 0 then Draw.print [0x0A]
  return count

end ClassOutline.Imports
