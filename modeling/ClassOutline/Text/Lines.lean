import ClassOutline.Text.Basic

set_option autoImplicit false

namespace ClassOutline.Text

/-- Line feed, vertical tab, form feed, carriage return, the three separators, next line, line
separator and paragraph separator. -/
def isLineBoundary (point : CodePoint) : Bool :=
  (0x0A ≤ point && point ≤ 0x0D) || (0x1C ≤ point && point ≤ 0x1E) ||
    point == 0x85 || point == 0x2028 || point == 0x2029

def extendFirst (point : CodePoint) : List Text → List Text
  | [] => [[point]]
  | line :: lines => (point :: line) :: lines

/-- The lines of a text, each with the boundary that ends it; no line is empty. -/
def lines : Text → List Text
  | [] => []
  | point :: rest =>
    if isLineBoundary point && !(point == 0x0D && rest.head? == some 0x0A) then
      [point] :: lines rest
    else
      extendFirst point (lines rest)

theorem flatten_extendFirst (point : CodePoint) (rows : List Text) :
    (extendFirst point rows).flatten = point :: rows.flatten := by
  cases rows <;> rfl

/-- Cutting loses nothing. -/
theorem flatten_lines (text : Text) : (lines text).flatten = text := by
  induction text with
  | nil => rfl
  | cons point rest ih =>
    rw [lines]
    split
    · simp [ih]
    · simp [flatten_extendFirst, ih]

end ClassOutline.Text
