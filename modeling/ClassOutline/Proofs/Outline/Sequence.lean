import ClassOutline.Proofs.Outline.Drawing
import ClassOutline.Proofs.Text.Order

set_option autoImplicit false

namespace ClassOutline.Printer

open Declaration (opening)

/-- A printer that shows some texts, one behind the other, and is ready for the next. Every text
starts with a comment. -/
structure Shows (printer : Printer) (texts : List Text) : Prop where
  settled : printer.Settled
  depth : printer.depth = 0
  text : printer.text = Text.joined [0x0A] texts
  fresh : texts = [] → printer = {}
  started : texts ≠ [] → printer.Started
  comment : texts ≠ [] → printer.text.head? = some 0x2F

theorem shows_nothing : Shows {} [] where
  settled := ⟨rfl, rfl⟩
  depth := rfl
  text := rfl
  fresh := fun _ => rfl
  started := fun some_text => absurd rfl some_text
  comment := fun some_text => absurd rfl some_text

/-- A printer on which only the opening stands. -/
theorem performAll_opening_new :
    ({} : Printer).performAll opening = { writes := #[[], "// Imports\n"], empty := false } := by
  decide

/-- On a printer in use an empty line comes first. -/
theorem performAll_opening {printer : Printer} (settled : printer.Settled)
    (top : printer.depth = 0) (started : printer.Started) :
    printer.performAll opening =
      (({} : Printer).performAll opening).behind (printer.writes.push [0x0A]) := by
  obtain ⟨writes, atStart, pendingBreak, depth, empty⟩ := printer
  obtain ⟨start, noBreak⟩ := settled
  dsimp only at start noBreak top
  unfold Started at started
  dsimp only at started
  subst start noBreak top started
  have line : Text.lines [0x0A] = [[0x0A]] := by decide
  have comment : Text.lines "// Imports\n" = [Text.ofString "// Imports\n"] := by decide
  have longer : Text.ofString "// Imports\n" ≠ [0x0A] := by decide
  have ends : (Text.ofString "// Imports\n").getLast? = some 0x0A := by decide
  have pieces : ((writes.push [0x0A]).push []).push (Text.ofString "// Imports\n") =
      writes ++ #[[0x0A], [], Text.ofString "// Imports\n"] := by
    simp only [← Array.toList_inj, Array.toList_push, Array.toList_append, List.append_assoc,
      List.cons_append, List.nil_append]
  rw [performAll_opening_new]
  simpa [opening, performAll, perform, freshLine, softBreak, print, flush, line, comment,
    printLine, write, behind, indentation, longer, ends] using pieces

section

variable (actions : List Action)

def alone : Printer :=
  ({} : Printer).performAll (opening ++ actions)

theorem alone_eq_behind :
    alone actions =
      (performAll { empty := false } actions).behind #[[], "// Imports\n"] := by
  have started : ({ empty := false } : Printer).Started := rfl
  rw [alone, performAll_append, performAll_opening_new, ← performAll_behind started]
  rfl

theorem started_alone : (alone actions).Started := by
  rw [alone_eq_behind]
  exact started_behind _ _

theorem depth_alone : (alone actions).depth = 0 :=
  depth_performAll {} (opening ++ actions)

theorem head_text_alone : (alone actions).text.head? = some 0x2F := by
  rw [alone_eq_behind, text_behind]
  rfl

theorem performAll_opening_append {printer : Printer} (settled : printer.Settled)
    (top : printer.depth = 0) (started : printer.Started) :
    printer.performAll (opening ++ actions) =
      (alone actions).behind (printer.writes.push [0x0A]) := by
  have opened : (({} : Printer).performAll opening).Started := by
    rw [performAll_opening_new]
    rfl
  rw [performAll_append, performAll_opening settled top started, performAll_behind opened,
    ← performAll_append, alone]

end

/-- A class that is drawn shows what it shows on a printer of its own. -/
theorem Shows.drawn {printer : Printer} {texts : List Text} (before : printer.Shows texts)
    {actions : List Action} (settles : (alone actions).Settled) :
    (printer.performAll (opening ++ actions)).Shows (texts ++ [(alone actions).text]) := by
  cases texts with
  | nil =>
    rw [before.fresh rfl]
    exact {
      settled := settles
      depth := depth_alone actions
      text := rfl
      fresh := nofun
      started := fun _ => started_alone actions
      comment := fun _ => head_text_alone actions }
  | cons first rest =>
    have used : first :: rest ≠ [] := List.cons_ne_nil first rest
    have shown := before.text
    have comment := before.comment used
    rw [performAll_opening_append actions before.settled before.depth (before.started used)]
    have text : ((alone actions).behind (printer.writes.push [0x0A])).text =
        printer.text ++ [0x0A] ++ (alone actions).text := by
      rw [text_behind, Array.toList_push, List.flatten_append, List.flatten_singleton]
      rfl
    exact {
      settled := ⟨settles.atStart, settles.noBreak⟩
      depth := depth_alone actions
      text := by rw [text, shown, Text.joined_concat]
      fresh := nofun
      started := fun _ => started_behind _ _
      comment := fun _ => by
        rw [text, List.append_assoc, List.head?_append, comment, Option.some_or] }

end ClassOutline.Printer
