import ClassOutline.Proofs.Outline.Indentation

set_option autoImplicit false

namespace ClassOutline

namespace Text

theorem startsAfter_eq_true_iff {text : Text} :
    startsAfter true text = true ↔ text = [] ∨ text.getLast? = some 0x0A := by
  rcases List.eq_nil_or_concat text with rfl | ⟨front, last, rfl⟩
  · simp [startsAfter]
  · simp [startsAfter_concat]

theorem isEmpty_indentedFrom (spaces : Text) (atStart : Bool) (text : Text) :
    (indentedFrom spaces atStart text).isEmpty = text.isEmpty := by
  cases text with
  | nil => rfl
  | cons point rest => simp [indentedFrom]

theorem indentedFrom_lineFeed (spaces : Text) (atStart : Bool) :
    indentedFrom spaces atStart [0x0A] = [0x0A] := by
  simp [indentedFrom]

end Text

namespace Printer

open Text (indentedFrom startsAfter)

/-- A printer inside of blocks. What is done in front of each block comes first, and then the block
is entered. -/
def enter (printer : Printer) (outer : List (List Action)) : Printer :=
  outer.foldl (fun before actions => (before.performAll actions).indent) printer

theorem text_flush (printer : Printer) :
    printer.flush.text = printer.text ++ if printer.pendingBreak then [0x0A] else [] := by
  cases pending : printer.pendingBreak with
  | false => simp [flush, pending]
  | true =>
    simp only [flush, pending, if_true]
    exact text_write printer [0x0A]

/-- A printer that knows where it stands, inside of some blocks. -/
structure Oriented (opened : Nat) (printer : Printer) : Prop where
  atStart : printer.atStart = true ↔ printer.text = [] ∨ printer.text.getLast? = some 0x0A
  pending : printer.pendingBreak = true → printer.atStart = false
  empty : printer.empty = true ↔ printer.text = []
  depth : printer.depth = opened

variable {opened : Nat} {printer next : Printer} {added : Text}

theorem oriented_new : Oriented 0 {} where
  atStart := by decide
  pending := by decide
  empty := by decide
  depth := rfl

namespace Oriented

theorem atStart_eq (oriented : Oriented opened printer) :
    printer.atStart = startsAfter true printer.text :=
  Bool.eq_iff_iff.mpr (oriented.atStart.trans Text.startsAfter_eq_true_iff.symm)

theorem empty_eq (oriented : Oriented opened printer) : printer.empty = printer.text.isEmpty :=
  Bool.eq_iff_iff.mpr (oriented.empty.trans List.isEmpty_iff.symm)

theorem open_line (oriented : Oriented opened printer) (pending : printer.pendingBreak = true) :
    printer.text ≠ [] ∧ printer.text.getLast? ≠ some 0x0A := by
  have within : ¬(printer.text = [] ∨ printer.text.getLast? = some 0x0A) := by
    rw [← oriented.atStart, oriented.pending pending]
    exact Bool.false_ne_true
  exact not_or.mp within

theorem flush (oriented : Oriented opened printer) : Oriented opened printer.flush := by
  cases pending : printer.pendingBreak with
  | false =>
    rw [flush_eq_self pending]
    exact oriented
  | true =>
    have written : printer.flush.text = printer.text ++ [0x0A] := by
      rw [Printer.text_flush, pending, if_pos rfl]
    have used : printer.empty = false := by
      rw [oriented.empty_eq, List.isEmpty_eq_false_iff]
      exact (oriented.open_line pending).1
    exact {
      atStart := by
        rw [written, ← Text.startsAfter_eq_true_iff, Text.startsAfter_concat]
        simp [Printer.flush, pending]
      pending := by simp [pendingBreak_flush]
      empty := by
        rw [written]
        simp [Printer.flush, pending, write, used]
      depth := (depth_flush printer).trans oriented.depth }

theorem continues (oriented : Oriented opened printer) (noBreak : printer.pendingBreak = false)
    (printed : printer.Continues added next) : Oriented opened next where
  atStart := by
    rw [← Text.startsAfter_eq_true_iff, printed.text, printed.atStart, Text.startsAfter_append,
      ← oriented.atStart_eq, Text.startsAfter_indentedFrom]
  pending := by
    rw [printed.pendingBreak, noBreak]
    exact nofun
  empty := by
    rw [printed.empty, oriented.empty_eq, printed.text, Bool.and_eq_true, List.isEmpty_iff,
      ← Text.isEmpty_indentedFrom printer.indentation printer.atStart added, List.isEmpty_iff,
      List.append_eq_nil_iff]
  depth := printed.depth.trans oriented.depth

theorem print (oriented : Oriented opened printer) (text : Text) :
    Oriented opened (printer.print text) :=
  oriented.flush.continues (pendingBreak_flush printer) (continues_print printer text)

theorem softBreak (oriented : Oriented opened printer) : Oriented opened printer.softBreak := by
  cases begins : printer.atStart with
  | true =>
    rw [Printer.softBreak, if_pos begins]
    exact oriented
  | false =>
    rw [Printer.softBreak, if_neg (by rw [begins]; exact Bool.false_ne_true)]
    exact {
      atStart := oriented.atStart
      pending := fun _ => begins
      empty := oriented.empty
      depth := oriented.depth }

theorem dropBreak (oriented : Oriented opened printer) : Oriented opened printer.dropBreak where
  atStart := oriented.atStart
  pending := nofun
  empty := oriented.empty
  depth := oriented.depth

theorem freshLine (oriented : Oriented opened printer) : Oriented opened printer.freshLine := by
  rw [Printer.freshLine]
  split
  · exact oriented
  · exact oriented.softBreak.print [0x0A]

theorem indent (oriented : Oriented opened printer) : Oriented (opened + 1) printer.indent where
  atStart := oriented.atStart
  pending := oriented.pending
  empty := oriented.empty
  depth := congrArg (· + 1) oriented.depth

theorem dedent (oriented : Oriented (opened + 1) printer) : Oriented opened printer.dedent where
  atStart := oriented.atStart
  pending := oriented.pending
  empty := oriented.empty
  depth := congrArg (· - 1) oriented.depth

end Oriented

mutual

theorem oriented_perform {opened : Nat} {printer : Printer} (oriented : Oriented opened printer) :
    (action : Action) → Oriented opened (printer.perform action)
  | .print text => oriented.print text
  | .softBreak => oriented.softBreak
  | .dropBreak => oriented.dropBreak
  | .freshLine => oriented.freshLine
  | .flush => oriented.flush
  | .block body => (oriented_performAll oriented.indent body).dedent

theorem oriented_performAll {opened : Nat} {printer : Printer}
    (oriented : Oriented opened printer) :
    (actions : List Action) → Oriented opened (printer.performAll actions)
  | [] => oriented
  | action :: rest => oriented_performAll (oriented_perform oriented action) rest

end

theorem oriented_enter (oriented : Oriented opened printer) (outer : List (List Action)) :
    Oriented (opened + outer.length) (printer.enter outer) := by
  induction outer generalizing opened printer with
  | nil => exact oriented
  | cons actions rest ih =>
    rw [List.length_cons, Nat.add_comm rest.length, ← Nat.add_assoc]
    exact ih (oriented_performAll oriented actions).indent

theorem softBreak_softBreak (printer : Printer) :
    printer.softBreak.softBreak = printer.softBreak := by
  cases begins : printer.atStart <;> simp [softBreak, begins]

/-- Behind a soft break that was asked for, or not needed, a line begins. -/
theorem atStart_flush_softBreak (printer : Printer) : printer.softBreak.flush.atStart = true := by
  cases begins : printer.flush.atStart with
  | true => rwa [softBreak_eq_self begins]
  | false => rw [flush_softBreak begins]

/-- A fresh line has an empty one before it, unless it is the first. -/
theorem Oriented.text_freshLine (oriented : Oriented opened printer) :
    printer.freshLine.text = [] ∨ [0x0A, 0x0A] <:+ printer.freshLine.text := by
  cases unused : printer.empty with
  | true =>
    rw [Printer.freshLine, if_pos unused]
    exact Or.inl (oriented.empty.mp unused)
  | false =>
    have broken := oriented.softBreak.flush
    have used : printer.softBreak.flush.text ≠ [] := by
      intro nothing
      have still : printer.softBreak.flush.empty = printer.empty := by
        cases begins : printer.atStart <;> cases pending : printer.pendingBreak <;>
          simp [Printer.softBreak, Printer.flush, write, begins, pending]
      rw [← broken.empty, still, unused] at nothing
      cases nothing
    have ends := (broken.atStart.mp (atStart_flush_softBreak printer)).resolve_left used
    obtain ⟨front, written⟩ := List.getLast?_eq_some_iff.mp ends
    have printed := (continues_print printer.softBreak [0x0A]).text
    rw [Text.indentedFrom_lineFeed, written, List.append_assoc] at printed
    rw [Printer.freshLine, if_neg (by rw [unused]; exact Bool.false_ne_true), printed]
    exact Or.inr ⟨front, rfl⟩

/-- At any point of a run from a new printer, inside of any blocks, the printer knows whether a line
is open, whether anything was written, and how many blocks are open. A break is pending only within
a line, and what is written for it, by a flush or before a print, is one line feed that does not
stand behind another. To ask for a break twice is to ask once, and a fresh line has an empty one
before it unless it is the first. -/
theorem oriented_within (outer : List (List Action)) (actions : List Action) :
    let printer := (({} : Printer).enter outer).performAll actions
    let ending : Text := if printer.pendingBreak then [0x0A] else []
    printer.Oriented outer.length ∧
      (printer.pendingBreak = true → printer.text ≠ [] ∧ printer.text.getLast? ≠ some 0x0A) ∧
      printer.flush.text = printer.text ++ ending ∧
      (∀ text, (printer.print text).text = printer.text ++ ending ++
        indentedFrom printer.indentation printer.flush.atStart text) ∧
      printer.softBreak.softBreak = printer.softBreak ∧
      (printer.freshLine.text = [] ∨ [0x0A, 0x0A] <:+ printer.freshLine.text) := by
  intro printer ending
  have entered := oriented_enter oriented_new outer
  rw [Nat.zero_add] at entered
  have oriented : printer.Oriented outer.length := oriented_performAll entered actions
  refine ⟨oriented, oriented.open_line, text_flush printer, ?_, softBreak_softBreak printer,
    oriented.text_freshLine⟩
  intro text
  have indentation : printer.flush.indentation = printer.indentation := by
    rw [Printer.indentation, depth_flush, Printer.indentation]
  rw [(continues_print printer text).text, text_flush, indentation]

/-- Within a block, breaks that were asked for at the start of a line and behind an open one. -/
example :
    let printer := (({} : Printer).enter
      [[.print "a\n", .softBreak, .print "b", .softBreak]]).performAll
      [.softBreak, .print "c\r", .freshLine]
    printer.text = "a\nb\n    c\r\n\n" ∧ printer.depth = 1 := by decide

end Printer

end ClassOutline
