import ClassOutline.Outline.Printer

set_option autoImplicit false

namespace ClassOutline

namespace Printer

/-- What can be asked of a printer. The actions of a block are done one level deeper. -/
inductive Action
  | print (text : Text)
  | softBreak
  | dropBreak
  | freshLine
  | flush
  | block (body : List Action)

mutual

def perform (printer : Printer) : Action → Printer
  | .print text => printer.print text
  | .softBreak => printer.softBreak
  | .dropBreak => printer.dropBreak
  | .freshLine => printer.freshLine
  | .flush => printer.flush
  | .block body => (performAll printer.indent body).dedent

def performAll (printer : Printer) : List Action → Printer
  | [] => printer
  | action :: rest => performAll (printer.perform action) rest

end

theorem performAll_append (printer : Printer) (first second : List Action) :
    printer.performAll (first ++ second) = (printer.performAll first).performAll second := by
  induction first generalizing printer with
  | nil => simp only [List.nil_append, performAll]
  | cons action rest ih => simp only [List.cons_append, performAll, ih]

/-- A printer with other pieces written before its own. -/
def behind (front : Array Text) (printer : Printer) : Printer :=
  { printer with writes := front ++ printer.writes, empty := false }

section

variable (front : Array Text) (printer : Printer)

@[simp] theorem text_behind :
    (printer.behind front).text = front.toList.flatten ++ printer.text := by
  simp only [text, behind, Array.toList_append, List.flatten_append]

theorem flush_behind : (printer.behind front).flush = printer.flush.behind front := by
  by_cases pending : printer.pendingBreak <;>
    simp [flush, write, behind, pending]

theorem printLine_behind (line : Text) :
    (printer.behind front).printLine line = (printer.printLine line).behind front := by
  by_cases indented : printer.atStart && line != [0x0A] <;>
    simp [printLine, write, behind, indentation, indented]

theorem foldl_printLine_behind (lines : List Text) :
    lines.foldl printLine (printer.behind front) =
      (lines.foldl printLine printer).behind front := by
  induction lines generalizing printer with
  | nil => rfl
  | cons line rest ih => simp only [List.foldl_cons, printLine_behind, ih]

theorem print_behind (text : Text) :
    (printer.behind front).print text = (printer.print text).behind front := by
  simp only [print, flush_behind, foldl_printLine_behind]

theorem softBreak_behind : (printer.behind front).softBreak = printer.softBreak.behind front := by
  by_cases start : printer.atStart <;> simp [softBreak, behind, start]

end

def Started (printer : Printer) : Prop :=
  printer.empty = false

theorem started_behind (front : Array Text) (printer : Printer) :
    (printer.behind front).Started := rfl

theorem Started.behind_nothing {printer : Printer} (started : printer.Started) :
    printer.behind #[] = printer := by
  unfold Started at started
  simp only [behind, Array.empty_append, ← started]

theorem freshLine_behind {printer : Printer} (started : printer.Started) (front : Array Text) :
    (printer.behind front).freshLine = printer.freshLine.behind front := by
  unfold Started at started
  have printed : (printer.behind front).empty = false := rfl
  simp [freshLine, started, printed, softBreak_behind, print_behind]

mutual

theorem perform_behind {printer : Printer} (started : printer.Started) (front : Array Text) :
    (action : Action) →
      (printer.behind front).perform action = (printer.perform action).behind front
  | .print text => print_behind front printer text
  | .softBreak => softBreak_behind front printer
  | .dropBreak => rfl
  | .freshLine => freshLine_behind started front
  | .flush => flush_behind front printer
  | .block body => by
    have deeper : (printer.behind front).indent = printer.indent.behind front := rfl
    have inner : printer.indent.Started := started
    simp only [perform, deeper, performAll_behind inner front body]
    rfl

theorem performAll_behind {printer : Printer} (started : printer.Started) (front : Array Text) :
    (actions : List Action) →
      (printer.behind front).performAll actions = (printer.performAll actions).behind front
  | [] => rfl
  | action :: rest => by
    -- Behind nothing a printer is itself, so the action is done behind nothing as well.
    have still : (printer.perform action).Started := by
      rw [← started.behind_nothing, perform_behind started #[] action]
      exact started_behind #[] _
    simp only [performAll, perform_behind started front action, performAll_behind still front rest]

end

@[simp] theorem depth_flush (printer : Printer) : printer.flush.depth = printer.depth := by
  by_cases pending : printer.pendingBreak <;> simp [flush, write, pending]

@[simp] theorem depth_printLine (printer : Printer) (line : Text) :
    (printer.printLine line).depth = printer.depth := by
  by_cases indented : printer.atStart && line != [0x0A] <;> simp [printLine, write, indented]

@[simp] theorem depth_foldl_printLine (printer : Printer) (lines : List Text) :
    (lines.foldl printLine printer).depth = printer.depth := by
  induction lines generalizing printer with
  | nil => rfl
  | cons line rest ih => simp only [List.foldl_cons, ih, depth_printLine]

@[simp] theorem depth_print (printer : Printer) (text : Text) :
    (printer.print text).depth = printer.depth := by
  simp only [print, depth_foldl_printLine, depth_flush]

@[simp] theorem depth_softBreak (printer : Printer) :
    printer.softBreak.depth = printer.depth := by
  by_cases start : printer.atStart <;> simp [softBreak, start]

@[simp] theorem depth_freshLine (printer : Printer) :
    printer.freshLine.depth = printer.depth := by
  by_cases blank : printer.empty <;> simp [freshLine, blank]

mutual

theorem depth_perform (printer : Printer) :
    (action : Action) → (printer.perform action).depth = printer.depth
  | .print text => depth_print printer text
  | .softBreak => depth_softBreak printer
  | .dropBreak => rfl
  | .freshLine => depth_freshLine printer
  | .flush => depth_flush printer
  | .block body => by
    have inner := depth_performAll printer.indent body
    show (printer.indent.performAll body).depth - 1 = printer.depth
    rw [inner]
    exact Nat.add_sub_cancel printer.depth 1

theorem depth_performAll (printer : Printer) :
    (actions : List Action) → (printer.performAll actions).depth = printer.depth
  | [] => rfl
  | action :: rest => by
    simp only [performAll, depth_performAll (printer.perform action) rest,
      depth_perform printer action]

end

section

variable (printer : Printer)

theorem prefix_flush : printer.writes.toList <+: printer.flush.writes.toList := by
  by_cases pending : printer.pendingBreak <;> simp [flush, write, pending]

theorem prefix_printLine (line : Text) :
    printer.writes.toList <+: (printer.printLine line).writes.toList := by
  by_cases indented : printer.atStart && line != [0x0A] <;> simp [printLine, write, indented]

theorem prefix_foldl_printLine (lines : List Text) :
    printer.writes.toList <+: (lines.foldl printLine printer).writes.toList := by
  induction lines generalizing printer with
  | nil => exact List.prefix_rfl
  | cons line rest ih => exact (prefix_printLine printer line).trans (ih (printer.printLine line))

theorem prefix_print (text : Text) :
    printer.writes.toList <+: (printer.print text).writes.toList :=
  (prefix_flush printer).trans (prefix_foldl_printLine printer.flush (Text.lines text))

theorem prefix_softBreak : printer.writes.toList <+: printer.softBreak.writes.toList := by
  by_cases start : printer.atStart <;> simp [softBreak, start]

theorem prefix_freshLine : printer.writes.toList <+: printer.freshLine.writes.toList := by
  have printed := (prefix_softBreak printer).trans (prefix_print printer.softBreak [0x0A])
  by_cases blank : printer.empty <;> simp [freshLine, blank, printed]

end

mutual

theorem prefix_perform (printer : Printer) :
    (action : Action) → printer.writes.toList <+: (printer.perform action).writes.toList
  | .print text => prefix_print printer text
  | .softBreak => prefix_softBreak printer
  | .dropBreak => List.prefix_rfl
  | .freshLine => prefix_freshLine printer
  | .flush => prefix_flush printer
  | .block body => prefix_performAll printer.indent body

/-- A script writes behind what was written before it. -/
theorem prefix_performAll (printer : Printer) :
    (actions : List Action) →
      printer.writes.toList <+: (printer.performAll actions).writes.toList
  | [] => List.prefix_rfl
  | action :: rest =>
    (prefix_perform printer action).trans (prefix_performAll (printer.perform action) rest)

end

/-- At the start of a line, with no break asked for. -/
structure Settled (printer : Printer) : Prop where
  atStart : printer.atStart = true
  noBreak : printer.pendingBreak = false

theorem pendingBreak_flush (printer : Printer) : printer.flush.pendingBreak = false := by
  by_cases pending : printer.pendingBreak <;> simp [flush, pending]

theorem settled_printLine {printer : Printer} (noBreak : printer.pendingBreak = false)
    {line : Text} (ends : line.getLast? = some 0x0A) : (printer.printLine line).Settled where
  atStart := by simp only [printLine, ends, beq_self_eq_true]
  noBreak := by
    by_cases indented : printer.atStart && line != [0x0A] <;>
      simp [printLine, write, indented, noBreak]

theorem settled_print {line : Text} (single : Text.lines line = [line])
    (ends : line.getLast? = some 0x0A) (printer : Printer) : (printer.print line).Settled := by
  simp only [print, single, List.foldl_cons, List.foldl_nil]
  exact settled_printLine (pendingBreak_flush printer) ends

end Printer

end ClassOutline
