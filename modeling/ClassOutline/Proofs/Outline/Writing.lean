import ClassOutline.Outline.Canvas
import ClassOutline.Proofs.Outline.Indentation
import ClassOutline.Proofs.Symbols.Shortening

set_option autoImplicit false

namespace ClassOutline

open Printer (Action Writes)
open Text (startsAfter)

variable {α β : Type} {pool : ConstantPool} {marked : List Text}

/-- Over each table of a pool with some marked names a drawing has one result, leaves such a table
behind, and does to every printer what a script does. -/
def Draw.Plays (pool : ConstantPool) (marked : List Text) (drawing : Draw α)
    (result : Except DrawFault α) (script : List Action) : Prop :=
  ∀ symbols : SymbolTable, symbols.Holds pool marked → ∃ next : SymbolTable,
    next.Holds pool marked ∧ ∀ printer, drawing.run { symbols, printer } =
      (result, { symbols := next, printer := printer.performAll script })

namespace Draw.Plays

theorem pure (value : α) : Plays pool marked (Pure.pure value) (.ok value) [] :=
  fun symbols holds => ⟨symbols, holds, fun _ => rfl⟩

theorem throw (fault : DrawFault) :
    Plays pool marked (MonadExcept.throw fault : Draw α) (.error fault) [] :=
  fun symbols holds => ⟨symbols, holds, fun _ => rfl⟩

theorem change (action : Action) :
    Plays pool marked (Draw.change (·.perform action)) (.ok ()) [action] :=
  fun symbols holds => ⟨symbols, holds, fun _ => rfl⟩

theorem print (text : Text) : Plays pool marked (Draw.print text) (.ok ()) [.print text] :=
  change (.print text)

theorem lookup {search : Lookup α} {value : α} (answers : search.Answers pool marked value) :
    Plays pool marked (Draw.lookup search) (.ok value) [] := by
  intro symbols holds
  obtain ⟨next, success, kept⟩ := answers symbols holds
  refine ⟨next, kept, fun printer => ?_⟩
  show ((search.run symbols).1.mapError DrawFault.symbol,
    Canvas.mk (search.run symbols).2 printer) = _
  rw [success]
  rfl

theorem bind {first : Draw α} {rest : α → Draw β} {value : α} {result : Except DrawFault β}
    {script later : List Action} (here : Plays pool marked first (.ok value) script)
    (others : Plays pool marked (rest value) result later) :
    Plays pool marked (first >>= rest) result (script ++ later) := by
  intro symbols holds
  obtain ⟨next, kept, run⟩ := here symbols holds
  obtain ⟨last, keptToo, runToo⟩ := others next kept
  refine ⟨last, keptToo, fun printer => ?_⟩
  rw [run_bind_of_ok (run printer), runToo, Printer.performAll_append]

/-- A lookup does nothing to a printer. -/
theorem lookup_bind {search : Lookup α} {rest : α → Draw β} {value : α}
    {result : Except DrawFault β} {script : List Action}
    (answers : search.Answers pool marked value)
    (others : Plays pool marked (rest value) result script) :
    Plays pool marked (Draw.lookup search >>= rest) result script :=
  (lookup answers).bind others

theorem print_bind {text : Text} {rest : Unit → Draw β} {result : Except DrawFault β}
    {script : List Action} (others : Plays pool marked (rest ()) result script) :
    Plays pool marked (Draw.print text >>= rest) result (.print text :: script) :=
  (print text).bind others

theorem bind_error {first : Draw α} {fault : DrawFault} {script : List Action}
    (here : Plays pool marked first (.error fault) script) (rest : α → Draw β) :
    Plays pool marked (first >>= rest) (.error fault) script := by
  intro symbols holds
  obtain ⟨next, kept, run⟩ := here symbols holds
  exact ⟨next, kept, fun printer => run_bind_of_error (run printer) rest⟩

theorem indented {body : Draw Unit} {result : Except DrawFault Unit} {script : List Action}
    (here : Plays pool marked body result script) :
    Plays pool marked (Draw.indented body) result [.block script] := by
  intro symbols holds
  obtain ⟨next, kept, run⟩ := here symbols holds
  refine ⟨next, kept, fun printer => ?_⟩
  show ((body.run ⟨symbols, printer.indent⟩).1,
    Canvas.mk (body.run ⟨symbols, printer.indent⟩).2.symbols
      (body.run ⟨symbols, printer.indent⟩).2.printer.dedent) = _
  rw [run]
  rfl

theorem forM {items : List α} {body : α → Draw Unit} {script : α → List Action}
    (each : ∀ item ∈ items, Plays pool marked (body item) (.ok ()) (script item)) :
    Plays pool marked (items.forM body) (.ok ()) (items.flatMap script) := by
  induction items with
  | nil => exact pure ()
  | cons item rest ih =>
    have later := ih fun other present => each other (List.mem_cons_of_mem item present)
    exact (each item List.mem_cons_self).bind later

end Draw.Plays

/-- What a drawing does behind some first actions comes to whole lines: at the start of a line it
writes a text and ends at the start of a line. -/
def Draw.Renders (pool : ConstantPool) (marked : List Text) (lead : List Action) (drawing : Draw α)
    (result : Except DrawFault α) (text : Text) : Prop :=
  ∃ script, Plays pool marked drawing result (lead ++ script) ∧ Writes true script text ∧
    startsAfter true text = true

namespace Draw.Renders

variable {lead : List Action}

theorem silent {drawing : Draw α} {result : Except DrawFault α}
    (plays : Plays pool marked drawing result []) : Renders pool marked [] drawing result [] :=
  ⟨[], plays, Writes.nil, rfl⟩

theorem pure (value : α) : Renders pool marked [] (Pure.pure value) (.ok value) [] :=
  silent (Plays.pure value)

theorem lookup {search : Lookup α} {value : α} (answers : search.Answers pool marked value) :
    Renders pool marked [] (Draw.lookup search) (.ok value) [] :=
  silent (Plays.lookup answers)

theorem print {text : Text} (ends : startsAfter true text = true) :
    Renders pool marked [] (Draw.print text) (.ok ()) text :=
  ⟨[.print text], Plays.print text, Writes.print text, ends⟩

/-- A text whose last part ends a line. -/
theorem print_append {line : Text} (ends : ∀ atStart, startsAfter atStart line = true)
    (front : Text) :
    Renders pool marked [] (Draw.print (front ++ line)) (.ok ()) (front ++ line) := by
  apply print
  rw [Text.startsAfter_append, ends]

theorem prints {drawing : Draw Unit} {first : Text} {rest : List Text}
    (plays : Plays pool marked drawing (.ok ()) ((first :: rest).map .print ++ [.dropBreak]))
    (ends : startsAfter true (first :: rest).flatten = true) :
    Renders pool marked [] drawing (.ok ()) (first :: rest).flatten :=
  ⟨_, plays, Writes.prints_dropBreak first rest, ends⟩

theorem softBreak : Renders pool marked [] (Draw.change Printer.softBreak) (.ok ()) [] :=
  ⟨[.softBreak], Plays.change .softBreak, Writes.softBreak_atStart, rfl⟩

theorem bind {first : Draw α} {rest : α → Draw β} {value : α} {result : Except DrawFault β}
    {front back : Text} (here : Renders pool marked lead first (.ok value) front)
    (others : Renders pool marked [] (rest value) result back) :
    Renders pool marked lead (first >>= rest) result (front ++ back) := by
  obtain ⟨script, plays, writes, ends⟩ := here
  obtain ⟨later, playsToo, writesToo, endsToo⟩ := others
  refine ⟨script ++ later, ?_, ?_, ?_⟩
  · rw [← List.append_assoc]
    exact plays.bind playsToo
  · exact writes.append ends writesToo
  · rw [Text.startsAfter_append, ends, endsToo]

theorem andThen {first : Draw α} {second : Draw β} {value : α} {result : Except DrawFault β}
    {front back : Text} (here : Renders pool marked lead first (.ok value) front)
    (later : Renders pool marked [] second result back) :
    Renders pool marked lead (first >>= fun _ => second) result (front ++ back) :=
  here.bind later

theorem change_bind {action : Action} {rest : Unit → Draw β} {result : Except DrawFault β}
    {text : Text} (later : Renders pool marked [] (rest ()) result text) :
    Renders pool marked [action] (Draw.change (·.perform action) >>= rest) result text := by
  obtain ⟨script, plays, written⟩ := later
  exact ⟨script, (Plays.change action).bind plays, written⟩

theorem bind_pure {first : Draw α} {value : α} {text : Text}
    (here : Renders pool marked lead first (.ok value) text) (convert : α → β) :
    Renders pool marked lead (first >>= fun value => Pure.pure (convert value))
      (.ok (convert value)) text := by
  rw [← List.append_nil text]
  apply here.bind
  exact pure (convert value)

theorem lookup_bind {search : Lookup α} {rest : α → Draw β} {value : α}
    {result : Except DrawFault β} {text : Text} (answers : search.Answers pool marked value)
    (others : Renders pool marked [] (rest value) result text) :
    Renders pool marked [] (Draw.lookup search >>= rest) result text :=
  (lookup answers).bind others

theorem indented {body : Draw Unit} {result : Except DrawFault Unit} {text : Text}
    (here : Renders pool marked [] body result text) :
    Renders pool marked [] (Draw.indented body) result (Text.indented text) := by
  obtain ⟨script, plays, writes, ends⟩ := here
  refine ⟨[.block script], plays.indented, writes.block, ?_⟩
  rw [Text.indented, Text.startsAfter_indentedFrom, ends]

theorem mapM {items : List α} {body : α → Draw β} {value : α → β} {text : α → Text}
    (each : ∀ item ∈ items, Renders pool marked [] (body item) (.ok (value item)) (text item)) :
    Renders pool marked [] (items.mapM body) (.ok (items.map value)) (items.flatMap text) := by
  induction items with
  | nil => exact pure []
  | cons item rest ih =>
    have later := ih fun other present => each other (List.mem_cons_of_mem item present)
    rw [List.mapM_cons]
    exact (each item List.mem_cons_self).bind (later.bind_pure (value item :: ·))

theorem forM {items : List α} {body : α → Draw Unit} {text : α → Text}
    (each : ∀ item ∈ items, Renders pool marked [] (body item) (.ok ()) (text item)) :
    Renders pool marked [] (items.forM body) (.ok ()) (items.flatMap text) := by
  induction items with
  | nil => exact pure ()
  | cons item rest ih =>
    have later := ih fun other present => each other (List.mem_cons_of_mem item present)
    exact (each item List.mem_cons_self).bind later

end Draw.Renders

/-- A drawing in whole lines that keeps no break back at its end. -/
def Draw.Delivers (pool : ConstantPool) (marked : List Text) (lead : List Action) (drawing : Draw α)
    (result : Except DrawFault α) (text : Text) : Prop :=
  ∃ script, Plays pool marked drawing result (lead ++ script) ∧ Writes true script text ∧
    startsAfter true text = true ∧
    ∀ printer : Printer, (printer.performAll script).pendingBreak = false

namespace Draw.Delivers

variable {lead : List Action} {result : Except DrawFault β}

theorem prints {drawing : Draw β} {first : Text} {rest : List Text}
    (plays : Plays pool marked drawing result ((first :: rest).map .print))
    (ends : startsAfter true (first :: rest).flatten = true) :
    Delivers pool marked [] drawing result (first :: rest).flatten :=
  ⟨_, plays, Writes.prints (first :: rest), ends, Writes.pendingBreak_prints first rest⟩

theorem print {text : Text} (ends : startsAfter true text = true) :
    Delivers pool marked [] (Draw.print text) (.ok ()) text :=
  ⟨[.print text], Plays.print text, Writes.print text, ends, Writes.pendingBreak_prints text []⟩

/-- What comes first may leave a break, which is written before what comes behind it. -/
theorem behind {first : Draw α} {rest : α → Draw β} {value : α} {front back : Text}
    (others : Delivers pool marked [] (rest value) result back)
    (here : Renders pool marked lead first (.ok value) front) :
    Delivers pool marked lead (first >>= rest) result (front ++ back) := by
  obtain ⟨script, plays, writes, ends⟩ := here
  obtain ⟨later, playsToo, writesToo, endsToo, noBreak⟩ := others
  refine ⟨script ++ later, ?_, writes.append ends writesToo, ?_, ?_⟩
  · rw [← List.append_assoc]
    exact plays.bind playsToo
  · rw [Text.startsAfter_append, ends, endsToo]
  · intro printer
    rw [Printer.performAll_append]
    exact noBreak (printer.performAll script)

theorem bind_error {first : Draw α} {fault : DrawFault} {text : Text}
    (here : Delivers pool marked lead first (.error fault) text) (rest : α → Draw β) :
    Delivers pool marked lead (first >>= rest) (.error fault) text := by
  obtain ⟨script, plays, written⟩ := here
  exact ⟨script, plays.bind_error rest, written⟩

theorem indented {body : Draw Unit} {result : Except DrawFault Unit} {text : Text}
    (here : Delivers pool marked [] body result text) :
    Delivers pool marked [] (Draw.indented body) result (Text.indented text) := by
  obtain ⟨script, plays, writes, ends, noBreak⟩ := here
  refine ⟨[.block script], plays.indented, writes.block, ?_, ?_⟩
  · rw [Text.indented, Text.startsAfter_indentedFrom, ends]
  · intro printer
    exact noBreak printer.indent

/-- On a new printer there is a fresh line, and what is delivered behind it is all that is there. -/
theorem run_new {drawing : Draw α} {result : Except DrawFault α} {text : Text}
    (here : Delivers pool marked [.freshLine] drawing result text) {symbols : SymbolTable}
    (holds : symbols.Holds pool marked) :
    ∃ next : Canvas, drawing.run { symbols } = (result, next) ∧ next.printer.text = text := by
  obtain ⟨script, plays, writes, -, noBreak⟩ := here
  obtain ⟨next, -, run⟩ := plays symbols holds
  refine ⟨_, run {}, ?_⟩
  have written := (writes {} rfl).1
  rw [Printer.flush_eq_self (noBreak {}), Printer.flush_eq_self rfl] at written
  exact written.trans (Text.indentedFrom_nil true text)

end Draw.Delivers

end ClassOutline
