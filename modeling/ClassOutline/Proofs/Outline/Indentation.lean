import ClassOutline.Proofs.Outline.Script

set_option autoImplicit false

namespace ClassOutline

namespace Text

/-- Spaces before each character that begins a line, except before a line feed. -/
def indentedFrom (spaces : Text) (atStart : Bool) : Text → Text
  | [] => []
  | point :: rest =>
    (if atStart && point != 0x0A then spaces else []) ++
      point :: indentedFrom spaces (point == 0x0A) rest

def indented (text : Text) : Text :=
  indentedFrom (List.replicate 4 0x20) true text

/-- Whether a character behind a text begins a line. -/
def startsAfter (atStart : Bool) : Text → Bool
  | [] => atStart
  | point :: rest => startsAfter (point == 0x0A) rest

section

variable (spaces : Text) (atStart : Bool)

theorem startsAfter_append (first second : Text) :
    startsAfter atStart (first ++ second) = startsAfter (startsAfter atStart first) second := by
  induction first generalizing atStart with
  | nil => rfl
  | cons point rest ih => exact ih (point == 0x0A)

theorem startsAfter_concat (front : Text) (point : CodePoint) :
    startsAfter atStart (front ++ [point]) = (point == 0x0A) := by
  rw [startsAfter_append]
  rfl

theorem startsAfter_flatMap {α : Type} {items : List α} {text : α → Text}
    (ends : ∀ item ∈ items, startsAfter true (text item) = true) :
    startsAfter true (items.flatMap text) = true := by
  induction items with
  | nil => rfl
  | cons item rest ih =>
    rw [List.flatMap_cons, startsAfter_append, ends item List.mem_cons_self]
    exact ih fun other present => ends other (List.mem_cons_of_mem item present)

theorem indentedFrom_append (first second : Text) :
    indentedFrom spaces atStart (first ++ second) =
      indentedFrom spaces atStart first ++
        indentedFrom spaces (startsAfter atStart first) second := by
  induction first generalizing atStart with
  | nil => rfl
  | cons point rest ih =>
    simp only [List.cons_append, indentedFrom, startsAfter, ih, List.append_assoc]

theorem indentedFrom_nil (text : Text) : indentedFrom [] atStart text = text := by
  induction text generalizing atStart with
  | nil => rfl
  | cons point rest ih => simp only [indentedFrom, ih, ite_self, List.nil_append]

/-- Within a line nothing is put in. -/
theorem indentedFrom_within {text : Text} (oneLine : 0x0A ∉ text.dropLast) :
    indentedFrom spaces false text = text := by
  induction text with
  | nil => rfl
  | cons point rest ih =>
    cases rest with
    | nil => rfl
    | cons next later =>
      rw [List.dropLast_cons_cons, List.mem_cons, not_or] at oneLine
      have goesOn : (point == 0x0A) = false := beq_false_of_ne (Ne.symm oneLine.1)
      rw [indentedFrom, goesOn, ih oneLine.2]
      rfl

theorem indentedFrom_line {line : Text} (nonempty : line ≠ []) (oneLine : 0x0A ∉ line.dropLast) :
    indentedFrom spaces atStart line =
      (if atStart && line != [0x0A] then spaces else []) ++ line := by
  cases line with
  | nil => exact absurd rfl nonempty
  | cons point rest =>
    cases rest with
    | nil => simp [indentedFrom]
    | cons next later =>
      rw [List.dropLast_cons_cons, List.mem_cons, not_or] at oneLine
      have goesOn : (point == 0x0A) = false := beq_false_of_ne (Ne.symm oneLine.1)
      have longer : (point :: next :: later != [0x0A]) = true := by simp
      rw [indentedFrom, goesOn, indentedFrom_within spaces oneLine.2, longer, bne, goesOn]
      rfl

theorem startsAfter_eq_false {text : Text} (oneLine : 0x0A ∉ text) :
    startsAfter false text = false := by
  induction text with
  | nil => rfl
  | cons point rest ih =>
    rw [List.mem_cons, not_or] at oneLine
    rw [startsAfter, beq_false_of_ne (Ne.symm oneLine.1), ih oneLine.2]

/-- Spaces that were put before a character stay together with it. -/
theorem indentedFrom_spaces_append {inner : Text} (blank : 0x0A ∉ inner) {point : CodePoint}
    (visible : (point == 0x0A) = false) (rest : Text) :
    indentedFrom spaces true (inner ++ point :: rest) =
      spaces ++ inner ++ point :: indentedFrom spaces false rest := by
  cases inner with
  | nil => simp [indentedFrom, bne, visible]
  | cons space more =>
    rw [List.mem_cons, not_or] at blank
    have goesOn : (space == 0x0A) = false := beq_false_of_ne (Ne.symm blank.1)
    have within : 0x0A ∉ more.dropLast := fun present =>
      blank.2 (List.dropLast_subset more present)
    simp only [List.cons_append, indentedFrom, indentedFrom_append, goesOn, bne, visible,
      indentedFrom_within spaces within, startsAfter_eq_false blank.2, Bool.not_false,
      Bool.and_self, Bool.false_and, Bool.false_eq_true, ↓reduceIte, List.nil_append,
      List.append_assoc]

/-- A level within another is one level as deep as both. -/
theorem indentedFrom_indentedFrom {inner : Text} (blank : 0x0A ∉ inner) (text : Text) :
    indentedFrom spaces atStart (indentedFrom inner atStart text) =
      indentedFrom (spaces ++ inner) atStart text := by
  induction text generalizing atStart with
  | nil => rfl
  | cons point rest ih =>
    -- The inner spaces now begin the line, and the outer ones go before them.
    by_cases begins : atStart && point != 0x0A
    · obtain ⟨rfl, visible⟩ := Bool.and_eq_true_iff.mp begins
      have shown : (point == 0x0A) = false := by simpa [bne] using visible
      simp only [indentedFrom, begins, ↓reduceIte, shown,
        indentedFrom_spaces_append spaces blank shown, ih]
    · simp only [indentedFrom, begins, Bool.false_eq_true, ↓reduceIte, List.nil_append, ih]

example : indented (indented "a\n\nb") = "        a\n\n        b" := by decide

theorem startsAfter_indentedFrom (text : Text) :
    startsAfter atStart (indentedFrom spaces atStart text) = startsAfter atStart text := by
  induction text generalizing atStart with
  | nil => rfl
  | cons point rest ih =>
    rw [indentedFrom, startsAfter_append]
    exact ih (point == 0x0A)

end

/-- The lines of a text end where they should, and only there. -/
theorem oneLine_of_mem_lines {text line : Text} (present : line ∈ lines text) :
    line ≠ [] ∧ 0x0A ∉ line.dropLast := by
  induction text generalizing line with
  | nil => exact absurd present List.not_mem_nil
  | cons point rest ih =>
    rw [lines] at present
    split at present
    · rcases List.mem_cons.mp present with rfl | later
      · exact ⟨List.cons_ne_nil _ _, List.not_mem_nil⟩
      · exact ih later
    · rename_i joins
      have inner : 0x0A ≠ point := by
        rintro rfl
        exact joins rfl
      cases cut : lines rest with
      | nil =>
        rw [cut] at present
        obtain rfl := List.mem_singleton.mp present
        exact ⟨List.cons_ne_nil _ _, List.not_mem_nil⟩
      | cons first others =>
        rw [cut] at present ih
        rcases List.mem_cons.mp present with rfl | later
        · obtain ⟨nonempty, oneLine⟩ := ih List.mem_cons_self
          refine ⟨List.cons_ne_nil _ _, ?_⟩
          rw [List.dropLast_cons_of_ne_nil nonempty, List.mem_cons, not_or]
          exact ⟨inner, oneLine⟩
        · exact ih (List.mem_cons_of_mem first later)

end Text

namespace Printer

open Text (indentedFrom startsAfter)

@[simp] theorem text_write (printer : Printer) (piece : Text) :
    (printer.write piece).text = printer.text ++ piece := by
  simp only [text, write, Array.toList_push, List.flatten_append, List.flatten_singleton]

theorem indentation_indent (printer : Printer) :
    printer.indent.indentation = printer.indentation ++ List.replicate 4 0x20 := by
  rw [indentation, indentation, List.replicate_append_replicate]
  rfl

theorem text_printLine {line : Text} (nonempty : line ≠ []) (oneLine : 0x0A ∉ line.dropLast)
    (printer : Printer) :
    (printer.printLine line).text =
      printer.text ++ indentedFrom printer.indentation printer.atStart line := by
  rw [Text.indentedFrom_line _ _ nonempty oneLine, ← List.append_assoc]
  show ((if printer.atStart && line != [0x0A] then printer.write printer.indentation
    else printer).write line).text = _
  rw [text_write]
  split <;> simp

theorem atStart_printLine {line : Text} (nonempty : line ≠ []) (printer : Printer) :
    (printer.printLine line).atStart = startsAfter printer.atStart line := by
  obtain ⟨front, last, rfl⟩ : ∃ front last, line = front ++ [last] :=
    ⟨_, _, (List.dropLast_concat_getLast nonempty).symm⟩
  rw [Text.startsAfter_concat, printLine, List.getLast?_concat]
  rfl

/-- What a printer has become by a text, with no break written in front of it. -/
structure Continues (printer : Printer) (added : Text) (next : Printer) : Prop where
  text : next.text = printer.text ++ indentedFrom printer.indentation printer.atStart added
  atStart : next.atStart = startsAfter printer.atStart added
  pendingBreak : next.pendingBreak = printer.pendingBreak
  depth : next.depth = printer.depth
  empty : next.empty = (printer.empty && added.isEmpty)

namespace Continues

theorem nil (printer : Printer) : Continues printer [] printer where
  text := (List.append_nil _).symm
  atStart := rfl
  pendingBreak := rfl
  depth := rfl
  empty := (Bool.and_true _).symm

theorem append {printer middle next : Printer} {front back : Text}
    (here : Continues printer front middle) (later : Continues middle back next) :
    Continues printer (front ++ back) next where
  text := by
    have indentation : middle.indentation = printer.indentation := by
      rw [indentation, here.depth, indentation]
    rw [later.text, here.text, here.atStart, indentation, Text.indentedFrom_append,
      List.append_assoc]
  atStart := by rw [later.atStart, here.atStart, Text.startsAfter_append]
  pendingBreak := later.pendingBreak.trans here.pendingBreak
  depth := later.depth.trans here.depth
  empty := by
    rw [later.empty, here.empty, Bool.and_assoc]
    cases front <;> rfl

theorem foldl {α : Type} {items : List α} {step : Printer → α → Printer} {piece : α → Text}
    (each : ∀ item ∈ items, ∀ printer, Continues printer (piece item) (step printer item))
    (printer : Printer) : Continues printer (items.flatMap piece) (items.foldl step printer) := by
  induction items generalizing printer with
  | nil => exact nil printer
  | cons item rest ih =>
    have later := ih fun other present => each other (List.mem_cons_of_mem item present)
    exact (each item List.mem_cons_self printer).append (later (step printer item))

end Continues

theorem continues_printLine {line : Text} (nonempty : line ≠ []) (oneLine : 0x0A ∉ line.dropLast)
    (printer : Printer) : Continues printer line (printer.printLine line) where
  text := text_printLine nonempty oneLine printer
  atStart := atStart_printLine nonempty printer
  pendingBreak := by
    by_cases indented : printer.atStart && line != [0x0A] <;> simp [printLine, write, indented]
  depth := depth_printLine printer line
  empty := by rw [printLine, List.isEmpty_eq_false_iff.mpr nonempty, Bool.and_false]

theorem continues_print (printer : Printer) (text : Text) :
    Continues printer.flush text (printer.print text) := by
  have lines := Continues.foldl (fun line (present : line ∈ Text.lines text) =>
    continues_printLine (Text.oneLine_of_mem_lines present).1
      (Text.oneLine_of_mem_lines present).2) printer.flush
  rwa [List.flatMap_id', Text.flatten_lines] at lines

@[simp] theorem pendingBreak_print (text : Text) (printer : Printer) :
    (printer.print text).pendingBreak = false := by
  rw [(continues_print printer text).pendingBreak, pendingBreak_flush]

theorem flush_eq_self {printer : Printer} (noBreak : printer.pendingBreak = false) :
    printer.flush = printer := by
  simp [flush, noBreak]

/-- At the start of a line there is nothing to end. -/
theorem softBreak_eq_self {printer : Printer} (begins : printer.flush.atStart = true) :
    printer.softBreak = printer := by
  obtain ⟨writes, atStart, pendingBreak, depth, empty⟩ := printer
  cases pendingBreak <;> cases atStart <;> first | rfl | cases begins

theorem flush_softBreak {printer : Printer} (goesOn : printer.flush.atStart = false) :
    printer.softBreak.flush = { printer.write [0x0A] with atStart := true } := by
  obtain ⟨writes, atStart, pendingBreak, depth, empty⟩ := printer
  cases pendingBreak <;> cases atStart <;> first | rfl | cases goesOn

theorem flush_indent (printer : Printer) : printer.indent.flush = printer.flush.indent := by
  by_cases pending : printer.pendingBreak <;> simp [flush, indent, write, pending]

theorem flush_dedent (printer : Printer) : printer.dedent.flush = printer.flush.dedent := by
  by_cases pending : printer.pendingBreak <;> simp [flush, dedent, write, pending]

/-- What a script writes on a printer whose next character begins a line, or does not, with pending
breaks counted as written. -/
def Writes (atStart : Bool) (script : List Action) (text : Text) : Prop :=
  ∀ printer : Printer, printer.flush.atStart = atStart →
    (printer.performAll script).flush.text =
        printer.flush.text ++ indentedFrom printer.indentation atStart text ∧
      (printer.performAll script).flush.atStart = startsAfter atStart text

namespace Writes

variable {atStart : Bool}

theorem nil : Writes atStart [] [] :=
  fun _ begins => ⟨(List.append_nil _).symm, begins⟩

theorem append {first second : List Action} {front back : Text} {between : Bool}
    (here : Writes atStart first front) (ends : startsAfter atStart front = between)
    (later : Writes between second back) : Writes atStart (first ++ second) (front ++ back) := by
  subst ends
  intro printer begins
  obtain ⟨text, goesOn⟩ := here printer begins
  obtain ⟨textToo, ends⟩ := later (printer.performAll first) goesOn
  have indentation : (printer.performAll first).indentation = printer.indentation := by
    rw [Printer.indentation, depth_performAll, Printer.indentation]
  rw [performAll_append, textToo, ends, text, indentation, Text.indentedFrom_append,
    Text.startsAfter_append, List.append_assoc]
  exact ⟨rfl, rfl⟩

theorem print (text : Text) : Writes atStart [.print text] text := by
  rintro printer rfl
  have printed := continues_print printer text
  have indentation : printer.flush.indentation = printer.indentation := by
    rw [Printer.indentation, depth_flush, Printer.indentation]
  have unflushed : (printer.print text).flush = printer.print text :=
    flush_eq_self (pendingBreak_print text printer)
  simp only [performAll, perform, unflushed]
  exact ⟨by rw [printed.text, indentation], printed.atStart⟩

theorem softBreak_atStart : Writes true [.softBreak] [] := by
  intro printer begins
  simp only [performAll, perform, softBreak_eq_self begins]
  exact nil printer begins

theorem softBreak_within : Writes false [.softBreak] [0x0A] := by
  intro printer goesOn
  -- A pending break would count as written, and then the line would not be open.
  have unflushed : printer.flush = printer := by
    cases pending : printer.pendingBreak with
    | false => exact flush_eq_self pending
    | true => simp [flush, pending] at goesOn
  simp only [performAll, perform, flush_softBreak goesOn]
  rw [unflushed]
  exact ⟨text_write printer [0x0A], rfl⟩

theorem softBreak : Writes atStart [.softBreak] (if atStart then [] else [0x0A]) := by
  cases atStart with
  | true => exact softBreak_atStart
  | false => exact softBreak_within

/-- Texts with soft breaks between them and around them. A break behind a text that does not end its
line ends it; one at the start of a line does nothing. -/
theorem broken {texts : List Text}
    (open_ended : ∀ text ∈ texts, ∀ atStart, startsAfter atStart text = false) :
    Writes atStart (texts.flatMap (fun text => [.softBreak, .print text]) ++ [.softBreak])
      ((if atStart then [] else [0x0A]) ++ texts.flatMap (· ++ [0x0A])) := by
  induction texts generalizing atStart with
  | nil =>
    rw [List.flatMap_nil, List.flatMap_nil, List.append_nil]
    exact softBreak
  | cons text rest ih =>
    -- The break before the next text ends this one, so the rest goes on from an open line.
    have later : Writes false _ _ := ih fun other present =>
      open_ended other (List.mem_cons_of_mem text present)
    have goesOn := open_ended text List.mem_cons_self true
    have printed := (print text).append goesOn later
    have begins : startsAfter atStart (if atStart then [] else [0x0A]) = true := by
      cases atStart <;> rfl
    have whole : Writes atStart _ _ := softBreak.append begins printed
    rw [List.flatMap_cons, List.flatMap_cons, List.append_assoc text]
    exact whole

theorem block {body : List Action} {text : Text} (inner : Writes atStart body text) :
    Writes atStart [.block body] (indentedFrom (List.replicate 4 0x20) atStart text) := by
  intro printer begins
  have deeper : printer.indent.flush.atStart = atStart := by
    rw [flush_indent]
    exact begins
  obtain ⟨written, ends⟩ := inner printer.indent deeper
  -- The body was indented all at once; it is the same to indent it by four and then by the rest.
  have blank : 0x0A ∉ List.replicate 4 0x20 := by decide
  rw [Text.indentedFrom_indentedFrom _ _ blank, ← indentation_indent, Text.startsAfter_indentedFrom]
  simp only [performAll, perform, flush_dedent]
  rw [flush_indent] at written
  exact ⟨written, ends⟩

theorem prints (texts : List Text) : Writes atStart (texts.map .print) texts.flatten := by
  induction texts generalizing atStart with
  | nil => exact nil
  | cons text rest ih => exact (print text).append rfl ih

theorem pendingBreak_prints (first : Text) (rest : List Text) (printer : Printer) :
    (printer.performAll ((first :: rest).map .print)).pendingBreak = false := by
  induction rest generalizing first printer with
  | nil =>
    simp only [List.map_cons, List.map_nil, performAll, perform]
    exact pendingBreak_print first printer
  | cons second later ih =>
    rw [List.map_cons, performAll]
    exact ih second (printer.perform (.print first))

/-- No break is asked for behind what was printed. -/
theorem prints_dropBreak (first : Text) (rest : List Text) :
    Writes atStart ((first :: rest).map .print ++ [.dropBreak]) (first :: rest).flatten := by
  intro printer begins
  obtain ⟨written, ends⟩ := prints (first :: rest) printer begins
  have noBreak := pendingBreak_prints first rest printer
  have kept : (printer.performAll ((first :: rest).map .print)).dropBreak =
      printer.performAll ((first :: rest).map .print) := by
    rw [dropBreak, ← noBreak]
  rw [performAll_append]
  simp only [performAll, perform, kept]
  exact ⟨written, ends⟩

end Writes

end Printer

end ClassOutline
