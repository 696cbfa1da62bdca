import ClassOutline.Proofs.Loaded.Rendering
import ClassOutline.Proofs.Outline.Drawing

set_option autoImplicit false

namespace ClassOutline

/-- What a printer keeps of an earlier one: the text that stood there, and the depth. -/
structure Printer.Extends (earlier printer : Printer) : Prop where
  writes : earlier.writes.toList <+: printer.writes.toList
  depth : printer.depth = earlier.depth

theorem Printer.extends_performAll (printer : Printer) (actions : List Action) :
    printer.Extends (printer.performAll actions) where
  writes := prefix_performAll printer actions
  depth := depth_performAll printer actions

theorem Draw.Plays.extends {α : Type} {pool : ConstantPool} {marked : List Text} {drawing : Draw α}
    {result : Except DrawFault α} {script : List Printer.Action}
    (plays : Plays pool marked drawing result script) {symbols : SymbolTable}
    (holds : symbols.Holds pool marked) (printer : Printer) :
    ∃ next : Canvas, drawing.run { symbols, printer } = (result, next) ∧
      printer.Extends next.printer := by
  obtain ⟨next, _, run⟩ := plays symbols holds
  exact ⟨_, run printer, Printer.extends_performAll printer script⟩

theorem Rendition.constantClause_eq_error_iff {field : Field} {fault : LiteralFault} :
    constantClause field = .error fault ↔ field.literalFault? = some fault := by
  unfold constantClause Field.literalFault?
  cases field.constantValue? with
  | none => simp
  | some literal =>
    rw [map_eq_error_iff, Option.bind_some]
    cases literalText literal field.descriptor <;> simp

namespace LoadedClass

variable {now : LoadedClass} {names : List Text} (knows : now.Knows names)

include knows

/-- On any printer a class comes to its end, or stops at a field whose constant has no text. -/
theorem Knows.dump_extends (printer : Printer) :
    printer.Extends (now.dump printer).2.2 ∧
      ((now.dump printer).1 = .ok () ∧ (now.dump printer).2.2.Settled ∨
        now.file.isInterface = false ∧ ∃ place lines fault,
          Rendition.StopsAt (now.file.pool.referenced names) now.file.fields place lines fault ∧
            (now.dump printer).1 = .error (.literal fault)) := by
  rw [← ConstantPool.referenced_congr knows.marked]
  cases made : Rendition.text (now.file.pool.referenced now.symbols.marked) now.file
      now.summaries with
  | ok text =>
    obtain ⟨script, plays, -⟩ := Declaration.delivers_draw knows.resolved knows.matched made
    obtain ⟨next, run, extended⟩ := plays.extends knows.symbols printer
    have settled := Declaration.settles_drawWith now.file now.summaries _ _ run
    rw [dump_of_run run]
    exact ⟨extended, Or.inl ⟨rfl, settled⟩⟩
  | error fault =>
    obtain ⟨isClass, place, lines, stops⟩ := (Rendition.text_eq_error_iff _).mp made
    obtain ⟨script, plays, -⟩ :=
      Declaration.delivers_draw_error knows.resolved now.summaries isClass stops
    obtain ⟨next, run, extended⟩ := plays.extends knows.symbols printer
    rw [dump_of_run run]
    exact ⟨extended, Or.inr ⟨isClass, place, lines, fault, stops, rfl⟩⟩

/-- On a new printer a class that stops leaves its head and the lines of the fields before. -/
theorem Knows.dump_stopped {place : Nat} {lines : List Text} {fault : LiteralFault}
    (isClass : now.file.isInterface = false)
    (stops : Rendition.StopsAt (now.file.pool.referenced names) now.file.fields place lines fault) :
    (now.dump {}).1 = .error (.literal fault) ∧
      (now.dump {}).2.2.text =
        Rendition.stopped (now.file.pool.referenced names) now.file lines := by
  rw [← ConstantPool.referenced_congr knows.marked] at stops ⊢
  obtain ⟨next, run, written⟩ := (Declaration.delivers_draw_error knows.resolved now.summaries
    isClass stops).run_new knows.symbols
  rw [dump_of_run run]
  exact ⟨rfl, written⟩

omit knows

/-- Whatever was asked of a decoded class before, on any printer it is drawn behind what stands
there and leaves the printer at the depth at which it was. It comes to its end, at the start of a
line, or stops at the constant of a field, and then there is on a new printer the text up to the
lines of the fields before that one. -/
theorem dump_ends_or_stops {data : Array UInt8} {source : Option Text} {loaded : LoadedClass}
    (decoded : decode data source = .ok loaded) (history : List Operation) :
    let now := Operation.after history loaded
    let classes := loaded.file.pool.referenced
      (loaded.file.references ++ history.filterMap Operation.marked?)
    let StopsAt := Rendition.StopsAt classes loaded.file.fields
    (∀ printer, printer.Extends (now.dump printer).2.2 ∧
      ((now.dump printer).1 = .ok () ∧ (now.dump printer).2.2.Settled ∨
        loaded.file.isInterface = false ∧ ∃ place lines fault, StopsAt place lines fault ∧
          (now.dump printer).1 = .error (.literal fault))) ∧
    (loaded.file.isInterface = false → ∀ place lines fault, StopsAt place lines fault →
      (now.dump {}).1 = .error (.literal fault) ∧
        (now.dump {}).2.2.text = Rendition.stopped classes loaded.file lines) := by
  obtain ⟨_, same⟩ := Operation.sound_after (sound_of_decode decoded) history
  obtain ⟨file, found, rfl⟩ := file_of_decode decoded
  have resolved := (ClassFile.decode_eq_ok_iff.mp found).1.resolved
  have knows := Operation.knows_after (knows_ofFile resolved) history
  have extended := knows.dump_extends
  have stopped := @knows.dump_stopped
  rw [same] at extended stopped
  exact ⟨extended, fun isClass place lines fault => stopped isClass⟩

/-- A class whose second field is a character with a string for its constant. -/
def mistyped : Array UInt8 := #[
  0xCA, 0xFE, 0xBA, 0xBE, 0, 0, 0, 52, 0, 8,
  1, 0, 1, 0x41, 7, 0, 1,
  1, 0, 1, 0x49, 1, 0, 1, 0x43,
  1, 0, 13, 0x43, 0x6F, 0x6E, 0x73, 0x74, 0x61, 0x6E, 0x74, 0x56, 0x61, 0x6C, 0x75, 0x65,
  3, 0, 0, 0, 7, 8, 0, 1,
  0, 0, 0, 2, 0, 0, 0, 0, 0, 3,
  0, 0, 0, 1, 0, 3, 0, 1, 0, 5, 0, 0, 0, 2, 0, 6,
  0, 0, 0, 1, 0, 4, 0, 1, 0, 5, 0, 0, 0, 2, 0, 7,
  0, 0, 0, 1, 0, 3, 0, 0,
  0, 0, 0, 0]

theorem exists_decode_mistyped :
    ∃ loaded, decode mistyped = .ok loaded ∧ loaded.file.isInterface = false ∧
      Rendition.StopsAt
        (loaded.file.pool.referenced (loaded.file.references ++ [Text.ofString "b/X"]))
        loaded.file.fields 1 ["int A = 7;\n"] .wrongType := by
  have fields : ((decode mistyped).map fun loaded => (loaded.file.isInterface,
      ((loaded.file.fields.take 1).mapM (Rendition.fieldLine (loaded.file.pool.referenced
        (loaded.file.references ++ [Text.ofString "b/X"])))).toOption,
      loaded.file.fields[1]?.bind Field.literalFault?)) =
      .ok (false, some [Text.ofString "int A = 7;\n"], some .wrongType) :=
    eq_ok_of_toOption (by decide +kernel)
  obtain ⟨loaded, decoded, facts⟩ := map_eq_ok_iff.mp fields
  obtain ⟨isClass, facts⟩ := Prod.ext_iff.mp facts
  obtain ⟨line, stops⟩ := Prod.ext_iff.mp facts
  obtain ⟨field, found, fault⟩ := Option.bind_eq_some_iff.mp stops
  exact ⟨loaded, decoded, isClass, eq_ok_of_toOption line, field, found,
    Rendition.constantClause_eq_error_iff.mpr fault⟩

/-- The class stops at its second field, also when that field was drawn alone before. -/
theorem dump_ends_or_stops_mistyped :
    ∃ loaded, decode mistyped = .ok loaded ∧
      let history : List Operation := [.mark "b/X", .drawField 1 { depth := 2 }]
      let now := Operation.after history loaded
      let classes := loaded.file.pool.referenced
        (loaded.file.references ++ history.filterMap Operation.marked?)
      let StopsAt := Rendition.StopsAt classes loaded.file.fields
      (∀ printer, printer.Extends (now.dump printer).2.2 ∧
        ((now.dump printer).1 = .ok () ∧ (now.dump printer).2.2.Settled ∨
          loaded.file.isInterface = false ∧ ∃ place lines fault, StopsAt place lines fault ∧
            (now.dump printer).1 = .error (.literal fault))) ∧
      (StopsAt 1 ["int A = 7;\n"] .wrongType ∧
        (now.dump {}).1 = .error (.literal .wrongType) ∧
          (now.dump {}).2.2.text = Rendition.stopped classes loaded.file ["int A = 7;\n"]) := by
  obtain ⟨loaded, decoded, isClass, stops⟩ := exists_decode_mistyped
  obtain ⟨extended, stopped⟩ :=
    dump_ends_or_stops decoded [.mark "b/X", .drawField 1 { depth := 2 }]
  exact ⟨loaded, decoded, extended, stops, stopped isClass _ _ _ stops⟩

end LoadedClass

end ClassOutline
