import ClassOutline.Proofs.ClassFile.Encoding
import ClassOutline.Proofs.Loaded.Rendering
import ClassOutline.Proofs.Members.Types

set_option autoImplicit false

namespace ClassOutline

open View (numberAt)

namespace Descriptor

/-- The type of arrays of integers with some number of dimensions. -/
def arrayType (count : Nat) : Text :=
  List.replicate count 0x5B ++ [0x49]

theorem isType_arrayType (count : Nat) : IsType (arrayType count) :=
  isType_replicate count (.primitive rfl)

theorem dimensions_arrayType (count : Nat) : dimensions (arrayType count) = count := by
  induction count with
  | zero => rfl
  | succ count ih => exact (dimensions_array (arrayType count)).trans (congrArg (· + 1) ih)

theorem length_arrayType (count : Nat) : (arrayType count).length = count + 1 := by
  rw [arrayType, List.length_append, List.length_replicate]
  rfl

theorem ascii_arrayType (count : Nat) : ∀ point ∈ arrayType count, point < 0x80 := by
  intro point listed
  rcases List.mem_append.mp listed with repeated | last
  · rw [List.eq_of_mem_replicate repeated]
    decide
  · rw [List.mem_singleton.mp last]
    decide

end Descriptor

namespace ClassDraft

open Descriptor (arrayType)

def arrayField (count : Nat) : ClassDraft :=
  { bare with
    constants := [.utf8 "A" .utf8, .classRef 1, .utf8 (arrayType count) .utf8]
    fields := [{
      access := 1
      nameIndex := 1
      name := "A"
      descriptorIndex := 3
      descriptor := arrayType count
      attributes := [] }] }

theorem entries_arrayField (count : Nat) : (arrayField count).pool.entries =
    #[none, some (.utf8 "A"), some (.classRef 1), some (.utf8 (arrayType count))] := by
  simp [pool, arrayField, ConstantPool.ofConstants, ConstantPool.table, Entry.slots, Constant.entry,
    Entry.kind, Kind.slots]

theorem fits_arrayField {count : Nat} (short : count + 1 < 0x10000) : (arrayField count).Fits := by
  have entries := entries_arrayField count
  have lookup (index : Int) : (arrayField count).pool.entry? index = if 1 ≤ index then
      (#[none, some (.utf8 "A"), some (.classRef 1),
        some (.utf8 (arrayType count))][index.toNat]?).join else none := by
    rw [ConstantPool.entry?, entries]
  have letters : (arrayType count).length < 0x10000 := by rwa [Descriptor.length_arrayType]
  have type : (Constant.utf8 (arrayType count) .utf8).Fits :=
    Constant.fits_ascii (Descriptor.ascii_arrayType count) letters
  have name : (arrayField count).pool.utf8 (1 : Nat) = .ok "A" :=
    ConstantPool.utf8_eq_ok_iff.mpr (lookup 1)
  have descriptor : (arrayField count).pool.utf8 (3 : Nat) = .ok (arrayType count) :=
    ConstantPool.utf8_eq_ok_iff.mpr (lookup 3)
  have classNames : ConstantPool.ClassesNamed (arrayField count).pool.entries := by
    rw [entries]
    exact (ConstantPool.findClassNameFault_eq_none_iff _).mp rfl
  have accepted := Descriptor.field_eq_ok_iff.mpr ⟨Descriptor.isType_arrayType count, rfl⟩
  exact { bare_fits with
    poolCount := by
      rw [← size_pool, entries]
      exact (by decide : 4 < 0x10000)
    constants := List.forall_mem_cons.mpr ⟨by decide,
      List.forall_mem_cons.mpr ⟨by decide, List.forall_mem_singleton.mpr type⟩⟩
    classNames
    thisClass := ConstantPool.classEntry_eq_ok_iff.mpr (lookup 2)
    superClass := nofun
    interfaces := nofun
    fieldCount := (by decide : 1 < 0x10000)
    fields := List.forall_mem_singleton.mpr
      ⟨⟨(by decide : 1 < 0x10000), name, descriptor, (by decide : 0 < 0x10000), trivial⟩,
        _, accepted⟩
    methods := nofun
    attributes := trivial }

end ClassDraft

namespace LoadedClass

variable {stack : Stack} {now : LoadedClass} {names : List Text} (knows : now.Knows names)

include knows

/-- With room for the types, a class is its rendition on a printer of its own, or fails as that
does. -/
theorem Knows.dumpWithin
    (fits : ∀ type ∈ now.file.shownTypes, Descriptor.dimensions type ≤ stack.dimensions) :
    (now.dumpWithin stack {}).1.map (fun _ => (now.dumpWithin stack {}).2.2.text) =
      (Rendition.text (now.file.pool.referenced names) now.file now.summaries).mapError
        DrawFault.literal := by
  rw [dumpWithin_eq_dump fits]
  exact knows.dump

theorem Knows.stop?_eq_none {text : Text}
    (made : Rendition.text (now.file.pool.referenced names) now.file now.summaries = .ok text) :
    now.file.stop? (fun _ => none) = none := by
  have served := knows.resolved.served
  have scripted := Declaration.scripted_drawWith served
    (Declaration.scriptedTypes_unbounded served.displayName) knows.matched
  obtain ⟨result, next, actions, -, ends, run⟩ := scripted now.symbols knows.symbols.pool
  have drawn := knows.dump
  rw [made, dump_of_run (run {})] at drawn
  obtain ⟨_, success, -⟩ := map_eq_ok_iff.mp drawn
  cases stops : now.file.stop? fun _ => none with
  | none => rfl
  | some stop =>
    rw [stops] at ends
    cases success.symm.trans ends

/-- Without room for a type, a class that has a rendition is not drawn to its end. -/
theorem Knows.dumpWithin_tooDeep {text type : Text}
    (made : Rendition.text (now.file.pool.referenced names) now.file now.summaries = .ok text)
    (shown : type ∈ now.file.shownTypes)
    (tooMany : stack.dimensions < Descriptor.dimensions type) :
    (now.dumpWithin stack {}).1 = .error .tooDeep := by
  obtain ⟨result, next, actions, ends, run, -⟩ := knows.exists_script stack
  rw [ClassFile.stop?_eq_tooDeep (knows.stop?_eq_none made) shown tooMany] at ends
  rw [run {}]
  exact ends

omit knows

/-- Whatever was asked of a decoded class, on a printer of its own it is drawn as one text, the
rendition of its file, if there is room for the types that it shows. Of the history only the marked
names and the summaries of the analysed methods are seen there. It is not drawn to the end if the
rendition fails, because a constant has no text, or if a type has too many dimensions. -/
theorem dumpWithin_eq_rendition {data : Array UInt8} {source : Option Text} {loaded : LoadedClass}
    (decoded : decode data source = .ok loaded) (history : List Operation) (stack : Stack) :
    let now := Operation.after history loaded
    let classes := loaded.file.pool.referenced
      (loaded.file.references ++ history.filterMap Operation.marked?)
    let rendition := Rendition.text classes loaded.file now.summaries
    loaded.file.StandsIn data ∧ now.file = loaded.file ∧
      ((∀ type ∈ loaded.file.shownTypes, Descriptor.dimensions type ≤ stack.dimensions) →
        (now.dumpWithin stack {}).1.map (fun _ => (now.dumpWithin stack {}).2.2.text) =
          rendition.mapError DrawFault.literal) ∧
      (∀ type ∈ loaded.file.shownTypes, stack.dimensions < Descriptor.dimensions type →
        rendition.isOk = true → (now.dumpWithin stack {}).1 = .error .tooDeep) ∧
      (loaded.file.isInterface = true ↔
        numberAt data (10 + loaded.file.pool.rawLength) 2 / 0x0200 % 2 = 1) ∧
      now.summaries.length = loaded.file.methods.length ∧
      Truthful loaded.file.methods now.summaries := by
  obtain ⟨-, same⟩ := Operation.sound_after (sound_of_decode decoded) history
  obtain ⟨file, found, rfl⟩ := file_of_decode decoded
  have stands := (ClassFile.decode_eq_ok_iff.mp found).1
  have knows := Operation.knows_after (knows_ofFile stands.resolved) history
  have matched := knows.matched
  have truthful := knows.truthful
  have fitting := @knows.dumpWithin stack
  have tooDeep := @knows.dumpWithin_tooDeep stack
  rw [same] at matched truthful fitting tooDeep
  refine ⟨stands, same, fitting, fun type shown tooMany whole => ?_, stands.isInterface_iff,
    matched, truthful⟩
  obtain ⟨text, made⟩ := exists_ok_of_isOk whole
  exact tooDeep made shown tooMany

/-- The class is drawn, its method is analysed and a class that it does not know is marked. -/
theorem dumpWithin_eq_rendition_nestedCode :
    ∃ loaded, decode ClassFile.nestedCode = .ok loaded ∧
      let history : List Operation := [.dump {}, .analyseMethod 0, .mark "x/Code"]
      let now := Operation.after history loaded
      let classes := loaded.file.pool.referenced
        (loaded.file.references ++ history.filterMap Operation.marked?)
      (now.dumpWithin {} {}).1.map (fun _ => (now.dumpWithin {} {}).2.2.text) =
        (Rendition.text classes loaded.file now.summaries).mapError DrawFault.literal := by
  have small : ((decode ClassFile.nestedCode).map fun loaded =>
      loaded.file.shownTypes.all fun type => Descriptor.dimensions type ≤ 990) = .ok true :=
    eq_ok_of_toOption (by decide +kernel)
  obtain ⟨loaded, decoded, fits⟩ := map_eq_ok_iff.mp small
  obtain ⟨-, -, drawn, -⟩ :=
    dumpWithin_eq_rendition decoded [.dump {}, .analyseMethod 0, .mark "x/Code"] {}
  refine ⟨loaded, decoded, drawn fun type shown => ?_⟩
  exact of_decide_eq_true (List.all_eq_true.mp fits type shown)

/-- A field of arrays with 20000 dimensions has no constant, and yet it is not drawn. -/
theorem not_forall_dumpWithin_ok :
    ¬ ∀ (data : Array UInt8) (source : Option Text) (loaded : LoadedClass) (text : Text),
      decode data source = .ok loaded →
      Rendition.text (loaded.file.pool.referenced loaded.file.references) loaded.file
        loaded.summaries = .ok text →
      (loaded.dumpWithin {} {}).1 = .ok () := by
  intro draws
  have short : 20000 + 1 < 0x10000 := by decide
  have fits := ClassDraft.fits_arrayField short
  have found := (ClassDraft.decode_bytes fits).1
  have resolved := (ClassFile.decode_eq_ok_iff.mp found).1.resolved
  have knows := knows_ofFile resolved
  have tooMany : ({} : Stack).dimensions < Descriptor.dimensions (Descriptor.arrayType 20000) := by
    rw [Descriptor.dimensions_arrayType]
    decide
  have shown : Descriptor.arrayType 20000 ∈ (ClassDraft.arrayField 20000).file.shownTypes :=
    List.mem_singleton_self _
  have decoded : decode (ClassDraft.arrayField 20000).bytes.toArray =
      .ok (ofFile (ClassDraft.arrayField 20000).file) := by
    rw [decode]
    exact congrArg (Except.map ofFile) found
  have ended := knows.dumpWithin_tooDeep rfl shown tooMany
  cases ended.symm.trans (draws _ _ _ _ decoded rfl)

end LoadedClass

end ClassOutline
