import ClassOutline.Proofs.Loaded.Rendering
import ClassOutline.Proofs.Members.Types
import ClassOutline.Proofs.Outline.Pieces

set_option autoImplicit false

namespace ClassOutline

open Names (displayed)
open Rendition (named)

variable {name : Text}

/-- Of the classes in some types only the one with the empty name is not collected. -/
theorem mem_typeClasses_of_className? {types : List Text} {type : Text} (listed : type ∈ types)
    (refers : Descriptor.className? type = some name) : name = [] ∨ name ∈ typeClasses types := by
  by_cases empty : name = []
  · exact Or.inl empty
  · have present : name ∈ types.filterMap Descriptor.className? :=
      List.mem_filterMap.mpr ⟨type, listed, refers⟩
    exact Or.inr (List.mem_filter.mpr ⟨present, by simpa using empty⟩)

namespace Attribute

theorem mem_allDeclaredExceptions {attributes : List Attribute} {record : Attribute}
    (listed : record ∈ attributes) (declared : name ∈ record.declaredExceptions) :
    name ∈ allDeclaredExceptions attributes := by
  induction attributes with
  | nil => cases listed
  | cons first rest ih =>
    rw [allDeclaredExceptions]
    rcases List.mem_cons.mp listed with rfl | later
    · exact List.mem_append_left _ declared
    · exact List.mem_append_right _ (ih later)

end Attribute

theorem exists_mem_of_mem_findSome? {α β : Type} {find : α → Option (List β)} {items : List α}
    {value : β} (present : value ∈ (items.findSome? find).getD []) :
    ∃ item ∈ items, ∃ values, find item = some values ∧ value ∈ values := by
  cases found : items.findSome? find with
  | none =>
    rw [found] at present
    cases present
  | some values =>
    obtain ⟨item, listed, same⟩ := List.exists_of_findSome?_eq_some found
    rw [found] at present
    exact ⟨item, listed, values, same, present⟩

theorem Member.mem_allDeclaredExceptions {member : Member} (thrown : name ∈ member.exceptions) :
    name ∈ Attribute.allDeclaredExceptions member.attributes := by
  obtain ⟨record, listed, names, found, present⟩ := exists_mem_of_mem_findSome? thrown
  refine Attribute.mem_allDeclaredExceptions listed ?_
  cases record with
  | exceptions header others =>
    cases found
    exact present
  | _ => cases found

namespace Rendition

theorem mem_references_of_fieldPieces {field : Field} {clause : Text}
    (mentioned : name ∈ named (fieldPieces field clause)) :
    name = [] ∨ name ∈ field.references := by
  have refers : Descriptor.className? field.descriptor = some name := by
    simpa [fieldPieces] using mentioned
  rcases mem_typeClasses_of_className? (List.mem_singleton_self field.descriptor) refers with
    empty | collected
  · exact Or.inl empty
  · exact Or.inr (List.mem_append_right _ collected)

/-- A signature names the class that it stands in, and otherwise what its method refers to. -/
theorem mem_references_of_signaturePieces {thisClass : Text} {method : Method}
    {includeAbstract : Bool}
    (mentioned : name ∈ named (signaturePieces thisClass method includeAbstract)) :
    name = thisClass ∨ name = [] ∨ name ∈ method.references := by
  -- Parameters and result are collected from the same signature that they are shown from.
  have typed {type : Text}
      (listed : type ∈ method.signature.parameters ++ [method.signature.result])
      (refers : Descriptor.className? type = some name) :
      name = thisClass ∨ name = [] ∨ name ∈ method.references :=
    Or.inr ((mem_typeClasses_of_className? listed refers).imp_right (List.mem_append_right _))
  unfold signaturePieces at mentioned
  split at mentioned
  · cases mentioned
  · simp only [named_plain, List.cons_append, named_append, named_joinedPieces, named_thrownPieces,
      List.mem_append] at mentioned
    rcases mentioned with (inSubject | inArguments) | thrown
    · unfold subjectPieces at inSubject
      split at inSubject
      · exact Or.inl (List.mem_singleton.mp inSubject)
      · rw [named_type, named_plain, named_nil, List.append_nil] at inSubject
        have last : method.signature.result ∈
            method.signature.parameters ++ [method.signature.result] :=
          List.mem_append_right _ (List.mem_singleton_self _)
        exact typed last (Option.mem_toList.mp inSubject)
    · obtain ⟨argument, listed, inArgument⟩ := List.mem_flatMap.mp inArguments
      obtain ⟨⟨type, place⟩, row, rfl⟩ := List.mem_map.mp listed
      rw [parameterPieces, named_type, named_plain, named_nil, List.append_nil] at inArgument
      exact typed (List.mem_append_left _ (List.fst_mem_of_mem_zipIdx row))
        (Option.mem_toList.mp inArgument)
    · exact Or.inr (Or.inr (List.mem_append_left _ (Member.mem_allDeclaredExceptions thrown)))

end Rendition

namespace ClassFile

/-- A class that a file names: one that a member or an attribute refers to, the name of a class
entry, or the empty name. -/
def Mentions (file : ClassFile) (name : Text) : Prop :=
  name = [] ∨ name ∈ file.references ∨
    ∃ nameIndex ∈ file.pool.classNameIndices, file.pool.utf8 nameIndex = .ok name

variable {file : ClassFile}

theorem mentions_of_fieldPieces {field : Field} (listed : field ∈ file.fields) {clause : Text}
    (mentioned : name ∈ named (Rendition.fieldPieces field clause)) : file.Mentions name := by
  rcases Rendition.mem_references_of_fieldPieces mentioned with empty | referred
  · exact Or.inl empty
  · have collected : name ∈ file.fields.flatMap Field.references :=
      List.mem_flatMap.mpr ⟨field, listed, referred⟩
    exact Or.inr (Or.inl (List.mem_append_left _ (List.mem_append_left _ collected)))

variable (resolved : file.Resolved)

include resolved

theorem Resolved.mentions_textAt {nameIndex : Nat}
    (present : nameIndex ∈ file.pool.classNameIndices) :
    file.Mentions (file.pool.textAt nameIndex) :=
  Or.inr (Or.inr ⟨nameIndex, present, ConstantPool.utf8_eq_textAt (resolved.classes _ present)⟩)

theorem Resolved.mentions_of_interfacePieces {keyword : Text}
    (mentioned : name ∈ named (Rendition.interfacePieces file keyword)) : file.Mentions name := by
  rw [Rendition.interfacePieces, Rendition.named_typeListPieces] at mentioned
  obtain ⟨nameIndex, listed, rfl⟩ := List.mem_map.mp mentioned
  exact resolved.mentions_textAt (resolved.interfaces nameIndex listed)

theorem Resolved.mentions_of_superPieces
    (mentioned : name ∈ named (Rendition.superPieces file)) : file.Mentions name := by
  unfold Rendition.superPieces at mentioned
  split at mentioned
  · cases mentioned
  · rename_i nameIndex found
    rw [List.mem_singleton.mp mentioned]
    exact resolved.mentions_textAt (resolved.superClass nameIndex found)

theorem Resolved.mentions_of_headerPieces
    (mentioned : name ∈ named (Rendition.headerPieces file)) : file.Mentions name := by
  have own : file.Mentions (Rendition.thisClass file) := resolved.mentions_textAt resolved.thisClass
  unfold Rendition.headerPieces at mentioned
  split at mentioned
  · rcases List.mem_cons.mp mentioned with rfl | later
    · exact own
    · exact resolved.mentions_of_interfacePieces later
  · rw [List.cons_append, List.cons_append, List.cons_append, Rendition.named_plain,
      Rendition.named_declared, Rendition.named_plain, Rendition.named_append] at mentioned
    rcases List.mem_cons.mp mentioned with rfl | later
    · exact own
    · rcases List.mem_append.mp later with inSuper | inInterfaces
      · exact resolved.mentions_of_superPieces inSuper
      · exact resolved.mentions_of_interfacePieces inInterfaces

theorem Resolved.mentions_of_signaturePieces {method : Method} (listed : method ∈ file.methods)
    {includeAbstract : Bool}
    (mentioned : name ∈ named (Rendition.signaturePieces (Rendition.thisClass file) method
      includeAbstract)) : file.Mentions name := by
  rcases Rendition.mem_references_of_signaturePieces mentioned with rfl | empty | referred
  · exact resolved.mentions_textAt resolved.thisClass
  · exact Or.inl empty
  · have collected : name ∈ file.methods.flatMap Method.references :=
      List.mem_flatMap.mpr ⟨method, listed, referred⟩
    exact Or.inr (Or.inl (List.mem_append_left _ (List.mem_append_right _ collected)))

theorem Resolved.mentions_of_bodyPieces {clauses : List Text}
    {summaries : List (Option CodeSummary)}
    (mentioned : name ∈ named (Rendition.bodyPieces file clauses summaries)) :
    file.Mentions name := by
  unfold Rendition.bodyPieces at mentioned
  split at mentioned
  · obtain ⟨method, declared, inMethod⟩ := Rendition.exists_of_mem_named_titledPieces mentioned
    rw [Rendition.named_append, Rendition.named_plain, Rendition.named_nil, List.append_nil]
      at inMethod
    exact resolved.mentions_of_signaturePieces declared inMethod
  · rw [Rendition.named_append] at mentioned
    rcases List.mem_append.mp mentioned with inFields | inMethods
    · obtain ⟨⟨field, clause⟩, row, inField⟩ := Rendition.exists_of_mem_named_titledPieces inFields
      exact mentions_of_fieldPieces (List.of_mem_zip row).1 inField
    · obtain ⟨⟨method, place⟩, row, inMethod⟩ :=
        Rendition.exists_of_mem_named_titledPieces inMethods
      simp only [Rendition.methodPieces, Rendition.named_append, Rendition.named_plain,
        Rendition.named_nil, List.append_nil] at inMethod
      exact resolved.mentions_of_signaturePieces (List.fst_mem_of_mem_zipIdx row) inMethod

/-- A class that a file names is referred to, unless its name is empty or an array entry's. -/
theorem Resolved.mem_referenced {marked : List Text} (mentioned : file.Mentions name)
    (collected : ∀ other ∈ file.references, other ∈ marked) :
    name ∈ file.pool.referenced marked ∨ name = [] ∨
      Names.isArray name = true ∧
        ∃ nameIndex ∈ file.pool.classNameIndices, file.pool.utf8 nameIndex = .ok name := by
  rcases mentioned with empty | referred | ⟨nameIndex, present, found⟩
  · exact Or.inr (Or.inl empty)
  · exact Or.inl (ConstantPool.mem_referenced.mpr (Or.inl (collected name referred)))
  · by_cases isArray : Names.isArray name = true
    · exact Or.inr (Or.inr ⟨isArray, nameIndex, present, found⟩)
    · have listed : name ∈ file.pool.classNames :=
        (ConstantPool.mem_classNames_iff resolved.classes).mpr
          ⟨nameIndex, present, found, Bool.not_eq_true _ ▸ isArray⟩
      exact Or.inl (ConstantPool.mem_referenced.mpr (Or.inr listed))

end ClassFile

namespace Declaration

/-- A type is shown as the class that is collected from it, with brackets for its array dimensions,
or as a primitive type if no class is. -/
structure ShowsClass (type : Text) : Prop where
  ofClass : ∀ name, Descriptor.className? type = some name →
    typeText type =
      (· ++ Descriptor.brackets (Descriptor.dimensions type)) <$> SymbolTable.displayName name
  ofNone : Descriptor.className? type = none →
    ∃ letter word, Descriptor.primitive? [letter] = some word ∧
      typeText type = pure (word ++ Descriptor.brackets (Descriptor.dimensions type))

theorem showsClass_of_accepts {type : Text} (accepted : Descriptor.Accepts type) :
    ShowsClass type where
  ofClass := (accepted.isType.format_eq SymbolTable.displayName).1
  ofNone := (accepted.isType.format_eq SymbolTable.displayName).2

end Declaration

namespace LoadedClass

/-- A class is drawn as its imports and as pieces. What the pieces show depends on how the classes
that they name are displayed, and on no other class. Each of these is among those referred to,
unless its name is empty or that of an array entry. -/
structure Tracks (now : LoadedClass) (classes : List Text) : Prop where
  referenced : (SymbolTable.referencedClasses.run now.symbols).1 = .ok classes
  drawn : (now.dump {}).1.map (fun _ => (now.dump {}).2.2.text) =
    ((Rendition.clauses now.file).map fun clauses =>
      "// Imports\n" ++ Rendition.importBlock classes (Rendition.thisClass now.file) ++
        Rendition.shown (displayed classes) (Rendition.headerPieces now.file) ++ "\x7b\n" ++
        Text.indented (Rendition.shown (displayed classes)
          (Rendition.bodyPieces now.file clauses now.summaries)) ++
        "\x7d\n").mapError DrawFault.literal
  settled : ∀ clauses (display : Text → Text),
    let pieces := Rendition.headerPieces now.file ++
      Rendition.bodyPieces now.file clauses now.summaries
    (∀ name ∈ named pieces, display name = displayed classes name) →
      Rendition.shown display pieces = Rendition.shown (displayed classes) pieces
  complete : ∀ clauses, ∀ name ∈ named (Rendition.headerPieces now.file ++
      Rendition.bodyPieces now.file clauses now.summaries),
    name ∈ classes ∨ name = [] ∨
      Names.isArray name = true ∧
        ∃ nameIndex ∈ now.file.pool.classNameIndices, now.file.pool.utf8 nameIndex = .ok name

theorem Knows.tracks {now : LoadedClass} {names : List Text} (knows : now.Knows names)
    (collected : ∀ name ∈ now.file.references, name ∈ names) :
    now.Tracks (now.file.pool.referenced names) where
  referenced := by
    obtain ⟨next, answered, -⟩ :=
      SymbolTable.answers_referencedClasses knows.resolved.classes _ knows.symbols
    rw [answered, ConstantPool.referenced_congr knows.marked]
  drawn := by rw [knows.dump, Rendition.text_eq_pieces]
  settled := fun _ _ same => Rendition.shown_congr same
  complete := by
    intro clauses name mentioned
    rw [Rendition.named_append] at mentioned
    have resolved := knows.resolved
    rcases List.mem_append.mp mentioned with inHeader | inBody
    · exact resolved.mem_referenced (resolved.mentions_of_headerPieces inHeader) collected
    · exact resolved.mem_referenced (resolved.mentions_of_bodyPieces inBody) collected

/-- Whatever was asked of a decoded class, the classes that it is drawn with are tracked, and a type
that decoding accepts shows the class that is collected from it. -/
theorem tracks_after {data : Array UInt8} {source : Option Text} {loaded : LoadedClass}
    (decoded : decode data source = .ok loaded) (history : List Operation) :
    (Operation.after history loaded).file = loaded.file ∧
      (Operation.after history loaded).Tracks (loaded.file.pool.referenced
        (loaded.file.references ++ history.filterMap Operation.marked?)) ∧
      ∀ type, Descriptor.Accepts type → Declaration.ShowsClass type := by
  obtain ⟨sound, same⟩ := Operation.sound_after (sound_of_decode decoded) history
  obtain ⟨file, found, rfl⟩ := file_of_decode decoded
  have resolved := (ClassFile.decode_eq_ok_iff.mp found).1.resolved
  have tracks := (Operation.knows_after (knows_ofFile resolved) history).tracks
  rw [same] at tracks
  exact ⟨same, tracks fun name referred => List.mem_append_left _ referred,
    fun _ accepted => Declaration.showsClass_of_accepts accepted⟩

/-- A class `p/A` that extends `p/B` and implements an array of `q/C`, with a field of type
`r.B[][]` and a method that takes any number of `s/D` and throws `t/E`. -/
def classOfClasses : Array UInt8 := #[
  0xCA, 0xFE, 0xBA, 0xBE, 0, 0, 0, 52, 0, 14,
  1, 0, 3, 0x70, 0x2F, 0x41, 7, 0, 1,
  1, 0, 3, 0x70, 0x2F, 0x42, 7, 0, 3,
  1, 0, 6, 0x5B, 0x4C, 0x71, 0x2F, 0x43, 0x3B, 7, 0, 5,
  1, 0, 1, 0x66,
  1, 0, 7, 0x5B, 0x5B, 0x4C, 0x72, 0x2F, 0x42, 0x3B,
  1, 0, 1, 0x6D,
  1, 0, 9, 0x28, 0x5B, 0x4C, 0x73, 0x2F, 0x44, 0x3B, 0x29, 0x56,
  1, 0, 10, 0x45, 0x78, 0x63, 0x65, 0x70, 0x74, 0x69, 0x6F, 0x6E, 0x73,
  1, 0, 3, 0x74, 0x2F, 0x45, 7, 0, 12,
  0, 0x21, 0, 2, 0, 4, 0, 1, 0, 6,
  0, 1, 0, 0, 0, 7, 0, 8, 0, 0,
  0, 1, 4, 0x80, 0, 9, 0, 10, 0, 1, 0, 11, 0, 0, 0, 4, 0, 1, 0, 13,
  0, 0]

/-- The names in its drawing, all but the array's among those that are referred to. -/
theorem tracks_after_classOfClasses :
    ∃ loaded, decode classOfClasses = .ok loaded ∧
      named (Rendition.headerPieces loaded.file ++ Rendition.bodyPieces loaded.file [[]] []) =
        ["p/A", "p/B", "[Lq/C;", "r/B", "s/D", "t/E"].map Text.ofString ∧
      let history : List Operation := [.dump {}, .mark "x/B"]
      (Operation.after history loaded).file = loaded.file ∧
        (Operation.after history loaded).Tracks (loaded.file.pool.referenced
          (loaded.file.references ++ history.filterMap Operation.marked?)) ∧
        ∀ type, Descriptor.Accepts type → Declaration.ShowsClass type := by
  have mentioned : ((decode classOfClasses).map fun loaded => named
      (Rendition.headerPieces loaded.file ++ Rendition.bodyPieces loaded.file [[]] [])) =
        .ok (["p/A", "p/B", "[Lq/C;", "r/B", "s/D", "t/E"].map Text.ofString) :=
    eq_ok_of_toOption (by decide +kernel)
  obtain ⟨loaded, decoded, names⟩ := map_eq_ok_iff.mp mentioned
  exact ⟨loaded, decoded, names, tracks_after decoded _⟩

end LoadedClass

end ClassOutline
