import ClassOutline.Proofs.Loaded.Rendering
import ClassOutline.Proofs.Symbols.Display

set_option autoImplicit false

/- The name by which a class declares itself. Of a nested class it is what follows the last dollar,
which may be nothing. Any other class declares itself as it is displayed elsewhere: by its last
segment, or in full if another class has the same one. -/

namespace ClassOutline

open AccessFlags (shownWords interfaceModifiers classModifiers methodModifiers)

namespace Text

variable {mark : CodePoint} {text front back : Text}

theorem afterLast_append_of_mem (marked : mark ∈ back) :
    afterLast mark (front ++ back) = afterLast mark back := by
  obtain ⟨before, behind, rfl, last⟩ := exists_cut_at_last marked
  rw [← List.append_assoc, afterLast_append last, afterLast_append last]

theorem afterLast_eq_nil_iff (marked : mark ∈ text) :
    afterLast mark text = [] ↔ text.getLast? = some mark := by
  obtain ⟨before, behind, rfl, last⟩ := exists_cut_at_last marked
  rw [afterLast_append last, List.getLast?_append]
  cases behind with
  | nil => simp
  | cons first rest =>
    have differs : (first :: rest).getLast (by simp) ≠ mark :=
      fun same => last (same ▸ List.getLast_mem _)
    simp [List.getLast?_eq_some_getLast, differs]

theorem not_mem_joined {separator : Text} {texts : List Text} (fresh : mark ∉ separator)
    (others : ∀ text ∈ texts, mark ∉ text) : mark ∉ joined separator texts := by
  fun_induction joined separator texts with
  | case1 => simp
  | case2 text => exact others text List.mem_cons_self
  | case3 text rest _ ih =>
    have later := ih fun other listed => others other (List.mem_cons_of_mem text listed)
    simp [others text List.mem_cons_self, fresh, later]

end Text

namespace Names

/-- A name of segments with slashes between them. None is empty or has a dot. -/
def Segmented (name : Text) : Prop :=
  ∃ segments : List Text, segments ≠ [] ∧
    (∀ segment ∈ segments, segment ≠ [] ∧ 0x2F ∉ segment ∧ 0x2E ∉ segment) ∧
    name = Text.joined [0x2F] segments

/-- A name that a class can be declared by. -/
structure IsSimple (name : Text) : Prop where
  nonempty : name ≠ []
  noDot : 0x2E ∉ name
  noSlash : 0x2F ∉ name
  noDollar : 0x24 ∉ name

variable {name : Text} {classes : List Text}

theorem Segmented.noDot (segmented : Segmented name) : 0x2E ∉ name := by
  obtain ⟨segments, -, plain, rfl⟩ := segmented
  exact Text.not_mem_joined (by decide) fun segment listed => (plain segment listed).2.2

theorem Segmented.lastSegment_ne_nil (segmented : Segmented name) : lastSegment name ≠ [] := by
  obtain ⟨segments, nonempty, plain, rfl⟩ := segmented
  have split := List.dropLast_concat_getLast nonempty
  obtain ⟨lastNonempty, noSlash, -⟩ := plain _ (List.getLast_mem nonempty)
  rw [← split]
  cases segments.dropLast with
  | nil =>
    rw [List.nil_append, Text.joined, lastSegment, Text.afterLast_eq_self noSlash]
    exact lastNonempty
  | cons first rest =>
    rw [Text.joined_concat, lastSegment, List.append_assoc, List.singleton_append,
      Text.afterLast_append noSlash]
    exact lastNonempty

theorem getLast?_lastSegment (nonempty : lastSegment name ≠ []) :
    (lastSegment name).getLast? = name.getLast? := by
  by_cases packaged : hasPackage name = true
  · conv_rhs => rw [eq_package_append_lastSegment packaged]
    simp [List.getLast?_append, List.getLast?_cons, List.getLast?_eq_some_getLast nonempty]
  · rw [lastSegment_eq_self packaged]

theorem sourceName_eq_self (noSlash : 0x2F ∉ name) (noDollar : 0x24 ∉ name) :
    sourceName name = name := by
  have kept : ∀ point ∈ name, (if point = 0x2F ∨ point = 0x24 then 0x2E else point) = point := by
    intro point listed
    have notSlash : point ≠ 0x2F := ne_of_mem_of_not_mem listed noSlash
    have notDollar : point ≠ 0x24 := ne_of_mem_of_not_mem listed noDollar
    simp [notSlash, notDollar]
  rw [sourceName, List.map_congr_left kept, List.map_id']

theorem afterLast_lastSegment (nested : 0x24 ∈ lastSegment name) :
    Text.afterLast 0x24 name = Text.afterLast 0x24 (lastSegment name) := by
  by_cases packaged : hasPackage name = true
  · conv_lhs => rw [eq_package_append_lastSegment packaged]
    rw [← List.singleton_append, ← List.append_assoc, Text.afterLast_append_of_mem nested]
  · rw [lastSegment_eq_self packaged]

/-- A simple name without a dollar is the last segment itself. -/
theorem simpleName_eq_lastSegment (plain : 0x24 ∉ lastSegment name) :
    simpleName name = lastSegment name :=
  sourceName_eq_self (not_mem_lastSegment name) plain

end Names

namespace Rendition

open Names

variable {name : Text} {classes : List Text}

theorem classType_of_nested (nested : 0x24 ∈ lastSegment name) :
    classType classes name = Text.afterLast 0x24 name :=
  if_pos (List.contains_iff_mem.mpr nested)

theorem classType_of_plain (plain : 0x24 ∉ lastSegment name) :
    classType classes name =
      if Shared classes (lastSegment name) then sourceName name else lastSegment name := by
  have notNested : ¬(Text.afterLast 0x2F name).contains 0x24 = true :=
    fun listed => plain (List.contains_iff_mem.mp listed)
  rw [classType, if_neg notNested, displayed, simpleName_eq_lastSegment plain]

/-- The name that a class declares itself by is simple, unless its internal name ends with a dollar,
or has none in its last segment and a package, and another class has the same last segment. -/
theorem isSimple_classType_iff (segmented : Segmented name) :
    IsSimple (classType classes name) ↔
      name.getLast? ≠ some 0x24 ∧
        (0x24 ∉ lastSegment name → hasPackage name = true →
          ¬Shared classes (lastSegment name)) := by
  have inName : lastSegment name ⊆ name := Text.afterLast_subset name
  have noDot : 0x2E ∉ lastSegment name := fun listed => segmented.noDot (inName listed)
  by_cases nested : 0x24 ∈ lastSegment name
  · have inSegment : Text.afterLast 0x24 name ⊆ lastSegment name := by
      rw [afterLast_lastSegment nested]
      exact Text.afterLast_subset _
    have empty := Text.afterLast_eq_nil_iff (inName nested)
    rw [classType_of_nested nested]
    constructor
    · intro isSimple
      exact ⟨fun ends => isSimple.nonempty (empty.mpr ends), fun plain => absurd nested plain⟩
    · rintro ⟨ends, -⟩
      exact {
        nonempty := fun nothing => ends (empty.mp nothing)
        noDot := fun listed => noDot (inSegment listed)
        noSlash := fun listed => not_mem_lastSegment name (inSegment listed)
        noDollar := Text.not_mem_afterLast name }
  · have nonempty := segmented.lastSegment_ne_nil
    have ends : name.getLast? ≠ some 0x24 := by
      rw [← getLast?_lastSegment nonempty]
      exact fun last => nested (List.mem_of_getLast? last)
    have whole : IsSimple (lastSegment name) := ⟨nonempty, noDot, not_mem_lastSegment name, nested⟩
    rw [classType_of_plain nested]
    by_cases shared : Shared classes (lastSegment name)
    · rw [if_pos shared]
      by_cases packaged : hasPackage name = true
      · have dot : 0x2E ∈ sourceName name :=
          dot_mem_sourceName.mpr (Or.inl (hasPackage_iff.mp packaged))
        have notSimple : ¬IsSimple (sourceName name) := fun isSimple => isSimple.noDot dot
        simp [nested, packaged, shared, notSimple]
      · rw [← simpleName_eq_sourceName packaged, simpleName_eq_lastSegment nested]
        simp [whole, ends, packaged]
    · rw [if_neg shared]
      simp [whole, ends, shared]

/-- A class as one text begins with its imports and the line in which it declares itself. -/
theorem exists_of_text {file : ClassFile} {summaries : List (Option CodeSummary)} {drawn : Text}
    (made : text classes file summaries = .ok drawn) :
    let words :=
      if file.isInterface then interfaceModifiers else classModifiers
    let keyword : Text := if file.isInterface then "interface " else "class "
    ∃ rest, drawn = "// Imports\n" ++ importBlock classes (thisClass file) ++
      shownWords words file.flags ++ keyword ++ classType classes (thisClass file) ++
        "\n" ++ rest := by
  unfold text at made
  by_cases isInterface : file.isInterface = true
  · simp only [isInterface, if_true] at made ⊢
    cases made
    simp only [interfaceHeader, List.append_assoc]
    exact ⟨_, rfl⟩
  · rw [Bool.not_eq_true] at isInterface
    simp only [isInterface, Bool.false_eq_true, if_false] at made ⊢
    obtain ⟨body, -, same⟩ := bind_eq_ok_iff.mp made
    cases same
    simp only [classHeader, List.append_assoc]
    exact ⟨_, rfl⟩

theorem exists_of_signature (thisClass : Text) {method : Method} (includeAbstract : Bool)
    (isConstructor : method.name = "<init>") :
    let flags := if includeAbstract then method.flags
      else method.flags.filter fun flag => flag != .abstractType
    ∃ rest, signature classes thisClass method includeAbstract =
      shownWords methodModifiers flags ++ classType classes thisClass ++ "(" ++
        rest := by
  have notInitialiser : method.name ≠ "<clinit>" := by
    rw [isConstructor]
    decide
  simp only [signature, if_neg notInitialiser, if_pos isConstructor, List.append_assoc]
  exact ⟨_, rfl⟩

end Rendition

namespace LoadedClass

/-- A class with a name of its own, which is the answer to the question for it, and stands in the
header of the class and in front of the parameters of its constructors. -/
structure DeclaresAs (now : LoadedClass) (classes : List Text) (type : Text) : Prop where
  asked : (now.lookup now.file.classType).1 = .ok type
  header : ∀ drawn, (now.dump {}).1.map (fun _ => (now.dump {}).2.2.text) = .ok drawn →
    let words :=
      if now.file.isInterface then interfaceModifiers else classModifiers
    let keyword : Text := if now.file.isInterface then "interface " else "class "
    ∃ rest, drawn = "// Imports\n" ++
        Rendition.importBlock classes (Rendition.thisClass now.file) ++
      shownWords words now.file.flags ++ keyword ++ type ++ "\n" ++ rest
  constructors : ∀ (method : Method) (includeAbstract : Bool), method.name = "<init>" →
    let flags := if includeAbstract then method.flags
      else method.flags.filter fun flag => flag != .abstractType
    ∃ rest, (now.lookup (Declaration.signature now.file method includeAbstract)).1 =
      .ok (shownWords methodModifiers flags ++ type ++ "(" ++ rest)

variable {now : LoadedClass} {names : List Text}

theorem lookup_of_answers {α : Type} {marked : List Text} {search : Lookup α} {value : α}
    (answers : search.Answers now.file.pool marked value)
    (holds : now.symbols.Holds now.file.pool marked) : (now.lookup search).1 = .ok value := by
  obtain ⟨next, answered, -⟩ := answers now.symbols holds
  simp only [lookup, answered]

theorem Knows.declaresAs (knows : now.Knows names) :
    let classes := now.file.pool.referenced names
    now.DeclaresAs classes (Rendition.classType classes (Rendition.thisClass now.file)) where
  asked := by
    rw [← ConstantPool.referenced_congr knows.marked]
    exact lookup_of_answers knows.resolved.answers_classType knows.symbols
  header := by
    intro drawn written
    rw [knows.dump] at written
    cases made : Rendition.text (now.file.pool.referenced names) now.file now.summaries with
    | error fault =>
      rw [made] at written
      cases written
    | ok text =>
      rw [made] at written
      cases written
      exact Rendition.exists_of_text made
  constructors := by
    intro method includeAbstract isConstructor
    rw [← ConstantPool.referenced_congr knows.marked,
      lookup_of_answers (Declaration.answers_signature knows.resolved method includeAbstract)
        knows.symbols]
    obtain ⟨rest, same⟩ := Rendition.exists_of_signature _ includeAbstract isConstructor
    exact ⟨rest, congrArg Except.ok same⟩

/-- Whatever was asked of a decoded class and whichever other classes it refers to, it declares
itself by one name, in its header and in its constructors. That name is simple, unless the internal
name of the class ends with a dollar, or has none in its last segment and a package, and another
class that is referred to has the same last segment. -/
theorem declaresAs_after {data : Array UInt8} {source : Option Text} {loaded : LoadedClass}
    (decoded : decode data source = .ok loaded) (history : List Operation)
    (segmented : Names.Segmented (Rendition.thisClass loaded.file)) :
    let now := Operation.after history loaded
    let name := Rendition.thisClass loaded.file
    let classes := loaded.file.pool.referenced
      (loaded.file.references ++ history.filterMap Operation.marked?)
    let type := Rendition.classType classes name
    now.file = loaded.file ∧ (now.lookup loaded.file.className).1 = .ok name ∧
      now.DeclaresAs classes type ∧
      (Names.IsSimple type ↔ name.getLast? ≠ some 0x24 ∧
        (0x24 ∉ Names.lastSegment name → Names.hasPackage name = true →
          ¬Names.Shared classes (Names.lastSegment name))) := by
  obtain ⟨sound, same⟩ := Operation.sound_after (sound_of_decode decoded) history
  obtain ⟨file, found, rfl⟩ := file_of_decode decoded
  have resolved := (ClassFile.decode_eq_ok_iff.mp found).1.resolved
  have knows := Operation.knows_after (knows_ofFile resolved) history
  have declared := knows.declaresAs
  have named := lookup_of_answers knows.resolved.answers_className knows.symbols
  rw [same] at declared named
  exact ⟨same, named, declared, Rendition.isSimple_classType_iff segmented⟩

/-- A class `a/X` that extends `b/X` and has a constructor. -/
def namesake : Array UInt8 := #[
  0xCA, 0xFE, 0xBA, 0xBE, 0, 0, 0, 52, 0, 7,
  1, 0, 3, 0x61, 0x2F, 0x58, 7, 0, 1,
  1, 0, 3, 0x62, 0x2F, 0x58, 7, 0, 3,
  1, 0, 6, 0x3C, 0x69, 0x6E, 0x69, 0x74, 0x3E,
  1, 0, 3, 0x28, 0x29, 0x56,
  0, 0x21, 0, 2, 0, 4, 0, 0, 0, 0,
  0, 1, 0, 1, 0, 5, 0, 6, 0, 0,
  0, 0]

theorem exists_decode_namesake :
    ∃ loaded, decode namesake = .ok loaded ∧ Rendition.thisClass loaded.file = "a/X" ∧
      loaded.file.pool.classNames = [Text.ofString "a/X", Text.ofString "b/X"] := by
  have decoded : ((decode namesake).map fun loaded =>
      (Rendition.thisClass loaded.file, loaded.file.pool.classNames)) =
        .ok (Text.ofString "a/X", [Text.ofString "a/X", Text.ofString "b/X"]) :=
    eq_ok_of_toOption (by decide +kernel)
  obtain ⟨loaded, found, named⟩ := map_eq_ok_iff.mp decoded
  exact ⟨loaded, found, (Prod.ext_iff.mp named).1, (Prod.ext_iff.mp named).2⟩

theorem segmented_namesake : Names.Segmented "a/X" :=
  ⟨["a", "X"], by decide, by decide, rfl⟩

/-- The two classes of one name are told apart by their packages, also where one declares itself. -/
theorem declaresAs_after_namesake :
    ∃ loaded, decode namesake = .ok loaded ∧
      Names.Segmented (Rendition.thisClass loaded.file) ∧
      let history : List Operation := [.dump {}, .mark "c/Y"]
      let now := Operation.after history loaded
      let name := Rendition.thisClass loaded.file
      let classes := loaded.file.pool.referenced
        (loaded.file.references ++ history.filterMap Operation.marked?)
      let type := Rendition.classType classes name
      now.file = loaded.file ∧ (now.lookup loaded.file.className).1 = .ok name ∧
        now.DeclaresAs classes type ∧
        (Names.IsSimple type ↔ name.getLast? ≠ some 0x24 ∧
          (0x24 ∉ Names.lastSegment name → Names.hasPackage name = true →
            ¬Names.Shared classes (Names.lastSegment name))) := by
  obtain ⟨loaded, decoded, named, -⟩ := exists_decode_namesake
  have segmented : Names.Segmented (Rendition.thisClass loaded.file) := by
    rw [named]
    exact segmented_namesake
  exact ⟨loaded, decoded, segmented, declaresAs_after decoded _ segmented⟩

/-- Not every class declares itself by a simple name: `a/X` that extends `b/X` is declared as
`a.X`. -/
theorem not_forall_isSimple :
    ¬∀ (data : Array UInt8) (source : Option Text) (loaded : LoadedClass) (type : Text),
      decode data source = .ok loaded → Names.Segmented (Rendition.thisClass loaded.file) →
      (loaded.lookup loaded.file.classType).1 = .ok type → Names.IsSimple type := by
  intro always
  obtain ⟨loaded, decoded, named, classNames⟩ := exists_decode_namesake
  obtain ⟨file, found, rfl⟩ := file_of_decode decoded
  have knows := knows_ofFile (ClassFile.decode_eq_ok_iff.mp found).1.resolved
  have named : Rendition.thisClass file = "a/X" := named
  have segmented : Names.Segmented (Rendition.thisClass file) := by
    rw [named]
    exact segmented_namesake
  have isSimple := always _ _ _ _ decoded segmented knows.declaresAs.asked
  have own := ((Rendition.isSimple_classType_iff segmented).mp isSimple).2
  rw [named] at own
  apply own (by decide) (by decide)
  have present (name : Text) (listed : name ∈ [Text.ofString "a/X", Text.ofString "b/X"]) :
      name ∈ (ofFile file).file.pool.referenced file.references := by
    rw [← classNames] at listed
    exact ConstantPool.mem_referenced.mpr (Or.inr listed)
  exact ⟨"a/X", present _ (by decide), "b/X", present _ (by decide), by decide, by decide,
    by decide⟩

end LoadedClass

end ClassOutline
