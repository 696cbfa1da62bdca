import Mathlib.Data.List.Nodup
import ClassOutline.Proofs.Outline.Rendering
import ClassOutline.Proofs.Symbols.Display

set_option autoImplicit false

/- Which classes are imported, and what imports are good for: their simple names should not clash,
and each short name should lead to a class. Ambiguity is told by the referenced classes but imports
are made of their outermost classes, so both hold only as far as these are referenced themselves. -/

namespace ClassOutline

open Names (Shared displayed hasPackage outermost package simpleName sourceName topLevel)

namespace Imports

open Rendition (importLines imported)

/-- The simple names of some imported classes are pairwise different, and none is that of the
outermost class of the class that imports them. -/
structure ClashFree (thisClass : Text) (names : List Text) : Prop where
  distinct : (names.map simpleName).Nodup
  own : thisClass ≠ [] → simpleName (topLevel thisClass) ∉ names.map simpleName

/-- The outermost class of a class is known by its simple name: from `java.lang`, from the package
of the class that is written, as its own outermost class, or by an import. -/
def Resolvable (thisClass : Text) (names : List Text) (name : Text) : Prop :=
  package (topLevel name) = "java/lang" ∨
    (hasPackage thisClass = true ∧ package (topLevel name) = package thisClass) ∨
    (thisClass ≠ [] ∧ topLevel name = topLevel thisClass) ∨ topLevel name ∈ names

/-- The outermost classes of some classes that can be written short only by an import. -/
def needed (classes : List Text) (thisClass : Text) : List Text :=
  (candidates classes).filter fun name => !isVisible thisClass name

/-- Wherever an outermost class that needs an import has the simple name of another one, or of the
outermost class that is written, two referenced classes have it. -/
def ClashesNoticed (classes : List Text) (thisClass : Text) : Prop :=
  ∀ name ∈ needed classes thisClass,
    (∃ other ∈ needed classes thisClass, other ≠ name ∧ simpleName other = simpleName name) ∨
      (thisClass ≠ [] ∧ simpleName (topLevel thisClass) = simpleName name) →
    Shared classes (simpleName name)

variable {classes : List Text} {thisClass name : Text}

theorem mem_candidates : name ∈ candidates classes ↔ ∃ other ∈ classes, outermost other = name := by
  rw [candidates, Text.mem_sortedSet, List.mem_map]

theorem isVisible_iff :
    isVisible thisClass name = true ↔ hasPackage name = false ∨
      (thisClass ≠ [] ∧ name = outermost thisClass) ∨ package name = "java/lang" ∨
      (hasPackage thisClass = true ∧ package name = package thisClass) := by
  simp [isVisible, javaLang, or_assoc]

theorem mem_needed : name ∈ needed classes thisClass ↔
    name ∈ candidates classes ∧ isVisible thisClass name = false := by
  simp [needed]

theorem packaged_of_needed (present : name ∈ needed classes thisClass) :
    hasPackage name = true := by
  by_contra noPackage
  have visible : isVisible thisClass name = true :=
    isVisible_iff.mpr (Or.inl (Bool.eq_false_iff.mpr noPackage))
  rw [(mem_needed.mp present).2] at visible
  cases visible

/-- A class in a package is displayed by its simple name exactly if that is not shared. -/
theorem displayed_eq_simpleName_iff (packaged : hasPackage name = true) :
    displayed classes name = simpleName name ↔ ¬Shared classes (simpleName name) := by
  constructor
  · intro short shared
    rw [Names.displayed_of_shared shared] at short
    exact Names.simpleName_ne_sourceName packaged short.symm
  · exact Names.displayed_of_not_shared

theorem mem_imported : name ∈ imported classes thisClass ↔
    name ∈ needed classes thisClass ∧ ¬Shared classes (simpleName name) := by
  rw [imported, List.mem_filter, Rendition.isImported, Bool.and_eq_true, beq_iff_eq,
    Bool.not_eq_true']
  constructor
  · rintro ⟨candidate, hidden, short⟩
    have present := mem_needed.mpr ⟨candidate, hidden⟩
    exact ⟨present, (displayed_eq_simpleName_iff (packaged_of_needed present)).mp short⟩
  · rintro ⟨present, own⟩
    have short := (displayed_eq_simpleName_iff (packaged_of_needed present)).mpr own
    exact ⟨(mem_needed.mp present).1, (mem_needed.mp present).2, short⟩

theorem nodup_imported : (imported classes thisClass).Nodup :=
  (Text.nodup_sortedSet _).filter _

theorem clashFree_imported_iff :
    ClashFree thisClass (imported classes thisClass) ↔
      ClashesNoticed classes thisClass := by
  constructor
  -- A name that clashes and is not shared would be imported, and so would what it clashes with.
  · rintro ⟨distinct, own⟩ name present clash
    by_contra unshared
    have imported := mem_imported.mpr ⟨present, unshared⟩
    rcases clash with ⟨other, otherPresent, different, same⟩ | ⟨isGiven, same⟩
    · have otherImported := mem_imported.mpr ⟨otherPresent, same ▸ unshared⟩
      exact different (List.inj_on_of_nodup_map distinct otherImported imported same)
    · apply own isGiven
      rw [same]
      exact List.mem_map_of_mem imported
  · intro shared
    constructor
    · apply (List.nodup_map_iff_inj_on nodup_imported).mpr
      intro first firstIn second secondIn same
      by_contra different
      obtain ⟨firstPresent, -⟩ := mem_imported.mp firstIn
      obtain ⟨secondPresent, own⟩ := mem_imported.mp secondIn
      exact own (shared second secondPresent (Or.inl ⟨first, firstPresent, different, same⟩))
    · intro isGiven listed
      obtain ⟨name, imported, same⟩ := List.mem_map.mp listed
      obtain ⟨present, own⟩ := mem_imported.mp imported
      exact own (shared name present (Or.inr ⟨isGiven, same.symm⟩))

theorem topLevel_ne_of_needed (present : name ∈ needed classes thisClass) :
    topLevel thisClass ≠ name := by
  rintro rfl
  have packaged := packaged_of_needed present
  have given := Names.hasPackage_topLevel.mp packaged
  have visible : isVisible thisClass (topLevel thisClass) = true :=
    isVisible_iff.mpr (Or.inr (Or.inr (Or.inr ⟨given, Names.package_topLevel given⟩)))
  rw [(mem_needed.mp present).2] at visible
  cases visible

/-- Where the outermost classes are referenced themselves, imports never clash. -/
theorem clashFree_of_closed (closed : ∀ name ∈ classes, outermost name ∈ classes)
    (given : thisClass ≠ [] → topLevel thisClass ∈ classes) :
    ClashFree thisClass (imported classes thisClass) := by
  have referenced {name : Text} (present : name ∈ needed classes thisClass) : name ∈ classes := by
    obtain ⟨other, otherIn, same⟩ := mem_candidates.mp (mem_needed.mp present).1
    rw [← same]
    exact closed other otherIn
  apply clashFree_imported_iff.mpr
  rintro name present (⟨other, otherPresent, different, same⟩ | ⟨isGiven, same⟩)
  · have shared := Names.shared_of_two (referenced otherPresent) (referenced present) different same
    rwa [same] at shared
  · have shared := Names.shared_of_two (given isGiven) (referenced present)
      (topLevel_ne_of_needed present) same
    rwa [same] at shared

/-- What is imported is free of clashes exactly if referenced classes tell of each clash between the
outermost ones. It always is if the outermost classes are referenced themselves. -/
theorem draw_clashFree_iff {view : View} {count : Int} {pool : ConstantPool}
    (found : ConstantPool.read view count = .ok pool) (marked : List Text) (thisClass : Text) :
    let classes := pool.referenced marked
    let names := imported classes thisClass
    (draw thisClass).Renders pool marked [] (.ok names.length) (importLines names) ∧
      (ClashFree thisClass names ↔ ClashesNoticed classes thisClass) ∧
      ((∀ name ∈ classes, outermost name ∈ classes) →
        (thisClass ≠ [] → topLevel thisClass ∈ classes) → ClashFree thisClass names) :=
  ⟨renders_draw (ConstantPool.resolved_of_read found) thisClass, clashFree_imported_iff,
    clashFree_of_closed⟩

/-- Two nested classes whose outermost classes have one simple name. -/
theorem draw_clashFree_iff_nested :
    let marked : List Text := ["a/X$Y", "b/X$Z"]
    let classes := ConstantPool.blank.referenced marked
    let names := imported classes "c/D"
    ConstantPool.read { data := #[] } 1 = .ok ConstantPool.blank ∧
      ((draw "c/D").Renders ConstantPool.blank marked [] (.ok names.length) (importLines names) ∧
        (ClashFree "c/D" names ↔ ClashesNoticed classes "c/D") ∧
        ((∀ name ∈ classes, outermost name ∈ classes) →
          (Text.ofString "c/D" ≠ [] → topLevel "c/D" ∈ classes) → ClashFree "c/D" names)) :=
  ⟨ConstantPool.read_blank, draw_clashFree_iff ConstantPool.read_blank _ _⟩

/-- Imports can clash: both outermost classes of the two are imported by one simple name. -/
theorem not_forall_clashFree :
    ¬∀ (view : View) (count : Int) (pool : ConstantPool) (marked : List Text) (thisClass : Text)
      (names : List Text), ConstantPool.read view count = .ok pool →
      (draw thisClass).Renders pool marked [] (.ok names.length) (importLines names) →
      ClashFree thisClass names := by
  intro clashFree
  let marked : List Text := ["a/X$Y", "b/X$Z"]
  have classes : ConstantPool.blank.referenced marked = marked :=
    ConstantPool.referenced_blank (by decide)
  have outer : candidates marked = ["a/X", "b/X"] := Text.sortedSet_of_ordered (by decide)
  have names : imported marked [] = ["a/X", "b/X"] := by
    rw [imported, outer]
    decide
  have drawn : (draw []).Renders ConstantPool.blank marked [] _ _ :=
    renders_draw (ConstantPool.resolved_of_read ConstantPool.read_blank) []
  rw [classes] at drawn
  have distinct := (clashFree _ _ _ marked [] _ ConstantPool.read_blank drawn).distinct
  rw [names] at distinct
  revert distinct
  decide

section

variable (packaged : hasPackage name = true)

include packaged

/-- What is in no package cannot share one, and has no outermost class in one. -/
theorem package_eq_of_topLevel_eq (same : topLevel name = topLevel thisClass) :
    hasPackage thisClass = true ∧ package (topLevel name) = package thisClass := by
  have given : hasPackage thisClass = true := by
    rw [← Names.hasPackage_topLevel, ← same, Names.hasPackage_topLevel]
    exact packaged
  exact ⟨given, by rw [same, Names.package_topLevel given]⟩

theorem topLevel_mem_candidates_iff (present : name ∈ classes) :
    topLevel name ∈ candidates classes ↔ 0x24 ∉ package name := by
  rw [mem_candidates]
  constructor
  · rintro ⟨other, -, same⟩ inPackage
    have dollar := Names.dollar_mem_topLevel packaged inPackage
    rw [← same] at dollar
    exact Names.not_mem_outermost other dollar
  · intro plain
    exact ⟨name, present, Names.outermost_eq_topLevel plain⟩

theorem isVisible_topLevel_iff : isVisible thisClass (topLevel name) = true ↔
    (thisClass ≠ [] ∧ topLevel name = outermost thisClass) ∨ package name = "java/lang" ∨
      (hasPackage thisClass = true ∧ package name = package thisClass) := by
  rw [isVisible_iff, Names.package_topLevel packaged, Names.hasPackage_topLevel.mpr packaged]
  simp

theorem resolvable_imported_iff (present : name ∈ classes) :
    Resolvable thisClass (imported classes thisClass) name ↔
      package name = "java/lang" ∨
      (hasPackage thisClass = true ∧ package name = package thisClass) ∨
        (0x24 ∉ package name ∧ (thisClass ≠ [] → topLevel name ≠ outermost thisClass) ∧
          ¬Shared classes (simpleName (topLevel name))) := by
  have own : thisClass ≠ [] ∧ topLevel name = topLevel thisClass →
      hasPackage thisClass = true ∧ package name = package thisClass := by
    rintro ⟨-, same⟩
    rw [← Names.package_topLevel packaged]
    exact package_eq_of_topLevel_eq packaged same
  have hidden : isVisible thisClass (topLevel name) = false ↔
      ¬((thisClass ≠ [] ∧ topLevel name = outermost thisClass) ∨ package name = "java/lang" ∨
        (hasPackage thisClass = true ∧ package name = package thisClass)) := by
    rw [← isVisible_topLevel_iff packaged, Bool.not_eq_true]
  rw [Resolvable, mem_imported, mem_needed, topLevel_mem_candidates_iff packaged present, hidden,
    Names.package_topLevel packaged]
  -- The package decides first; only where it does not, an import matters.
  constructor
  · rintro (java | same | outer | ⟨⟨plain, needsImport⟩, unshared⟩)
    · exact Or.inl java
    · exact Or.inr (Or.inl same)
    · exact Or.inr (Or.inl (own outer))
    · exact Or.inr (Or.inr
        ⟨plain, fun given outer => needsImport (Or.inl ⟨given, outer⟩), unshared⟩)
  · rintro (java | same | ⟨plain, notOuter, unshared⟩)
    · exact Or.inl java
    · exact Or.inr (Or.inl same)
    · by_cases near : package name = "java/lang" ∨
        (hasPackage thisClass = true ∧ package name = package thisClass)
      · exact near.imp_right Or.inl
      · refine Or.inr (Or.inr (Or.inr ⟨⟨plain, ?_⟩, unshared⟩))
        rintro (⟨given, outer⟩ | visible)
        · exact notOuter given outer
        · exact near visible

end

/-- The classes that have no dollar in them can be found, unless the package of the class that is
written has one. -/
theorem resolvable_of_plain (present : name ∈ classes) (packaged : hasPackage name = true)
    (short : displayed classes name ≠ sourceName name) (plain : 0x24 ∉ name)
    (plainPackage : 0x24 ∉ package thisClass) :
    Resolvable thisClass (imported classes thisClass) name := by
  have whole := Names.topLevel_eq_self plain
  have unshared : ¬Shared classes (simpleName name) := fun shared =>
    short (Names.displayed_of_shared shared)
  have inPackage : 0x24 ∉ package name := by
    intro dollar
    apply plain
    rw [Names.eq_package_append_lastSegment packaged]
    exact List.mem_append_left _ dollar
  apply (resolvable_imported_iff packaged present).mpr
  by_cases same : topLevel name = topLevel thisClass
  · have given := package_eq_of_topLevel_eq packaged same
    rw [Names.package_topLevel packaged] at given
    exact Or.inr (Or.inl given)
  · refine Or.inr (Or.inr ⟨inPackage, fun _ outer => same ?_, ?_⟩)
    · rw [outer, Names.outermost_eq_topLevel plainPackage]
    · rwa [whole]

/-- A referenced class in a package leads to its outermost class exactly if that is in `java.lang`
or in the package of the class that is written, or if it is imported: its package has no dollar, it
is not what stands before the first dollar of the class that is written, and no two referenced
classes have its simple name. A class without a dollar that is written short always does, unless the
package of the class that is written has a dollar. -/
theorem displayName_resolvable_iff {view : View} {count : Int} {pool : ConstantPool}
    (found : ConstantPool.read view count = .ok pool) (marked : List Text) (thisClass : Text)
    {name : Text} (present : name ∈ pool.referenced marked) (packaged : hasPackage name = true) :
    let classes := pool.referenced marked
    let names := imported classes thisClass
    (SymbolTable.displayName name).Answers pool marked (displayed classes name) ∧
      (draw thisClass).Renders pool marked [] (.ok names.length) (importLines names) ∧
      (Resolvable thisClass names name ↔ package name = "java/lang" ∨
        (hasPackage thisClass = true ∧ package name = package thisClass) ∨
        (0x24 ∉ package name ∧ (thisClass ≠ [] → topLevel name ≠ outermost thisClass) ∧
          ¬Shared classes (simpleName (topLevel name)))) ∧
      (displayed classes name ≠ sourceName name → 0x24 ∉ name → 0x24 ∉ package thisClass →
        Resolvable thisClass names name) := by
  have resolved := ConstantPool.resolved_of_read found
  exact ⟨SymbolTable.answers_displayName resolved name, renders_draw resolved thisClass,
    resolvable_imported_iff packaged present, resolvable_of_plain present packaged⟩

/-- A nested class whose outermost class has the simple name of two others. -/
theorem displayName_resolvable_iff_nested :
    let marked : List Text := ["a/X$Y", "b/X", "c/X"]
    let name : Text := "a/X$Y"
    let classes := ConstantPool.blank.referenced marked
    let names := imported classes "d/E"
    ConstantPool.read { data := #[] } 1 = .ok ConstantPool.blank ∧ name ∈ classes ∧
      hasPackage name = true ∧
      ((SymbolTable.displayName name).Answers ConstantPool.blank marked (displayed classes name) ∧
        (draw "d/E").Renders ConstantPool.blank marked [] (.ok names.length) (importLines names) ∧
        (Resolvable "d/E" names name ↔ package name = "java/lang" ∨
          (hasPackage "d/E" = true ∧ package name = package "d/E") ∨
          (0x24 ∉ package name ∧ (Text.ofString "d/E" ≠ [] → topLevel name ≠ outermost "d/E") ∧
            ¬Shared classes (simpleName (topLevel name)))) ∧
        (displayed classes name ≠ sourceName name → 0x24 ∉ name → 0x24 ∉ package "d/E" →
          Resolvable "d/E" names name)) := by
  intro marked name classes names
  have present : name ∈ classes := ConstantPool.mem_referenced.mpr (Or.inl (by decide))
  have packaged : hasPackage name = true := by decide
  exact ⟨ConstantPool.read_blank, present, packaged,
    displayName_resolvable_iff ConstantPool.read_blank _ _ present packaged⟩

/-- Not every short name can be found: `a/X$Y` is written `X.Y`, and nothing is imported. -/
theorem not_forall_resolvable :
    ¬∀ (view : View) (count : Int) (pool : ConstantPool) (marked : List Text) (thisClass : Text)
      (name shown : Text) (names : List Text), ConstantPool.read view count = .ok pool →
      name ∈ pool.referenced marked → Names.isArray name = false → hasPackage name = true →
      (SymbolTable.displayName name).Answers pool marked shown → shown ≠ sourceName name →
      (draw thisClass).Renders pool marked [] (.ok names.length) (importLines names) →
      Resolvable thisClass names name := by
  intro resolvable
  let marked : List Text := ["a/X$Y", "b/X", "c/X"]
  have classes : ConstantPool.blank.referenced marked = marked :=
    ConstantPool.referenced_blank (by decide)
  have outer : candidates marked = ["a/X", "b/X", "c/X"] := Text.sortedSet_of_ordered (by decide)
  have names : imported marked [] = [] := by
    rw [imported, outer]
    decide
  have resolved := ConstantPool.resolved_of_read ConstantPool.read_blank
  have drawn : (draw []).Renders ConstantPool.blank marked [] _ _ := renders_draw resolved []
  have shown : (SymbolTable.displayName "a/X$Y").Answers ConstantPool.blank marked _ :=
    SymbolTable.answers_displayName resolved "a/X$Y"
  rw [classes] at drawn shown
  have leads := resolvable _ _ _ marked [] "a/X$Y" _ _ ConstantPool.read_blank
    (by rw [classes]; decide) (by decide) (by decide) shown (by decide) drawn
  rw [names] at leads
  revert leads
  unfold Resolvable
  decide

end Imports

end ClassOutline
