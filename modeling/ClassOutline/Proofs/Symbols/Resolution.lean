import ClassOutline.LoadedClass
import ClassOutline.Proofs.ClassFile.Format
import ClassOutline.Proofs.Effects.Steps

set_option autoImplicit false

namespace ClassOutline

variable {α β : Type} {pool : ConstantPool}

/-- A search that finds something in every table of a pool, and keeps the pool. -/
def Lookup.Finds (pool : ConstantPool) (search : Lookup α) : Prop :=
  ∀ table : SymbolTable, table.pool = pool →
    ∃ value next, search.run table = (.ok value, next) ∧ next.pool = pool

namespace Lookup.Finds

theorem pure (value : α) : Finds pool (Pure.pure value) :=
  fun table same => ⟨value, table, rfl, same⟩

theorem bind {first : Lookup α} {rest : α → Lookup β} (found : Finds pool first)
    (others : ∀ value, Finds pool (rest value)) : Finds pool (first >>= rest) := by
  intro table same
  obtain ⟨value, next, success, kept⟩ := found table same
  rw [run_bind_of_ok success]
  exact others value next kept

theorem get_bind {rest : SymbolTable → Lookup β}
    (others : ∀ table, table.pool = pool → Finds pool (rest table)) :
    Finds pool (get >>= rest) :=
  fun table same => others table same table same

theorem modify_bind {change : SymbolTable → SymbolTable} {rest : Unit → Lookup β}
    (keeps : ∀ table, (change table).pool = table.pool) (others : Finds pool (rest ())) :
    Finds pool (modify change >>= rest) :=
  fun table same => others (change table) ((keeps table).trans same)

theorem map {search : Lookup α} (convert : α → β) (found : Finds pool search) :
    Finds pool (convert <$> search) :=
  found.bind fun value => pure (convert value)

theorem mapM {search : α → Lookup β} {items : List α}
    (found : ∀ item ∈ items, Finds pool (search item)) : Finds pool (items.mapM search) := by
  induction items with
  | nil => exact pure []
  | cons item rest ih =>
    rw [List.mapM_cons]
    apply (found item List.mem_cons_self).bind
    intro value
    apply (ih fun other later => found other (List.mem_cons_of_mem _ later)).bind
    intro values
    exact pure (value :: values)

end Lookup.Finds

namespace ConstantPool

def NamesText (pool : ConstantPool) (index : Int) : Prop :=
  ∃ text, pool.utf8 index = .ok text

/-- Every class entry names a text. -/
def Resolved (pool : ConstantPool) : Prop :=
  ∀ nameIndex ∈ pool.classNameIndices, pool.NamesText nameIndex

theorem mem_classNameIndices_iff {nameIndex : Nat} :
    nameIndex ∈ pool.classNameIndices ↔ some (Entry.classRef nameIndex) ∈ pool.entries := by
  unfold classNameIndices
  rw [List.mem_filterMap, ← Array.mem_toList_iff]
  constructor
  · rintro ⟨entry, present, chosen⟩
    split at chosen
    · cases chosen
      exact present
    · cases chosen
  · intro present
    exact ⟨_, present, rfl⟩

theorem mem_classNameIndices_of_classEntry {index : Int} {nameIndex : Nat}
    (found : pool.classEntry index = .ok nameIndex) : nameIndex ∈ pool.classNameIndices := by
  have present := classEntry_eq_ok_iff.mp found
  unfold entry? at present
  split at present
  · rw [mem_classNameIndices_iff, Array.mem_iff_getElem?]
    exact ⟨index.toNat, Option.join_eq_some_iff.mp present⟩
  · cases present

/-- Slot zero is empty, so it is not what a class entry names. -/
theorem resolved_of_classesNamed {later : Array (Option Entry)}
    (begins : pool.entries = #[none] ++ later) (classesNamed : ClassesNamed pool.entries) :
    pool.Resolved := by
  intro nameIndex present
  obtain ⟨text, named⟩ := classesNamed nameIndex (mem_classNameIndices_iff.mp present)
  have first : pool.entries[0]? = some none := by
    rw [begins]
    exact Array.getElem?_append_left Nat.zero_lt_one
  have positive : nameIndex ≠ 0 := by
    rintro rfl
    rw [first] at named
    cases named
  refine ⟨text, utf8_eq_ok_iff.mpr ?_⟩
  have inside : (1 : Int) ≤ nameIndex := by omega
  unfold entry?
  simp only [inside, ↓reduceIte, Int.toNat_natCast, named, Option.join_some]

theorem StandsAt.resolved {data : Array UInt8} {start : Nat} {count : Int}
    {records : List (Entry × Nat)} (stands : pool.StandsAt data start count records) :
    pool.Resolved :=
  resolved_of_classesNamed stands.entries stands.classesNamed

/-- A pool that was read, wherever it stands, has a text for each of its class entries. -/
theorem resolved_of_read {view : View} {count : Int} (found : read view count = .ok pool) :
    pool.Resolved := by
  obtain ⟨constants, -, filled, named⟩ := exists_table_of_read found
  exact resolved_of_classesNamed filled named

end ConstantPool

namespace SymbolTable

theorem finds_utf8 {index : Int} (named : pool.NamesText index) : (utf8 index).Finds pool := by
  obtain ⟨text, found⟩ := named
  rintro table rfl
  exact ⟨text, { table with lookups := table.lookups + 1 }, by rw [← found]; rfl, rfl⟩

theorem pool_mark (name : Text) (table : SymbolTable) : (mark name table).pool = table.pool := by
  unfold mark
  split <;> rfl

variable (resolved : pool.Resolved)

include resolved

theorem finds_referencedClasses : referencedClasses.Finds pool := by
  apply Lookup.Finds.get_bind
  rintro table rfl
  apply (Lookup.Finds.mapM fun nameIndex present => finds_utf8 (resolved nameIndex present)).bind
  exact fun names => Lookup.Finds.pure _

theorem finds_knownAmbiguous : knownAmbiguous.Finds pool := by
  apply Lookup.Finds.get_bind
  intro table _
  cases table.ambiguous with
  | some names => exact Lookup.Finds.pure names
  | none =>
    apply (finds_referencedClasses resolved).bind
    intro classes
    exact Lookup.Finds.modify_bind (fun _ => rfl) (Lookup.Finds.pure _)

theorem finds_displayName (name : Text) : (displayName name).Finds pool :=
  (finds_knownAmbiguous resolved).bind fun _ => Lookup.Finds.pure _

theorem finds_typeName {nameIndex : Nat} (present : nameIndex ∈ pool.classNameIndices) :
    (typeName nameIndex).Finds pool :=
  (finds_utf8 (resolved nameIndex present)).bind (finds_displayName resolved)

end SymbolTable

/-- What decoding establishes for later lookups: the class entries that a class refers to name
texts, the members have the names their indices lead to, and their descriptors parse. -/
structure ClassFile.Resolved (file : ClassFile) : Prop where
  classes : file.pool.Resolved
  thisClass : file.thisClass ∈ file.pool.classNameIndices
  superClass : ∀ nameIndex, file.superClass = some nameIndex →
    nameIndex ∈ file.pool.classNameIndices
  interfaces : ∀ nameIndex ∈ file.interfaces, nameIndex ∈ file.pool.classNameIndices
  fieldName : ∀ field ∈ file.fields, file.pool.utf8 field.nameIndex = .ok field.name
  methodName : ∀ method ∈ file.methods, file.pool.utf8 method.nameIndex = .ok method.name
  fieldType : ∀ field ∈ file.fields, Descriptor.field field.descriptor = .ok field.descriptor
  signature : ∀ method ∈ file.methods, Descriptor.method method.descriptor = .ok method.signature

theorem Descriptor.eq_of_field {text result : Text} (parsed : field text = .ok result) :
    result = text :=
  (ite_eq_ok_iff.mp parsed).2

namespace ClassFile

theorem StandsIn.resolved {data : Array UInt8} {file : ClassFile} (stands : file.StandsIn data) :
    file.Resolved where
  classes := by
    obtain ⟨records, pool⟩ := stands.preamble.pool
    exact pool.resolved
  thisClass := ConstantPool.mem_classNameIndices_of_classEntry stands.thisClass
  superClass := by
    rintro nameIndex present
    rcases stands.superClass with ⟨absent, -⟩ | ⟨other, found, -, entry⟩
    · rw [absent] at present
      cases present
    · rw [found] at present
      cases present
      exact ConstantPool.mem_classNameIndices_of_classEntry entry
  interfaces := by
    intro nameIndex present
    obtain ⟨place, listed⟩ := stands.sections.interfaces.stands_of_mem present
    exact ConstantPool.mem_classNameIndices_of_classEntry listed.classEntry
  fieldName := by
    intro field present
    obtain ⟨place, here⟩ := stands.sections.fields.stands_of_mem present
    exact here.member.name
  methodName := by
    intro method present
    obtain ⟨place, here⟩ := stands.sections.methods.stands_of_mem present
    exact here.member.name
  fieldType := by
    intro field present
    obtain ⟨place, here⟩ := stands.sections.fields.stands_of_mem present
    obtain ⟨result, parsed⟩ := here.descriptor
    rwa [Descriptor.eq_of_field parsed] at parsed
  signature := by
    intro method present
    obtain ⟨place, here⟩ := stands.sections.methods.stands_of_mem present
    exact here.signature

theorem resolved_of_decode {data : Array UInt8} {source : Option Text} {file : ClassFile}
    (decoded : decode data source = .ok file) : file.Resolved :=
  (decode_eq_ok_iff.mp decoded).1.resolved

variable {file : ClassFile} (resolved : file.Resolved)

include resolved

theorem Resolved.finds_className : file.className.Finds file.pool :=
  SymbolTable.finds_utf8 (resolved.classes _ resolved.thisClass)

theorem Resolved.finds_superClassName : file.superClassName.Finds file.pool := by
  unfold superClassName
  cases found : file.superClass with
  | none => exact Lookup.Finds.pure none
  | some nameIndex =>
    have present := resolved.superClass nameIndex found
    exact (SymbolTable.finds_utf8 (resolved.classes _ present)).map some

theorem Resolved.finds_interfaceNames : file.interfaceNames.Finds file.pool :=
  Lookup.Finds.mapM fun nameIndex present =>
    SymbolTable.finds_utf8 (resolved.classes _ (resolved.interfaces nameIndex present))

theorem Resolved.finds_classType : file.classType.Finds file.pool := by
  apply resolved.finds_className.bind
  intro name
  split
  · exact Lookup.Finds.pure _
  · exact SymbolTable.finds_typeName resolved.classes resolved.thisClass

end ClassFile

namespace Declaration

theorem finds_typeText (resolved : pool.Resolved) (descriptor : Text) :
    (typeText descriptor).Finds pool := by
  unfold typeText
  induction descriptor with
  | nil => exact Lookup.Finds.pure []
  | cons first rest ih =>
    rw [Descriptor.format]
    split
    · exact ih.bind fun _ => Lookup.Finds.pure _
    · split
      · exact Lookup.Finds.pure _
      · split
        · exact SymbolTable.finds_displayName resolved _
        · exact Lookup.Finds.pure _

theorem finds_parameter (resolved : pool.Resolved) (varargs : Bool) (count : Nat)
    (descriptor : Text) (place : Nat) :
    (parameterWith typeText varargs count descriptor place).Finds pool :=
  (finds_typeText resolved descriptor).bind fun _ => Lookup.Finds.pure _

theorem finds_signature {file : ClassFile} (resolved : file.Resolved) (method : Method)
    (includeAbstract : Bool) : (signature file method includeAbstract).Finds file.pool := by
  unfold signature signatureWith
  split
  · exact Lookup.Finds.pure _
  · apply (Lookup.Finds.mapM fun row _ => finds_parameter resolved.classes _ _ row.1 row.2).bind
    intro arguments
    have thrown := Lookup.Finds.mapM fun name (_ : name ∈ method.exceptions) =>
      SymbolTable.finds_displayName resolved.classes name
    dsimp only
    split
    · exact resolved.finds_classType.bind fun _ => thrown.bind fun _ => Lookup.Finds.pure _
    · apply ((finds_typeText resolved.classes _).map _).bind
      exact fun _ => thrown.bind fun _ => Lookup.Finds.pure _

end Declaration

end ClassOutline
