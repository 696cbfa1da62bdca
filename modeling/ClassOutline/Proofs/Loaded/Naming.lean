import ClassOutline.Proofs.Loaded.Operations

set_option autoImplicit false

namespace ClassOutline

/-- The last place of a name in a list. -/
structure IsLastPlace (names : List Text) (name : Text) (place : Nat) : Prop where
  there : names[place]? = some name
  last : ∀ later, place < later → names[later]? ≠ some name

/-- What a search for a name in a list comes to: the last place of the name, or that there is
none. -/
structure FindsLast (names : List Text) (name : Text) (result : Except NameFault Nat) : Prop where
  found : ∀ place, result = .ok place ↔ IsLastPlace names name place
  missing : ∀ fault, result = .error fault ↔ fault = .notFound name ∧ name ∉ names

namespace LoadedClass

variable {name : Text} {names : List Text}

theorem isLastPlace_cons_zero {first : Text} :
    IsLastPlace (first :: names) name 0 ↔ first = name ∧ name ∉ names := by
  constructor
  · intro isLast
    refine ⟨Option.some.inj isLast.there, fun present => ?_⟩
    obtain ⟨place, found⟩ := List.mem_iff_getElem?.mp present
    exact isLast.last (place + 1) (Nat.succ_pos place) found
  · rintro ⟨rfl, absent⟩
    refine ⟨rfl, fun later behind found => ?_⟩
    obtain ⟨place, rfl⟩ := Nat.exists_eq_add_of_lt behind
    rw [Nat.zero_add] at found
    exact absent (List.mem_iff_getElem?.mpr ⟨place, found⟩)

theorem isLastPlace_cons_succ {first : Text} {place : Nat} :
    IsLastPlace (first :: names) name (place + 1) ↔ IsLastPlace names name place := by
  constructor
  · rintro ⟨there, last⟩
    exact ⟨there, fun later behind => last (later + 1) (Nat.succ_lt_succ behind)⟩
  · rintro ⟨there, last⟩
    refine ⟨there, fun later behind => ?_⟩
    cases later with
    | zero => exact absurd behind (Nat.not_lt_zero _)
    | succ later => exact last later (Nat.lt_of_succ_lt_succ behind)

/-- A later declaration of a name hides the first one. -/
theorem lastPlace?_cons (name first : Text) (names : List Text) :
    lastPlace? name (first :: names) =
      ((lastPlace? name names).map (· + 1)).or (if first = name then some 0 else none) := by
  have behind : ((names.zipIdx 1).filter fun row => row.1 == name).getLast? =
      ((names.zipIdx.filter fun row => row.1 == name).getLast?).map
        fun row => (row.1, row.2 + 1) := by
    rw [List.zipIdx_succ, List.filter_map, List.getLast?_map]
    rfl
  unfold lastPlace?
  rw [List.zipIdx_cons, List.filter_cons]
  by_cases same : first = name
  · have here : ((first, 0).1 == name) = true := by simpa using same
    rw [if_pos here, if_pos same, List.getLast?_cons, behind]
    cases (names.zipIdx.filter fun row => row.1 == name).getLast? <;> rfl
  · have other : ¬ ((first, 0).1 == name) = true := by simpa using same
    rw [if_neg other, if_neg same, behind]
    cases (names.zipIdx.filter fun row => row.1 == name).getLast? <;> rfl

theorem lastPlace?_eq_none_iff : lastPlace? name names = none ↔ name ∉ names := by
  induction names with
  | nil => exact ⟨fun _ => nofun, fun _ => rfl⟩
  | cons first rest ih =>
    rw [lastPlace?_cons, List.mem_cons, not_or, ← ih, eq_comm (a := name)]
    by_cases same : first = name <;> simp [same]

theorem lastPlace?_eq_some_iff {place : Nat} :
    lastPlace? name names = some place ↔ IsLastPlace names name place := by
  induction names generalizing place with
  | nil => exact ⟨nofun, fun isLast => nomatch isLast.there⟩
  | cons first rest ih =>
    rw [lastPlace?_cons]
    cases place with
    | zero =>
      rw [isLastPlace_cons_zero, ← lastPlace?_eq_none_iff]
      cases lastPlace? name rest <;> simp
    | succ place =>
      rw [isLastPlace_cons_succ, ← ih]
      cases lastPlace? name rest <;> by_cases same : first = name <;> simp [same]

theorem findsLast_lastPlace? (names : List Text) (name : Text) :
    FindsLast names name ((lastPlace? name names).elim (.error (.notFound name)) .ok) := by
  cases found : lastPlace? name names with
  | some place =>
    have isLast := lastPlace?_eq_some_iff.mp found
    refine ⟨fun other => ?_, fun fault => ⟨nofun, fun missing => ?_⟩⟩
    · rw [← lastPlace?_eq_some_iff, found]
      exact ⟨fun same => congrArg some (Except.ok.inj same),
        fun same => congrArg Except.ok (Option.some.inj same)⟩
    · exact absurd (List.mem_of_getElem? isLast.there) missing.2
  | none =>
    have absent := lastPlace?_eq_none_iff.mp found
    refine ⟨fun place => ⟨nofun, fun isLast => ?_⟩, fun fault => ?_⟩
    · exact absurd (List.mem_of_getElem? isLast.there) absent
    · exact ⟨fun same => ⟨(Except.error.inj same).symm, absent⟩,
        fun missing => congrArg Except.error missing.1.symm⟩

/-- The last of all places with a name, as a scan of the members gives them. -/
theorem lastPlace?_map {α : Type} (nameOf : α → Text) (members : List α) (name : Text) :
    lastPlace? name (members.map nameOf) =
      ((members.zipIdx.filter fun row => nameOf row.1 == name).map Prod.snd).getLast? := by
  unfold lastPlace?
  rw [List.zipIdx_map, List.filter_map, List.getLast?_map, List.getLast?_map, Option.map_map]
  rfl

end LoadedClass

namespace SymbolTable

theorem run_mapM_utf8 {α : Type} {members : List α} {indexOf : α → Nat} {nameOf : α → Text}
    (table : SymbolTable)
    (named : ∀ member ∈ members, table.pool.utf8 (indexOf member) = .ok (nameOf member)) :
    ((members.map indexOf).mapM fun (index : Nat) => utf8 index).run table =
      (.ok (members.map nameOf), { table with lookups := table.lookups + members.length }) := by
  induction members generalizing table with
  | nil => rfl
  | cons member rest ih =>
    have first : (utf8 (indexOf member)).run table =
        (.ok (nameOf member), { table with lookups := table.lookups + 1 }) := by
      rw [← named member List.mem_cons_self]
      rfl
    have others := ih { table with lookups := table.lookups + 1 } fun other later =>
      named other (List.mem_cons_of_mem _ later)
    have total : table.lookups + 1 + rest.length = table.lookups + (rest.length + 1) := by omega
    rw [List.map_cons, List.mapM_cons, run_bind_of_ok first, run_bind_of_ok others, total]
    rfl

end SymbolTable

namespace LoadedClass

/-- A search by name among some members of the pool, which were sought before or not. Only the
first one costs lookups. -/
theorem place_eq {α : Type} {members : List α} {indexOf : α → Nat} {nameOf : α → Text}
    {symbols : SymbolTable}
    (named : ∀ member ∈ members, symbols.pool.utf8 (indexOf member) = .ok (nameOf member))
    (sought : Bool) (name : Text) :
    place name (if sought then some (members.map nameOf) else none) (members.map indexOf) symbols =
      ((lastPlace? name (members.map nameOf)).elim (.error (.notFound name)) .ok,
        some (members.map nameOf),
        { symbols with
          lookups := symbols.lookups + if sought then 0 else members.length }) := by
  cases sought with
  | true =>
    have known : (pure (members.map nameOf) : Lookup (List Text)).run symbols =
        (.ok (members.map nameOf), symbols) := rfl
    cases last : lastPlace? name (members.map nameOf) <;>
      simp only [place, ↓reduceIte, known, last, Option.elim, Nat.add_zero]
  | false =>
    have found := SymbolTable.run_mapM_utf8 symbols named
    cases last : lastPlace? name (members.map nameOf) <;>
      simp only [place, Bool.false_eq_true, ↓reduceIte, found, last, Option.elim]

/-- Which names of members are known, and that they are the names in the file. -/
structure Indexed (loaded : LoadedClass) (fields methods : Bool) : Prop where
  fieldNames : loaded.fieldNames =
    if fields then some (loaded.file.fields.map (·.name)) else none
  methodNames : loaded.methodNames =
    if methods then some (loaded.file.methods.map (·.name)) else none

theorem Indexed.ofFile (file : ClassFile) : (ofFile file).Indexed false false where
  fieldNames := rfl
  methodNames := rfl

variable {loaded : LoadedClass} {fields methods : Bool}

theorem findField_eq (sound : loaded.Sound) (indexed : loaded.Indexed fields methods)
    (name : Text) :
    loaded.findField name =
      ((lastPlace? name (loaded.file.fields.map (·.name))).elim (.error (.notFound name)) .ok,
        { loaded with
          fieldNames := some (loaded.file.fields.map (·.name))
          symbols := { loaded.symbols with
            lookups :=
              loaded.symbols.lookups + if fields then 0 else loaded.file.fields.length } }) := by
  have named := sound.resolved.fieldName
  rw [← sound.pool] at named
  rw [findField, indexed.fieldNames, place_eq named]

theorem findMethod_eq (sound : loaded.Sound) (indexed : loaded.Indexed fields methods)
    (name : Text) :
    loaded.findMethod name =
      ((lastPlace? name (loaded.file.methods.map (·.name))).elim (.error (.notFound name)) .ok,
        { loaded with
          methodNames := some (loaded.file.methods.map (·.name))
          symbols := { loaded.symbols with
            lookups :=
              loaded.symbols.lookups + if methods then 0 else loaded.file.methods.length } }) := by
  have named := sound.resolved.methodName
  rw [← sound.pool] at named
  rw [findMethod, indexed.methodNames, place_eq named]

end LoadedClass

namespace Operation

def seeksField : Operation → Bool
  | .findField _ => true
  | _ => false

def seeksMethod : Operation → Bool
  | .findMethod _ => true
  | _ => false

variable {loaded later : LoadedClass} {fields methods : Bool}

theorem indexed_of_same (indexed : loaded.Indexed fields methods) (file : later.file = loaded.file)
    (fieldNames : later.fieldNames = loaded.fieldNames)
    (methodNames : later.methodNames = loaded.methodNames) : later.Indexed fields methods where
  fieldNames := by rw [fieldNames, file, indexed.fieldNames]
  methodNames := by rw [methodNames, file, indexed.methodNames]

theorem indexed_withMember {α : Type} {act : α → LoadedClass → Option Refusal × LoadedClass}
    (indexed : loaded.Indexed fields methods)
    (each : ∀ member, (act member loaded).2.Indexed fields methods) (member? : Option α) :
    (withMember act member? loaded).2.Indexed fields methods := by
  cases member? with
  | some member => exact each member
  | none => exact indexed

theorem indexed_findField (sound : loaded.Sound) (indexed : loaded.Indexed fields methods)
    (name : Text) : (loaded.findField name).2.Indexed true methods := by
  rw [LoadedClass.findField_eq sound indexed]
  exact { fieldNames := rfl, methodNames := indexed.methodNames }

theorem indexed_findMethod (sound : loaded.Sound) (indexed : loaded.Indexed fields methods)
    (name : Text) : (loaded.findMethod name).2.Indexed fields true := by
  rw [LoadedClass.findMethod_eq sound indexed]
  exact { fieldNames := indexed.fieldNames, methodNames := rfl }

/-- Only a search makes names known, and only those of its own kind. -/
theorem indexed_perform (sound : loaded.Sound) (indexed : loaded.Indexed fields methods)
    (operation : Operation) :
    (operation.perform loaded).2.Indexed (fields || operation.seeksField)
      (methods || operation.seeksMethod) := by
  have unsought {step : LoadedClass} (still : step.Indexed fields methods) :
      step.Indexed (fields || false) (methods || false) := by
    rwa [Bool.or_false, Bool.or_false]
  have same {step : LoadedClass} (file : step.file = loaded.file)
      (fieldNames : step.fieldNames = loaded.fieldNames)
      (methodNames : step.methodNames = loaded.methodNames) :
      step.Indexed (fields || false) (methods || false) :=
    unsought (indexed_of_same indexed file fieldNames methodNames)
  cases operation with
  | findField name =>
    have found := indexed_findField sound indexed name
    rwa [← Bool.or_true fields, ← Bool.or_false methods] at found
  | findMethod name =>
    have found := indexed_findMethod sound indexed name
    rwa [← Bool.or_false fields, ← Bool.or_true methods] at found
  | analyseMethod place =>
    simp only [perform, LoadedClass.analyseMethod]
    split <;> exact same rfl rfl rfl
  | analyseAll selection =>
    simp only [perform, LoadedClass.analyseAll]
    split <;> exact same rfl rfl rfl
  | signature place includeAbstract =>
    exact unsought (indexed_withMember indexed (fun _ => indexed_of_same indexed rfl rfl rfl) _)
  | drawField place printer =>
    exact unsought (indexed_withMember indexed (fun _ => indexed_of_same indexed rfl rfl rfl) _)
  | drawMethod place printer =>
    exact unsought (indexed_withMember indexed (fun _ => indexed_of_same indexed rfl rfl rfl) _)
  | _ => exact same rfl rfl rfl

theorem indexed_after (sound : loaded.Sound) (indexed : loaded.Indexed fields methods)
    (history : List Operation) :
    (after history loaded).Indexed (fields || history.any seeksField)
      (methods || history.any seeksMethod) := by
  induction history generalizing loaded fields methods with
  | nil =>
    rw [List.any_nil, List.any_nil, Bool.or_false, Bool.or_false]
    exact indexed
  | cons operation rest ih =>
    have next := (safe_perform sound operation).sound sound
    have later := ih next (indexed_perform sound indexed operation)
    rw [Bool.or_assoc, Bool.or_assoc] at later
    exact later

end Operation

namespace LoadedClass

/-- Whatever was asked of a decoded class, a member is found by its name: the last declaration of
the name among the members of its kind, which of the methods is the last of all that have it, or
none if there is none. The first search among the fields looks each field up in the pool and the
first among the methods each method, and no other search looks up anything. -/
theorem findsLast_after {data : Array UInt8} {source : Option Text} {loaded : LoadedClass}
    (decoded : decode data source = .ok loaded) (history : List Operation) (name : Text) :
    let now := Operation.after history loaded
    FindsLast (loaded.file.fields.map (·.name)) name (now.findField name).1 ∧
      FindsLast (loaded.file.methods.map (·.name)) name (now.findMethod name).1 ∧
      (now.findMethod name).1 =
        (now.methodsNamed name).getLast?.elim (.error (.notFound name)) .ok ∧
      (now.findField name).2.symbols.lookups = now.symbols.lookups +
        (if history.any Operation.seeksField then 0 else loaded.file.fields.length) ∧
      (now.findMethod name).2.symbols.lookups = now.symbols.lookups +
        (if history.any Operation.seeksMethod then 0 else loaded.file.methods.length) := by
  intro now
  obtain ⟨sound, same⟩ := Operation.sound_after (sound_of_decode decoded) history
  obtain ⟨file, found, rfl⟩ := file_of_decode decoded
  have indexed := Operation.indexed_after (sound_of_decode decoded) (Indexed.ofFile file) history
  have field := findField_eq sound indexed name
  have method := findMethod_eq sound indexed name
  rw [same, Bool.false_or] at field method
  have lastNamed : lastPlace? name ((ofFile file).file.methods.map (·.name)) =
      (now.methodsNamed name).getLast? := by
    rw [lastPlace?_map, methodsNamed, same]
  refine ⟨?_, ?_, ?_, ?_, ?_⟩
  · rw [field]
    exact findsLast_lastPlace? _ name
  · rw [method]
    exact findsLast_lastPlace? _ name
  · rw [method, lastNamed]
  · rw [field]
  · rw [method]

/-- A class with three fields, two of one name, and three methods, two of that name as well. -/
def namesakes : Array UInt8 := #[
  0xCA, 0xFE, 0xBA, 0xBE, 0, 0, 0, 52, 0, 7,
  1, 0, 1, 0x41, 7, 0, 1,
  1, 0, 1, 0x49, 1, 0, 3, 0x28, 0x29, 0x56,
  1, 0, 1, 0x61, 1, 0, 1, 0x62,
  0, 0, 0, 2, 0, 0, 0, 0,
  0, 3, 0, 0, 0, 5, 0, 3, 0, 0, 0, 0, 0, 6, 0, 3, 0, 0, 0, 0, 0, 5, 0, 3, 0, 0,
  0, 3, 0, 0, 0, 5, 0, 4, 0, 0, 0, 0, 0, 5, 0, 4, 0, 0, 0, 0, 0, 6, 0, 4, 0, 0,
  0, 0]

/-- A method was sought before and the class was drawn, but no field was sought: three lookups find
the last field, none the second method. -/
theorem findsLast_after_namesakes :
    ∃ loaded, decode namesakes = .ok loaded ∧
      let now := Operation.after [.findMethod "b", .dump {}, .analyseAll {}] loaded
      (now.findField "a").1 = .ok 2 ∧ (now.findMethod "a").1 = .ok 1 ∧
        (now.findMethod "c").1 = .error (.notFound "c") ∧
        (now.findField "a").2.symbols.lookups = now.symbols.lookups + 3 ∧
        (now.findMethod "a").2.symbols.lookups = now.symbols.lookups := by
  have named : ((decode namesakes).map fun loaded =>
      (loaded.file.fields.map (·.name), loaded.file.methods.map (·.name))) =
        .ok (["a", "b", "a"], ["a", "a", "b"]) :=
    eq_ok_of_toOption (by decide +kernel)
  obtain ⟨loaded, decoded, names⟩ := map_eq_ok_iff.mp named
  obtain ⟨fields, methods⟩ := Prod.mk.inj names
  have many : loaded.file.fields.length = 3 := by
    rw [← List.length_map (f := fun field : Field => field.name), fields]
    rfl
  obtain ⟨field, method, -, fieldCost, methodCost⟩ :=
    findsLast_after decoded [.findMethod "b", .dump {}, .analyseAll {}] "a"
  obtain ⟨-, absent, -⟩ :=
    findsLast_after decoded [.findMethod "b", .dump {}, .analyseAll {}] "c"
  rw [fields] at field
  rw [methods] at method absent
  rw [many] at fieldCost
  refine ⟨loaded, decoded, ?_, ?_, ?_, fieldCost, methodCost⟩
  · exact (field.found 2).mpr (lastPlace?_eq_some_iff.mp (by decide))
  · exact (method.found 1).mpr (lastPlace?_eq_some_iff.mp (by decide))
  · exact (absent.missing _).mpr ⟨rfl, by decide⟩

end LoadedClass

end ClassOutline
