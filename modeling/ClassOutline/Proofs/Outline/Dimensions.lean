import ClassOutline.LoadedClass
import ClassOutline.Proofs.Effects.Steps

set_option autoImplicit false

namespace ClassOutline

section

variable {m : Type → Type} [Monad m] {α β : Type} {items : List α}

theorem mapM_congr [LawfulMonad m] {first second : α → m β}
    (same : ∀ item ∈ items, first item = second item) : items.mapM first = items.mapM second := by
  induction items with
  | nil => rfl
  | cons item rest ih =>
    obtain ⟨here, later⟩ := List.forall_mem_cons.mp same
    rw [List.mapM_cons, List.mapM_cons, here, ih later]

theorem forM_congr {first second : α → m Unit}
    (same : ∀ item ∈ items, first item = second item) : items.forM first = items.forM second := by
  induction items with
  | nil => rfl
  | cons item rest ih =>
    obtain ⟨here, later⟩ := List.forall_mem_cons.mp same
    show (first item >>= fun _ => rest.forM first) = (second item >>= fun _ => rest.forM second)
    rw [here, ih later]

end

namespace Draw

variable {α β : Type}

theorem run_lookup (search : Lookup α) (canvas : Canvas) :
    (lookup search).run canvas =
      ((search.run canvas.symbols).1.mapError .symbol,
        { canvas with symbols := (search.run canvas.symbols).2 }) := rfl

theorem lookup_bind (search : Lookup α) (rest : α → Lookup β) :
    lookup (search >>= rest) = lookup search >>= fun value => lookup (rest value) := by
  funext canvas
  show (lookup (search >>= rest)).run canvas = (lookup search >>= _).run canvas
  rw [run_bind, run_lookup, run_lookup, run_bind]
  rcases search.run canvas.symbols with ⟨_ | _, symbols⟩ <;> rfl

theorem lookup_map (change : α → β) (search : Lookup α) :
    lookup (change <$> search) = change <$> lookup search := by
  rw [map_eq_pure_bind, map_eq_pure_bind, lookup_bind]
  rfl

theorem lookup_mapM (items : List α) (search : α → Lookup β) :
    lookup (items.mapM search) = items.mapM fun item => lookup (search item) := by
  induction items with
  | nil => rfl
  | cons item rest ih =>
    simp only [List.mapM_cons, lookup_bind, ih]
    rfl

end Draw

namespace Descriptor

section

variable {m : Type → Type} [Monad m] (exhausted : m Text) (classText : Text → m Text)

theorem formatWithin_array (room : Nat) (element : Text) :
    formatWithin exhausted classText (room + 1) (0x5B :: element) =
      (do return (← formatWithin exhausted classText room element) ++ "[]") := by
  rw [formatWithin.eq_def]
  rfl

theorem formatWithin_full (element : Text) :
    formatWithin exhausted classText 0 (0x5B :: element) = exhausted := by
  rw [formatWithin.eq_def]
  rfl

theorem formatWithin_other {first : CodePoint} (notArray : first ≠ 0x5B) (room : Nat)
    (rest : Text) :
    formatWithin exhausted classText room (first :: rest) = format classText (first :: rest) := by
  rw [formatWithin.eq_def]
  exact if_neg notArray

theorem format_array (element : Text) :
    format classText (0x5B :: element) =
      (do return (← format classText element) ++ "[]") := by
  rw [format, if_pos rfl]

/-- A type with room for its dimensions is written as without a limit. -/
theorem formatWithin_of_le {room : Nat} {text : Text} (fits : dimensions text ≤ room) :
    formatWithin exhausted classText room text = format classText text := by
  induction text generalizing room with
  | nil => rw [formatWithin, format]
  | cons first rest ih =>
    by_cases isArray : first = 0x5B
    · subst isArray
      rw [dimensions_array] at fits
      obtain ⟨left, rfl⟩ := Nat.exists_eq_add_one_of_ne_zero (Nat.ne_zero_of_lt fits)
      rw [formatWithin_array, format_array, ih (Nat.le_of_succ_le_succ fits)]
    · exact formatWithin_other exhausted classText isArray room rest

theorem formatWithin_of_lt {room : Nat} {text : Text}
    (ends : ∀ rest : Text → m Text, exhausted >>= rest = exhausted)
    (tooMany : room < dimensions text) :
    formatWithin exhausted classText room text = exhausted := by
  induction text generalizing room with
  | nil => exact absurd tooMany (Nat.not_lt_zero room)
  | cons first rest ih =>
    by_cases isArray : first = 0x5B
    · subst isArray
      rw [dimensions_array] at tooMany
      cases room with
      | zero => exact formatWithin_full exhausted classText rest
      | succ left => rw [formatWithin_array, ih (Nat.lt_of_succ_lt_succ tooMany), ends]
    · rw [dimensions_other isArray] at tooMany
      exact absurd tooMany (Nat.not_lt_zero room)

end

theorem lookup_format (classText : Text → Lookup Text) (text : Text) :
    Draw.lookup (format classText text) =
      format (fun name => Draw.lookup (classText name)) text := by
  induction text with
  | nil => rfl
  | cons first rest ih =>
    rw [format, format]
    split
    · rw [Draw.lookup_bind, ih]
      rfl
    · split
      · rfl
      · split <;> rfl

end Descriptor

/-- The types that a signature shows. A constructor has no result there, and a class initialiser
has no signature. -/
def Method.shownTypes (method : Method) : List Text :=
  if method.name = "<clinit>" then []
  else if method.name = "<init>" then method.signature.parameters
  else method.signature.parameters ++ [method.signature.result]

/-- The types that the members of a class show. An interface shows no fields. -/
def ClassFile.shownTypes (file : ClassFile) : List Text :=
  (if file.isInterface then [] else file.fields.map (·.descriptor)) ++
    file.methods.flatMap (·.shownTypes)

namespace Declaration

theorem typeTextWithin_of_le {stack : Stack} {type : Text}
    (fits : Descriptor.dimensions type ≤ stack.dimensions) :
    typeTextWithin stack type = unboundedTypeText type := by
  unfold typeTextWithin unboundedTypeText typeText
  rw [Descriptor.formatWithin_of_le _ _ fits, Descriptor.lookup_format]

theorem typeTextWithin_of_lt {stack : Stack} {type : Text}
    (tooMany : stack.dimensions < Descriptor.dimensions type) :
    typeTextWithin stack type = throw .tooDeep :=
  Descriptor.formatWithin_of_lt _ _ (fun _ => rfl) tooMany

/-- To draw the signature of a method is to look it up. -/
theorem signatureWith_unboundedTypeText (file : ClassFile) (method : Method)
    (includeAbstract : Bool) :
    signatureWith Draw.lookup unboundedTypeText file method includeAbstract =
      Draw.lookup (signature file method includeAbstract) := by
  unfold signature signatureWith parameterWith
  by_cases isInitialiser : method.name = "<clinit>"
  · rw [if_pos isInitialiser, if_pos isInitialiser]
    rfl
  · rw [if_neg isInitialiser, if_neg isInitialiser]
    by_cases isConstructor : method.name = "<init>"
    · simp only [if_pos isConstructor, Draw.lookup_bind, Draw.lookup_mapM]
      rfl
    · simp only [if_neg isConstructor, Draw.lookup_bind, Draw.lookup_mapM, Draw.lookup_map]
      rfl

variable {first second : Text → Draw Text} {file : ClassFile}

/-- A signature depends on how the types in it are written, and on no others. -/
theorem signatureWith_congr {method : Method}
    (same : ∀ type ∈ method.shownTypes, first type = second type) (includeAbstract : Bool) :
    signatureWith Draw.lookup first file method includeAbstract =
      signatureWith Draw.lookup second file method includeAbstract := by
  unfold signatureWith
  unfold Method.shownTypes at same
  by_cases isInitialiser : method.name = "<clinit>"
  · rw [if_pos isInitialiser, if_pos isInitialiser]
  · rw [if_neg isInitialiser] at same
    have inParameters (shown : ∀ type ∈ method.signature.parameters, first type = second type)
        (varargs : Bool) (count : Nat) :
        method.signature.parameters.zipIdx.mapM
            (fun row => parameterWith first varargs count row.1 row.2) =
          method.signature.parameters.zipIdx.mapM
            fun row => parameterWith second varargs count row.1 row.2 := by
      apply mapM_congr
      intro row listed
      unfold parameterWith
      rw [shown row.1 (List.fst_mem_of_mem_zipIdx listed)]
    rw [if_neg isInitialiser, if_neg isInitialiser]
    by_cases isConstructor : method.name = "<init>"
    · rw [if_pos isConstructor] at same
      simp only [if_pos isConstructor, inParameters same]
    · rw [if_neg isConstructor, List.forall_mem_append, List.forall_mem_singleton] at same
      simp only [if_neg isConstructor, inParameters same.1, same.2]

/-- A class depends on how the types in it are written, and on no others. -/
theorem drawWith_congr (same : ∀ type ∈ file.shownTypes, first type = second type)
    (summaries : List (Option CodeSummary)) :
    drawWith first file summaries = drawWith second file summaries := by
  unfold ClassFile.shownTypes at same
  rw [List.forall_mem_append] at same
  obtain ⟨inFields, inMethods⟩ := same
  have signatures (method : Method) (listed : method ∈ file.methods) (includeAbstract : Bool) :
      signatureWith Draw.lookup first file method includeAbstract =
        signatureWith Draw.lookup second file method includeAbstract := by
    apply signatureWith_congr
    exact fun type shown => inMethods type (List.mem_flatMap.mpr ⟨method, listed, shown⟩)
  unfold drawWith
  cases kind : file.isInterface with
  | true =>
    have methods : file.methods.forM (fun method => do
        Draw.change Printer.softBreak
        Draw.print ((← signatureWith Draw.lookup first file method false) ++ ";")) =
        file.methods.forM (fun method => do
          Draw.change Printer.softBreak
          Draw.print ((← signatureWith Draw.lookup second file method false) ++ ";")) :=
      forM_congr fun method listed => by rw [signatures method listed]
    simp only [↓reduceIte, drawAsInterfaceWith, methods]
  | false =>
    rw [kind, if_neg Bool.false_ne_true, List.forall_mem_map] at inFields
    have fields :
        file.fields.forM (drawFieldWith first) = file.fields.forM (drawFieldWith second) :=
      forM_congr fun field listed => by unfold drawFieldWith; rw [inFields field listed]
    have methods : (file.methods.zip summaries).forM (fun row => do
        Draw.change Printer.softBreak
        drawMethodWith first file row.1 row.2) =
        (file.methods.zip summaries).forM (fun row => do
          Draw.change Printer.softBreak
          drawMethodWith second file row.1 row.2) := by
      apply forM_congr
      intro row listed
      unfold drawMethodWith
      rw [signatures row.1 (List.of_mem_zip listed).1]
    simp only [Bool.false_eq_true, ↓reduceIte, drawAsClassWith, fields, methods]

end Declaration

/-- A class with room for all types that it shows is drawn as without a limit. -/
theorem LoadedClass.dumpWithin_eq_dump {stack : Stack} {loaded : LoadedClass}
    (fits : ∀ type ∈ loaded.file.shownTypes, Descriptor.dimensions type ≤ stack.dimensions)
    (printer : Printer) : loaded.dumpWithin stack printer = loaded.dump printer := by
  have same := Declaration.drawWith_congr
    (fun type shown => Declaration.typeTextWithin_of_le (fits type shown)) loaded.summaries
  unfold dumpWithin dump Declaration.draw
  rw [same]

end ClassOutline
