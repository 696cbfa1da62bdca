import ClassOutline.Proofs.Members.Types

set_option autoImplicit false

namespace ClassOutline.Descriptor

variable {text : Text}

/-- One step of the search for types: from a place in a text, behind the type that begins there. -/
def Steps (text : Text) (place next : Nat) : Prop :=
  place < text.length ∧
    ∃ length, typeLength? (text.drop place) = some length ∧ next = place + length

/-- A whole search from a place in a text, with the types that it finds. It is over at the end of
the text, or where no type begins. -/
inductive Searches (text : Text) : Nat → Option (List Text) → Prop
  | ended {place : Nat} (outside : text.length ≤ place) : Searches text place (some [])
  | refused {place : Nat} (inside : place < text.length)
    (unfound : typeLength? (text.drop place) = none) : Searches text place none
  | step {place next : Nat} {types : Option (List Text)} (step : Steps text place next)
    (later : Searches text next types) :
    Searches text place (types.map (text.extract place next :: ·))

/-- A type takes at least one character, and it ends within the text. -/
theorem Steps.advances {place next : Nat} (step : Steps text place next) :
    place < next ∧ next ≤ text.length := by
  obtain ⟨inside, length, found, rfl⟩ := step
  have positive := typeLength?_pos found
  obtain ⟨type, rest, cut, rfl, -⟩ := exists_isType_of_typeLength? found
  have fits := congrArg List.length cut
  rw [List.length_drop, List.length_append] at fits
  omega

theorem types?_drop_of_steps {place next : Nat} (step : Steps text place next) :
    types? (text.drop place) = (types? (text.drop next)).map (text.extract place next :: ·) := by
  obtain ⟨-, length, found, rfl⟩ := step
  rw [types?_of_typeLength?_some found, List.drop_drop, List.extract_eq_take_drop,
    Nat.add_sub_cancel_left]

theorem drop_ne_nil {place : Nat} (inside : place < text.length) : text.drop place ≠ [] := by
  rw [Ne, List.drop_eq_nil_iff]
  omega

theorem Searches.eq_types? {place : Nat} {types : Option (List Text)}
    (search : Searches text place types) : types = types? (text.drop place) := by
  induction search with
  | ended outside => rw [List.drop_eq_nil_of_le outside, types?_nil]
  | refused inside unfound => rw [types?_of_typeLength?_none (drop_ne_nil inside) unfound]
  | step step later ih => rw [types?_drop_of_steps step, ih]

/-- A search comes to its end from every place, as less and less of the text is left. -/
theorem searches_types? (text : Text) (place : Nat) :
    Searches text place (types? (text.drop place)) := by
  by_cases inside : place < text.length
  · cases found : typeLength? (text.drop place) with
    | none =>
      rw [types?_of_typeLength?_none (drop_ne_nil inside) found]
      exact .refused inside found
    | some length =>
      have step : Steps text place (place + length) := ⟨inside, length, found, rfl⟩
      have advances := step.advances
      rw [types?_drop_of_steps step]
      exact .step step (searches_types? text (place + length))
  · rw [List.drop_eq_nil_of_le (Nat.le_of_not_lt inside), types?_nil]
    exact .ended (Nat.le_of_not_lt inside)
termination_by text.length - place

/-- A method descriptor is accepted if it can be taken apart into parameters and a result, and these
are what it is read as. There are no others. Each step of the search for its parameters goes ahead
within the text, and the search comes to an end with the types that are used. -/
theorem method_decomposes (text : Text) :
    (∀ signature, method text = .ok signature ↔ Decomposes text signature) ∧
    (∀ signature other, Decomposes text signature → Decomposes text other → signature = other) ∧
    ∀ parameters : Text,
      (∀ place next, Steps parameters place next → place < next ∧ next ≤ parameters.length) ∧
      ∀ types, Searches parameters 0 types ↔ types = types? parameters := by
  refine ⟨fun signature => method_eq_ok_iff, fun signature other taken again => ?_,
    fun parameters => ⟨fun place next step => step.advances, fun types => ?_⟩⟩
  · have parsed := method_eq_ok_iff.mpr taken
    rw [method_eq_ok_iff.mpr again] at parsed
    exact (Except.ok.inj parsed).symm
  · constructor
    · intro search
      exact search.eq_types?
    · rintro rfl
      exact searches_types? parameters 0

/-- The descriptor `(I[LA;)V` has an `int` and an array of `A` as its parameters. -/
theorem method_decomposes_array :
    let signature : Signature := { parameters := ["I", "[LA;"], result := "V" }
    method "(I[LA;)V" = .ok signature ∧
      (∀ other, Decomposes "(I[LA;)V" other → other = signature) ∧
      Searches "I[LA;" 0 (some signature.parameters) := by
  intro signature
  have parameters : ∀ type ∈ signature.parameters, field type = .ok type ∧ 0x29 ∉ type :=
    List.forall_mem_cons.mpr ⟨⟨rfl, by decide⟩, List.forall_mem_singleton.mpr ⟨rfl, by decide⟩⟩
  have decomposes : Decomposes "(I[LA;)V" signature := ⟨parameters, .inl rfl, by decide⟩
  obtain ⟨accepted, unique, search⟩ := method_decomposes "(I[LA;)V"
  refine ⟨(accepted signature).mpr decomposes, fun other taken => ?_, ?_⟩
  · exact unique other signature taken decomposes
  · exact ((search "I[LA;").2 _).mpr (by cbv)

end ClassOutline.Descriptor
