import ClassOutline.Proofs.Analysis.Verdict
import ClassOutline.Proofs.Loaded.Rendering

set_option autoImplicit false

namespace ClassOutline

namespace LoadedClass

/-- The methods that a selection asks for, each with its place, in the order of the file. -/
def selected (selection : Selection) (loaded : LoadedClass) : List (Method × Nat) :=
  loaded.file.methods.zipIdx.filter fun row => selection.AsksFor row.1.name

def failures (selection : Selection) (loaded : LoadedClass) : List AnalysisOutcome :=
  (loaded.analyseMethods selection).1.filter fun outcome => outcome.fault?.isSome

/-- What an analysis comes to for a class that was `fresh` when it was decoded. Its outcomes are
those of the selected methods on their own. The summaries of those that have one are stored, and
nothing else changes. It ends with the failures if there are any and they count. -/
structure Isolates (fresh now : LoadedClass) (selection : Selection) : Prop where
  outcomes : (now.analyseMethods selection).1.map
      (fun outcome => (outcome.name, outcome.descriptor, some outcome.result)) =
    (fresh.selected selection).map fun row =>
      (row.1.name, row.1.descriptor, (fresh.analyseMethod row.2).1)
  stored : ∀ (place : Nat) (method : Method) (summary : CodeSummary),
    fresh.file.methods[place]? = some method →
    selection.AsksFor method.name → method.analyse = .ok (some summary) →
    (now.analyseMethods selection).2.summaries[place]? = some (some summary)
  kept : ∀ (place : Nat) (method : Method), fresh.file.methods[place]? = some method →
    ¬(selection.AsksFor method.name ∧ ∃ summary, method.analyse = .ok (some summary)) →
    (now.analyseMethods selection).2.summaries[place]? = now.summaries[place]?
  unchanged : (now.analyseMethods selection).2 =
    { now with summaries := (now.analyseMethods selection).2.summaries }
  aggregated : now.analyseAll selection =
    (if selection.raiseOnFailure = true ∧ now.failures selection ≠ [] then
        .error (now.failures selection)
      else .ok (now.analyseMethods selection).1,
      (now.analyseMethods selection).2)

section

variable {loaded : LoadedClass} (selection : Selection)

theorem analyseMethod_eq {place : Nat} {method : Method}
    (found : loaded.file.methods[place]? = some method) :
    (loaded.analyseMethod place).1 = some method.analyse := by
  rw [analyseMethod, found]

theorem outcomes_eq {fresh now : LoadedClass} (same : now.file = fresh.file) :
    (now.analyseMethods selection).1.map
        (fun outcome => (outcome.name, outcome.descriptor, some outcome.result)) =
      (fresh.selected selection).map fun row =>
        (row.1.name, row.1.descriptor, (fresh.analyseMethod row.2).1) := by
  -- The places are needed to analyse each method alone; the class itself goes by the methods.
  have rows : (fresh.file.methods.filter fun method => selection.includes method.name) =
      (fresh.selected selection).map Prod.fst := by
    have split := List.filter_map (f := Prod.fst) (l := fresh.file.methods.zipIdx)
      (p := fun method : Method => selection.includes method.name)
    rw [List.zipIdx_map_fst] at split
    simp only [selected, ← Selection.includes_eq_decide]
    exact split
  rw [analyseMethods, same, rows, List.map_map, List.map_map]
  apply List.map_congr_left
  rintro ⟨method, place⟩ row
  have found := List.mk_mem_zipIdx_iff_getElem?.mp (List.mem_filter.mp row).1
  rw [analyseMethod_eq found]
  rfl

theorem updated_of_no_summary {old : Option CodeSummary}
    {result : Except AnalysisFault (Option CodeSummary)}
    (none : ∀ summary, result ≠ .ok (some summary)) : updated old result = old := by
  unfold updated
  split
  · exact absurd rfl (none _)
  · rfl

/-- The summary of a selected method is brought up to date, that of any other stays. -/
theorem summaries_analyseMethods (matched : loaded.summaries.length = loaded.file.methods.length)
    {place : Nat} {method : Method} (found : loaded.file.methods[place]? = some method) :
    ∃ old, loaded.summaries[place]? = some old ∧
      (loaded.analyseMethods selection).2.summaries[place]? =
        some (if selection.AsksFor method.name then updated old method.analyse else old) := by
  obtain ⟨inside, -⟩ := List.getElem?_eq_some_iff.mp found
  have before := List.getElem?_eq_getElem (matched ▸ inside)
  refine ⟨_, before, ?_⟩
  have row : (loaded.file.methods.zip loaded.summaries)[place]? = some (method, _) :=
    List.getElem?_zip_eq_some.mpr ⟨found, before⟩
  simp only [analyseMethods, List.getElem?_map, row, Option.map_some, Selection.includes_iff]

theorem analyseAll_eq_failures : loaded.analyseAll selection =
    (if selection.raiseOnFailure = true ∧ loaded.failures selection ≠ [] then
        .error (loaded.failures selection)
      else .ok (loaded.analyseMethods selection).1,
      (loaded.analyseMethods selection).2) := by
  have raises : (!(loaded.failures selection).isEmpty && selection.raiseOnFailure) = true ↔
      selection.raiseOnFailure = true ∧ loaded.failures selection ≠ [] := by
    rw [Bool.and_eq_true, Bool.not_eq_true', List.isEmpty_eq_false_iff, and_comm]
  have ending : loaded.analyseAll selection =
      if !(loaded.failures selection).isEmpty && selection.raiseOnFailure then
        (.error (loaded.failures selection), (loaded.analyseMethods selection).2)
      else (.ok (loaded.analyseMethods selection).1, (loaded.analyseMethods selection).2) := rfl
  simp only [ending, raises]
  split <;> rfl

/-- An analysis isolates the methods of a class that has the file and as many summaries. -/
theorem isolates {fresh now : LoadedClass} (same : now.file = fresh.file)
    (matched : now.summaries.length = now.file.methods.length) : fresh.Isolates now selection where
  outcomes := outcomes_eq selection same
  stored := by
    intro place method summary found included success
    rw [← same] at found
    obtain ⟨old, -, after⟩ := summaries_analyseMethods selection matched found
    rw [after, if_pos included, success]
    rfl
  kept := by
    intro place method found without
    rw [← same] at found
    obtain ⟨old, before, after⟩ := summaries_analyseMethods selection matched found
    rw [after, before]
    by_cases included : selection.AsksFor method.name
    · rw [if_pos included, updated_of_no_summary fun summary success =>
        without ⟨included, summary, success⟩]
    · rw [if_neg included]
  unchanged := rfl
  aggregated := analyseAll_eq_failures selection

end

/-- Whatever was asked of a decoded class, an analysis isolates its methods, and what each of them
comes to is what it deserves. -/
theorem isolates_after {data : Array UInt8} {source : Option Text} {loaded : LoadedClass}
    (decoded : decode data source = .ok loaded) (history : List Operation) (selection : Selection) :
    loaded.Isolates (Operation.after history loaded) selection ∧
      ∀ method ∈ loaded.file.methods, method.Judged := by
  obtain ⟨sound, same⟩ := Operation.sound_after (sound_of_decode decoded) history
  obtain ⟨file, found, rfl⟩ := file_of_decode decoded
  have resolved := (ClassFile.decode_eq_ok_iff.mp found).1.resolved
  have knows := Operation.knows_after (knows_ofFile resolved) history
  exact ⟨isolates selection same knows.matched, fun method listed =>
    Method.judged_of_method (resolved.signature method listed)⟩

/-- A class with a static method, an abstract one, one that lacks its code, and one with an
exception table that runs past the code. -/
def faultyClass : Array UInt8 := #[
  0xCA, 0xFE, 0xBA, 0xBE, 0, 0, 0, 52, 0, 9,
  1, 0, 1, 0x41, 7, 0, 1,
  1, 0, 4, 0x43, 0x6F, 0x64, 0x65,
  1, 0, 3, 40, 41, 0x56,
  1, 0, 1, 0x61, 1, 0, 1, 0x62, 1, 0, 1, 0x63, 1, 0, 1, 0x64,
  0, 0, 0, 2, 0, 0, 0, 0, 0, 0, 0, 4,
  0, 8, 0, 5, 0, 4, 0, 1, 0, 3, 0, 0, 0, 13, 0, 0, 0, 0, 0, 0, 0, 1, 0xB1, 0, 0, 0, 0,
  4, 0, 0, 6, 0, 4, 0, 0,
  0, 0, 0, 7, 0, 4, 0, 0,
  0, 0, 0, 8, 0, 4, 0, 1,
  0, 3, 0, 0, 0, 21, 0, 0, 0, 1, 0, 0, 0, 1, 0xB1, 0, 1, 0, 0, 0, 9, 0, 0, 0, 0, 0, 0,
  0, 0]

/-- Two of the methods fail, and a third is left out. -/
theorem isolates_after_faultyClass :
    ∃ loaded, decode faultyClass = .ok loaded ∧
      (loaded.analyseMethods {}).1.map AnalysisOutcome.fault? =
        [none, none, some .missingCode, some (.handlerOutside ⟨0, 9, 0, none⟩ 1)] ∧
      loaded.Isolates (Operation.after [.analyseAll {}, .className, .dump {}] loaded)
        { skip := ["c"] } ∧
      ∀ method ∈ loaded.file.methods, method.Judged := by
  have analysed : ((decode faultyClass).map fun loaded =>
      (loaded.analyseMethods {}).1.map AnalysisOutcome.fault?) =
        .ok [none, none, some .missingCode, some (.handlerOutside ⟨0, 9, 0, none⟩ 1)] :=
    eq_ok_of_toOption (by decide +kernel)
  obtain ⟨loaded, decoded, faults⟩ := map_eq_ok_iff.mp analysed
  exact ⟨loaded, decoded, faults, isolates_after decoded _ _⟩

end LoadedClass

end ClassOutline
