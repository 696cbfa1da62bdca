import ClassOutline.Proofs.ClassFile.Depth
import ClassOutline.Proofs.ClassFile.Encoding

set_option autoImplicit false

namespace ClassOutline

open DecodeError (EntriesStandIn Malformed Unfit)

namespace AttributeDraft

/-- Some code attributes inside one another, each without instructions. -/
def nestedCode : Nat → List AttributeDraft
  | 0 => []
  | levels + 1 => [.code 3 ⟨0, 0, [], []⟩ (nestedCode levels)]

theorem length_nestedCode (levels : Nat) : (nestedCode levels).length ≤ 1 := by
  cases levels with
  | zero => exact Nat.zero_le 1
  | succ levels => exact Nat.le_refl 1

theorem length_allBytes_nestedCode (levels : Nat) :
    (allBytes (nestedCode levels)).length = 18 * levels := by
  induction levels with
  | zero => rfl
  | succ levels ih =>
    simp only [nestedCode, allBytes, body, nameIndex, CodeDraft.bytes, List.length_append,
      length_bigEndianBytes, List.flatMap_nil, List.length_nil, ih]
    omega

theorem depth_nestedCode (levels : Nat) :
    Attribute.depthOfAll (records (nestedCode levels)) = levels := by
  induction levels with
  | zero => rfl
  | succ levels ih =>
    simp only [nestedCode, records, record, Attribute.depthOfAll, Attribute.depth, ih]
    exact Nat.max_zero _

theorem allFit_nestedCode {pool : ConstantPool} (named : pool.utf8 (3 : Nat) = .ok "Code")
    {levels : Nat} (short : 18 * levels < 0x100000000) : AllFit pool (nestedCode levels) := by
  induction levels with
  | zero => trivial
  | succ levels ih =>
    have bytes := length_allBytes_nestedCode (levels + 1)
    rw [nestedCode, allBytes] at bytes
    simp only [List.length_append, length_bigEndianBytes] at bytes
    have few := length_nestedCode levels
    have own : CodeDraft.Fits pool ⟨0, 0, [], []⟩ :=
      ⟨by decide, by decide, by decide, by decide, List.forall_mem_nil _⟩
    exact ⟨⟨⟨named, rfl, by omega⟩, own, by omega, ih (by omega)⟩, trivial⟩

end AttributeDraft

namespace ClassDraft

def nestedCode (levels : Nat) : ClassDraft :=
  { bare with attributes := AttributeDraft.nestedCode levels }

theorem depth_nestedCode (levels : Nat) : (nestedCode levels).file.depth = levels :=
  AttributeDraft.depth_nestedCode levels

theorem fits_nestedCode {levels : Nat} (short : 18 * levels < 0x100000000) :
    (nestedCode levels).Fits := by
  have few := AttributeDraft.length_nestedCode levels
  have named : bare.pool.utf8 (3 : Nat) = .ok "Code" :=
    ConstantPool.utf8_eq_ok_iff.mpr (by decide +kernel)
  exact { bare_fits with
    attributeCount := Nat.lt_of_le_of_lt few (by decide)
    attributes := AttributeDraft.allFit_nestedCode named short }

/-- Code attributes inside one another are not decoded if there is no room for them. -/
theorem decodeWithin_nestedCode {levels : Nat} (short : 18 * levels < 0x100000000) {stack : Stack}
    (deep : stack.attributes < levels) :
    ClassFile.decodeWithin stack (nestedCode levels).bytes.toArray =
      .error (.beyond .depth) := by
  have decoded := (decode_bytes (fits_nestedCode short)).1
  rw [← depth_nestedCode levels] at deep
  exact (ClassFile.decodeWithin_eq_ite decoded).trans (if_neg (Nat.not_le.mpr deep))

variable {draft : ClassDraft}

/-- What is drafted and written is read back, to the last byte, if there is room for the attributes
inside one another. If there is none, it is refused. -/
theorem decodeWithin_bytes (fits : draft.Fits) (stack : Stack) :
    (ClassFile.decodeWithin stack draft.bytes.toArray draft.source =
      if draft.file.depth ≤ stack.attributes then .ok draft.file else .error (.beyond .depth)) ∧
      draft.file.layout.finish = draft.bytes.length := by
  obtain ⟨decoded, finish⟩ := decode_bytes fits
  exact ⟨ClassFile.decodeWithin_eq_ite decoded, finish⟩

/-- Two code attributes, one inside the other, need room for two. -/
theorem decodeWithin_bytes_sample :
    sample.Fits ∧ sample.file.depth = 2 ∧
      ClassFile.decodeWithin {} sample.bytes.toArray sample.source = .ok sample.file ∧
      ClassFile.decodeWithin { attributes := 1 } sample.bytes.toArray sample.source =
        .error (.beyond .depth) ∧
      sample.file.layout.finish = sample.bytes.length := by
  have two : sample.file.depth = 2 := by decide +kernel
  obtain ⟨decoded, finish⟩ := decodeWithin_bytes sample_fits {}
  have refused := (decodeWithin_bytes sample_fits { attributes := 1 }).1
  rw [two] at decoded refused
  exact ⟨sample_fits, two, decoded, refused, finish⟩

/-- Two thousand code attributes inside one another are too many. -/
theorem not_forall_decodeWithin_bytes :
    ¬ ∀ draft : ClassDraft, draft.Fits →
      ClassFile.decodeWithin {} draft.bytes.toArray draft.source = .ok draft.file := by
  intro reads
  have short : 18 * 2000 < 0x100000000 := by decide
  have refused := decodeWithin_nestedCode short (show ({} : Stack).attributes < 2000 by decide)
  cases refused.symm.trans (reads (nestedCode 2000) (fits_nestedCode short))

end ClassDraft

namespace ClassFile

/-- Any bytes are decoded into the class file that stands in them, complete, or hold no class file
at all, unless they come to more attributes inside one another than there is room for. Bytes that
hold none are wrong themselves, at the place that is given, or the pool that they hold has no entry
or no descriptor of the kind that is asked for. -/
theorem decodeWithin_complete_or_refused (stack : Stack) (data : Array UInt8)
    (source : Option Text) :
    (decodeWithin stack data source = .error (.beyond .depth) ↔
      DescendsBeyond stack data source) ∧
    (¬ DescendsBeyond stack data source →
      (∃ file : ClassFile, decodeWithin stack data source = .ok file ∧ file.StandsIn data ∧
        file.source = source) ∨
      ∃ error, decodeWithin stack data source = .error (.decode error) ∧
        (∀ file : ClassFile, file.source = source → ¬ file.StandsIn data) ∧
        (error.fault.isMalformed = true ∧ Malformed data source error ∨
          ∃ entries, EntriesStandIn data entries ∧ Unfit entries source error)) := by
  refine ⟨⟨fun beyond => ?_, decodeWithin_of_descendsBeyond⟩, fun shallow => ?_⟩
  · by_contra shallow
    rw [decodeWithin_of_not shallow] at beyond
    cases decoded : decode data source <;> rw [decoded] at beyond <;> cases beyond
  · rw [decodeWithin_of_not shallow]
    rcases decode_complete_or_refused data source with ⟨file, decoded, stands⟩ |
      ⟨error, refused, reasons⟩
    · exact Or.inl ⟨file, Reached.ofDecoded_eq_ok_iff.mpr decoded, stands⟩
    · refine Or.inr ⟨error, ?_, reasons⟩
      rw [refused]
      rfl

/-- Bytes with 2400 code attributes inside one another come to neither a class nor an error in the
bytes. -/
theorem not_forall_decodeWithin_decided :
    ¬ ∀ (data : Array UInt8) (source : Option Text),
      (∃ file, decodeWithin {} data source = .ok file) ∨
        ∃ error, decodeWithin {} data source = .error (.decode error) := by
  intro decides
  have short : 18 * 2400 < 0x100000000 := by decide
  have beyond := ClassDraft.decodeWithin_nestedCode short
    (show ({} : Stack).attributes < 2400 by decide)
  rcases decides (ClassDraft.nestedCode 2400).bytes.toArray none with ⟨_, decoded⟩ | ⟨_, refused⟩
  · cases beyond.symm.trans decoded
  · cases beyond.symm.trans refused

end ClassFile

end ClassOutline
