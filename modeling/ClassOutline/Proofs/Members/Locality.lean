import ClassOutline.Proofs.Members.Excerpt
import ClassOutline.Proofs.Members.Reading

set_option autoImplicit false

namespace ClassOutline.Attribute

open View (numberAt)

variable {pool : ConstantPool} {source : Option Text} {data : Array UInt8}

/-- The number of bytes that the attribute at the start of some data declares, header included. -/
def declaredSize (data : Array UInt8) : Nat :=
  AttributeHeader.width + numberAt data 2 4

def declaredBytes (data : Array UInt8) : Array UInt8 :=
  data.extract 0 (declaredSize data)

/-- All data that begin with the same attribute give the same content or the same error. -/
def ReadsOwnBytes (pool : ConstantPool) (source : Option Text) (data : Array UInt8) : Prop :=
  ∀ other : Array UInt8, declaredSize data ≤ other.size →
    other.extract 0 (declaredSize data) = declaredBytes data →
      read pool { data := other, source } = read pool { data, source }

theorem size_declaredBytes (complete : declaredSize data ≤ data.size) :
    (declaredBytes data).size = declaredSize data := by
  rw [declaredBytes, Array.size_extract]
  omega

/-- With more bytes behind it an attribute reads the same, unless the bytes ran out. -/
theorem read_append_eq_or_runsOut (pool : ConstantPool) (source : Option Text)
    (data more : Array UInt8) :
    read pool { data := data ++ more, source } = read pool { data, source } ∨
      ∃ error, read pool { data, source } = .error error ∧ error.RunsOut data.size :=
  ((Excerpt.followed_views data more source).attribute pool).eq_or_runsOut rfl

theorem read_honest {error : DecodeError}
    (failed : read pool { data, source } = .error error) : error.Honest data.size :=
  ((Excerpt.followed_views data #[] source).attribute pool).honest failed

/-- The bytes behind an attribute do not matter exactly if it can be read without them. -/
theorem readsOwnBytes_iff (complete : declaredSize data ≤ data.size) :
    ReadsOwnBytes pool source data ↔
      ∀ error, read pool { data := declaredBytes data, source } = .error error →
        ∀ width, error.fault ≠ .truncated width := by
  have size := size_declaredBytes complete
  constructor
  · intro own error failed width truncated
    -- With padding up to where the read was refused it cannot be refused there again.
    obtain ⟨width, position, truncation, place, -⟩ := read_honest failed width truncated
    obtain ⟨padding, long⟩ : ∃ padding : Array UInt8, position + width ≤ padding.size := by
      refine ⟨Array.replicate (position + width).toNat 0, ?_⟩
      rw [Array.size_replicate]
      omega
    have front : (declaredBytes data ++ padding).extract 0 (declaredSize data) =
        declaredBytes data := by
      rw [← size, Array.extract_append_left, Array.extract_size]
    have alone := own (declaredBytes data) (by omega) (by rw [← size, Array.extract_size])
    have padded := own (declaredBytes data ++ padding) (by rw [Array.size_append]; omega) front
    rw [← alone, failed] at padded
    obtain ⟨other, place', again, same, beyond⟩ := read_honest padded width truncation
    rw [truncation] at again
    rw [place] at same
    cases again
    cases same
    rw [Array.size_append] at beyond
    omega
  · intro reads other inside same
    have alone : ∀ {data' : Array UInt8}, declaredSize data ≤ data'.size →
        data'.extract 0 (declaredSize data) = declaredBytes data →
          read pool { data := data', source } =
            read pool { data := declaredBytes data, source } := by
      intro data' inside same
      rw [← Excerpt.extract_append_rest inside, same]
      rcases read_append_eq_or_runsOut pool source (declaredBytes data) _ with
        equal | ⟨error, failed, width, position, truncated, -⟩
      · exact equal
      · exact absurd truncated (reads error failed width)
    rw [alone inside same, alone complete rfl]

theorem numberAt_declaredBytes {position width : Nat}
    (inside : position + width ≤ declaredSize data) :
    numberAt (declaredBytes data) position width = numberAt data position width := by
  rw [numberAt, numberAt, declaredBytes, Array.extract_extract, Nat.zero_add, Nat.zero_add,
    Nat.min_eq_left inside]

/-- The declared bytes suffice for the header. -/
theorem read_declaredBytes_eq (source : Option Text) (complete : declaredSize data ≤ data.size)
    {name : Text}
    (named : pool.utf8 (numberAt data 0 2) = .ok name) :
    ∃ (header : AttributeHeader) (nested : Nat → Decoded Attribute), header.name = name ∧
      read pool { data := declaredBytes data, source } =
        readBody pool { data := declaredBytes data, base := 6, source } header nested := by
  have size := size_declaredBytes complete
  rw [declaredSize, AttributeHeader.width] at size
  have first : 0 + 2 ≤ declaredSize data := by
    rw [declaredSize, AttributeHeader.width]
    omega
  have second : 2 + 4 ≤ declaredSize data := by
    rw [declaredSize, AttributeHeader.width]
    omega
  obtain ⟨header, same, opens⟩ : ∃ header : AttributeHeader, header.name = name ∧
      AttributeHeader.read pool { data := declaredBytes data, source } = .ok header := by
    let body := (declaredBytes data).extract (0 + 6) (0 + 6 + numberAt data 2 4)
    refine ⟨⟨numberAt data 0 2, name, numberAt data 2 4, body⟩, rfl, ?_⟩
    have place : ({ data := declaredBytes data, source : View }).base = (0 : Nat) := rfl
    apply (AttributeHeader.read_eq_ok_iff place).mpr
    exact ⟨(numberAt_declaredBytes first).symm, named, rfl, (numberAt_declaredBytes second).symm,
      rfl, Nat.le_of_eq size.symm⟩
  have split := read_eq pool { data := declaredBytes data, source }
  rw [opens] at split
  exact ⟨header, _, same, split⟩

/-- An index at the start of the body stands within the declared bytes if there are two. -/
theorem index_within_iff (complete : declaredSize data ≤ data.size) {rest : Nat → Decoded Attribute}
    (lookup : ∀ index, ConstantPool.Unresolved (rest index)) :
    (∀ error, ({ data := declaredBytes data, base := 6, source : View }.u2 0 >>= rest) =
      .error error → ∀ width, error.fault ≠ .truncated width) ↔ 2 ≤ numberAt data 2 4 := by
  have size := size_declaredBytes complete
  rw [declaredSize, AttributeHeader.width] at size
  have place : ({ data := declaredBytes data, base := 6, source : View }).base = (6 : Nat) := rfl
  have number := View.unsigned_eq place 2 0
  by_cases fits : 2 ≤ numberAt data 2 4
  · rw [if_pos (by dsimp only; omega)] at number
    refine ⟨fun _ => fits, fun _ error failed width truncated => ?_⟩
    have unresolved := lookup _ error ((congrArg (· >>= rest) number).symm.trans failed)
    rw [truncated] at unresolved
    cases unresolved
  · rw [if_neg (by dsimp only; omega)] at number
    refine ⟨fun reads => ?_, fun enough => absurd enough fits⟩
    exact absurd rfl (reads _ (congrArg (· >>= rest) number) 2)

/-- An attribute depends on bytes behind its declared end exactly if it cannot be read without
them. One whose body is kept as bytes never does; one whose body is an index does if it declares
less than the two bytes of an index. -/
theorem readsOwnBytes_iff_readable (pool : ConstantPool) (source : Option Text)
    (complete : declaredSize data ≤ data.size) :
    (ReadsOwnBytes pool source data ↔
      ∀ error, read pool { data := declaredBytes data, source } = .error error →
        ∀ width, error.fault ≠ .truncated width) ∧
    ∀ name, pool.utf8 (numberAt data 0 2) = .ok name →
      (AttributeKind.ofName name ∈ [.unknown, .deprecated, .synthetic] →
        ReadsOwnBytes pool source data) ∧
      (AttributeKind.ofName name ∈ [.constantValue, .sourceFile, .signature] →
        (ReadsOwnBytes pool source data ↔ 2 ≤ numberAt data 2 4)) := by
  refine ⟨readsOwnBytes_iff complete, ?_⟩
  intro name named
  obtain ⟨header, nested, rfl, alone⟩ := read_declaredBytes_eq source complete named
  rw [readsOwnBytes_iff complete, alone, readBody]
  constructor
  · intro unread error failed
    simp only [List.mem_cons, List.not_mem_nil, or_false] at unread
    rcases unread with kind | kind | kind <;> rw [kind] at failed <;> cases failed
  · intro indexed
    simp only [List.mem_cons, List.not_mem_nil, or_false] at indexed
    rcases indexed with kind | kind | kind <;> rw [kind]
    · exact index_within_iff complete fun index =>
        (ConstantPool.unresolved_literal pool index).bind fun _ => ConstantPool.unresolved_pure _
    · exact index_within_iff complete fun index =>
        (ConstantPool.unresolved_utf8 pool index).bind fun _ => ConstantPool.unresolved_pure _
    · exact index_within_iff complete fun index =>
        (ConstantPool.unresolved_utf8 pool index).bind fun _ => ConstantPool.unresolved_pure _

def sourceFilePool : ConstantPool where
  entries := #[none, some (.utf8 "SourceFile")]
  rawLength := 13

def emptySourceFile : Array UInt8 :=
  #[0, 1, 0, 0, 0, 0]

theorem readsOwnBytes_emptySourceFile :
    declaredSize emptySourceFile ≤ emptySourceFile.size ∧
      (ReadsOwnBytes sourceFilePool none emptySourceFile ↔
        2 ≤ numberAt emptySourceFile 2 4) := by
  have complete : declaredSize emptySourceFile ≤ emptySourceFile.size := by decide
  have named : sourceFilePool.utf8 (numberAt emptySourceFile 0 2) = .ok "SourceFile" := rfl
  have kinds := (readsOwnBytes_iff_readable sourceFilePool none complete).2 _ named
  exact ⟨complete, kinds.2 (by decide)⟩

/-- The content of a source file attribute without a body is taken from the bytes behind it. -/
theorem not_forall_readsOwnBytes :
    ¬ ∀ (pool : ConstantPool) (source : Option Text) (data : Array UInt8),
      declaredSize data ≤ data.size → ReadsOwnBytes pool source data := by
  intro every
  have own := every sourceFilePool none emptySourceFile (by decide)
  have same := own (emptySourceFile ++ #[0, 1]) (by decide) (by decide)
  have found := congrArg Except.isOk same
  revert found
  decide +kernel

end ClassOutline.Attribute
