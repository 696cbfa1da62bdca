import ClassOutline.Command.Spool
import ClassOutline.Proofs.ClassFile.Format

set_option autoImplicit false

namespace ClassOutline

namespace Text

theorem utf8_append (front back : Text) : utf8 (front ++ back) = utf8 front ++ utf8 back := by
  simp only [utf8, List.map_append, String.toUTF8, String.toByteArray_ofList,
    List.utf8Encode_append, ByteArray.data_append]

theorem escapeSurrogates_append (front back : Text) :
    escapeSurrogates (front ++ back) = escapeSurrogates front ++ escapeSurrogates back :=
  List.flatMap_append

theorem utf8_escapeSurrogates_comment (rest : Text) :
    (utf8 (escapeSurrogates (0x2F :: rest)))[0]? = some 0x2F := by
  have slash : utf8 [0x2F] = #[0x2F] := rfl
  have split : escapeSurrogates (0x2F :: rest) = [0x2F] ++ escapeSurrogates rest := rfl
  rw [split, utf8_append, slash]
  exact Array.getElem?_append_left Nat.zero_lt_one

end Text

namespace Command.Spool

theorem foldl_append_encoded (pieces : List Text) (front : Array UInt8) :
    (pieces.map fun piece => Text.utf8 (Text.escapeSurrogates piece)).foldl (· ++ ·) front =
      front ++ Text.utf8 (Text.escapeSurrogates pieces.flatten) := by
  induction pieces generalizing front with
  | nil => exact Array.append_empty.symm
  | cons piece rest ih =>
    rw [List.map_cons, List.foldl_cons, ih, List.flatten_cons, Text.escapeSurrogates_append,
      Text.utf8_append, Array.append_assoc]

theorem exists_contents_eq (pieces : List Text) :
    ∃ count, contents pieces =
      (Text.utf8 (Text.escapeSurrogates pieces.flatten)).extract 0 count := by
  unfold contents
  dsimp only
  rw [foldl_append_encoded, Array.empty_append]
  exact ⟨_, rfl⟩

end Command.Spool

theorem Preamble.StandsIn.first {data : Array UInt8} {preamble : Preamble}
    (stands : preamble.StandsIn data) : data[0]? = some 0xCA := by
  have magic : View.bigEndian (data.toList.take 4) = 0xCAFEBABE := by
    have found := stands.magic
    simp only [View.numberAt, Array.toList_extract, List.extract_eq_take_drop, List.drop_zero,
      Nat.zero_add, Nat.sub_zero] at found
    exact found
  rw [← Array.getElem?_toList]
  match bytes : data.toList with
  | [] | [_] | [_, _] | [_, _, _] =>
    rw [bytes] at magic
    simp only [View.bigEndian, List.take, List.foldl_cons, List.foldl_nil] at magic
    have bound := UInt8.toNat_lt
    grind
  | first :: second :: third :: fourth :: rest =>
    rw [bytes] at magic
    simp only [View.bigEndian, List.take, List.foldl_cons, List.foldl_nil] at magic
    have bounds := And.intro second.toNat_lt (And.intro third.toNat_lt fourth.toNat_lt)
    have same : first = 0xCA := by
      apply UInt8.toNat_inj.mp
      show first.toNat = 0xCA
      omega
    rw [same, List.getElem?_cons_zero]

/-- What is stored of a listing that starts with a comment does not start as a class file. -/
theorem Command.Spool.exists_read_contents_eq_error {pieces : List Text}
    (comment : pieces.flatten = [] ∨ pieces.flatten.head? = some 0x2F) (source : Option Text) :
    ∃ error, Preamble.read { data := contents pieces, source } = .error error := by
  cases found : Preamble.read { data := contents pieces, source } with
  | error error => exact ⟨error, rfl⟩
  | ok preamble =>
    have first := ((Preamble.read_eq_ok_iff rfl).mp found).1.first
    obtain ⟨count, beginning⟩ := exists_contents_eq pieces
    rw [beginning, Array.getElem?_extract] at first
    split at first
    · rcases comment with empty | slash
      · rw [empty] at first
        cases first
      · cases shown : pieces.flatten with
        | nil =>
          rw [shown] at slash
          cases slash
        | cons point rest =>
          rw [shown, List.head?_cons, Option.some.injEq] at slash
          rw [shown, slash, Nat.add_zero, Text.utf8_escapeSurrogates_comment] at first
          cases first
    · cases first

end ClassOutline
