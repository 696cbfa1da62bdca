import Mathlib.Data.List.Induction
import ClassOutline.Outline.LiteralText
import ClassOutline.Proofs.Text.CodeUnits
import ClassOutline.Proofs.Text.Numerals

set_option autoImplicit false

/- Reading the literals of Java source. A literal is read in two passes: Unicode escapes first, then
the escapes of single letters between the quotes. A text in quotes is read as itself, so no two
texts have the same literal, and nothing in it needs more than visible characters. -/

namespace ClassOutline.LiteralText

def hexValue? (digit : CodePoint) : Option Nat :=
  if 0x30 ≤ digit ∧ digit < 0x3A then some (digit - 0x30)
  else if 0x41 ≤ digit ∧ digit < 0x47 then some (digit - 0x37)
  else if 0x61 ≤ digit ∧ digit < 0x67 then some (digit - 0x57)
  else none

/-- Where the first pass stands: outside of Unicode escapes, with an even or odd number of
backslashes right before; behind the backslash of an escape; or among its digits. -/
inductive Place
  | outside (odd : Bool)
  | opened
  | within (missing value : Nat)

/-- The first pass. A backslash with an even number of backslashes right before it and a `u` behind
it begins an escape. There may be more of the `u`, and then four digits follow. -/
def unescapeUnits? : Place → Text → Option Text
  | .outside _, [] => some []
  | .outside odd, point :: rest =>
    if point = 0x5C then
      if odd = false ∧ rest.head? = some 0x75 then unescapeUnits? .opened rest
      else (unescapeUnits? (.outside !odd) rest).map (point :: ·)
    else (unescapeUnits? (.outside false) rest).map (point :: ·)
  | .opened, point :: rest =>
    if point = 0x75 then unescapeUnits? .opened rest
    else (hexValue? point).bind fun digit => unescapeUnits? (.within 3 digit) rest
  | .within (missing + 1) value, point :: rest =>
    (hexValue? point).bind fun digit =>
      if missing = 0 then (unescapeUnits? (.outside false) rest).map ((value * 16 + digit) :: ·)
      else unescapeUnits? (.within missing (value * 16 + digit)) rest
  | _, _ => none

def unescapeLetter? : CodePoint → Option CodePoint
  | 0x62 => some 0x08
  | 0x74 => some 0x09
  | 0x6E => some 0x0A
  | 0x66 => some 0x0C
  | 0x72 => some 0x0D
  | 0x73 => some 0x20
  | 0x22 => some 0x22
  | 0x27 => some 0x27
  | 0x5C => some 0x5C
  | _ => none

/-- The second pass, up to the quote at the end. No line ends within a literal. -/
def unescapeLetters? (quote : CodePoint) : Text → Option Text
  | [] => none
  | [point] => if point = quote then some [] else none
  | point :: letter :: rest =>
    if point = 0x5C then
      (unescapeLetter? letter).bind fun character =>
        (unescapeLetters? quote rest).map (character :: ·)
    else if point = quote ∨ point = 0x0A ∨ point = 0x0D then none
    else (unescapeLetters? quote (letter :: rest)).map (point :: ·)

/-- The characters of a literal, surrogates from two escapes apart. -/
def points? (source : Text) : Option Text :=
  (unescapeUnits? (.outside false) source).bind fun
    | quote :: inner => if quote = 0x22 ∨ quote = 0x27 then unescapeLetters? quote inner else none
    | [] => none

/-- The text that a literal stands for. -/
def read? (source : Text) : Option Text :=
  (points? source).map ModifiedUtf8.joinPairs

/-- How many backslashes a text ends with. -/
def backslashesBehind (text : Text) : Nat :=
  (text.reverse.takeWhile (· == 0x5C)).length

variable {quote point : Nat} {text : Text}

/-- A character that neither pass takes for something else. -/
structure Stands (quote point : Nat) : Prop where
  notBackslash : point ≠ 0x5C
  notQuote : point ≠ quote
  inLine : point ≠ 0x0A ∧ point ≠ 0x0D

/-- A character that is no control character and no surrogate. -/
structure Visible (point : Nat) : Prop where
  printed : 0x20 ≤ point
  notDelete : ¬(0x7F ≤ point ∧ point < 0xA0)
  notSurrogate : Text.isSurrogate point = false

/-- The ways to write a character of a literal. -/
inductive Spells (quote point : Nat) : Text → Prop
  | letter {letter : CodePoint} (stands : unescapeLetter? letter = some point) :
    Spells quote point [0x5C, letter]
  | unit (stands : Stands quote point) (small : point < 0x10000) :
    Spells quote point ((0x5C :: 0x75 :: Text.ofHex 4 point : Text))
  | itself (stands : Stands quote point) (visible : Visible point) : Spells quote point [point]

theorem spells_escapedPoint (isQuote : quote = 0x22 ∨ quote = 0x27) (point : Nat) :
    Spells quote point (escapedPoint quote point) := by
  unfold escapedPoint
  split
  · subst point
    exact .letter rfl
  split
  · subst point
    exact .letter rfl
  split
  · subst point
    exact .letter rfl
  split
  · subst point
    exact .letter rfl
  split
  · subst point
    exact .letter rfl
  split
  · rename_i marks
    rcases marks with rfl | rfl
    · exact .letter rfl
    · rcases isQuote with rfl | rfl <;> exact .letter rfl
  rename_i _ notLine _ notReturn notMark
  rw [not_or] at notMark
  have stands : Stands quote point := ⟨notMark.1, notMark.2, notLine, notReturn⟩
  split
  · rename_i hidden
    have bounds : point < 0x20 ∨ (0x7F ≤ point ∧ point < 0xA0) ∨
        (0xD800 ≤ point ∧ point < 0xE000) := by
      simpa only [Text.isSurrogate, Bool.and_eq_true, decide_eq_true_eq] using hidden
    have small : point < 0x10000 := by omega
    exact .unit stands small
  · rename_i shown
    simp only [not_or, Bool.not_eq_true] at shown
    exact .itself stands ⟨Nat.le_of_not_lt shown.1, shown.2.1, shown.2.2⟩

theorem hexValue?_digit {value : Nat} (small : value < 16) :
    hexValue? (Text.digit value) = some value := by
  revert value
  decide

theorem digit_range {value : Nat} (small : value < 16) :
    (0x30 ≤ Text.digit value ∧ Text.digit value < 0x3A) ∨
      (0x61 ≤ Text.digit value ∧ Text.digit value < 0x67) := by
  revert value
  decide

theorem unescapeUnits?_unit (small : point < 0x10000) (rest : Text) :
    unescapeUnits? (.outside false) (0x5C :: 0x75 :: Text.ofHex 4 point ++ rest) =
      (unescapeUnits? (.outside false) rest).map (point :: ·) := by
  have first : point / 0x1000 < 16 := by omega
  have value : ((point / 0x1000 * 16 + point / 0x100 % 16) * 16 + point / 0x10 % 16) * 16 +
      point % 16 = point := by
    omega
  have digits (number : Nat) : hexValue? (Text.digit (number % 16)) = some (number % 16) :=
    hexValue?_digit (Nat.mod_lt _ (by decide))
  have notU : Text.digit (point / 0x1000) ≠ 0x75 := by
    have range := digit_range first
    omega
  rw [Text.ofHex_four small]
  simp [unescapeUnits?, notU, hexValue?_digit first, digits, value]

/-- Each way to write a character is taken by the first pass, wherever an even number of backslashes
stand before it, and by the second pass as that character. -/
theorem Spells.exists_stage {spelling : Text} (spells : Spells quote point spelling) :
    ∃ stage,
      (∀ rest, unescapeUnits? (.outside false) (spelling ++ rest) =
        (unescapeUnits? (.outside false) rest).map (stage ++ ·)) ∧
      ∀ rest, rest ≠ [] → unescapeLetters? quote (stage ++ rest) =
        (unescapeLetters? quote rest).map (point :: ·) := by
  cases spells with
  | @letter letter stands =>
    have notU : letter ≠ 0x75 := by
      rintro rfl
      cases stands
    refine ⟨[0x5C, letter], fun rest => ?_, fun rest _ => ?_⟩
    · by_cases backslash : letter = 0x5C
      · subst letter
        simp [unescapeUnits?, Function.comp_def]
      · simp [unescapeUnits?, notU, backslash, Function.comp_def]
    · simp [unescapeLetters?, stands]
  | unit stands small =>
    refine ⟨[point], unescapeUnits?_unit small, fun rest nonempty => ?_⟩
    obtain ⟨next, rest, rfl⟩ := List.exists_cons_of_ne_nil nonempty
    simp [unescapeLetters?, stands.notBackslash, stands.notQuote, stands.inLine]
  | itself stands visible =>
    refine ⟨[point], fun rest => ?_, fun rest nonempty => ?_⟩
    · simp [unescapeUnits?, stands.notBackslash]
    · obtain ⟨next, rest, rfl⟩ := List.exists_cons_of_ne_nil nonempty
      simp [unescapeLetters?, stands.notBackslash, stands.notQuote, stands.inLine]

theorem exists_stage_flatMap (isQuote : quote = 0x22 ∨ quote = 0x27) (text : Text) :
    ∃ stage,
      (∀ rest, unescapeUnits? (.outside false) (text.flatMap (escapedPoint quote) ++ rest) =
        (unescapeUnits? (.outside false) rest).map (stage ++ ·)) ∧
      ∀ rest, rest ≠ [] → unescapeLetters? quote (stage ++ rest) =
        (unescapeLetters? quote rest).map (text ++ ·) := by
  induction text with
  | nil => exact ⟨[], fun rest => by simp, fun rest _ => by simp⟩
  | cons point text ih =>
    obtain ⟨later, firstPass, secondPass⟩ := ih
    obtain ⟨stage, first, second⟩ := (spells_escapedPoint isQuote point).exists_stage
    refine ⟨stage ++ later, fun rest => ?_, fun rest nonempty => ?_⟩
    · rw [List.flatMap_cons, List.append_assoc, first, firstPass]
      simp [Function.comp_def]
    · rw [List.append_assoc, second _ (by simp [nonempty]), secondPass rest nonempty]
      simp [Function.comp_def]

theorem points?_escaped (isQuote : quote = 0x22 ∨ quote = 0x27) (text : Text) :
    points? (escaped quote text) = some text := by
  obtain ⟨stage, first, second⟩ := exists_stage_flatMap isQuote text
  have notBackslash : quote ≠ 0x5C := by omega
  have passed : unescapeUnits? (.outside false) (escaped quote text) =
      some (quote :: (stage ++ [quote])) := by
    simp [escaped, unescapeUnits?, notBackslash, first]
  have inner : unescapeLetters? quote (stage ++ [quote]) = some text := by
    simp [second, unescapeLetters?]
  simp [points?, passed, isQuote, inner]

theorem eq_of_escaped_eq {otherQuote : Nat} {other : Text} (isQuote : quote = 0x22 ∨ quote = 0x27)
    (same : escaped otherQuote other = escaped quote text) : otherQuote = quote ∧ other = text := by
  have quotes : otherQuote = quote := List.head_eq_of_cons_eq same
  subst quotes
  have read := points?_escaped isQuote other
  rw [same, points?_escaped isQuote text] at read
  exact ⟨rfl, (Option.some.inj read).symm⟩

theorem Visible.digit {value : Nat} (small : value < 16) : Visible (Text.digit value) := by
  have range := digit_range small
  have surrogate : ¬(0xD800 ≤ Text.digit value ∧ Text.digit value < 0xE000) := by omega
  exact ⟨by omega, by omega, by simpa [Text.isSurrogate] using surrogate⟩

theorem Spells.visible {spelling : Text} (spells : Spells quote point spelling) :
    ∀ character ∈ spelling, Visible character := by
  have backslash : Visible 0x5C := ⟨by decide, by decide, rfl⟩
  cases spells with
  | @letter letter stands =>
    have visible : Visible letter := by
      unfold unescapeLetter? at stands
      split at stands <;> first | exact ⟨by decide, by decide, rfl⟩ | cases stands
    simp [backslash, visible]
  | unit stands small =>
    have unitMark : Visible 0x75 := ⟨by decide, by decide, rfl⟩
    have digits (number : Nat) : Visible (Text.digit (number % 16)) :=
      .digit (Nat.mod_lt _ (by decide))
    have first : point / 0x1000 < 16 := by omega
    rw [Text.ofHex_four small]
    simp [backslash, unitMark, digits, Visible.digit first]
  | itself stands visible => simp [visible]

theorem backslashesBehind_concat (text : Text) (point : Nat) :
    backslashesBehind (text ++ [point]) =
      if point = 0x5C then backslashesBehind text + 1 else 0 := by
  by_cases backslash : point = 0x5C <;> simp [backslashesBehind, backslash]

/-- An even number of backslashes counts for nothing in front of others. -/
theorem backslashesBehind_append {front : Text} (even : backslashesBehind front % 2 = 0)
    (back : Text) : backslashesBehind (front ++ back) % 2 = backslashesBehind back % 2 := by
  induction back using List.reverseRecOn with
  | nil =>
    rw [List.append_nil, even]
    rfl
  | append_singleton back point ih =>
    rw [← List.append_assoc, backslashesBehind_concat, backslashesBehind_concat]
    split
    · omega
    · rfl

theorem Spells.even {spelling : Text} (spells : Spells quote point spelling) :
    backslashesBehind spelling % 2 = 0 := by
  cases spells with
  | @letter letter stands =>
    by_cases backslash : letter = 0x5C <;> simp [backslashesBehind, backslash]
  | unit stands small =>
    have range := digit_range (Nat.mod_lt point (by decide : 16 > 0))
    have notBackslash : Text.digit (point % 16) ≠ 0x5C := by omega
    rw [Text.ofHex_four small]
    simp [backslashesBehind, notBackslash]
  | itself stands visible => simp [backslashesBehind, stands.notBackslash]

theorem Spells.odd_of_quote {spelling front back : Text} (spells : Spells quote point spelling)
    (isQuote : quote = 0x22 ∨ quote = 0x27) (quoted : spelling = front ++ quote :: back) :
    backslashesBehind front % 2 = 1 := by
  have present : quote ∈ spelling := by simp [quoted]
  cases spells with
  | @letter letter stands =>
    match front with
    | [] =>
      have first : 0x5C = quote := List.head_eq_of_cons_eq quoted
      omega
    | [first] =>
      cases quoted
      rfl
    | first :: second :: rest => simp at quoted
  | unit stands small =>
    have digits (value : Nat) (fits : value < 16) : quote ≠ Text.digit value := by
      have range := digit_range fits
      omega
    rw [Text.ofHex_four small] at present
    simp [digits _ (show point / 0x1000 < 16 by omega), digits _ (Nat.mod_lt _ _)] at present
    omega
  | itself stands visible => exact absurd (List.mem_singleton.mp present).symm stands.notQuote

/-- A quote within a literal has an odd number of backslashes right before it, so that it does not
end the literal. -/
theorem odd_of_quote_inside (isQuote : quote = 0x22 ∨ quote = 0x27) {front back : Text}
    (quoted : text.flatMap (escapedPoint quote) = front ++ quote :: back) :
    backslashesBehind front % 2 = 1 := by
  induction text generalizing front with
  | nil => simp at quoted
  | cons point text ih =>
    have spells := spells_escapedPoint isQuote point
    rw [List.flatMap_cons] at quoted
    -- The quote belongs to a later character, or else to the spelling of the first one.
    rcases List.append_eq_append_iff.mp quoted with ⟨between, rfl, later⟩ | ⟨between, first, later⟩
    · rw [backslashesBehind_append spells.even]
      exact ih later
    · cases between with
      | nil =>
        rw [List.append_nil] at first
        have behind : backslashesBehind (front ++ []) % 2 = backslashesBehind [] % 2 :=
          backslashesBehind_append (first ▸ spells.even) []
        have odd : backslashesBehind [] % 2 = 1 := @ih [] later.symm
        cases odd
      | cons mark between =>
        have same : mark = quote := (List.head_eq_of_cons_eq later).symm
        subst same
        exact spells.odd_of_quote isQuote first

/-- A text in quotes is read as itself. It shows neither control characters nor surrogates, no quote
but the last one ends it, and no other text is written like it. -/
theorem read?_escaped (isQuote : quote = 0x22 ∨ quote = 0x27)
    (free : ModifiedUtf8.PairFree text) :
    read? (escaped quote text) = some text ∧
      (∀ point ∈ escaped quote text, Visible point) ∧
      (∃ inner, escaped quote text = quote :: inner ++ [quote] ∧
        ∀ front back, inner = front ++ quote :: back → backslashesBehind front % 2 = 1) ∧
      (∀ otherQuote other, escaped otherQuote other = escaped quote text →
        otherQuote = quote ∧ other = text) ∧
      ∀ other, literalText (.text other) "Ljava/lang/String;" =
        literalText (.text text) "Ljava/lang/String;" → other = text := by
  have visibleQuote : Visible quote := by
    rcases isQuote with rfl | rfl <;> exact ⟨by decide, by decide, rfl⟩
  refine ⟨?_, ?_, ⟨text.flatMap (escapedPoint quote), rfl, ?_⟩, ?_, ?_⟩
  · rw [read?, points?_escaped isQuote, Option.map_some, ModifiedUtf8.joinPairs_of_pairFree free]
  · intro character present
    simp only [escaped, List.cons_append, List.mem_cons, List.mem_append, List.mem_flatMap,
      List.not_mem_nil, or_false] at present
    rcases present with rfl | ⟨point, -, inSpelling⟩ | rfl
    · exact visibleQuote
    · exact (spells_escapedPoint isQuote point).visible character inSpelling
    · exact visibleQuote
  · intro front back quoted
    exact odd_of_quote_inside isQuote quoted
  · intro otherQuote other same
    exact eq_of_escaped_eq isQuote same
  · intro other same
    exact (eq_of_escaped_eq (Or.inl rfl) (Except.ok.inj same)).2

/-- Backslashes, letters `u`, the quote, a control character and half of a surrogate pair. -/
theorem read?_escaped_mixed :
    let text : Text := [0x5C, 0x75, 0x30, 0x5C, 0x5C, 0x01, 0x22, 0x0A, 0xD800, 0x41]
    ModifiedUtf8.PairFree text ∧
      escaped 0x22 text = "\"\\\\u0\\\\\\\\\\u0001\\\"\\n\\ud800A\"" ∧
      read? (escaped 0x22 text) = some text := by
  intro text
  have free : ModifiedUtf8.PairFree text := by
    simp [text, ModifiedUtf8.PairFree, Text.isLowSurrogate]
  exact ⟨free, by decide, (read?_escaped (Or.inl rfl) free).1⟩

/-- A backslash that another one stands before begins no Unicode escape. -/
example : read? "\"\\\\u0041\\u0041\"" = some (Text.ofString "\\u0041A") := by decide

end ClassOutline.LiteralText
