import ClassOutline.Members.AccessFlags

set_option autoImplicit false

namespace ClassOutline.AccessFlags

/-- The flags of a word with the numbers of their bits, the lowest bit being number zero. -/
abbrev Bits := List (Nat × AccessFlag)

def classBits : Bits :=
  [(0, .publicAccess), (4, .final), (5, .superCall), (9, .interfaceType), (10, .abstractType),
    (12, .synthetic), (13, .annotationType), (14, .enumeration), (15, .moduleUnit),
    (1, .privateAccess), (2, .protectedAccess), (3, .static)]

def fieldBits : Bits :=
  [(0, .publicAccess), (1, .privateAccess), (2, .protectedAccess), (3, .static), (4, .final),
    (6, .volatileField), (7, .transientField), (12, .synthetic), (14, .enumeration)]

def methodBits : Bits :=
  [(0, .publicAccess), (1, .privateAccess), (2, .protectedAccess), (3, .static), (4, .final),
    (5, .synchronized), (6, .bridge), (7, .varargs), (8, .native), (10, .abstractType),
    (11, .strictMath), (12, .synthetic)]

/-- The flags that a word sets. -/
def ofWord (bits : Bits) (word : Nat) : List AccessFlag :=
  bits.filterMap fun row => if word.testBit row.1 then some row.2 else none

theorem mem_ofWord_iff {bits : Bits} {word : Nat} {flag : AccessFlag} :
    flag ∈ ofWord bits word ↔ ∃ bit, (bit, flag) ∈ bits ∧ word.testBit bit = true := by
  simp [ofWord]

/-- The masks of a table are those of some bits. -/
def Masks (table : Table) (bits : Bits) : Prop :=
  table = bits.map fun row => (Nat.pow 2 row.1, row.2)

theorem masks_class : Masks classTable classBits := rfl

theorem masks_field : Masks fieldTable fieldBits := rfl

theorem masks_method : Masks methodTable methodBits := rfl

theorem decode_eq_ofWord {table : Table} {bits : Bits} (masks : Masks table bits) (word : Nat) :
    decode table word = ofWord bits word := by
  have isSet (bit : Nat) : ((word : Int) / (Nat.pow 2 bit : Nat) % 2 == 1) = word.testBit bit := by
    rw [Nat.testBit_eq_decide_div_mod_eq, Bool.eq_iff_iff, beq_iff_eq, decide_eq_true_iff]
    norm_cast
  subst masks
  unfold decode ofWord
  induction bits with
  | nil => rfl
  | cons row rest ih =>
    rw [List.map_cons, List.filter_cons, List.filterMap_cons, isSet]
    cases word.testBit row.1 with
    | true => exact congrArg (row.2 :: ·) ih
    | false => exact ih

/-- The words that a declaration may show, in their order, with the flags that they stand for. -/
abbrev Modifiers := List (AccessFlag × Text)

def interfaceModifiers : Modifiers :=
  [(.publicAccess, "public"), (.privateAccess, "private"), (.protectedAccess, "protected"),
    (.static, "static"), (.final, "final")]

def classModifiers : Modifiers :=
  [(.publicAccess, "public"), (.privateAccess, "private"), (.protectedAccess, "protected"),
    (.static, "static"), (.final, "final"), (.abstractType, "abstract")]

def fieldModifiers : Modifiers :=
  [(.publicAccess, "public"), (.privateAccess, "private"), (.protectedAccess, "protected"),
    (.static, "static"), (.final, "final"), (.transientField, "transient"),
    (.volatileField, "volatile")]

def methodModifiers : Modifiers :=
  [(.publicAccess, "public"), (.privateAccess, "private"), (.protectedAccess, "protected"),
    (.abstractType, "abstract"), (.static, "static"), (.final, "final"),
    (.synchronized, "synchronized"), (.native, "native"), (.strictMath, "strictfp")]

/-- Each of the words whose flag is set, with a space behind it. -/
def shownWords (modifiers : Modifiers) (flags : List AccessFlag) : Text :=
  modifiers.flatMap fun row => if row.1 ∈ flags then row.2 ++ " " else []

theorem render_eq_shownWords {modifiers : Modifiers} {shown : List AccessFlag}
    (named : modifiers = shown.map fun flag => (flag, flag.word)) (flags : List AccessFlag) :
    render shown flags = shownWords modifiers flags := by
  subst named
  unfold render shownWords
  induction shown with
  | nil => rfl
  | cons flag rest ih =>
    rw [List.filter_cons, List.map_cons, List.flatMap_cons]
    by_cases isSet : flag ∈ flags
    · rw [if_pos (List.contains_iff_mem.mpr isSet), List.flatMap_cons, ih]
      simp only [isSet, ↓reduceIte]
    · rw [if_neg fun found => isSet (List.contains_iff_mem.mp found), ih]
      simp only [isSet, ↓reduceIte, List.nil_append]

theorem render_interfaceWords (flags : List AccessFlag) :
    render interfaceWords flags = shownWords interfaceModifiers flags :=
  render_eq_shownWords rfl flags

theorem render_classWords (flags : List AccessFlag) :
    render classWords flags = shownWords classModifiers flags :=
  render_eq_shownWords rfl flags

theorem render_fieldWords (flags : List AccessFlag) :
    render fieldWords flags = shownWords fieldModifiers flags :=
  render_eq_shownWords rfl flags

theorem render_methodWords (flags : List AccessFlag) :
    render methodWords flags = shownWords methodModifiers flags :=
  render_eq_shownWords rfl flags

end ClassOutline.AccessFlags
