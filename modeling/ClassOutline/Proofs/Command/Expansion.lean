import ClassOutline.Command.FileTree
import ClassOutline.Proofs.Text.Order

set_option autoImplicit false

namespace ClassOutline.Command

theorem splitPath_eq_splitOnP (path : Text) : splitPath path = path.splitOnP (· == 0x2F) := by
  induction path with
  | nil => rfl
  | cons point rest ih =>
    rw [splitPath, List.splitOnP_cons_eq_if_modifyHead, ih]
    simp only [beq_iff_eq]
    split
    · rfl
    · cases found : rest.splitOnP (· == 0x2F) with
      | nil => exact absurd found (List.splitOnP_ne_nil _ rest)
      | cons part parts => rfl

namespace FileTree

section

variable {tree : FileTree}

/-- A directory is where relative paths start, is listed, or is on the way to these or a file. -/
def HasDirectory (tree : FileTree) (place : List Text) : Prop :=
  place <+: tree.here ∨ (∃ directory ∈ tree.directories, place <+: directory) ∨
    ∃ file ∈ tree.files, place ≠ file.1 ∧ place <+: file.1

theorem isDirectory_iff {place : List Text} :
    tree.isDirectory place = true ↔ tree.HasDirectory place := by
  simp only [isDirectory, HasDirectory, Bool.or_eq_true, List.any_eq_true, Bool.and_eq_true,
    bne_iff_ne, List.isPrefixOf_iff_prefix, or_assoc]

theorem isSome_file?_iff {place : List Text} :
    (tree.file? place).isSome = true ↔ ∃ bytes, (place, bytes) ∈ tree.files := by
  rw [file?, Option.isSome_map, List.find?_isSome]
  constructor
  · rintro ⟨⟨_, bytes⟩, present, same⟩
    rw [beq_iff_eq] at same
    subst same
    exact ⟨bytes, present⟩
  · rintro ⟨bytes, present⟩
    exact ⟨_, present, beq_self_eq_true place⟩

/-- The parts of a path lead from one place to another. Each is followed in a directory, and one
that names something names what is there. -/
inductive Leads (tree : FileTree) : List Text → List Text → List Text → Prop
  | done {place : List Text} : Leads tree place [] place
  | stay {place parts last : List Text} {part : Text} (directory : tree.HasDirectory place)
    (same : part = [] ∨ part = ".") (rest : Leads tree place parts last) :
    Leads tree place (part :: parts) last
  | up {place parts last : List Text} {part : Text} (directory : tree.HasDirectory place)
    (parent : part = "..") (rest : Leads tree place.dropLast parts last) :
    Leads tree place (part :: parts) last
  | down {place parts last : List Text} {part : Text} (directory : tree.HasDirectory place)
    (named : ¬ (part = [] ∨ part = ".") ∧ part ≠ "..") (short : systemLength part ≤ 255)
    (present : tree.HasDirectory (place ++ [part]) ∨ ∃ bytes, (place ++ [part], bytes) ∈ tree.files)
    (rest : Leads tree (place ++ [part]) parts last) : Leads tree place (part :: parts) last

theorem follow_eq_ok_iff {place parts last : List Text} :
    tree.follow place parts = .ok last ↔ tree.Leads place parts last := by
  constructor
  · intro found
    fun_induction follow tree place parts with
    | case1 place =>
      cases found
      exact .done
    | case2 => cases found
    | case3 place part parts directory same ih =>
      exact .stay (isDirectory_iff.mp (by simpa using directory)) same (ih found)
    | case4 place parts directory _ ih =>
      exact .up (isDirectory_iff.mp (by simpa using directory)) rfl (ih found)
    | case5 => cases found
    | case6 place part parts directory named notUp short next present ih =>
      have there : tree.HasDirectory next ∨ ∃ bytes, (next, bytes) ∈ tree.files := by
        rwa [Bool.or_eq_true, isDirectory_iff, isSome_file?_iff] at present
      exact .down (isDirectory_iff.mp (by simpa using directory)) ⟨named, notUp⟩
        (Nat.le_of_not_lt short) there (ih found)
    | case7 => cases found
  · intro leads
    induction leads with
    | done => rfl
    | stay directory same _ ih =>
      rw [follow, isDirectory_iff.mpr directory, Bool.not_true, if_neg Bool.false_ne_true,
        if_pos same]
      exact ih
    | up directory parent _ ih =>
      subst parent
      rw [follow, isDirectory_iff.mpr directory, Bool.not_true, if_neg Bool.false_ne_true,
        if_neg (by decide), if_pos rfl]
      exact ih
    | @down place parts last part directory named short present _ ih =>
      have there : (tree.isDirectory (place ++ [part]) ||
          (tree.file? (place ++ [part])).isSome) = true := by
        rwa [Bool.or_eq_true, isDirectory_iff, isSome_file?_iff]
      rw [follow, isDirectory_iff.mpr directory, Bool.not_true, if_neg Bool.false_ne_true,
        if_neg named.1, if_neg named.2, if_neg (Nat.not_lt.mpr short)]
      exact (if_pos there).trans ih

theorem pathFault?_eq_none_iff {path : Text} :
    pathFault? path = none ↔ (∀ point ∈ path, isSystemPoint point = true) ∧ 0 ∉ path ∧ path ≠ [] ∧
      systemLength path < 4096 := by
  have passes {guard : Prop} [Decidable guard] (fault : PathFault) (rest : Option PathFault) :
      (if guard then some fault else rest) = none ↔ ¬ guard ∧ rest = none := by
    split <;> simp [*]
  simp only [pathFault?, passes]
  simp [isTooLong]

/-- A path that can be looked up leads to a directory. -/
structure LeadsToDirectory (tree : FileTree) (path : Text) (place : List Text) : Prop where
  points : ∀ point ∈ path, isSystemPoint point = true
  noNull : 0 ∉ path
  nonempty : path ≠ []
  short : systemLength path < 4096
  leads : tree.Leads (tree.start path) (path.splitOnP (· == 0x2F)) place
  directory : tree.HasDirectory place

theorem directory?_eq_some_iff {path : Text} {place : List Text} :
    tree.directory? path = some place ↔ tree.LeadsToDirectory path place := by
  have found : tree.directory? path = some place ↔
      pathFault? path = none ∧ tree.follow (tree.start path) (splitPath path) = .ok place ∧
        tree.isDirectory place = true := by
    unfold directory? resolve
    cases pathFault? path with
    | some fault => simp
    | none =>
      cases tree.follow (tree.start path) (splitPath path) with
      | error fault => simp
      | ok there =>
        simp only [Option.ite_none_right_eq_some, Option.some.injEq, Except.ok.injEq, true_and]
        constructor
        · rintro ⟨directory, rfl⟩
          exact ⟨rfl, directory⟩
        · rintro ⟨rfl, directory⟩
          exact ⟨directory, rfl⟩
  rw [found, pathFault?_eq_none_iff, follow_eq_ok_iff, splitPath_eq_splitOnP, isDirectory_iff]
  constructor
  · rintro ⟨⟨points, noNull, nonempty, short⟩, leads, directory⟩
    exact ⟨points, noNull, nonempty, short, leads, directory⟩
  · rintro ⟨points, noNull, nonempty, short, leads, directory⟩
    exact ⟨⟨points, noNull, nonempty, short⟩, leads, directory⟩

end

/-- The paths that a given one stands for: those of the class files below the directory that it
leads to, or itself. -/
def standsFor (tree : FileTree) (given : Text) : List Text :=
  match tree.directory? given with
  | some place => tree.classFilesBelow given place
  | none => [given]

/-- A class file below a directory, by the names that lead there. One in a directory whose own path
is too long cannot be found. -/
def HasClassFile (tree : FileTree) (given : Text) (place names : List Text) : Prop :=
  (∃ bytes, (place ++ names, bytes) ∈ tree.files) ∧
    Text.ofString ".class" <:+ (place ++ names).getLast?.getD [] ∧
    (names.length ≤ 1 ∨ isTooLong (joinPath given names.dropLast) = false)

theorem classFileBelow?_eq_some_iff {given : Text} {place file names : List Text} :
    classFileBelow? given place file = some names ↔
      file = place ++ names ∧ Text.ofString ".class" <:+ file.getLast?.getD [] ∧
        (names.length ≤ 1 ∨
          isTooLong (joinPath given names.dropLast) = false) := by
  unfold classFileBelow?
  simp only [Bool.and_eq_true, Bool.or_eq_true, decide_eq_true_eq, Bool.not_eq_eq_eq_not,
    Bool.not_true, List.isPrefixOf_iff_prefix, List.isSuffixOf_iff_suffix,
    Option.ite_none_right_eq_some, Option.some.injEq]
  constructor
  · rintro ⟨⟨⟨⟨rest, below⟩, suffix⟩, short⟩, taken⟩
    subst below
    rw [List.drop_left] at short taken
    subst taken
    exact ⟨rfl, suffix, short⟩
  · rintro ⟨below, suffix, short⟩
    subst below
    rw [List.drop_left]
    exact ⟨⟨⟨List.prefix_append place names, suffix⟩, short⟩, rfl⟩

/-- A directory stands for the class files below it. -/
theorem mem_standsFor_iff {tree : FileTree} {given : Text} {place : List Text}
    (leads : tree.directory? given = some place) (path : Text) :
    path ∈ tree.standsFor given ↔
      ∃ names, tree.HasClassFile given place names ∧ path = joinPath given names := by
  simp only [standsFor, leads, classFilesBelow, List.mem_map, List.mem_filterMap,
    classFileBelow?_eq_some_iff]
  constructor
  · rintro ⟨names, ⟨file, present, below, suffix, short⟩, same⟩
    rw [below] at suffix
    refine ⟨names, ⟨⟨file.2, ?_⟩, suffix, short⟩, same.symm⟩
    rwa [← below]
  · rintro ⟨names, ⟨⟨bytes, present⟩, suffix, short⟩, same⟩
    exact ⟨names, ⟨_, present, rfl, suffix, short⟩, same.symm⟩

theorem standsFor_eq_self {tree : FileTree} {given : Text}
    (nowhere : ∀ place, ¬ tree.LeadsToDirectory given place) : tree.standsFor given = [given] := by
  unfold standsFor
  split
  · rename_i place leads
    exact absurd (directory?_eq_some_iff.mp leads) (nowhere place)
  · rfl

theorem expand_perm (tree : FileTree) (paths : List Text) :
    (tree.expand paths).Perm (paths.flatMap tree.standsFor) :=
  Text.sorted_perm _

theorem pairwise_expand (tree : FileTree) (paths : List Text) :
    (tree.expand paths).Pairwise fun first second => first.precedes second = true :=
  Text.pairwise_sorted _

end FileTree

end ClassOutline.Command
