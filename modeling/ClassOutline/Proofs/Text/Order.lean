import ClassOutline.Text.Basic

set_option autoImplicit false

namespace ClassOutline.Text

theorem precedes_cons_iff {left right : CodePoint} {lefts rights : Text} :
    precedes (left :: lefts) (right :: rights) = true ↔
      left < right ∨ (left = right ∧ precedes lefts rights = true) := by
  simp only [precedes, Bool.or_eq_true, Bool.and_eq_true, decide_eq_true_eq, beq_iff_eq]

theorem precedes_total (left right : Text) :
    (precedes left right || precedes right left) = true := by
  induction left generalizing right with
  | nil => rfl
  | cons point rest ih =>
    cases right with
    | nil => rfl
    | cons other others =>
      rw [Bool.or_eq_true, precedes_cons_iff, precedes_cons_iff]
      rcases Nat.lt_trichotomy point other with below | same | above
      · exact Or.inl (Or.inl below)
      · have later := ih others
        rw [Bool.or_eq_true] at later
        rcases later with before | behind
        · exact Or.inl (Or.inr ⟨same, before⟩)
        · exact Or.inr (Or.inr ⟨same.symm, behind⟩)
      · exact Or.inr (Or.inl above)

theorem precedes_trans (first second third : Text) (left : precedes first second = true)
    (right : precedes second third = true) : precedes first third = true := by
  induction first generalizing second third with
  | nil => rfl
  | cons point rest ih =>
    cases second with
    | nil => cases left
    | cons middle middles =>
      cases third with
      | nil => cases right
      | cons other others =>
        rw [precedes_cons_iff] at left right ⊢
        rcases left with below | ⟨same, before⟩
        · have least : middle ≤ other := by
            rcases right with above | ⟨equal, -⟩
            · exact Nat.le_of_lt above
            · exact Nat.le_of_eq equal
          exact Or.inl (Nat.lt_of_lt_of_le below least)
        · subst same
          rcases right with above | ⟨equal, behind⟩
          · exact Or.inl above
          · exact Or.inr ⟨equal, ih middles others before behind⟩

theorem precedes_antisymm {left right : Text} (before : precedes left right = true)
    (behind : precedes right left = true) : left = right := by
  induction left generalizing right with
  | nil =>
    cases right with
    | nil => rfl
    | cons other others => cases behind
  | cons point rest ih =>
    cases right with
    | nil => cases before
    | cons other others =>
      rw [precedes_cons_iff] at before behind
      rcases before with below | ⟨same, before⟩
      · rcases behind with above | ⟨same, -⟩
        · exact absurd above (Nat.lt_asymm below)
        · exact absurd same.symm (Nat.ne_of_lt below)
      · rcases behind with above | ⟨-, behind⟩
        · exact absurd same.symm (Nat.ne_of_lt above)
        · rw [same, ih before behind]

theorem pairwise_sorted (texts : List Text) :
    (sorted texts).Pairwise fun left right => precedes left right = true :=
  List.pairwise_mergeSort precedes_trans precedes_total texts

theorem sorted_perm (texts : List Text) : (sorted texts).Perm texts :=
  List.mergeSort_perm texts precedes

theorem sorted_of_pairwise {texts : List Text}
    (ordered : texts.Pairwise fun left right => precedes left right = true) :
    sorted texts = texts :=
  List.mergeSort_of_pairwise ordered

/-- In an ordered list equal texts are neighbours. -/
theorem not_mem_of_ordered {first second : Text} {rest : List Text}
    (ordered : (first :: second :: rest).Pairwise fun left right => precedes left right = true)
    (different : first ≠ second) : first ∉ second :: rest := by
  obtain ⟨least, later⟩ := List.pairwise_cons.mp ordered
  intro again
  rcases List.mem_cons.mp again with same | further
  · exact different same
  · have behind := (List.pairwise_cons.mp later).1 first further
    exact different (precedes_antisymm (least second List.mem_cons_self) behind)

theorem mem_dropRepeats {text : Text} (texts : List Text) :
    text ∈ dropRepeats texts ↔ text ∈ texts := by
  induction texts using dropRepeats.induct with
  | case1 first rest ih =>
    rw [dropRepeats, if_pos rfl, ih]
    simp only [List.mem_cons, or_self_left]
  | case2 first second rest different ih =>
    rw [dropRepeats, if_neg different, List.mem_cons, ih]
    exact List.mem_cons.symm
  | case3 short isShort => rw [dropRepeats.eq_2 short isShort]

theorem dropRepeats_sublist (texts : List Text) : (dropRepeats texts).Sublist texts := by
  induction texts using dropRepeats.induct with
  | case1 first rest ih =>
    rw [dropRepeats, if_pos rfl]
    exact ih.cons first
  | case2 first second rest different ih =>
    rw [dropRepeats, if_neg different]
    exact ih.cons_cons first
  | case3 short isShort => simp only [dropRepeats.eq_2 short isShort, List.Sublist.refl]

theorem nodup_dropRepeats {texts : List Text}
    (ordered : texts.Pairwise fun left right => precedes left right = true) :
    (dropRepeats texts).Nodup := by
  induction texts using dropRepeats.induct with
  | case1 first rest ih =>
    rw [dropRepeats, if_pos rfl]
    exact ih ordered.of_cons
  | case2 first second rest different ih =>
    rw [dropRepeats, if_neg different, List.nodup_cons, mem_dropRepeats]
    exact ⟨not_mem_of_ordered ordered different, ih ordered.of_cons⟩
  | case3 short isShort =>
    rw [dropRepeats.eq_2 short isShort]
    match short, isShort with
    | [], _ => exact List.nodup_nil
    | [text], _ => exact List.pairwise_singleton _ text
    | first :: second :: rest, isShort => exact absurd rfl (isShort first second rest)

/-- The neighbours that are equal are the texts that occur twice. -/
theorem mem_repeats_iff {text : Text} {texts : List Text}
    (ordered : texts.Pairwise fun left right => precedes left right = true) :
    text ∈ repeats texts ↔ 2 ≤ texts.count text := by
  induction texts using repeats.induct with
  | case1 first rest ih =>
    rw [repeats, if_pos rfl, List.mem_cons, ih ordered.of_cons]
    by_cases same : first = text
    · subst same
      simp
    · simp [same, Ne.symm same]
  | case2 first second rest different ih =>
    rw [repeats, if_neg different, ih ordered.of_cons]
    by_cases same : first = text
    · subst same
      have absent := not_mem_of_ordered ordered different
      rw [List.count_cons_self, List.count_eq_zero.mpr absent]
      omega
    · rw [List.count_cons_of_ne same]
  | case3 short isShort =>
    rw [repeats.eq_2 short isShort]
    match short, isShort with
    | [], _ => simp
    | [only], _ =>
      have once : [only].count text ≤ 1 := List.count_le_length
      simp only [List.not_mem_nil, false_iff]
      omega
    | first :: second :: rest, isShort => exact absurd rfl (isShort first second rest)

@[simp] theorem mem_sortedSet {text : Text} {texts : List Text} :
    text ∈ sortedSet texts ↔ text ∈ texts := by
  rw [sortedSet, mem_dropRepeats, (sorted_perm texts).mem_iff]

theorem nodup_sortedSet (texts : List Text) : (sortedSet texts).Nodup :=
  nodup_dropRepeats (pairwise_sorted texts)

/-- Texts that stand in order, once each, are all there is to a set of them. -/
theorem sortedSet_of_ordered {texts : List Text}
    (ordered : (texts.Pairwise fun left right => precedes left right = true) ∧
      dropRepeats texts = texts) : sortedSet texts = texts := by
  rw [sortedSet, sorted_of_pairwise ordered.1, ordered.2]

/-- The order and the number of times in which texts are given do not matter. -/
theorem sortedSet_congr {first second : List Text}
    (same : ∀ text, text ∈ first ↔ text ∈ second) : sortedSet first = sortedSet second := by
  have perm : (sortedSet first).Perm (sortedSet second) :=
    (List.perm_ext_iff_of_nodup (nodup_sortedSet first) (nodup_sortedSet second)).mpr
      fun text => by rw [mem_sortedSet, mem_sortedSet, same]
  have ordered (texts : List Text) :
      (sortedSet texts).Pairwise fun left right => precedes left right = true :=
    (pairwise_sorted texts).sublist (dropRepeats_sublist _)
  exact perm.eq_of_pairwise (fun _ _ _ _ => precedes_antisymm) (ordered first) (ordered second)

theorem joined_concat (separator text : Text) (first : Text) (rest : List Text) :
    joined separator (first :: rest ++ [text]) =
      joined separator (first :: rest) ++ separator ++ text := by
  induction rest generalizing first with
  | nil => rfl
  | cons second later ih =>
    show first ++ separator ++ joined separator (second :: later ++ [text]) = _
    rw [ih]
    simp only [joined, List.append_assoc]

end ClassOutline.Text
