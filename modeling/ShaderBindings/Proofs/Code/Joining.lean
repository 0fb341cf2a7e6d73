import Mathlib.Data.List.Basic

/-!
# Joined lists

Parts are joined by a separator which stands between any two of them, and
neither before the first nor behind the last.  Apart from the first part, a
joined list is one piece after the other, each of which is the separator and
then a part: `intercalate_cons_eq`.  What is known of concatenations follows
from this for joined lists.

A separator of one item that is in no part splits the joined list again, and
if no part is empty, it stands only between other items: `isInside_intercalate`.
-/

namespace ShaderBindings

variable {Item : Type}

/-- All parts but the first have a separator in front of them. -/
theorem intercalate_cons_eq (separator part : List Item)
    (rest : List (List Item)) :
    separator.intercalate (part :: rest) =
      part ++ rest.flatMap (separator ++ ·) := by
  induction rest generalizing part with
  | nil => simp
  | cons next later inductionHypothesis =>
      rw [List.intercalate_cons_cons, inductionHypothesis, List.flatMap_cons]
      simp only [List.append_assoc]

/-- Without a separator, joining is concatenation. -/
theorem nil_intercalate (parts : List (List Item)) :
    ([] : List Item).intercalate parts = parts.flatten := by
  cases parts with
  | nil => rfl
  | cons part rest => simp [intercalate_cons_eq, List.flatMap_def]

/-- An item of a joined list is one of the separator or of a part. -/
theorem mem_or_exists_of_mem_intercalate {item : Item}
    {separator : List Item} {parts : List (List Item)}
    (member : item ∈ separator.intercalate parts) :
    item ∈ separator ∨ ∃ part ∈ parts, item ∈ part := by
  cases parts with
  | nil => simp at member
  | cons part rest =>
      rw [intercalate_cons_eq, List.mem_append, List.mem_flatMap] at member
      rcases member with first | ⟨other, behind, between⟩
      · exact Or.inr ⟨part, List.mem_cons_self, first⟩
      · exact (List.mem_append.1 between).imp_right fun inside =>
          ⟨other, List.mem_cons_of_mem part behind, inside⟩

/-- To select from joined parts is to join what is selected from each. -/
theorem filterMap_intercalate {Result : Type}
    (select : Item → Option Result) (separator : List Item)
    (parts : List (List Item)) :
    (separator.intercalate parts).filterMap select =
      (separator.filterMap select).intercalate
        (parts.map (·.filterMap select)) := by
  cases parts with
  | nil => simp
  | cons part rest =>
      simp [intercalate_cons_eq, List.filterMap_flatMap, List.flatMap_map]

/-- What does not occur in the separator is counted in the parts. -/
theorem count_intercalate [BEq Item] [LawfulBEq Item] {item : Item}
    {separator : List Item} (absent : item ∉ separator)
    (parts : List (List Item)) :
    (separator.intercalate parts).count item = parts.flatten.count item := by
  cases parts with
  | nil => rfl
  | cons part rest =>
      simp [intercalate_cons_eq, List.count_flatMap, List.count_flatten,
        Function.comp_def, List.count_eq_zero_of_not_mem absent]

/-- To filter joined parts is to join the filtered ones. -/
theorem filter_intercalate (keep : Item → Bool) (separator : List Item)
    (parts : List (List Item)) :
    (separator.intercalate parts).filter keep =
      (separator.filter keep).intercalate (parts.map (·.filter keep)) := by
  simp only [← List.filterMap_eq_filter]
  exact filterMap_intercalate _ separator parts

/-! ## Separators of one item -/

/-- A joined list is split again where no part could be. -/
theorem splitOnP_intercalate {separates : Item → Bool} {separator : Item}
    (cut : separates separator = true) {parts : List (List Item)}
    (nonempty : parts ≠ [])
    (whole : ∀ part ∈ parts, ∀ item ∈ part, separates item = false) :
    ([separator].intercalate parts).splitOnP separates = parts := by
  induction parts with
  | nil => exact absurd rfl nonempty
  | cons part rest inductionHypothesis =>
      have wholePart := whole part List.mem_cons_self
      cases rest with
      | nil => simpa using List.splitOnP_eq_singleton wholePart
      | cons next later =>
          rw [List.intercalate_cons_cons, List.append_assoc,
            List.singleton_append,
            List.splitOnP_append_cons_of_forall_mem wholePart separator cut,
            inductionHypothesis (List.cons_ne_nil _ _) fun other member =>
              whole other (List.mem_cons_of_mem part member)]

/-- An item stands only between others, and not twice in a row. -/
structure IsInside (item : Item) (list : List Item) : Prop where
  head?_ne : list.head? ≠ some item
  getLast?_ne : list.getLast? ≠ some item
  not_doubled : ¬[item, item] <:+: list

/-- Wherever else an item stands, it would cut off an empty piece. -/
theorem IsInside.of_nil_notMem_splitOn [BEq Item] [LawfulBEq Item]
    {item : Item} {list : List Item}
    (full : [] ∉ list.splitOn item) : IsInside item list where
  head?_ne := by
    intro first
    obtain ⟨rest, rfl⟩ := List.head?_eq_some_iff.1 first
    have pieces := List.splitOn_append_cons_self (a := item) [] rest
    rw [List.nil_append] at pieces
    simp [pieces] at full
  getLast?_ne := by
    intro last
    obtain ⟨start, rfl⟩ := List.getLast?_eq_some_iff.1 last
    have pieces := List.splitOn_append_cons_self (a := item) start []
    simp [pieces] at full
  not_doubled := by
    rintro ⟨before, behind, rfl⟩
    have pieces := List.splitOn_append_cons_self (a := item) [] behind
    rw [List.nil_append] at pieces
    simp [List.splitOn_append_cons_self, pieces] at full

/-- The separator of full parts stands inside. -/
theorem isInside_intercalate [BEq Item] [LawfulBEq Item] {separator : Item}
    {parts : List (List Item)} (full : [] ∉ parts)
    (apart : ∀ part ∈ parts, separator ∉ part) :
    IsInside separator ([separator].intercalate parts) := by
  cases parts with
  | nil => exact ⟨nofun, nofun, by simp⟩
  | cons part rest =>
      apply IsInside.of_nil_notMem_splitOn
      rw [List.splitOn_intercalate separator apart (List.cons_ne_nil _ _)]
      exact full

end ShaderBindings
