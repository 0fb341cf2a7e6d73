/-!
# Spans of code points

A property of characters is given as a table of spans, in ascending order.  A
look-up reads the table from the start and stops at the first span that lies
behind the code point, so that characters with small code points are found
after a few steps.
-/

namespace ShaderBindings

/-- The code points from the first one to the last one, both included. -/
structure Span where
  first : Nat
  last : Nat
deriving DecidableEq

namespace Span

/-- Does a table of ascending spans hold a code point? -/
def covers (code : Nat) : List Span → Bool
  | [] => false
  | span :: rest =>
      if code < span.first then false
      else code ≤ span.last || covers code rest

/-- The entry for a code point in a table of ascending spans. -/
def lookup {α : Type} (code : Nat) : List (Span × α) → Option (Span × α)
  | [] => none
  | (span, value) :: rest =>
      if code < span.first then none
      else if code ≤ span.last then some (span, value)
      else lookup code rest

/-- The entry that is found is in the table and its span holds the code. -/
theorem mem_of_lookup {α : Type} {code : Nat} {table : List (Span × α)}
    {span : Span} {value : α}
    (found : lookup code table = some (span, value)) :
    (span, value) ∈ table ∧ span.first ≤ code ∧ code ≤ span.last := by
  induction table with
  | nil => simp [lookup] at found
  | cons head rest inductionHypothesis =>
      obtain ⟨headSpan, headValue⟩ := head
      unfold lookup at found
      split at found
      · contradiction
      · rename_i start
        split at found
        · rename_i inside
          cases found
          exact ⟨List.mem_cons_self, Nat.le_of_not_lt start, inside⟩
        · obtain ⟨member, bounds⟩ := inductionHypothesis found
          exact ⟨List.mem_cons_of_mem _ member, bounds⟩

end Span

end ShaderBindings
