import Mathlib.Data.List.Induction
import ShaderBindings.Proofs.Code.PrintedLines

/-!
# Frames

The frame of some lines is what a printer holds when it comes to them: the
text so far and the blocks that are open.  Balanced lines keep their frame,
whatever it is.  They go behind the text, they close no block but those that
they have opened themselves, and in the end the same blocks are open as in the
beginning: `Balanced.keepsFrame`.

Of the frame only the depth has a part in how the lines look.  As long as
every line stays one line of the text, a frame that is deeper puts more spaces
in front of each line and changes nothing else:
`Balanced.isIndentedAlike`.
-/

namespace ShaderBindings

/-! ## Printing in a frame -/

/-- Lines that leave the text and the blocks that are there as they are. -/
structure KeepsFrame (lines : List Line) : Prop where
  /-- The lines go behind the text, and the depth comes back. -/
  printAll_eq : ∀ printer : Printer,
    printer.printAll lines =
      { text := printer.text ++ renderAt printer.depth lines
        depth := printer.depth }
  /-- All the way, the blocks of the frame are open. -/
  le_depth : ∀ (printer : Printer) (before behind : List Line),
    lines = before ++ behind →
      printer.depth ≤ (printer.printAll before).depth
  /-- Where a block is closed, one more than those of the frame is open. -/
  lt_depth : ∀ (printer : Printer) (before behind : List Line) (line : Line),
    lines = before ++ line :: behind → line.nesting = .closes →
      printer.depth < (printer.printAll before).depth

/-- An item of two lists is one of the first or one of the second. -/
theorem append_eq_append_cons {Item : Type}
    {first second before behind : List Item} {item : Item}
    (parts : first ++ second = before ++ item :: behind) :
    (∃ between, first = before ++ item :: between) ∨
      ∃ between, before = first ++ between ∧
        second = between ++ item :: behind := by
  rcases List.append_eq_append_iff.1 parts with
    ⟨between, inFront, rest⟩ | ⟨rest, inFront, whole⟩
  · exact Or.inr ⟨between, inFront, rest⟩
  · rcases List.cons_eq_append_iff.1 whole with
      ⟨rfl, same⟩ | ⟨between, rfl, _⟩
    · rw [List.append_nil] at inFront
      exact Or.inr ⟨[], by rw [inFront, List.append_nil], same⟩
    · exact Or.inl ⟨between, inFront⟩

namespace Balanced

variable {lines : List Line}

/--
The block that a line closes has been opened by the lines before it: behind the
line that opens a block the depth is one more, and the body comes back to it.
-/
theorem lt_depthBehind (balanced : Balanced lines) (depth : Nat)
    {before behind : List Line} {line : Line}
    (parts : lines = before ++ line :: behind)
    (closes : line.nesting = .closes) :
    depth < depthBehind depth before := by
  induction balanced generalizing depth before behind with
  | nil => simp at parts
  | single stays =>
      rcases List.singleton_eq_append_iff.1 parts with
        ⟨_, same⟩ | ⟨_, nothing⟩
      · injection same with same
        rw [same, stays] at closes
        contradiction
      · contradiction
  | append firstBalanced _ firstIH secondIH =>
      rcases append_eq_append_cons parts with
        ⟨between, inFirst⟩ | ⟨between, rfl, inSecond⟩
      · exact firstIH depth inFirst
      · rw [depthBehind_append, firstBalanced.depthBehind_eq]
        exact secondIH depth inSecond
  | @block opening closing body opens _ bodyBalanced bodyIH =>
      rw [List.append_assoc, List.singleton_append] at parts
      rcases List.cons_eq_append_iff.1 parts with
        ⟨_, same⟩ | ⟨inside, rfl, rest⟩
      · injection same with same
        rw [same, opens] at closes
        contradiction
      · rw [depthBehind_cons, Line.depthBehind_of_opens opens]
        rcases append_eq_append_cons rest with
          ⟨between, inBody⟩ | ⟨between, rfl, last⟩
        · exact Nat.lt_of_succ_lt (bodyIH (depth + 1) inBody)
        · rcases List.singleton_eq_append_iff.1 last with
            ⟨rfl, _⟩ | ⟨_, nothing⟩
          · rw [List.append_nil, bodyBalanced.depthBehind_eq]
            exact Nat.lt_succ_self depth
          · contradiction

/-- On the way, balanced lines never leave the block in which they started. -/
theorem le_depthBehind (balanced : Balanced lines) (depth : Nat)
    {before behind : List Line} (parts : lines = before ++ behind) :
    depth ≤ depthBehind depth before := by
  induction before using List.reverseRecOn generalizing behind with
  | nil => exact Nat.le_refl depth
  | append_singleton earlier line inductionHypothesis =>
      rw [List.append_assoc, List.singleton_append] at parts
      have inside := inductionHypothesis parts
      rw [depthBehind_append, depthBehind_cons, depthBehind_nil]
      cases nesting : line.nesting with
      | opens =>
          rw [Line.depthBehind_of_opens nesting]
          exact Nat.le_succ_of_le inside
      | closes =>
          have deeper := balanced.lt_depthBehind depth parts nesting
          rw [Line.depthBehind_of_closes nesting]
          exact Nat.le_sub_one_of_lt deeper
      | stays =>
          rw [Line.depthBehind_of_stays nesting]
          exact inside

/-- Balanced lines keep every frame. -/
theorem keepsFrame (balanced : Balanced lines) : KeepsFrame lines where
  printAll_eq printer := by
    have depth := printer.printAll_depth lines
    rw [balanced.depthBehind_eq] at depth
    rw [← printer.printAll_text, ← depth]
  le_depth printer before behind parts := by
    rw [Printer.printAll_depth]
    exact balanced.le_depthBehind printer.depth parts
  lt_depth printer before behind line parts closes := by
    rw [Printer.printAll_depth]
    exact balanced.lt_depthBehind printer.depth parts closes

end Balanced

/-! ## Spaces in front of the lines -/

/-- A visible line inside of more blocks has the more spaces in front. -/
theorem Line.indentedAt_add {line : Line} (visible : line ≠ .blank)
    (outer inner : Nat) :
    line.indentedAt (outer + inner) =
      List.replicate (3 * outer) ' ' ++ line.indentedAt inner := by
  have spelling (level : Nat) :=
    (line.indentedAt_eq_nil_or level).resolve_left visible
  rw [spelling, spelling, Nat.mul_add, ← List.replicate_append_replicate,
    List.append_assoc]

namespace Balanced

variable {lines : List Line}

/-- Around more blocks, every line has the more spaces in front. -/
theorem indentedLines_add (balanced : Balanced lines)
    (visible : Line.blank ∉ lines) (outer inner : Nat) :
    indentedLines (outer + inner) lines =
      (indentedLines inner lines).map
        (List.replicate (3 * outer) ' ' ++ ·) := by
  induction balanced generalizing inner with
  | nil => rfl
  | single stays =>
      rw [List.mem_singleton] at visible
      rw [indentedLines_of_stays (by simpa using stays),
        indentedLines_of_stays (by simpa using stays), List.map_singleton,
        List.map_singleton, List.map_singleton,
        Line.indentedAt_add (Ne.symm visible)]
  | append firstBalanced _ firstIH secondIH =>
      rw [List.mem_append, not_or] at visible
      rw [indentedLines_append_of_balanced firstBalanced,
        indentedLines_append_of_balanced firstBalanced, List.map_append,
        firstIH visible.1, secondIH visible.2]
  | block opens closes bodyBalanced bodyIH =>
      simp only [List.mem_append, List.mem_singleton, not_or] at visible
      obtain ⟨⟨opening, body⟩, closing⟩ := visible
      rw [indentedLines_block opens closes bodyBalanced,
        indentedLines_block opens closes bodyBalanced, Nat.add_assoc,
        bodyIH body, Line.indentedAt_add (Ne.symm opening),
        Line.indentedAt_add (Ne.symm closing), List.map_cons,
        List.map_append, List.map_singleton]

end Balanced

/-- At every depth the lines have the text that they have at the margin, with
three spaces for each block in front of each line of it. -/
def IsIndentedAlike (lines : List Line) : Prop :=
  ∀ depth : Nat,
    cutLines (renderAt depth lines).toList =
      (cutLines (renderAt 0 lines).toList).dropLast.map
        (List.replicate (3 * depth) ' ' ++ ·) ++ [[]]

/-- Balanced lines look the same in every frame, apart from the indentation. -/
theorem Balanced.isIndentedAlike {lines : List Line}
    (balanced : Balanced lines) (visible : Line.blank ∉ lines)
    (oneLine : ∀ line ∈ lines, line.IsOneLine) : IsIndentedAlike lines := by
  intro depth
  have cut (level : Nat) : cutLines (renderAt level lines).toList =
      indentedLines level lines ++ [[]] := by
    have pieces := cutLines_renderAt oneLine level []
    rwa [List.append_nil, cutLines_nil] at pieces
  rw [cut, cut, List.dropLast_concat]
  exact congrArg (· ++ [[]]) (balanced.indentedLines_add visible depth 0)

end ShaderBindings
