import ShaderBindings.Code.Printer
import ShaderBindings.Proofs.Code.Joining

/-!
# Nesting of lines

A printer changes its depth at the lines that open and close blocks.  Lines
are balanced when they close exactly the blocks that they open.  Every
construct of the generated files is balanced, so that a printer is at the same
depth behind it as in front of it, and no line of it stands outside of the
blocks in which it begins.

The text of several lines is the text of the first ones and then the text of
the others, printed at the depth that the first ones have left.
-/

namespace ShaderBindings

/-- The number of blocks around a line which is printed at a depth. -/
def Line.level (depth : Nat) (line : Line) : Nat :=
  match line.nesting with
  | .closes => depth - 1
  | _ => depth

/-- The number of blocks that are open behind a line. -/
def Line.depthBehind (depth : Nat) (line : Line) : Nat :=
  match line.nesting with
  | .opens => depth + 1
  | .closes => depth - 1
  | .stays => depth

/-- The number of open blocks behind some lines. -/
def depthBehind (depth : Nat) (lines : List Line) : Nat :=
  lines.foldl Line.depthBehind depth

@[simp]
theorem depthBehind_nil (depth : Nat) : depthBehind depth [] = depth :=
  rfl

@[simp]
theorem depthBehind_cons (depth : Nat) (line : Line) (lines : List Line) :
    depthBehind depth (line :: lines) =
      depthBehind (line.depthBehind depth) lines :=
  rfl

/-- The second lines start at the depth to which the first ones have come. -/
@[simp]
theorem depthBehind_append (depth : Nat) (first second : List Line) :
    depthBehind depth (first ++ second) =
      depthBehind (depthBehind depth first) second := by
  simp [depthBehind]

namespace Line

theorem depthBehind_of_opens {line : Line} (opens : line.nesting = .opens)
    (depth : Nat) : line.depthBehind depth = depth + 1 := by
  simp [depthBehind, opens]

theorem depthBehind_of_closes {line : Line} (closes : line.nesting = .closes)
    (depth : Nat) : line.depthBehind depth = depth - 1 := by
  simp [depthBehind, closes]

theorem depthBehind_of_stays {line : Line} (stays : line.nesting = .stays)
    (depth : Nat) : line.depthBehind depth = depth := by
  simp [depthBehind, stays]

theorem level_of_opens {line : Line} (opens : line.nesting = .opens)
    (depth : Nat) : line.level depth = depth := by
  simp [level, opens]

theorem level_of_closes {line : Line} (closes : line.nesting = .closes)
    (depth : Nat) : line.level depth = depth - 1 := by
  simp [level, closes]

theorem level_of_stays {line : Line} (stays : line.nesting = .stays)
    (depth : Nat) : line.level depth = depth := by
  simp [level, stays]

end Line

/-! ## Printing at a depth -/

namespace Printer

/--
A line is printed at its own level, and the next ones at the depth behind it.
-/
theorem print_eq (printer : Printer) (line : Line) :
    printer.print line =
      { text := printer.text ++ line.printedAt (line.level printer.depth)
        depth := line.depthBehind printer.depth } := by
  unfold print Line.level Line.depthBehind
  cases line.nesting <;> rfl

/-- The depth of a printer does not depend on its text. -/
@[simp]
theorem printAll_depth (printer : Printer) (lines : List Line) :
    (printer.printAll lines).depth = depthBehind printer.depth lines := by
  induction lines generalizing printer with
  | nil => rfl
  | cons line rest inductionHypothesis =>
      rw [printAll_cons, inductionHypothesis, print_eq, depthBehind_cons]

end Printer

@[simp]
theorem renderAt_nil (depth : Nat) : renderAt depth [] = "" :=
  rfl

/-- A text goes on at the depth to which its first lines have come. -/
theorem renderAt_append (depth : Nat) (first second : List Line) :
    renderAt depth (first ++ second) =
      renderAt depth first ++ renderAt (depthBehind depth first) second := by
  have behind :=
    Printer.printAll_text (Printer.printAll { depth := depth } first) second
  rw [Printer.printAll_depth] at behind
  rw [renderAt, Printer.printAll_append, behind]
  rfl

/-- A text starts with its first line. -/
theorem renderAt_cons (depth : Nat) (line : Line) (lines : List Line) :
    renderAt depth (line :: lines) =
      line.printedAt (line.level depth) ++
        renderAt (line.depthBehind depth) lines := by
  have behind := renderAt_append depth [line] lines
  rw [List.singleton_append, depthBehind_cons, depthBehind_nil] at behind
  rw [behind, renderAt, Printer.printAll_cons, Printer.print_eq]
  simp

/-! ## Balanced lines -/

/-- Lines that close exactly the blocks that they open. -/
inductive Balanced : List Line → Prop where
  | nil : Balanced []
  | single {line : Line} (stays : line.nesting = .stays) : Balanced [line]
  | append {first second : List Line}
      (firstBalanced : Balanced first) (secondBalanced : Balanced second) :
      Balanced (first ++ second)
  | block {opening closing : Line} {body : List Line}
      (opens : opening.nesting = .opens) (closes : closing.nesting = .closes)
      (bodyBalanced : Balanced body) :
      Balanced ([opening] ++ body ++ [closing])

namespace Balanced

/-- Lines that open and close nothing are balanced. -/
theorem of_forall_stays {lines : List Line}
    (stays : ∀ line ∈ lines, line.nesting = .stays) : Balanced lines := by
  induction lines with
  | nil => exact nil
  | cons line rest inductionHypothesis =>
      rw [List.forall_mem_cons] at stays
      exact append (single stays.1) (inductionHypothesis stays.2)

/-- Balanced parts behind each other are balanced. -/
theorem flatMap {Item : Type} {items : List Item} {lines : Item → List Line}
    (balanced : ∀ item ∈ items, Balanced (lines item)) :
    Balanced (items.flatMap lines) := by
  induction items with
  | nil => exact nil
  | cons item rest inductionHypothesis =>
      rw [List.forall_mem_cons] at balanced
      rw [List.flatMap_cons]
      exact append balanced.1 (inductionHypothesis balanced.2)

/-- Balanced parts with balanced lines between them are balanced. -/
theorem intercalate {separator : List Line} {parts : List (List Line)}
    (separatorBalanced : Balanced separator)
    (balanced : ∀ part ∈ parts, Balanced part) :
    Balanced (separator.intercalate parts) := by
  cases parts with
  | nil => exact nil
  | cons part rest =>
      rw [List.forall_mem_cons] at balanced
      rw [intercalate_cons_eq]
      exact balanced.1.append (flatMap fun other member =>
        separatorBalanced.append (balanced.2 other member))

/-- Behind balanced lines the same blocks are open as in front of them. -/
theorem depthBehind_eq {lines : List Line} (balanced : Balanced lines)
    (depth : Nat) : depthBehind depth lines = depth := by
  induction balanced generalizing depth with
  | nil => rfl
  | single stays => simp [Line.depthBehind_of_stays stays]
  | append _ _ firstIH secondIH =>
      rw [depthBehind_append, firstIH, secondIH]
  | block opens closes _ bodyIH =>
      simp [Line.depthBehind_of_opens opens,
        Line.depthBehind_of_closes closes, bodyIH]

end Balanced

/-! ## Printing balanced parts

Parts that are balanced are printed at the same depth one after the other, so
that each has the text that it has alone. -/

/-- Behind balanced lines a text goes on at the same depth. -/
theorem renderAt_append_of_balanced {first : List Line}
    (balanced : Balanced first) (depth : Nat) (second : List Line) :
    renderAt depth (first ++ second) =
      renderAt depth first ++ renderAt depth second := by
  rw [renderAt_append, balanced.depthBehind_eq]

/-- The text of balanced parts is that of the single parts. -/
theorem renderAt_flatMap {Item : Type} {items : List Item}
    {lines : Item → List Line}
    (balanced : ∀ item ∈ items, Balanced (lines item)) (depth : Nat) :
    renderAt depth (items.flatMap lines) =
      String.join (items.map fun item => renderAt depth (lines item)) := by
  induction items with
  | nil => simp
  | cons item rest inductionHypothesis =>
      rw [List.forall_mem_cons] at balanced
      rw [List.flatMap_cons, renderAt_append_of_balanced balanced.1,
        inductionHypothesis balanced.2, List.map_cons, String.join_cons]

/-- The texts between balanced parts are all the same. -/
theorem renderAt_intercalate {separator : List Line}
    {parts : List (List Line)} (separatorBalanced : Balanced separator)
    (balanced : ∀ part ∈ parts, Balanced part) (depth : Nat) :
    renderAt depth (separator.intercalate parts) =
      (renderAt depth separator).intercalate (parts.map (renderAt depth)) := by
  induction parts with
  | nil => simp
  | cons part rest inductionHypothesis =>
      rw [List.forall_mem_cons] at balanced
      cases rest with
      | nil => simp
      | cons next later =>
          rw [List.intercalate_cons_cons,
            renderAt_append_of_balanced
              (balanced.1.append separatorBalanced),
            renderAt_append_of_balanced balanced.1,
            inductionHypothesis balanced.2]
          simp only [List.map_cons, String.intercalate_cons_cons]

end ShaderBindings
