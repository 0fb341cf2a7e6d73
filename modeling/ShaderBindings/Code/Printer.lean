import ShaderBindings.Code.Line

/-!
# Printing lines

A printer holds the text so far and the number of open blocks.  A line is
indented by three spaces for each block it stands in; the line that closes a
block stands outside of it, and a blank line is not indented.

What a printer adds depends on the lines and on its depth only:
`Printer.printAll_text` says that it is `renderAt` of both.
-/

namespace ShaderBindings

/-- The spaces in front of a line inside some blocks. -/
def indentation (depth : Nat) : String :=
  String.ofList (List.replicate (3 * depth) ' ')

/-- A line with its indentation and its end. -/
def Line.printedAt (depth : Nat) : Line → String
  | .blank => "\n"
  | line => indentation depth ++ line.text ++ "\n"

/-- The text so far and the number of blocks that are open behind it. -/
structure Printer where
  text : String := ""
  depth : Nat := 0

namespace Printer

/-- Add a line. -/
def print (printer : Printer) (line : Line) : Printer :=
  match line.nesting with
  | .opens =>
      { text := printer.text ++ line.printedAt printer.depth
        depth := printer.depth + 1 }
  | .closes =>
      { text := printer.text ++ line.printedAt (printer.depth - 1)
        depth := printer.depth - 1 }
  | .stays =>
      { text := printer.text ++ line.printedAt printer.depth
        depth := printer.depth }

/-- Add several lines, the first one first. -/
def printAll (printer : Printer) (lines : List Line) : Printer :=
  lines.foldl print printer

end Printer

/-- The text of some lines inside a number of blocks. -/
def renderAt (depth : Nat) (lines : List Line) : String :=
  (Printer.printAll { depth := depth } lines).text

/-- The text of some lines outside of all blocks. -/
def render (lines : List Line) : String :=
  renderAt 0 lines

namespace Printer

@[simp]
theorem printAll_nil (printer : Printer) : printer.printAll [] = printer :=
  rfl

@[simp]
theorem printAll_cons (printer : Printer) (line : Line)
    (lines : List Line) :
    printer.printAll (line :: lines) = (printer.print line).printAll lines :=
  rfl

@[simp]
theorem printAll_append (printer : Printer) (first second : List Line) :
    printer.printAll (first ++ second) =
      (printer.printAll first).printAll second := by
  simp [printAll]

/-- A line goes behind the text, and the text has no part in how it looks. -/
theorem print_behind (before text : String) (depth : Nat) (line : Line) :
    print { text := before ++ text, depth } line =
      { text := before ++ (print { text, depth } line).text
        depth := (print { text, depth } line).depth } := by
  unfold print
  split <;> simp [String.append_assoc]

theorem printAll_behind (before text : String) (depth : Nat)
    (lines : List Line) :
    printAll { text := before ++ text, depth } lines =
      { text := before ++ (printAll { text, depth } lines).text
        depth := (printAll { text, depth } lines).depth } := by
  induction lines generalizing text depth with
  | nil => rfl
  | cons line rest inductionHypothesis =>
      rw [printAll_cons, print_behind, inductionHypothesis, printAll_cons]

/-- Lines are added behind the text as `renderAt` prints them. -/
theorem printAll_text (printer : Printer) (lines : List Line) :
    (printer.printAll lines).text =
      printer.text ++ renderAt printer.depth lines := by
  have behind := printAll_behind printer.text "" printer.depth lines
  rw [String.append_empty] at behind
  exact congrArg Printer.text behind

end Printer

end ShaderBindings
