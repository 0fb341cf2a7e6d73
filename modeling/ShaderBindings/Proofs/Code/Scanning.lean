import ShaderBindings.Proofs.Code.Reading

/-!
# Scanning for what is open

A scan goes through a text from the left and counts the braces and the
parentheses that are open.  It passes over string literals: a literal goes from
a quote to the next quote that has no backslash in front of it.

A text is neutral when a scan which is not in a literal has the same counts
behind the text as in front of it and does not fall below zero on the way.
Texts without marks are neutral, and so is what stands in quotes or in
parentheses.  By this every call is neutral, whatever its literals hold:
`Call.IsWellNamed.isNeutral`.
-/

namespace ShaderBindings

/-! ## Scans -/

/-- Whether a scan is inside of a literal. -/
inductive ScanMode where
  | code
  | literal
  /-- In a literal, behind a backslash. -/
  | escaped
deriving DecidableEq

/-- Where a scan is and what it has found open so far. -/
structure Scan where
  mode : ScanMode := .code
  braces : Int := 0
  parentheses : Int := 0
deriving DecidableEq

namespace Scan

/-- One character outside of literals. -/
def stepCode (scan : Scan) : Char → Scan
  | '"' => { scan with mode := .literal }
  | '\x7b' => { scan with braces := scan.braces + 1 }
  | '\x7d' => { scan with braces := scan.braces - 1 }
  | '(' => { scan with parentheses := scan.parentheses + 1 }
  | ')' => { scan with parentheses := scan.parentheses - 1 }
  | _ => scan

/-- One character of a literal. -/
def stepLiteral (scan : Scan) : Char → Scan
  | '"' => { scan with mode := .code }
  | '\\' => { scan with mode := .escaped }
  | _ => scan

/-- Go on by a character. -/
def step (scan : Scan) (character : Char) : Scan :=
  match scan.mode with
  | .code => scan.stepCode character
  | .literal => scan.stepLiteral character
  | .escaped => { scan with mode := .literal }

/-- Go through a text. -/
def run (scan : Scan) (text : List Char) : Scan :=
  text.foldl step scan

/-- No more has been closed than was open. -/
def IsNonneg (scan : Scan) : Prop :=
  0 ≤ scan.braces ∧ 0 ≤ scan.parentheses

/-- A scan goes through a text, and nowhere more is closed than was open. -/
inductive Passes : Scan → List Char → Scan → Prop where
  | nil {scan : Scan} (nonneg : scan.IsNonneg) : Passes scan [] scan
  | cons {scan behind : Scan} {character : Char} {text : List Char}
      (nonneg : scan.IsNonneg)
      (passes : Passes (scan.step character) text behind) :
      Passes scan (character :: text) behind

namespace Passes

variable {scan middle behind : Scan} {text first second : List Char}

/-- To pass a text is to run over it. -/
theorem run_eq (passes : scan.Passes text behind) :
    scan.run text = behind := by
  induction passes with
  | nil => rfl
  | cons _ _ inductionHypothesis => exact inductionHypothesis

/-- What passes one text and then another passes both. -/
theorem append (passes : scan.Passes first middle)
    (passesBehind : middle.Passes second behind) :
    scan.Passes (first ++ second) behind := by
  induction passes with
  | nil => exact passesBehind
  | cons nonneg _ inductionHypothesis =>
      exact cons nonneg (inductionHypothesis passesBehind)

/-- No count falls below zero on the way. -/
theorem isNonneg_of_isPrefix (passes : scan.Passes text behind)
    {before : List Char} (start : before <+: text) :
    (scan.run before).IsNonneg := by
  induction passes generalizing before with
  | nil nonneg =>
      rw [List.prefix_nil.1 start]
      exact nonneg
  | cons nonneg _ inductionHypothesis =>
      rcases List.prefix_cons_iff.1 start with rfl | ⟨rest, rfl, inside⟩
      · exact nonneg
      · exact inductionHypothesis inside

end Passes

/-! ### Outside of literals -/

/-- A scan in the code which has found some braces and parentheses open. -/
def inCode (braces parentheses : Nat) : Scan where
  braces := braces
  parentheses := parentheses

variable (braces parentheses : Nat)

theorem isNonneg_inCode : (inCode braces parentheses).IsNonneg :=
  ⟨Int.natCast_nonneg braces, Int.natCast_nonneg parentheses⟩

/-- One character is passed in one step. -/
theorem inCode_passes_single {character : Char} {otherBraces others : Nat}
    (step : (inCode braces parentheses).step character =
      inCode otherBraces others) :
    (inCode braces parentheses).Passes [character]
      (inCode otherBraces others) := by
  refine .cons (isNonneg_inCode _ _) ?_
  rw [step]
  exact .nil (isNonneg_inCode _ _)

theorem passes_openBrace :
    (inCode braces parentheses).Passes ['\x7b']
      (inCode (braces + 1) parentheses) :=
  inCode_passes_single _ _ rfl

/-- A brace that closes has to have been opened. -/
theorem passes_closeBrace :
    (inCode (braces + 1) parentheses).Passes ['\x7d']
      (inCode braces parentheses) :=
  inCode_passes_single _ _ (by simp [step, stepCode, inCode])

theorem passes_openParenthesis :
    (inCode braces parentheses).Passes ['(']
      (inCode braces (parentheses + 1)) :=
  inCode_passes_single _ _ rfl

theorem passes_closeParenthesis :
    (inCode braces (parentheses + 1)).Passes [')']
      (inCode braces parentheses) :=
  inCode_passes_single _ _ (by simp [step, stepCode, inCode])

end Scan

/-! ## Neutral texts -/

/-- The characters that mean something to a scan, and the end of a line. -/
def marks : List Char :=
  ['"', '\x7b', '\x7d', '(', ')', '\n']

/-- A text without marks. -/
def IsPlain (text : List Char) : Prop :=
  ∀ character ∈ text, character ∉ marks

instance (text : List Char) : Decidable (IsPlain text) :=
  List.decidableBAll (· ∉ marks) text

/-- A character of a class that has no marks is none. -/
theorem notMem_marks {part : Char → Bool} {character : Char}
    (inside : part character = true) (noMarks : marks.any part = false) :
    character ∉ marks :=
  fun mark => List.any_eq_false.1 noMarks character mark inside

/-- A text has no marks if its parts have none. -/
theorem isPlain_append {first second : List Char} :
    IsPlain (first ++ second) ↔ IsPlain first ∧ IsPlain second :=
  List.forall_mem_append

/-- A text that leaves the counts of a scan as they are. -/
def IsNeutral (text : List Char) : Prop :=
  ∀ braces parentheses : Nat,
    (Scan.inCode braces parentheses).Passes text
      (Scan.inCode braces parentheses)

namespace IsNeutral

theorem nil : IsNeutral [] :=
  fun _ _ => .nil (Scan.isNonneg_inCode _ _)

/-- Neutral texts behind each other are neutral. -/
theorem append {first second : List Char} (firstNeutral : IsNeutral first)
    (secondNeutral : IsNeutral second) : IsNeutral (first ++ second) :=
  fun braces parentheses =>
    (firstNeutral braces parentheses).append (secondNeutral braces parentheses)

/-- A character that is no mark is neutral. -/
theorem singleton {character : Char} (plain : character ∉ marks) :
    IsNeutral [character] := by
  intro braces parentheses
  apply Scan.inCode_passes_single
  simp only [marks, List.mem_cons, List.not_mem_nil, or_false, not_or] at plain
  simp [Scan.step, Scan.stepCode, Scan.inCode, plain]

/-- What stands in parentheses is neutral with them. -/
theorem parenthesized {text : List Char} (neutral : IsNeutral text) :
    IsNeutral (['('] ++ (text ++ [')'])) :=
  fun braces parentheses =>
    (Scan.passes_openParenthesis braces parentheses).append
      ((neutral braces (parentheses + 1)).append
        (Scan.passes_closeParenthesis braces parentheses))

/-- Neutral texts with neutral texts between them are neutral. -/
theorem intercalate {separator : List Char} {parts : List (List Char)}
    (separatorNeutral : IsNeutral separator)
    (neutral : ∀ part ∈ parts, IsNeutral part) :
    IsNeutral (separator.intercalate parts) := by
  induction parts with
  | nil => exact nil
  | cons part rest inductionHypothesis =>
      rw [List.forall_mem_cons] at neutral
      cases rest with
      | nil =>
          rw [List.intercalate_singleton]
          exact neutral.1
      | cons next later =>
          rw [List.intercalate_cons_cons]
          exact (neutral.1.append separatorNeutral).append
            (inductionHypothesis neutral.2)

end IsNeutral

/-- A text without marks is neutral. -/
theorem IsPlain.isNeutral {text : List Char} (plain : IsPlain text) :
    IsNeutral text := by
  induction text with
  | nil => exact .nil
  | cons character rest inductionHypothesis =>
      rw [IsPlain, List.forall_mem_cons] at plain
      exact (IsNeutral.singleton plain.1).append (inductionHypothesis plain.2)

/-! ## Literals -/

namespace Scan

/-- A scan in a literal, with what it has found open in front of that. -/
def inLiteral (braces parentheses : Nat) : Scan :=
  { inCode braces parentheses with mode := .literal }

variable (braces parentheses : Nat)

theorem isNonneg_inLiteral : (inLiteral braces parentheses).IsNonneg :=
  isNonneg_inCode braces parentheses

/--
The escape of a character ends no literal: behind a backslash any character
leads back into it.
-/
theorem passes_escape (character : Char) :
    (inLiteral braces parentheses).Passes (escape character)
      (inLiteral braces parentheses) := by
  have nonneg := isNonneg_inLiteral braces parentheses
  unfold escape
  split
  case h_5 =>
    have passed : (inLiteral braces parentheses).step character =
        inLiteral braces parentheses := by
      simp [step, stepLiteral, inLiteral]
    refine .cons nonneg ?_
    rw [passed]
    exact .nil nonneg
  all_goals exact .cons nonneg (.cons nonneg (.nil nonneg))

/-- Nothing that a literal holds ends it. -/
theorem passes_flatMap_escape (text : List Char) :
    (inLiteral braces parentheses).Passes (text.flatMap escape)
      (inLiteral braces parentheses) := by
  induction text with
  | nil => exact .nil (isNonneg_inLiteral _ _)
  | cons character rest inductionHypothesis =>
      rw [List.flatMap_cons]
      exact (passes_escape _ _ character).append inductionHypothesis

end Scan

/-- A literal is neutral, whatever its text holds. -/
theorem isNeutral_quote (text : String) : IsNeutral (quote text).toList := by
  intro braces parentheses
  have inside := Scan.passes_flatMap_escape braces parentheses text.toList
  have outside := Scan.isNonneg_inCode braces parentheses
  rw [quote, String.toList_ofList]
  exact .cons outside (inside.append
    (.cons (Scan.isNonneg_inLiteral _ _) (.nil outside)))

/-! ## Calls -/

/-- Identifiers have no marks. -/
theorem isPlain_of_isIdentifier {name : String}
    (identifier : isIdentifier name = true) : IsPlain name.toList :=
  fun _ member =>
    notMem_marks (isIdentifierPart_of_mem identifier member) (by decide)

theorem Place.IsWellNamed.isPlain {place : Place}
    (wellNamed : Place.IsWellNamed place) :
    IsPlain (Place.text place).toList :=
  fun _ member =>
    notMem_marks (wellNamed.isPlacePart_of_mem member) (by decide)

/-- Arguments are neutral, whatever their literals hold. -/
theorem Argument.IsWellNamed.isNeutral {argument : Argument}
    (wellNamed : argument.IsWellNamed) : IsNeutral argument.text.toList := by
  cases argument with
  | place path => exact (Place.IsWellNamed.isPlain wellNamed).isNeutral
  | literal text => exact isNeutral_quote text

/-- A call closes the parenthesis that it opens. -/
theorem Call.IsWellNamed.isNeutral {call : Call}
    (wellNamed : call.IsWellNamed) : IsNeutral call.text.toList := by
  have separator : IsNeutral ", ".toList :=
    IsPlain.isNeutral (by decide)
  have arguments : IsNeutral
      (", ".intercalate (call.arguments.map Argument.text)).toList := by
    rw [String.toList_intercalate]
    apply separator.intercalate
    intro text printed
    simp only [List.map_map, List.mem_map, Function.comp_apply] at printed
    rcases printed with ⟨argument, member, rfl⟩
    exact (wellNamed.arguments argument member).isNeutral
  have spelling : call.text.toList = call.function.toList ++ (['('] ++
      ((", ".intercalate (call.arguments.map Argument.text)).toList ++
        [')'])) := by
    simp [Call.text]
  rw [spelling]
  exact (isPlain_of_isIdentifier wellNamed.function).isNeutral.append
    arguments.parenthesized

/-- What is in the literal is not counted. -/
example : Scan.run {} "if (f(\"\\\")\", x)) \x7b".toList = { braces := 1 } := by
  decide

end ShaderBindings
