import ShaderBindings.Proofs.Code.Scanning
import ShaderBindings.Proofs.Code.Structs

/-!
# Layout of generated text

A printer counts the blocks that are open, and a scan counts the braces that
are open in the printed text.  The two agree at the end of every line that is
tidy: its text opens a brace or closes one just when the line opens or closes
a block, and is neutral apart from that.

The main theorem, `Balanced.isWellNested_render`, says what follows for the
text of balanced lines which are tidy: nothing is closed that has not been
opened, nothing stays open, and every line is indented for the braces in front
of it.
-/

namespace ShaderBindings

/-! ## Well nested texts -/

/-- A line that is not empty starts with three spaces for each brace that is
open in front of it, and a closing brace at its start counts as closed. -/
def IsIndentedFor (braces : Int) (line : List Char) : Prop :=
  line = [] ∨ ∃ (level : Nat) (first : Char) (rest : List Char),
    line = List.replicate (3 * level) ' ' ++ first :: rest ∧ first ≠ ' ' ∧
      braces = if first = '\x7d' then level + 1 else level

/-- A text in which braces and parentheses match and lines are indented.  No
literal and no parenthesis is open at the end of a line. -/
structure IsWellNested (text : List Char) : Prop where
  nonneg : ∀ before, before <+: text → (Scan.run {} before).IsNonneg
  braces_closed : (Scan.run {} text).braces = 0
  literals_closed : ∀ before line after,
    cutLines text = before ++ line :: after →
      (Scan.run {} (before.flatMap (· ++ ['\n']) ++ line)).mode = .code
  parentheses_closed : ∀ before line after,
    cutLines text = before ++ line :: after →
      (Scan.run {} (before.flatMap (· ++ ['\n']) ++ line)).parentheses = 0
  indented : ∀ before line after,
    cutLines text = before ++ line :: after →
      IsIndentedFor (Scan.run {} (before.flatMap (· ++ ['\n']))).braces line

/-! ## One line after the other -/

/-- A line of a text, with the number of open braces on both sides of it. -/
structure LineIsLaidOut (depth : Nat) (line : List Char) (behind : Nat) :
    Prop where
  indented : IsIndentedFor depth line
  passes : (Scan.inCode depth 0).Passes line (Scan.inCode behind 0)

/-- Some lines of a text, with the number of open braces on both sides. -/
inductive IsLaidOut : Nat → List (List Char) → Nat → Prop where
  | nil {depth : Nat} : IsLaidOut depth [] depth
  | cons {depth middle behind : Nat} {line : List Char}
      {rest : List (List Char)} (first : LineIsLaidOut depth line middle)
      (later : IsLaidOut middle rest behind) :
      IsLaidOut depth (line :: rest) behind

/-- An empty line changes nothing. -/
theorem lineIsLaidOut_nil (depth : Nat) : LineIsLaidOut depth [] depth :=
  ⟨Or.inl rfl, .nil (Scan.isNonneg_inCode depth 0)⟩

namespace IsLaidOut

variable {depth middle behind : Nat} {lines first second : List (List Char)}

/-- One line that is laid out is a text of its own. -/
theorem single {line : List Char} (laidOut : LineIsLaidOut depth line behind) :
    IsLaidOut depth [line] behind :=
  .cons laidOut .nil

/-- Lines that are laid out behind each other are laid out together. -/
theorem append (laidOut : IsLaidOut depth first middle)
    (laidOutBehind : IsLaidOut middle second behind) :
    IsLaidOut depth (first ++ second) behind := by
  induction laidOut with
  | nil => exact laidOutBehind
  | cons line _ inductionHypothesis =>
      exact cons line (inductionHypothesis laidOutBehind)

/-- A scan agrees about the braces that are open behind the lines. -/
theorem passes (laidOut : IsLaidOut depth lines behind) :
    (Scan.inCode depth 0).Passes (lines.flatMap (· ++ ['\n']))
      (Scan.inCode behind 0) := by
  induction laidOut with
  | nil => exact .nil (Scan.isNonneg_inCode _ _)
  | cons line _ inductionHypothesis =>
      rw [List.flatMap_cons]
      exact (line.passes.append (Scan.inCode_passes_single _ _ rfl)).append
        inductionHypothesis

/-- Every line among others is laid out between two depths. -/
theorem exists_of_append_cons {before after : List (List Char)}
    {line : List Char}
    (laidOut : IsLaidOut depth (before ++ line :: after) behind) :
    ∃ start stop, IsLaidOut depth before start ∧
      LineIsLaidOut start line stop := by
  induction before generalizing depth with
  | nil =>
      cases laidOut with
      | cons first _ => exact ⟨_, _, nil, first⟩
  | cons other rest inductionHypothesis =>
      cases laidOut with
      | cons first later =>
          obtain ⟨start, stop, laidOutBefore, found⟩ :=
            inductionHypothesis later
          exact ⟨start, stop, cons first laidOutBefore, found⟩

/-- What a scan has found at both ends of a line of the text. -/
theorem exists_passes_of_cutLines (laidOut : IsLaidOut 0 lines 0)
    (oneLine : ∀ line ∈ lines, '\n' ∉ line)
    {before after : List (List Char)} {line : List Char}
    (cut : cutLines (lines.flatMap (· ++ ['\n'])) = before ++ line :: after) :
    ∃ start stop,
      (Scan.inCode 0 0).Passes (before.flatMap (· ++ ['\n']))
        (Scan.inCode start 0) ∧
      LineIsLaidOut start line stop := by
  have withEnd : IsLaidOut 0 (lines ++ [[]]) 0 :=
    laidOut.append (single (lineIsLaidOut_nil 0))
  rw [← cutLines_flatMap oneLine, cut] at withEnd
  obtain ⟨start, stop, laidOutBefore, found⟩ := withEnd.exists_of_append_cons
  exact ⟨start, stop, laidOutBefore.passes, found⟩

/-- Lines that come back to the margin are a well nested text. -/
theorem isWellNested (laidOut : IsLaidOut 0 lines 0)
    (oneLine : ∀ line ∈ lines, '\n' ∉ line) :
    IsWellNested (lines.flatMap (· ++ ['\n'])) := by
  constructor
  case nonneg => exact fun before => laidOut.passes.isNonneg_of_isPrefix
  case braces_closed => exact congrArg Scan.braces laidOut.passes.run_eq
  case literals_closed =>
    intro before line after cut
    obtain ⟨start, stop, passesBefore, found⟩ :=
      laidOut.exists_passes_of_cutLines oneLine cut
    exact congrArg Scan.mode (passesBefore.append found.passes).run_eq
  case parentheses_closed =>
    intro before line after cut
    obtain ⟨start, stop, passesBefore, found⟩ :=
      laidOut.exists_passes_of_cutLines oneLine cut
    exact congrArg Scan.parentheses (passesBefore.append found.passes).run_eq
  case indented =>
    intro before line after cut
    obtain ⟨start, stop, passesBefore, found⟩ :=
      laidOut.exists_passes_of_cutLines oneLine cut
    have braces : (Scan.run {} (before.flatMap (· ++ ['\n']))).braces =
        start := congrArg Scan.braces passesBefore.run_eq
    rw [braces]
    exact found.indented

end IsLaidOut

/-! ## Tidy lines -/

/-- The text starts with something other than a space or a closing brace. -/
def StartsVisibly : List Char → Prop
  | [] => False
  | first :: _ => first ≠ ' ' ∧ first ≠ '\x7d'

instance : (text : List Char) → Decidable (StartsVisibly text)
  | [] => inferInstanceAs (Decidable False)
  | _ :: _ => inferInstanceAs (Decidable (_ ∧ _))

/-- Only the start of a text tells that it is visible. -/
theorem StartsVisibly.append {first : List Char}
    (starts : StartsVisibly first) (second : List Char) :
    StartsVisibly (first ++ second) := by
  cases first with
  | nil => exact starts.elim
  | cons character rest => exact starts

/-- No part of a place is a space or a brace that closes. -/
theorem startsVisibly_of_isPlacePart {text : List Char} {first : Char}
    (head : text.head? = some first) (part : isPlacePart first = true) :
    StartsVisibly text := by
  obtain ⟨rest, rfl⟩ := List.head?_eq_some_iff.1 head
  constructor
  · rintro rfl
    exact absurd part (by decide)
  · rintro rfl
    exact absurd part (by decide)

/-- An identifier starts with no space. -/
theorem startsVisibly_of_isIdentifier {name : String}
    (identifier : isIdentifier name = true) :
    StartsVisibly name.toList := by
  obtain ⟨first, rest, spelling, part⟩ :=
    exists_cons_of_isIdentifier identifier
  have head : name.toList.head? = some first := by
    rw [spelling, List.head?_cons]
  exact startsVisibly_of_isPlacePart head (by simp [isPlacePart, part])

/-- The spelling of a line agrees with what the line does to blocks. -/
def Line.IsTidy (line : Line) : Prop :=
  match line.nesting with
  | .opens => ∃ head, line.text.toList = head ++ ['\x7b'] ∧
      StartsVisibly head ∧ IsNeutral head
  | .closes => ∃ tail, line.text.toList = ['\x7d'] ++ tail ∧ IsNeutral tail
  | .stays => line = .blank ∨
      StartsVisibly line.text.toList ∧ IsNeutral line.text.toList

/-- Indentation means nothing to a scan. -/
theorem isNeutral_indentation (level : Nat) :
    IsNeutral (List.replicate (3 * level) ' ') := by
  apply IsPlain.isNeutral
  intro character member
  rw [List.eq_of_mem_replicate member]
  decide

/-- Spaces in front of a visible start are its whole indentation. -/
theorem isIndentedFor_of_startsVisibly {text : List Char}
    (starts : StartsVisibly text) (level : Nat) :
    IsIndentedFor level (List.replicate (3 * level) ' ' ++ text) := by
  cases text with
  | nil => exact starts.elim
  | cons first rest =>
      exact Or.inr ⟨level, first, rest, rfl, starts.1,
        by rw [if_neg starts.2]⟩

namespace Line.IsTidy

variable {line : Line}

/-- A tidy line that opens a block leads one level deeper. -/
theorem lineIsLaidOut_of_opens (tidy : line.IsTidy)
    (opens : line.nesting = .opens) (depth : Nat) :
    LineIsLaidOut depth (line.indentedAt depth) (depth + 1) := by
  simp only [Line.IsTidy, opens] at tidy
  obtain ⟨head, spelling, starts, neutral⟩ := tidy
  have indented : line.indentedAt depth =
      List.replicate (3 * depth) ' ' ++ (head ++ ['\x7b']) := by
    rcases line.indentedAt_eq_nil_or depth with rfl | printed
    · cases opens
    · rw [printed, spelling]
  rw [indented]
  refine ⟨isIndentedFor_of_startsVisibly (starts.append _) depth, ?_⟩
  exact (isNeutral_indentation depth depth 0).append
    ((neutral depth 0).append (Scan.passes_openBrace depth 0))

/-- A tidy line that closes a block stands outside of it already. -/
theorem lineIsLaidOut_of_closes (tidy : line.IsTidy)
    (closes : line.nesting = .closes) (depth : Nat) :
    LineIsLaidOut (depth + 1) (line.indentedAt depth) depth := by
  simp only [Line.IsTidy, closes] at tidy
  obtain ⟨tail, spelling, neutral⟩ := tidy
  have indented : line.indentedAt depth =
      List.replicate (3 * depth) ' ' ++ (['\x7d'] ++ tail) := by
    rcases line.indentedAt_eq_nil_or depth with rfl | printed
    · cases closes
    · rw [printed, spelling]
  rw [indented]
  refine ⟨Or.inr ⟨depth, '\x7d', tail, rfl, by decide, rfl⟩, ?_⟩
  exact (isNeutral_indentation depth (depth + 1) 0).append
    ((Scan.passes_closeBrace depth 0).append (neutral depth 0))

/-- Any other tidy line keeps its depth. -/
theorem lineIsLaidOut_of_stays (tidy : line.IsTidy)
    (stays : line.nesting = .stays) (depth : Nat) :
    LineIsLaidOut depth (line.indentedAt depth) depth := by
  simp only [Line.IsTidy, stays] at tidy
  rcases tidy with rfl | ⟨starts, neutral⟩
  · exact lineIsLaidOut_nil depth
  rcases line.indentedAt_eq_nil_or depth with rfl | printed
  · exact lineIsLaidOut_nil depth
  · rw [printed]
    exact ⟨isIndentedFor_of_startsVisibly starts depth,
      ((isNeutral_indentation depth).append neutral) depth 0⟩

end Line.IsTidy

/-! ### Spellings -/

namespace Line

theorem isNeutral_semicolon : IsNeutral ";".toList :=
  IsPlain.isNeutral (by decide)

/-- A line with a keyword at its start is tidy if the rest is neutral. -/
theorem isTidy_of_keyword {line : Line} {keyword rest : String}
    (stays : line.nesting = .stays) (spelling : line.text = keyword ++ rest)
    (visible : StartsVisibly keyword.toList) (plain : IsPlain keyword.toList)
    (neutral : IsNeutral rest.toList) : line.IsTidy := by
  simp only [IsTidy, stays, spelling, String.toList_append]
  exact Or.inr ⟨visible.append _, plain.isNeutral.append neutral⟩

theorem isTidy_comment {content : String} (plain : IsPlain content.toList) :
    (comment content).IsTidy := by
  apply isTidy_of_keyword rfl (String.append_assoc ..)
  · decide
  · decide
  · rw [String.toList_append]
    exact (isPlain_append.2 ⟨plain, by decide⟩).isNeutral

/-- An include is tidy, since its header stands in a literal. -/
theorem isTidy_includeLocal (header : String) :
    (includeLocal header).IsTidy :=
  isTidy_of_keyword rfl rfl (by decide) (by decide) (isNeutral_quote header)

theorem isTidy_unlessDefined {guard : String} (plain : IsPlain guard.toList) :
    (unlessDefined guard).IsTidy :=
  isTidy_of_keyword rfl rfl (by decide) (by decide) plain.isNeutral

theorem isTidy_define {guard : String} (plain : IsPlain guard.toList) :
    (define guard).IsTidy :=
  isTidy_of_keyword rfl rfl (by decide) (by decide) plain.isNeutral

/-- A declaration of identifiers has no marks. -/
theorem isPlain_declaration {typeName name : String}
    (typeNamed : isIdentifier typeName = true)
    (named : isIdentifier name = true) :
    IsPlain (typeName.toList ++
      (" ".toList ++ (name.toList ++ ";".toList))) := by
  simp only [isPlain_append]
  exact ⟨isPlain_of_isIdentifier typeNamed, by decide,
    isPlain_of_isIdentifier named, by decide⟩

theorem isTidy_declareExtern {typeName name : String}
    (typeNamed : isIdentifier typeName = true)
    (named : isIdentifier name = true) :
    (declareExtern typeName name).IsTidy := by
  have spelling : (declareExtern typeName name).text =
      "extern " ++ (typeName ++ (" " ++ (name ++ ";"))) := by
    show "extern " ++ typeName ++ " " ++ name ++ ";" = _
    simp only [String.append_assoc]
  apply isTidy_of_keyword rfl spelling
  · decide
  · decide
  · simp only [String.toList_append]
    exact (isPlain_declaration typeNamed named).isNeutral

/-- The parentheses of a function without arguments close each other. -/
theorem isNeutral_noArguments : IsNeutral " (void)".toList :=
  have space : IsNeutral [' '] := .singleton (by decide)
  have keyword : IsNeutral "void".toList := IsPlain.isNeutral (by decide)
  space.append keyword.parenthesized

theorem isTidy_declareFunction {name : String}
    (named : isIdentifier name = true) : (declareFunction name).IsTidy := by
  have spelling : (declareFunction name).text =
      "void " ++ (name ++ (" (void)" ++ ";")) := by
    show "void " ++ name ++ " (void);" = _
    simp only [String.append_assoc]
    rfl
  apply isTidy_of_keyword rfl spelling
  · decide
  · decide
  · simp only [String.toList_append]
    exact (isPlain_of_isIdentifier named).isNeutral.append
      (isNeutral_noArguments.append isNeutral_semicolon)

theorem isTidy_openTypedef {typeName : String}
    (typeNamed : isIdentifier typeName = true) :
    (openTypedef typeName).IsTidy := by
  refine ⟨"typedef struct ".toList ++ (typeName.toList ++ "_ ".toList),
    ?_, ?_, ?_⟩
  · show ("typedef struct " ++ typeName ++ "_ \x7b").toList = _
    simp
  · exact StartsVisibly.append (by decide) _
  · apply IsPlain.isNeutral
    simp only [isPlain_append]
    exact ⟨by decide, isPlain_of_isIdentifier typeNamed, by decide⟩

theorem isTidy_openFunction {name : String}
    (named : isIdentifier name = true) : (openFunction name).IsTidy := by
  have keyword : IsNeutral "void ".toList := IsPlain.isNeutral (by decide)
  have space : IsNeutral [' '] := .singleton (by decide)
  refine ⟨"void ".toList ++ (name.toList ++ (" (void)".toList ++ [' '])),
    ?_, ?_, ?_⟩
  · show ("void " ++ name ++ " (void) \x7b").toList = _
    simp
  · exact StartsVisibly.append (by decide) _
  · exact keyword.append ((isPlain_of_isIdentifier named).isNeutral.append
      (isNeutral_noArguments.append space))

theorem isTidy_openIf {condition : Call}
    (conditionNamed : condition.IsWellNamed) :
    (openIf condition).IsTidy := by
  have keyword : IsNeutral "if ".toList := IsPlain.isNeutral (by decide)
  have space : IsNeutral [' '] := .singleton (by decide)
  refine ⟨"if ".toList ++
    (['('] ++ (condition.text.toList ++ [')']) ++ [' ']), ?_, ?_, ?_⟩
  · rw [toList_text_openIf]
    simp
  · exact StartsVisibly.append (by decide) _
  · exact keyword.append
      (conditionNamed.isNeutral.parenthesized.append space)

theorem isTidy_clear {name : String} (named : isIdentifier name = true) :
    (clear name).IsTidy := by
  have plain : IsNeutral name.toList :=
    (isPlain_of_isIdentifier named).isNeutral
  have function : IsNeutral "memset".toList := IsPlain.isNeutral (by decide)
  have address : IsNeutral ['&'] := .singleton (by decide)
  have zero : IsNeutral ", 0, sizeof".toList := IsPlain.isNeutral (by decide)
  have arguments : IsNeutral (['&'] ++ (name.toList ++
      (", 0, sizeof".toList ++ (['('] ++ (name.toList ++ [')']))))) :=
    address.append (plain.append (zero.append plain.parenthesized))
  have spelling : (clear name).text.toList = "memset".toList ++
      (['('] ++ ((['&'] ++ (name.toList ++ (", 0, sizeof".toList ++
        (['('] ++ (name.toList ++ [')']))))) ++ [')']) ++ ";".toList) := by
    rw [toList_text_clear]
    simp
  simp only [IsTidy, nesting, spelling]
  exact Or.inr ⟨StartsVisibly.append (by decide) _,
    function.append (arguments.parenthesized.append isNeutral_semicolon)⟩

/-- Statements are tidy, whatever their literals hold. -/
theorem IsStatement.isTidy {line : Line} (statement : line.IsStatement) :
    line.IsTidy := by
  cases line with
  | blank => exact Or.inl rfl
  | closeBlock => exact ⟨[], rfl, .nil⟩
  | openIf condition => exact isTidy_openIf statement
  | clear name => exact isTidy_clear statement
  | assign target value =>
      obtain ⟨first, head, part⟩ :=
        (statement.starts.resolve_left nofun).resolve_left nofun
      have equals : IsNeutral " = ".toList := IsPlain.isNeutral (by decide)
      refine Or.inr ⟨startsVisibly_of_isPlacePart head part, ?_⟩
      rw [toList_text_assign]
      exact statement.1.isPlain.isNeutral.append
        (equals.append (statement.2.isNeutral.append isNeutral_semicolon))
  | perform call =>
      obtain ⟨first, head, part⟩ :=
        (statement.starts.resolve_left nofun).resolve_left nofun
      have callNamed : call.IsWellNamed := statement
      refine Or.inr ⟨startsVisibly_of_isPlacePart head part, ?_⟩
      rw [toList_text_perform]
      exact callNamed.isNeutral.append isNeutral_semicolon
  | _ => exact statement.elim

/-- The lines of a struct are tidy. -/
theorem IsStructLine.isTidy {line : Line} (structLine : line.IsStructLine) :
    line.IsTidy := by
  cases line with
  | openStruct =>
      exact ⟨"struct ".toList, rfl, by decide, IsPlain.isNeutral (by decide)⟩
  | closeStruct name =>
      refine ⟨" ".toList ++ (name.toList ++ ";".toList),
        toList_text_closeStruct name, ?_⟩
      apply IsPlain.isNeutral
      simp only [isPlain_append]
      exact ⟨by decide, isPlain_of_isIdentifier structLine, by decide⟩
  | declare typeName name =>
      simp only [IsTidy, nesting, toList_text_declare]
      exact Or.inr
        ⟨(startsVisibly_of_isIdentifier structLine.1).append _,
          (isPlain_declaration structLine.1 structLine.2).isNeutral⟩
  | _ => exact structLine.elim

end Line

/-! ## Balanced lines -/

namespace Balanced

/-- Balanced lines that are tidy are laid out as they are printed. -/
theorem isLaidOut {lines : List Line} (balanced : Balanced lines)
    (tidy : ∀ line ∈ lines, line.IsTidy) (depth : Nat) :
    IsLaidOut depth (indentedLines depth lines) depth := by
  induction balanced generalizing depth with
  | nil => exact .nil
  | single stays =>
      rw [List.forall_mem_singleton] at tidy
      rw [indentedLines, Line.level_of_stays stays]
      exact .single (tidy.lineIsLaidOut_of_stays stays depth)
  | append firstBalanced _ firstIH secondIH =>
      rw [List.forall_mem_append] at tidy
      rw [indentedLines_append_of_balanced firstBalanced]
      exact (firstIH tidy.1 depth).append (secondIH tidy.2 depth)
  | block opens closes bodyBalanced bodyIH =>
      simp only [List.forall_mem_append, List.forall_mem_singleton] at tidy
      obtain ⟨⟨openingTidy, bodyTidy⟩, closingTidy⟩ := tidy
      rw [indentedLines_block opens closes bodyBalanced]
      exact .cons (openingTidy.lineIsLaidOut_of_opens opens depth)
        ((bodyIH bodyTidy (depth + 1)).append
          (.single (closingTidy.lineIsLaidOut_of_closes closes depth)))

/-- The text of balanced and tidy lines is well nested. -/
theorem isWellNested_render {lines : List Line} (balanced : Balanced lines)
    (tidy : ∀ line ∈ lines, line.IsTidy)
    (oneLine : ∀ line ∈ lines, line.IsOneLine) :
    IsWellNested (render lines).toList := by
  rw [render, toList_renderAt]
  exact (balanced.isLaidOut tidy 0).isWellNested
    (newline_notMem_indentedLines oneLine 0)

end Balanced

end ShaderBindings
