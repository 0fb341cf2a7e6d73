import ShaderBindings.Identifier
import ShaderBindings.Proofs.Code.Nesting

/-!
# Printed lines

A text is cut into lines at its newlines.  When no line of code has a newline
in its spelling, cutting a printed text gives back the lines that were
printed, each with its indentation: `cutLines_renderAt`.

Balanced lines keep the indentation of the block they stand in, so that none
of them can be taken for a line at the margin.
-/

namespace ShaderBindings

/-- The pieces of a text between its newlines. -/
def cutLines (text : List Char) : List (List Char) :=
  text.splitOn '\n'

/-- The empty text is one empty line. -/
@[simp]
theorem cutLines_nil : cutLines [] = [[]] := by
  simp [cutLines, List.splitOn_eq_singleton]

/-- A text is cut behind its first line. -/
theorem cutLines_append_newline {line : List Char} (oneLine : '\n' ∉ line)
    (rest : List Char) :
    cutLines (line ++ '\n' :: rest) = line :: cutLines rest :=
  List.splitOn_append_cons_self_of_not_mem oneLine rest

theorem cutLines_flatMap_append {lines : List (List Char)}
    (oneLine : ∀ line ∈ lines, '\n' ∉ line) (rest : List Char) :
    cutLines (lines.flatMap (· ++ ['\n']) ++ rest) =
      lines ++ cutLines rest := by
  induction lines with
  | nil => rfl
  | cons line later inductionHypothesis =>
      rw [List.forall_mem_cons] at oneLine
      simp only [List.flatMap_cons, List.append_assoc, List.cons_append,
        List.nil_append]
      rw [cutLines_append_newline oneLine.1, inductionHypothesis oneLine.2]

/-- Behind the end of the last line there is an empty one. -/
theorem cutLines_flatMap {lines : List (List Char)}
    (oneLine : ∀ line ∈ lines, '\n' ∉ line) :
    cutLines (lines.flatMap (· ++ ['\n'])) = lines ++ [[]] := by
  rw [← List.append_nil (lines.flatMap _), cutLines_flatMap_append oneLine,
    cutLines_nil]

/-! ## Lines of code in a text -/

namespace Line

/-- The text of a line is not broken by a newline. -/
def IsOneLine (line : Line) : Prop :=
  '\n' ∉ line.text.toList

/-- A line as it stands inside some blocks, without its end. -/
def indentedAt (level : Nat) : Line → List Char
  | .blank => []
  | line => List.replicate (3 * level) ' ' ++ line.text.toList

/-- A printed line is its indented text and a newline. -/
theorem toList_printedAt (level : Nat) (line : Line) :
    (line.printedAt level).toList = line.indentedAt level ++ ['\n'] := by
  cases line <;> simp [printedAt, indentedAt, indentation]

/-- A blank line is empty, and any other has spaces in front of its text. -/
theorem indentedAt_eq_nil_or (level : Nat) (line : Line) :
    line = .blank ∨
      line.indentedAt level =
        List.replicate (3 * level) ' ' ++ line.text.toList := by
  cases line <;> simp [indentedAt]

/-- At the margin a line is its spelling. -/
@[simp]
theorem indentedAt_zero (line : Line) :
    line.indentedAt 0 = line.text.toList := by
  rcases line.indentedAt_eq_nil_or 0 with rfl | spelling
  · rfl
  · exact spelling

/-- Indentation breaks no line. -/
theorem newline_notMem_indentedAt {line : Line} (oneLine : line.IsOneLine)
    (level : Nat) : '\n' ∉ line.indentedAt level := by
  rcases line.indentedAt_eq_nil_or level with rfl | spelling
  · simp [indentedAt]
  · rw [spelling, List.mem_append, not_or]
    refine ⟨fun member => ?_, oneLine⟩
    exact absurd (List.eq_of_mem_replicate member) (by decide)

/-- An include stays on its line, since newlines are escaped in it. -/
theorem isOneLine_includeLocal (header : String) :
    (includeLocal header).IsOneLine := by
  show '\n' ∉ ("#include " ++ quote header).toList
  simp [newline_notMem_quote]

end Line

/-- The lines of a text which is printed at a depth, without their ends. -/
def indentedLines (depth : Nat) : List Line → List (List Char)
  | [] => []
  | line :: rest =>
      line.indentedAt (line.level depth) ::
        indentedLines (line.depthBehind depth) rest

@[simp]
theorem indentedLines_nil (depth : Nat) : indentedLines depth [] = [] :=
  rfl

/-- Lines go on at the depth to which the lines before them have come. -/
theorem indentedLines_append (depth : Nat) (first second : List Line) :
    indentedLines depth (first ++ second) =
      indentedLines depth first ++
        indentedLines (depthBehind depth first) second := by
  induction first generalizing depth with
  | nil => rfl
  | cons line rest inductionHypothesis =>
      simp [indentedLines, inductionHypothesis]

/-- Behind balanced lines the depth is the same. -/
theorem indentedLines_append_of_balanced {first : List Line}
    (balanced : Balanced first) (depth : Nat) (second : List Line) :
    indentedLines depth (first ++ second) =
      indentedLines depth first ++ indentedLines depth second := by
  rw [indentedLines_append, balanced.depthBehind_eq]

theorem indentedLines_flatMap {Item : Type} {items : List Item}
    {lines : Item → List Line}
    (balanced : ∀ item ∈ items, Balanced (lines item)) (depth : Nat) :
    indentedLines depth (items.flatMap lines) =
      items.flatMap fun item => indentedLines depth (lines item) := by
  induction items with
  | nil => rfl
  | cons item rest inductionHypothesis =>
      rw [List.forall_mem_cons] at balanced
      rw [List.flatMap_cons, indentedLines_append_of_balanced balanced.1,
        inductionHypothesis balanced.2, List.flatMap_cons]

theorem indentedLines_intercalate {separator : List Line}
    {parts : List (List Line)} (separatorBalanced : Balanced separator)
    (balanced : ∀ part ∈ parts, Balanced part) (depth : Nat) :
    indentedLines depth (separator.intercalate parts) =
      (indentedLines depth separator).intercalate
        (parts.map (indentedLines depth)) := by
  cases parts with
  | nil => rfl
  | cons part rest =>
      rw [List.forall_mem_cons] at balanced
      have later : ∀ other ∈ rest, Balanced (separator ++ other) :=
        fun other member => separatorBalanced.append (balanced.2 other member)
      rw [intercalate_cons_eq, indentedLines_append_of_balanced balanced.1,
        indentedLines_flatMap later, List.map_cons, intercalate_cons_eq,
        List.flatMap_map]
      simp only [indentedLines_append_of_balanced separatorBalanced]

/-- What stands in a block is indented for it, and the lines around are not. -/
theorem indentedLines_block {opening closing : Line} {body : List Line}
    (opens : opening.nesting = .opens) (closes : closing.nesting = .closes)
    (bodyBalanced : Balanced body) (depth : Nat) :
    indentedLines depth ([opening] ++ body ++ [closing]) =
      opening.indentedAt depth ::
        (indentedLines (depth + 1) body ++ [closing.indentedAt depth]) := by
  rw [List.append_assoc, List.singleton_append, indentedLines,
    Line.level_of_opens opens, Line.depthBehind_of_opens opens,
    indentedLines_append_of_balanced bodyBalanced, indentedLines,
    Line.level_of_closes closes, Nat.add_sub_cancel, indentedLines_nil]

/-- Where no block is opened or closed, all lines stand at one level. -/
theorem indentedLines_of_stays {lines : List Line}
    (stays : ∀ line ∈ lines, line.nesting = .stays) (depth : Nat) :
    indentedLines depth lines = lines.map (Line.indentedAt depth) := by
  induction lines with
  | nil => rfl
  | cons line rest inductionHypothesis =>
      rw [List.forall_mem_cons] at stays
      rw [indentedLines, Line.level_of_stays stays.1,
        Line.depthBehind_of_stays stays.1, inductionHypothesis stays.2]
      rfl

/-- Every line of the text is one of the lines, indented. -/
theorem exists_of_mem_indentedLines {lines : List Line} {depth : Nat}
    {text : List Char} (member : text ∈ indentedLines depth lines) :
    ∃ line ∈ lines, ∃ level, text = line.indentedAt level := by
  induction lines generalizing depth with
  | nil => cases member
  | cons line rest inductionHypothesis =>
      rcases List.mem_cons.1 member with rfl | later
      · exact ⟨line, List.mem_cons_self, _, rfl⟩
      · obtain ⟨other, otherMember, spelling⟩ := inductionHypothesis later
        exact ⟨other, List.mem_cons_of_mem line otherMember, spelling⟩

/-- What reads back every single line reads back all of them. -/
theorem mapM_indentedLines {read : List Char → Option Line}
    {lines : List Line}
    (readBack : ∀ line ∈ lines, ∀ level,
      read (line.indentedAt level) = some line) (depth : Nat) :
    (indentedLines depth lines).mapM read = some lines := by
  induction lines generalizing depth with
  | nil => rfl
  | cons line rest inductionHypothesis =>
      rw [List.forall_mem_cons] at readBack
      rw [indentedLines, List.mapM_cons, readBack.1,
        inductionHypothesis readBack.2]
      rfl

/-- The text of lines is that of the single lines, each with its end. -/
theorem toList_renderAt (depth : Nat) (lines : List Line) :
    (renderAt depth lines).toList =
      (indentedLines depth lines).flatMap (· ++ ['\n']) := by
  induction lines generalizing depth with
  | nil => rfl
  | cons line rest inductionHypothesis =>
      rw [renderAt_cons, String.toList_append, Line.toList_printedAt,
        inductionHypothesis]
      rfl

/-- The last thing that is printed is the end of a line. -/
theorem exists_renderAt_eq {lines : List Line} (nonempty : lines ≠ [])
    (depth : Nat) : ∃ text, renderAt depth lines = text ++ "\n" := by
  obtain ⟨before, last, rfl⟩ :=
    (List.eq_nil_or_concat lines).resolve_left nonempty
  refine ⟨renderAt depth before ++ String.ofList
    (last.indentedAt (last.level (depthBehind depth before))), ?_⟩
  apply String.toList_injective
  rw [List.concat_eq_append, renderAt_append, renderAt_cons]
  simp [Line.toList_printedAt]

theorem newline_notMem_indentedLines {lines : List Line}
    (oneLine : ∀ line ∈ lines, line.IsOneLine) (depth : Nat) :
    ∀ text ∈ indentedLines depth lines, '\n' ∉ text := by
  induction lines generalizing depth with
  | nil => simp
  | cons line rest inductionHypothesis =>
      rw [List.forall_mem_cons] at oneLine
      rw [indentedLines, List.forall_mem_cons]
      exact ⟨Line.newline_notMem_indentedAt oneLine.1 _,
        inductionHypothesis oneLine.2 _⟩

/-- Cutting a printed text gives its lines back. -/
theorem cutLines_renderAt {lines : List Line}
    (oneLine : ∀ line ∈ lines, line.IsOneLine) (depth : Nat)
    (rest : List Char) :
    cutLines ((renderAt depth lines).toList ++ rest) =
      indentedLines depth lines ++ cutLines rest := by
  rw [toList_renderAt]
  exact cutLines_flatMap_append (newline_notMem_indentedLines oneLine depth)
    rest

/-- The text of lines without newlines determines how they are printed. -/
theorem indentedLines_eq_of_renderAt_eq {first second : List Line}
    (firstOneLine : ∀ line ∈ first, line.IsOneLine)
    (secondOneLine : ∀ line ∈ second, line.IsOneLine) {depth : Nat}
    (same : renderAt depth first = renderAt depth second) :
    indentedLines depth first = indentedLines depth second := by
  have cut := cutLines_renderAt firstOneLine depth []
  rw [same, cutLines_renderAt secondOneLine depth []] at cut
  exact (List.append_cancel_right cut).symm

/-! ## Indentation -/

/-- A line stands inside some blocks: it is empty or indented for them. -/
def IsIndented (depth : Nat) (text : List Char) : Prop :=
  text = [] ∨ List.replicate (3 * depth) ' ' <+: text

/-- A line has the indentation at which it is printed. -/
theorem Line.isIndented_indentedAt (level : Nat) (line : Line) :
    IsIndented level (line.indentedAt level) := by
  rcases line.indentedAt_eq_nil_or level with rfl | spelling
  · exact Or.inl rfl
  · exact Or.inr ⟨line.text.toList, spelling.symm⟩

/-- What is indented further is indented. -/
theorem IsIndented.of_succ {depth : Nat} {text : List Char}
    (indented : IsIndented (depth + 1) text) : IsIndented depth text := by
  rcases indented with empty | ⟨rest, spelling⟩
  · exact Or.inl empty
  · refine Or.inr ⟨List.replicate 3 ' ' ++ rest, ?_⟩
    rw [← spelling, ← List.append_assoc, List.replicate_append_replicate]
    rfl

/-- Balanced lines do not leave the blocks around them. -/
theorem Balanced.isIndented {lines : List Line} (balanced : Balanced lines)
    (depth : Nat) : ∀ text ∈ indentedLines depth lines,
      IsIndented depth text := by
  induction balanced generalizing depth with
  | nil => simp
  | @single line stays =>
      simp only [indentedLines, List.forall_mem_singleton]
      rw [Line.level_of_stays stays]
      exact line.isIndented_indentedAt depth
  | append firstBalanced _ firstIH secondIH =>
      intro text member
      rw [indentedLines_append_of_balanced firstBalanced,
        List.mem_append] at member
      rcases member with early | late
      · exact firstIH depth text early
      · exact secondIH depth text late
  | @block opening closing body opens closes bodyBalanced bodyIH =>
      intro text member
      rw [indentedLines_block opens closes bodyBalanced, List.mem_cons,
        List.mem_append, List.mem_singleton] at member
      rcases member with rfl | inside | rfl
      · exact opening.isIndented_indentedAt depth
      · exact (bodyIH (depth + 1) text inside).of_succ
      · exact closing.isIndented_indentedAt depth

/-- An indented line starts with a space. -/
theorem IsIndented.head? {depth : Nat} {text : List Char}
    (indented : IsIndented (depth + 1) text) {character : Char}
    (first : text.head? = some character) : character = ' ' := by
  rcases indented with rfl | ⟨rest, rfl⟩
  · simp at first
  · simp [Nat.mul_add, List.replicate_succ] at first
    exact first.symm

end ShaderBindings
