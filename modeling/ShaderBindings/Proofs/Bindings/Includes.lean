import ShaderBindings.Bindings.Files
import ShaderBindings.Catalog.Builtin
import ShaderBindings.Proofs.Bindings.Composition

/-!
# Includes

Between the quotes of an include stands the name of a header, and it stands
there as it is: a backslash is a character of the name and escapes nothing.
The generated files print the name as a string literal nevertheless, which
says the same only of names without characters to escape.

The main theorem, `Catalog.includes_meant_iff`, says when the includes of the
generated files name the headers that are meant.  As long as no name has a
quote or a newline, they do so exactly if none has a backslash or a tab.
-/

namespace ShaderBindings

/-! ## Reading includes -/

/-- Read the name of a header, up to the next quote. -/
def readInclude? (line : List Char) : Option String := do
  let rest ← expect "#include \"" (line.dropWhile (· == ' '))
  if '"' ∈ rest then
    some (String.ofList (rest.takeWhile (· != '"')))
  else
    none

/-- The names of the headers that some lines of a file include. -/
def readIncludes (lines : List (List Char)) : List String :=
  lines.filterMap readInclude?

/-- Whether a line includes a header by its path. -/
def Line.isInclude : Line → Bool
  | .includeLocal _ => true
  | _ => false

/-- What is read from the includes among some lines of code. -/
def includedNames (lines : List Line) : List String :=
  readIncludes ((lines.filter Line.isInclude).map (·.text.toList))

/-! ## Escaped names -/

/-- What stands between the quotes of the literal for a text. -/
def escaped (text : String) : String :=
  String.ofList (text.toList.flatMap escape)

/-- A character stands for itself unless it needs an escape. -/
theorem escape_eq_singleton_iff (character : Char) :
    escape character = [character] ↔
      character ∉ ['"', '\\', '\n', '\t'] := by
  unfold escape
  split
  case h_5 =>
    simp_all
  all_goals decide

theorem length_escape_pos (character : Char) :
    0 < (escape character).length := by
  unfold escape
  split
  all_goals exact Nat.succ_pos _

/-- Escapes never shorten a text. -/
theorem length_le_length_flatMap_escape (text : List Char) :
    text.length ≤ (text.flatMap escape).length := by
  induction text with
  | nil => exact Nat.le_refl 0
  | cons character rest inductionHypothesis =>
      have positive := length_escape_pos character
      rw [List.flatMap_cons, List.length_append, List.length_cons]
      omega

/--
Escaping changes a text unless it keeps each of its characters.  Since nothing
gets shorter, a text that stays the same has its first character as it was.
-/
theorem flatMap_escape_eq_self_iff (text : List Char) :
    text.flatMap escape = text ↔
      ∀ character ∈ text, escape character = [character] := by
  induction text with
  | nil => simp
  | cons character rest inductionHypothesis =>
      rw [List.flatMap_cons, List.forall_mem_cons, ← inductionHypothesis]
      constructor
      · intro same
        have positive := length_escape_pos character
        have longer := length_le_length_flatMap_escape rest
        have lengths := congrArg List.length same
        rw [List.length_append, List.length_cons] at lengths
        have single : (escape character).length = [character].length := by
          rw [List.length_singleton]
          omega
        exact List.append_inj same single
      · rintro ⟨single, later⟩
        rw [single, later, List.singleton_append]

theorem escaped_eq_self_iff {name : String} (noQuote : '"' ∉ name.toList)
    (oneLine : '\n' ∉ name.toList) :
    escaped name = name ↔ '\\' ∉ name.toList ∧ '\t' ∉ name.toList := by
  rw [← String.toList_inj, escaped, String.toList_ofList,
    flatMap_escape_eq_self_iff]
  simp only [escape_eq_singleton_iff, List.mem_cons, List.not_mem_nil,
    or_false, not_or]
  constructor
  · intro kept
    exact ⟨fun member => (kept _ member).2.1 rfl,
      fun member => (kept _ member).2.2.2 rfl⟩
  · rintro ⟨noBackslash, noTab⟩ character member
    refine ⟨?_, ?_, ?_, ?_⟩
    all_goals
      rintro rfl
      contradiction

/-- Names are printed as they are if none of them needs an escape. -/
theorem map_escaped_eq_self_iff {names : List String}
    (quotable : ∀ name ∈ names, '"' ∉ name.toList ∧ '\n' ∉ name.toList) :
    names.map escaped = names ↔
      ∀ name ∈ names, '\\' ∉ name.toList ∧ '\t' ∉ name.toList := by
  nth_rewrite 2 [← List.map_id names]
  rw [List.map_inj_left]
  refine forall₂_congr fun name member => ?_
  exact escaped_eq_self_iff (quotable name member).1 (quotable name member).2

/-- Without quotes in a text, none are printed for it. -/
theorem quote_notMem_flatMap_escape {text : List Char}
    (noQuote : '"' ∉ text) : '"' ∉ text.flatMap escape := by
  intro member
  obtain ⟨character, characterMember, inside⟩ := List.mem_flatMap.1 member
  have other : character ≠ '"' := by
    rintro rfl
    exact noQuote characterMember
  unfold escape at inside
  split at inside
  case h_1 => exact other rfl
  case h_5 => exact other (List.mem_singleton.1 inside).symm
  all_goals exact absurd inside (by decide)

/-! ## Lines that include nothing -/

/-- Indentation has no part in what a line includes. -/
theorem Line.readInclude?_indentedAt (line : Line) (level : Nat) :
    readInclude? (line.indentedAt level) =
      readInclude? line.text.toList := by
  have spaces : ∀ character ∈ List.replicate (3 * level) ' ',
      (character == ' ') = true := by
    intro character member
    rw [List.eq_of_mem_replicate member]
    rfl
  rcases line.indentedAt_eq_nil_or level with rfl | spelling
  · rfl
  · rw [spelling, readInclude?, readInclude?,
      List.dropWhile_append_of_pos spaces]

/-- An include starts with a hash sign, apart from spaces. -/
theorem head?_of_readInclude? {line : List Char} {name : String}
    (read : readInclude? line = some name) :
    (line.dropWhile (· == ' ')).head? = some '#' := by
  simp only [readInclude?, Option.bind_eq_bind, Option.bind_eq_some_iff]
    at read
  obtain ⟨rest, started, _⟩ := read
  rw [eq_of_expect started]
  rfl

/-- A line whose visible start has no `#` is no directive. -/
theorem readInclude?_append_eq_none {start rest : List Char}
    (noHash : '#' ∉ start)
    (visible : start.any (· != ' ') = true) :
    readInclude? (start ++ rest) = none := by
  have first : ((start ++ rest).dropWhile (· == ' ')).head? ≠ some '#' := by
    induction start with
    | nil => contradiction
    | cons character later inductionHypothesis =>
        rw [List.mem_cons, not_or] at noHash
        by_cases space : character = ' '
        · subst space
          exact inductionHypothesis noHash.2 visible
        · rw [List.cons_append, List.dropWhile_cons,
            if_neg (by simpa using space), List.head?_cons]
          exact fun hash => noHash.1 (Option.some.inj hash).symm
  cases read : readInclude? (start ++ rest) with
  | none => rfl
  | some name => exact absurd (head?_of_readInclude? read) first

/--
A line that is no include starts with a word or a mark of its own, unless it
starts with one of its bare texts.
-/
theorem Line.readInclude?_text_eq_none {line : Line}
    (other : line.isInclude = false)
    (lack : Lack '#' line.bareTexts) :
    readInclude? line.text.toList = none := by
  cases line with
  | includeLocal header => contradiction
  | blank | endUnless | openStruct | closeBlock => decide
  | includeSystem name | unlessDefined name | define name =>
      unfold text
      simp only [String.toList_append, List.append_assoc]
      rfl
  | declare typeName name =>
      simp only [bareTexts, lack_cons_iff] at lack
      have spelling : (declare typeName name).text.toList =
          (typeName.toList ++ " ".toList ++ name.toList ++ ";".toList) ++
            [] := by
        simp [toList_text_declare]
      rw [spelling]
      apply readInclude?_append_eq_none
      · simp [lack.1, lack.2.1]
      · simp
  | assign target value =>
      have noHash : '#' ∉ (Place.text target).toList :=
        Place.notMem_text (lack_append_iff.1 lack).1 (by decide)
      have spelling : (assign target value).text.toList =
          ((Place.text target).toList ++ " = ".toList) ++
            (value.text.toList ++ ";".toList) := by
        simp [toList_text_assign]
      rw [spelling]
      apply readInclude?_append_eq_none
      · simp [noHash]
      · simp
  | perform call =>
      have noHash := (lack_cons_iff.1 lack).1
      have spelling : (perform call).text.toList =
          (call.function.toList ++ "(".toList) ++
            ((", ".intercalate (call.arguments.map Argument.text)).toList ++
              ')' :: ";".toList) := by
        rw [toList_text_perform, Call.toList_text_append, List.append_assoc]
      rw [spelling]
      apply readInclude?_append_eq_none
      · simp [noHash]
      · simp
  | _ =>
      unfold text
      simp only [String.toList_append, List.append_assoc]
      exact readInclude?_append_eq_none (by decide) rfl

/-! ## Includes among lines -/

/-- A directive is read back with the name as it is escaped. -/
theorem readInclude?_includeLocal {header : String}
    (noQuote : '"' ∉ header.toList) :
    readInclude? (Line.includeLocal header).text.toList =
      some (escaped header) := by
  have inside : ∀ character ∈ header.toList.flatMap escape,
      (character != '"') = true := by
    intro character member
    rw [bne_iff_ne]
    rintro rfl
    exact quote_notMem_flatMap_escape noQuote member
  have spelling : (Line.includeLocal header).text.toList =
      "#include \"".toList ++ (header.toList.flatMap escape ++ ['"']) := by
    show ("#include " ++ quote header).toList = _
    simp [quote]
  have start : ((Line.includeLocal header).text.toList).dropWhile
      (· == ' ') = "#include \"".toList ++
        (header.toList.flatMap escape ++ ['"']) := by
    rw [spelling]
    rfl
  rw [readInclude?, start]
  simp only [expect_append, Option.bind_eq_bind, Option.bind_some]
  rw [if_pos (by simp), takeWhile_append_of_stops inside (stops_bne _ _),
    escaped]

/-- From a printed include, the escaped name of the header is read. -/
theorem includedNames_eq_map_escaped {lines : List Line}
    {headers : List String}
    (includes : lines.filter Line.isInclude = headers.map .includeLocal)
    (noQuote : ∀ header ∈ headers, '"' ∉ header.toList) :
    includedNames lines = headers.map escaped := by
  rw [includedNames, includes, readIncludes, List.map_map,
    List.filterMap_map, ← List.filterMap_eq_map]
  apply List.filterMap_congr
  intro header member
  exact readInclude?_includeLocal (noQuote header member)

/-- Nothing but the printed includes is read as one. -/
theorem readIncludes_indentedLines {lines : List Line}
    (lack : ∀ line ∈ lines, Lack '#' line.bareTexts) (depth : Nat) :
    readIncludes (indentedLines depth lines) = includedNames lines := by
  induction lines generalizing depth with
  | nil => rfl
  | cons line rest inductionHypothesis =>
      rw [List.forall_mem_cons] at lack
      have behind := inductionHypothesis lack.2 (line.depthBehind depth)
      unfold readIncludes at behind
      rw [readIncludes, indentedLines, List.filterMap_cons,
        line.readInclude?_indentedAt, behind, includedNames, includedNames]
      cases kind : line.isInclude with
      | true =>
          rw [List.filter_cons_of_pos kind, List.map_cons, readIncludes,
            readIncludes, List.filterMap_cons]
      | false =>
          rw [List.filter_cons_of_neg (by simp [kind]),
            Line.readInclude?_text_eq_none kind lack.1]

/--
The includes are read from the text of the lines.  Behind the end of the last
line one more line is cut, which is empty and includes nothing.
-/
theorem readIncludes_render {lines : List Line}
    (oneLine : ∀ line ∈ lines, line.IsOneLine)
    (lack : ∀ line ∈ lines, Lack '#' line.bareTexts) :
    readIncludes (cutLines (render lines).toList) = includedNames lines := by
  have cut := cutLines_renderAt oneLine 0 []
  rw [List.append_nil, cutLines_nil] at cut
  have nothing : readIncludes [[]] = [] := rfl
  rw [render, cut, readIncludes, List.filterMap_append]
  change readIncludes _ ++ readIncludes [[]] = _
  rw [nothing, List.append_nil, readIncludes_indentedLines lack]

/-! ## Includes in the files -/

/-- The names of headers that the generated files include. -/
def Config.headerNames (config : Config) : List String :=
  config.headerName :: config.sourceIncludes ++ config.headerIncludes

theorem filter_isInclude_map (headers : List String) :
    (headers.map Line.includeLocal).filter Line.isInclude =
      headers.map .includeLocal := by
  rw [List.filter_eq_self, List.forall_mem_map]
  exact fun _ _ => rfl

namespace Catalog

variable (config : Config) (catalog : Catalog)

/-- The header includes what it is told to include. -/
theorem filter_isInclude_headerLines :
    (catalog.headerLines config).filter Line.isInclude =
      config.headerIncludes.map .includeLocal := by
  have structs : (catalog.shaders.flatMap
      (Shader.structLines config)).filter Line.isInclude = [] := by
    rw [List.filter_eq_nil_iff, List.forall_mem_flatMap]
    intro shader _
    exact shader.forall_mem_structLines (by decide)
      (by simp [Line.isInclude]) (by simp [Line.isInclude])
  have opening : config.headerOpening.filter Line.isInclude =
      config.headerIncludes.map .includeLocal := by
    rw [Config.headerOpening, List.filter_append, List.filter_append,
      filter_isInclude_map]
    exact List.append_nil _
  rw [headerLines, List.filter_append, List.filter_append, opening, structs,
    List.append_nil]
  exact List.append_nil _

/-- The source file includes its own header first. -/
theorem filter_isInclude_sourceLines :
    (catalog.sourceLines config).filter Line.isInclude =
      (config.headerName :: config.sourceIncludes).map .includeLocal := by
  have load : (catalog.loadLines config).filter Line.isInclude = [] := by
    rw [List.filter_eq_nil_iff]
    exact forall_mem_loadLines (by decide) fun shader _ =>
      shader.forall_mem_loadLines (by simp [Line.isInclude])
        (by simp [Line.isInclude]) (by decide)
  have delete : (catalog.shaders.map
      (Shader.deleteLine config)).filter Line.isInclude = [] := by
    rw [List.filter_eq_nil_iff, List.forall_mem_map]
    exact fun _ _ => Bool.false_ne_true
  have opening : config.sourceOpening.filter Line.isInclude =
      (config.headerName :: config.sourceIncludes).map .includeLocal := by
    rw [Config.sourceOpening, List.filter_append, List.filter_append,
      filter_isInclude_map]
    exact List.append_nil _
  have middle : config.sourceMiddle.filter Line.isInclude = [] := rfl
  have closing : config.sourceClosing.filter Line.isInclude = [] := rfl
  simp only [sourceLines, List.filter_append, opening, load, middle, delete,
    closing, List.append_nil]

section ReadingText

variable {config : Config} (newline : Lack '\n' config.bareTexts)
  (hash : Lack '#' config.bareTexts)

include newline hash

/-- In the text of the source file, only the printed includes are read. -/
theorem readIncludes_source :
    readIncludes (cutLines (catalog.source config).toList) =
      includedNames (catalog.sourceLines config) :=
  readIncludes_render
    (catalog.isOneLine_of_mem_sourceLines (lack_cons_iff.1 newline).2)
    (catalog.lack_of_mem_sourceLines (by decide) (by decide)
      (lack_cons_iff.1 hash).2)

/-- What is included by the text of the header. -/
theorem readIncludes_header :
    readIncludes (cutLines (catalog.header config).toList) =
      includedNames (catalog.headerLines config) := by
  have guard : '#' ∉ config.includeGuard.toList :=
    config.notMem_includeGuard (by decide +kernel) (by decide) (by decide)
  exact readIncludes_render (catalog.isOneLine_of_mem_headerLines newline)
    (catalog.lack_of_mem_headerLines (by decide) (by decide) guard hash)

end ReadingText

/--
The includes of the generated files name what they are meant to name, each
file in order, exactly if no name has a backslash or a tab.  The source file
comes first, and there the name under which the header is to be written.  No
other line of the files is read as an include, as long as no other text that
the configuration gives them has a newline or a hash sign.
-/
theorem includes_meant_iff {config : Config}
    (quotable : ∀ name ∈ config.headerNames,
      '"' ∉ name.toList ∧ '\n' ∉ name.toList) :
    ((includedNames (catalog.sourceLines config) =
          (catalog.generate config).header.name :: config.sourceIncludes ∧
        includedNames (catalog.headerLines config) =
          config.headerIncludes) ↔
      ∀ name ∈ config.headerNames,
        '\\' ∉ name.toList ∧ '\t' ∉ name.toList) ∧
    (Lack '\n' config.bareTexts → Lack '#' config.bareTexts →
      readIncludes
          (cutLines (catalog.generate config).source.contents.toList) =
        includedNames (catalog.sourceLines config) ∧
      readIncludes
          (cutLines (catalog.generate config).header.contents.toList) =
        includedNames (catalog.headerLines config)) := by
  rw [Config.headerNames, List.forall_mem_append] at quotable
  have source : includedNames (catalog.sourceLines config) =
      (config.headerName :: config.sourceIncludes).map escaped :=
    includedNames_eq_map_escaped (catalog.filter_isInclude_sourceLines config)
      fun name member => (quotable.1 name member).1
  have header : includedNames (catalog.headerLines config) =
      config.headerIncludes.map escaped :=
    includedNames_eq_map_escaped (catalog.filter_isInclude_headerLines config)
      fun name member => (quotable.2 name member).1
  constructor
  · rw [source, header, generate_eq, map_escaped_eq_self_iff quotable.1,
      map_escaped_eq_self_iff quotable.2, Config.headerNames,
      List.forall_mem_append]
  · intro newline hash
    rw [generate_eq]
    exact ⟨catalog.readIncludes_source newline hash,
      catalog.readIncludes_header newline hash⟩

end Catalog

/-- Headers that lie in directories, with odd names for them. -/
def Config.withPaths : Config where
  headerName := "gen/shaders #1 (größer).h"
  headerIncludes := ["gl/opengl.h", "../handles.h"]

/--
Paths with spaces, signs and letters outside of ASCII are included as meant.
-/
theorem Catalog.builtin_includes_meant_withPaths :
    (∀ name ∈ Config.withPaths.headerNames,
        '"' ∉ name.toList ∧ '\n' ∉ name.toList) ∧
      (∀ name ∈ Config.withPaths.headerNames,
        '\\' ∉ name.toList ∧ '\t' ∉ name.toList) ∧
      Lack '\n' Config.withPaths.bareTexts ∧
      Lack '#' Config.withPaths.bareTexts ∧
      readIncludes (cutLines
          (builtin.generate .withPaths).source.contents.toList) =
        ["gen/shaders #1 (größer).h", "opengl_shader.h"] ∧
      readIncludes (cutLines
          (builtin.generate .withPaths).header.contents.toList) =
        ["gl/opengl.h", "../handles.h"] := by
  have quotable : ∀ name ∈ Config.withPaths.headerNames,
      '"' ∉ name.toList ∧ '\n' ∉ name.toList := by
    decide
  have plain : ∀ name ∈ Config.withPaths.headerNames,
      '\\' ∉ name.toList ∧ '\t' ∉ name.toList := by
    decide
  have newline : Lack '\n' Config.withPaths.bareTexts := by decide
  have hash : Lack '#' Config.withPaths.bareTexts := by decide
  obtain ⟨names, texts⟩ := builtin.includes_meant_iff quotable
  obtain ⟨source, header⟩ := names.2 plain
  obtain ⟨sourceText, headerText⟩ := texts newline hash
  exact ⟨quotable, plain, newline, hash, sourceText.trans source,
    headerText.trans header⟩

/-- A header in a directory, with the separator of another system. -/
def Config.withBackslash : Config where
  headerName := "gl\\programs.h"

/-- With a backslash in its name, the header is not what is included. -/
theorem Catalog.builtin_includes_ne_withBackslash :
    (∀ name ∈ Config.withBackslash.headerNames,
        '"' ∉ name.toList ∧ '\n' ∉ name.toList) ∧
      (builtin.generate .withBackslash).header.name = "gl\\programs.h" ∧
      readIncludes (cutLines
          (builtin.generate .withBackslash).source.contents.toList) =
        ["gl\\\\programs.h", "opengl_shader.h"] ∧
      readIncludes (cutLines
          (builtin.generate .withBackslash).source.contents.toList) ≠
        (builtin.generate .withBackslash).header.name ::
          Config.withBackslash.sourceIncludes := by
  have quotable : ∀ name ∈ Config.withBackslash.headerNames,
      '"' ∉ name.toList ∧ '\n' ∉ name.toList := by
    decide
  have read : readIncludes (cutLines
      (builtin.generate .withBackslash).source.contents.toList) =
        ["gl\\\\programs.h", "opengl_shader.h"] := by
    rw [generate_eq, builtin.readIncludes_source (by decide) (by decide),
      includedNames_eq_map_escaped
        (builtin.filter_isInclude_sourceLines .withBackslash) (by decide)]
    decide
  refine ⟨quotable, rfl, read, ?_⟩
  rw [read]
  decide

end ShaderBindings
