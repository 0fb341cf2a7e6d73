import ShaderBindings.Proofs.Bindings.SourceFunctions

/-!
# The blocks of the load function

The paths of a shader are free text.  They stand in literals, and a literal
stays on the line of its statement.  So the lines of the load function are
those that are printed for the statements, and a line tells which statement it
is for.

The main theorem, `Catalog.loadFunction_blocks`, spells out these lines for
the default configuration.  Between its head and the brace that closes it, the
load function has one block of lines for each shader, with empty lines between
them, and subroutines are looked up behind a gate of their own in the blocks
of the shaders that have any.
-/

namespace ShaderBindings

/-- The test in front of the subroutines, as it stands in the load function. -/
def Config.gateLine (config : Config) : List Char :=
  (Line.openIf config.subroutineGate).indentedAt 1

/-- The gate is indented. -/
theorem Config.gateLine_ne_of_head? {config : Config} {text : List Char}
    (other : text.head? ≠ some ' ') : config.gateLine ≠ text := by
  rintro rfl
  exact other rfl

namespace Config.IsWellNamed

variable {config : Config} (named : config.IsWellNamed)

include named

/-- The line that tests for subroutines is a statement. -/
theorem isStatement_gate :
    (Line.openIf config.subroutineGate).IsStatement :=
  Shader.gate_isWellNamed named.gl

/-- Among statements, no other line looks like that of the condition. -/
theorem gateLine_notMem_indentedLines {lines : List Line}
    (statements : ∀ line ∈ lines, line.IsStatement)
    (absent : .openIf config.subroutineGate ∉ lines) (depth : Nat) :
    config.gateLine ∉ indentedLines depth lines :=
  named.isStatement_gate.notMem_indentedLines statements absent 1 depth

/-- Nothing in front of the load function is indented. -/
theorem head?_ne_space_of_mem_sourcePreamble {line : Line}
    (member : line ∈ config.sourcePreamble) :
    line.text.toList.head? ≠ some ' ' := by
  rcases mem_sourcePreamble member with
    rfl | rfl | rfl | ⟨header, rfl⟩ | rfl
  · show ("/* " ++ ("FILE GENERATED BY " ++ config.generator) ++
      " */").toList.head? ≠ _
    simp
  · decide
  · decide
  · show ("#include " ++ quote header).toList.head? ≠ _
    simp
  · obtain ⟨first, rest, spelling, part⟩ :=
      exists_cons_of_isIdentifier named.typeName
    show (config.typeName ++ " " ++ config.instanceName ++
      ";").toList.head? ≠ _
    rw [String.toList_append, String.toList_append, String.toList_append,
      spelling]
    simp only [List.cons_append, List.head?_cons, ne_eq, Option.some.injEq]
    rintro rfl
    exact absurd part (by decide)

end Config.IsWellNamed

/-! ## The block of a shader -/

namespace Shader

variable {config : Config} (shader : Shader)

/-- Only the statements for the groups are indented more than the others. -/
theorem indentedLines_loadLines :
    indentedLines 1 (shader.loadLines config) =
      indentedLines 1 (shader.ungatedLines config) ++
        if shader.groups.isEmpty then []
        else
          config.gateLine ::
            (indentedLines 2 (shader.groupedLines config) ++
              [Line.closeBlock.indentedAt 1]) := by
  rw [loadLines_eq, indentedLines_append_of_balanced
    (shader.balanced_ungatedLines config), gatedLines_eq]
  split
  · rfl
  · rw [indentedLines_block rfl rfl (shader.balanced_groupedLines config)]
    rfl

section Gate

variable (named : config.IsWellNamed)

include named

/-- No line of a shader is taken for an empty one. -/
theorem nil_notMem_indentedLines :
    [] ∉ indentedLines 1 (shader.loadLines config) := by
  have blank : Line.blank.IsStatement := trivial
  have statements :=
    shader.isStatement_of_mem_loadLines named.instanceName named.gl
  exact blank.notMem_indentedLines statements
    (shader.blank_notMem_loadLines config) 0 1

/-- A shader has one gate if it has a group, and none otherwise. -/
theorem count_gate :
    (indentedLines 1 (shader.loadLines config)).count config.gateLine =
      if shader.groups.isEmpty then 0 else 1 := by
  have statements :=
    shader.isStatement_of_mem_loadLines named.instanceName named.gl
  have ungated : config.gateLine ∉
      indentedLines 1 (shader.ungatedLines config) := by
    apply named.gateLine_notMem_indentedLines
    · exact fun line member => statements line (List.mem_append_left _ member)
    · simp [ungatedLines, locationLines, buildLine, locationLine]
  rw [indentedLines_loadLines, List.count_append,
    List.count_eq_zero.2 ungated, Nat.zero_add]
  split
  · rfl
  · rename_i nonempty
    have body : config.gateLine ∉
        indentedLines 2 (shader.groupedLines config) := by
      apply named.gateLine_notMem_indentedLines
      · intro line member
        apply statements
        simp [loadLines_eq, gatedLines_eq, nonempty, member]
      · simp [groupedLines, groupLines, subroutineLine]
    have closeBlock : Line.closeBlock.IsStatement := trivial
    have closing : Line.closeBlock.indentedAt 1 ≠ config.gateLine := by
      intro same
      cases closeBlock.eq_of_indentedAt_eq named.isStatement_gate same
    rw [List.count_cons_self, List.count_append,
      List.count_eq_zero.2 body, List.count_singleton, beq_false_of_ne closing]
    rfl

end Gate

end Shader

/-! ## The lines of the load function -/

namespace Catalog

variable {config : Config} (named : config.IsWellNamed) (catalog : Catalog)

theorem indentedLines_loadLines :
    indentedLines 1 (catalog.loadLines config) =
      [[]].intercalate (catalog.shaders.map fun shader =>
        indentedLines 1 (shader.loadLines config)) := by
  rw [loadLines, indentedLines_intercalate (.single rfl)
    (catalog.forall_balanced_loadLines config), List.map_map]
  rfl

include named

/-- Cut at blank lines, the body has one block for each shader. -/
theorem splitOn_indentedLines_loadLines :
    (indentedLines 1 (catalog.loadLines config)).splitOn [] =
      catalog.shaders.map fun shader =>
        indentedLines 1 (shader.loadLines config) := by
  rw [indentedLines_loadLines]
  apply List.splitOn_intercalate
  · intro part member
    obtain ⟨shader, _, rfl⟩ := List.mem_map.1 member
    exact shader.nil_notMem_indentedLines named
  · simpa using catalog.nonempty

/-- The body has one condition for each shader with groups. -/
theorem count_gate_loadLines :
    (indentedLines 1 (catalog.loadLines config)).count config.gateLine =
      catalog.shaders.countP (!·.groups.isEmpty) := by
  have notEmpty : config.gateLine ∉ [[]] := by
    rw [List.mem_singleton]
    exact Config.gateLine_ne_of_head? (by decide)
  rw [indentedLines_loadLines, count_intercalate notEmpty]
  induction catalog.shaders with
  | nil => rfl
  | cons shader later inductionHypothesis =>
      rw [List.map_cons, List.flatten_cons, List.count_append,
        inductionHypothesis, List.countP_cons, shader.count_gate named,
        Nat.add_comm]
      cases shader.groups.isEmpty <;> rfl

end Catalog

/-! ## The lines around the load function -/

@[simp]
theorem head?_openFunction (name : String) :
    (Line.openFunction name).text.toList.head? = some 'v' := by
  show ("void " ++ name ++ " (void) \x7b").toList.head? = _
  simp

/-- The lines of the source file in front of the load function. -/
def Config.linesBeforeLoad (config : Config) : List (List Char) :=
  config.sourcePreamble.map (·.text.toList)

namespace Catalog

/-- The lines of the source file behind the load function. -/
def linesBehindLoad (config : Config) (catalog : Catalog) :
    List (List Char) :=
  [] :: (Line.openFunction config.unloadFunction).text.toList ::
    (indentedLines 1 (catalog.unloadLines config) ++ ["\x7d".toList, []])

variable {config : Config} (named : config.IsWellNamed) (catalog : Catalog)

include named

/-- The load function does not start twice. -/
theorem loadHead_notMem_linesBeforeLoad :
    (Line.openFunction config.loadFunction).text.toList ∉
      config.linesBeforeLoad := by
  intro member
  obtain ⟨line, lineMember, same⟩ := List.mem_map.1 member
  have nothing := Config.IsWellNamed.readFunctionHead_preamble lineMember
  rw [same, readFunctionHead_text named.loadFunction] at nothing
  cases nothing

theorem loadHead_notMem_of_isIndented {lines : List (List Char)}
    (indented : ∀ text ∈ lines, IsIndented 1 text) :
    (Line.openFunction config.loadFunction).text.toList ∉ lines := by
  intro member
  have nothing := (indented _ member).readFunctionHead_eq_none
  rw [readFunctionHead_text named.loadFunction] at nothing
  cases nothing

theorem loadHead_notMem_linesBehindLoad
    (apart : config.loadFunction ≠ config.unloadFunction) :
    (Line.openFunction config.loadFunction).text.toList ∉
      catalog.linesBehindLoad config := by
  have read := readFunctionHead_text named.loadFunction
  have otherRead := readFunctionHead_text named.unloadFunction
  have emptyRead : readFunctionHead [] = none := rfl
  have braceRead : readFunctionHead "\x7d".toList = none := rfl
  intro member
  simp only [linesBehindLoad, List.mem_cons, List.mem_append,
    List.not_mem_nil, or_false] at member
  rcases member with empty | head | inside | brace | empty
  · rw [empty, emptyRead] at read
    cases read
  · rw [head, otherRead] at read
    exact apart (Option.some.inj read).symm
  · exact loadHead_notMem_of_isIndented named
      ((catalog.balanced_unloadLines config).isIndented 1) inside
  · rw [brace, braceRead] at read
    cases read
  · rw [empty, emptyRead] at read
    cases read

/-- The condition is tested in the load function only. -/
theorem gateLine_notMem_linesBeforeLoad :
    config.gateLine ∉ config.linesBeforeLoad := by
  intro member
  obtain ⟨line, lineMember, same⟩ := List.mem_map.1 member
  apply named.head?_ne_space_of_mem_sourcePreamble lineMember
  rw [same]
  rfl

theorem gateLine_notMem_linesBehindLoad :
    config.gateLine ∉ catalog.linesBehindLoad config := by
  have body : config.gateLine ∉
      indentedLines 1 (catalog.unloadLines config) := by
    apply named.gateLine_notMem_indentedLines
    · exact catalog.isStatement_of_mem_unloadLines named.instanceName named.gl
    · simp [unloadLines, Shader.deleteLine]
  have head : config.gateLine ≠
      (Line.openFunction config.unloadFunction).text.toList :=
    Config.gateLine_ne_of_head? (by simp)
  simp only [linesBehindLoad, List.mem_cons, List.mem_append,
    List.not_mem_nil, or_false, not_or]
  exact ⟨Config.gateLine_ne_of_head? (by decide), head, body,
    Config.gateLine_ne_of_head? (by decide),
    Config.gateLine_ne_of_head? (by decide)⟩

/-- The lines of the source file around the body of the load function. -/
theorem cutLines_source_eq :
    cutLines (catalog.source config).toList =
      config.linesBeforeLoad ++
        (Line.openFunction config.loadFunction).text.toList ::
          (indentedLines 1 (catalog.loadLines config) ++ "\x7d".toList ::
            catalog.linesBehindLoad config) :=
  catalog.cutLines_source named

/-- The gates of the file are those of the shaders that have a group. -/
theorem count_gate_source :
    (cutLines (catalog.source config).toList).count config.gateLine =
      catalog.shaders.countP (!·.groups.isEmpty) := by
  have before := gateLine_notMem_linesBeforeLoad named
  have behind := gateLine_notMem_linesBehindLoad named catalog
  have head : (Line.openFunction config.loadFunction).text.toList ≠
      config.gateLine :=
    (Config.gateLine_ne_of_head? (by simp)).symm
  have brace : "\x7d".toList ≠ config.gateLine :=
    (Config.gateLine_ne_of_head? (by decide)).symm
  rw [cutLines_source_eq named, List.count_append,
    List.count_eq_zero.2 before, Nat.zero_add, List.count_cons_of_ne head,
    List.count_append, List.count_cons_of_ne brace,
    List.count_eq_zero.2 behind, Nat.add_zero, count_gate_loadLines named]

end Catalog

/-! ## The lines for the default configuration -/

/-- The test in front of the statements for the groups of a shader. -/
def gateText : String :=
  "   if (gl_has(OPENGL_SUBROUTINES)) \x7b"

/-- The line that tests for subroutines, for the default configuration. -/
theorem gateLine_default : ({} : Config).gateLine = gateText.toList := by
  decide

namespace Shader

variable (shader : Shader)

/-- The place of a handle of the shader. -/
def handleText (path : String) : String :=
  "shaders." ++ shader.name ++ "." ++ path

/-- The line that builds the program from the two paths. -/
def buildText : String :=
  "   " ++ shader.handleText "program" ++ " = gl_program_vert_frag(" ++
    quote shader.vertexPath ++ ", " ++ quote shader.fragmentPath ++ ");"

/-- A line that looks up an attribute or a uniform. -/
def locationText (function name : String) : String :=
  "   " ++ shader.handleText name ++ " = " ++ function ++ "(" ++
    shader.handleText "program" ++ ", " ++ quote name ++ ");"

/-- A line that looks up the uniform of a group or a variant. -/
def subroutineText (group handle function name : String) : String :=
  "      " ++ shader.handleText (group ++ "." ++ handle) ++ " = " ++
    function ++ "(" ++ shader.handleText "program" ++
    ", GL_FRAGMENT_SHADER, " ++ quote name ++ ");"

/-- The lines for a group: first its uniform, then each variant. -/
def groupTexts (group : SubroutineGroup) : List String :=
  shader.subroutineText group.name "uniform"
      "glGetSubroutineUniformLocation" group.name ::
    group.variants.map fun variant =>
      shader.subroutineText group.name variant "glGetSubroutineIndex" variant

/-- The lines of the load function for a shader. -/
def loadTexts : List String :=
  [shader.buildText] ++
    shader.attributes.map (shader.locationText "glGetAttribLocation") ++
    shader.uniforms.map (shader.locationText "glGetUniformLocation") ++
    if shader.groups.isEmpty then []
    else
      [gateText] ++ shader.groups.flatMap shader.groupTexts ++ ["   \x7d"]

/-- A handle is spelled as a member of the shader's struct. -/
theorem text_place (first : String) (later : List String) :
    Place.text (shader.place {} (first :: later)) =
      shader.handleText (Place.text (first :: later)) := by
  apply String.toList_injective
  simp [Place.text, place, handleText]

theorem text_programPlace :
    Place.text (shader.programPlace {}) = shader.handleText "program" :=
  shader.text_place "program" []

@[simp]
theorem indentedAt_buildLine :
    (shader.buildLine {}).indentedAt 1 = shader.buildText.toList := by
  rw [buildLine, Line.indentedAt_assign, text_programPlace]
  simp only [buildText, Call.text, Argument.text, List.map_cons,
    List.map_nil, String.intercalate_cons_cons, String.intercalate_singleton,
    String.toList_append, List.append_assoc]
  rfl

@[simp]
theorem indentedAt_locationLine (function name : String) :
    (shader.locationLine {} function name).indentedAt 1 =
      (shader.locationText function name).toList := by
  rw [locationLine, Line.indentedAt_assign, text_place]
  simp only [locationText, Call.text, Argument.text, text_programPlace,
    List.map_cons, List.map_nil, String.intercalate_cons_cons,
    String.intercalate_singleton, String.toList_append, List.append_assoc]
  rfl

@[simp]
theorem indentedAt_subroutineLine (group handle function name : String) :
    (shader.subroutineLine {} [group, handle] function name).indentedAt 2 =
      (shader.subroutineText group handle function name).toList := by
  rw [subroutineLine, Line.indentedAt_assign, text_place]
  simp only [subroutineText, Call.text, Argument.text, text_programPlace,
    List.map_cons, List.map_nil, String.intercalate_cons_cons,
    String.intercalate_singleton, String.toList_append, List.append_assoc]
  rfl

/-- The lines for all groups, as they stand in the block. -/
theorem indentedLines_groupedLines :
    indentedLines 2 (shader.groupedLines {}) =
      (shader.groups.flatMap shader.groupTexts).map String.toList := by
  rw [indentedLines_of_stays fun _ => shader.stays_of_mem_groupedLines {}]
  simp [groupedLines, groupLines, groupTexts, groupUniformMember,
    List.map_flatMap, Function.comp_def]

/-- What is printed for a shader under the default configuration. -/
theorem indentedLines_loadLines_default :
    indentedLines 1 (shader.loadLines {}) =
      shader.loadTexts.map String.toList := by
  have closing : Line.closeBlock.indentedAt 1 = "   \x7d".toList := by
    decide
  rw [indentedLines_loadLines, indentedLines_groupedLines,
    indentedLines_of_stays fun _ => shader.stays_of_mem_ungatedLines {},
    gateLine_default, closing, loadTexts]
  split
  · simp [ungatedLines, locationLines, Function.comp_def]
  · simp [ungatedLines, locationLines, Function.comp_def]

end Shader

namespace Catalog

/--
In the lines of the source file there is one head of the load function.  The
lines between it and the first brace at the margin fall into one block for
each shader, at the empty lines between them, and a block has exactly the
lines that `Shader.loadTexts` lists.  In the whole file there is a gate for
each shader that has a group, and no other.
-/
theorem loadFunction_blocks (catalog : Catalog) :
    ∃ before body behind : List (List Char),
      cutLines (catalog.source {}).toList =
          before ++ "void shaders_load (void) \x7b".toList ::
            (body ++ "\x7d".toList :: behind) ∧
        "void shaders_load (void) \x7b".toList ∉ before ++ body ++ behind ∧
        "\x7d".toList ∉ body ∧
        (body.splitOn []).length = catalog.size ∧
        body.splitOn [] =
          catalog.shaders.map (fun shader =>
            shader.loadTexts.map String.toList) ∧
        (cutLines (catalog.source {}).toList).count gateText.toList =
          catalog.shaders.countP (!·.groups.isEmpty) ∧
        (gateText.toList ∈ cutLines (catalog.source {}).toList ↔
          catalog.usesSubroutines = true) := by
  have named := Config.isWellNamed_default
  have head : (Line.openFunction ({} : Config).loadFunction).text =
      "void shaders_load (void) \x7b" := by
    decide
  have balanced := catalog.balanced_loadLines {}
  have gates := catalog.count_gate_source named
  have blocks := catalog.splitOn_indentedLines_loadLines named
  rw [gateLine_default] at gates
  simp only [Shader.indentedLines_loadLines_default] at blocks
  rw [← head]
  refine ⟨({} : Config).linesBeforeLoad,
    indentedLines 1 (catalog.loadLines {}), catalog.linesBehindLoad {},
    catalog.cutLines_source_eq named, ?_, ?_, ?_, blocks, gates, ?_⟩
  · simp only [List.mem_append, not_or]
    exact ⟨⟨loadHead_notMem_linesBeforeLoad named,
      loadHead_notMem_of_isIndented named (balanced.isIndented 1)⟩,
      loadHead_notMem_linesBehindLoad named catalog (by decide)⟩
  · intro member
    exact (balanced.isIndented 1 _ member).ne_closing rfl
  · rw [blocks, List.length_map]
    rfl
  · rw [← List.count_pos_iff, gates, List.countP_pos_iff, usesSubroutines,
      List.any_eq_true]

/-- A path with a brace on a line of its own stays in its literal. -/
example :
    let sky : Shader :=
      { name := "sky", vertexPath := "a\n\x7d", fragmentPath := "\"b\"" }
    sky.loadTexts =
      ["   shaders.sky.program = gl_program_vert_frag(" ++
        "\"a\\n\x7d\", \"\\\"b\\\"\");"] := by
  decide

end Catalog

end ShaderBindings
