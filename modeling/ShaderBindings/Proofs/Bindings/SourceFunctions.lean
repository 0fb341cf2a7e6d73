import ShaderBindings.Bindings.Source
import ShaderBindings.Proofs.Bindings.ShaderLines
import ShaderBindings.Proofs.Code.Statements

/-!
# The functions of the source file

When the names of the configuration are identifiers, every line inside the two
functions is a statement that can be read back, and no other line of the file
looks like the start of a function.

The main theorem, `Catalog.readFunctions_source`, says that the source file
has exactly two functions, with the statements that the generator meant to
print.
-/

namespace ShaderBindings

/-! ## The lines inside the functions -/

section Statements

variable {config : Config}
  (instanceNamed : isIdentifier config.instanceName = true)
  (glNamed : config.gl.IsWellNamed)

namespace Shader

include instanceNamed glNamed

omit instanceNamed in
theorem gate_isWellNamed : config.subroutineGate.IsWellNamed where
  function := glNamed.hasFeature
  arguments := by
    intro argument member
    rw [List.mem_singleton.1 member]
    exact ⟨List.cons_ne_nil _ _,
      List.forall_mem_singleton.2 glNamed.subroutineFeature⟩

omit glNamed in
theorem IsOperand.isWellNamed {shader : Shader} {argument : Argument}
    (operand : shader.IsOperand config argument) : argument.IsWellNamed := by
  cases argument with
  | place path =>
      rcases operand with rfl | rfl
      · exact shader.programPlace_isWellNamed instanceNamed
      · exact ⟨List.cons_ne_nil _ _,
          List.forall_mem_singleton.2 (Stage.isIdentifier_constant _)⟩
  | literal text => exact trivial

/-- All lines that load a shader are statements. -/
theorem isStatement_of_mem_loadLines (shader : Shader) :
    ∀ line ∈ shader.loadLines config, line.IsStatement := by
  refine shader.forall_mem_loadLines ?assign ?openIf ?closeBlock
  case assign =>
    intro path call identifiers called operands
    exact ⟨shader.place_isWellNamed instanceNamed identifiers,
      glNamed.isIdentifier_of_mem_names _ called, fun argument member =>
        (operands argument member).isWellNamed instanceNamed⟩
  case openIf => exact gate_isWellNamed glNamed
  case closeBlock => exact trivial

theorem isStatement_deleteLine (shader : Shader) :
    (shader.deleteLine config).IsStatement where
  function := glNamed.deleteProgram
  arguments := by
    intro argument member
    rw [List.mem_singleton.1 member]
    exact shader.programPlace_isWellNamed instanceNamed

end Shader

end Statements

/-! ## The bodies of the functions -/

namespace Shader

variable (config : Config) (shader : Shader)

/-- The statements that look up the attributes and then the uniforms. -/
def locationLines : List Line :=
  shader.attributes.map
      (shader.locationLine config config.gl.attributeLocation) ++
    shader.uniforms.map (shader.locationLine config config.gl.uniformLocation)

/--
The statements that look up the groups, without the condition around them.
-/
def groupedLines : List Line :=
  shader.groups.flatMap (shader.groupLines config)

/-- The statements of a shader in front of those for its groups. -/
def ungatedLines : List Line :=
  shader.buildLine config :: shader.locationLines config

/--
A shader is loaded by statements without a condition and then by those under
it.
-/
theorem loadLines_eq :
    shader.loadLines config =
      shader.ungatedLines config ++ shader.gatedLines config :=
  rfl

/-- The statements for groups stand in one block, if there are any. -/
theorem gatedLines_eq :
    shader.gatedLines config =
      if shader.groups.isEmpty then []
      else
        [.openIf config.subroutineGate] ++ shader.groupedLines config ++
          [.closeBlock] :=
  rfl

theorem stays_of_mem_ungatedLines {line : Line}
    (member : line ∈ shader.ungatedLines config) : line.nesting = .stays := by
  simp only [ungatedLines, locationLines, List.mem_cons, List.mem_append,
    List.mem_map] at member
  rcases member with rfl | ⟨name, _, rfl⟩ | ⟨name, _, rfl⟩
  · rfl
  · rfl
  · rfl

theorem stays_of_mem_groupedLines {line : Line}
    (member : line ∈ shader.groupedLines config) : line.nesting = .stays := by
  obtain ⟨group, _, inside⟩ := List.mem_flatMap.1 member
  simp only [groupLines, List.mem_cons, List.mem_map] at inside
  rcases inside with rfl | ⟨variant, _, rfl⟩
  · rfl
  · rfl

theorem balanced_ungatedLines : Balanced (shader.ungatedLines config) :=
  .of_forall_stays fun _ => shader.stays_of_mem_ungatedLines config

theorem balanced_groupedLines : Balanced (shader.groupedLines config) :=
  .of_forall_stays fun _ => shader.stays_of_mem_groupedLines config

/-- Loading a shader closes the block that it opens. -/
theorem balanced_loadLines : Balanced (shader.loadLines config) := by
  refine (shader.balanced_ungatedLines config).append ?_
  rw [gatedLines_eq]
  split
  · exact .nil
  · exact .block rfl rfl (shader.balanced_groupedLines config)

/-- Within a shader there is no blank line. -/
theorem blank_notMem_loadLines : Line.blank ∉ shader.loadLines config := by
  simp [loadLines, gatedLines, groupLines, buildLine, locationLine,
    subroutineLine]

end Shader

namespace Catalog

theorem forall_balanced_loadLines (config : Config) (catalog : Catalog) :
    ∀ part ∈ catalog.shaders.map (Shader.loadLines config),
      Balanced part := by
  intro part member
  obtain ⟨shader, _, rfl⟩ := List.mem_map.1 member
  exact shader.balanced_loadLines config

/-- The body of the load function closes all blocks that it opens. -/
theorem balanced_loadLines (config : Config) (catalog : Catalog) :
    Balanced (catalog.loadLines config) :=
  .intercalate (.single rfl) (catalog.forall_balanced_loadLines config)

/-- The body of the unload function. -/
def unloadLines (config : Config) (catalog : Catalog) : List Line :=
  catalog.shaders.map (Shader.deleteLine config) ++
    [.clear config.instanceName]

theorem balanced_unloadLines (config : Config) (catalog : Catalog) :
    Balanced (catalog.unloadLines config) := by
  apply Balanced.of_forall_stays
  intro line member
  simp only [unloadLines, List.mem_append, List.mem_singleton,
    List.mem_map] at member
  rcases member with ⟨shader, _, rfl⟩ | rfl
  · rfl
  · rfl

/--
What holds of blank lines and of the lines of each shader holds of the body.
-/
theorem forall_mem_loadLines {config : Config} {catalog : Catalog}
    {holds : Line → Prop} (blank : holds .blank)
    (shaders : ∀ shader ∈ catalog.shaders,
      ∀ line ∈ shader.loadLines config, holds line) :
    ∀ line ∈ catalog.loadLines config, holds line := by
  intro line member
  rcases mem_or_exists_of_mem_intercalate member with
    between | ⟨part, printed, inside⟩
  · rw [List.mem_singleton.1 between]
    exact blank
  · obtain ⟨shader, shaderMember, rfl⟩ := List.mem_map.1 printed
    exact shaders shader shaderMember line inside

/-- The body of the load function has statements only. -/
theorem isStatement_of_mem_loadLines {config : Config}
    (instanceNamed : isIdentifier config.instanceName = true)
    (glNamed : config.gl.IsWellNamed) (catalog : Catalog) :
    ∀ line ∈ catalog.loadLines config, line.IsStatement :=
  forall_mem_loadLines trivial fun shader _ =>
    shader.isStatement_of_mem_loadLines instanceNamed glNamed

theorem isStatement_of_mem_unloadLines {config : Config}
    (instanceNamed : isIdentifier config.instanceName = true)
    (glNamed : config.gl.IsWellNamed) (catalog : Catalog) :
    ∀ line ∈ catalog.unloadLines config, line.IsStatement := by
  intro line member
  simp only [unloadLines, List.mem_append, List.mem_singleton,
    List.mem_map] at member
  rcases member with ⟨shader, _, rfl⟩ | rfl
  · exact shader.isStatement_deleteLine instanceNamed glNamed
  · exact instanceNamed

end Catalog

/-! ## The file around the bodies -/

/-- The lines of the source file in front of the load function. -/
def Config.sourcePreamble (config : Config) : List Line :=
  config.bannerLines ++
    [.includeSystem "string.h", .includeLocal config.headerName] ++
    config.sourceIncludes.map .includeLocal ++
    [.blank, .declare config.typeName config.instanceName, .blank]

/-- What lines there are in front of the load function. -/
theorem Config.mem_sourcePreamble {config : Config} {line : Line}
    (member : line ∈ config.sourcePreamble) :
    line = .comment ("FILE GENERATED BY " ++ config.generator) ∨
      line = .blank ∨ line = .includeSystem "string.h" ∨
      (∃ header, line = .includeLocal header) ∨
      line = .declare config.typeName config.instanceName := by
  simp only [sourcePreamble, bannerLines, List.mem_append, List.mem_cons,
    List.not_mem_nil, or_false, List.mem_map] at member
  rcases member with (((rfl | rfl) | (rfl | rfl)) | ⟨header, _, rfl⟩) |
    (rfl | rfl | rfl)
  all_goals simp

theorem Config.nesting_of_mem_sourcePreamble {config : Config} {line : Line}
    (member : line ∈ config.sourcePreamble) : line.nesting = .stays := by
  rcases mem_sourcePreamble member with
    rfl | rfl | rfl | ⟨header, rfl⟩ | rfl
  all_goals rfl

/-- The lines of a function with a body. -/
def functionLines (name : String) (body : List Line) : List Line :=
  [.openFunction name] ++ body ++ [.closeBlock]

theorem balanced_functionLines (name : String) {body : List Line}
    (balanced : Balanced body) : Balanced (functionLines name body) :=
  .block rfl rfl balanced

/--
The body of a function is indented once between its first and its last line.
-/
theorem indentedLines_functionLines (name : String) {body : List Line}
    (balanced : Balanced body) :
    indentedLines 0 (functionLines name body) =
      (Line.openFunction name).text.toList ::
        (indentedLines 1 body ++ ["\x7d".toList]) := by
  rw [functionLines, indentedLines_block rfl rfl balanced,
    Line.indentedAt_zero, Line.indentedAt_zero]
  rfl

/-- The source file: a preamble and two functions. -/
theorem Catalog.sourceLines_eq (config : Config) (catalog : Catalog) :
    catalog.sourceLines config =
      config.sourcePreamble ++
        (functionLines config.loadFunction (catalog.loadLines config) ++
          ([.blank] ++
            functionLines config.unloadFunction
              (catalog.unloadLines config))) := by
  simp [sourceLines, Config.sourceOpening, Config.sourcePreamble,
    Config.sourceMiddle, Config.sourceClosing, unloadLines, functionLines]

/-- In front of the body of the load function one block is open. -/
theorem Catalog.depthBehind_sourceOpening (config : Config) :
    depthBehind 0 config.sourceOpening = 1 := by
  have preamble : Balanced config.sourcePreamble :=
    .of_forall_stays fun _ => Config.nesting_of_mem_sourcePreamble
  have parts : config.sourceOpening =
      config.sourcePreamble ++ [.openFunction config.loadFunction] := by
    simp [Config.sourceOpening, Config.sourcePreamble]
  rw [parts, depthBehind_append, preamble.depthBehind_eq]
  rfl

theorem Config.lack_of_mem_sourcePreamble {config : Config}
    {character : Char}
    (fixed : Lack character ["FILE GENERATED BY ", "string.h"])
    (lack : Lack character config.sourceTexts) :
    ∀ line ∈ config.sourcePreamble, Lack character line.bareTexts := by
  have typeName : character ∉ config.typeName.toList :=
    lack _ (by simp [sourceTexts])
  have instanceName : character ∉ config.instanceName.toList :=
    lack _ (by simp [sourceTexts])
  rw [lack_cons_iff] at fixed
  intro line member
  rcases mem_sourcePreamble member with
    rfl | rfl | rfl | ⟨header, rfl⟩ | rfl
  · exact lack_banner fixed.1 lack
  · exact lack_nil
  · exact fixed.2
  · exact lack_nil
  · exact lack_cons_iff.2
      ⟨typeName, lack_cons_iff.2 ⟨instanceName, lack_nil⟩⟩

namespace Config.IsWellNamed

variable {config : Config}

/-- No line in front of the load function opens a body. -/
theorem readFunctionHead_preamble {line : Line}
    (member : line ∈ config.sourcePreamble) :
    readFunctionHead line.text.toList = none := by
  rcases mem_sourcePreamble member with
    rfl | rfl | rfl | ⟨header, rfl⟩ | rfl
  · apply readFunctionHead_eq_none_of_head?
    show ("/* " ++ ("FILE GENERATED BY " ++ config.generator) ++
      " */").toList.head? ≠ _
    simp
  · rfl
  · apply readFunctionHead_eq_none_of_head?
    decide
  · apply readFunctionHead_eq_none_of_head?
    show ("#include " ++ quote header).toList.head? ≠ _
    simp
  · apply readFunctionHead_eq_none_of_getLast?
    show (config.typeName ++ " " ++ config.instanceName ++
      ";").toList.getLast? ≠ _
    rw [String.toList_append, List.getLast?_append]
    simp

end Config.IsWellNamed

namespace Catalog

variable {config : Config} (catalog : Catalog)

section BareTexts

variable {character : Char}
  (noPart : isIdentifierPart character = false)
  (instanceName : character ∉ config.instanceName.toList)
  (names : Lack character config.gl.names)

include noPart instanceName names

theorem lack_of_mem_loadLines :
    ∀ line ∈ catalog.loadLines config, Lack character line.bareTexts :=
  forall_mem_loadLines lack_nil fun shader _ =>
    shader.lack_of_mem_loadLines noPart instanceName names

theorem lack_of_mem_unloadLines :
    ∀ line ∈ catalog.unloadLines config, Lack character line.bareTexts := by
  rw [unloadLines, List.forall_mem_append, List.forall_mem_map,
    List.forall_mem_singleton]
  exact ⟨fun shader _ => shader.lack_deleteLine noPart instanceName names,
    lack_cons_iff.2 ⟨instanceName, lack_nil⟩⟩

end BareTexts

/-- Where the bare texts of the source file come from. -/
theorem lack_of_mem_sourceLines {character : Char}
    (noPart : isIdentifierPart character = false)
    (fixed : Lack character ["FILE GENERATED BY ", "string.h"])
    (lack : Lack character config.sourceTexts) :
    ∀ line ∈ catalog.sourceLines config, Lack character line.bareTexts := by
  have function {name : String} (known : name ∈ config.sourceTexts) :
      Lack character (Line.openFunction name).bareTexts :=
    lack_cons_iff.2 ⟨lack name known, lack_nil⟩
  have instanceName : character ∉ config.instanceName.toList :=
    lack _ (by simp [Config.sourceTexts])
  have names : Lack character config.gl.names :=
    fun name member => lack name (List.mem_append_right _ member)
  simp only [sourceLines_eq, functionLines, List.forall_mem_append,
    List.forall_mem_singleton]
  exact ⟨Config.lack_of_mem_sourcePreamble fixed lack,
    ⟨⟨function (by simp [Config.sourceTexts]),
      catalog.lack_of_mem_loadLines noPart instanceName names⟩, lack_nil⟩,
    lack_nil,
    ⟨function (by simp [Config.sourceTexts]),
      catalog.lack_of_mem_unloadLines noPart instanceName names⟩, lack_nil⟩

/-- No line of the source file is broken unless the configuration breaks it. -/
theorem isOneLine_of_mem_sourceLines
    (lack : Lack '\n' config.sourceTexts) :
    ∀ line ∈ catalog.sourceLines config, line.IsOneLine :=
  fun line member => Line.isOneLine_of_lack
    (catalog.lack_of_mem_sourceLines (by decide) (by decide) lack line member)

variable (named : config.IsWellNamed)

include named

/-- The lines of the source file, as they stand in its text. -/
theorem cutLines_source :
    cutLines (catalog.source config).toList =
      config.sourcePreamble.map (·.text.toList) ++
        (Line.openFunction config.loadFunction).text.toList ::
        (indentedLines 1 (catalog.loadLines config) ++ "\x7d".toList ::
          [] :: (Line.openFunction config.unloadFunction).text.toList ::
          (indentedLines 1 (catalog.unloadLines config) ++
            ["\x7d".toList, []])) := by
  have cut := cutLines_renderAt
    (catalog.isOneLine_of_mem_sourceLines named.lack_sourceTexts) 0 []
  have stays : ∀ line ∈ config.sourcePreamble, line.nesting = .stays :=
    fun _ => Config.nesting_of_mem_sourcePreamble
  have preambleEnd : depthBehind 0 config.sourcePreamble = 0 :=
    (Balanced.of_forall_stays stays).depthBehind_eq 0
  have load := catalog.balanced_loadLines config
  have unload := catalog.balanced_unloadLines config
  have loadEnd := (balanced_functionLines config.loadFunction
    load).depthBehind_eq 0
  rw [List.append_nil, cutLines_nil] at cut
  rw [source, render, cut, sourceLines_eq, indentedLines_append, preambleEnd,
    indentedLines_of_stays stays, indentedLines_append, loadEnd,
    indentedLines_functionLines _ load, indentedLines_append]
  show _ ++ (_ ++ (indentedLines 0 [.blank] ++ indentedLines 0 _)) ++ _ = _
  rw [indentedLines_functionLines _ unload,
    show Line.indentedAt 0 = (·.text.toList) from
      funext Line.indentedAt_zero]
  simp [indentedLines, Line.indentedAt]

/-- The source file has two functions, the bodies of which are as meant. -/
theorem readFunctions_source :
    readFunctions (cutLines (catalog.source config).toList) =
      some
        [{ name := config.loadFunction, body := catalog.loadLines config },
          { name := config.unloadFunction
            body := catalog.unloadLines config }] := by
  have preamble : ∀ text ∈ config.sourcePreamble.map (·.text.toList),
      readFunctionHead text = none := by
    intro text member
    rcases List.mem_map.1 member with ⟨line, lineMember, rfl⟩
    exact Config.IsWellNamed.readFunctionHead_preamble lineMember
  rw [catalog.cutLines_source named, readFunctions_append preamble,
    readFunctions_cons named.loadFunction
      (catalog.isStatement_of_mem_loadLines named.instanceName named.gl)
      (catalog.balanced_loadLines config)]
  have blank : readFunctions ([] ::
      (Line.openFunction config.unloadFunction).text.toList ::
        (indentedLines 1 (catalog.unloadLines config) ++
          ["\x7d".toList, []])) =
      some [{ name := config.unloadFunction
              body := catalog.unloadLines config }] := by
    have skip : readFunctionHead [] = none := rfl
    rw [readFunctions, skip]
    simp only
    rw [readFunctions_cons named.unloadFunction
      (catalog.isStatement_of_mem_unloadLines named.instanceName named.gl)
      (catalog.balanced_unloadLines config)]
    rfl
  rw [blank]
  rfl

end Catalog

end ShaderBindings
