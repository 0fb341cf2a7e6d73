import ShaderBindings.Bindings.Load
import ShaderBindings.Proofs.Code.PrintedLines
import ShaderBindings.Proofs.Code.Reading

/-!
# Names in the generated files

All names of a shader are identifiers, since the shader is valid.  The names
of a configuration are not checked by the generator; that they are identifiers
as well is what most facts about the generated files need to know of it.
-/

namespace ShaderBindings

/-- What the generated code calls has identifiers for names. -/
structure GlLayer.IsWellNamed (gl : GlLayer) : Prop where
  buildProgram : isIdentifier gl.buildProgram = true
  attributeLocation : isIdentifier gl.attributeLocation = true
  uniformLocation : isIdentifier gl.uniformLocation = true
  subroutineUniformLocation :
    isIdentifier gl.subroutineUniformLocation = true
  subroutineIndex : isIdentifier gl.subroutineIndex = true
  hasFeature : isIdentifier gl.hasFeature = true
  subroutineFeature : isIdentifier gl.subroutineFeature = true
  deleteProgram : isIdentifier gl.deleteProgram = true

/-- The names of all that the generated code calls, and of the feature. -/
def GlLayer.names (gl : GlLayer) : List String :=
  [gl.buildProgram, gl.attributeLocation, gl.uniformLocation,
    gl.subroutineUniformLocation, gl.subroutineIndex, gl.hasFeature,
    gl.subroutineFeature, gl.deleteProgram]

theorem GlLayer.IsWellNamed.isIdentifier_of_mem_names {gl : GlLayer}
    (named : gl.IsWellNamed) :
    ∀ name ∈ gl.names, isIdentifier name = true := by
  simp only [names, List.forall_mem_cons]
  exact ⟨named.buildProgram, named.attributeLocation, named.uniformLocation,
    named.subroutineUniformLocation, named.subroutineIndex, named.hasFeature,
    named.subroutineFeature, named.deleteProgram, List.forall_mem_nil _⟩

/-- All names that the source file takes from the configuration are fine. -/
structure Config.IsWellNamed (config : Config) : Prop where
  generator : '\n' ∉ config.generator.toList
  typeName : isIdentifier config.typeName = true
  instanceName : isIdentifier config.instanceName = true
  loadFunction : isIdentifier config.loadFunction = true
  unloadFunction : isIdentifier config.unloadFunction = true
  gl : config.gl.IsWellNamed

/-- By default everything is named by identifiers. -/
theorem Config.isWellNamed_default : ({} : Config).IsWellNamed where
  generator := by decide
  typeName := by decide
  instanceName := by decide
  loadFunction := by decide
  unloadFunction := by decide
  gl :=
    { buildProgram := by decide
      attributeLocation := by decide
      uniformLocation := by decide
      subroutineUniformLocation := by decide
      subroutineIndex := by decide
      hasFeature := by decide
      subroutineFeature := by decide
      deleteProgram := by decide }

/-- The texts of a configuration that the source file shows as they stand. -/
def Config.sourceTexts (config : Config) : List String :=
  [config.generator, config.typeName, config.instanceName,
    config.loadFunction, config.unloadFunction] ++ config.gl.names

/-- The texts of a configuration that the files show as they stand. -/
def Config.bareTexts (config : Config) : List String :=
  config.gl.handleType :: config.sourceTexts

/-- Nothing that the source file shows as it stands breaks a line. -/
theorem Config.IsWellNamed.lack_sourceTexts {config : Config}
    (named : config.IsWellNamed) : Lack '\n' config.sourceTexts := by
  have identifiers : Lack '\n'
      ([config.typeName, config.instanceName, config.loadFunction,
        config.unloadFunction] ++ config.gl.names) := by
    apply lack_of_identifiers (by decide)
    simp only [List.cons_append, List.nil_append, List.forall_mem_cons]
    exact ⟨named.typeName, named.instanceName, named.loadFunction,
      named.unloadFunction, named.gl.isIdentifier_of_mem_names⟩
  exact lack_cons_iff.2 ⟨named.generator, identifiers⟩

/-- Nothing that the files show as it stands breaks a line. -/
theorem Config.IsWellNamed.lack_bareTexts {config : Config}
    (named : config.IsWellNamed)
    (handleNamed : isIdentifier config.gl.handleType = true) :
    Lack '\n' config.bareTexts := by
  have handleType : Lack '\n' [config.gl.handleType] :=
    lack_of_identifiers (by decide) (List.forall_mem_singleton.2 handleNamed)
  exact lack_append_iff.2 ⟨handleType, named.lack_sourceTexts⟩

/-- The banner shows the name of the generator behind fixed words. -/
theorem Config.lack_banner {config : Config} {character : Char}
    (fixed : character ∉ "FILE GENERATED BY ".toList)
    (lack : Lack character config.sourceTexts) :
    Lack character
      (Line.comment ("FILE GENERATED BY " ++ config.generator)).bareTexts := by
  refine lack_cons_iff.2 ⟨?_, lack_nil⟩
  rw [String.toList_append, List.mem_append, not_or]
  exact ⟨fixed, (lack_cons_iff.1 lack).1⟩

theorem isIdentifier_programMember : isIdentifier programMember = true := by
  decide

theorem Stage.isIdentifier_constant (stage : Stage) :
    isIdentifier stage.constant = true := by
  cases stage
  case vertex => decide
  case fragment => decide

namespace Shader

theorem isIdentifier_name (shader : Shader) :
    isIdentifier shader.name = true :=
  shader.valid.name_isIdentifier

/-- Whatever is a member of the struct of a shader has an identifier. -/
theorem isIdentifier_of_mem_members {shader : Shader} {name : String}
    (member : name ∈ shader.members) : isIdentifier name = true :=
  shader.valid.areMembers.1 name member

theorem isIdentifier_of_mem_attributes {shader : Shader} {name : String}
    (member : name ∈ shader.attributes) : isIdentifier name = true := by
  apply shader.isIdentifier_of_mem_members
  simp [Draft.members, Draft.fields, member]

theorem isIdentifier_of_mem_uniforms {shader : Shader} {name : String}
    (member : name ∈ shader.uniforms) : isIdentifier name = true := by
  apply shader.isIdentifier_of_mem_members
  simp [Draft.members, Draft.fields, member]

theorem isIdentifier_of_mem_groups {shader : Shader}
    {group : SubroutineGroup} (member : group ∈ shader.groups) :
    isIdentifier group.name = true := by
  apply shader.isIdentifier_of_mem_members
  have named : group.name ∈ shader.groups.map (·.name) :=
    List.mem_map_of_mem member
  simp [Draft.members, Draft.fields, named]

theorem isIdentifier_of_mem_group {shader : Shader} {group : SubroutineGroup}
    (groupMember : group ∈ shader.groups) {name : String}
    (member : name ∈ group.members) : isIdentifier name = true :=
  (shader.valid.areMembers_group group groupMember).1 name member

/-- The places of handles are made of identifiers. -/
theorem place_isWellNamed {config : Config}
    (instanceNamed : isIdentifier config.instanceName = true)
    (shader : Shader) {path : List String}
    (identifiers : ∀ name ∈ path, isIdentifier name = true) :
    Place.IsWellNamed (shader.place config path) where
  nonempty := List.cons_ne_nil _ _
  identifiers := by
    rw [place, List.forall_mem_cons, List.forall_mem_cons]
    exact ⟨instanceNamed, shader.isIdentifier_name, identifiers⟩

theorem programPlace_isWellNamed {config : Config}
    (instanceNamed : isIdentifier config.instanceName = true)
    (shader : Shader) :
    Place.IsWellNamed (shader.programPlace config) :=
  shader.place_isWellNamed instanceNamed
    (List.forall_mem_singleton.2 isIdentifier_programMember)

end Shader

end ShaderBindings
