import ShaderBindings.Proofs.Bindings.SourceFunctions

/-!
# The source file determines the catalog

Every part of a catalog can be found in the statements that load it.  A shader
ends at the blank line in front of the next one.  In it the attributes and the
uniforms are told apart by the function that looks them up, and the groups by
the statement for the uniform of the group, which comes before those for its
variants.

The statements are found in the text between the line that opens the load
function and the first brace at the margin, whatever stands around them.  So
two catalogs with the same source file are the same:
`Catalog.source_injective`.
-/

namespace ShaderBindings

/-! ## The statements of a shader -/

/-- Whether a line assigns the result of a function. -/
def Line.isAssignmentOf (function : String) : Line → Bool
  | .assign _ value => value.function == function
  | _ => false

/-- The name of the handle to which a line assigns. -/
def Line.assignedName? : Line → Option String
  | .assign target _ => target.getLast?
  | _ => none

/-- Whether a line does not begin the next group: it assigns a variant. -/
def Line.isVariant (line : Line) : Bool :=
  line.assignedName? != some groupUniformMember

namespace Shader

variable {config : Config}

/-- A name is read back from the statement that looks it up. -/
theorem locationLine_injective (shader : Shader) (function : String) :
    Function.Injective (shader.locationLine config function) := by
  intro first second same
  simp only [locationLine, place, Line.assign.injEq, List.cons.injEq,
    true_and, and_true] at same
  exact same.1

theorem isAssignmentOf_locationLine (shader : Shader)
    (function other name : String) :
    (shader.locationLine config function name).isAssignmentOf other =
      (function == other) :=
  rfl

/-- The name and the paths of a shader stand in its first statement. -/
theorem eq_of_buildLine_eq {shader other : Shader}
    (same : shader.buildLine config = other.buildLine config) :
    shader.name = other.name ∧ shader.vertexPath = other.vertexPath ∧
      shader.fragmentPath = other.fragmentPath := by
  simp only [buildLine, programPlace, place, Line.assign.injEq,
    Call.mk.injEq, List.cons.injEq, Argument.literal.injEq, true_and,
    and_true] at same
  exact same

/-- Behind the locations, no line belongs to them. -/
theorem stops_gatedLines (shader : Shader) (function : String) :
    Stops (Line.isAssignmentOf function) (shader.gatedLines config) := by
  rw [gatedLines]
  split
  · exact stops_nil
  · exact stops_cons rfl _

end Shader

/-- The variants of a group end where the next group starts. -/
theorem SubroutineGroup.stops_flatMap (config : Config) (shader : Shader)
    (groups : List SubroutineGroup) :
    Stops Line.isVariant (groups.flatMap (shader.groupLines config)) := by
  cases groups with
  | nil => exact stops_nil
  | cons group later =>
      apply stops_cons
      simp [Line.isVariant, Line.assignedName?, Shader.subroutineLine,
        Shader.place]

theorem SubroutineGroup.isVariant_subroutineLine (config : Config)
    (shader : Shader) {group : SubroutineGroup}
    (areMembers : AreMembers group.members) :
    ∀ line ∈ group.variants.map (fun variant =>
      shader.subroutineLine config [group.name, variant]
        config.gl.subroutineIndex variant), line.isVariant = true := by
  intro line member
  rcases List.mem_map.1 member with ⟨variant, variantMember, rfl⟩
  have other : variant ≠ groupUniformMember := by
    rintro rfl
    exact (List.nodup_cons.1 areMembers.2).1 variantMember
  simp [Line.isVariant, Line.assignedName?, Shader.subroutineLine,
    Shader.place, other]

/-- The statements for groups determine the groups. -/
theorem SubroutineGroup.eq_of_flatMap_groupLines_eq {config : Config}
    {shader other : Shader} {groups others : List SubroutineGroup}
    (areMembers : ∀ group ∈ groups, AreMembers group.members)
    (otherAreMembers : ∀ group ∈ others, AreMembers group.members)
    (same : groups.flatMap (shader.groupLines config) =
      others.flatMap (other.groupLines config)) : groups = others := by
  induction groups generalizing others with
  | nil =>
      cases others with
      | nil => rfl
      | cons group later => cases same
  | cons group rest inductionHypothesis =>
      cases others with
      | nil => cases same
      | cons otherGroup otherRest =>
          rw [List.forall_mem_cons] at areMembers otherAreMembers
          rw [List.flatMap_cons, List.flatMap_cons] at same
          injection same with uniform behind
          rcases append_inj_of_stops
            (isVariant_subroutineLine config shader areMembers.1)
            (stops_flatMap config shader rest)
            (isVariant_subroutineLine config other otherAreMembers.1)
            (stops_flatMap config other otherRest) behind with
            ⟨variants, later⟩
          have name : group.name = otherGroup.name := by
            simp only [Shader.subroutineLine, Shader.place,
              Line.assign.injEq, List.cons.injEq, true_and, and_true]
              at uniform
            exact uniform.1.2
          have names : group.variants = otherGroup.variants := by
            have assigned := congrArg (List.map Line.assignedName?) variants
            simp only [List.map_map] at assigned
            exact List.map_injective_iff.2
              (fun _ _ => Option.some.inj) assigned
          have head : group = otherGroup :=
            congrArg₂ SubroutineGroup.mk name names
          rw [head, inductionHypothesis areMembers.2 otherAreMembers.2 later]

/-! ## The statements determine the shader -/

namespace Shader

variable {config : Config}

/-- Looked-up names are told from what follows by their function. -/
theorem locations_append_inj {shader other : Shader} {function : String}
    {names otherNames : List String} {rest otherRest : List Line}
    (sameName : shader.name = other.name)
    (stops : Stops (Line.isAssignmentOf function) rest)
    (otherStops : Stops (Line.isAssignmentOf function) otherRest)
    (same : names.map (shader.locationLine config function) ++ rest =
      otherNames.map (other.locationLine config function) ++ otherRest) :
    names = otherNames ∧ rest = otherRest := by
  have inside (either : Shader) (list : List String) :
      ∀ line ∈ list.map (either.locationLine config function),
        line.isAssignmentOf function = true := by
    intro line member
    rcases List.mem_map.1 member with ⟨name, _, rfl⟩
    simp [isAssignmentOf_locationLine]
  rcases append_inj_of_stops (inside shader names) stops
    (inside other otherNames) otherStops same with ⟨lines, behind⟩
  have sameLine : other.locationLine config function =
      shader.locationLine config function := by
    funext name
    simp only [locationLine, programPlace, place, sameName]
  rw [sameLine] at lines
  exact ⟨List.map_injective_iff.2 (shader.locationLine_injective function)
    lines, behind⟩

theorem stops_uniforms {function : String} (shader : Shader)
    (apart : config.gl.uniformLocation ≠ function) :
    Stops (Line.isAssignmentOf function)
      (shader.uniforms.map
        (shader.locationLine config config.gl.uniformLocation) ++
          shader.gatedLines config) := by
  cases shader.uniforms with
  | nil => exact shader.stops_gatedLines function
  | cons name later =>
      apply stops_cons
      simpa [isAssignmentOf_locationLine] using apart

/-- The block for subroutines determines the groups. -/
theorem groups_eq_of_gatedLines_eq {shader other : Shader}
    (same : shader.gatedLines config = other.gatedLines config) :
    shader.groups = other.groups := by
  have areMembers := shader.valid.areMembers_group
  have otherAreMembers := other.valid.areMembers_group
  rw [gatedLines, gatedLines] at same
  split at same
  · rename_i empty
    split at same
    · rename_i otherEmpty
      rw [List.isEmpty_iff.1 empty, List.isEmpty_iff.1 otherEmpty]
    · cases same
  · split at same
    · cases same
    · rw [List.append_left_inj, List.append_right_inj] at same
      exact SubroutineGroup.eq_of_flatMap_groupLines_eq areMembers
        otherAreMembers same

/-- A shader is determined by the statements that load it. -/
theorem loadLines_injective
    (apart : config.gl.attributeLocation ≠ config.gl.uniformLocation) :
    Function.Injective (Shader.loadLines config) := by
  intro shader other same
  simp only [loadLines, List.append_assoc, List.cons_append,
    List.nil_append] at same
  injection same with build behind
  rcases eq_of_buildLine_eq build with ⟨name, vertexPath, fragmentPath⟩
  rcases locations_append_inj name (shader.stops_uniforms apart.symm)
    (other.stops_uniforms apart.symm) behind with ⟨attributes, later⟩
  rcases locations_append_inj name (shader.stops_gatedLines _)
    (other.stops_gatedLines _) later with ⟨uniforms, gated⟩
  have groups := groups_eq_of_gatedLines_eq gated
  apply toDraft_injective
  rcases shader with ⟨draft⟩
  rcases other with ⟨otherDraft⟩
  rcases draft with ⟨_, _, _, _, _, _⟩
  rcases otherDraft with ⟨_, _, _, _, _, _⟩
  simp_all

end Shader

/-! ## The text determines the catalog -/

namespace Catalog

variable {config : Config}

/-- A catalog is determined by the body of the load function. -/
theorem loadLines_injective
    (apart : config.gl.attributeLocation ≠ config.gl.uniformLocation) :
    Function.Injective (Catalog.loadLines config) := by
  intro catalog other same
  have noBlank (either : Catalog) :
      ∀ part ∈ either.shaders.map (Shader.loadLines config),
        Line.blank ∉ part := by
    intro part member
    rcases List.mem_map.1 member with ⟨shader, _, rfl⟩
    exact shader.blank_notMem_loadLines config
  have some (either : Catalog) :
      either.shaders.map (Shader.loadLines config) ≠ [] := by
    simp [either.nonempty]
  have parts := List.splitOn_intercalate Line.blank (noBlank catalog)
    (some catalog)
  rw [show [Line.blank].intercalate _ = _ from same,
    loadLines, List.splitOn_intercalate Line.blank (noBlank other)
      (some other)] at parts
  have shaders := List.map_injective_iff.2
    (Shader.loadLines_injective apart) parts
  cases catalog
  cases other
  simp_all

/-- Behind the body of the load function stands a brace at the margin. -/
theorem exists_source_eq (config : Config) (catalog : Catalog) :
    ∃ rest, (catalog.source config).toList =
      (render config.sourceOpening).toList ++
        ((renderAt 1 (catalog.loadLines config)).toList ++
          ("\x7d".toList ++ '\n' :: rest)) := by
  refine ⟨(renderAt 0 ([.blank, .openFunction config.unloadFunction] ++
    (catalog.shaders.map (Shader.deleteLine config) ++
      config.sourceClosing))).toList, ?_⟩
  rw [source, sourceLines, render, List.append_assoc, List.append_assoc,
    List.append_assoc, renderAt_append, depthBehind_sourceOpening,
    renderAt_append, (catalog.balanced_loadLines config).depthBehind_eq,
    Config.sourceMiddle, List.cons_append, renderAt_cons]
  simp only [String.toList_append]
  rfl

/-- The statements of the load function are found in the text. -/
theorem loadLines_eq_of_source_eq
    (instanceNamed : isIdentifier config.instanceName = true)
    (glNamed : config.gl.IsWellNamed) {catalog other : Catalog}
    (same : catalog.source config = other.source config) :
    catalog.loadLines config = other.loadLines config := by
  have statements (either : Catalog) :=
    either.isStatement_of_mem_loadLines instanceNamed glNamed
  have oneLine (either : Catalog) :
      ∀ line ∈ either.loadLines config, line.IsOneLine :=
    fun line member => (statements either line member).isOneLine
  have inside (either : Catalog) :=
    (either.balanced_loadLines config).bne_closing
  have brace : '\n' ∉ "\x7d".toList := by simp
  rcases exists_source_eq config catalog with ⟨rest, text⟩
  rcases exists_source_eq config other with ⟨otherRest, otherText⟩
  rw [same, otherText] at text
  have cut := congrArg cutLines (List.append_cancel_left text)
  rw [cutLines_renderAt (oneLine other), cutLines_renderAt (oneLine catalog),
    cutLines_append_newline brace, cutLines_append_newline brace] at cut
  have lines := (append_inj_of_stops (inside other) (stops_bne _ _)
    (inside catalog) (stops_bne _ _) cut).1
  have read := mapM_readIndented (statements catalog) 1
  rw [← lines, mapM_readIndented (statements other) 1] at read
  exact (Option.some.inj read).symm

/-- Two catalogs with the same source file are the same. -/
theorem source_injective
    (instanceNamed : isIdentifier config.instanceName = true)
    (glNamed : config.gl.IsWellNamed)
    (apart : config.gl.attributeLocation ≠ config.gl.uniformLocation) :
    Function.Injective (Catalog.source config) := by
  intro catalog other same
  exact loadLines_injective apart
    (loadLines_eq_of_source_eq instanceNamed glNamed same)

/-- The functions that are called by default are apart. -/
theorem source_injective_default :
    isIdentifier ({} : Config).instanceName = true ∧
      ({} : Config).gl.IsWellNamed ∧
      ({} : Config).gl.attributeLocation ≠
        ({} : Config).gl.uniformLocation ∧
      Function.Injective (Catalog.source {}) :=
  ⟨by decide, Config.isWellNamed_default.gl, by decide,
    source_injective (by decide) Config.isWellNamed_default.gl (by decide)⟩

end Catalog

end ShaderBindings
