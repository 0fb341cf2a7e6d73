import ShaderBindings.Bindings.Struct
import ShaderBindings.Proofs.Bindings.Names

/-!
# The lines of a shader

The struct of a shader has lines of three kinds, and so have the statements
that load it.  What holds of each kind holds of all lines of a shader:
`Shader.forall_mem_structLines` and `Shader.forall_mem_loadLines`.

In particular every bare text in them is an identifier or comes from the
configuration.
-/

namespace ShaderBindings

namespace Shader

variable {config : Config} (shader : Shader)

/-! ## The struct -/

/-- The struct of a shader declares handles in structs with identifiers. -/
theorem forall_mem_structLines {holds : Line → Prop}
    (openStruct : holds .openStruct)
    (declare : ∀ name, isIdentifier name = true →
      holds (.declare config.gl.handleType name))
    (closeStruct : ∀ name, isIdentifier name = true →
      holds (.closeStruct name)) :
    ∀ line ∈ shader.structLines config, holds line := by
  have handles {names : List String}
      (identifiers : ∀ name ∈ names, isIdentifier name = true) :
      ∀ line ∈ config.handleLines names, holds line := by
    intro line member
    obtain ⟨name, named, rfl⟩ := List.mem_map.1 member
    exact declare name (identifiers name named)
  have own : ∀ name ∈
      programMember :: (shader.attributes ++ shader.uniforms),
      isIdentifier name = true := by
    intro name member
    apply shader.isIdentifier_of_mem_members
    rw [Draft.members, Draft.fields, ← List.cons_append]
    exact List.mem_append_left _ member
  simp only [structLines, SubroutineGroup.structLines,
    List.forall_mem_append, List.forall_mem_singleton,
    List.forall_mem_flatMap]
  refine ⟨⟨⟨openStruct, handles own⟩, fun group member => ?_⟩,
    closeStruct shader.name shader.isIdentifier_name⟩
  exact ⟨⟨openStruct, handles fun _ => isIdentifier_of_mem_group member⟩,
    closeStruct group.name (isIdentifier_of_mem_groups member)⟩

/-! ## The statements -/

/-- What a statement that loads the shader gives to a function. -/
def IsOperand (config : Config) (shader : Shader) : Argument → Prop
  | .place path =>
      path = shader.programPlace config ∨
        path = [Stage.ofSubroutines.constant]
  | .literal _ => True

section LoadLines

variable {holds : Line → Prop}
  (assign : ∀ (path : List String) (call : Call),
    (∀ name ∈ path, isIdentifier name = true) →
    call.function ∈ config.gl.names →
    (∀ argument ∈ call.arguments, shader.IsOperand config argument) →
    holds (.assign (shader.place config path) call))

include assign

/-- The statements for a group assign calls to places. -/
theorem forall_mem_groupLines {group : SubroutineGroup}
    (member : group ∈ shader.groups) :
    ∀ line ∈ shader.groupLines config group, holds line := by
  have subroutine {handle function name : String}
      (handled : handle ∈ group.members)
      (called : function ∈ config.gl.names) :
      holds (shader.subroutineLine config [group.name, handle]
        function name) := by
    have identifiers : ∀ text ∈ [group.name, handle],
        isIdentifier text = true :=
      List.forall_mem_cons.2 ⟨isIdentifier_of_mem_groups member,
        List.forall_mem_singleton.2 (isIdentifier_of_mem_group member handled)⟩
    apply assign _ _ identifiers called
    rw [List.forall_mem_cons, List.forall_mem_cons, List.forall_mem_singleton]
    exact ⟨Or.inl rfl, Or.inr rfl, trivial⟩
  simp only [groupLines, List.forall_mem_cons, List.forall_mem_map]
  exact ⟨subroutine List.mem_cons_self (by simp [GlLayer.names]),
    fun variant handled => subroutine
      (List.mem_cons_of_mem _ handled) (by simp [GlLayer.names])⟩

/--
The lines that load a shader are assignments, but for the block around some.
-/
theorem forall_mem_loadLines
    (openIf : holds (.openIf config.subroutineGate))
    (closeBlock : holds .closeBlock) :
    ∀ line ∈ shader.loadLines config, holds line := by
  have build : holds (shader.buildLine config) := by
    apply assign [programMember]
    · exact List.forall_mem_singleton.2 isIdentifier_programMember
    · simp [GlLayer.names]
    · simp [IsOperand]
  have location {function name : String}
      (called : function ∈ config.gl.names)
      (named : isIdentifier name = true) :
      holds (shader.locationLine config function name) := by
    apply assign [name] _ (List.forall_mem_singleton.2 named) called
    rw [List.forall_mem_cons, List.forall_mem_singleton]
    exact ⟨Or.inl rfl, trivial⟩
  have gated : ∀ line ∈ shader.gatedLines config, holds line := by
    unfold gatedLines
    split
    · exact List.forall_mem_nil _
    · simp only [List.forall_mem_append, List.forall_mem_singleton,
        List.forall_mem_flatMap]
      exact ⟨⟨openIf, fun _ => shader.forall_mem_groupLines assign⟩,
        closeBlock⟩
  simp only [loadLines, List.forall_mem_append, List.forall_mem_singleton,
    List.forall_mem_map]
  exact ⟨⟨⟨build, fun name member => location (by simp [GlLayer.names])
      (isIdentifier_of_mem_attributes member)⟩,
    fun name member => location (by simp [GlLayer.names])
      (isIdentifier_of_mem_uniforms member)⟩, gated⟩

end LoadLines

/-! ## Bare texts -/

section BareTexts

variable {character : Char}
  (noPart : isIdentifierPart character = false)

include noPart

/-- The bare texts of a struct are names and the type of handles. -/
theorem lack_of_mem_structLines
    (handleType : character ∉ config.gl.handleType.toList) :
    ∀ line ∈ shader.structLines config, Lack character line.bareTexts := by
  have named {name : String} (identifier : isIdentifier name = true) :
      Lack character [name] :=
    lack_of_identifiers noPart (List.forall_mem_singleton.2 identifier)
  exact shader.forall_mem_structLines lack_nil
    (fun _ identifier => lack_cons_iff.2 ⟨handleType, named identifier⟩)
    (fun _ identifier => named identifier)

/-- A place is made of the instance and of identifiers. -/
theorem lack_place {path : List String}
    (instanceName : character ∉ config.instanceName.toList)
    (identifiers : ∀ name ∈ path, isIdentifier name = true) :
    Lack character (shader.place config path) := by
  have names : ∀ name ∈ shader.name :: path, isIdentifier name = true :=
    List.forall_mem_cons.2 ⟨shader.isIdentifier_name, identifiers⟩
  exact lack_cons_iff.2 ⟨instanceName, lack_of_identifiers noPart names⟩

theorem lack_programPlace
    (instanceName : character ∉ config.instanceName.toList) :
    Lack character (shader.programPlace config) :=
  shader.lack_place noPart instanceName
    (List.forall_mem_singleton.2 isIdentifier_programMember)

/-- The bare texts of statements are places and the names of functions. -/
theorem lack_of_mem_loadLines
    (instanceName : character ∉ config.instanceName.toList)
    (names : Lack character config.gl.names) :
    ∀ line ∈ shader.loadLines config, Lack character line.bareTexts := by
  refine shader.forall_mem_loadLines ?assign ?openIf ?closeBlock
  case assign =>
    intro path call identifiers called operands
    have arguments : Lack character
        (call.arguments.flatMap Argument.bareTexts) := by
      rw [lack_flatMap_iff]
      intro argument member
      have operand := operands argument member
      cases argument with
      | place path =>
          rcases operand with rfl | rfl
          · exact shader.lack_programPlace noPart instanceName
          · exact lack_of_identifiers noPart
              (List.forall_mem_singleton.2 (Stage.isIdentifier_constant _))
      | literal text => exact lack_nil
    exact lack_append_iff.2
      ⟨shader.lack_place noPart instanceName identifiers,
        lack_cons_iff.2 ⟨names _ called, arguments⟩⟩
  case openIf =>
    have function : config.gl.hasFeature ∈ config.gl.names := by
      simp [GlLayer.names]
    have feature : config.gl.subroutineFeature ∈ config.gl.names := by
      simp [GlLayer.names]
    exact lack_cons_iff.2
      ⟨names _ function, lack_cons_iff.2 ⟨names _ feature, lack_nil⟩⟩
  case closeBlock => exact lack_nil

theorem lack_deleteLine
    (instanceName : character ∉ config.instanceName.toList)
    (names : Lack character config.gl.names) :
    Lack character (shader.deleteLine config).bareTexts := by
  have program := shader.lack_programPlace noPart instanceName
  exact lack_cons_iff.2 ⟨names _ (by simp [GlLayer.names]),
    by simpa [Argument.bareTexts] using program⟩

end BareTexts

end Shader

end ShaderBindings
