import ShaderBindings.Catalog.Builtin
import ShaderBindings.Proofs.Bindings.HeaderStruct
import ShaderBindings.Proofs.Bindings.SourceFunctions

/-!
# Handles

A shader has one handle for its program, each attribute and each uniform, and
for each group one for its uniform and one for each variant.  The header
declares them and the load function assigns to them, each in an order of its
own making; `Shader.handlePaths` is the order of both.

All handles of a catalog are different places, since the members of each
struct have different names.
-/

namespace ShaderBindings

/-- The paths from a shader to its handles. -/
def Shader.handlePaths (shader : Shader) : List Place :=
  [programMember] ::
    ((shader.attributes ++ shader.uniforms).map fun name => [name]) ++
      shader.groups.flatMap fun group =>
        group.members.map fun handle => [group.name, handle]

/-- The places of all handles of a catalog. -/
def Catalog.handlePlaces (config : Config) (catalog : Catalog) : List Place :=
  catalog.shaders.flatMap fun shader =>
    shader.handlePaths.map (shader.place config)

/-- The place to which a line assigns, if it does. -/
def Line.target? : Line → Option Place
  | .assign target _ => some target
  | _ => none

/-- The places that statements assign to, in order. -/
def assignedPlaces (body : List Line) : List Place :=
  body.filterMap Line.target?

/-- The arguments with which a function is called for its effect, in order. -/
def performedArguments (function : String) (body : List Line) :
    List (List Argument) :=
  body.filterMap fun
    | .perform call =>
        if call.function = function then some call.arguments else none
    | _ => none

/-! ## Handles in the header -/

section Header

variable (config : Config)

/-- The handles of members follow each other. -/
@[simp]
theorem handles_append (first second : List Member) :
    handles (first ++ second) = handles first ++ handles second := by
  rw [handles_eq_flatMap, List.flatMap_append, ← handles_eq_flatMap,
    ← handles_eq_flatMap]

theorem handles_map {Item : Type} (items : List Item)
    (member : Item → Member) :
    handles (items.map member) =
      items.flatMap fun item => handles [member item] := by
  rw [handles_eq_flatMap, List.flatMap_map]

/-- A handle is reached through its own name. -/
theorem handles_handleMembers (names : List String) :
    handles (config.handleMembers names) = names.map fun name => [name] := by
  rw [Config.handleMembers, handles_map]
  simp [handles, List.map_eq_flatMap]

theorem SubroutineGroup.handles_member (group : SubroutineGroup) :
    handles [group.member config] =
      group.members.map fun handle => [group.name, handle] := by
  simp [member, handles, handles_handleMembers]

/--
The handles in the struct of a shader are those that the source file fills.
-/
theorem Shader.handles_structMembers (shader : Shader) :
    handles (shader.structMembers config) = shader.handlePaths := by
  simp [structMembers, handlePaths, handles_handleMembers, handles_map,
    SubroutineGroup.handles_member]

/-- The header declares the handles in their order. -/
theorem Catalog.handles_members (catalog : Catalog) :
    (handles (catalog.members config)).map (config.instanceName :: ·) =
      catalog.handlePlaces config := by
  have inside (shader : Shader) :
      handles [shader.member config] =
        shader.handlePaths.map (shader.name :: ·) := by
    simp [Shader.member, handles, Shader.handles_structMembers]
  simp only [members, handles_map, inside, handlePlaces, List.map_flatMap,
    List.map_map]
  rfl

/-- Distinct identifiers may be the handles of one struct. -/
theorem Config.structMembers_handleMembers {names : List String}
    (areMembers : AreMembers names) :
    StructMembers (config.handleMembers names) := by
  constructor
  · simpa [handleMembers, Function.comp_def, Member.name] using areMembers
  · intro name inside member
    rcases List.mem_map.1 member with ⟨_, _, same⟩
    cases same

/-- At every depth the struct of a shader has distinct identifiers. -/
theorem Shader.structMembers_structMembers (shader : Shader) :
    StructMembers (shader.structMembers config) := by
  constructor
  · have areMembers := shader.valid.areMembers
    simpa [structMembers, Config.handleMembers, Function.comp_def,
      Member.name, SubroutineGroup.member, Draft.members, Draft.fields]
      using areMembers
  · intro name inside member
    rcases List.mem_append.1 member with handle | groupMember
    · rcases List.mem_map.1 handle with ⟨_, _, same⟩
      cases same
    · rcases List.mem_map.1 groupMember with ⟨group, groupOf, same⟩
      cases same
      exact config.structMembers_handleMembers
        (shader.valid.areMembers_group group groupOf)

/-- At every depth the struct of the header has distinct identifiers. -/
theorem Catalog.structMembers_members (catalog : Catalog) :
    StructMembers (catalog.members config) := by
  constructor
  · rw [members, List.map_map]
    constructor
    · intro name member
      rcases List.mem_map.1 member with ⟨shader, _, rfl⟩
      exact shader.isIdentifier_name
    · exact catalog.names_nodup
  · intro name inside member
    rcases List.mem_map.1 member with ⟨shader, _, same⟩
    cases same
    exact shader.structMembers_structMembers config

/-- No place of a handle occurs twice. -/
theorem Catalog.handlePlaces_nodup (catalog : Catalog) :
    (catalog.handlePlaces config).Nodup := by
  rw [← handles_members]
  exact (catalog.structMembers_members config).handles_nodup.map
    List.cons_injective

end Header

/-! ## Handles in the source file -/

section Source

variable {config : Config}

@[simp]
theorem assignedPlaces_append (first second : List Line) :
    assignedPlaces (first ++ second) =
      assignedPlaces first ++ assignedPlaces second :=
  List.filterMap_append

/-- A line without a target between two parts has no part in the targets. -/
theorem assignedPlaces_intercalate {separator : Line}
    (noTarget : separator.target? = none) (parts : List (List Line)) :
    assignedPlaces ([separator].intercalate parts) =
      parts.flatMap assignedPlaces := by
  have nothing : [separator].filterMap Line.target? = [] := by
    simp [noTarget]
  rw [assignedPlaces, filterMap_intercalate, nothing, nil_intercalate]
  rfl

/-- Each handle of a group is assigned once, in order. -/
theorem Shader.assignedPlaces_groupLines (shader : Shader)
    (group : SubroutineGroup) :
    assignedPlaces (shader.groupLines config group) =
      group.members.map fun handle =>
        shader.place config [group.name, handle] := by
  simp [groupLines, assignedPlaces, subroutineLine, Line.target?,
    SubroutineGroup.members, Function.comp_def, List.filterMap_map]

/-- Each handle of all groups is assigned once, in order. -/
theorem Shader.assignedPlaces_gatedLines (shader : Shader) :
    assignedPlaces (shader.gatedLines config) =
      shader.groups.flatMap fun group =>
        group.members.map fun handle =>
          shader.place config [group.name, handle] := by
  rw [gatedLines]
  split
  · rename_i empty
    rw [List.isEmpty_iff.1 empty]
    rfl
  · have opening : assignedPlaces [.openIf config.subroutineGate] = [] := rfl
    have closing : assignedPlaces [Line.closeBlock] = [] := rfl
    have groups : assignedPlaces
        (shader.groups.flatMap (shader.groupLines config)) =
        shader.groups.flatMap fun group =>
          assignedPlaces (shader.groupLines config group) :=
      List.filterMap_flatMap
    rw [assignedPlaces_append, assignedPlaces_append, opening, closing,
      groups]
    simp only [assignedPlaces_groupLines, List.nil_append, List.append_nil]

/-- The load function assigns to the handles in their order. -/
theorem Shader.assignedPlaces_loadLines (shader : Shader) :
    assignedPlaces (shader.loadLines config) =
      shader.handlePaths.map (shader.place config) := by
  have locations (function : String) (names : List String) :
      assignedPlaces (names.map (shader.locationLine config function)) =
        names.map fun name => shader.place config [name] := by
    simp [assignedPlaces, locationLine, Line.target?, Function.comp_def,
      List.filterMap_map]
  rw [loadLines, assignedPlaces_append, assignedPlaces_append,
    assignedPlaces_append, locations, locations, assignedPlaces_gatedLines,
    handlePaths]
  simp [assignedPlaces, buildLine, Line.target?, programPlace,
    List.map_flatMap, Function.comp_def]

/-- The load function assigns each handle once, in the order of the struct. -/
theorem Catalog.assignedPlaces_loadLines (catalog : Catalog) :
    assignedPlaces (catalog.loadLines config) =
      catalog.handlePlaces config := by
  rw [loadLines, assignedPlaces_intercalate rfl, List.flatMap_map,
    handlePlaces]
  simp only [Shader.assignedPlaces_loadLines]

/-- The unload function deletes the program of each shader, in order. -/
theorem Catalog.performedArguments_unloadLines (catalog : Catalog) :
    performedArguments config.gl.deleteProgram (catalog.unloadLines config) =
      catalog.shaders.map fun shader =>
        [.place (shader.programPlace config)] := by
  simp [performedArguments, unloadLines, Shader.deleteLine,
    List.filterMap_map, Function.comp_def]

end Source

/-! ## Programs among the handles -/

/--
Whether a place is that of a program: three names, the last of which is
reserved.
-/
def isProgramPlace (place : Place) : Bool :=
  place.length == 3 && place.getLast? == some programMember

/-- The only program among the handles of a shader is its own. -/
theorem Shader.filter_handlePaths (config : Config) (shader : Shader) :
    (shader.handlePaths.map (shader.place config)).filter isProgramPlace =
      [shader.programPlace config] := by
  have fresh : programMember ∉ shader.fields :=
    (List.nodup_cons.1 shader.valid.areMembers.2).1
  have noField : ∀ name ∈ shader.attributes ++ shader.uniforms,
      isProgramPlace (shader.place config [name]) = false := by
    intro name member
    have other : name ≠ programMember := by
      rintro rfl
      exact fresh (List.mem_append_left _ member)
    simp [isProgramPlace, place, other]
  have noGroup (group handle : String) :
      isProgramPlace (shader.place config [group, handle]) = false := by
    simp [isProgramPlace, place]
  have program :
      isProgramPlace (shader.place config [programMember]) = true := by
    simp [isProgramPlace, place]
  rw [handlePaths, List.cons_append, List.map_cons,
    List.filter_cons_of_pos program]
  congr 1
  apply List.filter_eq_nil_iff.2
  intro place member
  rcases List.mem_map.1 member with ⟨path, pathMember, rfl⟩
  rcases List.mem_append.1 pathMember with field | inside
  · rcases List.mem_map.1 field with ⟨name, nameMember, rfl⟩
    simp [noField name nameMember]
  · rcases List.mem_flatMap.1 inside with ⟨group, _, handleMember⟩
    rcases List.mem_map.1 handleMember with ⟨handle, _, rfl⟩
    simp [noGroup]

/-- The programs among all handles are those of the shaders, in order. -/
theorem Catalog.filter_handlePlaces (config : Config) (catalog : Catalog) :
    (catalog.handlePlaces config).filter isProgramPlace =
      catalog.shaders.map (Shader.programPlace config) := by
  rw [handlePlaces, List.filter_flatMap, List.map_eq_flatMap]
  simp only [Shader.filter_handlePaths]

/-! ## The header and the source file agree -/

/-- The places of the handles that a struct gives to the global instance. -/
def Config.instancePlaces (config : Config) (members : List Member) :
    List Place :=
  (handles members).map (config.instanceName :: ·)

theorem Catalog.instancePlaces_members (config : Config) (catalog : Catalog) :
    config.instancePlaces (catalog.members config) =
      catalog.handlePlaces config :=
  catalog.handles_members config

theorem Catalog.isWellNamed_of_mem_handlePlaces {config : Config}
    (instanceNamed : isIdentifier config.instanceName = true)
    (catalog : Catalog) :
    ∀ place ∈ catalog.handlePlaces config, Place.IsWellNamed place := by
  intro place member
  rw [← instancePlaces_members, Config.instancePlaces] at member
  rcases List.mem_map.1 member with ⟨path, inside, rfl⟩
  have pathNamed := (catalog.structMembers_members
    config).isWellNamed_of_mem_handles path inside
  exact ⟨List.cons_ne_nil _ _,
    List.forall_mem_cons.2 ⟨instanceNamed, pathNamed.identifiers⟩⟩

/-- Different handles have places that are spelled differently. -/
theorem Catalog.nodup_text_handlePlaces {config : Config}
    (instanceNamed : isIdentifier config.instanceName = true)
    (catalog : Catalog) :
    ((catalog.handlePlaces config).map Place.text).Nodup := by
  have named := catalog.isWellNamed_of_mem_handlePlaces instanceNamed
  apply (catalog.handlePlaces_nodup config).map_on
  intro first firstMember second secondMember same
  exact (named first firstMember).eq_of_text_eq (named second secondMember)
    same

/-- What a struct and two functions say about the handles of a catalog. -/
structure Catalog.HandlesAgree (config : Config) (catalog : Catalog)
    (members : List Member) (load unload : List Line) : Prop where
  structMembers : StructMembers members
  /-- The load function assigns to the declared handles, in their order. -/
  assigned : assignedPlaces load = config.instancePlaces members
  /-- All handles are different, as they are spelled. -/
  distinct : ((config.instancePlaces members).map Place.text).Nodup
  /-- The unload function deletes the programs among the handles. -/
  deleted : performedArguments config.gl.deleteProgram unload =
    ((config.instancePlaces members).filter isProgramPlace).map
      fun place => [.place place]
  /-- There is one program for each shader. -/
  programs : (config.instancePlaces members).filter isProgramPlace =
    catalog.names.map fun name =>
      [config.instanceName, name, programMember]

/-- The lines of both files agree about the handles. -/
theorem Catalog.handlesAgree {config : Config}
    (instanceNamed : isIdentifier config.instanceName = true)
    (catalog : Catalog) :
    catalog.HandlesAgree config (catalog.members config)
      (catalog.loadLines config) (catalog.unloadLines config) := by
  have places := catalog.instancePlaces_members config
  have programs := catalog.filter_handlePlaces config
  constructor
  · exact catalog.structMembers_members config
  · rw [places]
    exact catalog.assignedPlaces_loadLines
  · rw [places]
    exact catalog.nodup_text_handlePlaces instanceNamed
  · rw [places, programs, catalog.performedArguments_unloadLines,
      List.map_map]
    rfl
  · rw [places, programs, names, List.map_map]
    rfl

/--
The header declares exactly the handles to which the source file assigns, in
the same order, as they are read from the texts of both.
-/
theorem Catalog.header_agrees_with_source {config : Config}
    (named : config.IsWellNamed)
    (handleNamed : isIdentifier config.gl.handleType = true)
    (catalog : Catalog) :
    ∃ members load unload,
      readTypedef config.typeName (cutLines (catalog.header config).toList) =
          some members ∧
        readFunctions (cutLines (catalog.source config).toList) =
          some
            [{ name := config.loadFunction, body := load },
              { name := config.unloadFunction, body := unload }] ∧
        catalog.HandlesAgree config members load unload :=
  ⟨catalog.members config, catalog.loadLines config,
    catalog.unloadLines config, catalog.readTypedef_header named handleNamed,
    catalog.readFunctions_source named,
    catalog.handlesAgree named.instanceName⟩

/-- For the built-in catalog, the two files agree. -/
theorem Catalog.builtin_header_agrees_with_source :
    ({} : Config).IsWellNamed ∧
      isIdentifier ({} : Config).gl.handleType = true ∧
      ∃ members load unload,
        readTypedef "Shaders" (cutLines (builtin.header {}).toList) =
            some members ∧
          readFunctions (cutLines (builtin.source {}).toList) =
            some
              [{ name := "shaders_load", body := load },
                { name := "shaders_unload", body := unload }] ∧
          builtin.HandlesAgree {} members load unload :=
  ⟨Config.isWellNamed_default, by decide,
    header_agrees_with_source Config.isWellNamed_default (by decide) builtin⟩

end ShaderBindings
