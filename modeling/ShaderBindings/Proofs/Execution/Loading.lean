import Mathlib.Data.List.Flatten
import ShaderBindings.Proofs.Bindings.Handles
import ShaderBindings.Proofs.Execution.Machine

/-!
# Running the generated functions

The load function is a row of assignments, some of which run only if
subroutines are supported.  They fill different cells, and each reads nothing
but the program of its own shader, which the first assignment of the shader
has filled.  So in the end every handle is what the catalog says, and no other
cell has changed.

The unload function deletes the programs in order and clears the instance.
Both facts are about the text of the source file: `Catalog.run_source`.
-/

namespace ShaderBindings

section Loading

variable {Handle : Type} (config : Config) (layer : Layer Handle)

/-- Are subroutines looked up? -/
def Config.supportsSubroutines : Bool :=
  layer.test config.gl.hasFeature [.constant config.gl.subroutineFeature]

namespace Shader

variable (shader : Shader)

/-- The cell of a handle of a shader. -/
def cell (path : List String) : String :=
  Place.text (shader.place config path)

/-- The statements that run. -/
def runLines (supported : Bool) : List Line :=
  shader.buildLine config ::
    (shader.locationLines config ++
      if supported then shader.groupedLines config else [])

/-- The assignments that load a shader. -/
def madeAssignments (supported : Bool) : List Assignment :=
  assignments (shader.runLines config supported)

/-- What the cells of a shader hold when it has been loaded. -/
structure IsLoaded (before after : Store Handle) : Prop where
  program :
    after (shader.cell config [programMember]) =
      layer.call config.gl.buildProgram
        [.text shader.vertexPath, .text shader.fragmentPath]
  attributes : ∀ name ∈ shader.attributes,
    after (shader.cell config [name]) =
      layer.call config.gl.attributeLocation
        [.handle (after (shader.cell config [programMember])), .text name]
  uniforms : ∀ name ∈ shader.uniforms,
    after (shader.cell config [name]) =
      layer.call config.gl.uniformLocation
        [.handle (after (shader.cell config [programMember])), .text name]
  groups : config.supportsSubroutines layer = true →
    ∀ group ∈ shader.groups,
      after (shader.cell config [group.name, groupUniformMember]) =
        layer.call config.gl.subroutineUniformLocation
          [.handle (after (shader.cell config [programMember])),
            .constant Stage.ofSubroutines.constant, .text group.name]
  variants : config.supportsSubroutines layer = true →
    ∀ group ∈ shader.groups, ∀ variant ∈ group.variants,
      after (shader.cell config [group.name, variant]) =
        layer.call config.gl.subroutineIndex
          [.handle (after (shader.cell config [programMember])),
            .constant Stage.ofSubroutines.constant, .text variant]
  unsupported : config.supportsSubroutines layer = false →
    ∀ group ∈ shader.groups, ∀ handle ∈ group.members,
      after (shader.cell config [group.name, handle]) =
        before (shader.cell config [group.name, handle])

end Shader

/-- The assignments of all shaders, one shader after the other. -/
def Catalog.madeAssignments (catalog : Catalog) (supported : Bool) :
    List Assignment :=
  catalog.shaders.flatMap fun shader =>
    shader.madeAssignments config supported

end Loading

/-! ## The load function makes its assignments -/

section Running

variable {Handle : Type} {config : Config} {layer : Layer Handle}

namespace Shader

theorem isAssignment_locationLines (shader : Shader) :
    ∀ line ∈ shader.locationLines config, line.IsAssignment := by
  intro line member
  simp only [locationLines, List.mem_append, List.mem_map] at member
  rcases member with ⟨name, _, rfl⟩ | ⟨name, _, rfl⟩
  · exact ⟨_, _, rfl⟩
  · exact ⟨_, _, rfl⟩

theorem isAssignment_groupedLines (shader : Shader) :
    ∀ line ∈ shader.groupedLines config, line.IsAssignment := by
  intro line member
  rcases List.mem_flatMap.1 member with ⟨group, _, inside⟩
  simp only [groupLines, List.mem_cons, List.mem_map] at inside
  rcases inside with rfl | ⟨variant, _, rfl⟩
  · exact ⟨_, _, rfl⟩
  · exact ⟨_, _, rfl⟩

/-- The assignments for subroutines are made where they are supported. -/
theorem run_gatedLines (shader : Shader) (store : Store Handle) :
    Machine.run layer { store } (shader.gatedLines config) =
      some
        { store := assignAll layer store
            (assignments (if config.supportsSubroutines layer then
              shader.groupedLines config else [])) } := by
  rw [gatedLines]
  split
  · rename_i empty
    have nothing : shader.groupedLines config = [] := by
      rw [groupedLines, List.isEmpty_iff.1 empty]
      rfl
    rw [nothing, ite_self]
    rfl
  · have opened : Machine.run layer { store }
        [.openIf config.subroutineGate] =
          some { store, tests := [config.supportsSubroutines layer] } := rfl
    rw [Machine.run_append, Machine.run_append, opened, Option.bind_some]
    cases supported : config.supportsSubroutines layer with
    | true =>
        rw [← groupedLines, Machine.run_of_isActive rfl
          shader.isAssignment_groupedLines]
        rfl
    | false =>
        rw [← groupedLines, Machine.run_of_not_isActive rfl
          shader.isAssignment_groupedLines]
        rfl

/-- Loading a shader makes its assignments and leaves all blocks. -/
theorem run_loadLines (shader : Shader) (store : Store Handle) :
    Machine.run layer { store } (shader.loadLines config) =
      some
        { store := assignAll layer store
            (shader.madeAssignments config
              (config.supportsSubroutines layer)) } := by
  have own : ∀ line ∈ shader.ungatedLines config, line.IsAssignment :=
    List.forall_mem_cons.2
      ⟨⟨_, _, rfl⟩, shader.isAssignment_locationLines⟩
  rw [loadLines_eq, Machine.run_append, Machine.run_of_isActive rfl own,
    Option.bind_some, run_gatedLines, madeAssignments, runLines,
    ← List.cons_append, assignments_append, assignAll_append]
  rfl

end Shader

/-- Blank lines between the shaders do nothing. -/
theorem Shader.run_intercalate_loadLines (shaders : List Shader)
    (store : Store Handle) :
    Machine.run layer { store }
        ([Line.blank].intercalate (shaders.map (loadLines config))) =
      some
        { store := assignAll layer store (shaders.flatMap fun shader =>
            shader.madeAssignments config
              (config.supportsSubroutines layer)) } := by
  induction shaders generalizing store with
  | nil => rfl
  | cons shader later inductionHypothesis =>
      cases later with
      | nil => simp [shader.run_loadLines]
      | cons next others =>
          have blank (after : Store Handle) :
              Machine.run layer { store := after } [.blank] =
                some { store := after } := rfl
          rw [List.map_cons, List.map_cons, List.intercalate_cons_cons,
            ← List.map_cons, Machine.run_append, Machine.run_append,
            shader.run_loadLines, Option.bind_some, blank,
            Option.bind_some, inductionHypothesis, ← assignAll_append]
          rfl

/-- The load function makes the assignments of all shaders. -/
theorem Catalog.run_loadLines (catalog : Catalog) (store : Store Handle) :
    Machine.run layer { store } (catalog.loadLines config) =
      some
        { store := assignAll layer store
            (catalog.madeAssignments config
              (config.supportsSubroutines layer)) } :=
  Shader.run_intercalate_loadLines catalog.shaders store

end Running

/-! ## What is assigned and read -/

section Cells

variable {config : Config}

/-- The assignments of lines are to the places assigned in them. -/
theorem assignedPlaces_eq_map (lines : List Line) :
    assignedPlaces lines = (assignments lines).map Assignment.target := by
  rw [assignedPlaces, assignments, List.map_filterMap]
  congr 1
  funext line
  cases line with
  | assign target value => rfl
  | _ => rfl

namespace Shader

/-- Every assignment is to a handle of the shader, to each at most once. -/
theorem sublist_target_madeAssignments (shader : Shader)
    (supported : Bool) :
    ((shader.madeAssignments config supported).map Assignment.target).Sublist
      (shader.handlePaths.map (shader.place config)) := by
  rw [madeAssignments, ← assignedPlaces_eq_map, ← assignedPlaces_loadLines]
  apply List.Sublist.filterMap
  have gated : (if supported then shader.groupedLines config else []).Sublist
      (shader.gatedLines config) := by
    cases supported with
    | false => exact List.nil_sublist _
    | true =>
        rw [if_pos rfl, groupedLines, gatedLines]
        split
        · rename_i empty
          rw [List.isEmpty_iff.1 empty]
          exact List.nil_sublist _
        · exact ((List.sublist_append_right _ _).trans
            (List.sublist_append_left _ _))
  exact gated.append_left
    (shader.buildLine config :: shader.locationLines config)

/-- All statements but the first read the program of the shader. -/
theorem reads_of_mem {shader : Shader} {supported : Bool}
    {assignment : Assignment}
    (member : assignment ∈ assignments (shader.locationLines config ++
      if supported then shader.groupedLines config else [])) :
    assignment.reads = [shader.cell config [programMember]] := by
  rw [mem_assignments_iff, List.mem_append] at member
  rcases assignment with ⟨target, value⟩
  rcases member with location | grouped
  · rcases List.mem_append.1 location with fromAttribute | fromUniform
    · rcases List.mem_map.1 fromAttribute with ⟨name, _, same⟩
      cases same
      rfl
    · rcases List.mem_map.1 fromUniform with ⟨name, _, same⟩
      cases same
      rfl
  · split at grouped
    · rcases List.mem_flatMap.1 grouped with ⟨group, _, inside⟩
      rcases List.mem_cons.1 inside with same | variantMember
      · cases same
        rfl
      · rcases List.mem_map.1 variantMember with ⟨variant, _, same⟩
        cases same
        rfl
    · cases grouped

/-- All that is read is the program of a shader, and it is assigned first. -/
theorem readsEarlier_madeAssignments (shader : Shader) (supported : Bool) :
    ReadsEarlier [] (shader.madeAssignments config supported) := by
  constructor
  · intro cell member
    cases member
  · apply ReadsEarlier.of_forall
    intro assignment member cell read
    rw [reads_of_mem member] at read
    exact read

end Shader

namespace Catalog

variable (config) in
theorem sublist_target_madeAssignments (catalog : Catalog)
    (supported : Bool) :
    ((catalog.madeAssignments config supported).map
        Assignment.target).Sublist (catalog.handlePlaces config) := by
  rw [madeAssignments, List.map_flatMap, handlePlaces]
  exact List.Sublist.flatMap_right _ fun shader _ =>
    shader.sublist_target_madeAssignments supported

theorem sublist_cell_madeAssignments (catalog : Catalog)
    (supported : Bool) :
    ((catalog.madeAssignments config supported).map
      Assignment.cell).Sublist
        ((catalog.handlePlaces config).map Place.text) := by
  have targets :=
    (catalog.sublist_target_madeAssignments config supported).map Place.text
  rw [List.map_map] at targets
  exact targets

theorem readsEarlier_madeAssignments (catalog : Catalog)
    (supported : Bool) :
    ReadsEarlier [] (catalog.madeAssignments config supported) :=
  .flatMap fun shader _ => shader.readsEarlier_madeAssignments supported

/-- Where subroutines are not supported, only handles in the structs of the
shaders themselves are assigned. -/
theorem length_of_mem_madeAssignments {catalog : Catalog}
    {assignment : Assignment}
    (member : assignment ∈ catalog.madeAssignments config false) :
    assignment.target.length = 3 := by
  rcases List.mem_flatMap.1 member with ⟨shader, _, inside⟩
  rw [Shader.madeAssignments, mem_assignments_iff, Shader.runLines,
    List.mem_cons, List.mem_append, Shader.locationLines,
    List.mem_append, List.mem_map, List.mem_map] at inside
  rcases assignment with ⟨target, value⟩
  rcases inside with same | (⟨name, _, same⟩ | ⟨name, _, same⟩) | grouped
  · cases same
    rfl
  · cases same
    rfl
  · cases same
    rfl
  · cases grouped

end Catalog

end Cells

/-! ## The functions do what the catalog says -/

section Functions

variable {Handle : Type} {config : Config} (named : config.IsWellNamed)
  (layer : Layer Handle) (catalog : Catalog) (store : Store Handle)

include named

/-- In the end each cell has the result of its call. -/
theorem Catalog.holds_of_mem_madeAssignments {supported : Bool} :
    ∀ assignment ∈ catalog.madeAssignments config supported,
      assignment.Holds layer (assignAll layer store
        (catalog.madeAssignments config supported)) := by
  have nodup := (catalog.sublist_cell_madeAssignments supported).nodup
    (catalog.nodup_text_handlePlaces named.instanceName)
  exact assignAll_holds nodup
    (catalog.readsEarlier_madeAssignments supported) store

/-- Handles of groups are not assigned without support for subroutines. -/
theorem Catalog.cell_group_notMem {shader : Shader}
    (shaderMember : shader ∈ catalog.shaders) {group : SubroutineGroup}
    (groupMember : group ∈ shader.groups) {handle : String}
    (handleMember : handle ∈ group.members) :
    shader.cell config [group.name, handle] ∉
      (catalog.madeAssignments config false).map Assignment.cell := by
  have wellNamed := catalog.isWellNamed_of_mem_handlePlaces named.instanceName
  have path : [group.name, handle] ∈ shader.handlePaths :=
    List.mem_append_right _ (List.mem_flatMap.2
      ⟨group, groupMember, List.mem_map_of_mem handleMember⟩)
  have place : shader.place config [group.name, handle] ∈
      catalog.handlePlaces config :=
    List.mem_flatMap.2 ⟨shader, shaderMember, List.mem_map_of_mem path⟩
  intro assigned
  rcases List.mem_map.1 assigned with ⟨assignment, member, same⟩
  have target : assignment.target ∈ catalog.handlePlaces config :=
    (catalog.sublist_target_madeAssignments config false).subset
      (List.mem_map_of_mem member)
  have samePlace := (wellNamed _ target).eq_of_text_eq (wellNamed _ place)
    same
  have length := length_of_mem_madeAssignments member
  rw [samePlace] at length
  cases length

/-- After the load function, every shader is loaded. -/
theorem Catalog.isLoaded_of_mem {shader : Shader}
    (shaderMember : shader ∈ catalog.shaders) :
    shader.IsLoaded config layer store
      (assignAll layer store (catalog.madeAssignments config
        (config.supportsSubroutines layer))) := by
  have holds {target : Place} {value : Call}
      (member : .assign target value ∈ shader.runLines config
        (config.supportsSubroutines layer)) :
      Assignment.Holds layer { target, value }
        (assignAll layer store (catalog.madeAssignments config
          (config.supportsSubroutines layer))) := by
    apply catalog.holds_of_mem_madeAssignments named layer store
    exact List.mem_flatMap.2
      ⟨shader, shaderMember, mem_assignments_iff.2 member⟩
  have location {line : Line} (member : line ∈ shader.locationLines config) :
      line ∈ shader.runLines config (config.supportsSubroutines layer) :=
    List.mem_cons_of_mem _ (List.mem_append_left _ member)
  have grouped (supported : config.supportsSubroutines layer = true)
      {group : SubroutineGroup} (groupMember : group ∈ shader.groups)
      {line : Line} (member : line ∈ shader.groupLines config group) :
      line ∈ shader.runLines config (config.supportsSubroutines layer) := by
    rw [supported]
    exact List.mem_cons_of_mem _ (List.mem_append_right _
      (List.mem_flatMap.2 ⟨group, groupMember, member⟩))
  constructor
  · exact holds List.mem_cons_self
  · intro name member
    have line := List.mem_map_of_mem member
      (f := shader.locationLine config config.gl.attributeLocation)
    exact holds (location (List.mem_append_left _ line))
  · intro name member
    have line := List.mem_map_of_mem member
      (f := shader.locationLine config config.gl.uniformLocation)
    exact holds (location (List.mem_append_right _ line))
  · intro supported group groupMember
    exact holds (grouped supported groupMember List.mem_cons_self)
  · intro supported group groupMember variant member
    have line := List.mem_map_of_mem member
      (f := fun variant => shader.subroutineLine config
        [group.name, variant] config.gl.subroutineIndex variant)
    exact holds (grouped supported groupMember
      (List.mem_cons_of_mem _ line))
  · intro unsupported group groupMember handle member
    rw [unsupported]
    exact assignAll_of_notMem (catalog.cell_group_notMem named shaderMember
      groupMember member) store

omit named in
/-- One program after the other is deleted. -/
theorem Shader.run_deleteLines (shaders : List Shader)
    (performed : List (String × List (Value Handle))) :
    Machine.run layer { store, performed }
        (shaders.map (deleteLine config)) =
      some
        { store
          performed := performed ++ shaders.map fun shader =>
            (config.gl.deleteProgram,
              [.handle (store (shader.cell config [programMember]))]) } := by
  induction shaders generalizing performed with
  | nil => simp [Machine.run]
  | cons shader later inductionHypothesis =>
      have first : Machine.step layer { store, performed }
          (shader.deleteLine config) =
            some
              { store
                performed := performed ++
                  [(config.gl.deleteProgram,
                    [.handle
                      (store (shader.cell config [programMember]))])] } :=
        rfl
      rw [List.map_cons, Machine.run, List.foldlM_cons, first,
        Option.bind_eq_bind, Option.bind_some, ← Machine.run,
        inductionHypothesis, List.append_assoc]
      rfl

omit named in
/-- All programs are deleted before their handles are cleared. -/
theorem Catalog.run_unloadLines :
    Machine.run layer { store } (catalog.unloadLines config) =
      some
        { store := store.clear layer.zero config.instanceName
          performed := catalog.shaders.map fun shader =>
            (config.gl.deleteProgram,
              [.handle (store (shader.cell config [programMember]))]) } := by
  rw [unloadLines, Machine.run_append, Shader.run_deleteLines]
  rfl

/--
Running the text of the source file does what the catalog says.  Whatever the
functions do that it calls, and whatever the store is, the load function loads
every shader and leaves all other cells as they are; the unload function
deletes the program of every shader in order, sets every handle to zero and
leaves all cells outside of the instance as they are.
-/
theorem Catalog.run_source
    (apart : config.loadFunction ≠ config.unloadFunction) :
    (∃ loaded,
      runFunction layer (catalog.source config) config.loadFunction store =
          some { store := loaded } ∧
        (∀ shader ∈ catalog.shaders,
          shader.IsLoaded config layer store loaded) ∧
        ∀ cell, cell ∉ (catalog.handlePlaces config).map Place.text →
          loaded cell = store cell) ∧
      ∃ unloaded,
        runFunction layer (catalog.source config) config.unloadFunction
            store =
          some
            { store := unloaded
              performed := catalog.shaders.map fun shader =>
                (config.gl.deleteProgram,
                  [.handle (store (shader.cell config [programMember]))]) } ∧
          (∀ place ∈ catalog.handlePlaces config,
            unloaded (Place.text place) = layer.zero) ∧
          ∀ cell, isWithin config.instanceName cell = false →
            unloaded cell = store cell := by
  constructor
  · refine ⟨assignAll layer store (catalog.madeAssignments config
      (config.supportsSubroutines layer)), ?_, ?_, ?_⟩
    · rw [runFunction, catalog.readFunctions_source named]
      simp [catalog.run_loadLines]
    · intro shader member
      exact catalog.isLoaded_of_mem named layer store member
    · intro cell outside
      apply assignAll_of_notMem
      intro assigned
      exact outside
        ((catalog.sublist_cell_madeAssignments _).subset assigned)
  · refine ⟨store.clear layer.zero config.instanceName, ?_, ?_, ?_⟩
    · rw [runFunction, catalog.readFunctions_source named]
      simp [apart, catalog.run_unloadLines]
    · intro place member
      rcases List.mem_flatMap.1 member with ⟨shader, _, inside⟩
      rcases List.mem_map.1 inside with ⟨path, _, rfl⟩
      exact store.clear_text layer.zero config.instanceName _
    · intro cell outside
      exact store.clear_of_not_isWithin layer.zero outside

end Functions

/-- With handles that are the names of the functions that have given them, the
built-in shaders have all programs and attributes from the right ones. -/
theorem Catalog.builtin_run_source :
    ({} : Config).IsWellNamed ∧
      ({} : Config).loadFunction ≠ ({} : Config).unloadFunction ∧
      ∃ loaded,
        runFunction { call := fun name _ => name, test := fun _ _ => true
                      zero := "" }
            (builtin.source {}) "shaders_load" (fun _ => "") =
          some { store := loaded } ∧
        ∀ shader ∈ builtin.shaders,
          loaded (shader.cell {} [programMember]) = "gl_program_vert_frag" ∧
            ∀ name ∈ shader.attributes,
              loaded (shader.cell {} [name]) = "glGetAttribLocation" := by
  have apart : ({} : Config).loadFunction ≠ ({} : Config).unloadFunction := by
    decide
  refine ⟨Config.isWellNamed_default, apart, ?_⟩
  rcases (Catalog.run_source Config.isWellNamed_default
    { call := fun name _ => name, test := fun _ _ => true, zero := "" }
    builtin (fun _ => "") apart).1 with ⟨loaded, run, shaders, _⟩
  exact ⟨loaded, run, fun shader member =>
    ⟨(shaders shader member).program, (shaders shader member).attributes⟩⟩

end ShaderBindings
