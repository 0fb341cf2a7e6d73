import ShaderBindings.Fault
import ShaderBindings.Identifier
import ShaderBindings.Shader.Draft

/-!
# Validity of drafts

All handles of a shader are members of one C struct: the program, then the
attributes, the uniforms and one inner struct per subroutine group.  A group's
handles are members of its inner struct: the location of its uniform, then one
index per variant.  A draft is valid when its name is an identifier, both of
its paths are present, and each of these structs has distinct identifiers for
its members.

`Draft.faults` lists every way in which a draft falls short of this, in the
order in which a reader of the draft meets them.  The main fact,
`Draft.faults_eq_nil_iff`, is that a draft without faults is a valid draft.
-/

namespace ShaderBindings

/-- The member that holds the handle of the linked program. -/
def programMember : String :=
  "program"

/-- The member that holds the location of a group's subroutine uniform. -/
def groupUniformMember : String :=
  "uniform"

/-- The members of one struct have distinct identifiers for their names. -/
def AreMembers (names : List String) : Prop :=
  (∀ name ∈ names, isIdentifier name = true) ∧ names.Nodup

instance (names : List String) : Decidable (AreMembers names) :=
  inferInstanceAs (Decidable (_ ∧ _))

/-- All members of the inner struct of a group. -/
def SubroutineGroup.members (group : SubroutineGroup) : List String :=
  groupUniformMember :: group.variants

namespace Draft

/-- The handles that a draft names in its own struct, each with its use. -/
def namedFields (draft : Draft) : List (NameRole × String) :=
  draft.attributes.map (fun name => (.attribute, name)) ++
    draft.uniforms.map (fun name => (.uniform, name)) ++
    draft.groups.map (fun group => (.subroutineGroup, group.name))

/-- The names of the handles in the draft's own struct. -/
def fields (draft : Draft) : List String :=
  draft.attributes ++ draft.uniforms ++ draft.groups.map (·.name)

/-- All members of the struct of a draft. -/
def members (draft : Draft) : List String :=
  programMember :: draft.fields

/-- What a draft has to meet before it describes a shader. -/
structure Valid (draft : Draft) : Prop where
  name_isIdentifier : isIdentifier draft.name = true
  path_ne_empty : ∀ stage ∈ Stage.all, draft.path stage ≠ ""
  areMembers : AreMembers draft.members
  areMembers_group : ∀ group ∈ draft.groups, AreMembers group.members

/-- The four rules of a valid draft. -/
theorem valid_iff (draft : Draft) :
    draft.Valid ↔
      isIdentifier draft.name = true ∧
        (∀ stage ∈ Stage.all, draft.path stage ≠ "") ∧
        AreMembers draft.members ∧
        ∀ group ∈ draft.groups, AreMembers group.members :=
  ⟨fun valid => ⟨valid.1, valid.2, valid.3, valid.4⟩,
    fun parts => ⟨parts.1, parts.2.1, parts.2.2.1, parts.2.2.2⟩⟩

instance (draft : Draft) : Decidable draft.Valid :=
  decidable_of_iff' _ draft.valid_iff

end Draft

/-! ## Faults of one struct -/

/--
What is wrong with one member, when `taken` are the members before it and
`repeated` is the fault of a name that is among them.  A name that is no
identifier is not looked up.
-/
def memberFault? (shader : String) (repeated : String → Fault)
    (taken : List String) (role : NameRole) (name : String) : Option Fault :=
  if isIdentifier name = false then
    some (.badIdentifier shader role name)
  else if name ∈ taken then
    some (repeated name)
  else
    none

/-- The faults of the members of one struct, from the first to the last. -/
def memberFaults (shader : String) (repeated : String → Fault) :
    List String → List (NameRole × String) → List Fault
  | _, [] => []
  | taken, (role, name) :: rest =>
      (memberFault? shader repeated taken role name).toList ++
        memberFaults shader repeated (name :: taken) rest

/-- A name is all right if it is an identifier and not taken. -/
theorem memberFault?_eq_none_iff (shader : String)
    (repeated : String → Fault) (taken : List String) (role : NameRole)
    (name : String) :
    memberFault? shader repeated taken role name = none ↔
      isIdentifier name = true ∧ name ∉ taken := by
  unfold memberFault?
  split
  · simp_all
  · split <;> simp_all

/--
Nothing is wrong with the members when they are identifiers, differ from each
other and from the names taken before.
-/
theorem memberFaults_eq_nil_iff (shader : String)
    (repeated : String → Fault) (taken : List String)
    (named : List (NameRole × String)) :
    memberFaults shader repeated taken named = [] ↔
      (∀ name ∈ named.map (·.2), isIdentifier name = true) ∧
        (named.map (·.2)).Nodup ∧
        ∀ name ∈ named.map (·.2), name ∉ taken := by
  induction named generalizing taken with
  | nil => simp [memberFaults]
  | cons first rest inductionHypothesis =>
      obtain ⟨role, name⟩ := first
      rw [memberFaults, List.append_eq_nil_iff, inductionHypothesis,
        Option.toList_eq_nil_iff, memberFault?_eq_none_iff]
      simp only [List.map_cons, List.forall_mem_cons, List.nodup_cons]
      simp only [List.mem_cons, not_or]
      constructor
      · rintro ⟨⟨identifier, fresh⟩, identifiers, distinct, apart⟩
        exact ⟨⟨identifier, identifiers⟩,
          ⟨fun again => (apart name again).1 rfl, distinct⟩,
          fresh, fun other member => (apart other member).2⟩
      · rintro ⟨⟨identifier, identifiers⟩, ⟨once, distinct⟩, fresh, apart⟩
        exact ⟨⟨identifier, fresh⟩, identifiers, distinct,
          fun other member =>
            ⟨fun same => once (same ▸ member), apart other member⟩⟩

/--
When the struct has a member of its own before all named ones, it has no
faults exactly if all its members together are members of one struct.
-/
theorem memberFaults_singleton_eq_nil_iff {shader : String}
    {repeated : String → Fault} {own : String}
    (identifier : isIdentifier own = true)
    (named : List (NameRole × String)) :
    memberFaults shader repeated [own] named = [] ↔
      AreMembers (own :: named.map (·.2)) := by
  rw [memberFaults_eq_nil_iff]
  simp only [AreMembers, List.forall_mem_cons, List.nodup_cons,
    List.mem_singleton]
  constructor
  · rintro ⟨identifiers, distinct, apart⟩
    exact ⟨⟨identifier, identifiers⟩,
      fun again => apart own again rfl, distinct⟩
  · rintro ⟨⟨_, identifiers⟩, once, distinct⟩
    exact ⟨identifiers, distinct, fun other member same =>
      once (same ▸ member)⟩

/-! ## Faults of a draft -/

namespace Draft

/-- The fault of a name that is no identifier. -/
def nameFaults (draft : Draft) : List Fault :=
  if isIdentifier draft.name then []
  else [.badIdentifier draft.name .shader draft.name]

/-- The faults of the stages that have no source. -/
def pathFaults (draft : Draft) : List Fault :=
  (Stage.all.filter fun stage => draft.path stage = "").map
    (.emptyPath draft.name)

/-- The faults of the members of the draft's own struct. -/
def fieldFaults (draft : Draft) : List Fault :=
  memberFaults draft.name (.duplicateField draft.name) [programMember]
    draft.namedFields

/-- The faults of the members of the struct of a group. -/
def groupFaults (draft : Draft) (group : SubroutineGroup) : List Fault :=
  memberFaults draft.name (.duplicateVariant draft.name group.name)
    [groupUniformMember]
    (group.variants.map fun variant => (.subroutine, variant))

/--
Everything that is wrong with a draft: first its name, then its paths, then
the members of its own struct, then those of each group's struct.
-/
def faults (draft : Draft) : List Fault :=
  draft.nameFaults ++ draft.pathFaults ++ draft.fieldFaults ++
    draft.groups.flatMap draft.groupFaults

theorem nameFaults_eq_nil_iff (draft : Draft) :
    draft.nameFaults = [] ↔ isIdentifier draft.name = true := by
  simp [nameFaults]

theorem pathFaults_eq_nil_iff (draft : Draft) :
    draft.pathFaults = [] ↔ ∀ stage ∈ Stage.all, draft.path stage ≠ "" := by
  simp [pathFaults]

@[simp]
theorem map_snd_namedFields (draft : Draft) :
    draft.namedFields.map (·.2) = draft.fields := by
  simp [namedFields, fields, Function.comp_def]

theorem fieldFaults_eq_nil_iff (draft : Draft) :
    draft.fieldFaults = [] ↔ AreMembers draft.members := by
  rw [fieldFaults, memberFaults_singleton_eq_nil_iff (by decide),
    map_snd_namedFields, members]

theorem groupFaults_eq_nil_iff (draft : Draft) (group : SubroutineGroup) :
    draft.groupFaults group = [] ↔ AreMembers group.members := by
  rw [groupFaults, memberFaults_singleton_eq_nil_iff (by decide)]
  simp [SubroutineGroup.members, Function.comp_def]

/-- A draft has no faults exactly when it is valid. -/
theorem faults_eq_nil_iff (draft : Draft) :
    draft.faults = [] ↔ draft.Valid := by
  simp only [faults, List.append_eq_nil_iff, nameFaults_eq_nil_iff,
    pathFaults_eq_nil_iff, fieldFaults_eq_nil_iff, List.flatMap_eq_nil_iff,
    groupFaults_eq_nil_iff, valid_iff, and_assoc]

end Draft

end ShaderBindings
