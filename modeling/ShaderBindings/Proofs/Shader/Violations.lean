import Mathlib.Data.List.Basic
import Mathlib.Data.List.Lex
import ShaderBindings.Proofs.Shader.Assembly
import ShaderBindings.Shader.Basic

/-!
# The first violation of a draft

Each rule for a draft is about one place in it: the name, one of the paths,
one of the fields or one of the variants of a group.  `Draft.Violation` says
which fault a place has, without regard to all other places but those that can
take a name away, and `Site.Precedes` says in which order the places are read.

The main theorem, `Draft.build_extendAll`, is that a draft becomes a shader
exactly when it meets all rules, that the shader says what the draft says, and
that otherwise the fault is that of the first place which has one.
-/

namespace ShaderBindings

/-! ## Acceptable drafts -/

/-- All rules for a draft. -/
structure Draft.Acceptable (draft : Draft) : Prop where
  name_isIdentifier : isIdentifier draft.name = true
  vertexPath_ne_empty : draft.vertexPath ≠ ""
  fragmentPath_ne_empty : draft.fragmentPath ≠ ""
  fields_areIdentifiers : ∀ field ∈ draft.fields, isIdentifier field = true
  fields_nodup : draft.fields.Nodup
  programMember_notMem : programMember ∉ draft.fields
  variants_areIdentifiers : ∀ group ∈ draft.groups,
    ∀ variant ∈ group.variants, isIdentifier variant = true
  variants_nodup : ∀ group ∈ draft.groups, group.variants.Nodup
  groupUniformMember_notMem :
    ∀ group ∈ draft.groups, groupUniformMember ∉ group.variants

/-- Members are acceptable next to a name of their own that none of them has. -/
theorem areMembers_cons_iff {own : String}
    (identifier : isIdentifier own = true) (names : List String) :
    AreMembers (own :: names) ↔
      (∀ name ∈ names, isIdentifier name = true) ∧ names.Nodup ∧
        own ∉ names := by
  rw [AreMembers, List.forall_mem_cons, List.nodup_cons]
  constructor
  · rintro ⟨⟨_, identifiers⟩, fresh, distinct⟩
    exact ⟨identifiers, distinct, fresh⟩
  · rintro ⟨identifiers, distinct, fresh⟩
    exact ⟨⟨identifier, identifiers⟩, fresh, distinct⟩

/-- The rules, as they are told, are those that are checked. -/
theorem Draft.acceptable_iff_valid (draft : Draft) :
    draft.Acceptable ↔ draft.Valid := by
  have program : isIdentifier programMember = true := by decide
  have uniform : isIdentifier groupUniformMember = true := by decide
  constructor
  · intro acceptable
    constructor
    · exact acceptable.name_isIdentifier
    · rintro (_ | _) _
      · exact acceptable.vertexPath_ne_empty
      · exact acceptable.fragmentPath_ne_empty
    · exact (areMembers_cons_iff program _).2
        ⟨acceptable.fields_areIdentifiers, acceptable.fields_nodup,
          acceptable.programMember_notMem⟩
    · intro group member
      exact (areMembers_cons_iff uniform _).2
        ⟨acceptable.variants_areIdentifiers group member,
          acceptable.variants_nodup group member,
          acceptable.groupUniformMember_notMem group member⟩
  · intro valid
    have fields := (areMembers_cons_iff program _).1 valid.areMembers
    have variants (group : SubroutineGroup) (member : group ∈ draft.groups) :=
      (areMembers_cons_iff uniform _).1 (valid.areMembers_group group member)
    constructor
    · exact valid.name_isIdentifier
    · exact valid.path_ne_empty .vertex (Stage.mem_all _)
    · exact valid.path_ne_empty .fragment (Stage.mem_all _)
    · exact fields.1
    · exact fields.2.1
    · exact fields.2.2
    · exact fun group member => (variants group member).1
    · exact fun group member => (variants group member).2.1
    · exact fun group member => (variants group member).2.2

instance (draft : Draft) : Decidable draft.Acceptable :=
  decidable_of_iff' _ draft.acceptable_iff_valid

/-! ## Places and their faults -/

/-- A place in a draft that a rule is about. -/
inductive Site where
  | name
  | path (stage : Stage)
  /-- An attribute, a uniform or the name of a group, counted in this order. -/
  | field (position : Nat)
  /-- A variant of a group, both counted from the first one. -/
  | variant (group position : Nat)
deriving DecidableEq

namespace Site

/-- The numbers by which places are compared, the first one first. -/
def rank : Site → List Nat
  | .name => [0]
  | .path .vertex => [1]
  | .path .fragment => [2]
  | .field position => [3, position]
  | .variant group position => [4, group, position]

/-- The order in which the places of a draft are read. -/
def Precedes (first second : Site) : Prop :=
  first.rank < second.rank

end Site

namespace Draft

/--
A place of a draft has a fault.  A name that is no identifier is not compared
with other names; an identifier is compared with those in front of it.
-/
inductive Violation (draft : Draft) : Site → Fault → Prop where
  | name (bad : isIdentifier draft.name = false) :
      Violation draft .name (.badIdentifier draft.name .shader draft.name)
  | path {stage : Stage} (empty : draft.path stage = "") :
      Violation draft (.path stage) (.emptyPath draft.name stage)
  | badField {position : Nat} {role : NameRole} {field : String}
      (found : draft.namedFields[position]? = some (role, field))
      (bad : isIdentifier field = false) :
      Violation draft (.field position)
        (.badIdentifier draft.name role field)
  | repeatedField {position : Nat} {role : NameRole} {field : String}
      (found : draft.namedFields[position]? = some (role, field))
      (identifier : isIdentifier field = true)
      (taken : field ∈ programMember :: draft.fields.take position) :
      Violation draft (.field position) (.duplicateField draft.name field)
  | badVariant {index position : Nat} {group : SubroutineGroup}
      {variant : String} (foundGroup : draft.groups[index]? = some group)
      (found : group.variants[position]? = some variant)
      (bad : isIdentifier variant = false) :
      Violation draft (.variant index position)
        (.badIdentifier draft.name .subroutine variant)
  | repeatedVariant {index position : Nat} {group : SubroutineGroup}
      {variant : String} (foundGroup : draft.groups[index]? = some group)
      (found : group.variants[position]? = some variant)
      (identifier : isIdentifier variant = true)
      (taken : variant ∈ groupUniformMember :: group.variants.take position) :
      Violation draft (.variant index position)
        (.duplicateVariant draft.name group.name variant)

/-- A fault that some place has, and no place in front of it has any. -/
def FirstViolation (draft : Draft) (fault : Fault) : Prop :=
  ∃ site, draft.Violation site fault ∧
    ∀ earlier other, earlier.Precedes site → ¬draft.Violation earlier other

end Draft

/-! ## The faults of one struct, place by place -/

/-- What is wrong with the member at a position of a list. -/
def memberFaultAt? (shader : String) (repeated : String → Fault)
    (taken : List String) (named : List (NameRole × String))
    (position : Nat) : Option Fault :=
  named[position]?.bind fun (role, name) =>
    memberFault? shader repeated
      (taken ++ (named.take position).map (·.2)) role name

section Members

variable {shader : String} {repeated : String → Fault}

theorem memberFault?_congr {first second : List String} {name : String}
    (same : name ∈ first ↔ name ∈ second) (role : NameRole) :
    memberFault? shader repeated first role name =
      memberFault? shader repeated second role name := by
  simp only [memberFault?, same]

/-- What is wrong with one name: its form, or else that it is taken. -/
theorem memberFault?_eq_some_iff {taken : List String} {role : NameRole}
    {name : String} {fault : Fault} :
    memberFault? shader repeated taken role name = some fault ↔
      (isIdentifier name = false ∧ fault = .badIdentifier shader role name) ∨
        (isIdentifier name = true ∧ name ∈ taken ∧ fault = repeated name) := by
  cases identifier : isIdentifier name with
  | false => simp [memberFault?, identifier, eq_comm (a := fault)]
  | true =>
      by_cases again : name ∈ taken
      · simp [memberFault?, identifier, again, eq_comm (a := fault)]
      · simp [memberFault?, identifier, again]

/-- What is wrong at one place of a struct, given the names in front of it. -/
theorem memberFaultAt?_eq_some_iff {taken : List String}
    {named : List (NameRole × String)} {position : Nat} {fault : Fault} :
    memberFaultAt? shader repeated taken named position = some fault ↔
      ∃ role name, named[position]? = some (role, name) ∧
        ((isIdentifier name = false ∧
            fault = .badIdentifier shader role name) ∨
          (isIdentifier name = true ∧
            name ∈ taken ++ (named.take position).map (·.2) ∧
            fault = repeated name)) := by
  simp only [memberFaultAt?, Option.bind_eq_some_iff, Prod.exists,
    memberFault?_eq_some_iff]

/-- Behind the first member, it counts as one that was taken before. -/
theorem memberFaultAt?_cons_succ (taken : List String)
    (first : NameRole × String) (rest : List (NameRole × String))
    (position : Nat) :
    memberFaultAt? shader repeated taken (first :: rest) (position + 1) =
      memberFaultAt? shader repeated (first.2 :: taken) rest position := by
  simp only [memberFaultAt?, List.getElem?_cons_succ, List.take_succ_cons,
    List.map_cons]
  congr 1
  funext (role, name)
  apply memberFault?_congr
  simp only [List.mem_append, List.mem_cons]
  rw [or_left_comm, or_assoc]

/-- The faults of a struct are those of its positions, in order. -/
theorem memberFaults_eq_filterMap (taken : List String)
    (named : List (NameRole × String)) :
    memberFaults shader repeated taken named =
      (List.range named.length).filterMap
        (memberFaultAt? shader repeated taken named) := by
  induction named generalizing taken with
  | nil => rfl
  | cons first rest inductionHypothesis =>
      obtain ⟨role, name⟩ := first
      have atFirst :
          memberFaultAt? shader repeated taken ((role, name) :: rest) 0 =
            memberFault? shader repeated taken role name := by
        simp [memberFaultAt?]
      rw [memberFaults, inductionHypothesis, List.length_cons,
        List.range_succ_eq_map]
      simp only [List.filterMap_eq_flatMap_toList, List.flatMap_cons, atFirst,
        List.flatMap_map, Nat.succ_eq_add_one, memberFaultAt?_cons_succ]

end Members

/-! ## The faults of a draft, place by place -/

namespace Draft

/-- What is wrong at a place of a draft. -/
def faultAt? (draft : Draft) : Site → Option Fault
  | .name =>
      if isIdentifier draft.name then none
      else some (.badIdentifier draft.name .shader draft.name)
  | .path stage =>
      if draft.path stage = "" then some (.emptyPath draft.name stage)
      else none
  | .field position =>
      memberFaultAt? draft.name (.duplicateField draft.name) [programMember]
        draft.namedFields position
  | .variant index position =>
      draft.groups[index]?.bind fun group =>
        memberFaultAt? draft.name (.duplicateVariant draft.name group.name)
          [groupUniformMember]
          (group.variants.map fun variant => (.subroutine, variant)) position

theorem take_fields (draft : Draft) (position : Nat) :
    (draft.namedFields.take position).map (·.2) =
      draft.fields.take position := by
  rw [List.map_take, map_snd_namedFields]

/-- A violation is the fault that is found at its place. -/
theorem violation_iff (draft : Draft) (site : Site) (fault : Fault) :
    draft.Violation site fault ↔ draft.faultAt? site = some fault := by
  constructor
  · rintro (bad | empty | ⟨found, bad⟩ | ⟨found, identifier, taken⟩ |
      ⟨foundGroup, found, bad⟩ | ⟨foundGroup, found, identifier, taken⟩)
    · simp [faultAt?, bad]
    · simp [faultAt?, empty]
    · exact memberFaultAt?_eq_some_iff.2
        ⟨_, _, found, Or.inl ⟨bad, rfl⟩⟩
    · rw [← take_fields] at taken
      exact memberFaultAt?_eq_some_iff.2
        ⟨_, _, found, Or.inr ⟨identifier, taken, rfl⟩⟩
    · rw [faultAt?, foundGroup, Option.bind_some]
      refine memberFaultAt?_eq_some_iff.2 ⟨_, _, ?_, Or.inl ⟨bad, rfl⟩⟩
      rw [List.getElem?_map, found, Option.map_some]
    · rw [faultAt?, foundGroup, Option.bind_some]
      refine memberFaultAt?_eq_some_iff.2
        ⟨.subroutine, _, ?_, Or.inr ⟨identifier, ?_, rfl⟩⟩
      · rw [List.getElem?_map, found, Option.map_some]
      · simpa [List.map_take, Function.comp_def] using taken
  · intro atSite
    cases site with
    | name =>
        simp only [faultAt?] at atSite
        split at atSite
        · cases atSite
        · cases atSite
          exact .name (by simp_all)
    | path stage =>
        simp only [faultAt?] at atSite
        split at atSite
        · cases atSite
          exact .path ‹_›
        · cases atSite
    | field position =>
        obtain ⟨role, field, found, ⟨bad, rfl⟩ | ⟨identifier, taken, rfl⟩⟩ :=
          memberFaultAt?_eq_some_iff.1 atSite
        · exact .badField found bad
        · rw [take_fields] at taken
          exact .repeatedField found identifier taken
    | variant index position =>
        obtain ⟨group, foundGroup, atPosition⟩ :=
          Option.bind_eq_some_iff.1 atSite
        obtain ⟨role, variant, found, problem⟩ :=
          memberFaultAt?_eq_some_iff.1 atPosition
        rw [List.getElem?_map, Option.map_eq_some_iff] at found
        obtain ⟨_, found, same⟩ := found
        cases same
        obtain ⟨bad, rfl⟩ | ⟨identifier, taken, rfl⟩ := problem
        · exact .badVariant foundGroup found bad
        · refine .repeatedVariant foundGroup found identifier ?_
          simpa [List.map_take, Function.comp_def] using taken

/-- All places of a draft, in the order in which they are read. -/
def sites (draft : Draft) : List Site :=
  [.name] ++ Stage.all.map .path ++
    (List.range draft.namedFields.length).map .field ++
    draft.groups.zipIdx.flatMap fun (group, index) =>
      (List.range group.variants.length).map (.variant index)

/-- The faults of a draft are found place by place. -/
theorem faults_eq_filterMap (draft : Draft) :
    draft.faults = draft.sites.filterMap draft.faultAt? := by
  have name : [Site.name].filterMap draft.faultAt? = draft.nameFaults := by
    cases identifier : isIdentifier draft.name <;>
      simp [faultAt?, nameFaults, identifier]
  have paths :
      (Stage.all.map Site.path).filterMap draft.faultAt? =
        draft.pathFaults := by
    rw [pathFaults, List.filterMap_map, ← List.filterMap_eq_map,
      List.filterMap_filter]
    simp [Function.comp_def, faultAt?]
  have fields :
      ((List.range draft.namedFields.length).map Site.field).filterMap
          draft.faultAt? = draft.fieldFaults := by
    rw [fieldFaults, memberFaults_eq_filterMap, List.filterMap_map]
    rfl
  have group {group : SubroutineGroup} {index : Nat}
      (found : draft.groups[index]? = some group) :
      ((List.range group.variants.length).map
          (Site.variant index)).filterMap draft.faultAt? =
        draft.groupFaults group := by
    rw [groupFaults, memberFaults_eq_filterMap, List.filterMap_map,
      List.length_map]
    congr 1
    funext position
    simp [faultAt?, found]
  have groups :
      (draft.groups.zipIdx.flatMap fun (group, index) =>
          (List.range group.variants.length).map
            (Site.variant index)).filterMap draft.faultAt? =
        draft.groups.flatMap draft.groupFaults := by
    conv_rhs => rw [← List.zipIdx_map_fst 0 draft.groups, List.flatMap_map]
    rw [List.filterMap_flatMap]
    exact List.flatMap_congr fun _ member =>
      group (List.mem_zipIdx_iff_getElem?.1 member)
  rw [sites, List.filterMap_append, List.filterMap_append,
    List.filterMap_append, name, paths, fields, groups, faults]

/-- The places are visited in their order. -/
theorem pairwise_precedes_sites (draft : Draft) :
    draft.sites.Pairwise Site.Precedes := by
  have start : ([Site.name] ++ Stage.all.map Site.path).Pairwise
      Site.Precedes := by
    simp [Stage.all, Site.Precedes, Site.rank, List.cons_lt_cons_iff]
  have fields : ((List.range draft.namedFields.length).map
      Site.field).Pairwise Site.Precedes :=
    List.pairwise_map.2 (List.pairwise_lt_range.imp fun less => by
      simpa [Site.Precedes, Site.rank, List.cons_lt_cons_iff] using less)
  have inGroup (index count : Nat) :
      ((List.range count).map (Site.variant index)).Pairwise Site.Precedes :=
    List.pairwise_map.2 (List.pairwise_lt_range.imp fun less => by
      simpa [Site.Precedes, Site.rank, List.cons_lt_cons_iff] using less)
  have indices : draft.groups.zipIdx.Pairwise (·.2 < ·.2) := by
    rw [← List.pairwise_map, List.zipIdx_map_snd]
    exact List.pairwise_lt_range' 1
  rw [sites, List.pairwise_append, List.pairwise_append,
    List.pairwise_flatMap]
  refine ⟨⟨start, fields, ?_⟩, ⟨fun _ _ => inGroup _ _, ?_⟩, ?_⟩
  · simp [Stage.all, Site.Precedes, Site.rank, List.cons_lt_cons_iff]
  · refine indices.imp fun less => ?_
    simp [Site.Precedes, Site.rank, List.cons_lt_cons_iff, less]
  · intro early earlyMember late lateMember
    obtain ⟨_, _, inside⟩ := List.mem_flatMap.1 lateMember
    obtain ⟨position, _, rfl⟩ := List.mem_map.1 inside
    simp only [Stage.all, List.mem_append, List.mem_cons, List.mem_map,
      List.not_mem_nil, or_false] at earlyMember
    rcases earlyMember with (rfl | ⟨_, rfl | rfl, rfl⟩) | ⟨_, _, rfl⟩ <;>
      simp [Site.Precedes, Site.rank, List.cons_lt_cons_iff]

/-- Every violation is at one of the places. -/
theorem mem_sites_of_violation {draft : Draft} {site : Site} {fault : Fault}
    (violation : draft.Violation site fault) : site ∈ draft.sites := by
  have field {position : Nat} {named : NameRole × String}
      (found : draft.namedFields[position]? = some named) :
      .field position ∈ draft.sites := by
    have bound := (List.getElem?_eq_some_iff.1 found).1
    simp [sites, bound]
  have variant {index position : Nat} {group : SubroutineGroup} {name : String}
      (foundGroup : draft.groups[index]? = some group)
      (found : group.variants[position]? = some name) :
      .variant index position ∈ draft.sites := by
    have bound := (List.getElem?_eq_some_iff.1 found).1
    refine List.mem_append_right _ (List.mem_flatMap.2
      ⟨(group, index), List.mem_zipIdx_iff_getElem?.2 foundGroup, ?_⟩)
    simp [bound]
  cases violation with
  | name => simp [sites]
  | @path stage => simp [sites, Stage.mem_all]
  | badField found => exact field found
  | repeatedField found => exact field found
  | badVariant foundGroup found => exact variant foundGroup found
  | repeatedVariant foundGroup found => exact variant foundGroup found

/-- The first fault that is found is the first violation. -/
theorem head?_faults_eq_some_iff (draft : Draft) (fault : Fault) :
    draft.faults.head? = some fault ↔ draft.FirstViolation fault := by
  have ordered := draft.pairwise_precedes_sites
  rw [faults_eq_filterMap, List.head?_filterMap, List.findSome?_eq_some_iff]
  constructor
  · rintro ⟨before, site, behind, split, atSite, clean⟩
    refine ⟨site, (draft.violation_iff site fault).2 atSite, ?_⟩
    intro earlier other precedes violation
    have member := mem_sites_of_violation violation
    rw [split, List.pairwise_append, List.pairwise_cons] at ordered
    rw [split, List.mem_append, List.mem_cons] at member
    rcases member with inFront | rfl | late
    · rw [violation_iff, clean earlier inFront] at violation
      cases violation
    · exact lt_irrefl _ precedes
    · exact lt_asymm precedes (ordered.2.1.1 earlier late)
  · rintro ⟨site, violation, clean⟩
    obtain ⟨before, behind, split⟩ :=
      List.append_of_mem (mem_sites_of_violation violation)
    refine ⟨before, site, behind, split, (draft.violation_iff _ _).1 violation,
      fun earlier inFront => ?_⟩
    rw [split, List.pairwise_append] at ordered
    have precedes := ordered.2.2 earlier inFront site List.mem_cons_self
    rw [Option.eq_none_iff_forall_ne_some]
    intro other atEarlier
    exact clean earlier other precedes
      ((draft.violation_iff earlier other).2 atEarlier)

/-- A draft becomes a shader exactly when it meets all rules. -/
theorem exists_build_eq_ok_iff (draft : Draft) :
    (∃ shader, draft.build = .ok shader) ↔ draft.Acceptable := by
  rw [acceptable_iff_valid, exists_build_eq_ok_iff_valid]

/--
Whatever is added to a draft in whatever order, the draft of all that becomes
a shader exactly when it meets all rules; the shader then has the name, the
paths and the three lists; and otherwise the fault is the first one.
-/
theorem build_extendAll (name vertexPath fragmentPath : String)
    (edits : List Edit) :
    ((∃ shader, (extendAll { name, vertexPath, fragmentPath } edits).build =
          .ok shader) ↔
        (assembled name vertexPath fragmentPath edits).Acceptable) ∧
      (∀ shader, (extendAll { name, vertexPath, fragmentPath } edits).build =
          .ok shader ↔
        shader.toDraft = assembled name vertexPath fragmentPath edits) ∧
      ∀ fault, (extendAll { name, vertexPath, fragmentPath } edits).build =
          .error fault ↔
        (assembled name vertexPath fragmentPath edits).FirstViolation
          fault := by
  rw [extendAll_eq_assembled]
  refine ⟨exists_build_eq_ok_iff _, build_eq_ok_iff _, fun fault => ?_⟩
  rw [build_eq_error_iff, head?_faults_eq_some_iff]

/-- A field is read before all variants, no matter which was added first. -/
example :
    (extendAll { name := "sky", vertexPath := "a", fragmentPath := "b" }
      [.subroutine { name := "blend", variants := ["1st"] },
        .uniforms ["program"]]).build =
      .error (.duplicateField "sky" "program") := by
  rfl

end Draft

end ShaderBindings
