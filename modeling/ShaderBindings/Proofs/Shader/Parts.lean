import Mathlib.Data.List.Forall2
import ShaderBindings.Proofs.Shader.Assembly
import ShaderBindings.Shader.Basic

/-!
# Parts of a draft

A draft is a part of another one when it has the same name and paths and can
be had from the other by dropping attributes, uniforms, groups and variants.
What a draft was before some additions is a part of what it is behind them.

All rules for a draft are about single names or about two names of one list,
so that a part of a valid draft is valid: `Draft.Valid.of_isPartOf`.  It makes
no difference that the checks share the names they have seen and that each
addition moves all that is checked behind it.
-/

namespace ShaderBindings

/-- A group is left of another one when variants are dropped. -/
def SubroutineGroup.IsPartOf (group whole : SubroutineGroup) : Prop :=
  group.name = whole.name ∧ group.variants.Sublist whole.variants

namespace SubroutineGroup.IsPartOf

variable {group whole : SubroutineGroup}

theorem refl (group : SubroutineGroup) : group.IsPartOf group :=
  ⟨rfl, List.Sublist.refl _⟩

theorem sublist_members (part : group.IsPartOf whole) :
    group.members.Sublist whole.members :=
  part.2.cons_cons groupUniformMember

end SubroutineGroup.IsPartOf

instance : Std.Refl SubroutineGroup.IsPartOf :=
  ⟨SubroutineGroup.IsPartOf.refl⟩

namespace SubroutineGroup

variable {groups whole : List SubroutineGroup}

/-- Each of the groups that are left is part of one that was there. -/
theorem exists_isPartOf_of_mem
    (parts : List.SublistForall₂ IsPartOf groups whole)
    {group : SubroutineGroup} (member : group ∈ groups) :
    ∃ other ∈ whole, group.IsPartOf other := by
  induction parts with
  | nil => cases member
  | cons part _ inductionHypothesis =>
      rcases List.mem_cons.1 member with rfl | later
      · exact ⟨_, List.mem_cons_self, part⟩
      · obtain ⟨other, otherMember, otherPart⟩ := inductionHypothesis later
        exact ⟨other, List.mem_cons_of_mem _ otherMember, otherPart⟩
  | cons_right _ inductionHypothesis =>
      obtain ⟨other, otherMember, otherPart⟩ := inductionHypothesis member
      exact ⟨other, List.mem_cons_of_mem _ otherMember, otherPart⟩

/-- The names of the groups that are left keep their order. -/
theorem sublist_names
    (parts : List.SublistForall₂ IsPartOf groups whole) :
    (groups.map (·.name)).Sublist (whole.map (·.name)) := by
  induction parts with
  | nil => exact List.nil_sublist _
  | cons part _ inductionHypothesis =>
      rw [List.map_cons, List.map_cons, part.1]
      exact inductionHypothesis.cons_cons _
  | cons_right _ inductionHypothesis => exact inductionHypothesis.cons _

end SubroutineGroup

namespace Draft

/-- A draft is left of another one when names and groups are dropped. -/
structure IsPartOf (draft whole : Draft) : Prop where
  name_eq : draft.name = whole.name
  path_eq : ∀ stage, draft.path stage = whole.path stage
  attributes : draft.attributes.Sublist whole.attributes
  uniforms : draft.uniforms.Sublist whole.uniforms
  groups :
    List.SublistForall₂ SubroutineGroup.IsPartOf draft.groups whole.groups

namespace IsPartOf

variable {draft whole : Draft}

/-- Additions leave all in place that was there before. -/
theorem extendAll (draft : Draft) (edits : List Edit) :
    draft.IsPartOf (draft.extendAll edits) := by
  rw [extendAll_eq]
  refine ⟨rfl, fun stage => ?_, ?_, ?_, ?_⟩
  · cases stage <;> rfl
  · exact List.sublist_append_left _ _
  · exact List.sublist_append_left _ _
  · exact (List.sublist_append_left _ _).sublistForall₂

/-- The members of a part are some of those of the whole. -/
theorem sublist_members (part : draft.IsPartOf whole) :
    draft.members.Sublist whole.members :=
  ((part.attributes.append part.uniforms).append
    (SubroutineGroup.sublist_names part.groups)).cons_cons programMember

end IsPartOf

end Draft

/-- What is left of acceptable members is acceptable. -/
theorem AreMembers.of_sublist {names whole : List String}
    (members : AreMembers whole) (sublist : names.Sublist whole) :
    AreMembers names :=
  ⟨fun name member => members.1 name (sublist.subset member),
    members.2.sublist sublist⟩

namespace Draft

/-- What is left of a valid draft is valid. -/
theorem Valid.of_isPartOf {draft whole : Draft} (valid : whole.Valid)
    (part : draft.IsPartOf whole) : draft.Valid where
  name_isIdentifier := part.name_eq ▸ valid.name_isIdentifier
  path_ne_empty := fun stage member =>
    part.path_eq stage ▸ valid.path_ne_empty stage member
  areMembers := valid.areMembers.of_sublist part.sublist_members
  areMembers_group := by
    intro group member
    obtain ⟨other, otherMember, groupPart⟩ :=
      SubroutineGroup.exists_isPartOf_of_mem part.groups member
    exact (valid.areMembers_group other otherMember).of_sublist
      groupPart.sublist_members

/-- A draft that is refused is refused with all further additions. -/
theorem not_valid_extendAll {draft : Draft} (broken : ¬draft.Valid)
    (edits : List Edit) : ¬(draft.extendAll edits).Valid :=
  fun valid => broken (valid.of_isPartOf (.extendAll draft edits))

end Draft

end ShaderBindings
