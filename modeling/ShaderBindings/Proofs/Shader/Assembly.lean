import ShaderBindings.Shader.Draft

/-!
# What additions make of a draft

An addition goes to the end of one of the three lists of a draft and leaves
the other two alone.  So it does not matter how additions of different kinds
are mixed, or into how many pieces a list is cut: behind all of them the draft
has the attributes, the uniforms and the groups in the order in which each
kind was added.

In particular every draft is made by adding its own three lists to its name
and its paths: `Draft.reassembled_eq`.
-/

namespace ShaderBindings

namespace Draft

namespace Edit

/-- The attributes that an addition brings. -/
def addedAttributes : Edit → List String
  | .attributes names => names
  | .uniforms _ | .subroutine _ => []

/-- The uniforms that an addition brings. -/
def addedUniforms : Edit → List String
  | .uniforms names => names
  | .attributes _ | .subroutine _ => []

/-- The groups that an addition brings. -/
def addedGroups : Edit → List SubroutineGroup
  | .subroutine group => [group]
  | .attributes _ | .uniforms _ => []

end Edit

/-- The draft of what some additions bring, each kind in its own order. -/
def assembled (name vertexPath fragmentPath : String) (edits : List Edit) :
    Draft where
  name
  vertexPath
  fragmentPath
  attributes := edits.flatMap Edit.addedAttributes
  uniforms := edits.flatMap Edit.addedUniforms
  groups := edits.flatMap Edit.addedGroups

theorem extend_eq (draft : Draft) (edit : Edit) :
    draft.extend edit =
      { draft with
        attributes := draft.attributes ++ edit.addedAttributes
        uniforms := draft.uniforms ++ edit.addedUniforms
        groups := draft.groups ++ edit.addedGroups } := by
  cases edit <;>
    simp [extend, Edit.addedAttributes, Edit.addedUniforms, Edit.addedGroups]

/-- A list of edits adds what each of them adds, in order. -/
theorem extendAll_eq (draft : Draft) (edits : List Edit) :
    draft.extendAll edits =
      { draft with
        attributes := draft.attributes ++ edits.flatMap Edit.addedAttributes
        uniforms := draft.uniforms ++ edits.flatMap Edit.addedUniforms
        groups := draft.groups ++ edits.flatMap Edit.addedGroups } := by
  induction edits generalizing draft with
  | nil => simp
  | cons edit rest inductionHypothesis =>
      rw [extendAll_cons, inductionHypothesis, extend_eq]
      simp

/-- Additions to a draft without lists make the draft of what they bring. -/
theorem extendAll_eq_assembled (name vertexPath fragmentPath : String)
    (edits : List Edit) :
    extendAll { name, vertexPath, fragmentPath } edits =
      assembled name vertexPath fragmentPath edits := by
  rw [extendAll_eq]
  rfl

/-! ## Making a draft once more -/

/-- The additions of the lists of a draft. -/
def additions (draft : Draft) : List Edit :=
  [.attributes draft.attributes, .uniforms draft.uniforms] ++
    draft.groups.map .subroutine

/-- The draft that is made from the name, the paths and the lists of one. -/
def reassembled (draft : Draft) : Draft :=
  extendAll
    { name := draft.name
      vertexPath := draft.vertexPath
      fragmentPath := draft.fragmentPath }
    draft.additions

/-- A draft that is made once more is the same draft. -/
@[simp]
theorem reassembled_eq (draft : Draft) : draft.reassembled = draft := by
  have noNames : draft.groups.flatMap (fun _ => ([] : List String)) = [] :=
    List.flatMap_eq_nil_iff.2 fun _ _ => rfl
  rw [reassembled, extendAll_eq_assembled]
  simp [assembled, additions, Edit.addedAttributes, Edit.addedUniforms,
    Edit.addedGroups, List.flatMap_map, noNames]

end Draft

end ShaderBindings
