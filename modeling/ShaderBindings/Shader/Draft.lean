import ShaderBindings.Stage

/-!
# Drafts

A draft is the description of a shader before anything about it is checked:
its name, the paths of its two sources, and the names of its attributes,
uniforms and subroutine groups in the order in which they were added.  Drafts
only grow; `Draft.extend` adds at the end of one of the three lists.
-/

namespace ShaderBindings

/-- A named family of subroutines that can stand in for one another. -/
structure SubroutineGroup where
  /-- The name of the subroutine uniform. -/
  name : String
  /-- The names of the subroutines. -/
  variants : List String
deriving DecidableEq

/-- An unchecked description of a shader. -/
structure Draft where
  name : String
  vertexPath : String
  fragmentPath : String
  attributes : List String := []
  uniforms : List String := []
  groups : List SubroutineGroup := []
deriving DecidableEq

namespace Draft

/-- An addition to a draft. -/
inductive Edit where
  | attributes (names : List String)
  | uniforms (names : List String)
  | subroutine (group : SubroutineGroup)
deriving DecidableEq

/-- Make an addition, behind all earlier ones of its kind. -/
def extend (draft : Draft) : Edit → Draft
  | .attributes names => { draft with attributes := draft.attributes ++ names }
  | .uniforms names => { draft with uniforms := draft.uniforms ++ names }
  | .subroutine group => { draft with groups := draft.groups ++ [group] }

/-- Make several additions, the first one first. -/
def extendAll (draft : Draft) (edits : List Edit) : Draft :=
  edits.foldl extend draft

/-- The path of the source for a stage. -/
def path (draft : Draft) : Stage → String
  | .vertex => draft.vertexPath
  | .fragment => draft.fragmentPath

@[simp]
theorem extendAll_nil (draft : Draft) : draft.extendAll [] = draft :=
  rfl

@[simp]
theorem extendAll_cons (draft : Draft) (edit : Edit) (edits : List Edit) :
    draft.extendAll (edit :: edits) = (draft.extend edit).extendAll edits :=
  rfl

theorem extendAll_append (draft : Draft) (first second : List Edit) :
    draft.extendAll (first ++ second) =
      (draft.extendAll first).extendAll second := by
  simp [extendAll]

end Draft

end ShaderBindings
