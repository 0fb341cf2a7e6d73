import ShaderBindings.Stage

/-!
# Faults

A fault is a reason to refuse a shader or a catalog.  Each constructor holds
what its message names; the wording of all of them stands in `Fault.message`.
Names appear in messages as they are, without quoting or escaping.
-/

namespace ShaderBindings

/-- What a name is used for. -/
inductive NameRole where
  | shader
  | attribute
  | uniform
  | subroutineGroup
  | subroutine
deriving DecidableEq

/-- The words for the use of a name in messages. -/
def NameRole.label : NameRole → String
  | .shader => "shader name"
  | .attribute => "attribute"
  | .uniform => "uniform"
  | .subroutineGroup => "subroutine group"
  | .subroutine => "subroutine"

/-- Why a shader or a catalog is refused. -/
inductive Fault where
  /-- The name is no identifier. -/
  | badIdentifier (shader : String) (role : NameRole) (name : String)
  /-- The stage has no source. -/
  | emptyPath (shader : String) (stage : Stage)
  /-- Two handles of the shader would be one member of its struct. -/
  | duplicateField (shader field : String)
  /-- Two handles of the group would be one member of its struct. -/
  | duplicateVariant (shader group variant : String)
  /-- Two shaders would be one member of the outer struct. -/
  | duplicateShader (name : String)
  /-- There is nothing to bind. -/
  | emptyCatalog
deriving DecidableEq

/-- The wording of a fault. -/
def Fault.message : Fault → String
  | .badIdentifier shader role name =>
      s!"shader `{shader}`: {role.label} `{name}` is not a valid C identifier"
  | .emptyPath shader stage =>
      s!"shader `{shader}`: {stage.label} source path is empty"
  | .duplicateField shader field =>
      s!"shader `{shader}`: field `{field}` is declared more than once"
  | .duplicateVariant shader group variant =>
      s!"shader `{shader}`: subroutine group `{group}` declares " ++
        s!"`{variant}` more than once"
  | .duplicateShader name =>
      s!"shader `{name}` is declared more than once"
  | .emptyCatalog => "catalog is empty"

end ShaderBindings
