/-!
# Pipeline stages

A program is linked from one source per programmable stage.  Every subroutine
lives in the fragment stage: this is one decision for the whole library, not
an option of a shader.
-/

namespace ShaderBindings

/-- A programmable stage of the graphics pipeline. -/
inductive Stage where
  | vertex
  | fragment
deriving DecidableEq

namespace Stage

/-- The stages in the order in which a program lists its sources. -/
def all : List Stage :=
  [.vertex, .fragment]

/-- The word for the stage in messages. -/
def label : Stage → String
  | .vertex => "vertex"
  | .fragment => "fragment"

/-- The constant by which OpenGL knows the stage. -/
def constant : Stage → String
  | .vertex => "GL_VERTEX_SHADER"
  | .fragment => "GL_FRAGMENT_SHADER"

/-- The stage in which subroutine uniforms and indices are looked up. -/
def ofSubroutines : Stage :=
  .fragment

theorem mem_all (stage : Stage) : stage ∈ all := by
  cases stage <;> simp [all]

end Stage

end ShaderBindings
