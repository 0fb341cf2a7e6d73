import ShaderBindings.Code.Line
import ShaderBindings.Config
import ShaderBindings.Shader.Basic

/-!
# The struct of a shader

A shader is declared as a struct which is a member of the outer one and has
the name of the shader.  Its members are the handle of the program, those of
the attributes and of the uniforms, and one inner struct per subroutine group.
-/

namespace ShaderBindings

/-- The lines that declare handles. -/
def Config.handleLines (config : Config) (names : List String) : List Line :=
  names.map (.declare config.gl.handleType)

/-- The struct with the handles of a subroutine group. -/
def SubroutineGroup.structLines (config : Config) (group : SubroutineGroup) :
    List Line :=
  [.openStruct] ++ config.handleLines group.members ++
    [.closeStruct group.name]

/-- The struct with the handles of a shader. -/
def Shader.structLines (config : Config) (shader : Shader) : List Line :=
  [.openStruct] ++
    config.handleLines
      (programMember :: (shader.attributes ++ shader.uniforms)) ++
    shader.groups.flatMap (SubroutineGroup.structLines config) ++
    [.closeStruct shader.name]

end ShaderBindings
