import ShaderBindings.Code.Line
import ShaderBindings.Config
import ShaderBindings.Shader.Basic

/-!
# Loading a shader

The statements that fill the struct of a shader.  First its program is built
from the two sources; the handles of the attributes and uniforms are looked up
in the program.  Subroutines are looked up only where the OpenGL layer has
them: for each group its uniform, then its variants.
-/

namespace ShaderBindings

/-- The place of a handle of a shader. -/
def Shader.place (config : Config) (shader : Shader) (path : List String) :
    Place :=
  config.instanceName :: shader.name :: path

/-- The place of the handle of a shader's program. -/
def Shader.programPlace (config : Config) (shader : Shader) : Place :=
  shader.place config [programMember]

/-- Build the program. -/
def Shader.buildLine (config : Config) (shader : Shader) : Line :=
  .assign (shader.programPlace config)
    { function := config.gl.buildProgram
      arguments :=
        [.literal shader.vertexPath, .literal shader.fragmentPath] }

/-- Look up an attribute or a uniform with the given function. -/
def Shader.locationLine (config : Config) (shader : Shader)
    (function name : String) : Line :=
  .assign (shader.place config [name])
    { function
      arguments := [.place (shader.programPlace config), .literal name] }

/-- Look up a subroutine uniform or a subroutine with the given function. -/
def Shader.subroutineLine (config : Config) (shader : Shader)
    (path : List String) (function name : String) : Line :=
  .assign (shader.place config path)
    { function
      arguments :=
        [.place (shader.programPlace config),
          .place [Stage.ofSubroutines.constant], .literal name] }

/-- Look up the uniform of a group, then its variants. -/
def Shader.groupLines (config : Config) (shader : Shader)
    (group : SubroutineGroup) : List Line :=
  shader.subroutineLine config [group.name, groupUniformMember]
      config.gl.subroutineUniformLocation group.name ::
    group.variants.map fun variant =>
      shader.subroutineLine config [group.name, variant]
        config.gl.subroutineIndex variant

/-- The condition under which subroutines are looked up. -/
def Config.subroutineGate (config : Config) : Call where
  function := config.gl.hasFeature
  arguments := [.place [config.gl.subroutineFeature]]

/-- The block that looks up all groups; there is none if no group is. -/
def Shader.gatedLines (config : Config) (shader : Shader) : List Line :=
  if shader.groups.isEmpty then []
  else
    [.openIf config.subroutineGate] ++
      shader.groups.flatMap (shader.groupLines config) ++
      [.closeBlock]

/-- All statements that fill the struct of a shader. -/
def Shader.loadLines (config : Config) (shader : Shader) : List Line :=
  [shader.buildLine config] ++
    shader.attributes.map
      (shader.locationLine config config.gl.attributeLocation) ++
    shader.uniforms.map
      (shader.locationLine config config.gl.uniformLocation) ++
    shader.gatedLines config

/-- The statement that deletes the program of a shader. -/
def Shader.deleteLine (config : Config) (shader : Shader) : Line :=
  .perform
    { function := config.gl.deleteProgram
      arguments := [.place (shader.programPlace config)] }

end ShaderBindings
