import ShaderBindings.Bindings.Header
import ShaderBindings.Bindings.Load

/-!
# The source file

The source file defines the global instance and the two functions.  The first
one loads the shaders one after the other, with a blank line between two of
them.  The second one deletes their programs and then clears the instance.
-/

namespace ShaderBindings

/-- The lines of the source file up to the body of the load function. -/
def Config.sourceOpening (config : Config) : List Line :=
  config.bannerLines ++
    [.includeSystem "string.h", .includeLocal config.headerName] ++
    config.sourceIncludes.map .includeLocal ++
    [.blank, .declare config.typeName config.instanceName, .blank,
      .openFunction config.loadFunction]

/-- The lines between the bodies of the two functions. -/
def Config.sourceMiddle (config : Config) : List Line :=
  [.closeBlock, .blank, .openFunction config.unloadFunction]

/-- The lines behind the deletion of the last program. -/
def Config.sourceClosing (config : Config) : List Line :=
  [.clear config.instanceName, .closeBlock]

/-- The body of the load function. -/
def Catalog.loadLines (config : Config) (catalog : Catalog) : List Line :=
  [Line.blank].intercalate (catalog.shaders.map (Shader.loadLines config))

/-- The lines of the source file. -/
def Catalog.sourceLines (config : Config) (catalog : Catalog) : List Line :=
  config.sourceOpening ++ catalog.loadLines config ++ config.sourceMiddle ++
    catalog.shaders.map (Shader.deleteLine config) ++ config.sourceClosing

/-- The text of the source file. -/
def Catalog.source (config : Config) (catalog : Catalog) : String :=
  render (catalog.sourceLines config)

/-- The statements that load one shader, as they stand in the source file. -/
def Shader.definition (config : Config) (shader : Shader) : String :=
  renderAt 1 (shader.loadLines config)

end ShaderBindings
