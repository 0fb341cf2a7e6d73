import ShaderBindings.Bindings.Struct
import ShaderBindings.Catalog.Basic
import ShaderBindings.Code.Printer
import ShaderBindings.IncludeGuard

/-!
# The header

The header declares the struct with the handles of all shaders, the global
instance of it, and the functions that load and unload the shaders.  An
include guard keeps it from being read twice.
-/

namespace ShaderBindings

/-- The lines at the start of each generated file. -/
def Config.bannerLines (config : Config) : List Line :=
  [.comment ("FILE GENERATED BY " ++ config.generator), .blank]

/-- The lines of the header up to the struct of the first shader. -/
def Config.headerOpening (config : Config) : List Line :=
  config.bannerLines ++
    [.unlessDefined config.includeGuard, .define config.includeGuard] ++
    config.headerIncludes.map .includeLocal ++
    [.blank, .openTypedef config.typeName]

/-- The lines of the header behind the struct of the last shader. -/
def Config.headerClosing (config : Config) : List Line :=
  [.closeStruct config.typeName, .blank,
    .declareExtern config.typeName config.instanceName, .blank,
    .declareFunction config.loadFunction,
    .declareFunction config.unloadFunction, .endUnless]

/-- The lines of the header. -/
def Catalog.headerLines (config : Config) (catalog : Catalog) : List Line :=
  config.headerOpening ++
    catalog.shaders.flatMap (Shader.structLines config) ++
    config.headerClosing

/-- The text of the header. -/
def Catalog.header (config : Config) (catalog : Catalog) : String :=
  render (catalog.headerLines config)

/-- The struct of one shader, as it stands in the header. -/
def Shader.declaration (config : Config) (shader : Shader) : String :=
  renderAt 1 (shader.structLines config)

end ShaderBindings
