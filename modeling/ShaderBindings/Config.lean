/-!
# Configuration

The names that the generated files use: those of the files themselves, of the
struct with all handles and its global instance, of the two functions, and of
the OpenGL layer that the functions call.  None of them is checked; they are
printed as they stand.
-/

namespace ShaderBindings

/-- The OpenGL layer that the generated code calls. -/
structure GlLayer where
  /-- The type of a handle. -/
  handleType : String := "GLuint"
  /-- Links a program: called with the paths of its two sources. -/
  buildProgram : String := "gl_program_vert_frag"
  /-- Looks up an attribute: called with a program and a name. -/
  attributeLocation : String := "glGetAttribLocation"
  /-- Looks up a uniform: called with a program and a name. -/
  uniformLocation : String := "glGetUniformLocation"
  /-- Looks up a subroutine uniform: called with a program, a stage, a name. -/
  subroutineUniformLocation : String := "glGetSubroutineUniformLocation"
  /-- Looks up a subroutine: called with a program, a stage and a name. -/
  subroutineIndex : String := "glGetSubroutineIndex"
  /-- Tells whether a feature is present: called with the feature. -/
  hasFeature : String := "gl_has"
  /-- The feature without which no subroutine is looked up. -/
  subroutineFeature : String := "OPENGL_SUBROUTINES"
  /-- Deletes a program: called with its handle. -/
  deleteProgram : String := "glDeleteProgram"
deriving DecidableEq

/-- The settings of the generation of a header and a source file. -/
structure Config where
  /-- The generator that the first line of each file names. -/
  generator : String := "shadergen"
  /-- The file name of the header. -/
  headerName : String := "shaders.gen.h"
  /-- The file name of the source file. -/
  sourceName : String := "shaders.gen.c"
  /-- The type of the struct with all handles. -/
  typeName : String := "Shaders"
  /-- The global instance of the struct. -/
  instanceName : String := "shaders"
  /-- The function that builds the programs and looks up their handles. -/
  loadFunction : String := "shaders_load"
  /-- The function that deletes the programs and clears the instance. -/
  unloadFunction : String := "shaders_unload"
  /-- What the header includes. -/
  headerIncludes : List String := ["opengl.h"]
  /-- What the source file includes, after its own header. -/
  sourceIncludes : List String := ["opengl_shader.h"]
  gl : GlLayer := {}
deriving DecidableEq

/-- A new value for one part of a configuration. -/
inductive Setting where
  | generator (text : String)
  | headerName (text : String)
  | sourceName (text : String)
  | typeName (text : String)
  | instanceName (text : String)
  | loadFunction (text : String)
  | unloadFunction (text : String)
  | headerIncludes (headers : List String)
  | sourceIncludes (headers : List String)
  | handleType (text : String)
  | buildProgram (text : String)
  | attributeLocation (text : String)
  | uniformLocation (text : String)
  | subroutineUniformLocation (text : String)
  | subroutineIndex (text : String)
  | hasFeature (text : String)
  | subroutineFeature (text : String)
  | deleteProgram (text : String)
deriving DecidableEq

namespace Config

/-- Replace one part of a configuration and keep the others. -/
def set (config : Config) : Setting → Config
  | .generator text => { config with generator := text }
  | .headerName text => { config with headerName := text }
  | .sourceName text => { config with sourceName := text }
  | .typeName text => { config with typeName := text }
  | .instanceName text => { config with instanceName := text }
  | .loadFunction text => { config with loadFunction := text }
  | .unloadFunction text => { config with unloadFunction := text }
  | .headerIncludes headers => { config with headerIncludes := headers }
  | .sourceIncludes headers => { config with sourceIncludes := headers }
  | .handleType text => { config with gl.handleType := text }
  | .buildProgram text => { config with gl.buildProgram := text }
  | .attributeLocation text => { config with gl.attributeLocation := text }
  | .uniformLocation text => { config with gl.uniformLocation := text }
  | .subroutineUniformLocation text =>
      { config with gl.subroutineUniformLocation := text }
  | .subroutineIndex text => { config with gl.subroutineIndex := text }
  | .hasFeature text => { config with gl.hasFeature := text }
  | .subroutineFeature text => { config with gl.subroutineFeature := text }
  | .deleteProgram text => { config with gl.deleteProgram := text }

/-- Replace several parts of a configuration, the first setting first. -/
def setAll (config : Config) (settings : List Setting) : Config :=
  settings.foldl set config

end Config

end ShaderBindings
