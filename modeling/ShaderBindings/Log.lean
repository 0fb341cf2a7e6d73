/-!
# Log records

The steps of a generation that are worth a record: each shader is declared in
the header and loaded in the source file, and then the files are written.
-/

namespace ShaderBindings

/-- Something that was done. -/
inductive LogRecord where
  /-- The struct of a shader was printed. -/
  | declaring (shader : String)
  /-- The statements that load a shader were printed. -/
  | loading (shader : String)
  /-- A file of a number of bytes was written. -/
  | wrote (path : String) (size : Nat)
deriving DecidableEq

/-- How much attention a record asks for. -/
inductive LogLevel where
  | debug
  | info
deriving DecidableEq

/-- The word for a level. -/
def LogLevel.label : LogLevel → String
  | .debug => "DEBUG"
  | .info => "INFO"

/-- Written files matter to everyone, single shaders only to the curious. -/
def LogRecord.level : LogRecord → LogLevel
  | .declaring _ => .debug
  | .loading _ => .debug
  | .wrote _ _ => .info

/-- The wording of a record. -/
def LogRecord.message : LogRecord → String
  | .declaring shader => s!"declaring `{shader}`"
  | .loading shader => s!"loading `{shader}`"
  | .wrote path size => s!"wrote {path} ({size} bytes)"

end ShaderBindings
