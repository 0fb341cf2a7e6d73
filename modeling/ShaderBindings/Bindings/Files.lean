import ShaderBindings.Bindings.Source
import ShaderBindings.Log

/-!
# Generated files

What is generated for a catalog: a header and a source file, each with its
name, and a record of what was done for which shader.

While a file is printed, a record is made for each shader.  An emission is a
line or a record, and an emitter takes them as they come; so both files and the
log come from one run, `Catalog.generation`.
-/

namespace ShaderBindings

/-- A file that is not written yet. -/
structure GeneratedFile where
  /-- The name of the file in the directory it is to be written to. -/
  name : String
  contents : String
deriving DecidableEq

/-- The two files that bind a catalog. -/
structure GeneratedFiles where
  header : GeneratedFile
  source : GeneratedFile
deriving DecidableEq

/-- Both files in the order in which they are written. -/
def GeneratedFiles.toList (files : GeneratedFiles) : List GeneratedFile :=
  [files.header, files.source]

/-! ## Emissions -/

/-- What happens next while a file is generated. -/
inductive Emission where
  /-- A line is printed. -/
  | line (line : Line)
  /-- A record is made. -/
  | record (record : LogRecord)

/-- Some lines behind the record of what they are for. -/
def Emission.recorded (entry : LogRecord) (lines : List Line) :
    List Emission :=
  .record entry :: lines.map .line

/-- A printer, and the records that were made meanwhile. -/
structure Emitter where
  printer : Printer := {}
  log : List LogRecord := []

/-- Print a line or make a record. -/
def Emitter.emit (emitter : Emitter) : Emission → Emitter
  | .line printed => { emitter with printer := emitter.printer.print printed }
  | .record entry => { emitter with log := emitter.log ++ [entry] }

/-- Take several emissions, the first one first. -/
def Emitter.emitAll (emitter : Emitter) (emissions : List Emission) :
    Emitter :=
  emissions.foldl emit emitter

/-! ## Generating both files -/

namespace Catalog

/-- The header, with a record in front of the struct of each shader. -/
def headerEmissions (config : Config) (catalog : Catalog) : List Emission :=
  config.headerOpening.map .line ++
    catalog.shaders.flatMap (fun shader =>
      Emission.recorded (.declaring shader.name) (shader.structLines config)) ++
    config.headerClosing.map .line

/-- The source file, with a record in front of the loading of each shader. -/
def sourceEmissions (config : Config) (catalog : Catalog) : List Emission :=
  config.sourceOpening.map .line ++
    [Emission.line .blank].intercalate
      (catalog.shaders.map fun shader =>
        Emission.recorded (.loading shader.name) (shader.loadLines config)) ++
    (config.sourceMiddle ++
      catalog.shaders.map (Shader.deleteLine config) ++
      config.sourceClosing).map .line

/-- Print the header and then the source file, with one log for both. -/
def generation (config : Config) (catalog : Catalog) :
    GeneratedFiles × List LogRecord :=
  let header := Emitter.emitAll {} (catalog.headerEmissions config)
  let source :=
    Emitter.emitAll { log := header.log } (catalog.sourceEmissions config)
  ({ header :=
      { name := config.headerName
        contents := header.printer.text }
     source :=
      { name := config.sourceName
        contents := source.printer.text } },
    source.log)

/-- The files for a catalog. -/
def generate (config : Config) (catalog : Catalog) : GeneratedFiles :=
  (catalog.generation config).1

/-- The record of the generation; it is the same for all configurations. -/
def generationLog (catalog : Catalog) (config : Config := {}) :
    List LogRecord :=
  (catalog.generation config).2

end Catalog

end ShaderBindings
