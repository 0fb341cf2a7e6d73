import ShaderBindings.Bindings.Output
import ShaderBindings.Catalog.Builtin
import ShaderBindings.Text.ControlSequence

/-!
# The command line

The program takes no arguments: it writes the files for the built-in catalog
into the current directory.  It can also be asked for help or for its version.
Arguments are read from the left, and the first one that asks for something
decides; a mark for the end of the options, which is two hyphens, decides
nothing on its own.  A message quotes an argument without what would steer a
terminal.

`CommandLine.run` is the whole program as a function of the arguments and of
the current directory.
-/

namespace ShaderBindings

/-- What a list of arguments asks for. -/
inductive Request where
  | generate
  | help
  | version
  /-- There is no such argument. -/
  | unexpected (argument : String)
  /-- The option is there, but it takes no value. -/
  | unexpectedValue (option value : String)
deriving DecidableEq

namespace Request

/-- What an option of one letter asks for. -/
def ofLetter : Char → Request
  | 'h' => .help
  | 'V' => .version
  | letter => .unexpected (String.ofList ['-', letter])

/-- What an option with a long name asks for, without a value. -/
def ofName (name : String) : Request :=
  if name = "help" then .help
  else if name = "version" then .version
  else .unexpected ("--" ++ name)

/-- What an option with a long name and a value asks for. -/
def ofNameWithValue (name value : String) : Request :=
  match ofName name with
  | .unexpected argument => .unexpected argument
  | _ => .unexpectedValue ("--" ++ name) value

/--
What an argument asks for.  After two hyphens stands a name, and perhaps a
value behind an equals sign.  After one hyphen stand letters, of which the
first decides.
-/
def ofArgument (argument : String) : Request :=
  match argument.toList with
  | '-' :: '-' :: text =>
      let name := String.ofList (text.takeWhile (· != '='))
      match text.dropWhile (· != '=') with
      | [] => ofName name
      | _ :: value => ofNameWithValue name (String.ofList value)
  | '-' :: letter :: _ => ofLetter letter
  | _ => .unexpected argument

/-- What a list of arguments asks for. -/
def ofArguments : List String → Request
  | [] => .generate
  | first :: rest =>
      if first = "--" then
        match rest with
        | [] => .generate
        | argument :: _ => .unexpected argument
      else
        ofArgument first

end Request

namespace CommandLine

/-- What is printed when help is asked for. -/
def helpText : String :=
  "Writes `shaders.gen.h` and `shaders.gen.c` into the current directory\n\n" ++
    "Usage: shadergen\n\n" ++
    "Options:\n" ++
    "  -h, --help     Print help\n" ++
    "  -V, --version  Print version\n"

/-- What is printed when the version is asked for. -/
def versionText : String :=
  "shadergen-cli 0.1.0\n"

/-- The message for an argument that is not known. -/
def unexpectedText (argument : String) : String :=
  s!"unexpected argument '{withoutControls argument}' found"

/-- The message for an option that has a value and should have none. -/
def unexpectedValueText (option value : String) : String :=
  s!"unexpected value '{withoutControls value}' for '{option}' found; " ++
    "no more were expected"

/-- What is printed when the arguments are refused. -/
def usageError (problem usage : String) : String :=
  s!"error: {problem}\n\nUsage: {usage}\n\n" ++
    "For more information, try '--help'.\n"

/-- The current directory, as the program names it. -/
def currentDirectory : String :=
  "."

/-- What is printed when a file cannot be written, for the given reason. -/
def failureText (reason : String) : String :=
  s!"Error: failed to write into {currentDirectory}\n\n" ++
    s!"Caused by:\n    0: io error: {reason}\n    1: {reason}\n"

/-- The files that the program writes. -/
def files : GeneratedFiles :=
  Catalog.builtin.generate {}

/-- What the program prints, and the status it ends with. -/
structure Reply where
  status : Nat := 0
  output : String := ""
  errors : String := ""
deriving DecidableEq

/--
The reply to a request.  The second argument is the reason why a file could
not be written; it matters only if files were to be written.
-/
def reply (request : Request) (failure? : Option String) : Reply :=
  match request with
  | .help => { output := helpText }
  | .version => { output := versionText }
  | .unexpected argument =>
      { status := 2
        errors := usageError (unexpectedText argument) "shadergen" }
  | .unexpectedValue option value =>
      { status := 2
        errors :=
          usageError (unexpectedValueText option value)
            s!"shadergen {option}" }
  | .generate =>
      match failure? with
      | none => {}
      | some reason => { status := 1, errors := failureText reason }

/-- The program: its arguments and the current directory, then what is left. -/
def run (arguments : List String) (tree : FileTree) : Reply × FileTree :=
  let request := Request.ofArguments arguments
  if request = .generate then
    let written := files.writeTo currentDirectory tree
    (reply request (written.error?.map FileError.text), written.tree)
  else
    (reply request none, tree)

end CommandLine

end ShaderBindings
