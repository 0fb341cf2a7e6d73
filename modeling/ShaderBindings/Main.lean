import ShaderBindings.CommandLine

/-!
# The program

The outer layer of the command line: it does to the directory in which it is
started what `CommandLine.run` does to a file tree.
-/

namespace ShaderBindings.CommandLine

/-- The operating system's words for an error. -/
def reasonOf : IO.Error → String
  | .noFileOrDirectory _ code details
  | .inappropriateType (some _) code details
  | .permissionDenied (some _) code details
  | .alreadyExists (some _) code details
  | .invalidArgument (some _) code details
  | .resourceExhausted (some _) code details =>
      s!"{details} (os error {code})"
  | error => toString error

/-- Write the files into the current directory, up to the first failure. -/
def writeFiles : List GeneratedFile → IO (Option String)
  | [] => return none
  | file :: rest => do
      try
        IO.FS.writeFile (Path.join currentDirectory file.name) file.contents
      catch error =>
        return some (reasonOf error)
      writeFiles rest

/-- Reply to the arguments on the two streams and with the status. -/
def serve (arguments : List String) : IO UInt32 := do
  let request := Request.ofArguments arguments
  let failure? ←
    if request = .generate then writeFiles files.toList else pure none
  let answer := reply request failure?
  (← IO.getStdout).putStr answer.output
  (← IO.getStderr).putStr answer.errors
  return answer.status.toUInt32

end ShaderBindings.CommandLine

/-- The program. -/
def main (arguments : List String) : IO UInt32 :=
  ShaderBindings.CommandLine.serve arguments
