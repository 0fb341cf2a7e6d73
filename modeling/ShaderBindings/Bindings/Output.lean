import ShaderBindings.Bindings.Files
import ShaderBindings.FileTree.Writing

/-!
# Output

The generated files are written into a directory, the header first.  The first
file that cannot be written ends this; a header that is written by then stays.
-/

namespace ShaderBindings

/-- What has happened when files were written. -/
structure Output where
  /-- Why the last file could not be written, if it could not. -/
  error? : Option FileError
  /-- One record per written file. -/
  log : List LogRecord
  /-- The tree with the written files. -/
  tree : FileTree
deriving DecidableEq

/-- Write files one after the other, up to the first that is refused. -/
def writeFiles (directory : String) (tree : FileTree) :
    List GeneratedFile → Output
  | [] => { error? := none, log := [], tree }
  | file :: rest =>
      let path := Path.join directory file.name
      match tree.write path file.contents with
      | .error error => { error? := some error, log := [], tree }
      | .ok written =>
          let later := writeFiles directory written rest
          { later with
            log := .wrote path file.contents.utf8ByteSize :: later.log }

/-- Write the header, then the source file. -/
def GeneratedFiles.writeTo (files : GeneratedFiles) (directory : String)
    (tree : FileTree) : Output :=
  writeFiles directory tree files.toList

end ShaderBindings
