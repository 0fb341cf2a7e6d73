import ShaderBindings.FileTree.Basic

/-!
# Writing files

To write a file, its path is followed from the root of the tree.  A path is a
text of names between slashes; empty names and single dots stay where they
are.  Every name but the last one has to lead to a directory.  The last one
leads to the file, which is made if there is none; it must not be a directory,
and it must not have a slash behind it.

A path is refused for the first of these reasons that is met on the way.  A
file that is refused leaves the tree as it was.  Paths that leave the tree, as
`Path.staysInside` tells, are not for this module.
-/

namespace ShaderBindings

/-- Why a file cannot be written. -/
inductive FileError where
  | notFound
  | notDirectory
  | isDirectory
  | nameTooLong
  | nulByte
deriving DecidableEq

/-- The operating system's words for an error. -/
def FileError.text : FileError → String
  | .notFound => "No such file or directory (os error 2)"
  | .notDirectory => "Not a directory (os error 20)"
  | .isDirectory => "Is a directory (os error 21)"
  | .nameTooLong => "File name too long (os error 36)"
  | .nulByte => "file name contained an unexpected NUL byte"

/-- The wording of an error. -/
def FileError.message (error : FileError) : String :=
  "io error: " ++ error.text

/-- The longest name of a file or directory, in bytes. -/
def longestName : Nat :=
  255

/-- The longest text of a path, in bytes. -/
def longestPath : Nat :=
  4095

namespace FileTree

/-- What stands under a name in a directory. -/
def lookUp (tree : FileTree) (directory : Path) (name : String) :
    Except FileError (Option Entry) :=
  if longestName < name.utf8ByteSize then .error .nameTooLong
  else .ok (tree.get? (directory ++ [name]))

/--
Follow names from a directory to the place of a file.  A last name with a
slash behind it is not looked up.
-/
def follow (tree : FileTree) : Path → List String → Except FileError Path
  | _, [] => .error .isDirectory
  | directory, name :: rest =>
      if Path.isIdle name then
        tree.follow directory rest
      else if rest = [] then
        match tree.lookUp directory name with
        | .error error => .error error
        | .ok (some .directory) => .error .isDirectory
        | .ok _ => .ok (directory ++ [name])
      else if rest.all (· == "") then
        .error .isDirectory
      else
        match tree.lookUp directory name with
        | .error error => .error error
        | .ok none => .error .notFound
        | .ok (some (.file _)) => .error .notDirectory
        | .ok (some .directory) => tree.follow (directory ++ [name]) rest

/-- The place of the file at the text of a path. -/
def target (tree : FileTree) (text : String) : Except FileError Path :=
  if '\x00' ∈ text.toList then .error .nulByte
  else if text = "" then .error .notFound
  else if longestPath < text.utf8ByteSize then .error .nameTooLong
  else tree.follow [] (Path.segments text)

/-- Write a file, in place of the one that may be there. -/
def write (tree : FileTree) (text contents : String) :
    Except FileError FileTree :=
  (tree.target text).map fun path => tree.put path (.file contents)

end FileTree

end ShaderBindings
