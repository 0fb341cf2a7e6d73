/-!
# Paths

A path is followed from a directory, one name per step.  Its text has slashes
between the names.  The text may hold more than the names: an empty name or a
single dot stays where it is, so one path has many texts.
-/

namespace ShaderBindings

/-- The names to follow from a directory, one after the other. -/
abbrev Path := List String

namespace Path

/-- What stands between the slashes of a text. -/
def segments (text : String) : List String :=
  (text.toList.splitOn '/').map String.ofList

/-- Does following a name lead nowhere else? -/
def isIdle (name : String) : Bool :=
  name == "" || name == "."

/-- The path of a text. -/
def ofText (text : String) : Path :=
  (segments text).filter fun name => !isIdle name

/-- The shortest text of a path. -/
def text (path : Path) : String :=
  "/".intercalate path

/-- Does a text start at the root of the file system? -/
def isAbsolute (text : String) : Bool :=
  text.toList.head? == some '/'

/-- Is a text followed without leaving the directory it is followed from? -/
def staysInside (text : String) : Bool :=
  !isAbsolute text && !(segments text).contains ".."

/-- The text of the path of a name in a directory. -/
def join (directory name : String) : String :=
  if directory = "" ∨ directory.toList.getLast? = some '/' then
    directory ++ name
  else
    directory ++ "/" ++ name

end Path

end ShaderBindings
