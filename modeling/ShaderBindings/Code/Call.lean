import ShaderBindings.Code.Literal

/-!
# Calls

The generated functions do nothing but call other functions.  An argument of a
call is a place, that is a name or a path of members joined by dots, or a text
which is written as a string literal.
-/

namespace ShaderBindings

/-- A place: the name of a variable, and then members one inside the other. -/
abbrev Place := List String

/-- The expression for a place. -/
def Place.text (place : Place) : String :=
  ".".intercalate place

/-- An argument of a call. -/
inductive Argument where
  | place (place : Place)
  | literal (text : String)
deriving DecidableEq

/-- The expression for an argument. -/
def Argument.text : Argument → String
  | .place path => Place.text path
  | .literal text => quote text

/-- A function and its arguments. -/
structure Call where
  function : String
  arguments : List Argument
deriving DecidableEq

/-- The expression for a call. -/
def Call.text (call : Call) : String :=
  call.function ++ "(" ++ ", ".intercalate (call.arguments.map Argument.text)
    ++ ")"

end ShaderBindings
