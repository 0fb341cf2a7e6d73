import ShaderBindings.Code.Call

/-!
# Lines of code

Generated code is a list of lines.  Each constructor of `Line` is one kind of
line that occurs in the generated files, and `Line.text` is the only place
where its spelling is laid down.  A line may open a block, whose lines are
indented, or close one.
-/

namespace ShaderBindings

/-- A line of a generated file. -/
inductive Line where
  | blank
  | comment (text : String)
  /-- Includes a header of the C library. -/
  | includeSystem (header : String)
  /-- Includes a header of the project. -/
  | includeLocal (header : String)
  /-- Keeps what follows only if the macro is not defined. -/
  | unlessDefined (guard : String)
  | define (guard : String)
  /-- Ends what `unlessDefined` has started. -/
  | endUnless
  /-- Opens a struct that is to become a named type. -/
  | openTypedef (typeName : String)
  /-- Opens a struct that is to become a member. -/
  | openStruct
  /-- Closes a struct and names the type or the member. -/
  | closeStruct (name : String)
  /-- Declares a member or a variable. -/
  | declare (typeName name : String)
  | declareExtern (typeName name : String)
  /-- Declares a function without arguments or result. -/
  | declareFunction (name : String)
  /-- Opens the body of a function without arguments or result. -/
  | openFunction (name : String)
  /-- Opens a block that runs when the call gives something other than zero. -/
  | openIf (condition : Call)
  /-- Closes the body of a function or a conditional block. -/
  | closeBlock
  /-- Stores what a call gives. -/
  | assign (target : Place) (value : Call)
  /-- Makes a call and drops what it gives. -/
  | perform (call : Call)
  /-- Sets every byte of a variable to zero. -/
  | clear (name : String)
deriving DecidableEq

/-- What a line does to the blocks around the next lines. -/
inductive Nesting where
  | opens
  | closes
  | stays
deriving DecidableEq

namespace Line

/-- The spelling of a line, without indentation. -/
def text : Line → String
  | .blank => ""
  | .comment text => "/* " ++ text ++ " */"
  | .includeSystem header => "#include <" ++ header ++ ">"
  | .includeLocal header => "#include " ++ quote header
  | .unlessDefined guard => "#ifndef " ++ guard
  | .define guard => "#define " ++ guard
  | .endUnless => "#endif"
  | .openTypedef typeName => "typedef struct " ++ typeName ++ "_ \x7b"
  | .openStruct => "struct \x7b"
  | .closeStruct name => "\x7d " ++ name ++ ";"
  | .declare typeName name => typeName ++ " " ++ name ++ ";"
  | .declareExtern typeName name => "extern " ++ typeName ++ " " ++ name ++ ";"
  | .declareFunction name => "void " ++ name ++ " (void);"
  | .openFunction name => "void " ++ name ++ " (void) \x7b"
  | .openIf condition => "if (" ++ condition.text ++ ") \x7b"
  | .closeBlock => "\x7d"
  | .assign target value => target.text ++ " = " ++ value.text ++ ";"
  | .perform call => call.text ++ ";"
  | .clear name => "memset(&" ++ name ++ ", 0, sizeof(" ++ name ++ "));"

/-- Whether a line opens or closes a block. -/
def nesting : Line → Nesting
  | .openTypedef _ | .openStruct | .openFunction _ | .openIf _ => .opens
  | .closeStruct _ | .closeBlock => .closes
  | _ => .stays

end Line

end ShaderBindings
