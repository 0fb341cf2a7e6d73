import ShaderBindings.Config
import ShaderBindings.Text.Alphanumeric
import ShaderBindings.Text.Uppercase
import ShaderBindings.Text.Words

/-!
# Include guards

The macro that keeps a header from being read twice is made of the words of
the header's file name, in upper case and joined by underscores.  A file name
without letters and digits gives the empty text.
-/

namespace ShaderBindings

/-- The words of a text in upper case, joined by underscores. -/
def macroName (text : String) : String :=
  "_".intercalate ((words isAlphanumeric letterCase? text.toList).map
    fun word => String.ofList (word.flatMap uppercase))

/-- The include guard of the header. -/
def Config.includeGuard (config : Config) : String :=
  macroName config.headerName

end ShaderBindings
