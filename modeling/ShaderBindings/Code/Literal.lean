/-!
# String literals

A text becomes a C string literal by standing between quotes, with a backslash
in front of each quote and each backslash, and with the escapes for a newline
and a tab.  All other characters stand for themselves, so a literal never
spans two lines.
-/

namespace ShaderBindings

/-- How one character of a text is written inside a literal. -/
def escape : Char → List Char
  | '"' => ['\\', '"']
  | '\\' => ['\\', '\\']
  | '\n' => ['\\', 'n']
  | '\t' => ['\\', 't']
  | character => [character]

/-- The literal for a text. -/
def quote (text : String) : String :=
  String.ofList ('"' :: (text.toList.flatMap escape ++ ['"']))

theorem newline_notMem_escape (character : Char) :
    '\n' ∉ escape character := by
  unfold escape
  split
  · decide
  · decide
  · decide
  · decide
  · rename_i isNoNewline _
    exact fun same => isNoNewline (List.mem_singleton.1 same).symm

/-- A literal stands on one line. -/
theorem newline_notMem_quote (text : String) :
    '\n' ∉ (quote text).toList := by
  simp [quote, newline_notMem_escape]

end ShaderBindings
