/-!
# Identifiers

Every handle of the printed structs is a member with a C identifier for its
name.  An identifier starts with an ASCII letter or an underscore, goes on
with ASCII letters, digits and underscores, and is not a word that C reserves.
-/

namespace ShaderBindings

/-- The words that C reserves for itself; none of them can name a member. -/
def reservedWords : List String :=
  ["auto", "break", "case", "char", "const", "continue", "default", "do",
    "double", "else", "enum", "extern", "float", "for", "goto", "if",
    "inline", "int", "long", "register", "restrict", "return", "short",
    "signed", "sizeof", "static", "struct", "switch", "typedef", "union",
    "unsigned", "void", "volatile", "while", "_Alignas", "_Alignof",
    "_Atomic", "_Bool", "_Complex", "_Generic", "_Imaginary", "_Noreturn",
    "_Static_assert", "_Thread_local"]

/-- The characters that an identifier may start with. -/
def isIdentifierStart (character : Char) : Bool :=
  character.isAlpha || character == '_'

/-- The characters that may follow the first one of an identifier. -/
def isIdentifierPart (character : Char) : Bool :=
  character.isAlphanum || character == '_'

/-- Does the text name a member of a C struct? -/
def isIdentifier (text : String) : Bool :=
  match text.toList with
  | [] => false
  | first :: rest =>
      isIdentifierStart first && rest.all isIdentifierPart &&
        !reservedWords.contains text

theorem isIdentifierPart_of_isIdentifierStart {character : Char}
    (start : isIdentifierStart character = true) :
    isIdentifierPart character = true := by
  simp only [isIdentifierStart, isIdentifierPart, Char.isAlphanum,
    Bool.or_eq_true] at start ⊢
  exact start.elim (fun letter => Or.inl (Or.inl letter)) Or.inr

/-- An identifier has no character outside its alphabet. -/
theorem isIdentifierPart_of_mem {text : String} {character : Char}
    (identifier : isIdentifier text = true)
    (member : character ∈ text.toList) :
    isIdentifierPart character = true := by
  unfold isIdentifier at identifier
  split at identifier
  · contradiction
  · rename_i first rest spelling
    simp only [Bool.and_eq_true, List.all_eq_true] at identifier
    rw [spelling, List.mem_cons] at member
    rcases member with rfl | later
    · exact isIdentifierPart_of_isIdentifierStart identifier.1.1
    · exact identifier.1.2 character later

/-- The empty text names nothing. -/
theorem ne_empty_of_isIdentifier {text : String}
    (identifier : isIdentifier text = true) : text ≠ "" := by
  rintro rfl
  simp [isIdentifier] at identifier

end ShaderBindings
