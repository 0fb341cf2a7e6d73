import ShaderBindings.Text.LetterCase

/-!
# Words

A text is read as a sequence of words.  Words are separated by characters that
are not alphanumeric; inside a run of alphanumeric characters a new word
starts where the case of the letters shows one, as in `someWord` and in
`HTMLPage`.

Which characters are alphanumeric, and which case a character has, is given by
tables.  All of this can be done with any tables.

The scan of a run remembers the case of the last cased character of the
current word.  A word ends behind a character when that case is lower and the
next character is upper case.  It ends in front of an upper-case character
when the case before it is upper and the next character is lower case: the
last capital of a row starts the word of the small letters behind it.
-/

namespace ShaderBindings

/-- Put a character in front of the first of several words. -/
def consToHead (character : Char) : List (List Char) → List (List Char)
  | [] => [[character]]
  | word :: words => (character :: word) :: words

/--
Divide a run of alphanumeric characters.  The first word of the result goes on
with the current word, in which `seen` is the case of the last cased
character; it is empty when the current word has come to its end.
-/
def divideFrom (caseOf : Char → Option LetterCase) :
    Option LetterCase → List Char → List (List Char)
  | _, [] => []
  | _, [last] => [[last]]
  | seen, character :: next :: rest =>
      let current := (caseOf character).or seen
      if current = some .lower ∧ caseOf next = some .upper then
        [character] :: divideFrom caseOf none (next :: rest)
      else if seen = some .upper ∧ caseOf character = some .upper ∧
          caseOf next = some .lower then
        [] :: consToHead character (divideFrom caseOf none (next :: rest))
      else
        consToHead character (divideFrom caseOf current (next :: rest))

/-- The words of a run of alphanumeric characters. -/
def divide (caseOf : Char → Option LetterCase) (run : List Char) :
    List (List Char) :=
  divideFrom caseOf none run

/-- The longest runs of alphanumeric characters in a text. -/
def alphanumericRuns (alphanumeric : Char → Bool) (text : List Char) :
    List (List Char) :=
  (text.splitOnP fun character => !alphanumeric character).filter
    fun run => !run.isEmpty

/-- The words of a text. -/
def words (alphanumeric : Char → Bool) (caseOf : Char → Option LetterCase)
    (text : List Char) : List (List Char) :=
  (alphanumericRuns alphanumeric text).flatMap (divide caseOf)

/-! ## Dividing loses nothing -/

@[simp]
theorem flatten_consToHead (character : Char) (words : List (List Char)) :
    (consToHead character words).flatten = character :: words.flatten := by
  cases words <;> simp [consToHead]

/-- The words of a run are the characters of the run, in order. -/
@[simp]
theorem flatten_divideFrom (caseOf : Char → Option LetterCase)
    (seen : Option LetterCase) (run : List Char) :
    (divideFrom caseOf seen run).flatten = run := by
  induction run generalizing seen with
  | nil => simp [divideFrom]
  | cons character rest inductionHypothesis =>
      cases rest with
      | nil => simp [divideFrom]
      | cons next rest =>
          simp only [divideFrom]
          split
          · simp [inductionHypothesis]
          · split <;> simp [inductionHypothesis]

/-- Dividing a run loses none of its characters. -/
theorem flatten_divide (caseOf : Char → Option LetterCase)
    (run : List Char) : (divide caseOf run).flatten = run :=
  flatten_divideFrom caseOf none run

end ShaderBindings
