/-!
# Control sequences

A text may hold control characters and sequences of characters that steer a
terminal.  Where a text is quoted for a reader they are left out: of the
control characters only white space is kept, and a sequence is dropped from
the escape character that opens it to the character that ends it.

White space in an escape or control sequence is kept, and it suspends the
sequence: what follows is kept as well, up to the next control character,
behind which the sequence goes on.  A character outside of ASCII makes a
suspended sequence be forgotten.
-/

namespace ShaderBindings

/-- How far a sequence has been read that is not at its end. -/
inductive ControlSequence where
  /-- Behind the escape character. -/
  | escape
  /-- In an escape sequence of more than one character. -/
  | escapeIntermediate
  /-- In a control sequence: parameters, and then the letter of a function. -/
  | control
  /-- At the start of a string for a device. -/
  | deviceStart
  /-- In the parameters of a string for a device. -/
  | deviceParameter
  /-- Behind the parameters of a string for a device. -/
  | deviceIntermediate
  /-- In the contents of a string. -/
  | contents
  /-- In a command for the operating system. -/
  | command
deriving DecidableEq

/-- A character without a shape, in ASCII. -/
def isControlCharacter (character : Char) : Bool :=
  character < ' ' || character == '\x7f'

/-- The control characters that are white space. -/
def isBlankControl (character : Char) : Bool :=
  ['\t', '\n', '\x0c', '\r'].contains character

/-- The characters that are kept outside of a sequence. -/
def isKept (character : Char) : Bool :=
  !isControlCharacter character || isBlankControl character

/-- Is the byte that ends a string among the bytes of a character? -/
def holdsStringEnd (character : Char) : Bool :=
  (String.utf8EncodeChar character).contains 0x9c

namespace ControlSequence

/-- The sequences in which white space is kept. -/
def keepsBlanks : ControlSequence → Bool
  | .escape | .escapeIntermediate | .control => true
  | _ => false

/-- The sequence that a character behind the escape character begins. -/
def begin (character : Char) : Option ControlSequence :=
  if character == '[' then some .control
  else if character == ']' then some .command
  else if character == 'P' then some .deviceStart
  else if ['X', '^', '_'].contains character then some .contents
  else none

/--
The sequence behind a character with a shape, or nothing if it ends there.
The characters up to the slash come between, those up to the question mark
are parameters, and the others of ASCII are final.
-/
def afterShape (sequence : ControlSequence) (character : Char) :
    Option ControlSequence :=
  match sequence with
  | .escape =>
      if character ≤ '/' then some .escapeIntermediate else begin character
  | .escapeIntermediate =>
      if character ≤ '/' then some .escapeIntermediate else none
  | .control => if character ≤ '?' then some .control else none
  | .deviceStart =>
      if character ≤ '/' then some .deviceIntermediate
      else if character ≤ '?' then some .deviceParameter
      else some .contents
  | .deviceParameter =>
      if character ≤ '/' then some .deviceIntermediate
      else if character ≤ ';' then some .deviceParameter
      else some .contents
  | .deviceIntermediate =>
      if character ≤ '/' then some .deviceIntermediate else some .contents
  | .contents => some .contents
  | .command => some .command

/-- The sequence behind a character, or nothing if it ends there. -/
def next (sequence : ControlSequence) (character : Char) :
    Option ControlSequence :=
  if isControlCharacter character then
    if sequence = .command ∧ character = '\x07' then none else some sequence
  else if '\x7f' < character then
    if sequence = .contents ∧ holdsStringEnd character then none
    else some sequence
  else
    sequence.afterShape character

end ControlSequence

/-- The sequence that is open, and whether white space has suspended it. -/
structure Reading where
  sequence? : Option ControlSequence := none
  suspended : Bool := false
deriving DecidableEq

namespace Reading

/-- Is a character kept that is not itself part of a sequence? -/
def keepsText (reading : Reading) : Bool :=
  reading.sequence?.isNone || reading.suspended

/-- Is the next character kept? -/
def keeps (reading : Reading) (character : Char) : Bool :=
  if reading.keepsText then isKept character
  else isBlankControl character &&
    reading.sequence?.any ControlSequence.keepsBlanks

/-- Go on behind a character that is not kept. -/
def drop (reading : Reading) (character : Char) : Reading where
  sequence? :=
    if character = '\x1b' then some .escape
    else if character = '\x18' ∨ character = '\x1a' then none
    else reading.sequence?.bind (·.next character)

/-- Go on behind a character that is kept. -/
def keep (reading : Reading) (character : Char) : Reading :=
  if '\x7f' < character then {}
  else { reading with suspended := reading.sequence?.isSome }

/-- The characters that are kept. -/
def visible (reading : Reading) : List Char → List Char
  | [] => []
  | character :: rest =>
      if reading.keeps character then
        character :: (reading.keep character).visible rest
      else
        (reading.drop character).visible rest

/-- What is kept of a text is part of the text, in order. -/
theorem visible_sublist (reading : Reading) (text : List Char) :
    (reading.visible text).Sublist text := by
  induction text generalizing reading with
  | nil => exact List.Sublist.refl []
  | cons character rest inductionHypothesis =>
      unfold visible
      split
      · exact (inductionHypothesis _).cons_cons character
      · exact (inductionHypothesis _).cons character

/-- A text without control characters is kept as it is. -/
theorem visible_eq_self {text : List Char}
    (shaped : ∀ character ∈ text, isControlCharacter character = false) :
    ({} : Reading).visible text = text := by
  induction text with
  | nil => rfl
  | cons character rest inductionHypothesis =>
      have kept : ({} : Reading).keeps character = true := by
        simp [keeps, keepsText, isKept,
          shaped character List.mem_cons_self]
      have still : ({} : Reading).keep character = {} := by
        simp [keep]
      rw [visible, if_pos kept, still, inductionHypothesis fun other member =>
        shaped other (List.mem_cons_of_mem _ member)]

end Reading

/-- A text as it is quoted for a reader. -/
def withoutControls (text : String) : String :=
  String.ofList (({} : Reading).visible text.toList)

end ShaderBindings
