import ShaderBindings.Proofs.Code.PrintedLines
import ShaderBindings.Proofs.Code.Reading

/-!
# Reading statements

A statement stands on a line of its own.  What follows its first word tells
what it is: an assignment, a call, a test that opens a block, or the clearing
of a variable.  A line without a word is blank or closes a block.

The functions of a file are read line by line.  A function starts with its
head at the margin and ends with the first brace at the margin.  Reading gives
back what was printed: `readStatement_text` for one statement,
`mapM_readIndented` for the lines of a block, and `readFunctions_cons` for a
function.
-/

namespace ShaderBindings

/-! ## Readers -/

/-- Read a statement that stores what a call gives. -/
def readAssignment (input : List Char) : Option Line := do
  let (target, rest) ← readPlace input
  let rest ← expect " = " rest
  let (value, rest) ← readCall rest
  expectEnd ";" rest
  return .assign target value

/-- Read a statement that makes a call. -/
def readPerformed (input : List Char) : Option Line := do
  let (call, rest) ← readCall input
  expectEnd ";" rest
  return .perform call

/-- Read a line that opens a conditional block. -/
def readTest (input : List Char) : Option Line := do
  let rest ← expect "if (" input
  let (condition, rest) ← readCall rest
  expectEnd ") \x7b" rest
  return .openIf condition

/-- Read the clearing of a variable, which names the variable twice. -/
def readClearing (input : List Char) : Option Line := do
  let rest ← expect "memset(&" input
  let (name, rest) ← readName rest
  let rest ← expect ", 0, sizeof(" rest
  let (measured, rest) ← readName rest
  expectEnd "));" rest
  if measured = name then some (.clear name) else none

/--
Read a line that starts with a name; what follows the name tells its kind.
-/
def readWorded (input : List Char) : Option Line :=
  match input.dropWhile isIdentifierPart with
  | ' ' :: '(' :: _ => readTest input
  | '(' :: '&' :: _ => readClearing input
  | '(' :: _ => readPerformed input
  | _ => readAssignment input

/-- Read a statement without indentation. -/
def readStatement (input : List Char) : Option Line :=
  if input = [] then some .blank
  else if input = "\x7d".toList then some .closeBlock
  else readWorded input

/-- Read a statement behind any number of spaces. -/
def readIndented (input : List Char) : Option Line :=
  readStatement (input.dropWhile (· == ' '))

/-- A function of a file: its name and the lines between its braces. -/
structure FunctionDefinition where
  name : String
  body : List Line
deriving DecidableEq

/-- Read the line that opens the body of a function, and give its name. -/
def readFunctionHead (input : List Char) : Option String := do
  let rest ← expect "void " input
  let (name, rest) ← readName rest
  expectEnd " (void) \x7b" rest
  return name

/-- Read all functions in the lines of a file, in order. -/
def readFunctions : List (List Char) → Option (List FunctionDefinition)
  | [] => some []
  | line :: rest =>
      match readFunctionHead line with
      | none => readFunctions rest
      | some name => do
          let body ← (rest.takeWhile (· != "\x7d".toList)).mapM readIndented
          let later ← readFunctions rest
          return { name, body } :: later

/-! ## Statements are read back -/

/-- A statement that can be printed. -/
def Line.IsStatement : Line → Prop
  | .blank => True
  | .closeBlock => True
  | .assign target value => Place.IsWellNamed target ∧ value.IsWellNamed
  | .perform call => call.IsWellNamed
  | .openIf condition => condition.IsWellNamed
  | .clear name => isIdentifier name = true
  | _ => False

/-- Behind the first name of a place stands a dot, if anything. -/
theorem Place.toList_text_cons (name : String) (names : List String) :
    ∃ tail, (Place.text (name :: names)).toList = name.toList ++ tail ∧
      (tail = [] ∨ ∃ rest, tail = '.' :: rest) := by
  cases names with
  | nil => exact ⟨[], by simp [Place.text], Or.inl rfl⟩
  | cons next later =>
      refine ⟨'.' :: (Place.text (next :: later)).toList, ?_, Or.inr ⟨_, rfl⟩⟩
      rw [toList_text, toList_text, List.map_cons, List.map_cons,
        List.intercalate_cons_cons]
      simp

/-- An identifier is the whole first word when a text goes on without one. -/
theorem dropWhile_name_append {name : String} {rest : List Char}
    (identifier : isIdentifier name = true)
    (stops : Stops isIdentifierPart rest) :
    (name.toList ++ rest).dropWhile isIdentifierPart = rest :=
  dropWhile_append_of_stops
    (fun _ member => isIdentifierPart_of_mem identifier member) stops

namespace Line

/-- The text of an assignment, in the order in which its parts are read. -/
theorem toList_text_assign (target : Place) (value : Call) :
    (assign target value).text.toList =
      (Place.text target).toList ++
        (" = ".toList ++ (value.text.toList ++ ";".toList)) := by
  show (Place.text target ++ " = " ++ value.text ++ ";").toList = _
  simp only [String.toList_append, List.append_assoc]

theorem indentedAt_assign (level : Nat) (target : Place) (value : Call) :
    (assign target value).indentedAt level =
      List.replicate (3 * level) ' ' ++
        ((Place.text target).toList ++
          (" = ".toList ++ (value.text.toList ++ ";".toList))) := by
  rw [← toList_text_assign]
  rfl

theorem toList_text_perform (call : Call) :
    (perform call).text.toList = call.text.toList ++ ";".toList := by
  show (call.text ++ ";").toList = _
  rw [String.toList_append]

theorem toList_text_openIf (condition : Call) :
    (openIf condition).text.toList =
      "if (".toList ++ (condition.text.toList ++ ") \x7b".toList) := by
  show ("if (" ++ condition.text ++ ") \x7b").toList = _
  simp only [String.toList_append, List.append_assoc]

theorem toList_text_clear (name : String) :
    (clear name).text.toList =
      "memset(&".toList ++ (name.toList ++ (", 0, sizeof(".toList ++
        (name.toList ++ "));".toList))) := by
  show ("memset(&" ++ name ++ ", 0, sizeof(" ++ name ++ "));").toList = _
  simp only [String.toList_append, List.append_assoc]

/-- Behind its indentation a line is its text. -/
theorem dropWhile_space_indentedAt {line : Line}
    (stops : Stops (· == ' ') line.text.toList) (level : Nat) :
    (line.indentedAt level).dropWhile (· == ' ') = line.text.toList := by
  rcases line.indentedAt_eq_nil_or level with rfl | spelling
  · rfl
  · have spaces : ∀ character ∈ List.replicate (3 * level) ' ',
        (character == ' ') = true := by
      intro character member
      rw [List.eq_of_mem_replicate member]
      rfl
    rw [spelling, dropWhile_append_of_stops spaces stops]

end Line

/-- Assignments are read back. -/
theorem readAssignment_text {target : Place} {value : Call}
    (targetNamed : Place.IsWellNamed target)
    (valueNamed : value.IsWellNamed) :
    readAssignment (Line.assign target value).text.toList =
      some (.assign target value) := by
  have stops : Stops isPlacePart
      (" = ".toList ++ (value.text.toList ++ ";".toList)) :=
    stops_cons (by decide) _
  rw [Line.toList_text_assign, readAssignment,
    targetNamed.readPlace_append stops]
  simp only [Option.bind_eq_bind, Option.bind_some, expect_append,
    valueNamed.readCall_append, expectEnd_self]
  rfl

/-- Calls that stand alone are read back. -/
theorem readPerformed_text {call : Call} (callNamed : call.IsWellNamed) :
    readPerformed (Line.perform call).text.toList = some (.perform call) := by
  rw [Line.toList_text_perform, readPerformed, callNamed.readCall_append]
  simp only [Option.bind_eq_bind, Option.bind_some, expectEnd_self]
  rfl

/-- Conditions are read back. -/
theorem readTest_text {condition : Call}
    (conditionNamed : condition.IsWellNamed) :
    readTest (Line.openIf condition).text.toList =
      some (.openIf condition) := by
  rw [Line.toList_text_openIf, readTest]
  simp only [Option.bind_eq_bind, Option.bind_some, expect_append,
    conditionNamed.readCall_append, expectEnd_self]
  rfl

/-- The clearing of a variable is read back. -/
theorem readClearing_text {name : String}
    (identifier : isIdentifier name = true) :
    readClearing (Line.clear name).text.toList = some (.clear name) := by
  have stopsFirst : Stops isIdentifierPart
      (", 0, sizeof(".toList ++ (name.toList ++ "));".toList)) :=
    stops_cons (by decide) _
  have stopsSecond : Stops isIdentifierPart "));".toList :=
    stops_cons (by decide) _
  rw [Line.toList_text_clear, readClearing]
  simp only [Option.bind_eq_bind, Option.bind_some, expect_append,
    readName_append identifier stopsFirst,
    readName_append identifier stopsSecond, expectEnd_self, if_true]

/-! ### What follows the first word -/

/-- Behind the first name of an assignment there is a dot or an equals sign. -/
theorem readWorded_assign {target : Place} (value : Call)
    (targetNamed : Place.IsWellNamed target) :
    readWorded (Line.assign target value).text.toList =
      readAssignment (Line.assign target value).text.toList := by
  obtain ⟨name, names, rfl⟩ :=
    List.exists_cons_of_ne_nil targetNamed.nonempty
  have identifier := targetNamed.identifiers name List.mem_cons_self
  obtain ⟨tail, spelling, nothing | ⟨rest, dot⟩⟩ :=
    Place.toList_text_cons name names
  · subst nothing
    have stops : Stops isIdentifierPart
        (" = ".toList ++ (value.text.toList ++ ";".toList)) :=
      stops_cons (by decide) _
    rw [readWorded, Line.toList_text_assign, spelling, List.append_nil,
      dropWhile_name_append identifier stops]
    rfl
  · subst dot
    have stops : Stops isIdentifierPart ('.' :: rest ++
        (" = ".toList ++ (value.text.toList ++ ";".toList))) :=
      stops_cons (by decide) _
    rw [readWorded, Line.toList_text_assign, spelling, List.append_assoc,
      dropWhile_name_append identifier stops]
    rfl

/--
Behind the function of a call there is a parenthesis, and then no ampersand.
-/
theorem readWorded_perform {call : Call} (callNamed : call.IsWellNamed) :
    readWorded (Line.perform call).text.toList =
      readPerformed (Line.perform call).text.toList := by
  have stops : Stops isIdentifierPart ("(".toList ++
      ((", ".intercalate (call.arguments.map Argument.text)).toList ++
        ')' :: ";".toList)) := stops_cons (by decide) _
  have noAddress := head?_arguments_ne callNamed.arguments ";".toList
  rw [readWorded, Line.toList_text_perform, Call.toList_text_append,
    dropWhile_name_append callNamed.function stops]
  split
  case h_1 other => cases other
  case h_2 rest other =>
    rcases List.cons.inj other with ⟨_, inside⟩
    exact absurd (congrArg List.head? inside) noAddress
  case h_3 => rfl
  case h_4 other => exact absurd rfl (other _)

theorem readWorded_openIf (condition : Call) :
    readWorded (Line.openIf condition).text.toList =
      readTest (Line.openIf condition).text.toList := by
  rw [readWorded, Line.toList_text_openIf]
  rfl

theorem readWorded_clear (name : String) :
    readWorded (Line.clear name).text.toList =
      readClearing (Line.clear name).text.toList := by
  rw [readWorded, Line.toList_text_clear]
  rfl

/-! ### Statements and blocks -/

/-- What does not start with a brace is no end of a block. -/
theorem readStatement_of_head? {input : List Char} {first : Char}
    (starts : input.head? = some first) (noBrace : first ≠ '\x7d') :
    readStatement input = readWorded input := by
  have nonempty : input ≠ [] := by
    rintro rfl
    cases starts
  have noClosing : input ≠ "\x7d".toList := by
    rintro rfl
    exact noBrace (Option.some.inj starts).symm
  rw [readStatement, if_neg nonempty, if_neg noClosing]

namespace Line.IsStatement

/-- A statement is blank, ends a block, or starts with a part of a place. -/
theorem starts {line : Line} (statement : line.IsStatement) :
    line = .blank ∨ line = .closeBlock ∨
      ∃ first, line.text.toList.head? = some first ∧
        isPlacePart first = true := by
  cases line with
  | blank => exact Or.inl rfl
  | closeBlock => exact Or.inr (Or.inl rfl)
  | openIf condition =>
      refine Or.inr (Or.inr ⟨'i', ?_, by decide⟩)
      rw [Line.toList_text_openIf]
      rfl
  | clear name =>
      refine Or.inr (Or.inr ⟨'m', ?_, by decide⟩)
      rw [Line.toList_text_clear]
      rfl
  | assign target value =>
      refine Or.inr (Or.inr ?_)
      rw [Line.toList_text_assign,
        List.head?_append_of_ne_nil _ statement.1.toList_text_ne_nil]
      obtain ⟨first, rest, spelling⟩ :=
        List.exists_cons_of_ne_nil statement.1.toList_text_ne_nil
      refine ⟨first, by rw [spelling]; rfl, ?_⟩
      exact statement.1.isPlacePart_of_mem (by simp [spelling])
  | perform call =>
      have callNamed : call.IsWellNamed := statement
      refine Or.inr (Or.inr ?_)
      rcases exists_cons_of_isIdentifier callNamed.function with
        ⟨first, rest, spelling, part⟩
      rw [Line.toList_text_perform, Call.toList_text_append, spelling]
      refine ⟨first, rfl, ?_⟩
      simp [isPlacePart, part]
  | _ => exact statement.elim

/-- A statement that starts with a name is read back. -/
theorem readWorded_text {line : Line} (statement : line.IsStatement)
    (notBlank : line ≠ .blank) (notClosing : line ≠ .closeBlock) :
    readWorded line.text.toList = some line := by
  cases line with
  | assign target value =>
      rw [readWorded_assign value statement.1]
      exact readAssignment_text statement.1 statement.2
  | perform call =>
      rw [readWorded_perform statement]
      exact readPerformed_text statement
  | openIf condition =>
      rw [readWorded_openIf]
      exact readTest_text statement
  | clear name =>
      rw [readWorded_clear]
      exact readClearing_text statement
  | blank => exact absurd rfl notBlank
  | closeBlock => exact absurd rfl notClosing
  | _ => exact statement.elim

/-- Every statement is read back from its spelling. -/
theorem readStatement_text {line : Line} (statement : line.IsStatement) :
    readStatement line.text.toList = some line := by
  by_cases blank : line = .blank
  · rw [blank]
    rfl
  by_cases closing : line = .closeBlock
  · rw [closing]
    rfl
  rcases statement.starts with isBlank | isClosing | ⟨first, starts, part⟩
  · exact absurd isBlank blank
  · exact absurd isClosing closing
  · have noBrace : first ≠ '\x7d' := by
      rintro rfl
      exact absurd part (by decide)
    rw [readStatement_of_head? starts noBrace]
    exact statement.readWorded_text blank closing

/-- No statement starts with a space. -/
theorem stops_space {line : Line} (statement : line.IsStatement) :
    Stops (· == ' ') line.text.toList := by
  intro character first
  rcases statement.starts with rfl | rfl | ⟨start, starts, part⟩
  · cases first
  · cases first
    rfl
  · rw [starts] at first
    cases first
    by_contra space
    simp only [Bool.not_eq_false, beq_iff_eq] at space
    rw [space] at part
    exact absurd part (by decide)

/-- The indentation of a statement has no part in what it says. -/
theorem readIndented_indentedAt {line : Line} (statement : line.IsStatement)
    (level : Nat) : readIndented (line.indentedAt level) = some line := by
  rw [readIndented, line.dropWhile_space_indentedAt statement.stops_space]
  exact statement.readStatement_text

/-- A statement is known by its line, at whatever depth that stands. -/
theorem eq_of_indentedAt_eq {line other : Line}
    (statement : line.IsStatement) (otherStatement : other.IsStatement)
    {level otherLevel : Nat}
    (same : line.indentedAt level = other.indentedAt otherLevel) :
    line = other := by
  have read := statement.readIndented_indentedAt level
  rw [same, otherStatement.readIndented_indentedAt] at read
  exact (Option.some.inj read).symm

/-- No other statements are printed as this one would be. -/
theorem notMem_indentedLines {line : Line} (statement : line.IsStatement)
    {lines : List Line} (statements : ∀ other ∈ lines, other.IsStatement)
    (absent : line ∉ lines) (level depth : Nat) :
    line.indentedAt level ∉ indentedLines depth lines := by
  intro member
  obtain ⟨other, otherMember, _, same⟩ := exists_of_mem_indentedLines member
  rw [statement.eq_of_indentedAt_eq (statements other otherMember) same]
    at absent
  exact absent otherMember

/-- What a statement shows as it stands are identifiers. -/
theorem isIdentifier_of_mem_bareTexts {line : Line}
    (statement : line.IsStatement) :
    ∀ text ∈ line.bareTexts, isIdentifier text = true := by
  cases line with
  | blank | closeBlock => exact List.forall_mem_nil _
  | assign target value =>
      exact List.forall_mem_append.2 ⟨statement.1.identifiers,
        statement.2.isIdentifier_of_mem_bareTexts⟩
  | perform call | openIf call =>
      exact Call.IsWellNamed.isIdentifier_of_mem_bareTexts statement
  | clear name => exact List.forall_mem_singleton.2 statement
  | _ => exact statement.elim

theorem isOneLine {line : Line} (statement : line.IsStatement) :
    line.IsOneLine :=
  Line.isOneLine_of_lack
    (lack_of_identifiers (by decide) statement.isIdentifier_of_mem_bareTexts)

end Line.IsStatement

/-- Statements are read back from their lines, one by one. -/
theorem mapM_readIndented {lines : List Line}
    (statements : ∀ line ∈ lines, line.IsStatement) (depth : Nat) :
    (indentedLines depth lines).mapM readIndented = some lines :=
  mapM_indentedLines
    (fun line member => (statements line member).readIndented_indentedAt)
    depth

/-! ## Functions are read back -/

/-- The name of a function is read back from the line that opens its body. -/
theorem readFunctionHead_text {name : String}
    (identifier : isIdentifier name = true) :
    readFunctionHead (Line.openFunction name).text.toList = some name := by
  have spelling : (Line.openFunction name).text.toList =
      "void ".toList ++ (name.toList ++ " (void) \x7b".toList) := by
    show ("void " ++ name ++ " (void) \x7b").toList = _
    simp only [String.toList_append, List.append_assoc]
  have stops : Stops isIdentifierPart " (void) \x7b".toList :=
    stops_cons (by decide) _
  rw [spelling, readFunctionHead]
  generalize " (void) \x7b" = ending at stops ⊢
  simp only [Option.bind_eq_bind, Option.bind_some, expect_append,
    readName_append identifier stops, expectEnd_self]
  rfl

/-- Only the line that opens a body is read as one. -/
theorem eq_of_readFunctionHead {input : List Char} {name : String}
    (read : readFunctionHead input = some name) :
    input = "void ".toList ++ (name.toList ++ " (void) \x7b".toList) := by
  simp only [readFunctionHead, Option.bind_eq_bind,
    Option.bind_eq_some_iff] at read
  obtain ⟨named, voidRead, ⟨found, closing⟩, nameRead, done, endRead, same⟩ :=
    read
  cases same
  rw [eq_of_expect voidRead, eq_of_readName nameRead,
    show closing = _ from eq_of_expectEnd endRead]

theorem readFunctionHead_eq_none_of_head? {input : List Char}
    (start : input.head? ≠ some 'v') : readFunctionHead input = none := by
  cases read : readFunctionHead input with
  | none => rfl
  | some name =>
      rw [eq_of_readFunctionHead read] at start
      exact absurd rfl start

theorem readFunctionHead_eq_none_of_getLast? {input : List Char}
    (last : input.getLast? ≠ some '\x7b') : readFunctionHead input = none := by
  cases read : readFunctionHead input with
  | none => rfl
  | some name =>
      have ending : input.getLast? = some '\x7b' := by
        rw [eq_of_readFunctionHead read, List.getLast?_append,
          List.getLast?_append]
        rfl
      exact absurd ending last

/-- Inside a block no function is opened and none is closed. -/
theorem IsIndented.readFunctionHead_eq_none {depth : Nat} {text : List Char}
    (indented : IsIndented (depth + 1) text) :
    readFunctionHead text = none := by
  apply readFunctionHead_eq_none_of_head?
  intro first
  exact absurd (indented.head? first) (by decide)

/-- An indented line does not end a function. -/
theorem IsIndented.ne_closing {depth : Nat} {text : List Char}
    (indented : IsIndented (depth + 1) text) : text ≠ "\x7d".toList := by
  rintro rfl
  exact absurd (indented.head? rfl) (by decide)

theorem Balanced.bne_closing {lines : List Line} (balanced : Balanced lines) :
    ∀ text ∈ indentedLines 1 lines, (text != "\x7d".toList) = true :=
  fun text member =>
    bne_iff_ne.2 (balanced.isIndented 1 text member).ne_closing

/-- Lines that open no body are passed over. -/
theorem readFunctions_append {lines : List (List Char)}
    (noHead : ∀ line ∈ lines, readFunctionHead line = none)
    (rest : List (List Char)) :
    readFunctions (lines ++ rest) = readFunctions rest := by
  induction lines with
  | nil => rfl
  | cons line later inductionHypothesis =>
      rw [List.forall_mem_cons] at noHead
      rw [List.cons_append, readFunctions, noHead.1]
      exact inductionHypothesis noHead.2

/-- A function is read back, and then what stands behind it. -/
theorem readFunctions_cons {name : String} {body : List Line}
    (identifier : isIdentifier name = true)
    (statements : ∀ line ∈ body, line.IsStatement) (balanced : Balanced body)
    (rest : List (List Char)) :
    readFunctions ((Line.openFunction name).text.toList ::
        (indentedLines 1 body ++ "\x7d".toList :: rest)) =
      (readFunctions rest).map ({ name, body } :: ·) := by
  have later : readFunctions
      (indentedLines 1 body ++ "\x7d".toList :: rest) =
        readFunctions rest := by
    rw [readFunctions_append fun text member =>
      (balanced.isIndented 1 text member).readFunctionHead_eq_none]
    rfl
  rw [readFunctions, readFunctionHead_text identifier]
  simp only [
    takeWhile_append_of_stops balanced.bne_closing (stops_bne _ _),
    mapM_readIndented statements, later]
  cases readFunctions rest <;> rfl

example :
    readFunctions
        ["void load (void) \x7b".toList,
          "   shaders.sky.time = find(shaders.sky.program, \"time\");".toList,
          "\x7d".toList] =
      some
        [{ name := "load"
           body :=
             [.assign ["shaders", "sky", "time"]
               { function := "find"
                 arguments :=
                   [.place ["shaders", "sky", "program"],
                     .literal "time"] }] }] := by
  cbv

end ShaderBindings
