import ShaderBindings.Proofs.Code.BareTexts

/-!
# Reading calls

A reader takes a value from the start of a text and gives it together with the
rest of the text.  A name is the longest run of identifier characters, a place
is a run of names with dots between them, and a literal goes from its opening
quote to the first quote that is not escaped.  A call is a name and, between
parentheses, arguments that are separated by a comma and a space.

The main theorem, `readCall_text`, says that every call whose names are
identifiers is read back from its text, whatever its literals hold and
whatever stands behind it.
-/

namespace ShaderBindings

/-! ## Readers -/

/-- Take a fixed text from the start. -/
def expect (text : String) (input : List Char) : Option (List Char) :=
  input.dropPrefix? text.toList

/-- Accept a fixed text as all that is left. -/
def expectEnd (text : String) (input : List Char) : Option Unit :=
  if input = text.toList then some () else none

/-- The characters of places are those of names, and the dot. -/
def isPlacePart (character : Char) : Bool :=
  isIdentifierPart character || character == '.'

/-- Take the longest run of identifier characters, which is to be a name. -/
def readName (input : List Char) : Option (String × List Char) :=
  let name := String.ofList (input.takeWhile isIdentifierPart)
  if isIdentifier name then
    some (name, input.dropWhile isIdentifierPart)
  else
    none

/-- Take the longest run of names with dots between them. -/
def readPlace (input : List Char) : Option (Place × List Char) :=
  let names :=
    ((input.takeWhile isPlacePart).splitOn '.').map String.ofList
  if names.all isIdentifier then
    some (names, input.dropWhile isPlacePart)
  else
    none

/-- The character that is meant by one behind a backslash. -/
def unescape? : Char → Option Char
  | '"' => some '"'
  | '\\' => some '\\'
  | 'n' => some '\n'
  | 't' => some '\t'
  | _ => none

/-- Take the rest of a literal, up to the closing quote. -/
def readLiteral : List Char → Option (List Char × List Char)
  | [] => none
  | '"' :: rest => some ([], rest)
  | '\n' :: _ => none
  | '\\' :: character :: rest => do
      let decoded ← unescape? character
      let (text, rest) ← readLiteral rest
      return (decoded :: text, rest)
  | character :: rest => do
      let (text, rest) ← readLiteral rest
      return (character :: text, rest)

/-- Take an argument: a literal if there is a quote, a place otherwise. -/
def readArgument (input : List Char) : Option (Argument × List Char) :=
  match input with
  | '"' :: rest =>
      (readLiteral rest).map fun (text, rest) =>
        (.literal (String.ofList text), rest)
  | _ => (readPlace input).map fun (place, rest) => (.place place, rest)

/-! ## What is read gets shorter -/

theorem length_lt_of_readPlace {input : List Char} {result : Place × List Char}
    (read : readPlace input = some result) :
    result.2.length < input.length := by
  have lengths :=
    congrArg List.length (List.takeWhile_append_dropWhile (l := input)
      (p := isPlacePart))
  rw [List.length_append] at lengths
  simp only [readPlace] at read
  split at read
  · rename_i identifiers
    have nonempty : input.takeWhile isPlacePart ≠ [] := by
      intro empty
      rw [empty] at identifiers
      simp [List.splitOn_eq_singleton, isIdentifier] at identifiers
    have positive := List.length_pos_of_ne_nil nonempty
    cases read
    simp only
    omega
  · contradiction

theorem length_lt_of_readLiteral {input : List Char}
    {result : List Char × List Char}
    (read : readLiteral input = some result) :
    result.2.length < input.length := by
  induction input using readLiteral.induct generalizing result with
  | case1 => simp [readLiteral] at read
  | case2 rest =>
      simp only [readLiteral, Option.some.injEq] at read
      subst result
      simp
  | case3 => simp [readLiteral] at read
  | case4 character rest inductionHypothesis =>
      simp only [readLiteral, Option.bind_eq_bind, Option.bind_eq_some_iff,
        Option.pure_def, Option.some.injEq] at read
      rcases read with ⟨decoded, _, tail, tailRead, rfl⟩
      have shorter := inductionHypothesis tailRead
      simp only [List.length_cons]
      omega
  | case5 character rest _ _ _ inductionHypothesis =>
      simp only [readLiteral, Option.bind_eq_bind, Option.bind_eq_some_iff,
        Option.pure_def, Option.some.injEq] at read
      rcases read with ⟨tail, tailRead, rfl⟩
      have shorter := inductionHypothesis tailRead
      simp only [List.length_cons]
      omega

/-- No argument is empty. -/
theorem length_lt_of_readArgument {input : List Char}
    {result : Argument × List Char}
    (read : readArgument input = some result) :
    result.2.length < input.length := by
  unfold readArgument at read
  split at read
  · rcases Option.map_eq_some_iff.1 read with ⟨literal, literalRead, rfl⟩
    have shorter := length_lt_of_readLiteral literalRead
    simp only [List.length_cons]
    omega
  · rcases Option.map_eq_some_iff.1 read with ⟨place, placeRead, rfl⟩
    exact length_lt_of_readPlace placeRead

/-- Take the arguments behind the first one, up to the closing parenthesis. -/
def readFurtherArguments (input : List Char) :
    Option (List Argument × List Char) :=
  match input with
  | ')' :: rest => some ([], rest)
  | ',' :: ' ' :: rest =>
      match _ : readArgument rest with
      | none => none
      | some (argument, rest) => do
          let (arguments, rest) ← readFurtherArguments rest
          return (argument :: arguments, rest)
  | _ => none
termination_by input.length
decreasing_by
  have shorter := length_lt_of_readArgument ‹_›
  simp only [List.length_cons] at shorter ⊢
  omega

/-- Take the arguments of a call, up to the closing parenthesis. -/
def readArguments (input : List Char) :
    Option (List Argument × List Char) :=
  match input with
  | ')' :: rest => some ([], rest)
  | _ => do
      let (argument, rest) ← readArgument input
      let (arguments, rest) ← readFurtherArguments rest
      return (argument :: arguments, rest)

/-- Take a call: a name and arguments in parentheses. -/
def readCall (input : List Char) : Option (Call × List Char) := do
  let (function, rest) ← readName input
  let rest ← expect "(" rest
  let (arguments, rest) ← readArguments rest
  return ({ function, arguments }, rest)

/-! ## Runs -/

section Runs

variable {Item : Type} {part : Item → Bool} {run rest : List Item}

/-- The list does not go on with an item of some class. -/
def Stops (part : Item → Bool) (rest : List Item) : Prop :=
  ∀ item, rest.head? = some item → part item = false

theorem stops_nil : Stops part [] := by
  rintro item ⟨⟩

theorem stops_cons {item : Item} (other : part item = false)
    (rest : List Item) : Stops part (item :: rest) := by
  rintro first ⟨⟩
  exact other

theorem stops_bne [BEq Item] [LawfulBEq Item] (item : Item)
    (rest : List Item) : Stops (· != item) (item :: rest) :=
  stops_cons (by simp) rest

/-- A run that stops is taken up to its end. -/
theorem takeWhile_append_of_stops (inside : ∀ item ∈ run, part item = true)
    (stops : Stops part rest) : (run ++ rest).takeWhile part = run := by
  rw [List.takeWhile_append_of_pos inside]
  cases rest with
  | nil => simp
  | cons item rest => simp [stops item rfl]

/-- Behind a run that stops, the rest is left. -/
theorem dropWhile_append_of_stops (inside : ∀ item ∈ run, part item = true)
    (stops : Stops part rest) : (run ++ rest).dropWhile part = rest := by
  rw [List.dropWhile_append_of_pos inside]
  cases rest with
  | nil => rfl
  | cons item rest => simp [stops item rfl]

/-- A run and what stops it are determined by the list that they make. -/
theorem append_inj_of_stops {otherRun otherRest : List Item}
    (inside : ∀ item ∈ run, part item = true) (stops : Stops part rest)
    (otherInside : ∀ item ∈ otherRun, part item = true)
    (otherStops : Stops part otherRest)
    (same : run ++ rest = otherRun ++ otherRest) :
    run = otherRun ∧ rest = otherRest := by
  constructor
  · rw [← takeWhile_append_of_stops inside stops, same,
      takeWhile_append_of_stops otherInside otherStops]
  · rw [← dropWhile_append_of_stops inside stops, same,
      dropWhile_append_of_stops otherInside otherStops]

end Runs

/-! ## Names and places -/

@[simp]
theorem expect_append (text : String) (rest : List Char) :
    expect text (text.toList ++ rest) = some rest :=
  List.dropPrefix?_append_of_beq rest (by simp)

@[simp]
theorem expectEnd_self (text : String) :
    expectEnd text text.toList = some () :=
  if_pos rfl

/-- A fixed text is taken from the start only where it stands there. -/
theorem eq_of_expect {text : String} {input rest : List Char}
    (read : expect text input = some rest) : input = text.toList ++ rest := by
  rcases List.dropPrefix?_eq_some_iff.1 read with ⟨start, spelling, same⟩
  rw [spelling, eq_of_beq same]

theorem eq_of_expectEnd {text : String} {input : List Char} {done : Unit}
    (read : expectEnd text input = some done) : input = text.toList := by
  by_contra other
  simp [expectEnd, other] at read

/-- What is taken as a name stood in front of the rest. -/
theorem eq_of_readName {input rest : List Char} {name : String}
    (read : readName input = some (name, rest)) :
    input = name.toList ++ rest := by
  simp only [readName] at read
  split at read
  · cases read
    simp
  · contradiction

/-- An identifier is read back when no part of one follows. -/
theorem readName_append {name : String} {rest : List Char}
    (identifier : isIdentifier name = true)
    (stops : Stops isIdentifierPart rest) :
    readName (name.toList ++ rest) = some (name, rest) := by
  have inside : ∀ character ∈ name.toList,
      isIdentifierPart character = true :=
    fun _ member => isIdentifierPart_of_mem identifier member
  rw [readName, takeWhile_append_of_stops inside stops,
    dropWhile_append_of_stops inside stops]
  simp [identifier]

/-- An identifier starts with one of its parts. -/
theorem exists_cons_of_isIdentifier {name : String}
    (identifier : isIdentifier name = true) :
    ∃ first rest, name.toList = first :: rest ∧
      isIdentifierPart first = true := by
  cases spelling : name.toList with
  | nil =>
      exact absurd (String.toList_eq_nil_iff.1 spelling)
        (ne_empty_of_isIdentifier identifier)
  | cons first rest =>
      have part : isIdentifierPart first = true :=
        isIdentifierPart_of_mem identifier (by simp [spelling])
      exact ⟨first, rest, rfl, part⟩

/-- A place that can be printed: some identifiers, one inside the other. -/
structure Place.IsWellNamed (place : Place) : Prop where
  nonempty : place ≠ []
  identifiers : ∀ name ∈ place, isIdentifier name = true

namespace Place.IsWellNamed

variable {place : Place}

/-- The text of a place has characters of places only. -/
theorem isPlacePart_of_mem (wellNamed : Place.IsWellNamed place)
    {character : Char} (member : character ∈ (Place.text place).toList) :
    isPlacePart character = true := by
  rw [toList_text] at member
  rcases mem_or_exists_of_mem_intercalate member with
    dot | ⟨text, named, inside⟩
  · rw [List.mem_singleton.1 dot]
    decide
  · rcases List.mem_map.1 named with ⟨name, nameMember, rfl⟩
    have part :=
      isIdentifierPart_of_mem (wellNamed.identifiers name nameMember) inside
    simp [isPlacePart, part]

/-- The names of a place are what stands between its dots. -/
theorem splitOn_text (wellNamed : Place.IsWellNamed place) :
    (Place.text place).toList.splitOn '.' = place.map String.toList := by
  rw [toList_text]
  apply List.splitOn_intercalate
  · intro text member
    rcases List.mem_map.1 member with ⟨name, nameMember, rfl⟩
    intro dot
    have part :=
      isIdentifierPart_of_mem (wellNamed.identifiers name nameMember) dot
    exact absurd part (by decide)
  · simpa using wellNamed.nonempty

/-- Places with the same text are the same. -/
theorem eq_of_text_eq (wellNamed : Place.IsWellNamed place) {other : Place}
    (otherNamed : Place.IsWellNamed other)
    (same : Place.text place = Place.text other) : place = other := by
  have names := wellNamed.splitOn_text
  rw [same, otherNamed.splitOn_text] at names
  exact List.map_injective_iff.2 (fun _ _ => String.toList_injective)
    names.symm

/-- A place is read back when no part of one follows. -/
theorem readPlace_append (wellNamed : Place.IsWellNamed place)
    {rest : List Char} (stops : Stops isPlacePart rest) :
    readPlace ((Place.text place).toList ++ rest) = some (place, rest) := by
  have inside : ∀ character ∈ (Place.text place).toList,
      isPlacePart character = true :=
    fun _ member => wellNamed.isPlacePart_of_mem member
  have names : (place.map String.toList).map String.ofList = place := by
    simp [Function.comp_def]
  rw [readPlace, takeWhile_append_of_stops inside stops,
    dropWhile_append_of_stops inside stops, wellNamed.splitOn_text, names]
  simp only [List.all_eq_true.2 wellNamed.identifiers, if_true]

theorem toList_text_ne_nil (wellNamed : Place.IsWellNamed place) :
    (Place.text place).toList ≠ [] := by
  intro empty
  have names := wellNamed.splitOn_text
  rw [empty, List.splitOn_eq_singleton (List.not_mem_nil)] at names
  rcases List.map_eq_singleton_iff.1 names.symm with ⟨name, rfl, spelling⟩
  have identifier := wellNamed.identifiers name List.mem_cons_self
  exact ne_empty_of_isIdentifier identifier
    (String.toList_eq_nil_iff.1 spelling)

theorem isPlacePart_of_head? (wellNamed : Place.IsWellNamed place)
    {rest : List Char} {character : Char}
    (first : ((Place.text place).toList ++ rest).head? = some character) :
    isPlacePart character = true := by
  rw [List.head?_append_of_ne_nil _ wellNamed.toList_text_ne_nil] at first
  exact wellNamed.isPlacePart_of_mem (List.mem_of_head? first)

end Place.IsWellNamed

/-! ## Literals -/

/-- Reading a literal undoes the escapes and stops at the closing quote. -/
theorem readLiteral_append (text rest : List Char) :
    readLiteral (text.flatMap escape ++ '"' :: rest) = some (text, rest) := by
  induction text with
  | nil => rfl
  | cons character later inductionHypothesis =>
      rw [List.flatMap_cons, List.append_assoc]
      by_cases quote : character = '"'
      · subst quote
        simp [escape, readLiteral, unescape?, inductionHypothesis]
      by_cases backslash : character = '\\'
      · subst backslash
        simp [escape, readLiteral, unescape?, inductionHypothesis]
      by_cases newline : character = '\n'
      · subst newline
        simp [escape, readLiteral, unescape?, inductionHypothesis]
      by_cases tab : character = '\t'
      · subst tab
        simp [escape, readLiteral, unescape?, inductionHypothesis]
      have plain : escape character = [character] := by
        simp [escape]
      rw [plain, List.singleton_append]
      simp [readLiteral, backslash, inductionHypothesis]

example : readLiteral "a\\\"\\n\", b".toList =
    some (['a', '"', '\n'], ", b".toList) := by
  rfl

/-! ## Arguments and calls -/

/--
The places among arguments have identifiers for names; literals may hold
anything.
-/
def Argument.IsWellNamed : Argument → Prop
  | .place path => Place.IsWellNamed path
  | .literal _ => True

/-- A call that can be printed. -/
structure Call.IsWellNamed (call : Call) : Prop where
  function : isIdentifier call.function = true
  arguments : ∀ argument ∈ call.arguments, argument.IsWellNamed

/-- Without a quote in front, a place is read. -/
theorem readArgument_of_noQuote {input : List Char}
    (noQuote : input.head? ≠ some '"') :
    readArgument input =
      (readPlace input).map fun (place, rest) => (.place place, rest) := by
  unfold readArgument
  split
  · exact absurd rfl noQuote
  · rfl

/-- An argument is read back, whatever its literal holds. -/
theorem Argument.IsWellNamed.readArgument_append {argument : Argument}
    (wellNamed : argument.IsWellNamed) {rest : List Char}
    (stops : Stops isPlacePart rest) :
    readArgument (argument.text.toList ++ rest) = some (argument, rest) := by
  cases argument with
  | place path =>
      have pathNamed : Place.IsWellNamed path := wellNamed
      have noQuote :
          ((Place.text path).toList ++ rest).head? ≠ some '"' := by
        intro first
        exact absurd (pathNamed.isPlacePart_of_head? first) (by decide)
      rw [Argument.text, readArgument_of_noQuote noQuote,
        pathNamed.readPlace_append stops]
      rfl
  | literal text =>
      have spelling : (quote text).toList ++ rest =
          '"' :: (text.toList.flatMap escape ++ '"' :: rest) := by
        simp [quote]
      rw [Argument.text, spelling, readArgument, readLiteral_append]
      simp

/-- An argument starts with a quote or with a part of a place. -/
theorem Argument.IsWellNamed.head?_ne {argument : Argument}
    (wellNamed : argument.IsWellNamed) {character : Char}
    (noPart : isPlacePart character = false) (noQuote : character ≠ '"')
    (rest : List Char) :
    (argument.text.toList ++ rest).head? ≠ some character := by
  intro first
  cases argument with
  | place path =>
      have pathNamed : Place.IsWellNamed path := wellNamed
      have part := pathNamed.isPlacePart_of_head? first
      exact absurd part (by simp [noPart])
  | literal text =>
      simp only [Argument.text, quote, String.toList_ofList,
        List.cons_append, List.head?_cons, Option.some.injEq] at first
      exact noQuote first.symm

/-- The arguments behind the first one are read back, however many they are. -/
theorem readFurtherArguments_append {arguments : List Argument}
    (wellNamed : ∀ argument ∈ arguments, argument.IsWellNamed)
    (rest : List Char) :
    readFurtherArguments
        ((arguments.flatMap fun argument =>
          ',' :: ' ' :: argument.text.toList) ++ ')' :: rest) =
      some (arguments, rest) := by
  induction arguments with
  | nil => simp [readFurtherArguments]
  | cons argument later inductionHypothesis =>
      rw [List.forall_mem_cons] at wellNamed
      have behind := inductionHypothesis wellNamed.2
      have stops : Stops isPlacePart
          ((later.flatMap fun argument =>
            ',' :: ' ' :: argument.text.toList) ++ ')' :: rest) := by
        cases later with
        | nil => exact stops_cons (by decide) rest
        | cons next others => exact stops_cons (by decide) _
      rw [List.flatMap_cons, List.append_assoc, List.cons_append,
        List.cons_append, readFurtherArguments,
        wellNamed.1.readArgument_append stops]
      simp [behind]

/-- All texts but the first have a comma and a space in front of them. -/
theorem toList_intercalate_cons (first : String) (later : List String) :
    (", ".intercalate (first :: later)).toList =
      first.toList ++
        later.flatMap fun text => ',' :: ' ' :: text.toList := by
  induction later generalizing first with
  | nil => simp
  | cons next others inductionHypothesis =>
      rw [String.intercalate_cons_cons, String.toList_append,
        String.toList_append, inductionHypothesis]
      simp

/-- Arguments in parentheses are read back. -/
theorem readArguments_append {arguments : List Argument}
    (wellNamed : ∀ argument ∈ arguments, argument.IsWellNamed)
    (rest : List Char) :
    readArguments
        ((", ".intercalate (arguments.map Argument.text)).toList ++
          ')' :: rest) =
      some (arguments, rest) := by
  cases arguments with
  | nil => rfl
  | cons argument later =>
      rw [List.forall_mem_cons] at wellNamed
      have behind := readFurtherArguments_append wellNamed.2 rest
      have stops : Stops isPlacePart
          ((later.flatMap fun argument =>
            ',' :: ' ' :: argument.text.toList) ++ ')' :: rest) := by
        cases later with
        | nil => exact stops_cons (by decide) rest
        | cons next others => exact stops_cons (by decide) _
      rw [List.map_cons, toList_intercalate_cons, List.flatMap_map,
        List.append_assoc]
      unfold readArguments
      split
      · rename_i other spelling
        have first := congrArg List.head? spelling
        exact absurd first
          (wellNamed.1.head?_ne (by decide) (by decide) _)
      · rw [wellNamed.1.readArgument_append stops]
        simp [behind]

/-- The text of a call, in the order in which its parts are read. -/
theorem Call.toList_text_append (call : Call) (rest : List Char) :
    call.text.toList ++ rest =
      call.function.toList ++ ("(".toList ++
        ((", ".intercalate (call.arguments.map Argument.text)).toList ++
          ')' :: rest)) := by
  simp [Call.text]

/-- The first thing in the parentheses of a call is not an address. -/
theorem head?_arguments_ne {arguments : List Argument}
    (wellNamed : ∀ argument ∈ arguments, argument.IsWellNamed)
    (rest : List Char) :
    ((", ".intercalate (arguments.map Argument.text)).toList ++
      ')' :: rest).head? ≠ some '&' := by
  cases arguments with
  | nil =>
      intro first
      exact absurd first (by simp)
  | cons argument later =>
      rw [List.forall_mem_cons] at wellNamed
      rw [List.map_cons, toList_intercalate_cons, List.append_assoc]
      exact wellNamed.1.head?_ne (by decide) (by decide) _

/-- A call is read back from its text, with what stands behind it as rest. -/
theorem Call.IsWellNamed.readCall_append {call : Call}
    (wellNamed : call.IsWellNamed) (rest : List Char) :
    readCall (call.text.toList ++ rest) = some (call, rest) := by
  have stops : Stops isIdentifierPart ("(".toList ++
      ((", ".intercalate (call.arguments.map Argument.text)).toList ++
        ')' :: rest)) := stops_cons (by decide) _
  rw [Call.toList_text_append, readCall,
    readName_append wellNamed.function stops]
  simp only [Option.bind_eq_bind, Option.bind_some, expect_append,
    readArguments_append wellNamed.arguments]
  rfl

/-! ## Calls stay on their line -/

/-- What an argument shows as it stands are identifiers. -/
theorem Argument.IsWellNamed.isIdentifier_of_mem_bareTexts
    {argument : Argument} (wellNamed : argument.IsWellNamed) :
    ∀ text ∈ argument.bareTexts, isIdentifier text = true := by
  cases argument with
  | place path => exact Place.IsWellNamed.identifiers wellNamed
  | literal text => exact List.forall_mem_nil _

/-- What a call shows as it stands are identifiers. -/
theorem Call.IsWellNamed.isIdentifier_of_mem_bareTexts {call : Call}
    (wellNamed : call.IsWellNamed) :
    ∀ text ∈ call.bareTexts, isIdentifier text = true := by
  rw [bareTexts, List.forall_mem_cons, List.forall_mem_flatMap]
  exact ⟨wellNamed.function, fun argument member =>
    (wellNamed.arguments argument member).isIdentifier_of_mem_bareTexts⟩

/--
A call whose function is an identifier, and whose places are paths of
identifiers, is read back from its text.  Nothing that its literals hold ends
a literal or an argument too early, and what stands behind it is left over as
it is.  The text of the call stays on one line.
-/
theorem readCall_text {function : String}
    (functionNamed : isIdentifier function = true)
    {arguments : List Argument}
    (placesNamed : ∀ path, .place path ∈ arguments →
      Place.IsWellNamed path) (rest : List Char) :
    readCall ((Call.text { function, arguments }).toList ++ rest) =
        some ({ function, arguments }, rest) ∧
      '\n' ∉ (Call.text { function, arguments }).toList := by
  have wellNamed : Call.IsWellNamed { function, arguments } := by
    refine ⟨functionNamed, fun argument member => ?_⟩
    cases argument with
    | place path => exact placesNamed path member
    | literal text => exact trivial
  have lack : Lack '\n' (Call.bareTexts { function, arguments }) :=
    lack_of_identifiers (by decide) wellNamed.isIdentifier_of_mem_bareTexts
  exact ⟨wellNamed.readCall_append rest, Call.newline_notMem_text lack⟩

/-- A call in which literals look like the end of one, or of the call. -/
def Call.misleading : Call where
  function := "find"
  arguments :=
    [.literal "a\", \"b", .place ["shaders", "sky", "program"], .literal "",
      .literal "\\", .literal "\\\");\n\t"]

/-- Quotes, separators and backslashes inside of literals mislead no reader. -/
theorem readCall_text_of_misleading :
    isIdentifier Call.misleading.function = true ∧
      (∀ path, .place path ∈ Call.misleading.arguments →
        Place.IsWellNamed path) ∧
      readCall (Call.misleading.text.toList ++ ", \"c\");".toList) =
        some (Call.misleading, ", \"c\");".toList) ∧
      '\n' ∉ Call.misleading.text.toList := by
  have placesNamed : ∀ path, .place path ∈ Call.misleading.arguments →
      Place.IsWellNamed path := by
    intro path member
    simp only [Call.misleading, List.mem_cons, List.not_mem_nil,
      or_false, false_or, reduceCtorEq, Argument.place.injEq] at member
    rw [member]
    exact ⟨List.cons_ne_nil _ _, by decide⟩
  exact ⟨by decide, placesNamed, readCall_text (by decide) placesNamed _⟩

end ShaderBindings
