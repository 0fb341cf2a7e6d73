import Mathlib.Data.List.Nodup
import ShaderBindings.Proofs.Code.Statements
import ShaderBindings.Shader.Validity

/-!
# Reading structs

The lines of a struct declare handles and open and close inner structs.  A
reader goes through them with a stack: for each struct that is open, the
innermost first, the members which it has so far.

Reading gives back the members whose lines were printed, at any depth and for
any names: `readMembers_indentedLines`.  The handles of some members are the
paths to them.  They differ from each other as soon as the members of each
single struct do: `StructMembers.handles_nodup`.
-/

namespace ShaderBindings

/-- A member of a struct: a handle, or a struct with members of its own. -/
inductive Member where
  | handle (typeName name : String)
  | struct (name : String) (members : List Member)

/-- The name of a member. -/
def Member.name : Member → String
  | handle _ name => name
  | struct name _ => name

/-- The lines that declare some members. -/
def memberLines : List Member → List Line
  | [] => []
  | .handle typeName name :: later =>
      .declare typeName name :: memberLines later
  | .struct name members :: later =>
      [.openStruct] ++ memberLines members ++ [.closeStruct name] ++
        memberLines later

/-- The paths to the handles among some members, in order. -/
def handles : List Member → List Place
  | [] => []
  | .handle _ name :: later => [name] :: handles later
  | .struct name members :: later =>
      (handles members).map (name :: ·) ++ handles later

/-- The lines of members follow each other. -/
@[simp]
theorem memberLines_append (first second : List Member) :
    memberLines (first ++ second) =
      memberLines first ++ memberLines second := by
  induction first using memberLines.induct with
  | case1 => simp [memberLines]
  | case2 typeName name later laterIH => simp [memberLines, laterIH]
  | case3 name members later _ laterIH => simp [memberLines, laterIH]

theorem memberLines_map {Item : Type} (items : List Item)
    (member : Item → Member) :
    memberLines (items.map member) =
      items.flatMap fun item => memberLines [member item] := by
  induction items with
  | nil => simp [memberLines]
  | cons item rest inductionHypothesis =>
      rw [List.map_cons, ← List.singleton_append, memberLines_append,
        inductionHypothesis, List.flatMap_cons]

/-! ## Readers -/

/-- Read the line that closes a struct. -/
def readClosing (input : List Char) : Option Line := do
  let rest ← expect "\x7d " input
  let (name, rest) ← readName rest
  expectEnd ";" rest
  return .closeStruct name

/-- Read the declaration of a member. -/
def readDeclaration (input : List Char) : Option Line := do
  let (typeName, rest) ← readName input
  let rest ← expect " " rest
  let (name, rest) ← readName rest
  expectEnd ";" rest
  return .declare typeName name

/-- Read a line of a struct behind any number of spaces. -/
def readStructLine (input : List Char) : Option Line :=
  let input := input.dropWhile (· == ' ')
  match input.head? with
  | some '\x7d' => readClosing input
  | _ =>
      if input = "struct \x7b".toList then some .openStruct
      else readDeclaration input

/-- Take account of a line of a struct. -/
def collect : List (List Member) → Line → Option (List (List Member))
  | inside :: around, .declare typeName name =>
      some ((inside ++ [.handle typeName name]) :: around)
  | stack, .openStruct => some ([] :: stack)
  | inside :: outside :: around, .closeStruct name =>
      some ((outside ++ [.struct name inside]) :: around)
  | _, _ => none

/--
Read the members from the lines of a struct; every struct in it has to be
closed.
-/
def readMembers (lines : List (List Char)) : Option (List Member) := do
  let lines ← lines.mapM readStructLine
  match ← lines.foldlM collect [[]] with
  | [members] => some members
  | _ => none

/-- Read the struct of a type in the lines of a file. -/
def readTypedef (typeName : String) (lines : List (List Char)) :
    Option (List Member) :=
  let behind :=
    lines.dropWhile (· != (Line.openTypedef typeName).text.toList)
  readMembers
    ((behind.drop 1).takeWhile (· != (Line.closeStruct typeName).text.toList))

/-! ## Members are read back -/

/-- A line of a struct that can be printed. -/
def Line.IsStructLine : Line → Prop
  | .openStruct => True
  | .closeStruct name => isIdentifier name = true
  | .declare typeName name =>
      isIdentifier typeName = true ∧ isIdentifier name = true
  | _ => False

namespace Line

theorem toList_text_closeStruct (name : String) :
    (closeStruct name).text.toList =
      "\x7d ".toList ++ (name.toList ++ ";".toList) := by
  show ("\x7d " ++ name ++ ";").toList = _
  simp only [String.toList_append, List.append_assoc]

theorem toList_text_declare (typeName name : String) :
    (declare typeName name).text.toList =
      typeName.toList ++ (" ".toList ++ (name.toList ++ ";".toList)) := by
  show (typeName ++ " " ++ name ++ ";").toList = _
  simp only [String.toList_append, List.append_assoc]

end Line

/-- The end of a struct is read back. -/
theorem readClosing_text {name : String}
    (identifier : isIdentifier name = true) :
    readClosing (Line.closeStruct name).text.toList =
      some (.closeStruct name) := by
  have stops : Stops isIdentifierPart ";".toList := stops_cons (by decide) _
  rw [Line.toList_text_closeStruct, readClosing]
  simp only [Option.bind_eq_bind, Option.bind_some, expect_append,
    readName_append identifier stops, expectEnd_self]
  rfl

/-- The declaration of a handle is read back. -/
theorem readDeclaration_text {typeName name : String}
    (typeNamed : isIdentifier typeName = true)
    (named : isIdentifier name = true) :
    readDeclaration (Line.declare typeName name).text.toList =
      some (.declare typeName name) := by
  have stopsType : Stops isIdentifierPart
      (" ".toList ++ (name.toList ++ ";".toList)) := stops_cons (by decide) _
  have stopsName : Stops isIdentifierPart ";".toList :=
    stops_cons (by decide) _
  rw [Line.toList_text_declare, readDeclaration,
    readName_append typeNamed stopsType]
  simp only [Option.bind_eq_bind, Option.bind_some, expect_append,
    readName_append named stopsName, expectEnd_self]
  rfl

/-- A declaration does not end like the start of a struct. -/
theorem text_declare_ne_openStruct (typeName name : String) :
    (Line.declare typeName name).text.toList ≠ "struct \x7b".toList := by
  intro same
  have last := congrArg List.getLast? same
  rw [Line.toList_text_declare, List.getLast?_append, List.getLast?_append,
    List.getLast?_append] at last
  simp at last

namespace Line.IsStructLine

/-- No line of a struct starts with a space. -/
theorem stops_space {line : Line} (structLine : line.IsStructLine) :
    Stops (· == ' ') line.text.toList := by
  cases line with
  | openStruct => exact stops_cons (by decide) _
  | closeStruct name =>
      rw [toList_text_closeStruct]
      exact stops_cons (by decide) _
  | declare typeName name =>
      rcases exists_cons_of_isIdentifier structLine.1 with
        ⟨first, rest, spelling, part⟩
      rw [toList_text_declare, spelling]
      apply stops_cons
      rw [beq_eq_false_iff_ne]
      rintro rfl
      exact absurd part (by decide)
  | _ => exact structLine.elim

/-- A line of a struct is read back, however deep it stands. -/
theorem readStructLine_indentedAt {line : Line}
    (structLine : line.IsStructLine) (level : Nat) :
    readStructLine (line.indentedAt level) = some line := by
  rw [readStructLine, line.dropWhile_space_indentedAt structLine.stops_space]
  cases line with
  | openStruct => rfl
  | closeStruct name =>
      have closing := readClosing_text structLine
      rw [toList_text_closeStruct] at closing ⊢
      exact closing
  | declare typeName name =>
      have declaration := readDeclaration_text structLine.1 structLine.2
      rcases exists_cons_of_isIdentifier structLine.1 with
        ⟨first, rest, spelling, part⟩
      have noBrace : (declare typeName name).text.toList.head? ≠
          some '\x7d' := by
        rw [toList_text_declare, spelling]
        intro brace
        cases brace
        exact absurd part (by decide)
      have noStruct := text_declare_ne_openStruct typeName name
      split
      · rename_i brace
        exact absurd brace noBrace
      · rw [if_neg noStruct]
        exact declaration
  | _ => exact structLine.elim

/-- What a line of a struct shows as it stands are identifiers. -/
theorem isIdentifier_of_mem_bareTexts {line : Line}
    (structLine : line.IsStructLine) :
    ∀ text ∈ line.bareTexts, isIdentifier text = true := by
  cases line with
  | openStruct => exact List.forall_mem_nil _
  | closeStruct name => exact List.forall_mem_singleton.2 structLine
  | declare typeName name =>
      exact List.forall_mem_cons.2
        ⟨structLine.1, List.forall_mem_singleton.2 structLine.2⟩
  | _ => exact structLine.elim

theorem isOneLine {line : Line} (structLine : line.IsStructLine) :
    line.IsOneLine :=
  Line.isOneLine_of_lack
    (lack_of_identifiers (by decide) structLine.isIdentifier_of_mem_bareTexts)

end Line.IsStructLine

/-- Taking account of the lines of some members adds these members. -/
theorem foldlM_collect_memberLines (members inside : List Member)
    (around : List (List Member)) :
    (memberLines members).foldlM collect (inside :: around) =
      some ((inside ++ members) :: around) := by
  induction members using memberLines.induct generalizing inside around with
  | case1 => simp [memberLines]
  | case2 typeName name later laterIH =>
      rw [memberLines, List.foldlM_cons, collect]
      simp [laterIH]
  | case3 name members later membersIH laterIH =>
      have inner := membersIH [] (inside :: around)
      rw [memberLines]
      simp [collect, inner, laterIH]

/-- The members of a struct are read back from its lines. -/
theorem readMembers_indentedLines {members : List Member}
    (structLines : ∀ line ∈ memberLines members, line.IsStructLine)
    (depth : Nat) :
    readMembers (indentedLines depth (memberLines members)) =
      some members := by
  have read := mapM_indentedLines
    (fun line member => (structLines line member).readStructLine_indentedAt)
    depth
  have collected := foldlM_collect_memberLines members [] []
  rw [readMembers, read]
  simp [collected]

/-- Inside a block no struct at the margin is closed. -/
theorem IsIndented.ne_closeStruct {depth : Nat} {text : List Char}
    (indented : IsIndented (depth + 1) text) (name : String) :
    text ≠ (Line.closeStruct name).text.toList := by
  rintro rfl
  have start : (Line.closeStruct name).text.toList.head? = some '\x7d' := by
    rw [Line.toList_text_closeStruct]
    rfl
  exact absurd (indented.head? start) (by decide)

/-- The struct of a type stands behind its first and before its last line. -/
theorem readTypedef_append {typeName : String}
    {before inside : List (List Char)}
    (noOpening : ∀ text ∈ before,
      text ≠ (Line.openTypedef typeName).text.toList)
    (noClosing : ∀ text ∈ inside,
      text ≠ (Line.closeStruct typeName).text.toList)
    (rest : List (List Char)) :
    readTypedef typeName
        (before ++ (Line.openTypedef typeName).text.toList ::
          (inside ++ (Line.closeStruct typeName).text.toList :: rest)) =
      readMembers inside := by
  rw [readTypedef,
    dropWhile_append_of_stops
      (fun text member => bne_iff_ne.2 (noOpening text member))
      (stops_bne _ _)]
  simp only [List.drop_succ_cons, List.drop_zero]
  rw [takeWhile_append_of_stops
    (fun text member => bne_iff_ne.2 (noClosing text member))
    (stops_bne _ _)]

/-- Members close each struct that they open. -/
theorem balanced_memberLines (members : List Member) :
    Balanced (memberLines members) := by
  induction members using memberLines.induct with
  | case1 =>
      rw [memberLines]
      exact .nil
  | case2 typeName name later laterIH =>
      rw [memberLines]
      exact .append (.single rfl) laterIH
  | case3 name members later membersIH laterIH =>
      rw [memberLines]
      exact .append (.block rfl rfl membersIH) laterIH

/-! ## Handles differ -/

/-- At every depth the members of a struct have distinct identifiers. -/
inductive StructMembers : List Member → Prop where
  | intro {members : List Member}
      (areMembers : AreMembers (members.map Member.name))
      (inner : ∀ name inside, .struct name inside ∈ members →
        StructMembers inside) : StructMembers members

/-- The handles of members are those of the single members, in order. -/
theorem handles_eq_flatMap (members : List Member) :
    handles members = members.flatMap fun member => handles [member] := by
  induction members using handles.induct with
  | case1 => simp [handles]
  | case2 typeName name later laterIH => simp [handles, ← laterIH]
  | case3 name members later _ laterIH => simp [handles, ← laterIH]

/-- A handle below a member is reached through its name. -/
theorem head?_of_mem_handles {member : Member} {path : Place}
    (inside : path ∈ handles [member]) : path.head? = some member.name := by
  cases member with
  | handle typeName name =>
      simp only [handles, List.mem_singleton] at inside
      rw [inside]
      rfl
  | struct name members =>
      simp only [handles, List.append_nil, List.mem_map] at inside
      rcases inside with ⟨rest, _, rfl⟩
      rfl

namespace StructMembers

variable {members : List Member}

/-- No two handles have the same path. -/
theorem handles_nodup (structMembers : StructMembers members) :
    (handles members).Nodup := by
  induction structMembers with
  | @intro members areMembers _ innerIH =>
      rw [handles_eq_flatMap, List.nodup_flatMap]
      constructor
      · intro member memberOf
        cases member with
        | handle typeName name => simp [handles]
        | struct name inside =>
            rw [handles, handles, List.append_nil]
            exact (innerIH name inside memberOf).map
              List.cons_injective
      · have apart := List.pairwise_map.1 areMembers.2
        refine apart.imp ?_
        intro first second other path firstPath secondPath
        have head := head?_of_mem_handles firstPath
        rw [head?_of_mem_handles secondPath] at head
        exact other (Option.some.inj head).symm

/-- Handles are reached through identifiers. -/
theorem isWellNamed_of_mem_handles (structMembers : StructMembers members) :
    ∀ path ∈ handles members, Place.IsWellNamed path := by
  induction structMembers with
  | @intro members areMembers _ innerIH =>
      intro path pathMember
      rw [handles_eq_flatMap, List.mem_flatMap] at pathMember
      rcases pathMember with ⟨member, memberOf, inside⟩
      have named : isIdentifier member.name = true :=
        areMembers.1 _ (List.mem_map_of_mem memberOf)
      cases member with
      | handle typeName name =>
          simp only [handles, List.mem_singleton] at inside
          subst inside
          exact ⟨List.cons_ne_nil _ _, List.forall_mem_singleton.2 named⟩
      | struct name members =>
          simp only [handles, List.append_nil, List.mem_map] at inside
          rcases inside with ⟨rest, restMember, rfl⟩
          have restNamed := innerIH name members memberOf rest restMember
          exact ⟨List.cons_ne_nil _ _,
            List.forall_mem_cons.2 ⟨named, restNamed.identifiers⟩⟩

end StructMembers

end ShaderBindings
