import ShaderBindings.Proofs.Code.PrintedLines

/-!
# Bare texts

A line of code shows some of its texts as they stand: the names in it, the
members of places, the words of a comment.  Other texts stand in literals,
which escape them.  What a line puts around its bare texts is the same for all
lines of its kind, so that a bare text is the only thing that can break a line:
`Line.isOneLine_of_lack`.
-/

namespace ShaderBindings

/-- A place shows its names; a literal shows nothing as it stands. -/
def Argument.bareTexts : Argument → List String
  | .place path => path
  | .literal _ => []

/-- A call shows its function and what its arguments show. -/
def Call.bareTexts (call : Call) : List String :=
  call.function :: call.arguments.flatMap Argument.bareTexts

/-- The texts that a line shows as they stand. -/
def Line.bareTexts : Line → List String
  | .blank | .includeLocal _ | .endUnless | .openStruct | .closeBlock => []
  | .comment text => [text]
  | .includeSystem header => [header]
  | .unlessDefined guard | .define guard => [guard]
  | .openTypedef name | .closeStruct name | .declareFunction name
  | .openFunction name | .clear name => [name]
  | .declare typeName name | .declareExtern typeName name => [typeName, name]
  | .openIf call | .perform call => call.bareTexts
  | .assign target value => target ++ value.bareTexts

/-- No text of the list has the character. -/
def Lack (character : Char) (texts : List String) : Prop :=
  ∀ text ∈ texts, character ∉ text.toList

instance (character : Char) (texts : List String) :
    Decidable (Lack character texts) :=
  inferInstanceAs (Decidable (∀ text ∈ texts, character ∉ text.toList))

section Lack

variable {character : Char} {text : String} {texts others : List String}

theorem lack_nil : Lack character [] :=
  List.forall_mem_nil _

theorem lack_cons_iff :
    Lack character (text :: texts) ↔
      character ∉ text.toList ∧ Lack character texts :=
  List.forall_mem_cons

theorem lack_append_iff :
    Lack character (texts ++ others) ↔
      Lack character texts ∧ Lack character others :=
  List.forall_mem_append

theorem lack_flatMap_iff {Item : Type} {items : List Item}
    {list : Item → List String} :
    Lack character (items.flatMap list) ↔
      ∀ item ∈ items, Lack character (list item) :=
  List.forall_mem_flatMap

/-- Identifiers have no character outside of their alphabet. -/
theorem lack_of_identifiers (noPart : isIdentifierPart character = false)
    (identifiers : ∀ text ∈ texts, isIdentifier text = true) :
    Lack character texts := by
  intro name named member
  have part := isIdentifierPart_of_mem (identifiers name named) member
  rw [noPart] at part
  contradiction

end Lack

/-! ## Lines without newlines -/

/-- The text of a place has a dot between every two of its names. -/
theorem Place.toList_text (place : Place) :
    (Place.text place).toList =
      ['.'].intercalate (place.map String.toList) := by
  simp [Place.text]

/-- A place has no other characters than its names, and dots. -/
theorem Place.notMem_text {place : Place} {character : Char}
    (lack : Lack character place) (noDot : character ≠ '.') :
    character ∉ (Place.text place).toList := by
  rw [toList_text]
  intro member
  rcases mem_or_exists_of_mem_intercalate member with
    dot | ⟨text, named, inside⟩
  · exact noDot (List.mem_singleton.1 dot)
  · obtain ⟨name, nameMember, rfl⟩ := List.mem_map.1 named
    exact lack name nameMember inside

/-- Whatever a literal holds, it has no newline in the text. -/
theorem Argument.newline_notMem_text {argument : Argument}
    (lack : Lack '\n' argument.bareTexts) :
    '\n' ∉ argument.text.toList := by
  cases argument with
  | place path => exact Place.notMem_text lack (by decide)
  | literal text => exact newline_notMem_quote text

/-- What stands in the literals of a call does not break its line. -/
theorem Call.newline_notMem_text {call : Call}
    (lack : Lack '\n' call.bareTexts) : '\n' ∉ call.text.toList := by
  rw [bareTexts, lack_cons_iff, lack_flatMap_iff] at lack
  have arguments : '\n' ∉
      (", ".intercalate (call.arguments.map Argument.text)).toList := by
    rw [String.toList_intercalate]
    intro member
    rcases mem_or_exists_of_mem_intercalate member with
      between | ⟨text, printed, inside⟩
    · exact absurd between (by decide)
    · simp only [List.map_map, List.mem_map, Function.comp_apply] at printed
      obtain ⟨argument, argumentMember, rfl⟩ := printed
      exact Argument.newline_notMem_text (lack.2 argument argumentMember)
        inside
  simp only [text, String.toList_append, List.mem_append, not_or]
  exact ⟨⟨⟨lack.1, by decide⟩, arguments⟩, by decide⟩

/-- Only a bare text can break a line. -/
theorem Line.isOneLine_of_lack {line : Line}
    (lack : Lack '\n' line.bareTexts) : line.IsOneLine := by
  unfold IsOneLine text
  cases line with
  | blank | endUnless | openStruct | closeBlock => decide
  | includeLocal header => exact isOneLine_includeLocal header
  | openIf call | perform call =>
      have oneLine := Call.newline_notMem_text lack
      simp [oneLine]
  | assign target value =>
      rw [bareTexts, lack_append_iff] at lack
      have targetOneLine := Place.notMem_text lack.1 (by decide)
      have valueOneLine := Call.newline_notMem_text lack.2
      simp [targetOneLine, valueOneLine]
  | _ =>
      simp only [bareTexts, lack_cons_iff] at lack
      simp [lack]

end ShaderBindings
