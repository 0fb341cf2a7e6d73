import ShaderBindings.Proofs.Code.Joining
import ShaderBindings.Proofs.Text.Ascii
import ShaderBindings.Proofs.Text.Words

/-!
# Include guards as macro names

A file name whose letters and digits are those of ASCII gives a guard of
capitals, digits and underscores.  Since no word is empty, the underscores
stand between words only; without them, the guard has the letters and digits
of the file name.  So it is an identifier exactly if the first of these is a
letter, and the words of the guard are the words that it was made of.
-/

namespace ShaderBindings

/-! ## The parts of a macro name -/

/-- The words of a text, in upper case. -/
def macroParts (text : String) : List (List Char) :=
  (words isAlphanumeric letterCase? text.toList).map (·.flatMap uppercase)

/-- A macro name is its parts with underscores in between. -/
theorem macroName_eq (text : String) :
    macroName text = "_".intercalate ((macroParts text).map String.ofList) := by
  simp [macroName, macroParts, Function.comp_def]

theorem toList_macroName (text : String) :
    (macroName text).toList = ['_'].intercalate (macroParts text) := by
  rw [macroName_eq, String.toList_intercalate]
  simp [Function.comp_def]

section Ascii

variable {text : String}
  (ascii : ∀ character ∈ text.toList,
    isAlphanumeric character = true → character.toNat < 128)

include ascii

theorem flatMap_uppercase_of_mem_words {word : List Char}
    (wordMember : word ∈ words isAlphanumeric letterCase? text.toList) :
    word.flatMap uppercase = word.map Char.toUpper := by
  rw [List.map_eq_flatMap]
  refine List.flatMap_congr fun character member => uppercase_of_ascii ?_
  obtain ⟨inText, alphanumeric⟩ :=
    List.mem_filter.1 (mem_filter_of_mem_words wordMember member)
  exact ascii character inText alphanumeric

/-- The parts hold the letters and digits of a text, in upper case. -/
theorem flatten_macroParts :
    (macroParts text).flatten =
      (text.toList.filter isAlphanumeric).map Char.toUpper := by
  have parts : macroParts text =
      (words isAlphanumeric letterCase? text.toList).map (·.map Char.toUpper) :=
    List.map_congr_left fun word member =>
      flatMap_uppercase_of_mem_words ascii member
  rw [parts, ← List.map_flatten, flatten_words]

theorem isCapitalOrDigit_of_mem_macroParts {part : List Char}
    (partMember : part ∈ macroParts text) {character : Char}
    (member : character ∈ part) : IsCapitalOrDigit character := by
  have inside : character ∈ (macroParts text).flatten :=
    List.mem_flatten.2 ⟨part, partMember, member⟩
  rw [flatten_macroParts ascii, List.mem_map] at inside
  obtain ⟨source, sourceMember, rfl⟩ := inside
  obtain ⟨inText, alphanumeric⟩ := List.mem_filter.1 sourceMember
  exact isCapitalOrDigit_toUpper
    (isAlphanum_iff.2 ⟨alphanumeric, ascii source inText alphanumeric⟩)

theorem nil_notMem_macroParts : [] ∉ macroParts text := by
  intro member
  obtain ⟨word, wordMember, empty⟩ := List.mem_map.1 member
  rw [flatMap_uppercase_of_mem_words ascii wordMember,
    List.map_eq_nil_iff] at empty
  exact nil_notMem_words _ _ text.toList (empty ▸ wordMember)

/-- The underscores of a macro name are all that is not alphanumeric. -/
theorem alphanumericRuns_macroName :
    alphanumericRuns isAlphanumeric (macroName text).toList =
      macroParts text := by
  by_cases empty : macroParts text = []
  · rw [toList_macroName, empty]
    rfl
  · have whole : ∀ part ∈ macroParts text, ∀ character ∈ part,
        (!isAlphanumeric character) = false := by
      intro part partMember character member
      simp [(isCapitalOrDigit_of_mem_macroParts ascii partMember
        member).isAlphanumeric_eq]
    rw [alphanumericRuns, toList_macroName,
      splitOnP_intercalate (by decide) empty whole, List.filter_eq_self]
    intro part member
    cases part with
    | nil => exact absurd member (nil_notMem_macroParts ascii)
    | cons first rest => rfl

/-- A part has no small letter, at which it could be divided. -/
theorem divide_of_mem_macroParts {part : List Char}
    (partMember : part ∈ macroParts text) :
    divide letterCase? part = [part] := by
  apply divide_eq_singleton
  · rintro rfl
    exact nil_notMem_macroParts ascii partMember
  · intro character member
    exact (isCapitalOrDigit_of_mem_macroParts ascii partMember
      member).letterCase?_ne

/-- The words of a macro name are those it was made of. -/
theorem words_macroName :
    words isAlphanumeric letterCase? (macroName text).toList =
      macroParts text := by
  rw [words, alphanumericRuns_macroName ascii,
    List.flatMap_congr fun part => divide_of_mem_macroParts ascii,
    ← List.map_eq_flatMap, List.map_id']

/-- The macro name of a macro name is the same. -/
theorem macroName_macroName : macroName (macroName text) = macroName text := by
  have kept : ∀ part ∈ macroParts text, part.flatMap uppercase = part := by
    intro part partMember
    have alone : ∀ character ∈ part, uppercase character = [character] :=
      fun character member =>
        (isCapitalOrDigit_of_mem_macroParts ascii partMember
          member).uppercase_eq
    rw [List.flatMap_congr alone, ← List.map_eq_flatMap, List.map_id']
  have parts : macroParts (macroName text) = macroParts text := by
    rw [macroParts, words_macroName ascii, List.map_congr_left kept,
      List.map_id']
  rw [macroName_eq, parts, ← macroName_eq]

theorem isCapitalOrDigit_or_eq_of_mem_macroName {character : Char}
    (member : character ∈ (macroName text).toList) :
    IsCapitalOrDigit character ∨ character = '_' := by
  rw [toList_macroName] at member
  rcases mem_or_exists_of_mem_intercalate member with
    between | ⟨part, partMember, inside⟩
  · exact Or.inr (List.mem_singleton.1 between)
  · exact Or.inl (isCapitalOrDigit_of_mem_macroParts ascii partMember inside)

/-- Underscores stand between words only. -/
theorem isInside_macroName : IsInside '_' (macroName text).toList := by
  rw [toList_macroName]
  refine isInside_intercalate (nil_notMem_macroParts ascii) ?_
  intro part partMember member
  exact (isCapitalOrDigit_of_mem_macroParts ascii partMember
    member).ne_underscore rfl

/-- Without its underscores a macro name has the characters of the text. -/
theorem filter_macroName :
    (macroName text).toList.filter (· ≠ '_') =
      (text.toList.filter isAlphanumeric).map Char.toUpper := by
  have kept : ∀ part ∈ macroParts text, part.filter (· ≠ '_') = part := by
    intro part partMember
    refine List.filter_eq_self.2 fun character member => ?_
    simpa using (isCapitalOrDigit_of_mem_macroParts ascii partMember
      member).ne_underscore
  have noMark : ['_'].filter (· ≠ '_') = [] := by decide
  rw [toList_macroName, filter_intercalate, noMark, nil_intercalate,
    List.map_congr_left kept, List.map_id', flatten_macroParts ascii]

/-- A macro name begins with the first letter or digit. -/
theorem head?_macroName :
    (macroName text).toList.head? =
      (text.toList.find? isAlphanumeric).map Char.toUpper := by
  have characters := congrArg List.head? (filter_macroName ascii)
  rw [List.head?_map, List.head?_filter, List.head?_filter] at characters
  rw [← characters]
  have inside := (isInside_macroName ascii).head?_ne
  cases spelling : (macroName text).toList with
  | nil => rfl
  | cons first rest =>
      rw [spelling] at inside
      have apart : first ≠ '_' := by simpa using inside
      simp [apart]

/-- C reserves no word without a small letter. -/
theorem macroName_notMem_reservedWords : macroName text ∉ reservedWords := by
  have small : ∀ word ∈ reservedWords, word.toList.any Char.isLower = true := by
    decide
  intro reserved
  obtain ⟨character, member, isLower⟩ := List.any_eq_true.1 (small _ reserved)
  rcases isCapitalOrDigit_or_eq_of_mem_macroName ascii member with
    capitalOrDigit | rfl
  · rw [capitalOrDigit.isLower_eq] at isLower
    cases isLower
  · exact absurd isLower (by decide)

/-- A macro name is an identifier if a letter comes first, and only then. -/
theorem isIdentifier_macroName_iff :
    isIdentifier (macroName text) = true ↔
      ∃ first, text.toList.find? isAlphanumeric = some first ∧
        first.isAlpha = true := by
  have starts := head?_macroName ascii
  have parts : (macroName text).toList.all isIdentifierPart = true := by
    refine List.all_eq_true.2 fun character member => ?_
    rcases isCapitalOrDigit_or_eq_of_mem_macroName ascii member with
      capitalOrDigit | rfl
    · exact capitalOrDigit.isIdentifierPart_eq
    · decide
  have free := macroName_notMem_reservedWords ascii
  unfold isIdentifier
  cases spelling : (macroName text).toList with
  | nil =>
      rw [spelling] at starts
      have none := Option.map_eq_none_iff.1 starts.symm
      simp [none]
  | cons first rest =>
      rw [spelling] at starts parts
      obtain ⟨source, found, rfl⟩ := Option.map_eq_some_iff.1 starts.symm
      have alphanumeric := List.find?_some found
      have start := isIdentifierStart_toUpper (isAlphanum_iff.2
        ⟨alphanumeric,
          ascii source (List.mem_of_find?_eq_some found) alphanumeric⟩)
      rw [List.all_cons, Bool.and_eq_true] at parts
      simp [found, start, parts.2, free]

end Ascii

/--
If the alphanumeric characters of a file name are those of ASCII, its include
guard has capitals, digits and underscores, the last only between others and
never two in a row.  Without them it is the upper case of these characters.
It is an identifier exactly if the first of them is a letter, and it is its
own include guard.
-/
theorem Config.includeGuard_isMacroName (config : Config)
    (ascii : ∀ character ∈ config.headerName.toList,
      isAlphanumeric character = true → character.toNat < 128) :
    (∀ character ∈ config.includeGuard.toList,
      character.isUpper = true ∨ character.isDigit = true ∨
        character = '_') ∧
      config.includeGuard.toList.head? ≠ some '_' ∧
      config.includeGuard.toList.getLast? ≠ some '_' ∧
      ¬['_', '_'] <:+: config.includeGuard.toList ∧
      config.includeGuard.toList.filter (· ≠ '_') =
        (config.headerName.toList.filter isAlphanumeric).map Char.toUpper ∧
      (isIdentifier config.includeGuard = true ↔
        ∃ first, config.headerName.toList.find? isAlphanumeric = some first ∧
          first.isAlpha = true) ∧
      (config.set (.headerName config.includeGuard)).includeGuard =
        config.includeGuard := by
  have inside := isInside_macroName ascii
  refine ⟨fun character member => ?_, inside.head?_ne, inside.getLast?_ne,
    inside.not_doubled, filter_macroName ascii,
    isIdentifier_macroName_iff ascii, macroName_macroName ascii⟩
  rw [← or_assoc]
  exact isCapitalOrDigit_or_eq_of_mem_macroName ascii member

/-- That the alphanumeric characters are those of ASCII can be computed. -/
theorem isAscii_of_all {text : String}
    (allAscii : text.toList.all fun character =>
      !isAlphanumeric character || character.toNat < 128) :
    ∀ character ∈ text.toList,
      isAlphanumeric character = true → character.toNat < 128 := by
  simpa [or_iff_not_imp_left] using List.all_eq_true.mp allAscii

/--
The guard is an identifier when the first letter or digit of the file name is a
letter, here behind an underscore and a paragraph sign, and none when it is a
digit.
-/
theorem Config.includeGuard_letter_or_digit_first :
    ((∀ character ∈ "_§gl/Page3.h".toList,
        isAlphanumeric character = true → character.toNat < 128) ∧
      isIdentifier
        (Config.includeGuard { headerName := "_§gl/Page3.h" }) = true) ∧
    (∀ character ∈ "§3d/GLPage.h".toList,
        isAlphanumeric character = true → character.toNat < 128) ∧
      isIdentifier
        (Config.includeGuard { headerName := "§3d/GLPage.h" }) = false := by
  have letterAscii : ∀ character ∈ "_§gl/Page3.h".toList,
      isAlphanumeric character = true → character.toNat < 128 :=
    isAscii_of_all (by decide +kernel)
  have digitAscii : ∀ character ∈ "§3d/GLPage.h".toList,
      isAlphanumeric character = true → character.toNat < 128 :=
    isAscii_of_all (by decide +kernel)
  obtain ⟨-, -, -, -, -, letterGuard, -⟩ :=
    Config.includeGuard_isMacroName { headerName := "_§gl/Page3.h" }
      letterAscii
  obtain ⟨-, -, -, -, -, digitGuard, -⟩ :=
    Config.includeGuard_isMacroName { headerName := "§3d/GLPage.h" }
      digitAscii
  have letter : "_§gl/Page3.h".toList.find? isAlphanumeric = some 'g' := by
    decide +kernel
  have digit : "§3d/GLPage.h".toList.find? isAlphanumeric = some '3' := by
    decide +kernel
  refine ⟨⟨letterAscii, ?_⟩, digitAscii, Bool.eq_false_iff.2 fun identifier =>
    ?_⟩
  · exact letterGuard.2 ⟨'g', letter, by decide⟩
  · obtain ⟨first, found, isLetter⟩ := digitGuard.1 identifier
    obtain rfl : '3' = first := Option.some.inj (digit.symm.trans found)
    exact absurd isLetter (by decide)

end ShaderBindings
