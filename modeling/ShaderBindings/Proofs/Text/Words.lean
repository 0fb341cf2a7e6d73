import ShaderBindings.IncludeGuard
import ShaderBindings.Proofs.Text.Cutting

/-!
# Where words start

The scan of a run of alphanumeric characters remembers a case and forgets it
behind each word.  The rule that it follows needs no memory: whether a word
starts at a character depends on this character, on the next one and on the
last cased character in front of it, `StartsWord`.  That the scan forgets the
case does not matter.  Behind the end of a word the next character has a case
of its own: it is the capital in front of which the word ends, or else the
small letter behind a capital that already belongs to the next word.

`divide_eq_cutBefore` holds for any table of cases, and so does what the words
of a text are: `words_eq_flatMap_cutBefore`.  An include guard joins the pieces
that the rule gives for the tables of Unicode.
-/

namespace ShaderBindings

/-! ## The rule -/

section Rule

variable (caseOf : Char → Option LetterCase)

/-- The case of the last cased character. -/
def lastCase? (text : List Char) : Option LetterCase :=
  (text.filterMap caseOf).getLast?

/--
A word starts at an index of a run: the character there is upper case, and the
last cased character in front of it is lower case, or it is upper case and the
next character is lower case.
-/
def StartsWord (run : List Char) (index : Nat) : Prop :=
  run[index]?.bind caseOf = some .upper ∧
    (lastCase? caseOf (run.take index) = some .lower ∨
      lastCase? caseOf (run.take index) = some .upper ∧
        run[index + 1]?.bind caseOf = some .lower)

instance (run : List Char) (index : Nat) :
    Decidable (StartsWord caseOf run index) :=
  inferInstanceAs (Decidable (_ ∧ _))

variable {caseOf}

/-- No word starts behind the end of a run. -/
theorem StartsWord.lt_length {run : List Char} {index : Nat}
    (starts : StartsWord caseOf run index) : index < run.length := by
  by_contra outside
  rw [StartsWord, List.getElem?_eq_none (Nat.not_lt.1 outside)] at starts
  cases starts.1

/-- Where a word starts, a small letter is near. -/
theorem StartsWord.exists_lower {run : List Char} {index : Nat}
    (starts : StartsWord caseOf run index) :
    ∃ character ∈ run, caseOf character = some .lower := by
  rcases starts.2 with before | ⟨_, after⟩
  · obtain ⟨character, member, small⟩ :=
      List.mem_filterMap.1 (List.mem_of_getLast? before)
    exact ⟨character, List.mem_of_mem_take member, small⟩
  · obtain ⟨character, found, small⟩ := Option.bind_eq_some_iff.1 after
    exact ⟨character, List.mem_of_getElem? found, small⟩

/-- A character with a case hides those in front of it. -/
@[simp]
theorem lastCase?_append_singleton (text : List Char) (character : Char) :
    lastCase? caseOf (text ++ [character]) =
      (caseOf character).or (lastCase? caseOf text) := by
  cases found : caseOf character <;> simp [lastCase?, found]

/-- The rule at the first index behind a part of a run. -/
theorem startsWord_append_cons_iff (before rest : List Char) (next : Char) :
    StartsWord caseOf (before ++ next :: rest) before.length ↔
      caseOf next = some .upper ∧
        (lastCase? caseOf before = some .lower ∨
          lastCase? caseOf before = some .upper ∧
            rest.head?.bind caseOf = some .lower) := by
  have here : (before ++ next :: rest)[before.length]? = some next := by simp
  have after : (before ++ next :: rest)[before.length + 1]? = rest.head? := by
    rw [List.getElem?_append_right (Nat.le_add_right _ 1)]
    simp [List.head?_eq_getElem?]
  rw [StartsWord, here, after, List.take_left]
  rfl

/-! ## The scan -/

variable (caseOf) in
/-- The pieces of the rest of a run, cut by the rule for the whole run. -/
def cutBehind (before rest : List Char) : List (List Char) :=
  cutBefore
    (fun index => StartsWord caseOf (before ++ rest) (before.length + index))
    rest

/-- The rest of a run is cut like the whole, behind what has been seen. -/
theorem cutBehind_cons (before rest : List Char) (first : Char) :
    cutBehind caseOf before (first :: rest) =
      if StartsWord caseOf (before ++ [first] ++ rest)
          (before ++ [first]).length then
        [first] :: cutBehind caseOf (before ++ [first]) rest
      else consToHead first (cutBehind caseOf (before ++ [first]) rest) := by
  simp [cutBehind, cutBefore, Nat.add_assoc, Nat.add_comm 1]

variable (caseOf) in
/--
What a scan remembers in front of the rest of a run is enough to know the case
of the last cased character, once the next character has been read.
-/
def IsKnown (before : List Char) (seen : Option LetterCase)
    (rest : List Char) : Prop :=
  ∀ first ∈ rest.head?,
    (caseOf first).or seen = lastCase? caseOf (before ++ [first])

/-- A scan may forget everything in front of a cased character. -/
theorem isKnown_none {before rest : List Char} {next : Char}
    {letterCase : LetterCase} (cased : caseOf next = some letterCase) :
    IsKnown caseOf before none (next :: rest) := by
  rintro _ ⟨⟩
  simp [cased]

theorem isKnown_lastCase? (before rest : List Char) :
    IsKnown caseOf before (lastCase? caseOf before) rest := by
  intro first _
  exact (lastCase?_append_singleton before first).symm

variable (caseOf) in
/-- A scan ends the current word in front of the next character. -/
def EndsWord (seen : Option LetterCase) (rest : List Char) : Prop :=
  seen = some .upper ∧ rest.head?.bind caseOf = some .upper ∧
    rest.tail.head?.bind caseOf = some .lower

instance (seen : Option LetterCase) (rest : List Char) :
    Decidable (EndsWord caseOf seen rest) :=
  inferInstanceAs (Decidable (_ ∧ _))

@[simp]
theorem not_endsWord_none {rest : List Char} :
    ¬EndsWord caseOf none rest := by
  simp [EndsWord]

/--
Where no word ends with a small letter, a scan that knows the last case ends
the word where the rule starts the next one.
-/
theorem endsWord_lastCase?_iff {before rest : List Char} {next : Char}
    (noSmall : ¬(lastCase? caseOf before = some .lower ∧
      caseOf next = some .upper)) :
    EndsWord caseOf (lastCase? caseOf before) (next :: rest) ↔
      StartsWord caseOf (before ++ next :: rest) before.length := by
  rw [startsWord_append_cons_iff]
  constructor
  · rintro ⟨capital, here, after⟩
    exact ⟨here, Or.inr ⟨capital, after⟩⟩
  · rintro ⟨here, small | ⟨capital, after⟩⟩
    · exact absurd ⟨small, here⟩ noSmall
    · exact ⟨capital, here, after⟩

/--
The scan of the rest of a run gives the pieces of the rule.  If it ends the
word that it has come with, an empty piece stands in front of them.  With its
first character the scan ends a word behind it, which is a small letter, or in
front of it, which is a capital, or else it remembers the case and goes on.
-/
theorem divideFrom_eq_cutBehind (before rest : List Char)
    (seen : Option LetterCase) (known : IsKnown caseOf before seen rest) :
    divideFrom caseOf seen rest =
      if EndsWord caseOf seen rest then [] :: cutBehind caseOf before rest
      else cutBehind caseOf before rest := by
  induction rest generalizing before seen with
  | nil => simp [divideFrom, cutBehind, cutBefore, EndsWord]
  | cons first rest inductionHypothesis =>
      have current := known first rfl
      cases rest with
      | nil =>
          have alone : ¬StartsWord caseOf (before ++ [first] ++ [])
              (before ++ [first]).length := by
            simp [StartsWord]
          rw [cutBehind_cons, if_neg alone]
          simp [divideFrom, EndsWord, cutBehind, cutBefore, consToHead]
      | cons next rest =>
          have rule :
              StartsWord caseOf (before ++ [first] ++ next :: rest)
                  (before ++ [first]).length ↔ _ :=
            startsWord_append_cons_iff _ rest next
          rw [cutBehind_cons]
          simp only [divideFrom, current]
          split
          · rename_i endsBehind
            have starts := rule.2 ⟨endsBehind.2, Or.inl endsBehind.1⟩
            have goesOn : ¬EndsWord caseOf seen (first :: next :: rest) := by
              simp [EndsWord, endsBehind.2]
            rw [if_pos starts, if_neg goesOn,
              inductionHypothesis _ none (isKnown_none endsBehind.2),
              if_neg not_endsWord_none]
          · rename_i noSmall
            split
            · rename_i endsInFront
              have stays : ¬StartsWord caseOf
                  (before ++ [first] ++ next :: rest)
                  (before ++ [first]).length := by
                intro starts
                have capital := (rule.1 starts).1
                rw [endsInFront.2.2] at capital
                cases capital
              have endsHere : EndsWord caseOf seen (first :: next :: rest) := by
                simpa [EndsWord] using endsInFront
              rw [if_neg stays, if_pos endsHere,
                inductionHypothesis _ none (isKnown_none endsInFront.2.2),
                if_neg not_endsWord_none]
            · rename_i noCapital
              have goesOn :
                  ¬EndsWord caseOf seen (first :: next :: rest) := by
                simpa [EndsWord] using noCapital
              rw [if_neg goesOn,
                inductionHypothesis _ _ (isKnown_lastCase? _ _)]
              simp only [endsWord_lastCase?_iff noSmall]
              split
              · rfl
              · rfl

/-- The words of a run are its pieces by the rule, for any table of cases. -/
theorem divide_eq_cutBefore (caseOf : Char → Option LetterCase)
    (run : List Char) :
    divide caseOf run = cutBefore (StartsWord caseOf run ·) run := by
  have known : IsKnown caseOf [] none run := by
    intro first _
    simp [lastCase?]
  rw [divide, divideFrom_eq_cutBehind [] run none known,
    if_neg not_endsWord_none, cutBehind]
  simp

/-- A run without small letters is one word. -/
theorem divide_eq_singleton {run : List Char} (nonempty : run ≠ [])
    (noSmall : ∀ character ∈ run, caseOf character ≠ some .lower) :
    divide caseOf run = [run] := by
  rw [divide_eq_cutBefore]
  refine cutBefore_eq_singleton nonempty fun index => ?_
  rw [decide_eq_false_iff_not]
  intro starts
  obtain ⟨character, member, small⟩ := starts.exists_lower
  exact noSmall character member small

end Rule

/-! ## The words of a text -/

/-- What is left of a list when it is split is what satisfies no test. -/
theorem flatten_splitOnP {Item : Type} (part : Item → Bool)
    (list : List Item) :
    (list.splitOnP part).flatten = list.filter (!part ·) := by
  induction list with
  | nil => simp
  | cons first rest inductionHypothesis =>
      rw [List.splitOnP_cons_eq_if_modifyHead]
      split
      · rename_i parts
        simp [inductionHypothesis, parts]
      · rename_i inside
        obtain ⟨head, tail, pieces⟩ :=
          List.exists_cons_of_ne_nil (List.splitOnP_ne_nil part rest)
        rw [pieces] at inductionHypothesis
        rw [pieces, List.modifyHead_cons, List.flatten_cons, List.cons_append,
          ← List.flatten_cons, inductionHypothesis]
        simp [inside]

section Words

variable (alphanumeric : Char → Bool) (caseOf : Char → Option LetterCase)

/-- The words of a text have its alphanumeric characters, in order. -/
theorem flatten_words (text : List Char) :
    (words alphanumeric caseOf text).flatten = text.filter alphanumeric := by
  have runs : (alphanumericRuns alphanumeric text).flatten =
      text.filter alphanumeric := by
    simp [alphanumericRuns, List.flatten_filter_not_isEmpty, flatten_splitOnP]
  rw [← runs, words]
  induction alphanumericRuns alphanumeric text with
  | nil => rfl
  | cons run rest inductionHypothesis =>
      rw [List.flatMap_cons, List.flatten_append, flatten_divide,
        List.flatten_cons, inductionHypothesis]

/-- No word is empty. -/
theorem nil_notMem_words (text : List Char) :
    [] ∉ words alphanumeric caseOf text := by
  intro member
  obtain ⟨run, _, inside⟩ := List.mem_flatMap.1 member
  rw [divide_eq_cutBefore] at inside
  exact nil_notMem_cutBefore _ _ inside

/-- The words of a text are its runs, cut where the rule starts a word. -/
theorem words_eq_flatMap_cutBefore (text : List Char) :
    words alphanumeric caseOf text =
      ((text.splitOnP (!alphanumeric ·)).filter (· ≠ [])).flatMap
        (fun run => cutBefore (StartsWord caseOf run ·) run) := by
  have rule : divide caseOf =
      fun run => cutBefore (StartsWord caseOf run ·) run :=
    funext (divide_eq_cutBefore caseOf)
  have filled : (fun run : List Char => !run.isEmpty) =
      fun run => decide (run ≠ []) := by
    funext run
    cases run with
    | nil => rfl
    | cons first rest => rfl
  rw [words, alphanumericRuns, rule, filled]

end Words

/-- The characters of words are alphanumeric ones of the text. -/
theorem mem_filter_of_mem_words {alphanumeric : Char → Bool}
    {caseOf : Char → Option LetterCase} {text word : List Char}
    (wordMember : word ∈ words alphanumeric caseOf text) {character : Char}
    (member : character ∈ word) : character ∈ text.filter alphanumeric := by
  rw [← flatten_words alphanumeric caseOf]
  exact List.mem_flatten.2 ⟨word, wordMember, member⟩

/--
The include guard joins the upper case of the words of the file name.  For any
tables, the words of a text are its runs of alphanumeric characters, each of
them cut between two of its characters exactly where the rule starts a word;
and this is what the scan of the run does.
-/
theorem Config.includeGuard_eq_intercalate_cuts (config : Config) :
    config.includeGuard =
        "_".intercalate
          ((words isAlphanumeric letterCase? config.headerName.toList).map
            fun word => String.ofList (word.flatMap uppercase)) ∧
      (∀ (alphanumeric : Char → Bool) (caseOf : Char → Option LetterCase)
          (text : List Char),
        words alphanumeric caseOf text =
          ((text.splitOnP (!alphanumeric ·)).filter (· ≠ [])).flatMap
            (fun run => cutBefore (StartsWord caseOf run ·) run)) ∧
      ∀ (caseOf : Char → Option LetterCase) (run : List Char),
        divide caseOf run = cutBefore (StartsWord caseOf run ·) run ∧
          ∀ index, BeginsAt (divide caseOf run) (index + 1) ↔
            StartsWord caseOf run (index + 1) := by
  refine ⟨rfl, words_eq_flatMap_cutBefore, fun caseOf run =>
    ⟨divide_eq_cutBefore caseOf run, fun index => ?_⟩⟩
  rw [divide_eq_cutBefore, beginsAt_cutBefore_succ_iff, decide_eq_true_iff]
  exact and_iff_right_of_imp StartsWord.lt_length

end ShaderBindings
