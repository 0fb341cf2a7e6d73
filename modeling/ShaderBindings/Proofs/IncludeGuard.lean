import ShaderBindings.Proofs.Code.Scanning
import ShaderBindings.Proofs.Text.Words

/-!
# Characters of include guards

The include guard stands in two lines of the header without quotes.  It is
made of the upper case of alphanumeric characters, and no alphanumeric
character has a mark in its upper case; so the guard never breaks a line,
opens or closes nothing and includes nothing, whatever the file name of the
header is.
-/

namespace ShaderBindings

/-! ## Upper case -/

/-- An invalid code point counts as zero. -/
theorem toNat_ofNat_eq_or (code : Nat) :
    (Char.ofNat code).toNat = code ∨ (Char.ofNat code).toNat = 0 := by
  by_cases valid : code.isValidChar
  · rw [Char.ofNat, dif_pos valid]
    exact Or.inl rfl
  · rw [Char.ofNat, dif_neg valid]
    exact Or.inr rfl

theorem ofNat_ne {mark : Char} {code : Nat} (nonzero : mark.toNat ≠ 0)
    (other : code ≠ mark.toNat) : Char.ofNat code ≠ mark := by
  rintro rfl
  rcases toNat_ofNat_eq_or code with kept | none
  · exact other kept.symm
  · exact nonzero none

/-- No code point of the span is mapped to the given one. -/
def CaseShift.Misses (code : Nat) (span : Span) : CaseShift → Prop
  | .shift target => code < target ∨ target + (span.last - span.first) < code
  | .everyOther target => code < target ∧ code < span.first

instance (code : Nat) (span : Span) :
    (shift : CaseShift) → Decidable (shift.Misses code span)
  | .shift _ => inferInstanceAs (Decidable (_ ∨ _))
  | .everyOther _ => inferInstanceAs (Decidable (_ ∧ _))

/-- A shift that misses a code does not lead to it. -/
theorem CaseShift.Misses.apply_ne {code offset : Nat} {span : Span}
    {shift : CaseShift} (misses : shift.Misses code span)
    (inside : offset ≤ span.last - span.first) :
    shift.apply span.first offset ≠ code := by
  cases shift with
  | shift target =>
      simp only [CaseShift.Misses, CaseShift.apply] at misses ⊢
      omega
  | everyOther target =>
      simp only [CaseShift.Misses, CaseShift.apply] at misses ⊢
      split
      · omega
      · omega

/-- A character that no other character has in its upper case. -/
def IsCaseless (mark : Char) : Prop :=
  mark.toNat ≠ 0 ∧
    (∀ entry ∈ uppercaseSpans, entry.2.Misses mark.toNat entry.1) ∧
    ∀ entry ∈ uppercaseExpansions, mark.toNat ∉ entry.2

instance (mark : Char) : Decidable (IsCaseless mark) :=
  inferInstanceAs (Decidable (_ ∧ _ ∧ _))

/-- No other character turns into a caseless mark. -/
theorem IsCaseless.notMem_uppercase {mark character : Char}
    (caseless : IsCaseless mark) (other : character ≠ mark) :
    mark ∉ uppercase character := by
  obtain ⟨nonzero, spans, expansions⟩ := caseless
  intro member
  simp only [uppercase] at member
  split at member
  · rename_i span shift found
    obtain ⟨entry, _, stop⟩ := Span.mem_of_lookup found
    have mapped := (spans _ entry).apply_ne
      (Nat.sub_le_sub_right stop span.first)
    exact ofNat_ne nonzero mapped (List.mem_singleton.1 member).symm
  · split at member
    · rename_i codes found
      obtain ⟨code, codeMember, same⟩ := List.mem_map.1 member
      obtain ⟨before, behind, table, _⟩ := List.lookup_eq_some_iff.1 found
      have entry : (character.toNat, codes) ∈ uppercaseExpansions := by
        rw [table]
        simp
      refine ofNat_ne nonzero ?_ same
      rintro rfl
      exact expansions _ entry codeMember
    · exact other (List.mem_singleton.1 member).symm

/-! ## The guard -/

/-- The include guard has only characters of words in upper case. -/
theorem Config.notMem_includeGuard (config : Config) {mark : Char}
    (caseless : IsCaseless mark) (noWord : isAlphanumeric mark = false)
    (noJoint : mark ≠ '_') : mark ∉ config.includeGuard.toList := by
  intro member
  rw [includeGuard, macroName, String.toList_intercalate] at member
  rcases mem_or_exists_of_mem_intercalate member with
    between | ⟨text, printed, inside⟩
  · exact noJoint (List.mem_singleton.1 between)
  · simp only [List.map_map, List.mem_map, Function.comp_apply] at printed
    obtain ⟨word, wordMember, rfl⟩ := printed
    rw [String.toList_ofList, List.mem_flatMap] at inside
    obtain ⟨character, characterMember, upper⟩ := inside
    have alphanumeric :=
      List.of_mem_filter (mem_filter_of_mem_words wordMember characterMember)
    refine caseless.notMem_uppercase ?_ upper
    rintro rfl
    rw [noWord] at alphanumeric
    contradiction

/-- The include guard has no marks. -/
theorem Config.isPlain_includeGuard (config : Config) :
    IsPlain config.includeGuard.toList := by
  intro character member mark
  have apart : marks.all (fun mark => decide
      (IsCaseless mark ∧ isAlphanumeric mark = false ∧ mark ≠ '_')) =
      true := by
    decide +kernel
  obtain ⟨caseless, noWord, noJoint⟩ :=
    of_decide_eq_true (List.all_eq_true.1 apart character mark)
  exact config.notMem_includeGuard caseless noWord noJoint member

end ShaderBindings
