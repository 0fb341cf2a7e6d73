import Mathlib.Data.Nat.Basic
import ShaderBindings.Identifier
import ShaderBindings.Text.Alphanumeric
import ShaderBindings.Text.LetterCase
import ShaderBindings.Text.Uppercase

/-!
# Characters of ASCII

For the characters of ASCII the tables of Unicode say what the tests and the
mapping for ASCII alone say.  The upper case of an alphanumeric one is a
capital or a digit, and no upper case changes these again.
-/

namespace ShaderBindings

variable {character : Char}

/-- What holds of all code points of ASCII holds of its characters. -/
theorem forall_ascii (property : Char → Prop)
    (holds : ∀ code < 128, property (Char.ofNat code))
    (ascii : character.toNat < 128) : property character := by
  rw [← Char.ofNat_toNat character]
  exact holds character.toNat ascii

/-- The letters and digits of ASCII are what is alphanumeric in it. -/
theorem isAlphanumeric_of_ascii (ascii : character.toNat < 128) :
    isAlphanumeric character = character.isAlphanum :=
  forall_ascii
    (fun character => isAlphanumeric character = character.isAlphanum)
    (by decide +kernel) ascii

/-- No letter or digit by the tests for ASCII lies beyond it. -/
theorem toNat_lt_of_isAlphanum (alphanum : character.isAlphanum = true) :
    character.toNat < 128 := by
  rcases Bool.or_eq_true_iff.1 alphanum with letter | digit
  · rcases Bool.or_eq_true_iff.1 letter with upper | lower
    · have bounds : 'A'.val ≤ character.val ∧ character.val ≤ 'Z'.val :=
        of_decide_eq_true upper
      have last : character.toNat ≤ 'Z'.toNat := bounds.2
      exact Nat.lt_of_le_of_lt last (by decide)
    · have bounds : character.val ≤ 'z'.val :=
        of_decide_eq_true (Bool.and_eq_true_iff.1 lower).2
      have last : character.toNat ≤ 'z'.toNat := bounds
      exact Nat.lt_of_le_of_lt last (by decide)
  · have bounds : character.val ≤ '9'.val :=
      of_decide_eq_true (Bool.and_eq_true_iff.1 digit).2
    have last : character.toNat ≤ '9'.toNat := bounds
    exact Nat.lt_of_le_of_lt last (by decide)

/-- The tests for ASCII know the alphanumeric characters of ASCII alone. -/
theorem isAlphanum_iff :
    character.isAlphanum = true ↔
      isAlphanumeric character = true ∧ character.toNat < 128 := by
  constructor
  · intro alphanum
    have ascii := toNat_lt_of_isAlphanum alphanum
    exact ⟨(isAlphanumeric_of_ascii ascii).trans alphanum, ascii⟩
  · rintro ⟨alphanumeric, ascii⟩
    exact (isAlphanumeric_of_ascii ascii).symm.trans alphanumeric

theorem uppercase_of_ascii (ascii : character.toNat < 128) :
    uppercase character = [character.toUpper] :=
  forall_ascii (fun character => uppercase character = [character.toUpper])
    (by decide +kernel) ascii

/-- A capital letter of ASCII, or a digit. -/
def IsCapitalOrDigit (character : Char) : Prop :=
  character.isUpper = true ∨ character.isDigit = true

instance : DecidablePred IsCapitalOrDigit :=
  fun _ => inferInstanceAs (Decidable (_ ∨ _))

/-- The upper case of a letter or digit of ASCII is a capital or a digit. -/
theorem isCapitalOrDigit_toUpper (alphanum : character.isAlphanum = true) :
    IsCapitalOrDigit character.toUpper :=
  forall_ascii
    (fun character => character.isAlphanum = true →
      IsCapitalOrDigit character.toUpper)
    (by decide +kernel) (isAlphanum_iff.1 alphanum).2 alphanum

/-- An alphanumeric character starts an identifier if it is a letter. -/
theorem isIdentifierStart_toUpper (alphanum : character.isAlphanum = true) :
    isIdentifierStart character.toUpper = character.isAlpha :=
  forall_ascii
    (fun character => character.isAlphanum = true →
      isIdentifierStart character.toUpper = character.isAlpha)
    (by decide +kernel) (isAlphanum_iff.1 alphanum).2 alphanum

namespace IsCapitalOrDigit

variable (capitalOrDigit : IsCapitalOrDigit character)

include capitalOrDigit

/-- Capitals and digits are letters and digits. -/
theorem isAlphanum_eq : character.isAlphanum = true := by
  rcases capitalOrDigit with upper | digit
  · exact Bool.or_eq_true_iff.2 (Or.inl (Bool.or_eq_true_iff.2 (Or.inl upper)))
  · exact Bool.or_eq_true_iff.2 (Or.inr digit)

/-- What holds of the capitals and the digits among the code points. -/
theorem forall_code (property : Char → Prop)
    (holds : ∀ code < 128, IsCapitalOrDigit (Char.ofNat code) →
      property (Char.ofNat code)) : property character :=
  forall_ascii (fun character => IsCapitalOrDigit character →
    property character) holds
      (isAlphanum_iff.1 capitalOrDigit.isAlphanum_eq).2 capitalOrDigit

theorem isAlphanumeric_eq : isAlphanumeric character = true :=
  (isAlphanum_iff.1 capitalOrDigit.isAlphanum_eq).1

theorem letterCase?_ne : letterCase? character ≠ some .lower :=
  capitalOrDigit.forall_code (letterCase? · ≠ some .lower) (by decide +kernel)

theorem uppercase_eq : uppercase character = [character] :=
  capitalOrDigit.forall_code (fun character => uppercase character =
    [character]) (by decide +kernel)

theorem ne_underscore : character ≠ '_' :=
  capitalOrDigit.forall_code (· ≠ '_') (by decide +kernel)

theorem isIdentifierPart_eq : isIdentifierPart character = true :=
  capitalOrDigit.forall_code (isIdentifierPart · = true) (by decide +kernel)

theorem isLower_eq : character.isLower = false :=
  capitalOrDigit.forall_code (·.isLower = false) (by decide +kernel)

end IsCapitalOrDigit

end ShaderBindings
