import Mathlib.Data.List.Basic
import ShaderBindings.Text.Words

/-!
# Cutting runs into pieces

A run of characters is cut in front of given indices.  Nothing is lost and no
piece is empty; and where the pieces begin tells where the run was cut:
`beginsAt_cutBefore_succ_iff`.
-/

namespace ShaderBindings

/--
Cut a list in front of each index at which a piece starts.  The first piece
starts at the first item in any case.
-/
def cutBefore (starts : Nat → Bool) : List Char → List (List Char)
  | [] => []
  | first :: rest =>
      let behind := cutBefore (fun index => starts (index + 1)) rest
      if starts 1 then [first] :: behind else consToHead first behind

/-- Nothing is lost where a list is cut. -/
@[simp]
theorem flatten_cutBefore (starts : Nat → Bool) (run : List Char) :
    (cutBefore starts run).flatten = run := by
  induction run generalizing starts with
  | nil => rfl
  | cons first rest inductionHypothesis =>
      rw [cutBefore]
      split
      · simp [inductionHypothesis]
      · simp [inductionHypothesis]

theorem nil_notMem_consToHead (first : Char) {pieces : List (List Char)}
    (full : [] ∉ pieces) : [] ∉ consToHead first pieces := by
  cases pieces with
  | nil => simp [consToHead]
  | cons piece others =>
      rw [List.mem_cons, not_or] at full
      rw [consToHead, List.mem_cons, not_or]
      exact ⟨(List.cons_ne_nil first piece).symm, full.2⟩

/-- No piece is empty. -/
theorem nil_notMem_cutBefore (starts : Nat → Bool) (run : List Char) :
    [] ∉ cutBefore starts run := by
  induction run generalizing starts with
  | nil => simp [cutBefore]
  | cons first rest inductionHypothesis =>
      have behind := inductionHypothesis fun index => starts (index + 1)
      rw [cutBefore]
      split
      · simpa using behind
      · exact nil_notMem_consToHead first behind

/-- Only the empty run has no pieces. -/
theorem cutBefore_eq_nil_iff {starts : Nat → Bool} {run : List Char} :
    cutBefore starts run = [] ↔ run = [] := by
  constructor
  · intro empty
    rw [← flatten_cutBefore starts run, empty]
    rfl
  · rintro rfl
    rfl

/-- A run that is cut nowhere is one piece. -/
theorem cutBefore_eq_singleton {starts : Nat → Bool} {run : List Char}
    (nonempty : run ≠ []) (whole : ∀ index, starts (index + 1) = false) :
    cutBefore starts run = [run] := by
  induction run generalizing starts with
  | nil => exact absurd rfl nonempty
  | cons first rest inductionHypothesis =>
      have goesOn : ¬starts 1 = true := by simp [whole 0]
      rw [cutBefore, if_neg goesOn]
      cases rest with
      | nil => rfl
      | cons next later =>
          rw [inductionHypothesis (List.cons_ne_nil _ _) fun index =>
            whole (index + 1)]
          rfl

/-! ## Where pieces begin -/

/-- One of several pieces in a row begins at an index. -/
def BeginsAt (pieces : List (List Char)) (index : Nat) : Prop :=
  ∃ before piece behind, pieces = before ++ piece :: behind ∧
    before.flatten.length = index

@[simp]
theorem not_beginsAt_nil (index : Nat) : ¬BeginsAt [] index := by
  rintro ⟨before, piece, behind, split, _⟩
  simp at split

theorem beginsAt_zero_iff {pieces : List (List Char)} :
    BeginsAt pieces 0 ↔ pieces ≠ [] := by
  constructor
  · rintro ⟨before, piece, behind, rfl, _⟩
    simp
  · intro nonempty
    obtain ⟨piece, behind, rfl⟩ := List.exists_cons_of_ne_nil nonempty
    exact ⟨[], piece, behind, rfl, rfl⟩

theorem beginsAt_cons_succ_iff {piece : List Char}
    {pieces : List (List Char)} {index : Nat} :
    BeginsAt (piece :: pieces) (index + 1) ↔
      ∃ inner, index + 1 = piece.length + inner ∧ BeginsAt pieces inner := by
  constructor
  · rintro ⟨before, next, behind, split, length⟩
    cases before with
    | nil => cases length
    | cons first before =>
        obtain ⟨rfl, rfl⟩ := List.cons.inj split
        refine ⟨before.flatten.length, ?_, before, next, behind, rfl, rfl⟩
        rw [← length, List.flatten_cons, List.length_append]
  · rintro ⟨inner, place, before, next, behind, rfl, rfl⟩
    exact ⟨piece :: before, next, behind, rfl, by simp [place]⟩

theorem beginsAt_singleton_cons_succ_iff {character : Char}
    {pieces : List (List Char)} {index : Nat} :
    BeginsAt ([character] :: pieces) (index + 1) ↔ BeginsAt pieces index := by
  rw [beginsAt_cons_succ_iff]
  constructor
  · rintro ⟨inner, place, begins⟩
    obtain rfl : index = inner := by simpa [Nat.add_comm 1] using place
    exact begins
  · exact fun begins => ⟨index, by simp [Nat.add_comm 1], begins⟩

/-- A character more in the first piece moves all pieces but the first. -/
theorem beginsAt_consToHead_succ_iff {character : Char}
    {pieces : List (List Char)} (full : [] ∉ pieces) {index : Nat} :
    BeginsAt (consToHead character pieces) (index + 1) ↔
      0 < index ∧ BeginsAt pieces index := by
  cases pieces with
  | nil => simp [consToHead, beginsAt_cons_succ_iff]
  | cons piece pieces =>
      have filled : 0 < piece.length :=
        List.length_pos_iff.2 fun empty => full (by simp [empty])
      rw [consToHead, beginsAt_cons_succ_iff, List.length_cons]
      cases index with
      | zero =>
          constructor
          · rintro ⟨inner, place, _⟩
            omega
          · rintro ⟨⟨⟩, _⟩
      | succ index =>
          rw [beginsAt_cons_succ_iff]
          constructor
          · rintro ⟨inner, place, begins⟩
            exact ⟨Nat.succ_pos index, inner, by omega, begins⟩
          · rintro ⟨_, inner, place, begins⟩
            exact ⟨inner, by omega, begins⟩

/-- Behind the first item, pieces begin exactly where the list is cut. -/
theorem beginsAt_cutBefore_succ_iff (starts : Nat → Bool) (run : List Char)
    (index : Nat) :
    BeginsAt (cutBefore starts run) (index + 1) ↔
      index + 1 < run.length ∧ starts (index + 1) = true := by
  induction run generalizing starts index with
  | nil => simp [cutBefore]
  | cons first rest inductionHypothesis =>
      have full := nil_notMem_cutBefore (fun index => starts (index + 1)) rest
      rw [cutBefore, List.length_cons, Nat.succ_lt_succ_iff]
      cases index with
      | zero =>
          split
          · rename_i starts
            simp [beginsAt_singleton_cons_succ_iff, beginsAt_zero_iff,
              cutBefore_eq_nil_iff, List.length_pos_iff, starts]
          · rename_i stays
            simp [beginsAt_consToHead_succ_iff full, stays]
      | succ index =>
          split
          · rw [beginsAt_singleton_cons_succ_iff, inductionHypothesis]
          · rw [beginsAt_consToHead_succ_iff full, inductionHypothesis]
            simp

end ShaderBindings
