import ShaderBindings.Shader.Validity

/-!
# Shaders

A shader is a draft together with the fact that it is valid.  `Draft.build`
checks a draft and gives the shader, or else the first of its faults; checking
changes nothing of what the draft says.
-/

namespace ShaderBindings

/-- A checked description of a shader. -/
structure Shader extends Draft where
  valid : toDraft.Valid := by decide +kernel
deriving DecidableEq

theorem Shader.toDraft_injective {left right : Shader}
    (same : left.toDraft = right.toDraft) : left = right := by
  cases left
  cases right
  simp_all

/-- Check a draft: the shader it describes, or the first of its faults. -/
def Draft.build (draft : Draft) : Except Fault Shader :=
  match found : draft.faults with
  | [] => .ok { toDraft := draft, valid := draft.faults_eq_nil_iff.1 found }
  | fault :: _ => .error fault

namespace Draft

/-- A draft is built as it stands. -/
theorem build_eq_ok_iff (draft : Draft) (shader : Shader) :
    draft.build = .ok shader ↔ shader.toDraft = draft := by
  unfold build
  split
  · constructor
    · intro equal
      cases equal
      rfl
    · rintro rfl
      rfl
  · rename_i fault rest found
    constructor
    · intro equal
      cases equal
    · rintro rfl
      rw [shader.faults_eq_nil_iff.2 shader.valid] at found
      contradiction

/-- The first fault of a draft is its error. -/
theorem build_eq_error_iff (draft : Draft) (fault : Fault) :
    draft.build = .error fault ↔ draft.faults.head? = some fault := by
  unfold build
  split <;> rename_i found <;> simp [found]

/-- Exactly the valid drafts are built. -/
theorem exists_build_eq_ok_iff_valid (draft : Draft) :
    (∃ shader, draft.build = .ok shader) ↔ draft.Valid := by
  constructor
  · rintro ⟨shader, built⟩
    rw [← (build_eq_ok_iff draft shader).1 built]
    exact shader.valid
  · intro valid
    exact ⟨{ toDraft := draft, valid }, (build_eq_ok_iff _ _).2 rfl⟩

theorem exists_build_eq_error_iff (draft : Draft) :
    (∃ fault, draft.build = .error fault) ↔ ¬draft.Valid := by
  rw [← exists_build_eq_ok_iff_valid]
  cases draft.build <;> simp

/-- Checking a shader once more gives the shader. -/
@[simp]
theorem build_toDraft (shader : Shader) :
    shader.toDraft.build = .ok shader :=
  (build_eq_ok_iff _ _).2 rfl

end Draft

end ShaderBindings
