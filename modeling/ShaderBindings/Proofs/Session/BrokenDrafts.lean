import ShaderBindings.Proofs.Session.Reachability
import ShaderBindings.Proofs.Shader.Parts

/-!
# Drafts that cannot be mended

Nothing that is added to a draft makes up for what is wrong with it.  So a
session that has refused a draft refuses it from then on, also with further
additions, until a new draft is begun.

The main theorem, `Session.refused_draft_stays_refused`, says this for drafts
and for sessions.  It also says the converse: what is left of a draft that
becomes a shader becomes a shader as well.
-/

namespace ShaderBindings

namespace Session

/-! ## Steps with a draft -/

/-- A step begins a draft or adds to it. -/
def Step.MakesDraft : Step → Prop
  | .start _ | .extend _ => True
  | _ => False

/-- A step adds to the draft or builds it. -/
def Step.TakesDraft : Step → Prop
  | .extend _ | .build => True
  | _ => False

namespace State

/-- There is no draft that could become a shader. -/
def IsStuck (state : State) : Prop :=
  ∀ draft, state.draft? = some draft → ¬draft.Valid

/-- A draft is refused exactly when it breaks a rule. -/
theorem isRefusal_keepDraft_iff (state : State) (draft : Draft) :
    (state.keepDraft draft).2.isRefusal = true ↔ ¬draft.Valid := by
  rw [← draft.exists_build_eq_error_iff, keepDraft]
  cases draft.build <;> simp [Answer.isRefusal]

/-- A session that refuses a draft is stuck with it. -/
theorem isStuck_of_isRefusal {state : State} {first : Step}
    (makesDraft : first.MakesDraft)
    (refusal : (state.step first).2.isRefusal = true) :
    (state.step first).1.IsStuck := by
  cases first with
  | start draft =>
      rintro kept ⟨⟩
      exact (state.isRefusal_keepDraft_iff draft).1 refusal
  | extend edit =>
      cases started : state.draft? with
      | none =>
          intro kept same
          simp [step, started] at same
      | some draft =>
          simp only [step, started] at refusal ⊢
          rintro kept ⟨⟩
          exact (state.isRefusal_keepDraft_iff _).1 refusal
  | _ => exact makesDraft.elim

namespace IsStuck

variable {state : State} (stuck : state.IsStuck)

include stuck

/-- A state that is stuck refuses each step with the draft. -/
theorem isRefusal {next : Step} (takesDraft : next.TakesDraft) :
    (state.step next).2.isRefusal = true := by
  cases next with
  | extend edit =>
      cases started : state.draft? with
      | none => simp [step, started, Answer.isRefusal]
      | some draft =>
          have broken := Draft.not_valid_extendAll (stuck draft started) [edit]
          simp only [step, started]
          exact (state.isRefusal_keepDraft_iff _).2 broken
  | build =>
      cases started : state.draft? with
      | none => simp [step, started, Answer.isRefusal]
      | some draft =>
          obtain ⟨fault, refused⟩ :=
            draft.exists_build_eq_error_iff.2 (stuck draft started)
          simp [step, started, refused, Answer.isRefusal]
  | _ => exact takesDraft.elim

/-- Only a new draft helps a session that is stuck. -/
theorem step {next : Step} (goesOn : ∀ draft, next ≠ .start draft) :
    (state.step next).1.IsStuck := by
  have followed := congrArg Sketch.draft? (state.sketch_step next)
  intro kept same
  have sketched := followed.symm.trans same
  cases next with
  | start draft => exact absurd rfl (goesOn draft)
  | extend edit =>
      obtain ⟨draft, started, rfl⟩ := Option.map_eq_some_iff.1 sketched
      exact Draft.not_valid_extendAll (stuck draft started) [edit]
  | build =>
      simp only [Sketch.step] at sketched
      split at sketched
      · exact stuck kept sketched
      · split at sketched
        · exact stuck kept sketched
        · exact stuck kept sketched
  | collect =>
      simp only [Sketch.step] at sketched
      split at sketched
      · exact stuck kept sketched
      · exact stuck kept sketched
  | _ => exact stuck kept sketched

/-- As long as no draft is started, each step with the draft is refused. -/
theorem run {steps : List Step} {position : Nat} {next : Step}
    (found : steps[position]? = some next) (takesDraft : next.TakesDraft)
    (goesOn : ∀ draft, .start draft ∉ steps.take position) :
    ∃ answer, (state.run steps).2[position]? = some answer ∧
      answer.isRefusal = true := by
  induction steps generalizing state position with
  | nil => simp at found
  | cons first rest inductionHypothesis =>
      rw [State.run]
      cases position with
      | zero =>
          cases found
          exact ⟨_, rfl, stuck.isRefusal takesDraft⟩
      | succ earlier =>
          simp only [List.take_succ_cons, List.mem_cons, not_or] at goesOn
          have behind := stuck.step fun draft => Ne.symm (goesOn draft).1
          exact inductionHypothesis behind found
            fun draft => (goesOn draft).2

end IsStuck

end State

/-! ## Drafts and what is left of them -/

/--
A draft that is refused is refused with all additions.  A session that has
refused a draft refuses to add to it and to build it until a new one is begun.
And a draft that becomes a shader did so before the last additions, and does so
when attributes, uniforms, groups or variants are dropped.
-/
theorem refused_draft_stays_refused :
    (∀ (draft : Draft) (edits : List Draft.Edit),
        (∃ fault, draft.build = .error fault) →
        ∃ fault, (draft.extendAll edits).build = .error fault) ∧
      (∀ (state : State) (first : Step) (later : List Step),
        first.MakesDraft → (state.step first).2.isRefusal = true →
        ∀ (position : Nat) (next : Step), later[position]? = some next →
        next.TakesDraft → (∀ draft, .start draft ∉ later.take position) →
        ∃ answer : Answer,
          ((state.step first).1.run later).2[position]? = some answer ∧
            answer.isRefusal = true) ∧
      (∀ (draft : Draft) (edits later : List Draft.Edit),
        (∃ shader, (draft.extendAll (edits ++ later)).build = .ok shader) →
        ∃ shader, (draft.extendAll edits).build = .ok shader) ∧
      ∀ draft whole : Draft, draft.IsPartOf whole →
        (∃ shader, whole.build = .ok shader) →
        ∃ shader, draft.build = .ok shader := by
  simp only [Draft.exists_build_eq_error_iff,
    Draft.exists_build_eq_ok_iff_valid]
  refine ⟨fun draft edits broken => Draft.not_valid_extendAll broken edits,
    ?_, ?_, fun draft whole part valid => valid.of_isPartOf part⟩
  · intro state first later makesDraft refusal position next found takesDraft
      goesOn
    exact (State.isStuck_of_isRefusal makesDraft refusal).run found takesDraft
      goesOn
  · intro draft edits later valid
    rw [Draft.extendAll_append] at valid
    exact valid.of_isPartOf (.extendAll _ later)

/-- A uniform does not help a draft with a bad attribute, and one with a good
attribute does without that. -/
theorem refused_draft_stays_refused_sky :
    (∃ answer : Answer,
        (State.run
            (State.step {}
              (.start
                { name := "sky", vertexPath := "a", fragmentPath := "b"
                  attributes := ["1st"] })).1
            [.extend (.uniforms ["time"]), .build]).2[1]? = some answer ∧
          answer.isRefusal = true) ∧
      ∃ shader,
        Draft.build
            { name := "sky", vertexPath := "a", fragmentPath := "b"
              uniforms := ["time"] } = .ok shader := by
  obtain ⟨_, session, _, parts⟩ := refused_draft_stays_refused
  refine ⟨session {} _ _ (by exact trivial) (by decide) 1 .build rfl trivial
      (by simp),
    parts _
      { name := "sky", vertexPath := "a", fragmentPath := "b"
        attributes := ["first"], uniforms := ["time"] } ?_
      ((Draft.exists_build_eq_ok_iff_valid _).2 (by decide +kernel))⟩
  exact
    { name_eq := rfl
      path_eq := fun stage => by cases stage <;> rfl
      attributes := by decide
      uniforms := by decide
      groups := .nil }

end Session

end ShaderBindings
