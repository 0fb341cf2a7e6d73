import ShaderBindings.Proofs.Shader.Violations
import ShaderBindings.Session

/-!
# What a session can hold

A sketch of a session has drafts where the session has shaders and a list of
drafts where it has a catalog, so that its type says nothing about them.  Its
steps follow the rules alone: a draft becomes the current one when it is
acceptable, and a list is collected when it has members with different names.
A session is the sketch of the same steps with the facts put in, as
`Session.State.sketch_run` says.

So what holds of every sketch that steps can lead to holds of every session.
The main theorem, `Session.sound_and_replayable`, puts together that all that
is held meets the rules, and that the catalog and its files can be had from the
drafts without a session.
-/

namespace ShaderBindings

/-- A catalog is collected again from what its shaders say. -/
theorem Catalog.ofDrafts_reassembled (catalog : Catalog) :
    ofDrafts (catalog.shaders.map (·.reassembled)) = .ok catalog := by
  simp only [Draft.reassembled_eq]
  rw [ofDrafts_map_toDraft, ofShaders_eq_ok_iff]

namespace Session

/-! ## Sketches -/

/-- What a session holds, without the facts about it. -/
structure Sketch where
  draft? : Option Draft := none
  shader? : Option Draft := none
  shaders : List Draft := []
  catalog? : Option (List Draft) := none
  config : Config := {}
deriving DecidableEq

/-- A list of drafts that can be the shaders of a catalog. -/
def IsCollection (drafts : List Draft) : Prop :=
  drafts ≠ [] ∧ (drafts.map (·.name)).Nodup

instance (drafts : List Draft) : Decidable (IsCollection drafts) :=
  inferInstanceAs (Decidable (_ ∧ _))

namespace Sketch

/-- Take one step by the rules alone. -/
def step (sketch : Sketch) : Step → Sketch
  | .start draft => { sketch with draft? := some draft }
  | .extend edit => { sketch with draft? := sketch.draft?.map (·.extend edit) }
  | .build =>
      match sketch.draft? with
      | none => sketch
      | some draft =>
          if draft.Acceptable then { sketch with shader? := some draft }
          else sketch
  | .push => { sketch with shaders := sketch.shaders ++ sketch.shader?.toList }
  | .pop => { sketch with shaders := sketch.shaders.dropLast }
  | .pushBuiltin =>
      { sketch with
        shaders := sketch.shaders ++ builtinShaders.map (·.toDraft) }
  | .collect =>
      if IsCollection sketch.shaders then
        { sketch with catalog? := some sketch.shaders }
      else sketch
  | .configure settings =>
      { sketch with config := sketch.config.setAll settings }
  | .resetConfig => { sketch with config := {} }
  | .render | .compare _ _ | .lookUp _ | .header | .source | .generate =>
      sketch

/-- A list of steps. -/
def run (sketch : Sketch) (steps : List Step) : Sketch :=
  steps.foldl step sketch

end Sketch

/-- The sketch of what a session holds. -/
def State.sketch (state : State) : Sketch where
  draft? := state.draft?
  shader? := state.shader?.map (·.toDraft)
  shaders := state.shaders.map (·.toDraft)
  catalog? := state.catalog?.map (·.shaders.map (·.toDraft))
  config := state.config

/-! ## A session follows its sketch -/

namespace State

theorem sketch_build (state : State) :
    (state.step .build).1.sketch = state.sketch.step .build := by
  cases started : state.draft? with
  | none => simp [step, Sketch.step, sketch, started]
  | some draft =>
      cases built : draft.build with
      | ok shader =>
          have acceptable := draft.exists_build_eq_ok_iff.1 ⟨shader, built⟩
          have same := (draft.build_eq_ok_iff shader).1 built
          simp [step, Sketch.step, sketch, started, built, acceptable, same]
      | error fault =>
          have refused : ¬draft.Acceptable := by
            rw [← draft.exists_build_eq_ok_iff, built]
            simp
          simp [step, Sketch.step, sketch, started, built, refused]

theorem isCollection_sketch_iff (state : State) :
    IsCollection state.sketch.shaders ↔
      ∃ catalog, Catalog.ofShaders state.shaders = .ok catalog := by
  rw [Catalog.exists_ofShaders_eq_ok_iff]
  simp [IsCollection, sketch, Function.comp_def]

theorem sketch_collect (state : State) :
    (state.step .collect).1.sketch = state.sketch.step .collect := by
  have collection := state.isCollection_sketch_iff
  cases collected : Catalog.ofShaders state.shaders with
  | ok catalog =>
      have same := (Catalog.ofShaders_eq_ok_iff _ _).1 collected
      rw [Sketch.step, if_pos (collection.2 ⟨catalog, collected⟩)]
      simp [step, sketch, collected, same]
  | error fault =>
      have refused : ¬IsCollection state.sketch.shaders := by
        rw [collection, collected]
        simp
      rw [Sketch.step, if_neg refused]
      simp [step, collected]

theorem sketch_push (state : State) :
    (state.step .push).1.sketch = state.sketch.step .push := by
  cases current : state.shader? <;>
    simp [step, keepShaders, Sketch.step, sketch, current]

/-- A step leads from the sketch of a session to that of the next one. -/
theorem sketch_step (state : State) (next : Step) :
    (state.step next).1.sketch = state.sketch.step next := by
  cases next with
  | start draft => rfl
  | extend edit =>
      cases started : state.draft? <;>
        simp [step, keepDraft, Sketch.step, sketch, started]
  | build => exact state.sketch_build
  | render =>
      cases current : state.shader? <;>
        simp [step, Sketch.step, current]
  | push => exact state.sketch_push
  | pop => simp [step, keepShaders, Sketch.step, sketch]
  | pushBuiltin => simp [step, keepShaders, Sketch.step, sketch]
  | compare left right =>
      simp only [step, Sketch.step]
      split <;> rfl
  | collect => exact state.sketch_collect
  | lookUp name => rfl
  | configure settings => rfl
  | resetConfig => rfl
  | header => rfl
  | source => rfl
  | generate => rfl

/-- A session is followed by its sketch from beginning to end. -/
theorem sketch_run (state : State) (steps : List Step) :
    (state.run steps).1.sketch = state.sketch.run steps := by
  induction steps generalizing state with
  | nil => rfl
  | cons first rest inductionHypothesis =>
      rw [run, inductionHypothesis, sketch_step]
      rfl

end State

/-! ## What is held meets the rules -/

/-- All that is held meets the rules. -/
structure Sketch.IsSound (sketch : Sketch) : Prop where
  shader : ∀ draft, sketch.shader? = some draft → draft.Acceptable
  shaders : ∀ draft ∈ sketch.shaders, draft.Acceptable
  collection : ∀ drafts, sketch.catalog? = some drafts → IsCollection drafts
  catalog : ∀ drafts, sketch.catalog? = some drafts →
    ∀ draft ∈ drafts, draft.Acceptable

namespace Sketch.IsSound

theorem initial : ({} : Sketch).IsSound where
  shader := by simp
  shaders := by simp
  collection := by simp
  catalog := by simp

/-- Each step keeps what is held within the rules. -/
theorem step {sketch : Sketch} (sound : sketch.IsSound) (next : Step) :
    (sketch.step next).IsSound := by
  obtain ⟨shader, shaders, collection, catalog⟩ := sound
  cases next with
  | start draft => exact ⟨shader, shaders, collection, catalog⟩
  | extend edit => exact ⟨shader, shaders, collection, catalog⟩
  | build =>
      simp only [Sketch.step]
      split
      · exact ⟨shader, shaders, collection, catalog⟩
      · split
        · rename_i draft _ acceptable
          exact ⟨fun _ same => Option.some.inj same ▸ acceptable, shaders,
            collection, catalog⟩
        · exact ⟨shader, shaders, collection, catalog⟩
  | push =>
      refine ⟨shader, fun draft member => ?_, collection, catalog⟩
      rcases List.mem_append.1 member with before | current
      · exact shaders draft before
      · exact shader draft (Option.mem_toList.1 current)
  | pop =>
      exact ⟨shader, fun draft member =>
        shaders draft (List.dropLast_subset _ member), collection, catalog⟩
  | pushBuiltin =>
      refine ⟨shader, fun draft member => ?_, collection, catalog⟩
      rcases List.mem_append.1 member with before | builtin
      · exact shaders draft before
      · obtain ⟨builtinShader, _, rfl⟩ := List.mem_map.1 builtin
        exact builtinShader.acceptable_iff_valid.2 builtinShader.valid
  | collect =>
      simp only [Sketch.step]
      split
      · rename_i distinct
        exact ⟨shader, shaders, fun _ same => Option.some.inj same ▸ distinct,
          fun _ same => Option.some.inj same ▸ shaders⟩
      · exact ⟨shader, shaders, collection, catalog⟩
  | configure settings => exact ⟨shader, shaders, collection, catalog⟩
  | resetConfig => exact ⟨shader, shaders, collection, catalog⟩
  | render | compare | lookUp | header | source | generate =>
      exact ⟨shader, shaders, collection, catalog⟩

/-- Whatever the steps are, what is held in the end meets the rules. -/
theorem run {sketch : Sketch} (sound : sketch.IsSound) (steps : List Step) :
    (sketch.run steps).IsSound := by
  induction steps generalizing sketch with
  | nil => exact sound
  | cons first rest inductionHypothesis =>
      exact inductionHypothesis (sound.step first)

end Sketch.IsSound

/-! ## Refused steps -/

/-- A step was not taken. -/
def Answer.isRefusal : Answer → Bool
  | .refused _ | .missing _ => true
  | _ => false

/-- A refused step leaves all as it was, save for the draft. -/
theorem State.step_of_isRefusal {state : State} {next : Step}
    (refusal : (state.step next).2.isRefusal = true) :
    { (state.step next).1 with draft? := state.draft? } = state := by
  cases next with
  | start draft => rfl
  | extend edit =>
      simp only [step]
      split <;> rfl
  | build =>
      simp only [step] at refusal ⊢
      split at refusal
      · rfl
      · split at refusal
        · rfl
        · cases refusal
  | render =>
      simp only [step]
      split <;> rfl
  | push =>
      simp only [step] at refusal ⊢
      split at refusal
      · rfl
      · cases refusal
  | compare left right =>
      simp only [step]
      split <;> rfl
  | collect =>
      simp only [step] at refusal ⊢
      split at refusal
      · rfl
      · cases refusal
  | lookUp | header | source | generate => rfl
  | pop | pushBuiltin | configure | resetConfig => cases refusal

/-! ## Sessions -/

/--
After any steps, taken or refused, a session holds what the rules alone say,
and all of that meets the rules.  A catalog and its files can be had from what
its shaders say, without a session.  A step that is then refused changes
nothing but the draft.
-/
theorem sound_and_replayable (steps : List Step) :
    (State.run {} steps).1.sketch = Sketch.run {} steps ∧
      (State.run {} steps).1.sketch.IsSound ∧
      (∀ catalog, (State.run {} steps).1.catalog? = some catalog →
        Catalog.ofDrafts (catalog.shaders.map (·.reassembled)) =
            .ok catalog ∧
          ((State.run {} steps).1.step .generate).2 =
            .files (catalog.generate (State.run {} steps).1.config)) ∧
      ∀ next, ((State.run {} steps).1.step next).2.isRefusal = true →
        { ((State.run {} steps).1.step next).1 with
          draft? := (State.run {} steps).1.draft? } =
          (State.run {} steps).1 := by
  have followed := State.sketch_run {} steps
  refine ⟨followed, ?_, fun catalog collected => ⟨?_, ?_⟩, fun next =>
    State.step_of_isRefusal⟩
  · rw [followed]
    exact Sketch.IsSound.initial.run steps
  · exact Catalog.ofDrafts_reassembled catalog
  · simp [State.step, State.fromCatalog, collected]

/--
The built-in catalog is held after it is collected, and can be made again.
-/
theorem builtin_sound_and_replayable :
    (State.run {} [.pushBuiltin, .collect]).1.catalog? =
        some Catalog.builtin ∧
      Catalog.ofDrafts (builtinShaders.map (·.reassembled)) =
        .ok Catalog.builtin := by
  have collected : (State.run {} [.pushBuiltin, .collect]).1.catalog? =
      some Catalog.builtin := by
    have builtin : Catalog.ofShaders builtinShaders = .ok Catalog.builtin :=
      (Catalog.ofShaders_eq_ok_iff _ _).2 rfl
    simp only [State.run, State.step, State.keepShaders, List.nil_append,
      builtin]
  exact ⟨collected, ((sound_and_replayable _).2.2.1 _ collected).1⟩

end Session

end ShaderBindings
