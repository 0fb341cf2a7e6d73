import ShaderBindings.Shader.Basic

/-!
# Catalogs

A catalog is a list of shaders which is not empty and in which no name occurs
twice, since the shaders become the members of one struct.  The order of the
shaders is the order of the members and of the statements in the generated
files.
-/

namespace ShaderBindings

/-- An ordered set of shaders with distinct names. -/
structure Catalog where
  shaders : List Shader
  nonempty : shaders ≠ [] := by decide +kernel
  names_nodup : (shaders.map (·.name)).Nodup := by decide +kernel
deriving DecidableEq

/--
The first name of a list which stands in `seen` or earlier in the list.
-/
def firstRepeat? (seen : List String) : List String → Option String
  | [] => none
  | name :: rest =>
      if name ∈ seen then some name else firstRepeat? (name :: seen) rest

theorem firstRepeat?_eq_none_iff (seen names : List String) :
    firstRepeat? seen names = none ↔
      names.Nodup ∧ ∀ name ∈ names, name ∉ seen := by
  induction names generalizing seen with
  | nil => simp [firstRepeat?]
  | cons name rest inductionHypothesis =>
      unfold firstRepeat?
      split
      · rename_i again
        simp [again]
      · rename_i fresh
        rw [inductionHypothesis]
        simp only [List.nodup_cons, List.forall_mem_cons]
        simp only [List.mem_cons, not_or]
        constructor
        · rintro ⟨distinct, apart⟩
          exact ⟨⟨fun again => (apart name again).1 rfl, distinct⟩, fresh,
            fun other member => (apart other member).2⟩
        · rintro ⟨⟨once, distinct⟩, _, apart⟩
          exact ⟨distinct, fun other member =>
            ⟨fun same => once (same ▸ member), apart other member⟩⟩

namespace Catalog

/-- Collect shaders in a catalog, in the given order. -/
def ofShaders (shaders : List Shader) : Except Fault Catalog :=
  if empty : shaders = [] then
    .error .emptyCatalog
  else
    match found : firstRepeat? [] (shaders.map (·.name)) with
    | some name => .error (.duplicateShader name)
    | none =>
        .ok
          { shaders
            nonempty := empty
            names_nodup := ((firstRepeat?_eq_none_iff _ _).1 found).1 }

/-- Shaders are collected as they are given. -/
theorem ofShaders_eq_ok_iff (shaders : List Shader) (catalog : Catalog) :
    ofShaders shaders = .ok catalog ↔ catalog.shaders = shaders := by
  constructor
  · unfold ofShaders
    intro equal
    split at equal
    · cases equal
    · split at equal
      · cases equal
      · cases equal
        rfl
  · rintro rfl
    unfold ofShaders
    rw [dif_neg catalog.nonempty]
    split
    · rename_i name found
      have distinct :=
        (firstRepeat?_eq_none_iff [] (catalog.shaders.map (·.name))).2
          ⟨catalog.names_nodup, fun _ _ => List.not_mem_nil⟩
      rw [distinct] at found
      contradiction
    · rfl

/-- Shaders are collected exactly if there are some and no name repeats. -/
theorem exists_ofShaders_eq_ok_iff (shaders : List Shader) :
    (∃ catalog, ofShaders shaders = .ok catalog) ↔
      shaders ≠ [] ∧ (shaders.map (·.name)).Nodup := by
  simp only [ofShaders_eq_ok_iff]
  constructor
  · rintro ⟨catalog, rfl⟩
    exact ⟨catalog.nonempty, catalog.names_nodup⟩
  · rintro ⟨nonempty, names_nodup⟩
    exact ⟨{ shaders, nonempty, names_nodup }, rfl⟩

/-- Check drafts one after the other, then collect them in a catalog. -/
def ofDrafts (drafts : List Draft) : Except Fault Catalog := do
  ofShaders (← drafts.mapM Draft.build)

/-- To check the drafts of shaders once more refuses none of them. -/
theorem ofDrafts_map_toDraft (shaders : List Shader) :
    ofDrafts (shaders.map (·.toDraft)) = ofShaders shaders := by
  have rebuilt :
      (shaders.map (·.toDraft)).mapM Draft.build = .ok shaders := by
    simp only [List.mapM_map, Function.comp_def, Draft.build_toDraft]
    exact (List.mapM_pure (m := Except Fault)).trans (by rw [List.map_id']; rfl)
  rw [ofDrafts, rebuilt]
  rfl

/-- The names of the shaders, in order. -/
def names (catalog : Catalog) : List String :=
  catalog.shaders.map (·.name)

/-- The number of shaders. -/
def size (catalog : Catalog) : Nat :=
  catalog.shaders.length

/-- Are there no shaders? -/
def isEmpty (catalog : Catalog) : Bool :=
  catalog.shaders.isEmpty

/-- The shader of a name. -/
def get? (catalog : Catalog) (name : String) : Option Shader :=
  catalog.shaders.find? (·.name == name)

/-- Does any shader have a subroutine group? -/
def usesSubroutines (catalog : Catalog) : Bool :=
  catalog.shaders.any (!·.groups.isEmpty)

/-- No catalog is empty. -/
@[simp]
theorem isEmpty_eq_false (catalog : Catalog) : catalog.isEmpty = false := by
  simp [isEmpty, catalog.nonempty]

end Catalog

end ShaderBindings
