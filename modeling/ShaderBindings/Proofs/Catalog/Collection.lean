import Mathlib.Data.List.Nodup
import Mathlib.Order.Bounds.Basic
import Mathlib.Order.Nat
import ShaderBindings.Catalog.Builtin

/-!
# Collecting shaders and finding them again

A list of shaders is a catalog unless it is empty or a name stands in it more
than once.  Of several names that do, the one that is met again first is
reported, `IsFirstRepeat`; the shaders are compared by their names alone.  A
name that stands in a catalog once leads to its shader and to no other.

A selection from a catalog, the built-in one for instance, repeats a name
exactly where it repeats an index, since the names of the catalog differ.
-/

namespace ShaderBindings

/-! ## The first repeat in a list -/

section Repeats

variable {Item Image : Type} {items : List Item} {item : Item}

/-- The item at an index of a list stands at an earlier index as well. -/
def RepeatsAt (items : List Item) (index : Nat) : Prop :=
  ∃ item, items[index]? = some item ∧
    ∃ earlier < index, items[earlier]? = some item

/-- The item at the smallest index of those at which an item repeats. -/
def IsFirstRepeat (items : List Item) (item : Item) : Prop :=
  ∃ index, IsLeast { index | RepeatsAt items index } index ∧
    items[index]? = some item

/-- Whether an item is a repeat depends on the items in front of it. -/
theorem repeatsAt_append_iff {before behind : List Item} {index : Nat}
    (inside : index < before.length) :
    RepeatsAt (before ++ behind) index ↔ RepeatsAt before index := by
  simp only [RepeatsAt, List.getElem?_append_left inside]
  refine exists_congr fun item => and_congr_right fun _ => exists_congr ?_
  intro earlier
  refine and_congr_right fun inFront => ?_
  rw [List.getElem?_append_left (inFront.trans inside)]

/-- Items are distinct if none of them is a repeat. -/
theorem nodup_iff_forall_not_repeatsAt :
    items.Nodup ↔ ∀ index < items.length, ¬RepeatsAt items index := by
  rw [List.nodup_iff_getElem?_ne_getElem?]
  constructor
  · rintro distinct index inside ⟨item, found, earlier, inFront, again⟩
    exact distinct earlier index inFront inside (again.trans found.symm)
  · intro fresh earlier index inFront inside same
    have found := List.getElem?_eq_getElem inside
    exact fresh index inside
      ⟨items[index], found, earlier, inFront, same.trans found⟩

/-- In front of the first repeat stand distinct items, and the item itself. -/
theorem isFirstRepeat_iff :
    IsFirstRepeat items item ↔ ∃ before behind,
      items = before ++ item :: behind ∧ item ∈ before ∧ before.Nodup := by
  constructor
  · rintro ⟨index, ⟨⟨other, found, earlier, inFront, again⟩, least⟩, here⟩
    obtain rfl : other = item := Option.some.inj (found.symm.trans here)
    obtain ⟨inside, atIndex⟩ := List.getElem?_eq_some_iff.1 here
    have split :
        items = items.take index ++ other :: items.drop (index + 1) := by
      rw [← atIndex, ← List.drop_eq_getElem_cons, List.take_append_drop]
    have length : (items.take index).length = index :=
      List.length_take_of_le inside.le
    refine ⟨items.take index, items.drop (index + 1), split, ?_, ?_⟩
    · rw [← List.getElem?_take_of_lt inFront] at again
      exact List.mem_of_getElem? again
    · rw [nodup_iff_forall_not_repeatsAt, length]
      intro place inPlace repeats
      have inAll : RepeatsAt items place := by
        rw [split, repeatsAt_append_iff (length.symm ▸ inPlace)]
        exact repeats
      exact absurd (least inAll) (not_le.2 inPlace)
  · rintro ⟨before, behind, rfl, member, distinct⟩
    obtain ⟨earlier, inFront, again⟩ := List.getElem_of_mem member
    have here : (before ++ item :: behind)[before.length]? = some item := by
      simp
    refine ⟨before.length, ⟨⟨item, here, earlier, inFront, ?_⟩, ?_⟩, here⟩
    · rw [List.getElem?_append_left inFront, List.getElem?_eq_getElem inFront,
        again]
    · intro place repeats
      refine not_lt.1 fun inside => ?_
      rw [Set.mem_ofPred_eq, repeatsAt_append_iff inside] at repeats
      exact nodup_iff_forall_not_repeatsAt.1 distinct place inside repeats

/-- An item repeats unless all of them differ. -/
theorem exists_isFirstRepeat_iff :
    (∃ item, IsFirstRepeat items item) ↔ ¬items.Nodup := by
  classical
  constructor
  · rintro ⟨item, first⟩ distinct
    obtain ⟨before, behind, rfl, member, _⟩ := isFirstRepeat_iff.1 first
    exact (List.nodup_append.1 distinct).2.2 item member item
      List.mem_cons_self rfl
  · intro repeated
    rw [nodup_iff_forall_not_repeatsAt] at repeated
    push Not at repeated
    obtain ⟨index, inside, repeats⟩ := repeated
    have least := Nat.isLeast_find ⟨index, repeats⟩
    obtain ⟨item, found, _⟩ := least.1
    exact ⟨item, _, least, found⟩

/-- Images repeat where items do, if no two items have the same image. -/
theorem repeatsAt_map_iff {image : Item → Image}
    (injective : Function.Injective image) {index : Nat} :
    RepeatsAt (items.map image) index ↔ RepeatsAt items index := by
  simp only [RepeatsAt, List.getElem?_map, Option.map_eq_some_iff]
  constructor
  · rintro ⟨_, ⟨item, found, rfl⟩, earlier, inFront, other, again, same⟩
    exact ⟨item, found, earlier, inFront, injective same ▸ again⟩
  · rintro ⟨item, found, earlier, inFront, again⟩
    exact ⟨image item, ⟨item, found, rfl⟩, earlier, inFront, item, again, rfl⟩

/-- Distinct images repeat where their items do. -/
theorem isFirstRepeat_map_iff {image : Item → Image}
    (injective : Function.Injective image) {result : Image} :
    IsFirstRepeat (items.map image) result ↔
      ∃ item, IsFirstRepeat items item ∧ image item = result := by
  simp only [IsFirstRepeat, repeatsAt_map_iff injective, List.getElem?_map,
    Option.map_eq_some_iff]
  constructor
  · rintro ⟨index, least, item, found, rfl⟩
    exact ⟨item, ⟨index, least, found⟩, rfl⟩
  · rintro ⟨item, ⟨index, least, found⟩, rfl⟩
    exact ⟨index, least, item, found, rfl⟩

end Repeats

/-! ## Collecting -/

/-- The names in front of the reported one are distinct and not seen before. -/
theorem firstRepeat?_eq_some_iff (seen names : List String) (name : String) :
    firstRepeat? seen names = some name ↔ ∃ before behind,
      names = before ++ name :: behind ∧ (name ∈ seen ∨ name ∈ before) ∧
        firstRepeat? seen before = none := by
  induction names generalizing seen with
  | nil => simp [firstRepeat?]
  | cons first rest inductionHypothesis =>
      by_cases again : first ∈ seen
      · have reported : firstRepeat? seen (first :: rest) = some first := by
          simp [firstRepeat?, again]
        rw [reported]
        constructor
        · rintro ⟨⟩
          exact ⟨[], rest, rfl, Or.inl again, rfl⟩
        · rintro ⟨before, behind, split, _, clean⟩
          cases before with
          | nil => rw [(List.cons.inj split).1]
          | cons head tail =>
              rw [← (List.cons.inj split).1] at clean
              simp [firstRepeat?, again] at clean
      · have passed : firstRepeat? seen (first :: rest) =
            firstRepeat? (first :: seen) rest := by
          simp [firstRepeat?, again]
        rw [passed, inductionHypothesis]
        constructor
        · rintro ⟨before, behind, rfl, member, clean⟩
          refine ⟨first :: before, behind, rfl, ?_, ?_⟩
          · simpa [or_assoc, or_left_comm] using member
          · simpa [firstRepeat?, again] using clean
        · rintro ⟨before, behind, split, member, clean⟩
          cases before with
          | nil =>
              obtain ⟨rfl, rfl⟩ := List.cons.inj split
              exact absurd member (by simpa using again)
          | cons head tail =>
              obtain ⟨rfl, rfl⟩ := List.cons.inj split
              refine ⟨tail, behind, rfl, ?_, ?_⟩
              · simpa [or_assoc, or_left_comm] using member
              · simpa [firstRepeat?, again] using clean

namespace Catalog

/-- Only an empty list is refused for being empty. -/
theorem ofShaders_eq_error_emptyCatalog_iff (shaders : List Shader) :
    ofShaders shaders = .error .emptyCatalog ↔ shaders = [] := by
  unfold ofShaders
  split
  · simp_all
  · split
    · simp_all
    · simp_all

/-- The reported name is the first one that is met again. -/
theorem ofShaders_eq_error_duplicateShader_iff (shaders : List Shader)
    (name : String) :
    ofShaders shaders = .error (.duplicateShader name) ↔
      IsFirstRepeat (shaders.map (·.name)) name := by
  have reported := firstRepeat?_eq_some_iff [] (shaders.map (·.name)) name
  simp only [firstRepeat?_eq_none_iff, List.not_mem_nil, false_or,
    not_false_iff, implies_true, and_true] at reported
  rw [isFirstRepeat_iff, ← reported]
  unfold ofShaders
  split
  · simp_all [firstRepeat?]
  · split
    · simp_all
    · simp_all

/-! ## Finding -/

section Finding

variable (catalog : Catalog)

/-- A name leads to the one shader that has it. -/
theorem get?_eq_some_iff (name : String) (shader : Shader) :
    catalog.get? name = some shader ↔
      shader ∈ catalog.shaders ∧ shader.name = name := by
  constructor
  · intro found
    exact ⟨List.mem_of_find?_eq_some found,
      by simpa using List.find?_some found⟩
  · rintro ⟨member, rfl⟩
    cases found : catalog.get? shader.name with
    | none =>
        have absent := List.find?_eq_none.1 found shader member
        simp at absent
    | some other =>
        have otherMember := List.mem_of_find?_eq_some found
        have same : other.name = shader.name := by
          simpa using List.find?_some found
        rw [List.inj_on_of_nodup_map catalog.names_nodup otherMember member
          same]

/-- A name is not found if no shader has it. -/
theorem get?_eq_none_iff (name : String) :
    catalog.get? name = none ↔ name ∉ catalog.names := by
  simp [get?, names]

/-- The shader at an index. -/
def shaderAt (index : Fin catalog.size) : Shader :=
  catalog.shaders.get index

/-- The shaders at some indices, in the order of the indices. -/
def select (indices : List (Fin catalog.size)) : List Shader :=
  indices.map catalog.shaderAt

theorem shaderAt_mem (index : Fin catalog.size) :
    catalog.shaderAt index ∈ catalog.shaders :=
  List.get_mem _ _

/-- Different indices lead to different names. -/
theorem name_shaderAt_injective :
    Function.Injective fun index => (catalog.shaderAt index).name := by
  intro first second same
  have sameShader : catalog.shaderAt first = catalog.shaderAt second :=
    List.inj_on_of_nodup_map catalog.names_nodup (catalog.shaderAt_mem first)
      (catalog.shaderAt_mem second) same
  exact (catalog.names_nodup.of_map _).injective_get sameShader

variable (indices : List (Fin catalog.size))

/-- A selection repeats a name where it repeats an index, and nowhere else. -/
theorem ofShaders_select_eq_error_duplicateShader_iff (name : String) :
    ofShaders (catalog.select indices) = .error (.duplicateShader name) ↔
      ∃ index, IsFirstRepeat indices index ∧
        (catalog.shaderAt index).name = name := by
  rw [ofShaders_eq_error_duplicateShader_iff, select, List.map_map]
  exact isFirstRepeat_map_iff catalog.name_shaderAt_injective

/-- A selection is a catalog if it has shaders, and none twice. -/
theorem exists_ofShaders_select_eq_ok_iff :
    (∃ selected, ofShaders (catalog.select indices) = .ok selected) ↔
      indices ≠ [] ∧ indices.Nodup := by
  rw [exists_ofShaders_eq_ok_iff, select, List.map_map, Ne,
    List.map_eq_nil_iff]
  exact and_congr_right fun _ =>
    List.nodup_map_iff catalog.name_shaderAt_injective

end Finding

/--
A list of shaders is refused if it is empty, and for the first name that is
met again, if one is; otherwise the catalog has just these shaders.  Each name
of a catalog leads to its one shader, and no other name leads anywhere.  From
the built-in catalog, whose shaders pass all checks, a selection is refused
only if it is empty, or for the first index that is met again.
-/
theorem collection_and_lookup :
    (∀ shaders : List Shader,
      (ofShaders shaders = .error .emptyCatalog ↔ shaders = []) ∧
      ((∃ name, ofShaders shaders = .error (.duplicateShader name)) ↔
        ¬(shaders.map (·.name)).Nodup) ∧
      (∀ name, ofShaders shaders = .error (.duplicateShader name) ↔
        IsFirstRepeat (shaders.map (·.name)) name) ∧
      ((∃ catalog, ofShaders shaders = .ok catalog) ↔
        shaders ≠ [] ∧ (shaders.map (·.name)).Nodup) ∧
      ∀ catalog, ofShaders shaders = .ok catalog ↔
        catalog.shaders = shaders) ∧
    (∀ catalog : Catalog,
      (∀ name shader, catalog.get? name = some shader ↔
        shader ∈ catalog.shaders ∧ shader.name = name) ∧
      (∀ name, catalog.get? name = none ↔ name ∉ catalog.names) ∧
      ∀ index : Fin catalog.size,
        catalog.get? (catalog.shaderAt index).name =
          some (catalog.shaderAt index)) ∧
    ofDrafts (builtinShaders.map (·.toDraft)) = .ok builtin ∧
    ∀ indices : List (Fin builtin.size),
      ((∃ catalog, ofShaders (builtin.select indices) = .ok catalog) ↔
        indices ≠ [] ∧ indices.Nodup) ∧
      (ofShaders (builtin.select indices) = .error .emptyCatalog ↔
        indices = []) ∧
      ∀ name,
        ofShaders (builtin.select indices) = .error (.duplicateShader name) ↔
          ∃ index, IsFirstRepeat indices index ∧
            (builtin.shaderAt index).name = name := by
  refine ⟨fun shaders => ⟨?_, ?_, ?_, ?_, ?_⟩, fun catalog => ⟨?_, ?_, ?_⟩,
    ?_, fun indices => ⟨?_, ?_, ?_⟩⟩
  · exact ofShaders_eq_error_emptyCatalog_iff shaders
  · simp only [ofShaders_eq_error_duplicateShader_iff,
      exists_isFirstRepeat_iff]
  · exact ofShaders_eq_error_duplicateShader_iff shaders
  · exact exists_ofShaders_eq_ok_iff shaders
  · exact ofShaders_eq_ok_iff shaders
  · exact catalog.get?_eq_some_iff
  · exact catalog.get?_eq_none_iff
  · exact fun index => (catalog.get?_eq_some_iff _ _).2
      ⟨catalog.shaderAt_mem index, rfl⟩
  · rw [ofDrafts_map_toDraft, ofShaders_eq_ok_iff]
    rfl
  · exact builtin.exists_ofShaders_select_eq_ok_iff indices
  · rw [ofShaders_eq_error_emptyCatalog_iff, select, List.map_eq_nil_iff]
  · exact builtin.ofShaders_select_eq_error_duplicateShader_iff indices

/-- Of two repeated names, the one that is met again first is reported. -/
example :
    ofShaders (builtin.select ([3, 1, 0, 1, 3] : List (Fin 23))) =
      .error (.duplicateShader "circle_filled") := by
  rfl

end Catalog

end ShaderBindings
