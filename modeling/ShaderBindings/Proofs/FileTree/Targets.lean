import Mathlib.Data.List.Infix
import ShaderBindings.FileTree.Writing

/-!
# Where files can be written

A path is followed name by name, and a file is refused for the first thing
that is wrong on the way.  `FileTree.Admits` says what a tree must have for a
file to be written, without regard to the way; `FileTree.target_eq_ok_iff` is
that nothing else is asked for, and that the file then stands where the names
of the path lead.

Only the directories of a tree matter for this.  A file is never written in
place of a directory, so a written file is in the way of a later one only if
the tree had no directory there before, and then the later one was refused
anyhow: `FileTree.Admits.admits_put_iff`.
-/

namespace ShaderBindings

namespace Path

/-- The names of a list that lead somewhere else. -/
def steps (names : List String) : Path :=
  names.filter (!isIdle ·)

theorem ofText_eq_steps (text : String) :
    ofText text = steps (segments text) :=
  rfl

theorem steps_cons_of_isIdle {name : String} (idle : isIdle name = true)
    (rest : List String) : steps (name :: rest) = steps rest := by
  simp [steps, idle]

theorem steps_cons {name : String} (leads : isIdle name = false)
    (rest : List String) : steps (name :: rest) = name :: steps rest := by
  simp [steps, leads]

/-- The last of some names leads somewhere else. -/
def EndsInStep (names : List String) : Prop :=
  ∃ last, names.getLast? = some last ∧ isIdle last = false

theorem endsInStep_cons_iff (name : String) {rest : List String}
    (more : rest ≠ []) : EndsInStep (name :: rest) ↔ EndsInStep rest := by
  obtain ⟨next, later, rfl⟩ := List.exists_cons_of_ne_nil more
  rw [EndsInStep, EndsInStep, List.getLast?_cons_cons]

theorem EndsInStep.steps_ne_nil {names : List String}
    (ends : EndsInStep names) : steps names ≠ [] := by
  obtain ⟨last, found, leads⟩ := ends
  have member : last ∈ steps names := by
    simp [steps, leads, List.mem_of_getLast? found]
  exact List.ne_nil_of_mem member

end Path

/-- What something is, without what it holds. -/
inductive Entry.Kind where
  | directory
  | file
deriving DecidableEq

/-- The kind of an entry, without what a file holds. -/
def Entry.kind : Entry → Entry.Kind
  | .directory => .directory
  | .file _ => .file

namespace FileTree

variable {tree : FileTree} {directory path : Path} {name : String}
  {rest names : List String}

/-! ## Names that lead to a file -/

/--
Names lead from a directory to a place where a file can be written.  The place
is where all names lead; on the way there, one has to come by directories only.
-/
structure Leads (tree : FileTree) (directory : Path) (names : List String) :
    Prop where
  endsInStep : Path.EndsInStep names
  name_size_le : ∀ name ∈ Path.steps names, name.utf8ByteSize ≤ longestName
  directory_of_prefix : ∀ inner, inner ≠ [] → inner <+: Path.steps names →
    inner ≠ Path.steps names →
      tree.get? (directory ++ inner) = some .directory
  ne_directory : tree.get? (directory ++ Path.steps names) ≠ some .directory

theorem leads_cons_iff_of_isIdle (idle : Path.isIdle name = true) :
    tree.Leads directory (name :: rest) ↔ tree.Leads directory rest := by
  have same := Path.steps_cons_of_isIdle idle rest
  have ends : Path.EndsInStep (name :: rest) ↔ Path.EndsInStep rest := by
    by_cases more : rest = []
    · subst more
      simp [Path.EndsInStep, idle]
    · exact Path.endsInStep_cons_iff name more
  constructor
  · rintro ⟨endsInStep, sizes, onTheWay, free⟩
    rw [same] at sizes onTheWay free
    exact ⟨ends.1 endsInStep, sizes, onTheWay, free⟩
  · rintro ⟨endsInStep, sizes, onTheWay, free⟩
    rw [← same] at sizes onTheWay free
    exact ⟨ends.2 endsInStep, sizes, onTheWay, free⟩

/-- The last name must fit and must not be taken by a directory. -/
theorem leads_singleton_iff (leads : Path.isIdle name = false) :
    tree.Leads directory [name] ↔
      name.utf8ByteSize ≤ longestName ∧
        tree.get? (directory ++ [name]) ≠ some .directory := by
  have only : Path.steps [name] = [name] := Path.steps_cons leads []
  constructor
  · rintro ⟨_, sizes, _, free⟩
    rw [only] at sizes free
    exact ⟨sizes name List.mem_cons_self, free⟩
  · rintro ⟨size, free⟩
    refine ⟨⟨name, rfl, leads⟩, ?_, ?_, ?_⟩
    · rw [only, List.forall_mem_singleton]
      exact size
    · intro inner nonempty start shorter
      rw [only] at start shorter
      rcases List.prefix_cons_iff.1 start with empty | ⟨end', rfl, tail⟩
      · exact absurd empty nonempty
      · rw [List.prefix_nil.1 tail] at shorter
        exact absurd rfl shorter
    · rw [only]
      exact free

/-- Each name in front of the last one must be that of a directory. -/
theorem leads_cons_iff (leads : Path.isIdle name = false)
    (more : rest ≠ []) :
    tree.Leads directory (name :: rest) ↔
      name.utf8ByteSize ≤ longestName ∧
        tree.get? (directory ++ [name]) = some .directory ∧
        tree.Leads (directory ++ [name]) rest := by
  have all := Path.steps_cons leads rest
  have ends := Path.endsInStep_cons_iff name more
  constructor
  · rintro ⟨endsInStep, sizes, onTheWay, free⟩
    rw [all] at sizes onTheWay free
    rw [List.forall_mem_cons] at sizes
    have first : [name] ≠ name :: Path.steps rest := by
      simpa using (ends.1 endsInStep).steps_ne_nil.symm
    refine ⟨sizes.1,
      onTheWay [name] (List.cons_ne_nil _ _) (by simp) first,
      ends.1 endsInStep, sizes.2, ?_, ?_⟩
    · intro inner _ start shorter
      rw [List.append_assoc]
      apply onTheWay (name :: inner) (List.cons_ne_nil _ _)
      · exact List.cons_prefix_cons.2 ⟨rfl, start⟩
      · simpa using shorter
    · rw [List.append_assoc]
      exact free
  · rintro ⟨size, found, endsInStep, sizes, onTheWay, free⟩
    refine ⟨ends.2 endsInStep, ?_, ?_, ?_⟩
    · rw [all, List.forall_mem_cons]
      exact ⟨size, sizes⟩
    · intro inner nonempty start shorter
      rw [all] at start shorter
      rcases List.prefix_cons_iff.1 start with empty | ⟨tail, rfl, further⟩
      · exact absurd empty nonempty
      · by_cases here : tail = []
        · rw [here]
          exact found
        · have inside := onTheWay tail here further (by simpa using shorter)
          rw [List.append_assoc] at inside
          exact inside
    · rw [all]
      rw [List.append_assoc] at free
      exact free

/-- Slashes alone lead to no file. -/
theorem not_leads_of_all_empty (empty : names.all (· == "") = true) :
    ¬tree.Leads directory names := by
  rintro ⟨⟨last, found, leads⟩, _⟩
  have blank := List.all_eq_true.1 empty last (List.mem_of_getLast? found)
  rw [eq_of_beq blank] at leads
  exact absurd leads (by decide)

/-- A last name is followed to a file or to nothing, but to no directory. -/
theorem follow_singleton_eq_ok_iff (leads : Path.isIdle name = false) :
    tree.follow directory [name] = .ok path ↔
      path = directory ++ [name] ∧ tree.Leads directory [name] := by
  rw [leads_singleton_iff leads, follow, lookUp, ← not_lt]
  by_cases long : longestName < name.utf8ByteSize
  · simp [leads, long]
  · rcases found : tree.get? (directory ++ [name]) with
      _ | _ | contents
    · simp [leads, long, eq_comm (a := path)]
    · simp [leads, long]
    · simp [leads, long, eq_comm (a := path)]

/-- Any other name is followed into a directory. -/
theorem follow_cons_eq_ok_iff (leads : Path.isIdle name = false)
    (more : rest ≠ []) :
    tree.follow directory (name :: rest) = .ok path ↔
      name.utf8ByteSize ≤ longestName ∧
        tree.get? (directory ++ [name]) = some .directory ∧
        rest.all (· == "") = false ∧
        tree.follow (directory ++ [name]) rest = .ok path := by
  rw [follow, lookUp, ← not_lt, if_neg (by simp [leads]), if_neg more]
  cases empty : rest.all (· == "") with
  | true => simp
  | false =>
      by_cases long : longestName < name.utf8ByteSize
      · simp [long]
      · rcases found : tree.get? (directory ++ [name]) with
          _ | _ | contents
        · simp [long]
        · simp [long]
        · simp [long]

/-- Names can be followed exactly when they lead to a place for a file. -/
theorem follow_eq_ok_iff :
    tree.follow directory names = .ok path ↔
      path = directory ++ Path.steps names ∧ tree.Leads directory names := by
  induction names generalizing directory with
  | nil =>
      have nothing : ¬tree.Leads directory [] := by
        rintro ⟨⟨_, ⟨⟩, _⟩, _⟩
      simp [follow, nothing]
  | cons name rest inductionHypothesis =>
      by_cases idle : Path.isIdle name = true
      · rw [follow, if_pos idle, inductionHypothesis,
          leads_cons_iff_of_isIdle idle, Path.steps_cons_of_isIdle idle]
      · have leads : Path.isIdle name = false := by simpa using idle
        by_cases more : rest = []
        · subst more
          rw [follow_singleton_eq_ok_iff leads, Path.steps_cons leads]
          rfl
        · rw [follow_cons_eq_ok_iff leads more, inductionHypothesis,
            leads_cons_iff leads more, Path.steps_cons leads,
            List.append_assoc, List.singleton_append]
          cases empty : rest.all (· == "") with
          | true =>
              have nowhere : ¬tree.Leads (directory ++ [name]) rest :=
                not_leads_of_all_empty empty
              simp [nowhere]
          | false => tauto

/-! ## Texts of places for files -/

/-- A file can be written at the text of a path. -/
structure Admits (tree : FileTree) (text : String) : Prop where
  nul_notMem : '\x00' ∉ text.toList
  size_le : text.utf8ByteSize ≤ longestPath
  leads : tree.Leads [] (Path.segments text)

theorem Admits.ofText_ne_nil {text : String} (admits : tree.Admits text) :
    Path.ofText text ≠ [] :=
  admits.leads.endsInStep.steps_ne_nil

theorem Admits.get?_ne_directory {text : String} (admits : tree.Admits text) :
    tree.get? (Path.ofText text) ≠ some .directory :=
  admits.leads.ne_directory

/-- A target is found where its text admits a file. -/
theorem target_eq_ok_iff {text : String} :
    tree.target text = .ok path ↔
      path = Path.ofText text ∧ tree.Admits text := by
  have nowhere : ¬tree.Leads [] (Path.segments "") := by
    rintro ⟨⟨last, found, leads⟩, _⟩
    have blank : Path.segments "" = [""] := by decide
    rw [blank] at found
    cases found
    exact absurd leads (by decide)
  rw [target]
  split
  · rename_i nul
    exact ⟨nofun, fun found => absurd nul found.2.nul_notMem⟩
  · rename_i noNul
    split
    · rename_i empty
      subst empty
      exact ⟨nofun, fun found => absurd found.2.leads nowhere⟩
    · split
      · rename_i long
        exact ⟨nofun, fun found => absurd found.2.size_le (not_le.2 long)⟩
      · rename_i short
        rw [follow_eq_ok_iff, List.nil_append, ← Path.ofText_eq_steps]
        exact ⟨fun ⟨same, leads⟩ => ⟨same, noNul, not_lt.1 short, leads⟩,
          fun ⟨same, admits⟩ => ⟨same, admits.leads⟩⟩

/-- A file is written exactly where the tree admits it. -/
theorem write_eq_ok_iff {text contents : String} {written : FileTree} :
    tree.write text contents = .ok written ↔
      tree.Admits text ∧
        written = tree.put (Path.ofText text) (.file contents) := by
  rw [write]
  cases found : tree.target text with
  | error error =>
      have refused : ¬tree.Admits text := fun admits => by
        rw [target_eq_ok_iff.2 ⟨rfl, admits⟩] at found
        cases found
      simp [Except.map, refused]
  | ok place =>
      obtain ⟨rfl, admits⟩ := target_eq_ok_iff.1 found
      simp [Except.map, admits, eq_comm (a := written)]

/-- A file is refused exactly where it is not admitted. -/
theorem exists_write_eq_error_iff {text contents : String} :
    (∃ error, tree.write text contents = .error error) ↔
      ¬tree.Admits text := by
  constructor
  · rintro ⟨error, refused⟩ admits
    rw [write_eq_ok_iff.2 ⟨admits, rfl⟩] at refused
    cases refused
  · intro refused
    cases written : tree.write text contents with
    | error error => exact ⟨error, rfl⟩
    | ok after => exact absurd (write_eq_ok_iff.1 written).1 refused

/-! ## Trees with the same directories -/

section Directories

variable {other : FileTree}

/-- Only the directories of a tree decide whether it admits a file. -/
theorem Admits.of_directories {text : String} (admits : tree.Admits text)
    (same : ∀ path, tree.get? path = some .directory ↔
      other.get? path = some .directory) : other.Admits text where
  nul_notMem := admits.nul_notMem
  size_le := admits.size_le
  leads :=
    { endsInStep := admits.leads.endsInStep
      name_size_le := admits.leads.name_size_le
      directory_of_prefix := fun inner nonempty start shorter =>
        (same _).1
          (admits.leads.directory_of_prefix inner nonempty start shorter)
      ne_directory := fun found =>
        admits.leads.ne_directory ((same _).2 found) }

/-- A file in the place of none makes no directory and replaces none. -/
theorem Admits.get?_put_eq_directory_iff {text : String}
    (admits : tree.Admits text) (contents : String) (path : Path) :
    (tree.put (Path.ofText text) (.file contents)).get? path =
        some .directory ↔ tree.get? path = some .directory := by
  rw [get?_put _ _ _ _ admits.ofText_ne_nil]
  split
  · rename_i here
    subst here
    simp [admits.get?_ne_directory]
  · rfl

/-- A written file changes nothing of where files can be written. -/
theorem Admits.admits_put_iff {text : String} (admits : tree.Admits text)
    (contents later : String) :
    (tree.put (Path.ofText text) (.file contents)).Admits later ↔
      tree.Admits later := by
  have same := admits.get?_put_eq_directory_iff contents
  exact ⟨fun admitted => admitted.of_directories same,
    fun admitted => admitted.of_directories fun path => (same path).symm⟩

end Directories

/-! ## Trees of the same kinds -/

/-- Two trees have the same paths, and the same kind of thing at each. -/
def SameKinds (tree other : FileTree) : Prop :=
  ∀ path, (tree.get? path).map Entry.kind = (other.get? path).map Entry.kind

namespace SameKinds

variable {other : FileTree}

/-- Trees of the same kinds differ in the contents of files only. -/
theorem get?_cases (same : tree.SameKinds other) (path : Path) :
    tree.get? path = none ∧ other.get? path = none ∨
      tree.get? path = some .directory ∧ other.get? path = some .directory ∨
      ∃ contents otherContents, tree.get? path = some (.file contents) ∧
        other.get? path = some (.file otherContents) := by
  have kinds := same path
  rcases found : tree.get? path with _ | _ | contents
  · rw [found] at kinds
    exact Or.inl ⟨rfl, Option.map_eq_none_iff.1 kinds.symm⟩
  · rw [found] at kinds
    rcases otherFound : other.get? path with _ | _ | otherContents
    · simp [otherFound] at kinds
    · exact Or.inr (Or.inl ⟨rfl, rfl⟩)
    · simp [otherFound, Entry.kind] at kinds
  · rw [found] at kinds
    rcases otherFound : other.get? path with _ | _ | otherContents
    · simp [otherFound] at kinds
    · simp [otherFound, Entry.kind] at kinds
    · exact Or.inr (Or.inr ⟨contents, otherContents, rfl, rfl⟩)

/--
A path leads to the same place in both trees.  A file may be passed on the way,
but only its kind is looked at.
-/
theorem follow_eq (same : tree.SameKinds other) (directory : Path)
    (names : List String) :
    tree.follow directory names = other.follow directory names := by
  induction names generalizing directory with
  | nil => rfl
  | cons name rest inductionHypothesis =>
      simp only [follow, lookUp, inductionHypothesis]
      rcases same.get?_cases (directory ++ [name]) with
        ⟨found, otherFound⟩ | ⟨found, otherFound⟩ |
          ⟨contents, otherContents, found, otherFound⟩
      · rw [found, otherFound]
      · rw [found, otherFound]
      · rw [found, otherFound]
        by_cases long : longestName < name.utf8ByteSize
        · simp only [long, if_true]
        · simp only [long, if_false]

/-- The contents of files have no part in where a file can be written. -/
theorem target_eq (same : tree.SameKinds other) (text : String) :
    tree.target text = other.target text := by
  simp only [target, same.follow_eq]

/-- A file is refused in both trees for the same reason, or in neither. -/
theorem write_cases (same : tree.SameKinds other) (text contents : String) :
    (∃ error, tree.write text contents = .error error ∧
        other.write text contents = .error error) ∨
      (tree.Admits text ∧ other.Admits text) := by
  have targets := same.target_eq text
  cases found : tree.target text with
  | error error =>
      refine Or.inl ⟨error, ?_, ?_⟩
      · rw [write, found]
        rfl
      · rw [write, ← targets, found]
        rfl
  | ok place =>
      have otherFound := targets.symm.trans found
      exact Or.inr ⟨(target_eq_ok_iff.1 found).2,
        (target_eq_ok_iff.1 otherFound).2⟩

/-- The same entry put into both keeps the kinds the same. -/
theorem put (same : tree.SameKinds other) (inside : path ≠ [])
    (entry : Entry) :
    (tree.put path entry).SameKinds (other.put path entry) := by
  intro place
  rw [get?_put _ _ _ _ inside, get?_put _ _ _ _ inside]
  split
  · rfl
  · exact same place

end SameKinds

/-- A tree in which a file holds something else is one of the same kinds. -/
theorem sameKinds_put_file {old : String} (inside : path ≠ [])
    (found : tree.get? path = some (.file old)) (contents : String) :
    tree.SameKinds (tree.put path (.file contents)) := by
  intro place
  rw [get?_put _ _ _ _ inside]
  split
  · rename_i here
    rw [here, found]
    rfl
  · rfl

end FileTree

end ShaderBindings
