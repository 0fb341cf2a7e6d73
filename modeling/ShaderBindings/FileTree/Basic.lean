import ShaderBindings.FileTree.Path

/-!
# File trees

A file tree is a directory with everything in it.  What it holds is listed
under the path that leads there from the directory, one name per step.  The
empty path leads to the directory itself.  `FileTree.get?` is the view of a
tree through which its operations are described.
-/

namespace ShaderBindings

/-- Something that a path can lead to. -/
inductive Entry where
  | directory
  | file (contents : String)
deriving DecidableEq

/-- What a file holds; nothing for a directory. -/
def Entry.contents? : Entry → Option String
  | .directory => none
  | .file contents => some contents

/-- A directory and everything in it. -/
structure FileTree where
  entries : List (Path × Entry) := []
deriving DecidableEq

namespace FileTree

/-- The entry that is listed for a path. -/
def entryAt? (path : Path) : List (Path × Entry) → Option Entry
  | [] => none
  | (other, entry) :: rest =>
      if path = other then some entry else entryAt? path rest

/-- What stands at a path. -/
def get? (tree : FileTree) (path : Path) : Option Entry :=
  if path = [] then some .directory else entryAt? path tree.entries

/-- Replace the entry of a path, or add it behind the others. -/
def putEntry (path : Path) (entry : Entry) :
    List (Path × Entry) → List (Path × Entry)
  | [] => [(path, entry)]
  | (other, old) :: rest =>
      if path = other then (path, entry) :: rest
      else (other, old) :: putEntry path entry rest

/-- Let a path lead to an entry. -/
def put (tree : FileTree) (path : Path) (entry : Entry) : FileTree where
  entries := putEntry path entry tree.entries

/-- Make directories one inside the other, the first one in `parent`. -/
def putDirectories (tree : FileTree) (parent : Path) :
    List String → FileTree
  | [] => tree
  | name :: rest =>
      (tree.put (parent ++ [name]) .directory).putDirectories
        (parent ++ [name]) rest

/-- Make what an entry of a listing says; a directory with those it is in. -/
def putListed (tree : FileTree) (listed : String × Entry) : FileTree :=
  let path := Path.ofText listed.1
  match listed.2 with
  | .directory => tree.putDirectories [] path
  | .file contents => tree.put path (.file contents)

/-- The tree of a listing, made from the first entry to the last. -/
def ofList (listing : List (String × Entry)) : FileTree :=
  listing.foldl putListed {}

/-- All paths and what they lead to, in the order of the texts of the paths. -/
def toList (tree : FileTree) : List (String × Entry) :=
  (tree.entries.map fun (path, entry) => (Path.text path, entry)).mergeSort
    fun left right => !decide (right.1 < left.1)

theorem entryAt?_putEntry (path other : Path) (entry : Entry)
    (entries : List (Path × Entry)) :
    entryAt? other (putEntry path entry entries) =
      if other = path then some entry else entryAt? other entries := by
  induction entries with
  | nil => simp [putEntry, entryAt?]
  | cons head rest inductionHypothesis =>
      obtain ⟨headPath, headEntry⟩ := head
      simp only [putEntry]
      split
      · subst_vars
        simp only [entryAt?]
        split <;> rfl
      · rename_i apart
        simp only [entryAt?, inductionHypothesis]
        split
        · subst_vars
          simp [Ne.symm apart]
        · rfl

/-- Only the path that an entry is put at leads to something new. -/
theorem get?_put (tree : FileTree) (path other : Path) (entry : Entry)
    (inside : path ≠ []) :
    (tree.put path entry).get? other =
      if other = path then some entry else tree.get? other := by
  unfold get? put
  rw [entryAt?_putEntry]
  by_cases root : other = []
  · subst root
    simp [inside.symm]
  · simp [root]

theorem putEntry_putEntry (path : Path) (entry later : Entry)
    (entries : List (Path × Entry)) :
    putEntry path later (putEntry path entry entries) =
      putEntry path later entries := by
  induction entries with
  | nil => simp [putEntry]
  | cons head rest inductionHypothesis =>
      obtain ⟨headPath, headEntry⟩ := head
      by_cases same : path = headPath
      · simp [putEntry, same]
      · simp [putEntry, same, inductionHypothesis]

/-- What was put at a path is lost when something else is put there. -/
@[simp]
theorem put_put (tree : FileTree) (path : Path) (entry later : Entry) :
    (tree.put path entry).put path later = tree.put path later := by
  simp [put, putEntry_putEntry]

theorem putEntry_eq_self {path : Path} {entry : Entry}
    {entries : List (Path × Entry)}
    (found : entryAt? path entries = some entry) :
    putEntry path entry entries = entries := by
  induction entries with
  | nil => cases found
  | cons head rest inductionHypothesis =>
      obtain ⟨headPath, headEntry⟩ := head
      by_cases same : path = headPath
      · simp_all [putEntry, entryAt?]
      · rw [entryAt?, if_neg same] at found
        simp [putEntry, same, inductionHypothesis found]

/-- To put what is there already changes nothing. -/
theorem put_eq_self {tree : FileTree} {path : Path} {entry : Entry}
    (inside : path ≠ []) (found : tree.get? path = some entry) :
    tree.put path entry = tree := by
  rw [get?, if_neg inside] at found
  rw [put, putEntry_eq_self found]

end FileTree

end ShaderBindings
