import ShaderBindings.Bindings.Output
import ShaderBindings.Proofs.FileTree.Targets

/-!
# What writing the files leaves behind

The header is written before the source file, and a file that is refused ends
this.  So there are three outcomes, and it is known beforehand which one it
will be: `GeneratedFiles.Outcome` tells them apart by what the tree admits, and
says of each what the error, the log and the tree are.  Nothing else is touched:
`GeneratedFiles.writeTo_touches_only_targets`.

`GeneratedFiles.writeTo_repeatable` is about two runs.  A second run on the
tree that the first one has left comes to the same, and what the files of a
tree held before has no part in what comes of a run.
-/

namespace ShaderBindings

/-! ## One file in a directory -/

namespace GeneratedFile

variable (file : GeneratedFile) (directory : String)

/-- The text of the path at which a file is written. -/
def textIn : String :=
  Path.join directory file.name

/-- The place of a file in the tree. -/
def pathIn : Path :=
  Path.ofText (file.textIn directory)

/-- The record of a file that has been written to a directory. -/
def recordIn : LogRecord :=
  .wrote (file.textIn directory) file.contents.utf8ByteSize

/-- The tree when a file has been written. -/
def putIn (tree : FileTree) : FileTree :=
  tree.put (file.pathIn directory) (.file file.contents)

variable {file directory} {tree : FileTree}

theorem write_eq_ok (admits : tree.Admits (file.textIn directory)) :
    tree.write (file.textIn directory) file.contents =
      .ok (file.putIn directory tree) :=
  FileTree.write_eq_ok_iff.2 ⟨admits, rfl⟩

/-- Only the entry of the file changes. -/
theorem get?_putIn (admits : tree.Admits (file.textIn directory))
    (path : Path) :
    (file.putIn directory tree).get? path =
      if path = file.pathIn directory then some (.file file.contents)
      else tree.get? path :=
  FileTree.get?_put _ _ _ _ admits.ofText_ne_nil

/-- The entry of the file is the file. -/
theorem get?_putIn_self (admits : tree.Admits (file.textIn directory)) :
    (file.putIn directory tree).get? (file.pathIn directory) =
      some (.file file.contents) :=
  (get?_putIn admits _).trans (if_pos rfl)

/-- A file is in the way of no other. -/
theorem admits_putIn_iff (admits : tree.Admits (file.textIn directory))
    (text : String) :
    (file.putIn directory tree).Admits text ↔ tree.Admits text :=
  admits.admits_put_iff file.contents text

/-- Directories stay what they are, and none is added. -/
theorem get?_putIn_eq_directory_iff
    (admits : tree.Admits (file.textIn directory)) (path : Path) :
    (file.putIn directory tree).get? path = some .directory ↔
      tree.get? path = some .directory :=
  admits.get?_put_eq_directory_iff file.contents path

/-- To put a file twice is to put it once. -/
@[simp]
theorem putIn_putIn (file : GeneratedFile) (directory : String)
    (tree : FileTree) :
    file.putIn directory (file.putIn directory tree) =
      file.putIn directory tree := by
  simp [putIn]

/-- Two files that are written twice stand as after the first time. -/
theorem putIn_putIn_again {first second : GeneratedFile}
    (inside : first.pathIn directory ≠ [])
    (secondInside : second.pathIn directory ≠ []) :
    second.putIn directory (first.putIn directory
        (second.putIn directory (first.putIn directory tree))) =
      second.putIn directory (first.putIn directory tree) := by
  by_cases same : first.pathIn directory = second.pathIn directory
  · simp [putIn, same]
  · have found :
        (second.putIn directory (first.putIn directory tree)).get?
          (first.pathIn directory) = some (.file first.contents) := by
      simp [putIn, FileTree.get?_put, inside, secondInside, same]
    have kept : first.putIn directory
        (second.putIn directory (first.putIn directory tree)) =
          second.putIn directory (first.putIn directory tree) :=
      FileTree.put_eq_self inside found
    rw [kept, putIn_putIn]

end GeneratedFile

/-! ## Files one after the other -/

section Steps

variable {directory : String} {tree : FileTree} {file : GeneratedFile}

/-- A file that is refused ends the run. -/
theorem writeFiles_cons_of_error {error : FileError}
    (refused : tree.write (file.textIn directory) file.contents =
      .error error) (rest : List GeneratedFile) :
    writeFiles directory tree (file :: rest) =
      { error? := some error, log := [], tree } := by
  rw [GeneratedFile.textIn] at refused
  simp only [writeFiles, refused]

/-- A file that is admitted is recorded, and the others follow. -/
theorem writeFiles_cons_of_admits
    (admits : tree.Admits (file.textIn directory))
    (rest : List GeneratedFile) :
    writeFiles directory tree (file :: rest) =
      { writeFiles directory (file.putIn directory tree) rest with
        log := file.recordIn directory ::
          (writeFiles directory (file.putIn directory tree) rest).log } := by
  have written := file.write_eq_ok admits
  rw [GeneratedFile.textIn] at written
  simp only [writeFiles, written]
  rfl

end Steps

namespace GeneratedFiles

variable {files : GeneratedFiles} {directory : String} {tree : FileTree}

/-- Nothing is written if the header is refused. -/
theorem writeTo_of_headerRefused {error : FileError}
    (refused : tree.write (files.header.textIn directory)
      files.header.contents = .error error) :
    files.writeTo directory tree = { error? := some error, log := [], tree } :=
  writeFiles_cons_of_error refused _

/-- The header has been written when the source file is refused. -/
theorem writeTo_of_sourceRefused {error : FileError}
    (admits : tree.Admits (files.header.textIn directory))
    (refused : (files.header.putIn directory tree).write
      (files.source.textIn directory) files.source.contents = .error error) :
    files.writeTo directory tree =
      { error? := some error
        log := [files.header.recordIn directory]
        tree := files.header.putIn directory tree } := by
  rw [writeTo, toList, writeFiles_cons_of_admits admits,
    writeFiles_cons_of_error refused]

/-- Both files are written if both are admitted. -/
theorem writeTo_of_admits
    (admits : tree.Admits (files.header.textIn directory))
    (sourceAdmits : tree.Admits (files.source.textIn directory)) :
    files.writeTo directory tree =
      { error? := none
        log := [files.header.recordIn directory,
          files.source.recordIn directory]
        tree := files.source.putIn directory
          (files.header.putIn directory tree) } := by
  have behind := (GeneratedFile.admits_putIn_iff admits _).2 sourceAdmits
  rw [writeTo, toList, writeFiles_cons_of_admits admits,
    writeFiles_cons_of_admits behind]
  rfl

/-! ## The three outcomes -/

/-- How writing a header and then a source file can end. -/
inductive Outcome (files : GeneratedFiles) (directory : String)
    (tree : FileTree) (output : Output) : Prop where
  /-- Nothing has happened. -/
  | headerRefused {error : FileError}
      (notAdmitted : ¬tree.Admits (files.header.textIn directory))
      (reason : tree.write (files.header.textIn directory)
        files.header.contents = .error error)
      (error?_eq : output.error? = some error)
      (log_eq : output.log = [])
      (tree_eq : output.tree = tree)
  /-- Only the header has been written. -/
  | sourceRefused {error : FileError}
      (admitted : tree.Admits (files.header.textIn directory))
      (sourceNotAdmitted : ¬tree.Admits (files.source.textIn directory))
      (reason : output.tree.write (files.source.textIn directory)
        files.source.contents = .error error)
      (error?_eq : output.error? = some error)
      (log_eq : output.log =
        [.wrote (Path.join directory files.header.name)
          files.header.contents.utf8ByteSize])
      (get?_eq : ∀ path, output.tree.get? path =
        if path = files.header.pathIn directory then
          some (.file files.header.contents)
        else tree.get? path)
  /-- Both files have been written, the source file last. -/
  | written
      (admitted : tree.Admits (files.header.textIn directory))
      (sourceAdmitted : tree.Admits (files.source.textIn directory))
      (error?_eq : output.error? = none)
      (log_eq : output.log =
        [.wrote (Path.join directory files.header.name)
            files.header.contents.utf8ByteSize,
          .wrote (Path.join directory files.source.name)
            files.source.contents.utf8ByteSize])
      (get?_eq : ∀ path, output.tree.get? path =
        if path = files.source.pathIn directory then
          some (.file files.source.contents)
        else if path = files.header.pathIn directory then
          some (.file files.header.contents)
        else tree.get? path)

/-- Every run has one of the three outcomes. -/
theorem outcome_writeTo (files : GeneratedFiles) (directory : String)
    (tree : FileTree) :
    files.Outcome directory tree (files.writeTo directory tree) := by
  by_cases admits : tree.Admits (files.header.textIn directory)
  · have headerAt := GeneratedFile.get?_putIn admits
    by_cases sourceAdmits : tree.Admits (files.source.textIn directory)
    · have behind := (GeneratedFile.admits_putIn_iff admits _).2 sourceAdmits
      rw [writeTo_of_admits admits sourceAdmits]
      refine .written admits sourceAdmits rfl rfl fun path => ?_
      rw [GeneratedFile.get?_putIn behind, headerAt]
    · obtain ⟨error, refused⟩ := FileTree.exists_write_eq_error_iff.2
        (mt (GeneratedFile.admits_putIn_iff admits _).1 sourceAdmits)
      rw [writeTo_of_sourceRefused admits refused]
      exact .sourceRefused admits sourceAdmits refused rfl rfl headerAt
  · obtain ⟨error, refused⟩ := FileTree.exists_write_eq_error_iff.2 admits
    rw [writeTo_of_headerRefused refused]
    exact .headerRefused admits refused rfl rfl rfl

namespace Outcome

variable {output : Output} (outcome : files.Outcome directory tree output)

include outcome

/-- Only the two files are touched. -/
theorem get?_eq_of_ne {path : Path}
    (apart : path ≠ files.header.pathIn directory)
    (sourceApart : path ≠ files.source.pathIn directory) :
    output.tree.get? path = tree.get? path := by
  cases outcome with
  | headerRefused _ _ _ _ tree_eq => rw [tree_eq]
  | sourceRefused _ _ _ _ _ get?_eq => rw [get?_eq, if_neg apart]
  | written _ _ _ _ get?_eq => rw [get?_eq, if_neg sourceApart, if_neg apart]

/-- What stood at a path before has not gone away. -/
theorem get?_ne_none {path : Path} (found : tree.get? path ≠ none) :
    output.tree.get? path ≠ none := by
  cases outcome with
  | headerRefused _ _ _ _ tree_eq => rwa [tree_eq]
  | sourceRefused _ _ _ _ _ get?_eq =>
      rw [get?_eq]
      split
      · exact Option.some_ne_none _
      · exact found
  | written _ _ _ _ get?_eq =>
      rw [get?_eq]
      split
      · exact Option.some_ne_none _
      · split
        · exact Option.some_ne_none _
        · exact found

theorem get?_eq_directory_iff (path : Path) :
    output.tree.get? path = some .directory ↔
      tree.get? path = some .directory := by
  cases outcome with
  | headerRefused _ _ _ _ tree_eq => rw [tree_eq]
  | sourceRefused admitted _ _ _ _ get?_eq =>
      rw [get?_eq, ← GeneratedFile.get?_putIn admitted]
      exact GeneratedFile.get?_putIn_eq_directory_iff admitted path
  | written admitted sourceAdmitted _ _ get?_eq =>
      have behind :=
        (GeneratedFile.admits_putIn_iff admitted _).2 sourceAdmitted
      rw [get?_eq, ← GeneratedFile.get?_putIn admitted,
        ← GeneratedFile.get?_putIn behind,
        GeneratedFile.get?_putIn_eq_directory_iff behind]
      exact GeneratedFile.get?_putIn_eq_directory_iff admitted path

end Outcome

/--
Writing both files into a directory ends in one of three ways, whatever the
tree is.  All that is not written is as it was: no path is lost, and no
directory is made or replaced.
-/
theorem writeTo_touches_only_targets (files : GeneratedFiles)
    (directory : String) (tree : FileTree) :
    files.Outcome directory tree (files.writeTo directory tree) ∧
      (∀ path, path ∉ files.toList.map (·.pathIn directory) →
        (files.writeTo directory tree).tree.get? path = tree.get? path) ∧
      (∀ path, tree.get? path ≠ none →
        (files.writeTo directory tree).tree.get? path ≠ none) ∧
      ∀ path,
        (files.writeTo directory tree).tree.get? path = some .directory ↔
          tree.get? path = some .directory := by
  have outcome := files.outcome_writeTo directory tree
  refine ⟨outcome, fun path apart => ?_, fun _ => outcome.get?_ne_none,
    outcome.get?_eq_directory_iff⟩
  simp only [toList, List.map_cons, List.map_nil, List.mem_cons,
    List.not_mem_nil, or_false, not_or] at apart
  exact outcome.get?_eq_of_ne apart.1 apart.2

/-- The source file cannot stand below the header. -/
example :
    ({ header := { name := "a", contents := "1" }
       source := { name := "./a//b", contents := "2" } } :
        GeneratedFiles).writeTo "" (.ofList []) =
      { error? := some .notDirectory
        log := [.wrote "a" 1]
        tree := .ofList [("a", .file "1")] } := by
  decide

/-! ## Two runs -/

/-- A second run comes to the same as the first one. -/
theorem writeTo_writeTo (files : GeneratedFiles) (directory : String)
    (tree : FileTree) :
    files.writeTo directory (files.writeTo directory tree).tree =
      files.writeTo directory tree := by
  by_cases admits : tree.Admits (files.header.textIn directory)
  · have again := (GeneratedFile.admits_putIn_iff admits _).2 admits
    by_cases sourceAdmits : tree.Admits (files.source.textIn directory)
    · have behind := (GeneratedFile.admits_putIn_iff admits _).2 sourceAdmits
      have headerAgain := (GeneratedFile.admits_putIn_iff behind _).2 again
      have sourceAgain := (GeneratedFile.admits_putIn_iff behind _).2 behind
      rw [writeTo_of_admits admits sourceAdmits,
        writeTo_of_admits headerAgain sourceAgain,
        GeneratedFile.putIn_putIn_again admits.ofText_ne_nil
          sourceAdmits.ofText_ne_nil]
    · obtain ⟨error, refused⟩ := FileTree.exists_write_eq_error_iff.2
        (mt (GeneratedFile.admits_putIn_iff admits _).1 sourceAdmits)
      have same := files.header.putIn_putIn directory tree
      have refusedAgain := same.symm ▸ refused
      rw [writeTo_of_sourceRefused admits refused,
        writeTo_of_sourceRefused again refusedAgain, same]
  · obtain ⟨error, refused⟩ := FileTree.exists_write_eq_error_iff.2 admits
    rw [writeTo_of_headerRefused refused]
    exact writeTo_of_headerRefused refused

/-! ### Trees that differ in the contents of files -/

/--
Two runs came to the same.  Where a file has been written, it is found in both
trees and holds the same in both; elsewhere the trees may differ in what their
files hold.
-/
structure Agree (files : GeneratedFiles) (directory : String)
    (tree : FileTree) (output other : Output) : Prop where
  error?_eq : output.error? = other.error?
  log_eq : output.log = other.log
  sameKinds : output.tree.SameKinds other.tree
  /-- What the header was written to has a file, possibly the source file. -/
  header (admitted : tree.Admits (files.header.textIn directory)) :
    ∃ contents,
      output.tree.get? (files.header.pathIn directory) =
          some (.file contents) ∧
        other.tree.get? (files.header.pathIn directory) =
          some (.file contents)
  /-- The source file is written last, and so it is as it was generated. -/
  source (admitted : tree.Admits (files.header.textIn directory))
    (sourceAdmitted : tree.Admits (files.source.textIn directory)) :
    output.tree.get? (files.source.pathIn directory) =
        some (.file files.source.contents) ∧
      other.tree.get? (files.source.pathIn directory) =
        some (.file files.source.contents)

/-- What the files of a tree held before has no part in what comes of a run. -/
theorem agree_writeTo {other : FileTree} (same : tree.SameKinds other)
    (files : GeneratedFiles) (directory : String) :
    files.Agree directory tree (files.writeTo directory tree)
      (files.writeTo directory other) := by
  rcases same.write_cases (files.header.textIn directory)
      files.header.contents with
    ⟨error, refused, otherRefused⟩ | ⟨admits, otherAdmits⟩
  · have notAdmitted : ¬tree.Admits (files.header.textIn directory) :=
      FileTree.exists_write_eq_error_iff.1 ⟨error, refused⟩
    rw [writeTo_of_headerRefused refused,
      writeTo_of_headerRefused otherRefused]
    exact
      { error?_eq := rfl
        log_eq := rfl
        sameKinds := same
        header := fun admitted => absurd admitted notAdmitted
        source := fun admitted => absurd admitted notAdmitted }
  · have behind : (files.header.putIn directory tree).SameKinds
        (files.header.putIn directory other) :=
      same.put admits.ofText_ne_nil _
    have headerAt := GeneratedFile.get?_putIn_self admits
    have otherHeaderAt := GeneratedFile.get?_putIn_self otherAdmits
    rcases behind.write_cases (files.source.textIn directory)
        files.source.contents with
      ⟨error, refused, otherRefused⟩ | ⟨sourceAdmits, otherSourceAdmits⟩
    · have notAdmitted : ¬tree.Admits (files.source.textIn directory) :=
        mt (GeneratedFile.admits_putIn_iff admits _).2
          (FileTree.exists_write_eq_error_iff.1 ⟨error, refused⟩)
      rw [writeTo_of_sourceRefused admits refused,
        writeTo_of_sourceRefused otherAdmits otherRefused]
      exact
        { error?_eq := rfl
          log_eq := rfl
          sameKinds := behind
          header := fun _ =>
            ⟨files.header.contents, headerAt, otherHeaderAt⟩
          source := fun _ admitted => absurd admitted notAdmitted }
    · rw [writeTo_of_admits admits
          ((GeneratedFile.admits_putIn_iff admits _).1 sourceAdmits),
        writeTo_of_admits otherAdmits
          ((GeneratedFile.admits_putIn_iff otherAdmits _).1
            otherSourceAdmits)]
      refine
        { error?_eq := rfl
          log_eq := rfl
          sameKinds := behind.put sourceAdmits.ofText_ne_nil _
          header := fun _ => ?_
          source := fun _ _ =>
            ⟨GeneratedFile.get?_putIn_self sourceAdmits,
              GeneratedFile.get?_putIn_self otherSourceAdmits⟩ }
      rw [GeneratedFile.get?_putIn sourceAdmits,
        GeneratedFile.get?_putIn otherSourceAdmits, headerAt, otherHeaderAt]
      split
      · exact ⟨files.source.contents, rfl, rfl⟩
      · exact ⟨files.header.contents, rfl, rfl⟩

/--
Writing the files a second time gives the same result, the same log and the
same tree, also if the source file was refused.  On trees that differ only in
what their files hold, the result and the log are the same, and the written
files hold the same in the end.
-/
theorem writeTo_repeatable (files : GeneratedFiles) (directory : String)
    (tree : FileTree) :
    files.writeTo directory (files.writeTo directory tree).tree =
        files.writeTo directory tree ∧
      ∀ other, tree.SameKinds other →
        files.Agree directory tree (files.writeTo directory tree)
          (files.writeTo directory other) :=
  ⟨files.writeTo_writeTo directory tree, fun _ same =>
    agree_writeTo same files directory⟩

end GeneratedFiles

/-- A directory in which a source file stands already. -/
def FileTree.withSource (contents : String) : FileTree :=
  .ofList [("gen", .directory), ("gen/s.c", .file contents)]

/-- Two files for that directory. -/
def GeneratedFiles.short : GeneratedFiles where
  header := { name := "s.h", contents := "1" }
  source := { name := "s.c", contents := "2" }

/-- What the source file held before is gone, and no one can tell. -/
theorem GeneratedFiles.writeTo_repeatable_over_old_source :
    (FileTree.withSource "").SameKinds (.withSource "old") ∧
      short.Agree "gen" (.withSource "")
        (short.writeTo "gen" (.withSource ""))
        (short.writeTo "gen" (.withSource "old")) := by
  have found : (FileTree.withSource "").get? ["gen", "s.c"] =
      some (.file "") := by
    decide
  have same : (FileTree.withSource "").SameKinds (.withSource "old") :=
    FileTree.sameKinds_put_file (by decide) found "old"
  exact ⟨same, (writeTo_repeatable _ _ _).2 _ same⟩

end ShaderBindings
