import Mathlib.Logic.Function.Basic
import ShaderBindings.Proofs.Code.Statements

/-!
# Running statements

A store gives a handle for each cell, and a cell is a place as it is spelled in
the code.  The functions that the code calls are arbitrary functions of their
arguments; an argument is a handle out of the store, the name of a constant, or
the text of a literal.

A machine runs one line after the other.  It keeps, for each block around the
next line, whether the test in front of the block was true, and runs a line
only if all of them were.  Calls whose result is dropped are written down.

Assignments that fill different cells and read only what earlier ones have
filled all hold in the end, whatever the store was in the beginning:
`assignAll_holds`.
-/

namespace ShaderBindings

/-- What a function is called with. -/
inductive Value (Handle : Type) where
  | handle (handle : Handle)
  | constant (name : String)
  | text (text : String)

/-- The functions that the code calls, and what it clears memory to. -/
structure Layer (Handle : Type) where
  call : String → List (Value Handle) → Handle
  test : String → List (Value Handle) → Bool
  zero : Handle

/-- The handle in each cell. -/
abbrev Store (Handle : Type) := String → Handle

/-- A name alone is that of a constant; members of a variable are cells. -/
def Argument.value {Handle : Type} (store : Store Handle) :
    Argument → Value Handle
  | .place [name] => .constant name
  | .place path => .handle (store (Place.text path))
  | .literal text => .text text

/-- The cell that is read for an argument; a bare name stands for no cell. -/
def Argument.cell? : Argument → Option String
  | .place [_] => none
  | .place path => some (Place.text path)
  | .literal _ => none

/-- The values that a call is made with. -/
def Call.values {Handle : Type} (store : Store Handle) (call : Call) :
    List (Value Handle) :=
  call.arguments.map (Argument.value store)

/-- Is the cell a variable or inside of it? -/
def isWithin (name cell : String) : Bool :=
  cell == name || (name ++ ".").toList.isPrefixOf cell.toList

/-- A store in which all cells of a variable are zero. -/
def Store.clear {Handle : Type} (store : Store Handle) (zero : Handle)
    (name : String) : Store Handle :=
  fun cell => if isWithin name cell then zero else store cell

/-- A run that is under way. -/
structure Machine (Handle : Type) where
  store : Store Handle
  /-- The calls whose result was dropped, the first one first. -/
  performed : List (String × List (Value Handle)) := []
  /-- The tests in front of the open blocks, the innermost first. -/
  tests : List Bool := []

section Machine

variable {Handle : Type} (layer : Layer Handle)

namespace Machine

/-- Whether all conditions around the next line hold. -/
def isActive (machine : Machine Handle) : Bool :=
  machine.tests.all id

/-- Run a line; there is no result if it is not a statement. -/
def step (machine : Machine Handle) : Line → Option (Machine Handle)
  | .blank => some machine
  | .openIf condition =>
      some { machine with
        tests :=
          layer.test condition.function (condition.values machine.store) ::
            machine.tests }
  | .closeBlock =>
      match machine.tests with
      | [] => none
      | _ :: outer => some { machine with tests := outer }
  | .assign target value =>
      if machine.isActive then
        some { machine with
          store := Function.update machine.store (Place.text target)
            (layer.call value.function (value.values machine.store)) }
      else
        some machine
  | .perform call =>
      if machine.isActive then
        some { machine with
          performed := machine.performed ++
            [(call.function, call.values machine.store)] }
      else
        some machine
  | .clear name =>
      if machine.isActive then
        some { machine with store := machine.store.clear layer.zero name }
      else
        some machine
  | _ => none

/-- Run one line after the other. -/
def run (machine : Machine Handle) (lines : List Line) :
    Option (Machine Handle) :=
  lines.foldlM (step layer) machine

end Machine

/-- Run a function in the text of a file, up to its end. -/
def runFunction (text name : String) (store : Store Handle) :
    Option (Machine Handle) := do
  let functions ← readFunctions (cutLines text.toList)
  let function ← functions.find? (·.name == name)
  let machine ← Machine.run layer { store } function.body
  if machine.tests.isEmpty then some machine else none

/-! ## Clearing -/

/-- The members of a variable belong to it. -/
theorem isWithin_text (name : String) (path : List String) :
    isWithin name (Place.text (name :: path)) = true := by
  rcases Place.toList_text_cons name path with
    ⟨tail, spelling, nothing | ⟨rest, dot⟩⟩
  · rw [nothing, List.append_nil] at spelling
    rw [String.toList_injective spelling]
    simp [isWithin]
  · have start :
        (name ++ ".").toList <+: (Place.text (name :: path)).toList := by
      refine ⟨rest, ?_⟩
      rw [spelling, dot, String.toList_append, List.append_assoc]
      rfl
    rw [isWithin, List.isPrefixOf_iff_prefix.2 start, Bool.or_true]

/-- Members of a variable are cleared with it. -/
theorem Store.clear_text (store : Store Handle) (zero : Handle)
    (name : String) (path : List String) :
    store.clear zero name (Place.text (name :: path)) = zero :=
  if_pos (isWithin_text name path)

theorem Store.clear_of_not_isWithin (store : Store Handle) (zero : Handle)
    {name cell : String} (outside : isWithin name cell = false) :
    store.clear zero name cell = store cell := by
  rw [clear, outside]
  rfl

/-! ## Assignments -/

/-- A call and the place for its result. -/
structure Assignment where
  target : Place
  value : Call

/-- The assignments among lines, in order. -/
def assignments (lines : List Line) : List Assignment :=
  lines.filterMap fun
    | .assign target value => some { target, value }
    | _ => none

namespace Assignment

/-- The cell that is assigned. -/
def cell (assignment : Assignment) : String :=
  Place.text assignment.target

/-- The cells that are read for the arguments. -/
def reads (assignment : Assignment) : List String :=
  assignment.value.arguments.filterMap Argument.cell?

/-- What is assigned, given what the cells hold. -/
def result (assignment : Assignment) (store : Store Handle) : Handle :=
  layer.call assignment.value.function (assignment.value.values store)

/-- The cell holds what the assignment would store there now. -/
def Holds (assignment : Assignment) (store : Store Handle) : Prop :=
  store assignment.cell = assignment.result layer store

end Assignment

/-- The store after assignments, made one after the other. -/
def assignAll (store : Store Handle) (list : List Assignment) :
    Store Handle :=
  list.foldl
    (fun store assignment =>
      Function.update store assignment.cell (assignment.result layer store))
    store

/-- Assignments read only the given cells and those filled before them. -/
def ReadsEarlier (filled : List String) : List Assignment → Prop
  | [] => True
  | assignment :: later =>
      (∀ cell ∈ assignment.reads, cell ∈ filled) ∧
        ReadsEarlier (filled ++ [assignment.cell]) later

variable {layer}

theorem mem_assignments_iff {lines : List Line} {assignment : Assignment} :
    assignment ∈ assignments lines ↔
      .assign assignment.target assignment.value ∈ lines := by
  rw [assignments, List.mem_filterMap]
  constructor
  · rintro ⟨line, member, found⟩
    cases line with
    | assign target value =>
        cases found
        exact member
    | _ => cases found
  · intro member
    exact ⟨_, member, rfl⟩

theorem assignments_append (first second : List Line) :
    assignments (first ++ second) = assignments first ++ assignments second :=
  List.filterMap_append

theorem assignAll_append (store : Store Handle)
    (first second : List Assignment) :
    assignAll layer store (first ++ second) =
      assignAll layer (assignAll layer store first) second :=
  List.foldl_append

/-- An argument depends on the cell that it reads, and on no other. -/
theorem Argument.value_congr {argument : Argument}
    {store other : Store Handle}
    (agree : ∀ cell, argument.cell? = some cell → store cell = other cell) :
    argument.value store = argument.value other := by
  cases argument with
  | literal text => rfl
  | place path =>
      match path with
      | [] => exact congrArg Value.handle (agree _ rfl)
      | [name] => rfl
      | name :: next :: later => exact congrArg Value.handle (agree _ rfl)

/-- Only the cells that are read have a part in what is stored. -/
theorem Assignment.result_congr {assignment : Assignment}
    {store other : Store Handle}
    (agree : ∀ cell ∈ assignment.reads, store cell = other cell) :
    assignment.result layer store = assignment.result layer other := by
  have values : assignment.value.values store =
      assignment.value.values other := by
    apply List.map_congr_left
    intro argument member
    apply Argument.value_congr
    intro cell found
    exact agree cell (List.mem_filterMap.2 ⟨argument, member, found⟩)
  rw [result, result, values]

/-- Other cells than the filled ones keep what they hold. -/
theorem assignAll_of_notMem {list : List Assignment} {cell : String}
    (untouched : cell ∉ list.map Assignment.cell) (store : Store Handle) :
    assignAll layer store list cell = store cell := by
  induction list generalizing store with
  | nil => rfl
  | cons assignment later inductionHypothesis =>
      rw [List.map_cons, List.mem_cons, not_or] at untouched
      have rest := inductionHypothesis untouched.2
        (Function.update store assignment.cell
          (assignment.result layer store))
      rw [Function.update_of_ne untouched.1] at rest
      exact rest

namespace ReadsEarlier

theorem mono {filled more : List String} {list : List Assignment}
    (readsEarlier : ReadsEarlier filled list)
    (subset : ∀ cell ∈ filled, cell ∈ more) : ReadsEarlier more list := by
  induction list generalizing filled more with
  | nil => exact trivial
  | cons assignment later inductionHypothesis =>
      refine ⟨fun cell member =>
        subset cell (readsEarlier.1 cell member), ?_⟩
      apply inductionHypothesis readsEarlier.2
      intro cell member
      rcases List.mem_append.1 member with old | new
      · exact List.mem_append_left _ (subset cell old)
      · exact List.mem_append_right _ new

/-- Assignments that read nothing of one another can follow each other. -/
theorem append {filled : List String} {first second : List Assignment}
    (firstReads : ReadsEarlier filled first)
    (secondReads : ReadsEarlier filled second) :
    ReadsEarlier filled (first ++ second) := by
  induction first generalizing filled with
  | nil => exact secondReads
  | cons assignment later inductionHypothesis =>
      refine ⟨firstReads.1, inductionHypothesis firstReads.2 ?_⟩
      exact secondReads.mono fun _ member => List.mem_append_left _ member

/-- Assignments that read filled cells only are in order. -/
theorem of_forall {filled : List String} {list : List Assignment}
    (reads : ∀ assignment ∈ list, ∀ cell ∈ assignment.reads,
      cell ∈ filled) : ReadsEarlier filled list := by
  induction list generalizing filled with
  | nil => exact trivial
  | cons assignment later inductionHypothesis =>
      rw [List.forall_mem_cons] at reads
      refine ⟨reads.1, inductionHypothesis ?_⟩
      intro other member cell inside
      exact List.mem_append_left _ (reads.2 other member cell inside)

theorem flatMap {Item : Type} {filled : List String} {items : List Item}
    {list : Item → List Assignment}
    (reads : ∀ item ∈ items, ReadsEarlier filled (list item)) :
    ReadsEarlier filled (items.flatMap list) := by
  induction items with
  | nil => exact trivial
  | cons item later inductionHypothesis =>
      rw [List.forall_mem_cons] at reads
      rw [List.flatMap_cons]
      exact reads.1.append (inductionHypothesis reads.2)

end ReadsEarlier

/-- In the end each cell holds what its assignment says. -/
theorem assignAll_holds {filled : List String} {list : List Assignment}
    (nodup : (filled ++ list.map Assignment.cell).Nodup)
    (reads : ReadsEarlier filled list) (store : Store Handle) :
    ∀ assignment ∈ list,
      assignment.Holds layer (assignAll layer store list) := by
  induction list generalizing filled store with
  | nil => simp
  | cons assignment later inductionHypothesis =>
      rw [List.forall_mem_cons]
      constructor
      · have apart := List.nodup_append.1 nodup
        have once := (List.nodup_cons.1 apart.2.1).1
        have unread : assignment.result layer
            (assignAll layer store (assignment :: later)) =
              assignment.result layer store := by
          apply Assignment.result_congr
          intro cell member
          apply assignAll_of_notMem
          intro again
          exact apart.2.2 cell (reads.1 cell member) cell again rfl
        have kept : assignAll layer store (assignment :: later)
            assignment.cell = assignment.result layer store := by
          rw [assignAll, List.foldl_cons, ← assignAll,
            assignAll_of_notMem once, Function.update_self]
        exact kept.trans unread.symm
      · apply inductionHypothesis _ reads.2
        simpa using nodup

/-! ## Running assignments -/

/-- The line is an assignment. -/
def Line.IsAssignment (line : Line) : Prop :=
  ∃ target value, line = .assign target value

namespace Machine

/-- Lines are run behind the lines in front of them. -/
theorem run_append (machine : Machine Handle) (first second : List Line) :
    machine.run layer (first ++ second) =
      (machine.run layer first).bind (run layer · second) :=
  List.foldlM_append

/-- Where the conditions hold, all assignments are made. -/
theorem run_of_isActive {machine : Machine Handle}
    (active : machine.isActive = true) {lines : List Line}
    (assign : ∀ line ∈ lines, line.IsAssignment) :
    machine.run layer lines =
      some { machine with
        store := assignAll layer machine.store (assignments lines) } := by
  induction lines generalizing machine with
  | nil => rfl
  | cons line rest inductionHypothesis =>
      rw [List.forall_mem_cons] at assign
      rcases assign with ⟨⟨target, value, rfl⟩, restAssign⟩
      rw [run, List.foldlM_cons, step, if_pos active]
      exact inductionHypothesis active restAssign

/-- Where a condition fails, no assignment is made. -/
theorem run_of_not_isActive {machine : Machine Handle}
    (inactive : machine.isActive = false) {lines : List Line}
    (assign : ∀ line ∈ lines, line.IsAssignment) :
    machine.run layer lines = some machine := by
  induction lines with
  | nil => rfl
  | cons line rest inductionHypothesis =>
      rw [List.forall_mem_cons] at assign
      rcases assign with ⟨⟨target, value, rfl⟩, restAssign⟩
      rw [run, List.foldlM_cons, step, inactive]
      exact inductionHypothesis restAssign

end Machine

end Machine

end ShaderBindings
