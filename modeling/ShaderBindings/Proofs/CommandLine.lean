import Mathlib.Data.List.Infix
import Mathlib.Data.List.TakeWhile
import Mathlib.Order.Bounds.Basic
import ShaderBindings.CommandLine

/-!
# What the command line does

An argument decides unless it is a first mark for the end of the options.  If
no argument decides, the program does to the current directory what writing
the files for the built-in catalog does to it, and it fails exactly if that
fails.  In all other cases it leaves the directory alone, and its answer
depends on the first argument that decides and on nothing behind it: it answers
to an option that asks for help or for the version, and refuses everything
else.
-/

namespace ShaderBindings

/-! ## Options -/

/-- An argument spells an option: its name, or its letter before others. -/
def Spells (argument name : String) (letter : Char) : Prop :=
  argument = "--" ++ name ∨ ['-', letter] <+: argument.toList

namespace Request

/-- A name and a letter ask for the same, and nothing else asks for it. -/
structure IsOption (request : Request) (name : String) (letter : Char) :
    Prop where
  ofName_eq_iff : ∀ other, ofName other = request ↔ other = name
  ofLetter_eq_iff : ∀ other, ofLetter other = request ↔ other = letter
  equals_notMem : '=' ∉ name.toList
  letter_ne : letter ≠ '-'
  unexpected_ne : ∀ argument, unexpected argument ≠ request
  unexpectedValue_ne : ∀ option value, unexpectedValue option value ≠ request

theorem isOption_help : IsOption .help "help" 'h' where
  ofName_eq_iff := by grind [ofName]
  ofLetter_eq_iff := by grind [ofLetter]
  equals_notMem := by decide
  letter_ne := by decide
  unexpected_ne := nofun
  unexpectedValue_ne := nofun

theorem isOption_version : IsOption .version "version" 'V' where
  ofName_eq_iff := by grind [ofName]
  ofLetter_eq_iff := by grind [ofLetter]
  equals_notMem := by decide
  letter_ne := by decide
  unexpected_ne := nofun
  unexpectedValue_ne := nofun

/-- An option with a value is refused: there is none that takes one. -/
theorem ofNameWithValue_eq (name value : String) :
    (∃ argument, ofNameWithValue name value = .unexpected argument) ∨
      ∃ option, ofNameWithValue name value = .unexpectedValue option value := by
  unfold ofNameWithValue
  split
  · exact Or.inl ⟨_, rfl⟩
  · exact Or.inr ⟨_, rfl⟩

namespace IsOption

variable {request : Request} {name : String} {letter : Char}
  (option : IsOption request name letter)

include option

theorem dropWhile_name : name.toList.dropWhile (· != '=') = [] := by
  rw [List.dropWhile_eq_nil_iff]
  intro character member
  rw [bne_iff_ne]
  rintro rfl
  exact option.equals_notMem member

/-- No option for information has a value. -/
theorem ofNameWithValue_ne (other value : String) :
    ofNameWithValue other value ≠ request := by
  rcases ofNameWithValue_eq other value with
    ⟨argument, refused⟩ | ⟨option', refused⟩
  · exact refused ▸ option.unexpected_ne argument
  · exact refused ▸ option.unexpectedValue_ne option' value

/-- An argument asks for what an option asks for exactly if it spells it. -/
theorem ofArgument_eq_iff (argument : String) :
    ofArgument argument = request ↔ Spells argument name letter := by
  have byName : argument = "--" ++ name ↔
      argument.toList = '-' :: '-' :: name.toList := by
    rw [← String.toList_inj, String.toList_append]
    rfl
  rw [Spells, byName]
  fun_cases ofArgument argument with
  | case1 text spelling shown noValue =>
      have whole : text.takeWhile (· != '=') = text := by
        rw [List.takeWhile_eq_self_iff, ← List.dropWhile_eq_nil_iff]
        exact noValue
      simp [shown, whole, option.ofName_eq_iff, spelling, option.letter_ne,
        ← String.toList_inj]
  | case2 text spelling shown mark value valued =>
      have other : text ≠ name.toList := by
        rintro rfl
        rw [option.dropWhile_name] at valued
        cases valued
      simp [option.ofNameWithValue_ne, spelling, other, option.letter_ne]
  | case3 other rest single spelling =>
      have single : other ≠ '-' := single
      simp [option.ofLetter_eq_iff, spelling, single, @eq_comm _ letter]
  | case4 noName noLetter =>
      refine iff_of_false (option.unexpected_ne argument) ?_
      rintro (spelling | ⟨rest, spelling⟩)
      · exact noName _ spelling
      · exact noLetter letter rest spelling.symm

end IsOption

/-- No single argument is a request for files. -/
theorem ofArgument_ne_generate (argument : String) :
    ofArgument argument ≠ .generate := by
  fun_cases ofArgument argument with
  | case1 => grind [ofName]
  | case2 text spelling shown mark value =>
      rcases ofNameWithValue_eq shown (String.ofList value) with
        ⟨argument, refusal⟩ | ⟨option, refusal⟩
      · simp [refusal]
      · simp [refusal]
  | case3 =>
      unfold ofLetter
      split <;> simp
  | case4 => simp

end Request

/-! ## The first argument that decides -/

/-- Nothing but writing the files is asked for. -/
def AsksToWrite (arguments : List String) : Prop :=
  arguments = [] ∨ arguments = ["--"]
deriving Decidable

/--
The argument at the place decides: it is not a mark for the end of the
options, or there was one before.
-/
def Decides (arguments : List String) (place : Nat) : Prop :=
  ∃ argument, arguments[place]? = some argument ∧
    (argument = "--" → "--" ∈ arguments.take place)

/-- The argument at the place is an option that asks for information. -/
def AsksForInformation (arguments : List String) (place : Nat) : Prop :=
  "--" ∉ arguments.take place ∧
    ∃ argument, arguments[place]? = some argument ∧
      (Spells argument "help" 'h' ∨ Spells argument "version" 'V')

namespace Request

/-- An argument that is no mark decides where it stands. -/
theorem isLeast_decides_cons {first : String} (noMark : first ≠ "--")
    (rest : List String) :
    IsLeast {place | Decides (first :: rest) place} 0 :=
  ⟨⟨first, rfl, fun mark => absurd mark noMark⟩,
    fun _ _ => Nat.zero_le _⟩

/-- Behind a mark, the next argument decides, even if it is a mark. -/
theorem isLeast_decides_mark_cons (second : String) (rest : List String) :
    IsLeast {place | Decides ("--" :: second :: rest) place} 1 := by
  refine ⟨⟨second, rfl, fun _ => by simp⟩, ?_⟩
  rintro (_ | place) ⟨argument, found, excused⟩
  · cases found
    cases excused rfl
  · exact Nat.le_add_left 1 place

/--
If there is more than a mark, some argument is the first that decides.  It
alone tells whether information is asked for, and what stands behind it is of
no matter.
-/
theorem exists_decider {arguments : List String}
    (more : ¬AsksToWrite arguments) :
    ∃ place, IsLeast {place | Decides arguments place} place ∧
      (ofArguments arguments = .help ∨ ofArguments arguments = .version ↔
        AsksForInformation arguments place) ∧
      ∀ others, ofArguments (arguments.take (place + 1) ++ others) =
        ofArguments arguments := by
  match arguments with
  | [] => exact absurd (Or.inl rfl) more
  | first :: rest =>
      by_cases mark : first = "--"
      · subst mark
        match rest with
        | [] => exact absurd (Or.inr rfl) more
        | second :: rest =>
            refine ⟨1, isLeast_decides_mark_cons second rest, ?_, fun _ => rfl⟩
            simp [ofArguments, AsksForInformation]
      · refine ⟨0, isLeast_decides_cons mark rest, ?_, fun others => ?_⟩
        · simp [ofArguments, mark, AsksForInformation,
            isOption_help.ofArgument_eq_iff,
            isOption_version.ofArgument_eq_iff]
        · simp [ofArguments, mark]

/-- The program generates exactly when it is asked to write. -/
theorem ofArguments_eq_generate_iff (arguments : List String) :
    ofArguments arguments = .generate ↔ AsksToWrite arguments := by
  unfold AsksToWrite
  fun_cases ofArguments arguments with
  | case1 => simp
  | case2 => simp
  | case3 => simp
  | case4 first rest noMark => simp [ofArgument_ne_generate, noMark]

end Request

namespace CommandLine

open Request

/-! ## Runs -/

/-- Information is no failure, and nothing is said to be wrong. -/
theorem reply_of_information {request : Request}
    (information : request = .help ∨ request = .version) :
    (reply request none).status = 0 ∧ (reply request none).errors = "" := by
  rcases information with rfl | rfl
  · exact ⟨rfl, rfl⟩
  · exact ⟨rfl, rfl⟩

/-- A usage error has a status of its own and no output. -/
theorem reply_of_refused {request : Request} (noWriting : request ≠ .generate)
    (noInformation : ¬(request = .help ∨ request = .version)) :
    (reply request none).status = 2 ∧ (reply request none).output = "" := by
  cases request with
  | generate => exact absurd rfl noWriting
  | help => exact absurd (Or.inl rfl) noInformation
  | version => exact absurd (Or.inr rfl) noInformation
  | unexpected argument => exact ⟨rfl, rfl⟩
  | unexpectedValue option value => exact ⟨rfl, rfl⟩

/-- What is printed on a failure carries the whole wording of the error. -/
theorem message_infix_failureText (error : FileError) :
    error.message.toList <:+: (failureText error.text).toList := by
  have cause : "Caused by:\n    0: io error: " =
      "Caused by:\n    0: " ++ "io error: " := by decide
  have parts : failureText error.text =
      "Error: failed to write into " ++ currentDirectory ++ "\n\n" ++
        "Caused by:\n    0: " ++ error.message ++
          ("\n    1: " ++ error.text ++ "\n") := by
    unfold failureText FileError.message
    rw [cause]
    simp only [toString, String.append_assoc]
  rw [parts, String.toList_append, String.toList_append]
  exact List.infix_append _ _ _

/--
A reply and what is left of a tree are those of a program that has written
files: it fails exactly if that has failed, and then it tells why.
-/
structure Writes (result : Reply × FileTree) (written : Output) : Prop where
  tree_eq : result.2 = written.tree
  succeeds_iff :
    (result.1.status = 0 ∧ result.1.output = "" ∧ result.1.errors = "") ↔
      written.error? = none
  fails : ∀ error, written.error? = some error →
    result.1.status = 1 ∧ result.1.output = "" ∧
      error.message.toList <:+: result.1.errors.toList

/--
The argument at the place settles the whole run, which leaves the tree alone:
what stands behind the argument is of no matter.
-/
structure SettledAt (arguments : List String) (tree : FileTree) (place : Nat) :
    Prop where
  tree_eq : (run arguments tree).2 = tree
  answers_iff :
    ((run arguments tree).1.status = 0 ∧ (run arguments tree).1.errors = "") ↔
      AsksForInformation arguments place
  refuses : ¬AsksForInformation arguments place →
    (run arguments tree).1.status = 2 ∧ (run arguments tree).1.output = ""
  ignores_rest : ∀ others,
    run (arguments.take (place + 1) ++ others) tree = run arguments tree

variable {arguments : List String}

/-- When it is asked to write, the program writes the built-in files. -/
theorem run_of_asksToWrite (asked : AsksToWrite arguments) (tree : FileTree) :
    Writes (run arguments tree)
      ((Catalog.builtin.generate {}).writeTo "." tree) := by
  have result : run arguments tree =
      (reply .generate
          ((files.writeTo currentDirectory tree).error?.map FileError.text),
        (files.writeTo currentDirectory tree).tree) := by
    rw [run, (ofArguments_eq_generate_iff arguments).mpr asked, if_pos rfl]
  rw [result]
  change Writes _ (files.writeTo currentDirectory tree)
  generalize files.writeTo currentDirectory tree = written
  cases failure : written.error? with
  | none =>
      exact ⟨rfl, by simp [reply, failure], by simp [failure]⟩
  | some error =>
      refine ⟨rfl, by simp [reply, failure], ?_⟩
      rintro other failure'
      obtain rfl : error = other :=
        Option.some.inj (failure.symm.trans failure')
      exact ⟨rfl, rfl, message_infix_failureText error⟩

/-- Otherwise the tree is left as it is. -/
theorem run_of_not_asksToWrite (more : ¬AsksToWrite arguments)
    (tree : FileTree) :
    run arguments tree = (reply (ofArguments arguments) none, tree) := by
  rw [run, if_neg (mt (ofArguments_eq_generate_iff arguments).mp more)]

/-- Otherwise the first argument that decides settles the run. -/
theorem exists_settledAt (more : ¬AsksToWrite arguments) (tree : FileTree) :
    ∃ place, IsLeast {place | Decides arguments place} place ∧
      SettledAt arguments tree place := by
  obtain ⟨place, least, information, same⟩ := exists_decider more
  have noWriting : ofArguments arguments ≠ .generate :=
    mt (ofArguments_eq_generate_iff arguments).mp more
  refine ⟨place, least, ?_⟩
  constructor
  case tree_eq => rw [run_of_not_asksToWrite more]
  case answers_iff =>
    rw [run_of_not_asksToWrite more, ← information]
    refine ⟨fun answered => ?_, reply_of_information⟩
    by_contra noInformation
    have refused := (reply_of_refused noWriting noInformation).1
    rw [answered.1] at refused
    cases refused
  case refuses =>
    rw [run_of_not_asksToWrite more, ← information]
    exact reply_of_refused noWriting
  case ignores_rest =>
    intro others
    unfold run
    rw [same others]

/-- Without a request to write, no run fails in writing. -/
theorem status_ne_one (more : ¬AsksToWrite arguments) (tree : FileTree) :
    (run arguments tree).1.status ≠ 1 := by
  obtain ⟨place, -, settled⟩ := exists_settledAt more tree
  by_cases information : AsksForInformation arguments place
  · rw [(settled.answers_iff.mpr information).1]
    decide
  · rw [(settled.refuses information).1]
    decide

/--
A program that is asked for nothing but writing does what the library does,
and it is the only one that touches the tree or fails; every other one is
settled by the first argument that decides.
-/
theorem writes_only_when_asked (arguments : List String) (tree : FileTree) :
    (AsksToWrite arguments →
      Writes (run arguments tree)
        ((Catalog.builtin.generate {}).writeTo "." tree)) ∧
    (¬AsksToWrite arguments →
      ∃ place, IsLeast {place | Decides arguments place} place ∧
        SettledAt arguments tree place) ∧
    ((run arguments tree).1.status = 1 ↔
      AsksToWrite arguments ∧
        ((Catalog.builtin.generate {}).writeTo "." tree).error? ≠ none) := by
  refine ⟨fun asked => run_of_asksToWrite asked tree,
    fun more => exists_settledAt more tree, ?_⟩
  by_cases asked : AsksToWrite arguments
  · have writes := run_of_asksToWrite asked tree
    simp only [asked, true_and]
    constructor
    · intro failed noError
      rw [← writes.succeeds_iff, failed] at noError
      cases noError.1
    · intro someError
      obtain ⟨error, found⟩ := Option.ne_none_iff_exists'.mp someError
      exact (writes.fails error found).1
  · exact iff_of_false (status_ne_one asked tree) fun both => asked both.1

/-- A directory that stands where the header would be written. -/
def obstructed : FileTree where
  entries := [(["shaders.gen.h"], .directory)]

/-- A mark alone asks to write; behind a letter for help it does not. -/
theorem writes_only_when_asked_obstructed :
    (AsksToWrite ["--"] ∧
      Writes (run ["--"] obstructed)
        ((Catalog.builtin.generate {}).writeTo "." obstructed) ∧
      (run ["--"] obstructed).1.status = 1) ∧
    ¬AsksToWrite ["-hx", "--"] ∧
      ∃ place, IsLeast {place | Decides ["-hx", "--"] place} place ∧
        SettledAt ["-hx", "--"] obstructed place := by
  have mark : AsksToWrite ["--"] := Or.inr rfl
  have cluster : ¬AsksToWrite ["-hx", "--"] := by decide
  have fails :
      ((Catalog.builtin.generate {}).writeTo "." obstructed).error? =
        some .isDirectory := rfl
  have ofMark := writes_only_when_asked ["--"] obstructed
  have ofCluster := writes_only_when_asked ["-hx", "--"] obstructed
  exact ⟨⟨mark, ofMark.1 mark, ofMark.2.2.mpr ⟨mark, by simp [fails]⟩⟩,
    cluster, ofCluster.2.1 cluster⟩

end CommandLine

end ShaderBindings
