import ShaderBindings.Bindings.Files
import ShaderBindings.Catalog.Builtin

/-!
# Sessions

In a session a catalog is put together step by step: a draft grows, becomes a
shader, the shader joins a list, and the list becomes a catalog.  Files are
generated from the catalog with the configuration of the moment.

A step that is refused leaves the session as it was.  Only a draft keeps an
addition that spoils it, since a later look at the draft has to find it there.
-/

namespace ShaderBindings

namespace Session

/-- What a session holds. -/
structure State where
  draft? : Option Draft := none
  shader? : Option Shader := none
  shaders : List Shader := []
  catalog? : Option Catalog := none
  config : Config := {}
deriving DecidableEq

/-- What can be asked of a session. -/
inductive Step where
  /-- Begin a draft. -/
  | start (draft : Draft)
  /-- Add to the draft. -/
  | extend (edit : Draft.Edit)
  /-- Check the draft and take the shader. -/
  | build
  /-- Print the shader. -/
  | render
  /-- Put the shader behind the list. -/
  | push
  /-- Drop the last shader of the list. -/
  | pop
  /-- Put all built-in shaders behind the list. -/
  | pushBuiltin
  /-- Compare two shaders of the list. -/
  | compare (left right : Nat)
  /-- Make a catalog of the list. -/
  | collect
  /-- Look a shader up in the catalog. -/
  | lookUp (name : String)
  | configure (settings : List Setting)
  | resetConfig
  | header
  | source
  | generate
deriving DecidableEq

/-- Something that a step needs and a session need not have. -/
inductive Part where
  | draft
  | shader
  | catalog
  /-- The list is not long enough. -/
  | listed
deriving DecidableEq

/-- What a session says to a step. -/
inductive Answer where
  /-- The draft would become a shader. -/
  | buildable
  | refused (fault : Fault)
  | missing (part : Part)
  | built (shader : Shader)
  | rendered (declaration definition : String)
  | count (shaders : Nat)
  | same (equal : Bool)
  /-- The new catalog, and whether it equals the one before it. -/
  | collected (catalog : Catalog) (same : Bool)
  | found (shader? : Option Shader)
  | guard (text : String)
  | text (text : String)
  | files (files : GeneratedFiles)
deriving DecidableEq

namespace State

/-- Keep a draft and say whether it would become a shader. -/
def keepDraft (state : State) (draft : Draft) : State × Answer :=
  ({ state with draft? := some draft },
    match draft.build with
    | .ok _ => .buildable
    | .error fault => .refused fault)

/-- Let the list of shaders be another one and say how long it is. -/
def keepShaders (state : State) (shaders : List Shader) : State × Answer :=
  ({ state with shaders }, .count shaders.length)

/-- Keep a configuration and say what its include guard is. -/
def keepConfig (state : State) (config : Config) : State × Answer :=
  ({ state with config }, .guard config.includeGuard)

/-- Answer from the catalog; nothing changes. -/
def fromCatalog (state : State) (reply : Catalog → Answer) :
    State × Answer :=
  (state, (state.catalog?.map reply).getD (.missing .catalog))

/-- Take one step. -/
def step (state : State) : Step → State × Answer
  | .start draft => state.keepDraft draft
  | .extend edit =>
      match state.draft? with
      | none => (state, .missing .draft)
      | some draft => state.keepDraft (draft.extend edit)
  | .build =>
      match state.draft? with
      | none => (state, .missing .draft)
      | some draft =>
          match draft.build with
          | .error fault => (state, .refused fault)
          | .ok shader =>
              ({ state with shader? := some shader }, .built shader)
  | .render =>
      match state.shader? with
      | none => (state, .missing .shader)
      | some shader =>
          (state,
            .rendered (shader.declaration state.config)
              (shader.definition state.config))
  | .push =>
      match state.shader? with
      | none => (state, .missing .shader)
      | some shader => state.keepShaders (state.shaders ++ [shader])
  | .pop => state.keepShaders state.shaders.dropLast
  | .pushBuiltin => state.keepShaders (state.shaders ++ builtinShaders)
  | .compare left right =>
      match state.shaders[left]?, state.shaders[right]? with
      | some first, some second => (state, .same (first == second))
      | _, _ => (state, .missing .listed)
  | .collect =>
      match Catalog.ofShaders state.shaders with
      | .error fault => (state, .refused fault)
      | .ok catalog =>
          ({ state with catalog? := some catalog },
            .collected catalog (state.catalog? == some catalog))
  | .lookUp name =>
      state.fromCatalog fun catalog => .found (catalog.get? name)
  | .configure settings => state.keepConfig (state.config.setAll settings)
  | .resetConfig => state.keepConfig {}
  | .header =>
      state.fromCatalog fun catalog => .text (catalog.header state.config)
  | .source =>
      state.fromCatalog fun catalog => .text (catalog.source state.config)
  | .generate =>
      state.fromCatalog fun catalog => .files (catalog.generate state.config)

/-- Take several steps and give the state behind them and all answers. -/
def run (state : State) : List Step → State × List Answer
  | [] => (state, [])
  | first :: rest =>
      let (next, answer) := state.step first
      let (last, answers) := next.run rest
      (last, answer :: answers)

end State

/-- The answers of a new session. -/
def answers (steps : List Step) : List Answer :=
  (State.run {} steps).2

end Session

end ShaderBindings
