/-
The DSPy runner: which program serves an agent, in which saved version, and what
is read from its prediction.
-/
import Voly.Dspy.Store
import Voly.Python.JsonDoc

namespace Voly.Dspy

open Python

inductive DSPyMode where
  | off | shadow | active
deriving DecidableEq

def DSPyMode.name : DSPyMode → String
  | .off => "off"
  | .shadow => "shadow"
  | .active => "active"

structure DSPyConfig where
  enabled : Bool := false
  mode : DSPyMode := .shadow
  agents : List String := []
  model : String := ""
  provider : String := ""
  activeTag : String := "production"
  shadowTag : String := "candidate"
  programOverrides : Dict String := []

structure ModelSettings where
  provider : String := "anthropic"
  model : String := "claude-sonnet-4-5-20250929"
  maxTokens : Nat := 8192
  temperature : Rat := 0

structure InferenceConfig where
  dspy : DSPyConfig := {}
  defaultModel : String := ""
  models : Dict ModelSettings := []
  builtinModels : Dict ModelSettings := []

def InferenceConfig.getModelConfig (config : InferenceConfig)
    (name : String) : ModelSettings :=
  let name := orElse name config.defaultModel
  match config.models.get? name, config.builtinModels.get? name with
  | some model, _ => model
  | none, some model => model
  | none, none => { provider := "anthropic", model := name }

/-- What inference reads of `RouteDecision`. -/
structure RouteDecision where
  agent : String
  model : String
  provider : String

structure PythonValues (V : Type) where
  truthy : V → Except String Bool
  str : V → Except String String
  items : V → Except String (List V)

/-- A prediction: its attributes that are not `None`, and itself. -/
structure Prediction (V : Type) where
  attr : String → Option V
  value : V

section Output

variable {V : Type} (py : PythonValues V)

/-- The attributes that `_extract_output` collects, in this order. -/
def outputFields : List String :=
  ["summary", "overview", "diagnosis", "root_cause", "content", "title",
    "fix_description", "risks", "bugs", "security_issues", "migration_plan",
    "tools", "suggested_patch", "patch", "architecture", "proposed_design",
    "usage", "limitations", "agent", "complexity", "confidence", "reason",
    "test_suggestion", "options_json"]

def structuredOf (prediction : Prediction V) : Dict V :=
  outputFields.filterMap fun name =>
    (prediction.attr name).map fun value => (name, value)

/-- `key.replace("_", " ").title()` of a lower-case name. -/
def fieldTitle (name : String) : String :=
  String.ofList (go true name.toList)
where
  go : Bool → List Char → List Char
    | _, [] => []
    | first, c :: rest =>
        if c = '_' then ' ' :: go true rest
        else (if first then c.toUpper else c) :: go false rest

/-- `key in structured and structured[key]`. -/
def filled (structured : Dict V) (name : String) :
    Except String (Option V) :=
  match structured.get? name with
  | none => pure none
  | some value => do
      if ← py.truthy value then pure (some value) else pure none

/-- The first filled field, written by `line`. -/
def firstFilled (structured : Dict V) (line : V → Except String String) :
    List String → Except String (List String)
  | [] => pure []
  | name :: rest => do
      match ← filled py structured name with
      | some value => do
          let text ← line value
          pure [text]
      | none => firstFilled structured line rest

def everyFilled (structured : Dict V)
    (lines : String → V → Except String (List String)) :
    List String → Except String (List String)
  | [] => pure []
  | name :: rest => do
      let here ← match ← filled py structured name with
        | some value => lines name value
        | none => pure []
      let others ← everyFilled structured lines rest
      pure (here ++ others)

def listLines (name : String) (value : V) : Except String (List String) := do
  let items ← py.items value
  let texts ← items.mapM py.str
  pure (("\n**" ++ fieldTitle name ++ "**:") ::
    texts.map fun text => "- " ++ text)

def proseLines (name : String) (value : V) : Except String (List String) := do
  let text ← py.str value
  pure ["\n**" ++ fieldTitle name ++ "**:\n" ++ text]

def patchLine (value : V) : Except String String := do
  let text ← py.str value
  pure ("\n**Patch**:\n```diff\n" ++ text ++ "\n```")

/-- `_extract_output`: the content and the structured fields. -/
def extractOutput (prediction : Prediction V) :
    Except String (String × Dict V) := do
  let structured := structuredOf prediction
  let narrative ← firstFilled py structured py.str
    ["summary", "overview", "diagnosis", "fix_description", "title"]
  let lists ← everyFilled py structured (listLines py)
    ["bugs", "risks", "security_issues", "migration_plan"]
  let prose ← everyFilled py structured (proseLines py)
    ["architecture", "proposed_design", "usage", "limitations"]
  let patch ← firstFilled py structured (patchLine py)
    ["suggested_patch", "patch"]
  let content :=
    strip ("\n".intercalate (narrative ++ lists ++ prose ++ patch))
  if content = "" then do
    let text ← py.str prediction.value
    pure (text, structured)
  else pure (content, structured)

end Output

variable {A V : Type}

/-- The model settings that a program's calls go out with. -/
structure DSPyLM where
  model : String
  provider : String
  agent : String
  maxTokens : Nat
  temperature : Rat

/-- A registered program: `A` is the state of its module. -/
structure ProgramDefinition (A : Type) where
  programId : String
  agents : List String
  factory : Except String A
  inputsBuilder : String → List Doc → RouteDecision →
    Except String (Dict Doc)

abbrev ProgramRegistry (A : Type) := List (ProgramDefinition A)

def ProgramRegistry.get? (registry : ProgramRegistry A)
    (programId : String) : Option (ProgramDefinition A) :=
  registry.find? fun definition => definition.programId = programId

def ProgramRegistry.getPrimary (registry : ProgramRegistry A)
    (agent : String) : Option (ProgramDefinition A) :=
  match registry.find? fun definition =>
      definition.agents.head? = some agent with
  | some definition => some definition
  | none => registry.find? fun definition => definition.agents.contains agent

structure LoadedProgram (A : Type) where
  program : A
  version : Int := 0
  metadata : Option ProgramVersionRecord := none
  tag : Option String := none

/-- The saved programs, the index, and the loaded programs by id and tag. -/
structure DSPyRunner (A : Type) where
  available : Bool := true
  config : InferenceConfig := {}
  registry : ProgramRegistry A := []
  files : List (ProgramFile A) := []
  index : ProgramIndex := []
  programCache : List ((String × String) × LoadedProgram A) := []

/-- `DSPyResult`, without its duration. -/
structure DSPyResult (V : Type) where
  content : String
  agent : String
  programId : String
  programVersion : Int := 0
  programTag : Option String := none
  dspyUsed : Bool := false
  mode : DSPyMode := .off
  structured : Dict V := []
  error : Option String := none
  optimizer : Option String := none
  dataset : Option String := none
  compileId : Option String := none
  score : Option Rat := none
  shadowScoreDelta : Option Rat := none

namespace DSPyRunner

variable (runner : DSPyRunner A)

def isEnabled : Bool :=
  runner.available && runner.config.dspy.enabled &&
    runner.config.dspy.mode != .off

/-- In active mode the agent list decides, an empty one allows all. -/
def shouldUseForAgent (agent : String) : Bool :=
  if !runner.isEnabled then false
  else if runner.config.dspy.mode = .shadow then true
  else runner.config.dspy.agents.isEmpty ||
    runner.config.dspy.agents.contains agent

def selectProgram (agent : String) : Option (ProgramDefinition A) :=
  match (runner.config.dspy.programOverrides.get? agent).bind
      runner.registry.get? with
  | some definition => some definition
  | none => runner.registry.getPrimary agent

def resolveTag : Option String :=
  match runner.config.dspy.mode with
  | .active => some (orElse runner.config.dspy.activeTag "production")
  | .shadow => some (orElse runner.config.dspy.shadowTag
      (orElse runner.config.dspy.activeTag "candidate"))
  | .off => none

def getLm (model provider agent : String) : DSPyLM :=
  let dspy := runner.config.dspy
  let effectiveModel := orElse dspy.model model
  let settings := runner.config.getModelConfig effectiveModel
  { model := orElse settings.model effectiveModel
    provider := orElse (orElse dspy.provider provider)
      (orElse settings.provider "workers-ai")
    agent
    maxTokens := settings.maxTokens
    temperature := settings.temperature }

def loadTagged (definition : ProgramDefinition A) (tag : Option String) :
    Option (A × Int × String) := do
  let tag ← tag
  let version ← runner.index.resolveTag definition.programId tag
  let loaded ← ProgramStore.load runner.files definition.programId
    (some version) definition.agents
  pure (loaded.1, loaded.2, tag)

def freshProgram (definition : ProgramDefinition A) (tag : Option String)
    (module : A) : LoadedProgram A :=
  match runner.loadTagged definition tag with
  | some (program, version, tag) =>
      { program
        version
        metadata := runner.index.metadata definition.programId version
        tag := some tag }
  | none =>
      match ProgramStore.load runner.files definition.programId none
          definition.agents with
      | some (program, version) =>
          { program
            version
            metadata := runner.index.metadata definition.programId version }
      | none => { program := module }

/-- `_load_program`: what was loaded before for the id and the tag is
kept. -/
def loadProgram (definition : ProgramDefinition A) (tag : Option String) :
    Except String (LoadedProgram A × DSPyRunner A) :=
  let key := (definition.programId, tag.getD "__raw__")
  match runner.programCache.find? fun entry => entry.1 = key with
  | some entry => pure (entry.2, runner)
  | none => do
      let module ← definition.factory
      let loaded := runner.freshProgram definition tag module
      pure (loaded,
        { runner with programCache := runner.programCache ++ [(key, loaded)] })

end DSPyRunner

def fallbackCodeContext (messages : List Doc) : String :=
  let parts := (messages.drop (messages.length - 5)).filterMap fun message =>
    match message.field? "content" with
    | some (.str content) =>
        if 20 < (strip content).length then some (slice 800 content) else none
    | _ => none
  slice 3000 ("\n---\n".intercalate parts)

/-- `_build_inputs`: an inputs builder that raises leaves the task. -/
def buildInputs (definition : ProgramDefinition A) (task : String)
    (messages : List Doc) (route : RouteDecision) : Dict Doc :=
  match definition.inputsBuilder task messages route with
  | .ok inputs => inputs
  | .error _ =>
      [("task", .str task),
        ("source_context", .str (fallbackCodeContext messages))]

/-- A program's answer, from its module, the settings and the inputs; or it
raises. -/
abbrev ProgramCall (A V : Type) :=
  A → DSPyLM → Dict Doc → Except String (Prediction V)

structure InferenceRequest where
  task : String
  messages : List Doc
  route : RouteDecision
  model : String
  toolSpecs : List Doc := []
  systemPrompt : Option String := none

namespace DSPyRunner

variable (py : PythonValues V) (call : ProgramCall A V)
variable (runner : DSPyRunner A) (request : InferenceRequest)

/-- The program is loaded, called and read; the runner keeps what was loaded. -/
def attempt (definition : ProgramDefinition A) :
    Except String (LoadedProgram A × String × Dict V) × DSPyRunner A :=
  match runner.loadProgram definition runner.resolveTag with
  | .error error => (.error error, runner)
  | .ok (loaded, runner) =>
      let lm := runner.getLm request.model request.route.provider
        request.route.agent
      let inputs := buildInputs definition request.task request.messages
        request.route
      (do
        let prediction ← call loaded.program lm inputs
        let (content, structured) ← extractOutput py prediction
        pure (loaded, content, structured), runner)

/-- The result of a program that completed: in shadow mode too it counts as
used. -/
def resultOf (definition : ProgramDefinition A) (loaded : LoadedProgram A)
    (content : String) (structured : Dict V) : DSPyResult V :=
  { content
    agent := request.route.agent
    programId := definition.programId
    programVersion := loaded.version
    programTag := loaded.tag
    dspyUsed := runner.config.dspy.mode = .active ∨
      runner.config.dspy.mode = .shadow
    mode := runner.config.dspy.mode
    structured
    optimizer := loaded.metadata.bind (·.optimizer)
    dataset := loaded.metadata.bind (·.dataset)
    compileId := loaded.metadata.bind (·.compileId)
    score := loaded.metadata.bind (·.score)
    shadowScoreDelta := loaded.metadata.bind (·.shadowScoreDelta) }

def run : Option (DSPyResult V) × DSPyRunner A :=
  if !runner.shouldUseForAgent request.route.agent then (none, runner)
  else
    match runner.selectProgram request.route.agent with
    | none => (none, runner)
    | some definition =>
        match runner.attempt py call request definition with
        | (.ok (loaded, content, structured), next) =>
            (some (runner.resultOf request definition loaded content
              structured), next)
        | (.error error, next) =>
            (some
              { content := ""
                agent := request.route.agent
                programId := definition.programId
                mode := runner.config.dspy.mode
                error := some error }, next)

end DSPyRunner

end Voly.Dspy
