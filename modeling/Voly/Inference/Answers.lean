/-
Inference with and without DSPy: which runtime answers, and when the answers
stay as they are.
-/
import Voly.Dspy.Runner
import Voly.Python.Fields

namespace Voly.Dspy

open Python

variable {A V : Type}

inductive ResponseField (V : Type) where
  | doc (value : Doc)
  | fields (items : Dict V)

abbrev InferenceResponse (V : Type) := Dict (ResponseField V)

structure ChatArguments where
  messages : List Doc
  model : String
  providerName : String
  maxTokens : Nat
  tools : List Doc
  system : Option String
  agent : Option String

/-- A gateway's response to its arguments; no response is an empty one. -/
abbrev GatewayChat (V : Type) := ChatArguments → InferenceResponse V

inductive RuntimeName where
  | classic | dspy
deriving DecidableEq

structure InferenceOutcome (V : Type) where
  response : InferenceResponse V
  runtime : RuntimeName
  dspyResult : Option (DSPyResult V) := none
  usedDspy : Bool := false

/-- The arguments with which the classic runtime calls the gateway. -/
def chatArguments (config : InferenceConfig) (request : InferenceRequest) :
    ChatArguments where
  messages := request.messages
  model := request.model
  providerName := request.route.provider
  maxTokens := (config.getModelConfig request.route.model).maxTokens
  tools := request.toolSpecs
  system := request.systemPrompt
  agent := some request.route.agent

def textDoc (text : String) : ResponseField V := .doc (.str text)

def optionalText : Option String → ResponseField V
  | some text => textDoc text
  | none => .doc nullDoc

def versionDoc (version : Int) : ResponseField V :=
  .doc (intDoc version)

/-- The response that `DSPyRuntime` makes of a result. -/
def dspyResponse (model : String) (result : DSPyResult V) :
    InferenceResponse V :=
  [("content", textDoc result.content),
    ("usage", .doc (.dict [])),
    ("model", textDoc model),
    ("dspy_used", .doc (boolDoc true)),
    ("dspy_mode", textDoc result.mode.name),
    ("dspy_program", textDoc result.programId),
    ("dspy_program_version", versionDoc result.programVersion),
    ("dspy_program_tag", optionalText result.programTag),
    ("dspy_structured", .fields result.structured)]

/-- `DSPyRuntime.run`: the response it answers with, and the result. -/
def dspyAnswer (model : String) (result : Option (DSPyResult V)) :
    Option (InferenceResponse V) :=
  match result with
  | none => none
  | some result =>
      if result.dspyUsed ∧ result.content ≠ "" then
        some (dspyResponse model result)
      else none

/-- `response.setdefault(key, value)`. -/
def setDefault (response : InferenceResponse V) (key : String)
    (value : ResponseField V) : InferenceResponse V :=
  match response.get? key with
  | some _ => response
  | none => response.set key value

def noteDspy (response : InferenceResponse V) :
    Option (DSPyResult V) → InferenceResponse V
  | none => response
  | some result =>
      [("dspy_mode", textDoc result.mode.name),
        ("dspy_program", textDoc result.programId),
        ("dspy_program_version", versionDoc result.programVersion),
        ("dspy_program_tag", optionalText result.programTag),
        ("dspy_used", .doc (boolDoc result.dspyUsed))].foldl
        (fun response item => setDefault response item.1 item.2) response

def classicResponse (chat : GatewayChat V) (arguments : ChatArguments)
    (model : String) : InferenceResponse V :=
  match chat arguments with
  | [] =>
      [("content", textDoc ""), ("usage", .doc (.dict [])),
        ("model", textDoc model)]
  | response => response

/-- A finished inference: its outcome, the classic calls and the runner. -/
structure Inferred (A V : Type) where
  outcome : InferenceOutcome V
  classicCalls : List ChatArguments
  runner : DSPyRunner A

section Manager

variable (py : PythonValues V) (call : ProgramCall A V)
variable (chat : GatewayChat V) (runner : DSPyRunner A)
variable (request : InferenceRequest)

/-- The attempt that `InferenceManager.run` makes with DSPy. -/
def InferenceManager.attempt :
    Option (DSPyResult V) × DSPyRunner A :=
  if runner.isEnabled then runner.run py call request else (none, runner)

def InferenceManager.run : Inferred A V :=
  let attempt := InferenceManager.attempt py call runner request
  match dspyAnswer request.model attempt.1 with
  | some response =>
      { outcome :=
          { response
            runtime := .dspy
            dspyResult := attempt.1
            usedDspy := true }
        classicCalls := []
        runner := attempt.2 }
  | none =>
      let arguments := chatArguments runner.config request
      { outcome :=
          { response :=
              noteDspy (classicResponse chat arguments request.model) attempt.1
            runtime := .classic
            dspyResult := attempt.1
            usedDspy := attempt.1.any (·.dspyUsed) }
        classicCalls := [arguments]
        runner := attempt.2 }

end Manager

def DSPyRunner.off (runner : DSPyRunner A) : DSPyRunner A :=
  { runner with
    config :=
      { runner.config with dspy := { runner.config.dspy with mode := .off } } }

/-- The text of the agent's program, when it loads, answers and can be read. -/
def DSPyRunner.output? (py : PythonValues V) (call : ProgramCall A V)
    (runner : DSPyRunner A) (request : InferenceRequest) : Option String := do
  let definition ← runner.selectProgram request.route.agent
  let (_, content, _) ← (runner.attempt py call request definition).1.toOption
  pure content

/-- Content, usage and tool calls are the same. -/
def SameAnswer (first second : InferenceResponse V) : Prop :=
  ∀ key ∈ ["content", "usage", "tool_calls"],
    first.get? key = second.get? key

/-- The content of the response is what the program wrote. -/
def FromProgram (inferred : Inferred A V) : Prop :=
  inferred.classicCalls = [] ∧
    ∃ result, inferred.outcome.dspyResult = some result ∧
      inferred.outcome.response.get? "content" = some (textDoc result.content)

section Law

variable (py : PythonValues V) (call : ProgramCall A V)
variable (chat : GatewayChat V) (runner : DSPyRunner A)
variable (request : InferenceRequest)

/-- The shadow never answers, a failed attempt falls back, the outcome says
whose content it is. -/
structure AnswersKept : Prop where
  shadow : runner.config.dspy.mode = .shadow →
    (InferenceManager.run py call chat runner request).classicCalls.length =
        1 ∧
      SameAnswer
        (InferenceManager.run py call chat runner request).outcome.response
        (InferenceManager.run py call chat runner.off request).outcome.response
  active : runner.config.dspy.mode = .active →
    runner.shouldUseForAgent request.route.agent = false ∨
        runner.output? py call request = none ∨
        runner.output? py call request = some "" →
    (InferenceManager.run py call chat runner
        request).outcome.response.get? "content" =
      (InferenceManager.run py call chat runner.off
        request).outcome.response.get? "content"
  used : (InferenceManager.run py call chat runner request).outcome.usedDspy =
      true ↔
    FromProgram (InferenceManager.run py call chat runner request)

/-- A program that may run and completes does so in active mode and with a
text. -/
def Harmless : Prop :=
  ∀ text, runner.output? py call request = some text →
    runner.shouldUseForAgent request.route.agent = true →
    runner.config.dspy.mode = .active ∧ text ≠ ""

variable {py call chat runner request}

theorem get?_setDefault {response : InferenceResponse V} {key other : String}
    (value : ResponseField V) (h : key ≠ other) :
    (setDefault response key value).get? other = response.get? other := by
  rw [setDefault]
  split
  · rfl
  · rw [Dict.get?_set, if_neg h]

theorem noteDspy_same (response : InferenceResponse V)
    (result : Option (DSPyResult V)) :
    SameAnswer (noteDspy response result) response := by
  intro key hkey
  cases result with
  | none => rfl
  | some result =>
      have hother : ∀ name ∈ ["dspy_mode", "dspy_program",
          "dspy_program_version", "dspy_program_tag", "dspy_used"],
          name ≠ key := by
        intro name hname hsame
        subst hsame
        revert name
        decide
      simp only [noteDspy, List.foldl_cons, List.foldl_nil]
      repeat rw [get?_setDefault _ (hother _ (by simp))]

theorem isEnabled_off (runner : DSPyRunner A) :
    runner.off.isEnabled = false := by
  simp [DSPyRunner.off, DSPyRunner.isEnabled]

theorem run_off : InferenceManager.run py call chat runner.off request =
    { outcome :=
        { response := classicResponse chat
            (chatArguments runner.config request) request.model
          runtime := .classic }
      classicCalls := [chatArguments runner.config request]
      runner := runner.off } := by
  have hattempt : InferenceManager.attempt py call runner.off request =
      (none, runner.off) := by
    simp [InferenceManager.attempt, isEnabled_off]
  simp only [InferenceManager.run, hattempt]
  rfl

variable (py call) in
theorem attempt_unused (h : runner.isEnabled = true)
    (hnone : runner.shouldUseForAgent request.route.agent = false ∨
      runner.output? py call request = none) :
    ∀ result ∈ (InferenceManager.attempt py call runner request).1,
      result.dspyUsed = false := by
  intro result hresult
  simp only [InferenceManager.attempt, h, if_true, DSPyRunner.run] at hresult
  by_cases huse : runner.shouldUseForAgent request.route.agent = true
  · have hout := hnone.resolve_left (by simp [huse])
    cases hselect : runner.selectProgram request.route.agent with
    | none => simp [huse, hselect] at hresult
    | some definition =>
        rcases hattempt : runner.attempt py call request definition with
          ⟨outcome, next⟩
        cases outcome with
        | error error =>
            simp only [huse, hselect, hattempt] at hresult
            cases hresult
            rfl
        | ok found =>
            simp [DSPyRunner.output?, hselect, hattempt,
              Except.toOption] at hout
  · simp [huse] at hresult

theorem attempt_used {text : String} (h : runner.isEnabled = true)
    (huse : runner.shouldUseForAgent request.route.agent = true)
    (hout : runner.output? py call request = some text) :
    ∃ result, (InferenceManager.attempt py call runner request).1 =
        some result ∧ result.content = text ∧ result.dspyUsed = true := by
  have hmode : runner.config.dspy.mode = .active ∨
      runner.config.dspy.mode = .shadow := by
    cases hmode : runner.config.dspy.mode with
    | off => simp [DSPyRunner.isEnabled, hmode] at h
    | shadow => exact Or.inr rfl
    | active => exact Or.inl rfl
  cases hselect : runner.selectProgram request.route.agent with
  | none => simp [DSPyRunner.output?, hselect] at hout
  | some definition =>
      rcases hattempt : runner.attempt py call request definition with
        ⟨outcome, next⟩
      cases outcome with
      | error error =>
          simp [DSPyRunner.output?, hselect, hattempt,
            Except.toOption] at hout
      | ok found =>
          obtain ⟨loaded, content, structured⟩ := found
          have htext : content = text := by
            simpa [DSPyRunner.output?, hselect, hattempt,
              Except.toOption] using hout
          refine ⟨runner.resultOf request definition loaded content structured,
            ?_, htext, decide_eq_true hmode⟩
          simp [InferenceManager.attempt, h, DSPyRunner.run, huse, hselect,
            hattempt]

variable (chat) in
theorem run_classic
    (h : dspyAnswer request.model
      (InferenceManager.attempt py call runner request).1 = none) :
    SameAnswer
        (InferenceManager.run py call chat runner request).outcome.response
        (InferenceManager.run py call chat runner.off
          request).outcome.response ∧
      (InferenceManager.run py call chat runner request).classicCalls.length =
        1 ∧
      (InferenceManager.run py call chat runner request).outcome.usedDspy =
        (InferenceManager.attempt py call runner request).1.any
          (·.dspyUsed) := by
  rw [run_off]
  simp only [InferenceManager.run, h]
  exact ⟨noteDspy_same _ _, rfl, trivial⟩

theorem dspyAnswer_unused {result : Option (DSPyResult V)} {model : String}
    (h : ∀ r ∈ result, r.dspyUsed = false ∨ r.content = "") :
    dspyAnswer model result = none := by
  cases result with
  | none => rfl
  | some result =>
      rcases h result rfl with hused | hempty
      · simp [dspyAnswer, hused]
      · simp [dspyAnswer, hempty]

variable (py call request) in
theorem attempt_cases (h : runner.isEnabled = true) :
    (runner.shouldUseForAgent request.route.agent = false ∨
      runner.output? py call request = none) ∨
    ∃ text, runner.shouldUseForAgent request.route.agent = true ∧
      runner.output? py call request = some text ∧
      ∃ result, (InferenceManager.attempt py call runner request).1 =
        some result ∧ result.content = text ∧ result.dspyUsed = true := by
  cases huse : runner.shouldUseForAgent request.route.agent with
  | false => exact Or.inl (Or.inl rfl)
  | true =>
      cases hout : runner.output? py call request with
      | none => exact Or.inl (Or.inr rfl)
      | some text =>
          exact Or.inr ⟨text, rfl, rfl, attempt_used h huse hout⟩

theorem kept_without_text (h : runner.isEnabled = true)
    (hnone : runner.shouldUseForAgent request.route.agent = false ∨
      runner.output? py call request = none) :
    AnswersKept py call chat runner request := by
  have hunused := attempt_unused py call h hnone
  have hanswer : dspyAnswer request.model
      (InferenceManager.attempt py call runner request).1 = none :=
    dspyAnswer_unused fun result hresult => Or.inl (hunused result hresult)
  obtain ⟨hsame, hcalls, hused⟩ := run_classic chat hanswer
  have hnot : (InferenceManager.attempt py call runner request).1.any
      (·.dspyUsed) = false := by
    cases hresult : (InferenceManager.attempt py call runner request).1 with
    | none => rfl
    | some result => exact hunused result hresult
  refine ⟨fun _ => ⟨hcalls, hsame⟩, fun _ _ => hsame _ (by simp), ?_⟩
  rw [hused, hnot]
  constructor
  · intro hfalse
    cases hfalse
  · intro hfrom
    rw [hfrom.1] at hcalls
    cases hcalls

variable (chat) in
theorem run_dspy {result : DSPyResult V}
    (hattempt : (InferenceManager.attempt py call runner request).1 =
      some result)
    (hused : result.dspyUsed = true) (htext : result.content ≠ "") :
    (InferenceManager.run py call chat runner request).classicCalls = [] ∧
      (InferenceManager.run py call chat runner request).outcome.usedDspy =
        true ∧
      FromProgram (InferenceManager.run py call chat runner request) := by
  have hanswer : dspyAnswer request.model
      (InferenceManager.attempt py call runner request).1 =
        some (dspyResponse request.model result) := by
    simp [hattempt, dspyAnswer, hused, htext]
  simp only [FromProgram, InferenceManager.run, hanswer]
  exact ⟨trivial, trivial, trivial, result, hattempt, rfl⟩

/-- With the runner enabled, answers stay iff a completing active program writes
a text. -/
theorem answers_kept_iff (h : runner.isEnabled = true) :
    AnswersKept py call chat runner request ↔
      Harmless py call runner request := by
  rcases attempt_cases py call request h with
    hnone | ⟨text, huse, hout, result, hattempt, hcontent, hused⟩
  · refine ⟨fun _ text hout huse => ?_, fun _ => kept_without_text h hnone⟩
    rcases hnone with hnone | hnone
    · rw [hnone] at huse
      cases huse
    · rw [hnone] at hout
      cases hout
  · by_cases htext : text = ""
    · refine ⟨fun hkept => ?_, fun hsafe => ?_⟩
      · -- the empty text is not returned, but counts as used
        have hanswer : dspyAnswer request.model
            (InferenceManager.attempt py call runner request).1 = none := by
          apply dspyAnswer_unused
          intro other hother
          rw [hattempt] at hother
          cases hother
          exact Or.inr (hcontent.trans htext)
        obtain ⟨_, hcalls, hany⟩ := run_classic chat hanswer
        have hfrom := hkept.used.mp (by
          rw [hany, hattempt]
          exact hused)
        rw [hfrom.1] at hcalls
        cases hcalls
      · exact absurd htext (hsafe text hout huse).2
    · obtain ⟨hcalls, hyes, hfrom⟩ := run_dspy chat hattempt hused
        (hcontent ▸ htext)
      constructor
      · intro hkept other hother _
        rw [hout] at hother
        cases hother
        refine ⟨?_, htext⟩
        cases hmode : runner.config.dspy.mode with
        | off => simp [DSPyRunner.isEnabled, hmode] at h
        | active => rfl
        | shadow =>
            -- in shadow mode the program's text is returned
            have hone := (hkept.shadow hmode).1
            rw [hcalls] at hone
            cases hone
      · intro hsafe
        have hactive := (hsafe text hout huse).1
        refine ⟨fun hshadow => ?_, fun _ hfailed => ?_, fun _ => hfrom,
          fun _ => hyes⟩
        · rw [hactive] at hshadow
          cases hshadow
        · rcases hfailed with hdenied | hnone | hempty
          · rw [hdenied] at huse
            cases huse
          · rw [hnone] at hout
            cases hout
          · rw [hempty] at hout
            exact absurd (Option.some.inj hout).symm htext

end Law

namespace AnswersWitness

def texts : PythonValues String where
  truthy value := .ok (value != "")
  str := .ok
  items value := .ok [value]

def gateway : GatewayChat String := fun arguments =>
  [("content", textDoc arguments.model), ("usage", .doc (.dict []))]

def documenter : ProgramDefinition Nat where
  programId := "docs/summary"
  agents := ["documenter"]
  factory := .ok 0
  inputsBuilder task _ _ := .ok [("task", .str task)]

def runner (mode : DSPyMode) : DSPyRunner Nat where
  config := { dspy := { enabled := true, mode } }
  registry := [documenter]

def request : InferenceRequest where
  task := "describe the module"
  messages := []
  route :=
    { agent := "documenter"
      model := "gpt-4o-mini"
      provider := "openai" }
  model := "gpt-4o-mini"

def summarises : ProgramCall Nat String := fun _ _ _ =>
  .ok { attr := fun name => if name = "summary" then some "draft" else none
        value := "Prediction" }

def raises : ProgramCall Nat String := fun _ _ _ => .error "no balance"

/-- The program's text is returned in shadow mode. -/
theorem shadow_returns_draft :
    ¬AnswersKept texts summarises gateway (runner .shadow) request := by
  intro h
  have hcalls : (InferenceManager.run texts summarises gateway
      (runner .shadow) request).classicCalls.length = 0 := by
    decide +kernel
  have hone := (h.shadow rfl).1
  rw [hcalls] at hone
  cases hone

/-- A program that fails in shadow mode and one that answers in active mode. -/
theorem failing_and_active_kept :
    (runner .shadow).isEnabled = true ∧
      AnswersKept texts raises gateway (runner .shadow) request ∧
      AnswersKept texts summarises gateway (runner .active) request := by
  refine ⟨by decide, ?_, ?_⟩
  · apply (answers_kept_iff (by decide)).mpr
    intro text htext
    have hnone : (runner .shadow).output? texts raises request = none := by
      decide +kernel
    rw [hnone] at htext
    cases htext
  · apply (answers_kept_iff (by decide)).mpr
    intro text htext _
    have hdraft : (runner .active).output? texts summarises request =
        some "draft" := by
      decide +kernel
    rw [hdraft] at htext
    cases htext
    exact ⟨rfl, by decide⟩

end AnswersWitness

end Voly.Dspy
