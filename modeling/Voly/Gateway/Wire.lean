/-
The responses of the providers: four wire formats, the result they are brought
into, and the test for emptiness.
-/
import Voly.Gateway.Fallback

namespace Voly.Gateway

open Python

/-- A field of text: it may be missing, and it may be `null`. -/
abbrev TextField := Option (Option String)

/-- `data.get(key, "")`. -/
def TextField.orEmpty (field : TextField) : Option String :=
  field.getD (some "")

/-- The counts of a response; a missing one is zero. -/
structure WireUsage where
  input : Option Int := none
  output : Option Int := none
  total : Option Int := none

inductive AnthropicBlock where
  | text (text : String)
  | toolUse (id name : String) (input : List (String × Value))
  | other (type : String)

structure AnthropicMessage where
  content : List AnthropicBlock := []
  model : Option String := none
  stopReason : TextField := none
  usage : WireUsage := {}

/-- The arguments of a call: JSON as a text, or an object. -/
inductive OpenaiArguments where
  | text (json : String)
  | object (fields : List (String × Value))

structure OpenaiCall where
  id : String := ""
  name : String := ""
  arguments : OpenaiArguments := .object []

structure OpenaiMessage where
  content : TextField := none
  toolCalls : List OpenaiCall := []

structure OpenaiChoice where
  message : Option OpenaiMessage := none
  finishReason : TextField := none

structure OpenaiCompletion where
  choices : List OpenaiChoice := []
  model : Option String := none
  usage : WireUsage := {}

structure GoogleFunctionCall where
  name : String := ""
  args : List (String × Value) := []

structure GooglePart where
  text : Option String := none
  functionCall : Option GoogleFunctionCall := none

structure GoogleCandidate where
  parts : Option (List GooglePart) := none
  finishReason : TextField := none

structure GoogleResponse where
  candidates : Option (List GoogleCandidate) := none
  usage : WireUsage := {}

structure WorkersResult where
  response : TextField := none
  toolCalls : List OpenaiCall := []
  usage : WireUsage := {}

def toolCallValue (id name : String) (arguments : List (String × Value)) :
    Value :=
  .dict [("id", .str id), ("name", .str name), ("arguments", .dict arguments)]

/-- The counts of the OpenAI format. -/
def WireUsage.reported (usage : WireUsage) : Usage where
  inputTokens := usage.input.getD 0
  outputTokens := usage.output.getD 0
  totalTokens := usage.total.getD 0

/-- The counts of a format without a total. -/
def WireUsage.summed (usage : WireUsage) : Usage where
  inputTokens := usage.input.getD 0
  outputTokens := usage.output.getD 0
  totalTokens := usage.input.getD 0 + usage.output.getD 0

def AnthropicBlock.ownText : AnthropicBlock → String
  | text s => s
  | toolUse _ _ _ | other _ => ""

def AnthropicBlock.call? : AnthropicBlock → Option Value
  | toolUse id name input => some (toolCallValue id name input)
  | text _ | other _ => none

/-- What `_call_anthropic` returns for a message. -/
def callAnthropic (model : String) (data : AnthropicMessage) : Answer where
  content := some ("".intercalate (data.content.map AnthropicBlock.ownText))
  model := data.model.getD model
  stopReason := data.stopReason.orEmpty
  toolCalls := data.content.filterMap AnthropicBlock.call?
  usage := data.usage.summed

section Openai

-- `json.loads` on the arguments of a call; none for a text that is not JSON
variable (loads : String → Option Value)

def OpenaiArguments.read : OpenaiArguments → List (String × Value)
  | .object fields => fields
  | .text json =>
      match if json = "" then none else loads json with
      | some (.dict fields) => fields
      | _ => []

def OpenaiCall.value (call : OpenaiCall) : Value :=
  toolCallValue call.id call.name (call.arguments.read loads)

/-- What `_call_openai` returns for a completion, or the error that it
raises. -/
def callOpenai (model : String) (data : OpenaiCompletion) :
    Except String Answer :=
  match data.choices with
  | [] => .error "list index out of range"
  | choice :: _ =>
      match choice.message with
      | none => .error (quoted "message")
      | some message => .ok {
          content := message.content.orEmpty
          model := data.model.getD model
          stopReason := choice.finishReason.orEmpty
          toolCalls := message.toolCalls.map (OpenaiCall.value loads)
          usage := data.usage.reported }

end Openai

/-- `(data.get("choices") or [{}])[0]`. -/
def OpenaiCompletion.first (data : OpenaiCompletion) : OpenaiChoice :=
  data.choices.head?.getD {}

def OpenaiChoice.messageOrEmpty (choice : OpenaiChoice) : OpenaiMessage :=
  choice.message.getD {}

/-- What `_call_cloudflare_compat` and `_call_omniroute` return for a
completion. -/
def callCompat (model : String) (data : OpenaiCompletion) : Answer where
  content := data.first.messageOrEmpty.content.orEmpty
  model := data.model.getD model
  stopReason := data.first.finishReason.orEmpty
  usage := data.usage.reported

/-- What `_call_workers_ai` returns for a completion. -/
def callWorkersChat (model : String) (data : OpenaiCompletion) : Answer where
  content := some (data.first.messageOrEmpty.content.orEmpty.getD "")
  model := model
  stopReason := data.first.finishReason.orEmpty
  usage := data.usage.reported

/-- What `_call_workers_ai` returns for a result in its own format. -/
def callWorkersClassic (model : String) (data : WorkersResult) : Answer where
  content := data.response.orEmpty
  model := model
  stopReason := some ""
  usage := data.usage.reported

def GooglePart.call? (part : GooglePart) : Option Value :=
  part.functionCall.map fun call => toolCallValue "" call.name call.args

/-- `data.get("candidates", [{}])`. -/
def GoogleResponse.candidatesOr (data : GoogleResponse) :
    List GoogleCandidate :=
  data.candidates.getD [{}]

/-- `candidate.get("content", {}).get("parts", [{"text": ""}])`. -/
def GoogleCandidate.partsOr (candidate : GoogleCandidate) : List GooglePart :=
  candidate.parts.getD [{ text := some "" }]

/-- What `_call_google` returns for a response, or the error that it
raises. -/
def callGoogle (model : String) (data : GoogleResponse) :
    Except String Answer :=
  match data.candidatesOr with
  | [] => .error "list index out of range"
  | candidate :: _ => .ok {
      content := some ("".intercalate
        (candidate.partsOr.map fun part => part.text.getD ""))
      model := model
      stopReason := candidate.finishReason.orEmpty
      toolCalls := candidate.partsOr.filterMap GooglePart.call?
      usage := data.usage.summed }

inductive ProviderResponse where
  | anthropic (data : AnthropicMessage)
  | openai (data : OpenaiCompletion)
  | google (data : GoogleResponse)
  | compat (data : OpenaiCompletion)
  | workersChat (data : OpenaiCompletion)
  | workersClassic (data : WorkersResult)

/-- What the adapter makes of a response to a call of `model`. -/
def ProviderResponse.normalised (loads : String → Option Value)
    (model : String) : ProviderResponse → Except String Answer
  | .anthropic data => .ok (callAnthropic model data)
  | .openai data => callOpenai loads model data
  | .google data => callGoogle model data
  | .compat data => .ok (callCompat model data)
  | .workersChat data => .ok (callWorkersChat model data)
  | .workersClassic data => .ok (callWorkersClassic model data)

end Voly.Gateway
