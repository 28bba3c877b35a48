import ChatGateway.Agent.Chat

/-! # Scripted language models

A `ProviderScript` stands in for a language model: it answers every call from a list of
`ScriptStep`s chosen by the transcript.

* `ProviderScript.stepFor` picks the step: the steps listed under the content of the first user
  message, or the fallback steps, at the index given by the number of model turns already in
  the transcript. No step there means the script is exhausted.
* `ScriptStep.turn` says what the step does once its delay is over: never answer, panic, fail
  with a message, or answer with a `Completion`, whose text may echo the last message or list
  the names of the tools offered.
* `ProviderScript.ofJson` reads a script leniently: a missing or mistyped field takes its
  default (`""` ids and names, `null` arguments, zero counts), and a script entry that is not a
  list of steps is as if it were absent.
-/

namespace ChatGateway

/-- **One answer of a model:** optional text, the tool calls it asks for, and its usage. -/
structure Completion where
  text : Option String := none
  toolCalls : List ToolCall := []
  usage : Usage := {}
  deriving Repr

/-- **What a scripted turn does after its delay.** -/
inductive Turn where
  | hang
  | panic (message : String)
  | fail (message : String)
  | answer (c : Completion)
  deriving Repr

/-- **One scripted model turn.** -/
structure ScriptStep where
  delayMs : Nat := 0
  hang : Bool := false
  panic : Option String := none
  error : Option String := none
  toolCalls : List ToolCall := []
  usage : Usage := {}
  text : Option String := none
  echoLast : Bool := false
  echoTools : Bool := false
  deriving Repr

/-- **A scripted model:** its id and name, steps by first user message, and fallback steps. -/
structure ProviderScript where
  id : String := "script-1"
  name : String := "script"
  byUser : List (String × List ScriptStep) := []
  fallback : List ScriptStep := []
  deriving Repr

/-- The error of a call for which the script has no step. -/
def ProviderScript.exhausted : String := "script exhausted"

namespace ScriptStep

/-- The text of the last message of a transcript; a model turn without text gives `""`. -/
def lastContent (messages : List ChatMessage) : String :=
  match messages.getLast? with
  | some m => m.content?.getD ""
  | none => ""

/-- The names of the offered tools, `tools=[a,b]`. -/
def toolList (tools : List Json) : String :=
  "tools=[" ++ ",".intercalate (tools.map fun t => ((t.get? "name").bind Json.str?).getD "") ++ "]"

/-- **What the step does once its delay is over.** -/
def turn (s : ScriptStep) (messages : List ChatMessage) (tools : List Json) : Turn :=
  if s.hang then .hang
  else match s.panic, s.error with
    | some m, _ => .panic m
    | none, some m => .fail m
    | none, none =>
      let text :=
        if s.echoLast then some (lastContent messages)
        else if s.echoTools then some (toolList tools)
        else s.text
      .answer { text, toolCalls := s.toolCalls, usage := s.usage }

/-- A string field, when present and a string. -/
def textField (j : Json) (k : String) : Option String := (j.get? k).bind Json.str?

/-- A boolean field that is `true`. -/
def flag (j : Json) (k : String) : Bool := ((j.get? k).bind Json.bool?).getD false

/-- A count field, zero when absent or not a non-negative integer. -/
def count (j : Json) (k : String) : Nat := ((j.get? k).bind Json.nat?).getD 0

/-- Reads a tool call; a missing id or name is `""` and missing arguments are `null`. -/
def toolCallOf (j : Json) : ToolCall :=
  { id := (textField j "id").getD "", name := (textField j "name").getD "",
    arguments := (j.get? "arguments").getD .null }

/-- **Reads a step.** -/
def ofJson (j : Json) : ScriptStep :=
  let usage := (j.get? "usage").getD .null
  { delayMs := count j "delay_ms"
    hang := flag j "hang"
    panic := textField j "panic"
    error := textField j "error"
    toolCalls := (((j.get? "tool_calls").bind Json.items?).getD []).map toolCallOf
    usage := ⟨count usage "input", count usage "output"⟩
    text := textField j "text"
    echoLast := flag j "echo_last"
    echoTools := flag j "echo_tools" }

end ScriptStep

namespace ProviderScript

/-- Reads a list of steps; anything but an array is no steps. -/
def stepsOf (j : Json) : List ScriptStep := (j.items?.getD []).map ScriptStep.ofJson

/-- **Reads a scripted model.** -/
def ofJson (j : Json) : ProviderScript :=
  { id := (ScriptStep.textField j "id").getD "script-1"
    name := (ScriptStep.textField j "name").getD "script"
    byUser := (((j.get? "script").bind Json.fields?).getD []).filterMap fun (k, v) =>
      v.items?.map fun steps => (k, steps.map ScriptStep.ofJson)
    fallback := stepsOf ((j.get? "default").getD .null) }

/-- The content of the first user message of a transcript. -/
def firstUser : List ChatMessage → Option String
  | [] => none
  | .user c :: _ => some c
  | _ :: rest => firstUser rest

/-- **The step that answers a transcript,** if the script has one. -/
def stepFor (p : ProviderScript) (messages : List ChatMessage) : Option ScriptStep :=
  let steps :=
    match (firstUser messages).bind fun c => (p.byUser.find? (·.1 == c)).map (·.2) with
    | some s => s
    | none => p.fallback
  steps[(messages.filter ChatMessage.isAssistant).length]?

end ProviderScript

end ChatGateway
