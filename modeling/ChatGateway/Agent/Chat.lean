import ChatGateway.Json.Value

/-! # Chat transcripts

The transcript sent to a language model is a list of `ChatMessage`s: the system prompt, the
user's message, the model's own turns (text and the tool calls it asked for) and one tool
message per call with the call's result. Each is written as a JSON object tagged by `role`.
-/

namespace ChatGateway

/-- **A tool call requested by the model:** an id, a tool name and JSON arguments. -/
structure ToolCall where
  id : String
  name : String
  arguments : Json
  deriving Repr

/-- **Token usage of a model call,** in 32-bit counters. -/
structure Usage where
  inputTokens : Nat := 0
  outputTokens : Nat := 0
  deriving Repr, DecidableEq

/-- **One message of a transcript.** -/
inductive ChatMessage where
  | system (content : String)
  | user (content : String)
  | assistant (content : Option String) (toolCalls : List ToolCall)
  | tool (toolCallId content : String)
  deriving Repr

namespace ToolCall

/-- The JSON object of a tool call. -/
def toJson (c : ToolCall) : Json :=
  Json.object [("id", .str c.id), ("name", .str c.name), ("arguments", c.arguments)]

end ToolCall

namespace Usage

/-- The largest 32-bit count. -/
def maxCount : Nat := Nat.pow 2 32 - 1

/-- Adds two usages, each counter stopping at its largest value. -/
def add (a b : Usage) : Usage :=
  ⟨min (a.inputTokens + b.inputTokens) maxCount, min (a.outputTokens + b.outputTokens) maxCount⟩

/-- The JSON object of a usage. -/
def toJson (u : Usage) : Json :=
  Json.object [("input_tokens", .ofNat u.inputTokens), ("output_tokens", .ofNat u.outputTokens)]

end Usage

namespace ChatMessage

/-- A plain assistant turn, without tool calls. -/
def assistantText (content : String) : ChatMessage := .assistant (some content) []

/-- Whether a message is a turn of the model. -/
def isAssistant : ChatMessage → Bool
  | .assistant _ _ => true
  | _ => false

/-- The text content of a message; an assistant turn without text has none. -/
def content? : ChatMessage → Option String
  | .system c | .user c | .tool _ c => some c
  | .assistant c _ => c

/-- **The JSON object of a message.** -/
def toJson : ChatMessage → Json
  | .system c => Json.object [("role", .str "system"), ("content", .str c)]
  | .user c => Json.object [("role", .str "user"), ("content", .str c)]
  | .assistant c calls => Json.object [("role", .str "assistant"), ("content", Json.ofOption c),
      ("tool_calls", .arr (calls.map ToolCall.toJson))]
  | .tool id c =>
    Json.object [("role", .str "tool"), ("tool_call_id", .str id), ("content", .str c)]

end ChatMessage

end ChatGateway
