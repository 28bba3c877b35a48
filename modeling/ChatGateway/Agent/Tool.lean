import ChatGateway.Agent.Chat

/-! # Tools and the tool registry

A `Tool` is something a model may call by name: a `ScriptedTool`, whose answer is fixed by its
description, or the tool that starts a background sub-agent.

* `ScriptedTool.ofJson` reads a scripted tool leniently; its `ToolAction` is one of echoing the
  parameters, failing, returning a fixed value, returning a long string, or panicking.
* `ToolRegistry` keeps tools by name, in ascending order of names, one tool per name:
  `register` replaces a tool of the same name, `cloneWithout` drops a set of names, and
  `schemas` lists `{name, description, parameters}` in name order, the shape offered to models.
-/

namespace ChatGateway

/-- **What a scripted tool does when called,** after its delay. -/
inductive ToolAction where
  /-- Returns the parameters it was called with. -/
  | echo
  /-- Fails with a message. -/
  | fail (message : String)
  /-- Returns a fixed value. -/
  | give (value : Json)
  /-- Returns the string `piece` repeated `times` times. -/
  | long (piece : String) (times : Nat)
  /-- Panics with a message. -/
  | panic (message : String)
  deriving Repr

/-- **A scripted tool.** -/
structure ScriptedTool where
  name : String
  description : String := "scripted tool"
  schema : Json := Json.object [("type", .str "object")]
  action : ToolAction := .echo
  delayMs : Nat := 0
  deriving Repr

/-- **A tool a model may call.** -/
inductive Tool where
  | scripted (t : ScriptedTool)
  /-- Starts a background sub-agent and answers with its id. -/
  | spawnSubagent
  deriving Repr

namespace ScriptedTool

/-- **Reads a scripted tool;** an unknown kind echoes. -/
def ofJson (j : Json) : ScriptedTool :=
  let text (k : String) : Option String := (j.get? k).bind Json.str?
  let message := (text "message").getD ""
  let action : ToolAction :=
    match text "kind" with
    | some "error" => .fail message
    | some "return" => .give ((j.get? "value").getD .null)
    | some "big" => .long ((text "s").getD "") (((j.get? "n").bind Json.nat?).getD 0)
    | some "panic" => .panic message
    | _ => .echo
  { name := (text "name").getD ""
    description := (text "description").getD "scripted tool"
    schema := (j.get? "schema").getD (Json.object [("type", .str "object")])
    action
    delayMs := ((j.get? "delay_ms").bind Json.nat?).getD 0 }

end ScriptedTool

namespace Tool

/-- The name under which the sub-agent tool is offered. -/
def spawnName : String := "spawn_subagent"

/-- The name of a tool. -/
def name : Tool → String
  | .scripted t => t.name
  | .spawnSubagent => spawnName

/-- The description of a tool. -/
def description : Tool → String
  | .scripted t => t.description
  | .spawnSubagent =>
    "Start a background sub-agent for a long-running, self-contained task. " ++
    "Returns immediately with a task id; the result is sent to this chat " ++
    "when the sub-agent finishes."

/-- The JSON schema of a tool's parameters. -/
def parameters : Tool → Json
  | .scripted t => t.schema
  | .spawnSubagent =>
    Json.object [("type", .str "object"),
      ("properties", Json.object [
        ("task", Json.object [("type", .str "string"),
          ("description", .str "What the sub-agent should do")]),
        ("label", Json.object [("type", .str "string"),
          ("description", .str "Short name shown when the result is delivered (optional)")])]),
      ("required", .arr [.str "task"])]

/-- The schema of a tool as offered to a model. -/
def schema (t : Tool) : Json :=
  Json.object [("name", .str t.name), ("description", .str t.description),
    ("parameters", t.parameters)]

end Tool

/-- **Tools by name,** in ascending order of names. -/
structure ToolRegistry where
  tools : List Tool := []
  deriving Repr

namespace ToolRegistry

/-- Inserts a tool in name order, replacing a tool of the same name. -/
def insertTool (t : Tool) : List Tool → List Tool
  | [] => [t]
  | u :: rest =>
    if t.name = u.name then t :: rest
    else if t.name < u.name then t :: u :: rest
    else u :: insertTool t rest

/-- Adds a tool, replacing one of the same name. -/
def register (r : ToolRegistry) (t : Tool) : ToolRegistry := ⟨insertTool t r.tools⟩

/-- A registry of the given tools, later ones replacing earlier ones of the same name. -/
def ofList (ts : List Tool) : ToolRegistry := ts.foldl register {}

/-- Removes a tool; `true` when one was there. -/
def unregister (r : ToolRegistry) (n : String) : ToolRegistry × Bool :=
  (⟨r.tools.filter (·.name != n)⟩, r.tools.any (·.name == n))

/-- The tool of a name. -/
def get? (r : ToolRegistry) (n : String) : Option Tool := r.tools.find? (·.name == n)

/-- The registry without the tools of the given names. -/
def cloneWithout (r : ToolRegistry) (names : List String) : ToolRegistry :=
  ⟨r.tools.filter fun t => !names.contains t.name⟩

/-- The tool names, ascending. -/
def names (r : ToolRegistry) : List String := r.tools.map Tool.name

/-- The schemas offered to a model, in name order. -/
def schemas (r : ToolRegistry) : List Json := r.tools.map Tool.schema

/-- The number of tools. -/
def size (r : ToolRegistry) : Nat := r.tools.length

end ToolRegistry

end ChatGateway
