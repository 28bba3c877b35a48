import ChatGateway.Message.Codec

/-! # Engine replies and scripted engines

A reasoning engine answers an inbound message with an `EngineReply`: text, attachments and
metadata. An `EngineScript` stands in for an engine: it picks an `EngineStep` by the content of
the message, falls back to a default step, and without one echoes the content after
`You said: `.

* `EngineStep.ofJson` reads a step leniently: `reply` keeps its attachments as JSON, to be read
  when the step runs, so that a bad list fails that call and nothing else.
* `EngineReply.toJson` writes `{text, media, metadata}`.
-/

namespace ChatGateway

/-- **The answer of a reasoning engine.** -/
structure EngineReply where
  text : String
  media : List Attachment := []
  metadata : Metadata := []
  deriving Repr

/-- The JSON object of a reply. -/
def EngineReply.toJson (r : EngineReply) : Json :=
  Json.object [("text", .str r.text), ("media", .arr (r.media.map Attachment.toJson)),
    ("metadata", .obj r.metadata)]

/-- **What a scripted engine does with a message,** after its delay. -/
inductive EngineAction where
  /-- Fails with a message. -/
  | fail (message : String)
  /-- Panics with a message. -/
  | panic (message : String)
  /-- Answers with fixed text, attachments (as JSON) and metadata. -/
  | reply (text : String) (media : Option Json) (metadata : Metadata)
  /-- Answers with the message's content after a prefix. -/
  | echo (pre : String)
  deriving Repr

/-- **A scripted engine step:** its action and its delay. -/
structure EngineStep where
  action : EngineAction
  delayMs : Nat := 0
  deriving Repr

namespace EngineStep

/-- The step of an engine without a script: echo after `You said: `. -/
def standard : EngineStep := { action := .echo "You said: " }

/-- **Reads a step;** an unknown kind echoes. -/
def ofJson (j : Json) : EngineStep :=
  let text (k : String) : String := ((j.get? k).bind Json.str?).getD ""
  let action : EngineAction :=
    match (j.get? "kind").bind Json.str? with
    | some "error" => .fail (text "message")
    | some "panic" => .panic (text "message")
    | some "reply" => .reply (text "text") (j.get? "media")
        (((j.get? "metadata").bind Json.fields?).getD [])
    | _ => .echo (text "prefix")
  { action, delayMs := ((j.get? "delay_ms").bind Json.nat?).getD 0 }

/-- **What the step answers to a message:** a reply, an error, or a panic message. -/
def answer (s : EngineStep) (m : InboundMessage) : Except String (Except String EngineReply) :=
  match s.action with
  | .fail e => .ok (.error e)
  | .panic p => .error p
  | .echo pre => .ok (.ok { text := pre ++ m.content })
  | .reply text media metadata =>
    match media with
    | none => .ok (.ok { text, metadata })
    | some j =>
      match Decoder.list Attachment.decode j with
      | .ok media => .ok (.ok { text, media, metadata })
      | .error e => .ok (.error e.text)

end EngineStep

/-- **A scripted engine:** steps by message content and a default step. -/
structure EngineScript where
  byContent : List (String × EngineStep) := []
  fallback : Option EngineStep := none
  deriving Repr

namespace EngineScript

/-- **Reads a scripted engine.** -/
def ofJson (j : Json) : EngineScript :=
  { byContent := (((j.get? "by_content").bind Json.fields?).getD []).map
      fun (k, v) => (k, EngineStep.ofJson v)
    fallback := (j.get? "default").map EngineStep.ofJson }

/-- **The step that handles a message content.** -/
def stepFor (e : EngineScript) (content : String) : EngineStep :=
  match e.byContent.find? (·.1 == content) with
  | some (_, s) => s
  | none => e.fallback.getD EngineStep.standard

end EngineScript

end ChatGateway
