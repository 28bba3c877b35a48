import ChatGateway.Yaml.Event

/-! # A loaded YAML document

A document is loaded as the list of its events, each with the place it starts at, ready to
be read against a shape.

* An anchor gets a number when it is defined (the count of distinct anchor names so far), and
  the document remembers at which event each number's node starts; an alias becomes a jump to
  that event. An alias to an anchor not yet defined is the error `unknown anchor`.
* A stream with no document at all loads as one document of a single *void* event.
* When the text has an error, the events before it are kept with the error: a reader that
  needs no event past them may still succeed, but the error is reported then.
-/

namespace ChatGateway

namespace Yaml

/-- **An event of a loaded document.** -/
inductive Item where
  /-- A jump to the node of the anchor numbered `target`. -/
  | alias (target : Nat)
  | scalar (tag : Option Tag) (text : String) (style : ScalarStyle)
  | sequenceStart (tag : Option Tag)
  | sequenceEnd
  | mappingStart (tag : Option Tag)
  | mappingEnd
  /-- The only event of an empty stream. -/
  | void
  deriving Repr, Inhabited

/-- **Why YAML text could not be read as a value.** -/
inductive YamlFailure where
  /-- The text is not YAML. -/
  | malformed (e : YamlError)
  | unknownAnchor (m : Mark)
  /-- The events ended where a value was needed. -/
  | endOfStream
  /-- Aliases were followed more often than a hundred times the number of events. -/
  | repetitionLimit
  | moreThanOneDocument
  /-- A value of the wrong shape, once known with its place and path. -/
  | message (text : String) (place : Option (Mark × String))
  deriving Repr

namespace YamlFailure

/-- ` at line L column C` after a failure, unless the place is the start of the text. -/
def placeSuffix (m : Mark) : String := if m.isOrigin then "" else " at " ++ m.text

/-- The words of a failure: `path: message at line L column C`, the path left out at the
root. -/
def text : YamlFailure → String
  | .malformed e => e.text
  | .unknownAnchor m => "unknown anchor" ++ placeSuffix m
  | .endOfStream => "EOF while parsing a value"
  | .repetitionLimit => "repetition limit exceeded"
  | .moreThanOneDocument =>
    "deserializing from YAML containing more than one document is not supported"
  | .message t none => t
  | .message t (some (m, path)) => (if path = "." then "" else path ++ ": ") ++ t ++ placeSuffix m

end YamlFailure

/-- **A loaded document:** its events with their places, the error that ended it early if
any, and the event at which each anchor's node starts. -/
structure Document where
  items : Array (Item × Mark)
  failure : Option YamlFailure
  anchors : List (Nat × Nat)
  deriving Repr

namespace Document

/-- The document of no events. -/
def empty : Document := ⟨#[], none, []⟩

/-- Sets the value of a key in an association list, keeping the key's first place. -/
def setKey {κ : Type} [BEq κ] (k : κ) (v : Nat) (l : List (κ × Nat)) : List (κ × Nat) :=
  if l.any (·.1 == k) then l.map fun (k', v') => if k' == k then (k', v) else (k', v')
  else l ++ [(k, v)]

/-- Adds an event. -/
def add (d : Document) (it : Item) (m : Mark) : Document := { d with items := d.items.push (it, m) }

/-- Defines an anchor at the next event; `names` numbers the anchor names seen so far. -/
def define (d : Document) (names : List (String × Nat)) : Option String →
    List (String × Nat) × Document
  | none => (names, d)
  | some a =>
    let id := names.length
    (setKey a id names, { d with anchors := setKey id d.items.size d.anchors })

/-- The event a jump to anchor number `target` goes to. -/
def anchorItem (d : Document) (target : Nat) : Nat := (d.anchors.lookup target).getD d.items.size

end Document

/-- **Loads the next document** from an event reader: the document (none when the stream ends
and this is not the first) and the reader after it, when the stream goes on. -/
def loadDocument (first : Bool) : Nat → EventReader → List (String × Nat) → Document →
    Option Document × Option EventReader
  | 0, _, _, d => (some d, none)
  | fuel + 1, p, names, d =>
    match p.next with
    | .error e => (some { d with failure := some (.malformed e) }, none)
    | .ok (ev, p) =>
      let m := ev.start
      match ev.kind with
      | .streamStart | .documentStart => loadDocument first fuel p names d
      | .streamEnd =>
        if first then (some (if d.items.isEmpty then d.add .void m else d), none) else (none, none)
      | .documentEnd => (some d, some p)
      | .alias name =>
        match names.lookup name with
        | some id => loadDocument first fuel p names (d.add (.alias id) m)
        | none => (some { d with failure := some (.unknownAnchor m) }, none)
      | .scalar a tag text style =>
        let (names, d) := d.define names a
        loadDocument first fuel p names (d.add (.scalar tag text style) m)
      | .sequenceStart a tag =>
        let (names, d) := d.define names a
        loadDocument first fuel p names (d.add (.sequenceStart tag) m)
      | .sequenceEnd => loadDocument first fuel p names (d.add .sequenceEnd m)
      | .mappingStart a tag =>
        let (names, d) := d.define names a
        loadDocument first fuel p names (d.add (.mappingStart tag) m)
      | .mappingEnd => loadDocument first fuel p names (d.add .mappingEnd m)

/-- The first character of a text that YAML refuses outright, as an error at its byte offset. -/
def refusedCharacter (text : String) : Option YamlError :=
  let rec go : List Char → Nat → Option YamlError
    | [], _ => none
    | c :: rest, offset =>
      if isPrintable c then go rest (offset + c.utf8Size)
      else some ⟨"control characters are not allowed", default, none, offset⟩
  go text.toList 0

/-- **The first document of a text,** and the reader after it. A text with a refused character
loads as a document of no events with that error. -/
def Document.ofText (text : String) : Document × Option EventReader :=
  match refusedCharacter text with
  | some e => ({ Document.empty with failure := some (.malformed e) }, none)
  | none =>
    let (d, rest) :=
      loadDocument true (4 * text.length + 16) (EventReader.ofText text) [] Document.empty
    (d.getD Document.empty, rest)

/-- Whether the text goes on with another document after the first (an error in it counts). -/
def hasMoreDocuments (text : String) : Option EventReader → Bool
  | none => false
  | some p => (loadDocument false (4 * text.length + 16) p [] Document.empty).1.isSome

end Yaml

end ChatGateway
