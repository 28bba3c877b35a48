import ChatGateway.Yaml.Document
import ChatGateway.Yaml.Scalar
import ChatGateway.Config.Shape

/-! # Reading settings from a YAML document

The events of a document are read against the shape of the settings, one value at a time from
a position in the events. An error is shown with the path of the value and its place:

```
heartbeat.deliver_to: missing field `chat_id` at line 3 column 5
subagents.max_iterations: invalid type: unit value, expected usize at line 2 column 19
```

* A string is read from any scalar, as written (`42` gives `"42"`), whatever its tag.
* A boolean or a count is read from a plain scalar that spells one (`true`, `0x1f`), whatever
  its tag, or from a literal block scalar tagged with the kind's own tag (`!!int |`). Anything
  else is of the wrong type, and the error says what the node stands for by its tag:
  `!!int "12"` is `integer `12``, `!!bool 'true'` is `boolean `true``.
* An enumeration is read from a scalar naming its variant, or from a node whose local tag names
  it (`!per_chat`), the node then holding nothing (empty or null). A variant named by a tag that
  does not exist is reported at the enclosing value.
* An optional value is absent for an empty or null plain scalar.
* A sequence, map or record may also be read from an empty plain scalar, as an empty one.
* A record takes the fields it knows, skips the others, and refuses a field given twice; a map
  keeps the last value of a key given twice.
* An alias is read as the node of its anchor; the path does not change. Following aliases more
  than a hundred times the number of events in all is the error `repetition limit exceeded`.
-/

namespace ChatGateway

namespace Yaml

/-- **Where a value is in the document,** as errors name it. -/
inductive Path where
  | root
  | seq (parent : Path) (index : Nat)
  | map (parent : Path) (key : String)
  | alias (parent : Path)
  | unknown (parent : Path)
  deriving Repr, Inhabited

/-- The text of a path: `.` for the root, keys joined by `.`, indices in brackets, and `?` for
a key that is not a scalar. -/
def Path.text : Path → String
  | .root => "."
  | .seq p i => p.text ++ "[" ++ toString i ++ "]"
  | .map p k => (match p with | .root => "" | _ => p.text ++ ".") ++ k
  | .alias p => p.text
  | .unknown p => (match p with | .root => "" | _ => p.text ++ ".") ++ "?"

/-- **A place in the reading of a document:** the position of the next event, and how many
times aliases have been followed so far. -/
structure Cursor where
  pos : Nat
  jumps : Nat
  deriving Repr

/-- The cursor past the current event. -/
def Cursor.next (c : Cursor) : Cursor := { c with pos := c.pos + 1 }

/-- A shape error, not yet placed. -/
def misfit {α : Type} (e : DecodeError) : Except YamlFailure α := .error (.message e.text none)

/-- Places an error that has no place yet at `m`, with path `path`. -/
def placed {α : Type} (m : Mark) (path : Path) (r : Except YamlFailure α) :
    Except YamlFailure α :=
  r.mapError fun
    | .message t none => .message t (some (m, path.text))
    | e => e

/-- The event at a position; past the end, the error that ended the document early. -/
def Document.itemAt (d : Document) (pos : Nat) : Except YamlFailure (Item × Mark) :=
  match d.items[pos]? with
  | some x => .ok x
  | none => .error (d.failure.getD .endOfStream)

/-- **Follows an alias** to the node of anchor number `target`, counting the jump: a hundred
jumps per event of the document are allowed in all. -/
def Document.jump (d : Document) (c : Cursor) (target : Nat) : Except YamlFailure Cursor :=
  if c.jumps + 1 > d.items.size * 100 then .error .repetitionLimit
  else .ok ⟨d.anchorItem target, c.jumps + 1⟩

/-- The variant a local tag names: the tag without its `!`, or `!` itself for the bare tag. A
tag that is not UTF-8 names none. -/
def variantTag : Option Tag → Option String
  | some (.text t) =>
    if t.startsWith "!" then
      let rest := (t.drop 1).toString
      some (if rest.isEmpty then t else rest)
    else none
  | _ => none

/-- The error for a node of the wrong kind, by what the node stands for. -/
def wrongKind {α : Type} (it : Item) (expected : String) : Except YamlFailure α :=
  match it with
  | .scalar tag s style =>
    match resolve tag s style with
    | .ok sc => misfit (.invalidType sc.unexpected expected)
    | .error e => misfit e
  | .sequenceStart _ => misfit (.invalidType .seq expected)
  | .mappingStart _ => misfit (.invalidType .map expected)
  | _ => .error .endOfStream

/-- Whether a scalar is empty and plain, which reads as an empty collection. -/
def Item.isBlank : Item → Bool
  | .scalar _ "" .plain => true
  | .void => true
  | _ => false

/-- The boolean or count a plain scalar spells, if it spells one. -/
def spelledValue (e : Expect) (s : String) : Option Json :=
  match e with
  | .flag => (boolOf s).map Json.bool
  | .count _ => (unsignedIn Expect.countMax s).map fun n => .num (.nat n.toNat)
  | _ => none

/-- Whether a scalar may spell a boolean or a count: a plain one, or a literal (`|`) one tagged
with the kind's own tag (`!!bool`, `!!int`). -/
def spellable (e : Expect) (tag : Option Tag) (style : ScalarStyle) : Bool :=
  let ownTag := match e with
    | .flag => some (coreTag "bool")
    | .count _ => some (coreTag "int")
    | _ => none
  style == .plain || (style == .literal && match tag, ownTag with
    | some (.text t), some own => t == own
    | _, _ => false)

/-- The nothing an enumeration's variant holds when its tag names it: an empty or null plain
scalar. -/
def unitContent (it : Item) : Except YamlFailure Unit :=
  match it with
  | .scalar _ s style =>
    if style == .plain && (s.isEmpty || isNullText s) then .ok ()
    else misfit (.invalidValue (.str s) "null")
  | .void => .ok ()
  | other => wrongKind other "unit"

/-- Skips one node, with everything inside it. -/
def skipNode (d : Document) : Nat → Nat → Nat → Except YamlFailure Nat
  | 0, _, pos => .ok pos
  | fuel + 1, depth, pos => do
    let (it, _) ← d.itemAt pos
    let depth := match it with
      | .sequenceStart _ | .mappingStart _ => depth + 1
      | .sequenceEnd | .mappingEnd => depth - 1
      | _ => depth
    if depth == 0 then pure (pos + 1) else skipNode d fuel depth (pos + 1)

/-- A key as a string, at a position: any scalar, or an alias of one. -/
def readKey (d : Document) (path : Path) (expected : String) :
    Nat → Cursor → Except YamlFailure (String × Cursor)
  | 0, c => .ok ("", c)
  | fuel + 1, c => do
    let (it, m) ← d.itemAt c.pos
    match it with
    | .scalar _ s _ => pure (s, c.next)
    | .alias target => do
      let there ← d.jump c target
      let (s, after) ← placed m path (readKey d (.alias path) expected fuel there)
      pure (s, { c with jumps := after.jumps }.next)
    | other => placed m path (wrongKind other expected)

/-- The path of the value whose key is the event at a position. -/
def valuePath (d : Document) (path : Path) (pos : Nat) : Path :=
  match d.items[pos]? with
  | some (.scalar _ s _, _) => .map path s
  | _ => .unknown path

/-- The first field a record lacks that it may not lack. -/
def missingField (fields : List (String × Expect)) (defaulted : Bool)
    (acc : List (String × Json)) : Option String :=
  if defaulted then none
  else (fields.find? fun (name, e) =>
    match e with
    | .optional _ => false
    | _ => (Json.lookupField name acc).isNone).map (·.1)

/-- An enumeration's variant named by a tag: refused unnamed, read from the tagged node. -/
def taggedVariant (variants : List String) (name : String) (m : Mark) (path : Path)
    (it : Item) (c : Cursor) : Except YamlFailure (Json × Cursor) :=
  if variants.contains name then
    placed m path ((unitContent it).map fun _ => (.str name, c.next))
  else misfit (.unknownVariant name variants)

mutual

/-- **Reads the value of shape `e` at a cursor.** -/
def readValue (d : Document) : Nat → Path → Expect → Cursor → Except YamlFailure (Json × Cursor)
  | 0, _, _, c => .ok (.null, c)
  | fuel + 1, path, e, c => do
    let (it, m) ← d.itemAt c.pos
    if let .alias target := it then
      let there ← d.jump c target
      let (j, after) ← placed m path (readValue d fuel (.alias path) e there)
      return (j, { c with jumps := after.jumps }.next)
    match e with
    | .text =>
      match it with
      | .scalar _ s _ => pure (.str s, c.next)
      | other => placed m path (wrongKind other e.expecting)
    | .flag | .count _ =>
      placed m path <| match it with
        | .scalar tag s style =>
          match (if spellable e tag style then spelledValue e s else none) with
          | some j => .ok (j, c.next)
          | none => wrongKind it e.expecting
        | .sequenceStart _ | .mappingStart _ => wrongKind it e.expecting
        | _ => .error .endOfStream
    | .optional inner =>
      match it with
      | .scalar tag s style =>
        let present : Except YamlFailure Bool :=
          if style != .plain then .ok true
          else match tag with
            | some (.text t) =>
              if t = coreTag "null" then
                if isNullText s then .ok false else misfit (.invalidValue (.str s) "null")
              else .ok true
            | some (.bytes _) => .ok true
            | none => .ok (!s.isEmpty && !isNullText s)
        if ← present then readValue d fuel path inner c else pure (.null, c.next)
      | .void => pure (.null, c.next)
      | _ => readValue d fuel path inner c
    | .choice _ variants =>
      match it with
      | .scalar tag s _ =>
        match variantTag tag with
        | some name => taggedVariant variants name m path it c
        | none =>
          placed m path <|
            if variants.contains s then .ok (.str s, c.next)
            else misfit (.unknownVariant s variants)
      | .mappingStart tag | .sequenceStart tag =>
        match variantTag tag with
        | some name => taggedVariant variants name m path it c
        | none =>
          placed m path (wrongKind it "a YAML tag starting with '!'")
      | _ => .error .endOfStream
    | .list item =>
      placed m path <| match it with
        | .sequenceStart _ => do
          let (items, c) ← readItems d fuel path item 0 c.next []
          pure (.arr items, c.next)
        | other => if other.isBlank then .ok (.arr [], c.next) else wrongKind other e.expecting
    | .dict item =>
      placed m path <| match it with
        | .mappingStart _ => do
          let (entries, c) ← readEntries d fuel path item c.next []
          pure (.obj entries, c.next)
        | other => if other.isBlank then .ok (.obj [], c.next) else wrongKind other e.expecting
    | .record _ fields defaulted =>
      placed m path <| match it with
        | .mappingStart _ => readFields d fuel path fields defaulted c.next []
        | other =>
          if other.isBlank then
            match missingField fields defaulted [] with
            | some name => misfit (.missingField name)
            | none => .ok (.obj [], c.next)
          else wrongKind other e.expecting

/-- The items of a sequence, up to its end. -/
def readItems (d : Document) :
    Nat → Path → Expect → Nat → Cursor → List Json → Except YamlFailure (List Json × Cursor)
  | 0, _, _, _, c, acc => .ok (acc, c)
  | fuel + 1, path, item, index, c, acc => do
    let (it, _) ← d.itemAt c.pos
    match it with
    | .sequenceEnd | .void => pure (acc, c)
    | _ =>
      let (j, c) ← readValue d fuel (.seq path index) item c
      readItems d fuel path item (index + 1) c (acc ++ [j])

/-- The entries of a map, up to its end; a key given again takes the later value. -/
def readEntries (d : Document) : Nat → Path → Expect → Cursor → List (String × Json) →
    Except YamlFailure (List (String × Json) × Cursor)
  | 0, _, _, c, acc => .ok (acc, c)
  | fuel + 1, path, item, c, acc => do
    let (it, _) ← d.itemAt c.pos
    match it with
    | .mappingEnd | .void => pure (acc, c)
    | _ =>
      let (k, next) ← readKey d path "a string" fuel c
      let (j, next) ← readValue d fuel (valuePath d path c.pos) item next
      readEntries d fuel path item next (Json.insertField k j acc)

/-- The fields of a record, up to the end of its mapping. -/
def readFields (d : Document) : Nat → Path → List (String × Expect) → Bool → Cursor →
    List (String × Json) → Except YamlFailure (Json × Cursor)
  | 0, _, _, _, c, acc => .ok (.obj acc, c)
  | fuel + 1, path, fields, defaulted, c, acc => do
    let (it, _) ← d.itemAt c.pos
    match it with
    | .mappingEnd | .void =>
      match missingField fields defaulted acc with
      | some name => misfit (.missingField name)
      | none => pure (.obj acc, c.next)
    | _ =>
      let (k, next) ← readKey d path "field identifier" fuel c
      match fields.lookup k with
      | some e =>
        if (Json.lookupField k acc).isSome then misfit (.custom ("duplicate field `" ++ k ++ "`"))
        else
          let (j, next) ← readValue d fuel (valuePath d path c.pos) e next
          readFields d fuel path fields defaulted next (acc ++ [(k, j)])
      | none =>
        let pos ← skipNode d d.items.size 0 next.pos
        readFields d fuel path fields defaulted { next with pos } acc

end

/-- **Reads a document of shape `e` from YAML text.** The text must hold one document, and an
error in the text is reported even when the value was read before it. -/
def read (e : Expect) (text : String) : Except String Json :=
  let (d, rest) := Document.ofText text
  match readValue d (8 * (d.items.size + 2)) .root e ⟨0, 0⟩ with
  | .error f => .error f.text
  | .ok (j, _) =>
    match d.failure with
    | some f => .error f.text
    | none =>
      if hasMoreDocuments text rest then .error YamlFailure.moreThanOneDocument.text else .ok j

end Yaml

end ChatGateway
