import ChatGateway.Yaml.Token

/-! # YAML events

Tokens are read into events: the starts and ends of the stream, of documents, of sequences
and of mappings, scalars, and aliases. The reader is a machine whose state says which part of
the grammar comes next, with a stack of the states to return to and a stack of the places
where the open collections began.

* A node is an alias, or an optional anchor and tag followed by a scalar or a collection;
  an anchor or tag alone makes an empty scalar.
* Where the grammar allows a node to be left out (a `-` or a key with nothing after it, a key
  without a value), an empty plain scalar stands for it, placed where the node would be.
* A block mapping's values and keys may hold a sequence whose `-` sit at the mapping's own
  indentation.
* An error names what was missing and, for a collection, where the collection began
  (`did not find expected key, while parsing a block mapping at line 1 column 1`).
-/

namespace ChatGateway

namespace Yaml

/-- **What an event says.** Anchors and tags (tags with their handles resolved) come with the
node they belong to. -/
inductive EventKind where
  | streamStart
  | streamEnd
  | documentStart
  | documentEnd
  | alias (name : String)
  | scalar (anchor : Option String) (tag : Option Tag) (text : String) (style : ScalarStyle)
  | sequenceStart (anchor : Option String) (tag : Option Tag)
  | sequenceEnd
  | mappingStart (anchor : Option String) (tag : Option Tag)
  | mappingEnd
  deriving Repr, Inhabited

/-- **An event** with the places it starts and ends at. -/
structure Event where
  kind : EventKind
  start : Mark
  stop : Mark
  deriving Repr, Inhabited

/-- **The part of the grammar that comes next.** -/
inductive Production where
  | streamStart
  | implicitDocumentStart
  | documentStart
  | documentContent
  | documentEnd
  | blockNode
  | blockNodeOrIndentless
  | flowNode
  | blockSequenceFirst
  | blockSequenceEntry
  | indentlessEntry
  | blockMappingFirst
  | blockMappingKey
  | blockMappingValue
  | flowSequenceFirst
  | flowSequenceEntry
  | flowPairKey
  | flowPairValue
  | flowPairEnd
  | flowMappingFirst
  | flowMappingKey
  | flowMappingValue
  | flowMappingEmptyValue
  | finished
  deriving Repr, Inhabited, DecidableEq

/-- **The state of reading events.** -/
structure EventReader where
  tokens : TokenReader
  state : Production
  /-- The states to return to, innermost first. -/
  states : List Production
  /-- Where the open collections began, innermost first. -/
  marks : List Mark
  /-- The tag handles of the current document and their prefixes. -/
  tagHandles : List (String × List UInt8)
  deriving Repr

/-- The empty plain scalar that stands for a node left out at a place. -/
def emptyScalar (m : Mark) : Event := ⟨.scalar none none "" .plain, m, m⟩

/-- The tag handles every document has. -/
def defaultTagHandles : List (String × List UInt8) :=
  [("!", "!".toUTF8.toList), ("!!", "tag:yaml.org,2002:".toUTF8.toList)]

namespace EventReader

/-- A reader at the start of a text. -/
def ofText (text : String) : EventReader := ⟨TokenReader.ofText text, .streamStart, [], [], []⟩

/-- The next token. -/
def peek (p : EventReader) : Except YamlError (Token × EventReader) :=
  p.tokens.peekToken.map fun (t, s) => (t, { p with tokens := s })

/-- Takes the next token. -/
def skip (p : EventReader) : EventReader := { p with tokens := p.tokens.skipToken }

/-- Remembers a state to return to. -/
def push (p : EventReader) (st : Production) : EventReader := { p with states := st :: p.states }

/-- Returns to the last remembered state. -/
def pop (p : EventReader) : EventReader :=
  { p with state := p.states.headD .finished, states := p.states.tail }

/-- Where the innermost open collection began. -/
def openMark (p : EventReader) : Mark := p.marks.headD default

/-- Closes the innermost open collection. -/
def closeMark (p : EventReader) : EventReader := { p with marks := p.marks.tail }

/-- A problem at a place. -/
def failAt {α : Type} (problem : String) (m : Mark) : Except YamlError α :=
  .error ⟨problem, m, none, 0⟩

/-- A problem at a place while reading something that began at `start`. -/
def failIn {α : Type} (context : String) (start : Mark) (problem : String) (m : Mark) :
    Except YamlError α :=
  .error ⟨problem, m, some (context, start), 0⟩

/-- The directives before a document: at most one `%YAML 1.1` or `%YAML 1.2`, and `%TAG`
handles defined once each; the default handles are added after them. -/
def directives : Nat → Bool → EventReader → Except YamlError EventReader
  | 0, _, p => .ok { p with tagHandles := p.tagHandles ++ defaultTagHandles }
  | fuel + 1, seen, p => do
    let (t, p) ← p.peek
    match t.kind with
    | .versionDirective major minor =>
      if seen then failAt "found duplicate %YAML directive" t.start
      else if major != 1 || (minor != 1 && minor != 2) then
        failAt "found incompatible YAML document" t.start
      else directives fuel true p.skip
    | .tagDirective handle pfx =>
      if (p.tagHandles.lookup handle).isSome then failAt "found duplicate %TAG directive" t.start
      else directives fuel seen { p.skip with tagHandles := p.tagHandles ++ [(handle, pfx)] }
    | _ => .ok { p with tagHandles := p.tagHandles ++ defaultTagHandles }

/-- Skips the `...` markers between documents. -/
def skipDocumentEnds : Nat → EventReader → Except YamlError (Token × EventReader)
  | 0, p => p.peek
  | fuel + 1, p => do
    let (t, p) ← p.peek
    if t.kind == .documentEnd then skipDocumentEnds fuel p.skip else pure (t, p)

/-- Whether a token begins or ends a document. -/
def bordersDocument (k : TokenKind) : Bool :=
  match k with
  | .versionDirective .. | .tagDirective .. | .documentStart | .documentEnd | .streamEnd => true
  | _ => false

/-- **The start of a document,** or the end of the stream. The first document may begin
without `---` when no directive comes before it. -/
def documentStart (p : EventReader) (implicit : Bool) :
    Except YamlError (Event × EventReader) := do
  let (t, p) ← if implicit then p.peek else skipDocumentEnds (p.tokens.left + 1) p
  match implicit, t.kind with
  | _, .streamEnd => pure (⟨.streamEnd, t.start, t.stop⟩, { p.skip with state := .finished })
  | true, k =>
    if bordersDocument k && k != .documentEnd then
      let start := t.start
      let p ← directives (p.tokens.left + 1) false p
      let (t, p) ← p.peek
      if t.kind != .documentStart then failAt "did not find expected <document start>" t.start
      else
        pure (⟨.documentStart, start, t.stop⟩,
          { (p.push .documentEnd).skip with state := .documentContent })
    else
      let p := { p with tagHandles := p.tagHandles ++ defaultTagHandles }
      pure (⟨.documentStart, t.start, t.start⟩,
        { (p.push .documentEnd) with state := .blockNode })
  | false, _ =>
    let start := t.start
    let p ← directives (p.tokens.left + 1) false p
    let (t, p) ← p.peek
    if t.kind != .documentStart then failAt "did not find expected <document start>" t.start
    else
      pure (⟨.documentStart, start, t.stop⟩,
        { (p.push .documentEnd).skip with state := .documentContent })

/-- The end of a document, with or without `...`. -/
def documentEnd (p : EventReader) : Except YamlError (Event × EventReader) := do
  let (t, p) ← p.peek
  let (stop, p) := if t.kind == .documentEnd then (t.stop, p.skip) else (t.start, p)
  pure (⟨.documentEnd, t.start, stop⟩, { p with state := .documentStart, tagHandles := [] })

/-- The anchor and tag before a node, in either order: the anchor, the tag's handle and
suffix, where the tag is, where the properties end, and the token after them. -/
def properties (p : EventReader) (t : Token) :
    Except YamlError
      ((Option String × Option (String × List UInt8) × Mark × Mark) × Token × EventReader) := do
  match t.kind with
  | .anchor a =>
    let (t2, p) ← p.skip.peek
    match t2.kind with
    | .tag h s =>
      let (t3, p) ← p.skip.peek
      pure ((some a, some (h, s), t2.start, t2.stop), t3, p)
    | _ => pure ((some a, none, t.start, t.stop), t2, p)
  | .tag h s =>
    let (t2, p) ← p.skip.peek
    match t2.kind with
    | .anchor a =>
      let (t3, p) ← p.skip.peek
      pure ((some a, some (h, s), t.start, t2.stop), t3, p)
    | _ => pure ((none, some (h, s), t.start, t.stop), t2, p)
  | _ => pure ((none, none, t.start, t.start), t, p)

/-- **A node.** In block context it may be a block collection; where `indentless` allows it, a
sequence whose entries sit at the indentation of the mapping around it. -/
def node (p : EventReader) (block indentless : Bool) : Except YamlError (Event × EventReader) := do
  let (t, p) ← p.peek
  if let .alias name := t.kind then
    return (⟨.alias name, t.start, t.stop⟩, p.pop.skip)
  let start := t.start
  let ((anchor, tagParts, tagMark, stop), t, p) ← p.properties t
  let tag ← match tagParts with
    | none => pure none
    | some ("", suffix) => pure (some (Tag.ofBytes suffix))
    | some (handle, suffix) =>
      match p.tagHandles.lookup handle with
      | some pfx => pure (some (Tag.ofBytes (pfx ++ suffix)))
      | none => failIn "while parsing a node" start "found undefined tag handle" tagMark
  if indentless && t.kind == .blockEntry then
    return (⟨.sequenceStart anchor tag, start, t.stop⟩, { p with state := .indentlessEntry })
  match t.kind with
  | .scalar text style => return (⟨.scalar anchor tag text style, start, t.stop⟩, p.pop.skip)
  | .flowSequenceStart =>
    return (⟨.sequenceStart anchor tag, start, t.stop⟩, { p with state := .flowSequenceFirst })
  | .flowMappingStart =>
    return (⟨.mappingStart anchor tag, start, t.stop⟩, { p with state := .flowMappingFirst })
  | .blockSequenceStart =>
    if block then
      return (⟨.sequenceStart anchor tag, start, t.stop⟩,
        { p with state := .blockSequenceFirst })
  | .blockMappingStart =>
    if block then
      return (⟨.mappingStart anchor tag, start, t.stop⟩, { p with state := .blockMappingFirst })
  | _ => pure ()
  if anchor.isSome || tag.isSome then
    return (⟨.scalar anchor tag "" .plain, start, stop⟩, p.pop)
  failIn (if block then "while parsing a block node" else "while parsing a flow node") start
    "did not find expected node content" t.start

/-- Opens a collection at its start token. -/
def openCollection (p : EventReader) : Except YamlError EventReader := do
  let (t, p) ← p.peek
  pure { p.skip with marks := t.start :: p.marks }

/-- An entry of a block sequence, or its end. -/
def blockSequenceEntry (p : EventReader) : Except YamlError (Event × EventReader) := do
  let (t, p) ← p.peek
  if t.kind == .blockEntry then
    let m := t.stop
    let (t, p) ← p.skip.peek
    if t.kind != .blockEntry && t.kind != .blockEnd then
      (p.push .blockSequenceEntry).node true false
    else pure (emptyScalar m, { p with state := .blockSequenceEntry })
  else if t.kind == .blockEnd then
    pure (⟨.sequenceEnd, t.start, t.stop⟩, p.pop.closeMark.skip)
  else
    failIn "while parsing a block collection" p.openMark
      "did not find expected '-' indicator" t.start

/-- An entry of a sequence without indentation, or its end. -/
def indentlessEntry (p : EventReader) : Except YamlError (Event × EventReader) := do
  let (t, p) ← p.peek
  if t.kind == .blockEntry then
    let m := t.stop
    let (t, p) ← p.skip.peek
    if t.kind != .blockEntry && t.kind != .key && t.kind != .value && t.kind != .blockEnd then
      (p.push .indentlessEntry).node true false
    else pure (emptyScalar m, { p with state := .indentlessEntry })
  else pure (⟨.sequenceEnd, t.start, t.start⟩, p.pop)

/-- A key of a block mapping, or its end. -/
def blockMappingKey (p : EventReader) : Except YamlError (Event × EventReader) := do
  let (t, p) ← p.peek
  if t.kind == .key then
    let m := t.stop
    let (t, p) ← p.skip.peek
    if t.kind != .key && t.kind != .value && t.kind != .blockEnd then
      (p.push .blockMappingValue).node true true
    else pure (emptyScalar m, { p with state := .blockMappingValue })
  else if t.kind == .blockEnd then
    pure (⟨.mappingEnd, t.start, t.stop⟩, p.pop.closeMark.skip)
  else failIn "while parsing a block mapping" p.openMark "did not find expected key" t.start

/-- A value of a block mapping, empty when its `:` is missing. -/
def blockMappingValue (p : EventReader) : Except YamlError (Event × EventReader) := do
  let (t, p) ← p.peek
  if t.kind == .value then
    let m := t.stop
    let (t, p) ← p.skip.peek
    if t.kind != .key && t.kind != .value && t.kind != .blockEnd then
      (p.push .blockMappingKey).node true true
    else pure (emptyScalar m, { p with state := .blockMappingKey })
  else pure (emptyScalar t.start, { p with state := .blockMappingKey })

/-- An entry of a flow sequence after its separator, or its end; a `?` entry is a mapping of
one pair. -/
def flowSequenceEntry (p : EventReader) (first : Bool) : Except YamlError (Event × EventReader) :=
  do
  let (t, p) ← p.peek
  let (t, p) ←
    if t.kind == .flowSequenceEnd || first then pure (t, p)
    else if t.kind == .flowEntry then p.skip.peek
    else
      failIn "while parsing a flow sequence" p.openMark "did not find expected ',' or ']'" t.start
  if t.kind == .key then
    pure (⟨.mappingStart none none, t.start, t.stop⟩, { p.skip with state := .flowPairKey })
  else if t.kind != .flowSequenceEnd then (p.push .flowSequenceEntry).node false false
  else pure (⟨.sequenceEnd, t.start, t.stop⟩, p.pop.closeMark.skip)

/-- The key of a pair in a flow sequence, its `?` taken. A key left out is an empty scalar, and
the token after the `?` (a `:`, a `,` or the closing `]`) is taken with it, so that `[? , y]`
lacks a separator before `y`. -/
def flowPairKey (p : EventReader) : Except YamlError (Event × EventReader) := do
  let (t, p) ← p.peek
  if t.kind != .value && t.kind != .flowEntry && t.kind != .flowSequenceEnd then
    (p.push .flowPairValue).node false false
  else pure (emptyScalar t.stop, { p.skip with state := .flowPairValue })

/-- The value of a pair in a flow sequence. -/
def flowPairValue (p : EventReader) : Except YamlError (Event × EventReader) := do
  let (t, p) ← p.peek
  if t.kind == .value then
    let m := t.stop
    let (t, p) ← p.skip.peek
    if t.kind != .flowEntry && t.kind != .flowSequenceEnd then
      (p.push .flowPairEnd).node false false
    else pure (emptyScalar m, { p with state := .flowPairEnd })
  else pure (emptyScalar t.start, { p with state := .flowPairEnd })

/-- The end of a pair in a flow sequence. -/
def flowPairEnd (p : EventReader) : Except YamlError (Event × EventReader) := do
  let (t, p) ← p.peek
  pure (⟨.mappingEnd, t.start, t.start⟩, { p with state := .flowSequenceEntry })

/-- A key of a flow mapping after its separator, or its end. -/
def flowMappingKey (p : EventReader) (first : Bool) : Except YamlError (Event × EventReader) := do
  let (t, p) ← p.peek
  let (t, p) ←
    if t.kind == .flowMappingEnd || first then pure (t, p)
    else if t.kind == .flowEntry then p.skip.peek
    else
      failIn "while parsing a flow mapping" p.openMark "did not find expected ',' or '\x7d'" t.start
  if t.kind == .key then
    let m := t.stop
    let (t, p) ← p.skip.peek
    if t.kind != .value && t.kind != .flowEntry && t.kind != .flowMappingEnd then
      (p.push .flowMappingValue).node false false
    else pure (emptyScalar m, { p with state := .flowMappingValue })
  else if t.kind != .flowMappingEnd then (p.push .flowMappingEmptyValue).node false false
  else pure (⟨.mappingEnd, t.start, t.stop⟩, p.pop.closeMark.skip)

/-- A value of a flow mapping, empty when its `:` is missing. -/
def flowMappingValue (p : EventReader) : Except YamlError (Event × EventReader) := do
  let (t, p) ← p.peek
  if t.kind == .value then
    let m := t.stop
    let (t, p) ← p.skip.peek
    if t.kind != .flowEntry && t.kind != .flowMappingEnd then
      (p.push .flowMappingKey).node false false
    else pure (emptyScalar m, { p with state := .flowMappingKey })
  else pure (emptyScalar t.start, { p with state := .flowMappingKey })

/-- **The next event.** -/
def next (p : EventReader) : Except YamlError (Event × EventReader) :=
  match p.state with
  | .streamStart => do
    let (t, p) ← p.peek
    if t.kind == .streamStart then
      pure (⟨.streamStart, t.start, t.stop⟩, { p.skip with state := .implicitDocumentStart })
    else failAt "did not find expected <stream-start>" t.start
  | .implicitDocumentStart => p.documentStart true
  | .documentStart => p.documentStart false
  | .documentContent => do
    let (t, p) ← p.peek
    if bordersDocument t.kind then pure (emptyScalar t.start, p.pop) else p.node true false
  | .documentEnd => p.documentEnd
  | .blockNode => p.node true false
  | .blockNodeOrIndentless => p.node true true
  | .flowNode => p.node false false
  | .blockSequenceFirst => do (← p.openCollection).blockSequenceEntry
  | .blockSequenceEntry => p.blockSequenceEntry
  | .indentlessEntry => p.indentlessEntry
  | .blockMappingFirst => do (← p.openCollection).blockMappingKey
  | .blockMappingKey => p.blockMappingKey
  | .blockMappingValue => p.blockMappingValue
  | .flowSequenceFirst => do (← p.openCollection).flowSequenceEntry true
  | .flowSequenceEntry => p.flowSequenceEntry false
  | .flowPairKey => p.flowPairKey
  | .flowPairValue => p.flowPairValue
  | .flowPairEnd => p.flowPairEnd
  | .flowMappingFirst => do (← p.openCollection).flowMappingKey true
  | .flowMappingKey => p.flowMappingKey false
  | .flowMappingValue => p.flowMappingValue
  | .flowMappingEmptyValue => do
    let (t, p) ← p.peek
    pure (emptyScalar t.start, { p with state := .flowMappingKey })
  | .finished => do
    let (t, p) ← p.peek
    pure (⟨.streamEnd, t.start, t.stop⟩, p)

end EventReader

end Yaml

end ChatGateway
