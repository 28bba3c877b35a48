/-! # YAML tokens

YAML text is read into tokens: indicators, scalars, anchors, tags, directives, and the starts
and ends of block collections that indentation implies.

* Places (`Mark`) count characters: an index from the start, a line and a column from zero.
* Indentation is tracked as a stack of columns: a deeper block collection pushes one and emits
  its start token; a shallower line pops them, emitting block ends.
* A *simple key* is a scalar, flow collection, alias or anchor that could turn out to be a
  mapping key once a `:` follows on the same line. Tokens are held back while one is possible;
  when the `:` comes, a key token (and, at a new indentation, a block mapping start) is put in
  before it. A simple key at the indentation of its block is required: a line that ends
  without its `:` is the error `could not find expected ':'`.
* Errors carry a problem with its place, and often what was being read with where that
  started.
-/

namespace ChatGateway

namespace Yaml

/-- **A place in the text:** characters from the start, and line and column from zero. -/
structure Mark where
  index : Nat
  line : Nat
  column : Nat
  deriving Repr, DecidableEq, Inhabited

namespace Mark

/-- Whether a place is the very start of its line and of the text. -/
def isOrigin (m : Mark) : Bool := m.line == 0 && m.column == 0

/-- A place as errors show it: `line L column C` from one, or `position N` at the origin. -/
def text (m : Mark) : String :=
  if m.isOrigin then "position " ++ toString m.index
  else "line " ++ toString (m.line + 1) ++ " column " ++ toString (m.column + 1)

end Mark

/-- **How a scalar was written.** -/
inductive ScalarStyle where
  | plain
  | singleQuoted
  | doubleQuoted
  | literal
  | folded
  deriving Repr, DecidableEq, Inhabited

/-- **A node's tag,** its handle resolved: its text, or its bytes when they are not UTF-8 (an
escape such as `%C0%80` can make them so). -/
inductive Tag where
  | text (s : String)
  | bytes (bs : List UInt8)
  deriving Repr, Inhabited

/-- The tag made of some bytes. -/
def Tag.ofBytes (bs : List UInt8) : Tag :=
  match String.fromUTF8? (ByteArray.mk bs.toArray) with
  | some s => .text s
  | none => .bytes bs

/-- **The kinds of tokens.** -/
inductive TokenKind where
  | streamStart
  | streamEnd
  /-- A `%YAML major.minor` directive. -/
  | versionDirective (major minor : Nat)
  /-- A `%TAG handle prefix` directive; the prefix is bytes, its escapes decoded. -/
  | tagDirective (handle : String) (pfx : List UInt8)
  | documentStart
  | documentEnd
  | blockSequenceStart
  | blockMappingStart
  | blockEnd
  | flowSequenceStart
  | flowSequenceEnd
  | flowMappingStart
  | flowMappingEnd
  | blockEntry
  | flowEntry
  | key
  | value
  | alias (name : String)
  | anchor (name : String)
  /-- A tag: its handle, and its suffix as bytes, escapes decoded. -/
  | tag (handle : String) (suffix : List UInt8)
  | scalar (text : String) (style : ScalarStyle)
  deriving Repr, Inhabited, BEq

/-- **A token** with the places it starts and ends at. -/
structure Token where
  kind : TokenKind
  start : Mark
  stop : Mark
  deriving Repr, Inhabited

/-- **An error in YAML text:** the problem and its place, what was being read and where it began,
and for a character the reader refused, its byte offset. -/
structure YamlError where
  problem : String
  mark : Mark
  context : Option (String × Mark)
  offset : Nat
  deriving Repr

namespace YamlError

/-- The words of an error: `problem at line L column C, context at line L' column C'`, the
context's place left out when it is the problem's. -/
def text (e : YamlError) : String :=
  let head := e.problem ++
    (if !e.mark.isOrigin then " at " ++ e.mark.text
     else if e.offset ≠ 0 then " at position " ++ toString e.offset else "")
  match e.context with
  | none => head
  | some (ctx, m) =>
    head ++ ", " ++ ctx ++
      (if !m.isOrigin && (m.line ≠ e.mark.line || m.column ≠ e.mark.column) then
        " at " ++ m.text
       else "")

end YamlError

/-! ## Characters -/

/-- The character standing for the end of the text. -/
def endChar : Char := Char.ofNat 0

/-- Whether a character breaks a line. -/
def isBreak (c : Char) : Bool :=
  c == '\r' || c == '\n' || c.toNat == 0x85 || c.toNat == 0x2028 || c.toNat == 0x2029

/-- Whether a character is a space or a tab. -/
def isBlank (c : Char) : Bool := c == ' ' || c == '\t'

/-- Whether a character breaks a line or ends the text. -/
def isBreakZ (c : Char) : Bool := isBreak c || c == endChar

/-- Whether a character is blank, breaks a line, or ends the text. -/
def isBlankZ (c : Char) : Bool := isBlank c || isBreakZ c

/-- Whether a character may stand in an anchor, a tag handle or a directive name. -/
def isWordChar (c : Char) : Bool := (c.toNat < 128 && c.isAlphanum) || c == '_' || c == '-'

/-- The value of a hexadecimal digit. -/
def hexValue (c : Char) : Option Nat :=
  if '0' ≤ c ∧ c ≤ '9' then some (c.toNat - 48)
  else if 'a' ≤ c ∧ c ≤ 'f' then some (c.toNat - 87)
  else if 'A' ≤ c ∧ c ≤ 'F' then some (c.toNat - 55)
  else none

/-- Whether a character may stand in YAML text at all. -/
def isPrintable (c : Char) : Bool :=
  let v := c.toNat
  v == 0x09 || v == 0x0A || v == 0x0D || (0x20 ≤ v && v ≤ 0x7E) || v == 0x85 ||
    (0xA0 ≤ v && v ≤ 0xD7FF) || (0xE000 ≤ v && v ≤ 0xFFFD) ||
    (0x10000 ≤ v && v ≤ 0x10FFFF)

/-! ## Reading tokens -/

/-- **A possible simple key:** whether it is still possible, whether it is required, the number
of the token it would be put before, and where it starts. -/
structure SimpleKey where
  possible : Bool
  required : Bool
  tokenNumber : Nat
  mark : Mark
  deriving Repr, Inhabited

/-- No simple key. -/
def SimpleKey.none : SimpleKey := ⟨false, false, 0, default⟩

/-- **The state of reading tokens.** -/
structure TokenReader where
  input : Array Char
  mark : Mark
  /-- Tokens scanned but not yet taken. -/
  queue : List Token
  /-- How many tokens were taken. -/
  parsed : Nat
  indent : Int
  indents : List Int
  simpleKeyAllowed : Bool
  /-- The possible simple key of each flow level, innermost first. -/
  simpleKeys : List SimpleKey
  flowLevel : Nat
  streamStartProduced : Bool
  streamEndProduced : Bool
  tokenAvailable : Bool
  /-- The offset in UTF-8 bytes of each character, and of the end. -/
  byteOffsets : Array Nat
  deriving Repr

namespace TokenReader

/-- The UTF-8 offsets of the characters of a text after `start` bytes, and of its end. -/
def utf8Offsets (start : Nat) : List Char → List Nat
  | [] => [start]
  | c :: rest => start :: utf8Offsets (start + c.utf8Size) rest

/-- A reader at the start of a text; a byte-order mark before it is not part of it, though it
counts in the byte offsets. -/
def ofText (text : String) : TokenReader :=
  let cs := text.toList
  let (cs, start) := if cs.head? == some (Char.ofNat 0xFEFF) then (cs.tail, 3) else (cs, 0)
  ⟨cs.toArray, ⟨0, 0, 0⟩, [], 0, -1, [], false, [], 0, false, false, false,
    (utf8Offsets start cs).toArray⟩

/-- The offset in UTF-8 bytes of a place. -/
def byteOffset (s : TokenReader) (m : Mark) : Nat := s.byteOffsets.getD m.index 0

/-- The character `k` places ahead. -/
def charAt (s : TokenReader) (k : Nat) : Char := s.input.getD (s.mark.index + k) endChar

/-- The current character. -/
def cur (s : TokenReader) : Char := s.charAt 0

/-- Whether the text is at its end. -/
def atEnd (s : TokenReader) : Bool := s.mark.index ≥ s.input.size

/-- How many characters are left. -/
def left (s : TokenReader) : Nat := s.input.size - s.mark.index

/-- Moves past one character of a line. -/
def skip (s : TokenReader) : TokenReader :=
  if s.atEnd then s else { s with mark := ⟨s.mark.index + 1, s.mark.line, s.mark.column + 1⟩ }

/-- Moves past a line break (a carriage return and line feed count as one). -/
def skipLine (s : TokenReader) : TokenReader :=
  if s.cur == '\r' && s.charAt 1 == '\n' then
    { s with mark := ⟨s.mark.index + 2, s.mark.line + 1, 0⟩ }
  else if isBreak s.cur then { s with mark := ⟨s.mark.index + 1, s.mark.line + 1, 0⟩ }
  else s

/-- Reads a line break: a line feed for `\r\n`, `\r`, `\n` and next-line, else the break itself. -/
def readLine (s : TokenReader) : Char × TokenReader :=
  let c := s.cur
  let kept := if c.toNat == 0x2028 || c.toNat == 0x2029 then c else '\n'
  (kept, s.skipLine)

/-- Moves past the characters that satisfy `p`. -/
def skipWhile (p : TokenReader → Bool) (s : TokenReader) : TokenReader :=
  let rec go : Nat → TokenReader → TokenReader
    | 0, s => s
    | n + 1, s => if !s.atEnd && p s then go n s.skip else s
  go (s.left + 1) s

/-- Reads the characters that satisfy `p`. -/
def readWhile (p : TokenReader → Bool) (s : TokenReader) : List Char × TokenReader :=
  let rec go : Nat → TokenReader → List Char → List Char × TokenReader
    | 0, s, acc => (acc, s)
    | n + 1, s, acc => if !s.atEnd && p s then go n s.skip (acc ++ [s.cur]) else (acc, s)
  go (s.left + 1) s []

/-- Whether the text here starts with three `c` and a blank, a break or the end. -/
def documentIndicator (s : TokenReader) (c : Char) : Bool :=
  s.mark.column == 0 && s.charAt 0 == c && s.charAt 1 == c && s.charAt 2 == c &&
    isBlankZ (s.charAt 3)

/-- An error while reading something that began at `start`. -/
def fail {α : Type} (s : TokenReader) (context : String) (start : Mark) (problem : String) :
    Except YamlError α :=
  .error ⟨problem, s.mark, some (context, start), 0⟩

/-- An error without a context. -/
def failBare {α : Type} (s : TokenReader) (problem : String) : Except YamlError α :=
  .error ⟨problem, s.mark, none, 0⟩

/-- Adds a token at the end of the queue. -/
def enqueue (s : TokenReader) (kind : TokenKind) (start stop : Mark) : TokenReader :=
  { s with queue := s.queue ++ [⟨kind, start, stop⟩] }

/-- The innermost possible simple key. -/
def topKey (s : TokenReader) : SimpleKey := s.simpleKeys.headD SimpleKey.none

/-- Replaces the innermost possible simple key. -/
def setTopKey (s : TokenReader) (k : SimpleKey) : TokenReader :=
  { s with simpleKeys := k :: s.simpleKeys.tail }

/-- Drops simple keys that can no longer be keys: a line has ended since, or more than 1024
bytes of text. -/
def staleSimpleKeys (s : TokenReader) : Except YamlError TokenReader := do
  let keys ← s.simpleKeys.reverse.mapM fun k =>
    if k.possible && (k.mark.line < s.mark.line ||
        s.byteOffset k.mark + 1024 < s.byteOffset s.mark) then
      if k.required then s.fail "while scanning a simple key" k.mark "could not find expected ':'"
      else pure { k with possible := false }
    else pure k
  pure { s with simpleKeys := keys.reverse }

/-- Drops the innermost simple key, which must not be required. -/
def removeSimpleKey (s : TokenReader) : Except YamlError TokenReader :=
  let k := s.topKey
  if k.possible && k.required then
    s.fail "while scanning a simple key" k.mark "could not find expected ':'"
  else .ok (s.setTopKey { k with possible := false })

/-- Remembers that a simple key may start here. -/
def saveSimpleKey (s : TokenReader) : Except YamlError TokenReader :=
  let required := s.flowLevel == 0 && s.indent == (s.mark.column : Int)
  if s.simpleKeyAllowed then do
    let key : SimpleKey := ⟨true, required, s.parsed + s.queue.length, s.mark⟩
    let s ← s.removeSimpleKey
    pure (s.setTopKey key)
  else .ok s

/-- Enters a flow collection. -/
def increaseFlow (s : TokenReader) : TokenReader :=
  { s with simpleKeys := SimpleKey.none :: s.simpleKeys, flowLevel := s.flowLevel + 1 }

/-- Leaves a flow collection. -/
def decreaseFlow (s : TokenReader) : TokenReader :=
  if s.flowLevel > 0 then { s with flowLevel := s.flowLevel - 1, simpleKeys := s.simpleKeys.tail }
  else s

/-- In block context, a deeper column opens a collection: its start token goes at the end of
the queue, or before the token numbered `number`. -/
def rollIndent (s : TokenReader) (column : Int) (number : Option Nat) (kind : TokenKind)
    (m : Mark) : TokenReader :=
  if s.flowLevel > 0 then s
  else if s.indent < column then
    let s := { s with indents := s.indent :: s.indents, indent := column }
    let t : Token := ⟨kind, m, m⟩
    match number with
    | none => { s with queue := s.queue ++ [t] }
    | some n =>
      let k := n - s.parsed
      { s with queue := s.queue.take k ++ [t] ++ s.queue.drop k }
  else s

/-- In block context, closes the collections deeper than `column`. -/
def unrollIndent (s : TokenReader) (column : Int) : TokenReader :=
  let rec go : List Int → TokenReader → TokenReader
    | [], s => s
    | i :: rest, s =>
      if s.indent > column then
        go rest { (s.enqueue .blockEnd s.mark s.mark) with indent := i, indents := rest }
      else s
  if s.flowLevel > 0 then s else go s.indents s

/-- Skips blanks, comments and line breaks up to the next token; a line break in block context
allows a simple key again. Tabs are skipped only where no simple key may start. -/
def toNextToken : Nat → TokenReader → TokenReader
  | 0, s => s
  | fuel + 1, s =>
    let s := if s.mark.column == 0 && s.cur.toNat == 0xFEFF then s.skip else s
    let s := s.skipWhile fun s =>
      s.cur == ' ' || ((s.flowLevel > 0 || !s.simpleKeyAllowed) && s.cur == '\t')
    let s := if s.cur == '#' then s.skipWhile (fun s => !isBreakZ s.cur) else s
    if isBreak s.cur then
      let s := s.skipLine
      toNextToken fuel (if s.flowLevel == 0 then { s with simpleKeyAllowed := true } else s)
    else s

/-! ## Scalars -/

/-- Joins the blanks and breaks between two pieces of a folded scalar: a single line feed
folds to a space, more keep all but the first. -/
def fold (leadingBreak trailingBreaks : List Char) : List Char :=
  if leadingBreak.head? == some '\n' then
    if trailingBreaks.isEmpty then [' '] else trailingBreaks
  else leadingBreak ++ trailingBreaks

/-- What a plain scalar's reader carries: the text, the pending blanks, the pending line
breaks, whether the pending part began with a break, and where the text ends. -/
structure PlainState where
  text : List Char
  whitespaces : List Char
  leadingBreak : List Char
  trailingBreaks : List Char
  leadingBlanks : Bool
  stop : Mark

/-- The characters of one stretch of a plain scalar, up to a blank or what ends it. Inside a
flow collection a `:` right before `,`, `?`, `[`, `]`, `{` or `}` is an error. -/
def plainRun (start : Mark) (flow : Bool) : Nat → TokenReader → PlainState →
    Except YamlError (TokenReader × PlainState)
  | 0, s, st => .ok (s, st)
  | fuel + 1, s, st =>
    let c := s.cur
    let c1 := s.charAt 1
    if isBlankZ c then .ok (s, st)
    else if flow && c == ':' && (c1 == ',' || c1 == '?' || c1 == '[' || c1 == ']' || c1 == '{' ||
        c1 == '}') then s.fail "while scanning a plain scalar" start "found unexpected ':'"
    else if (c == ':' && isBlankZ c1) ||
        (flow && (c == ',' || c == '[' || c == ']' || c == '{' || c == '}')) then .ok (s, st)
    else
      let text :=
        if st.leadingBlanks then st.text ++ fold st.leadingBreak st.trailingBreaks
        else st.text ++ st.whitespaces
      let st := { st with text := text ++ [c], whitespaces := [], leadingBreak := []
                          trailingBreaks := [], leadingBlanks := false }
      let s := s.skip
      plainRun start flow fuel s { st with stop := s.mark }

/-- The blanks and breaks after a stretch of a plain scalar. -/
def plainGap (start : Mark) (indent : Int) : Nat → TokenReader → PlainState →
    Except YamlError (TokenReader × PlainState)
  | 0, s, st => .ok (s, st)
  | fuel + 1, s, st =>
    let c := s.cur
    if isBlank c then
      if st.leadingBlanks && (s.mark.column : Int) < indent && c == '\t' then
        s.fail "while scanning a plain scalar" start
          "found a tab character that violates indentation"
      else if !st.leadingBlanks then
        plainGap start indent fuel s.skip { st with whitespaces := st.whitespaces ++ [c] }
      else plainGap start indent fuel s.skip st
    else if isBreak c then
      let (b, s) := s.readLine
      if !st.leadingBlanks then
        plainGap start indent fuel s
          { st with whitespaces := [], leadingBreak := [b], leadingBlanks := true }
      else plainGap start indent fuel s { st with trailingBreaks := st.trailingBreaks ++ [b] }
    else .ok (s, st)

/-- The stretches of a plain scalar. -/
def plainLines (start : Mark) (indent : Int) : Nat → TokenReader → PlainState →
    Except YamlError (TokenReader × PlainState)
  | 0, s, st => .ok (s, st)
  | fuel + 1, s, st =>
    if s.documentIndicator '-' || s.documentIndicator '.' then .ok (s, st)
    else if s.cur == '#' then .ok (s, st)
    else
      match plainRun start (s.flowLevel > 0) (s.left + 1) s st with
      | .error e => .error e
      | .ok (s, st) =>
      if !(isBlank s.cur || isBreak s.cur) then .ok (s, st)
      else
        match plainGap start indent (s.left + 1) s st with
        | .error e => .error e
        | .ok (s, st) =>
          if s.flowLevel == 0 && (s.mark.column : Int) < indent then .ok (s, st)
          else plainLines start indent fuel s st

/-- **A plain scalar.** A line break inside allows a simple key after it. -/
def plainScalar (s : TokenReader) : Except YamlError (Token × TokenReader) := do
  let start := s.mark
  let st : PlainState := ⟨[], [], [], [], false, start⟩
  let (s, st) ← plainLines start (s.indent + 1) (s.left + 1) s st
  let s := if st.leadingBlanks then { s with simpleKeyAllowed := true } else s
  pure (⟨.scalar (String.ofList st.text) .plain, start, st.stop⟩, s)

/-- The character of a one-letter escape of a double-quoted scalar, or the number of hex digits
that follow the letter. -/
def escapeOf (c : Char) : Option (Sum Char Nat) :=
  match c with
  | '0' => some (.inl (Char.ofNat 0))
  | 'a' => some (.inl (Char.ofNat 7))
  | 'b' => some (.inl (Char.ofNat 8))
  | 't' | '\t' => some (.inl '\t')
  | 'n' => some (.inl '\n')
  | 'v' => some (.inl (Char.ofNat 11))
  | 'f' => some (.inl (Char.ofNat 12))
  | 'r' => some (.inl '\r')
  | 'e' => some (.inl (Char.ofNat 27))
  | ' ' => some (.inl ' ')
  | '"' => some (.inl '"')
  | '/' => some (.inl '/')
  | '\\' => some (.inl '\\')
  | 'N' => some (.inl (Char.ofNat 0x85))
  | '_' => some (.inl (Char.ofNat 0xA0))
  | 'L' => some (.inl (Char.ofNat 0x2028))
  | 'P' => some (.inl (Char.ofNat 0x2029))
  | 'x' => some (.inr 2)
  | 'u' => some (.inr 4)
  | 'U' => some (.inr 8)
  | _ => none

/-- The characters of one line of a quoted scalar, up to a blank, a break, or the closing
quote; whether it ended with an escaped line break. -/
def quotedRun (single : Bool) (start : Mark) : Nat → TokenReader → List Char →
    Except YamlError (TokenReader × List Char × Bool)
  | 0, s, acc => .ok (s, acc, false)
  | fuel + 1, s, acc =>
    let c := s.cur
    let c1 := s.charAt 1
    if isBlankZ c then .ok (s, acc, false)
    else if single && c == '\'' && c1 == '\'' then
      quotedRun single start fuel (s.skip.skip) (acc ++ ['\''])
    else if c == (if single then '\'' else '"') then .ok (s, acc, false)
    else if !single && c == '\\' && isBreak c1 then .ok (s.skip.skipLine, acc, true)
    else if !single && c == '\\' then
      match escapeOf c1 with
      | none => s.fail "while parsing a quoted scalar" start "found unknown escape character"
      | some (.inl e) => quotedRun single start fuel (s.skip.skip) (acc ++ [e])
      | some (.inr n) =>
        let s := s.skip.skip
        let digits := (List.range n).map fun k => hexValue (s.charAt k)
        if digits.any Option.isNone then
          s.fail "while parsing a quoted scalar" start "did not find expected hexadecimal number"
        else
          let v := digits.foldl (fun acc d => acc * 16 + d.getD 0) 0
          if (0xD800 ≤ v ∧ v ≤ 0xDFFF) ∨ v > 0x10FFFF then
            s.fail "while parsing a quoted scalar" start
              "found invalid Unicode character escape code"
          else
            let s := (List.range n).foldl (fun s _ => s.skip) s
            quotedRun single start fuel s (acc ++ [Char.ofNat v])
    else quotedRun single start fuel s.skip (acc ++ [c])

/-- The blanks and breaks after a line of a quoted scalar. -/
def quotedGap : Nat → TokenReader → Bool → List Char → List Char → List Char →
    TokenReader × Bool × List Char × List Char × List Char
  | 0, s, lb, ws, lead, trail => (s, lb, ws, lead, trail)
  | fuel + 1, s, lb, ws, lead, trail =>
    let c := s.cur
    if isBlank c then
      if !lb then quotedGap fuel s.skip lb (ws ++ [c]) lead trail
      else quotedGap fuel s.skip lb ws lead trail
    else if isBreak c then
      let (b, s) := s.readLine
      if !lb then quotedGap fuel s true [] [b] trail
      else quotedGap fuel s lb ws lead (trail ++ [b])
    else (s, lb, ws, lead, trail)

/-- The lines of a quoted scalar, the opening quote consumed. -/
def quotedLines (single : Bool) (start : Mark) : Nat → TokenReader → List Char →
    Except YamlError (TokenReader × List Char)
  | 0, s, acc => .ok (s, acc)
  | fuel + 1, s, acc =>
    if s.documentIndicator '-' || s.documentIndicator '.' then
      s.fail "while scanning a quoted scalar" start "found unexpected document indicator"
    else if s.atEnd then
      s.fail "while scanning a quoted scalar" start "found unexpected end of stream"
    else
      match quotedRun single start (s.left + 1) s acc with
      | .error e => .error e
      | .ok (s, acc, escapedBreak) =>
        if s.cur == (if single then '\'' else '"') && !escapedBreak then .ok (s, acc)
        else
          let (s, lb, ws, lead, trail) := quotedGap (s.left + 1) s escapedBreak [] [] []
          let acc := if lb then acc ++ fold lead trail else acc ++ ws
          quotedLines single start fuel s acc

/-- **A single- or double-quoted scalar.** -/
def quotedScalar (s : TokenReader) (single : Bool) : Except YamlError (Token × TokenReader) := do
  let start := s.mark
  let (s, text) ← quotedLines single start (s.left + 1) s.skip []
  let s := s.skip
  let style := if single then ScalarStyle.singleQuoted else .doubleQuoted
  pure (⟨.scalar (String.ofList text) style, start, s.mark⟩, s)

/-- The indentation spaces and empty lines before a line of a block scalar; the indentation is
found from the deepest of them when it is not given. -/
def blockBreaks (start : Mark) (parentIndent : Int) :
    Nat → TokenReader → Nat → Nat → List Char → Mark →
    Except YamlError (TokenReader × Nat × List Char × Mark)
  | 0, s, indent, _, breaks, stop => .ok (s, indent, breaks, stop)
  | fuel + 1, s, indent, maxIndent, breaks, stop =>
    let s := s.skipWhile fun s => (indent == 0 || s.mark.column < indent) && s.cur == ' '
    let maxIndent := max maxIndent s.mark.column
    if (indent == 0 || s.mark.column < indent) && s.cur == '\t' then
      s.fail "while scanning a block scalar" start
        "found a tab character where an indentation space is expected"
    else if isBreak s.cur then
      let (b, s) := s.readLine
      blockBreaks start parentIndent fuel s indent maxIndent (breaks ++ [b]) s.mark
    else
      let indent := if indent == 0 then
          max 1 (max maxIndent (parentIndent + 1).toNat)
        else indent
      .ok (s, indent, breaks, stop)

/-- The lines of a block scalar at its indentation. -/
def blockLines (literal : Bool) (start : Mark) (parentIndent : Int) :
    Nat → TokenReader → Nat →
    List Char → List Char → List Char → Bool → Mark →
    Except YamlError (TokenReader × List Char × List Char × List Char × Mark)
  | 0, s, _, text, lead, trail, _, stop => .ok (s, text, lead, trail, stop)
  | fuel + 1, s, indent, text, lead, trail, leadingBlank, stop =>
    if s.mark.column == indent && !s.atEnd then
      let trailingBlank := isBlank s.cur
      let text :=
        if !literal && lead.head? == some '\n' && !leadingBlank && !trailingBlank then
          text ++ (if trail.isEmpty then [' '] else []) ++ trail
        else text ++ lead ++ trail
      let leadingBlank := isBlank s.cur
      let (line, s) := s.readWhile fun s => !isBreakZ s.cur
      let (b, s) := if isBreak s.cur then
          let (b, s) := s.readLine
          ([b], s)
        else ([], s)
      match blockBreaks start parentIndent (s.left + 1) s indent 0 [] s.mark with
      | .error e => .error e
      | .ok (s, indent, trail, stop) =>
        blockLines literal start parentIndent fuel s indent (text ++ line) b trail leadingBlank stop
    else .ok (s, text, lead, trail, stop)

/-- **A literal (`|`) or folded (`>`) block scalar.** -/
def blockScalar (s : TokenReader) (literal : Bool) : Except YamlError (Token × TokenReader) := do
  let start := s.mark
  let s := s.skip
  let chompOf (c : Char) : Option Int :=
    if c == '+' then some 1 else if c == '-' then some (-1) else none
  let digitOf (c : Char) : Option Nat :=
    if '0' ≤ c ∧ c ≤ '9' then some (c.toNat - 48) else none
  let (chomp, increment, s) ← match chompOf s.cur with
    | some ch =>
      let s := s.skip
      match digitOf s.cur with
      | some 0 =>
        s.fail "while scanning a block scalar" start "found an indentation indicator equal to 0"
      | some d => pure (ch, d, s.skip)
      | none => pure (ch, 0, s)
    | none =>
      match digitOf s.cur with
      | some 0 =>
        s.fail "while scanning a block scalar" start "found an indentation indicator equal to 0"
      | some d =>
        let s := s.skip
        match chompOf s.cur with
        | some ch => pure (ch, d, s.skip)
        | none => pure (0, d, s)
      | none => pure (0, 0, s)
  let s := s.skipWhile fun s => isBlank s.cur
  let s := if s.cur == '#' then s.skipWhile (fun s => !isBreakZ s.cur) else s
  if !isBreakZ s.cur then
    s.fail "while scanning a block scalar" start "did not find expected comment or line break"
  else
    let s := if isBreak s.cur then s.skipLine else s
    let indent : Nat := if increment > 0 then
        (if s.indent ≥ 0 then (s.indent + increment).toNat else increment)
      else 0
    let (s, indent, trail, stop) ← blockBreaks start s.indent (s.left + 1) s indent 0 [] s.mark
    let (s, text, lead, trail, stop) ←
      blockLines literal start s.indent (s.left + 1) s indent [] [] trail false stop
    let text := if chomp != -1 then text ++ lead else text
    let text := if chomp == 1 then text ++ trail else text
    let style := if literal then ScalarStyle.literal else .folded
    pure (⟨.scalar (String.ofList text) style, start, stop⟩, s)

/-- **An anchor (`&name`) or alias (`*name`).** -/
def anchorOrAlias (s : TokenReader) (isAlias : Bool) : Except YamlError (Token × TokenReader) :=
  let start := s.mark
  let (name, s) := s.skip.readWhile fun s => isWordChar s.cur
  let c := s.cur
  if name.isEmpty || !(isBlankZ c || c == '?' || c == ':' || c == ',' || c == ']' || c == '}' ||
      c == '%' || c == '@' || c == '`') then
    s.fail (if isAlias then "while scanning an alias" else "while scanning an anchor") start
      "did not find expected alphabetic or numeric character"
  else
    let name := String.ofList name
    .ok (⟨if isAlias then .alias name else .anchor name, start, s.mark⟩, s)

/-- A tag handle, at its `!`: `!`, `!!` or `!name!`. In a `%TAG` directive only these three
forms are handles; in a tag, `!name` is the start of a suffix. -/
def tagHandle (s : TokenReader) (directive : Bool) (start : Mark) :
    Except YamlError (String × TokenReader) :=
  if s.cur != '!' then
    s.fail (if directive then "while scanning a tag directive" else "while scanning a tag") start
      "did not find expected '!'"
  else
    let (name, s) := s.skip.readWhile fun s => isWordChar s.cur
    if s.cur == '!' then .ok (String.ofList ('!' :: name ++ ['!']), s.skip)
    else if directive && !name.isEmpty then
      s.fail "while parsing a tag directive" start "did not find expected '!'"
    else .ok (String.ofList ('!' :: name), s)

/-- The octet a `%hh` escape here stands for. -/
def uriOctet (s : TokenReader) : Option UInt8 :=
  if s.cur == '%' then
    match hexValue (s.charAt 1), hexValue (s.charAt 2) with
    | some h, some l => some (h * 16 + l).toUInt8
    | _, _ => none
  else none

/-- The number of octets of a UTF-8 sequence, by its leading octet; `0` when it cannot lead. -/
def sequenceWidth (o : UInt8) : Nat :=
  if o &&& 0x80 == 0 then 1 else if o &&& 0xE0 == 0xC0 then 2
  else if o &&& 0xF0 == 0xE0 then 3 else if o &&& 0xF8 == 0xF0 then 4 else 0

/-- The trailing octets of an escaped UTF-8 sequence, each `%hh` with its two high bits `10`. -/
def trailingOctets (context : String) (start : Mark) :
    Nat → TokenReader → List UInt8 → Except YamlError (List UInt8 × TokenReader)
  | 0, s, acc => .ok (acc, s)
  | n + 1, s, acc =>
    match uriOctet s with
    | none => s.fail context start "did not find URI escaped octet"
    | some o =>
      if o &&& 0xC0 != 0x80 then s.fail context start "found an incorrect trailing UTF-8 octet"
      else trailingOctets context start n s.skip.skip.skip (acc ++ [o])

/-- **One escaped character of a URI:** the `%hh` escapes of its UTF-8 octets. -/
def uriEscape (context : String) (start : Mark) (s : TokenReader) :
    Except YamlError (List UInt8 × TokenReader) :=
  match uriOctet s with
  | none => s.fail context start "did not find URI escaped octet"
  | some o =>
    let width := sequenceWidth o
    if width == 0 then s.fail context start "found an incorrect leading UTF-8 octet"
    else trailingOctets context start (width - 1) s.skip.skip.skip [o]

/-- The marks a tag's URI may hold besides word characters. -/
def uriMarks : List Char :=
  [';', '/', '?', ':', '@', '&', '=', '+', '$', '.', '%', '!', '~', '*', '\'', '(', ')']

/-- Whether a character may stand in a tag's URI; `,`, `[` and `]` only where `wide`. -/
def isUriChar (wide : Bool) (c : Char) : Bool :=
  isWordChar c || uriMarks.contains c || (wide && (c == ',' || c == '[' || c == ']'))

/-- The characters of a URI as bytes, escapes decoded, with how many characters there were. -/
def uriRun (wide : Bool) (context : String) (start : Mark) :
    Nat → TokenReader → List UInt8 → Nat → Except YamlError (List UInt8 × Nat × TokenReader)
  | 0, s, acc, n => .ok (acc, n, s)
  | fuel + 1, s, acc, n =>
    if !(isUriChar wide s.cur) then .ok (acc, n, s)
    else if s.cur == '%' then do
      let (os, s) ← uriEscape context start s
      uriRun wide context start fuel s (acc ++ os) (n + 1)
    else uriRun wide context start fuel s.skip (acc ++ [s.cur.toNat.toUInt8]) (n + 1)

/-- Bytes up to the first zero byte, which ends a text as the reader keeps it. -/
def untilZero (bs : List UInt8) : List UInt8 := bs.takeWhile (· != 0)

/-- **A tag's URI** as bytes, after `head` (the characters of a would-be handle, less its `!`);
empty is an error unless there is such a head. -/
def tagUri (s : TokenReader) (wide directive : Bool) (head : List Char) (start : Mark) :
    Except YamlError (List UInt8 × TokenReader) := do
  let context := if directive then "while parsing a %TAG directive" else "while parsing a tag"
  let (bs, n, s) ← uriRun wide context start (s.left + 1) s [] 0
  if head.isEmpty && n == 0 then s.fail context start "did not find expected tag URI"
  else pure (untilZero ((head.drop 1).map (·.toNat.toUInt8) ++ bs), s)

/-- **A tag:** verbatim `!<uri>`, or a handle and a suffix. -/
def tag (s : TokenReader) : Except YamlError (Token × TokenReader) := do
  let start := s.mark
  let (handle, suffix, s) ←
    if s.charAt 1 == '<' then do
      let (uri, s) ← (s.skip.skip).tagUri true false [] start
      if s.cur != '>' then s.fail "while scanning a tag" start "did not find the expected '>'"
      else pure ("", uri, s.skip)
    else do
      let (handle, s) ← s.tagHandle false start
      if handle.length > 1 && handle.endsWith "!" then
        let (uri, s) ← s.tagUri false false [] start
        pure (handle, uri, s)
      else
        let (suffix, s) ← s.tagUri false false handle.toList start
        if suffix.isEmpty then pure ("", [33], s) else pure ("!", suffix, s)
  if !(isBlankZ s.cur) && !(s.flowLevel > 0 && s.cur == ',') then
    s.fail "while scanning a tag" start "did not find expected whitespace or line break"
  else pure (⟨.tag handle suffix, start, s.mark⟩, s)

/-- The digits of a version number, at most nine: the tenth is an error where it stands. -/
def versionNumber (s : TokenReader) (start : Mark) : Except YamlError (Nat × TokenReader) :=
  let (ds, s) := s.readWhile fun s => '0' ≤ s.cur ∧ s.cur ≤ '9'
  if ds.isEmpty then
    s.fail "while scanning a %YAML directive" start "did not find expected version number"
  else if ds.length > 9 then
    { s with mark := ⟨s.mark.index - (ds.length - 9), s.mark.line, s.mark.column - (ds.length - 9)⟩
      }.fail "while scanning a %YAML directive" start "found extremely long version number"
  else .ok (ds.foldl (fun acc c => acc * 10 + (c.toNat - 48)) 0, s)

/-- **A directive** (`%YAML` or `%TAG`), with the rest of its line. -/
def directive (s : TokenReader) : Except YamlError (Token × TokenReader) := do
  let start := s.mark
  let (name, s) := s.skip.readWhile fun s => isWordChar s.cur
  if name.isEmpty then
    s.fail "while scanning a directive" start "could not find expected directive name"
  else if !isBlankZ s.cur then
    s.fail "while scanning a directive" start "found unexpected non-alphabetical character"
  else
    let name := String.ofList name
    let (kind, s) ←
      if name = "YAML" then do
        let s := s.skipWhile fun s => isBlank s.cur
        let (major, s) ← s.versionNumber start
        if s.cur != '.' then
          s.fail "while scanning a %YAML directive" start
            "did not find expected digit or '.' character"
        else
          let (minor, s) ← s.skip.versionNumber start
          pure (TokenKind.versionDirective major minor, s)
      else if name = "TAG" then do
        let s := s.skipWhile fun s => isBlank s.cur
        let (handle, s) ← s.tagHandle true start
        if !isBlank s.cur then
          s.fail "while scanning a %TAG directive" start "did not find expected whitespace"
        else
          let s := s.skipWhile fun s => isBlank s.cur
          let (pfx, s) ← s.tagUri true true [] start
          if !isBlankZ s.cur then
            s.fail "while scanning a %TAG directive" start
              "did not find expected whitespace or line break"
          else pure (TokenKind.tagDirective handle pfx, s)
      else s.fail "while scanning a directive" start "found unknown directive name"
    let stop := s.mark
    let s := s.skipWhile fun s => isBlank s.cur
    let s := if s.cur == '#' then s.skipWhile (fun s => !isBreakZ s.cur) else s
    if !isBreakZ s.cur then
      s.fail "while scanning a directive" start "did not find expected comment or line break"
    else pure (⟨kind, start, stop⟩, s.skipLine)

/-! ## Fetching tokens -/

/-- Queues a token scanned by `scan`. -/
def queued (r : Except YamlError (Token × TokenReader)) : Except YamlError TokenReader :=
  r.map fun (t, s) => { s with queue := s.queue ++ [t] }

/-- A one-character token. -/
def single (s : TokenReader) (kind : TokenKind) : TokenReader :=
  let start := s.mark
  let s := s.skip
  s.enqueue kind start s.mark

/-- The characters that may start a token other than a plain scalar. -/
def indicators : List Char :=
  ['-', '?', ':', ',', '[', ']', '{', '}', '#', '&', '*', '!', '|', '>', '\'', '"', '%', '@',
    Char.ofNat 96]

/-- **Scans the next token** (and whatever block starts or ends come before it). -/
def fetchNext (s : TokenReader) : Except YamlError TokenReader := do
  if !s.streamStartProduced then
    let s := { s with indent := -1, simpleKeys := [SimpleKey.none], simpleKeyAllowed := true
                      streamStartProduced := true }
    return s.enqueue .streamStart s.mark s.mark
  let s := toNextToken (s.left + 1) s
  let s ← s.staleSimpleKeys
  let s := s.unrollIndent s.mark.column
  let c := s.cur
  let c1 := s.charAt 1
  if s.atEnd then
    let s :=
      if s.mark.column != 0 then { s with mark := ⟨s.mark.index, s.mark.line + 1, 0⟩ } else s
    let s := s.unrollIndent (-1)
    let s ← s.removeSimpleKey
    let s := { s with simpleKeyAllowed := false }
    return s.enqueue .streamEnd s.mark s.mark
  if s.mark.column == 0 && c == '%' then
    let s := s.unrollIndent (-1)
    let s ← s.removeSimpleKey
    return ← queued (directive { s with simpleKeyAllowed := false })
  if s.documentIndicator '-' || s.documentIndicator '.' then
    let s := s.unrollIndent (-1)
    let s ← s.removeSimpleKey
    let s := { s with simpleKeyAllowed := false }
    let start := s.mark
    let s := s.skip.skip.skip
    return s.enqueue (if c == '-' then .documentStart else .documentEnd) start s.mark
  if c == '[' || c == '{' then
    let s ← s.saveSimpleKey
    let s := { s.increaseFlow with simpleKeyAllowed := true }
    return s.single (if c == '[' then .flowSequenceStart else .flowMappingStart)
  if c == ']' || c == '}' then
    let s ← s.removeSimpleKey
    let s := { s.decreaseFlow with simpleKeyAllowed := false }
    return s.single (if c == ']' then .flowSequenceEnd else .flowMappingEnd)
  if c == ',' then
    let s ← s.removeSimpleKey
    return { s with simpleKeyAllowed := true }.single .flowEntry
  if c == '-' && isBlankZ c1 then
    let s ← if s.flowLevel == 0 then
        if !s.simpleKeyAllowed then
          s.failBare "block sequence entries are not allowed in this context"
        else pure (s.rollIndent s.mark.column none .blockSequenceStart s.mark)
      else pure s
    let s ← s.removeSimpleKey
    return { s with simpleKeyAllowed := true }.single .blockEntry
  if c == '?' && (s.flowLevel > 0 || isBlankZ c1) then
    let s ← if s.flowLevel == 0 then
        if !s.simpleKeyAllowed then s.failBare "mapping keys are not allowed in this context"
        else pure (s.rollIndent s.mark.column none .blockMappingStart s.mark)
      else pure s
    let s ← s.removeSimpleKey
    return { s with simpleKeyAllowed := s.flowLevel == 0 }.single .key
  if c == ':' && (s.flowLevel > 0 || isBlankZ c1) then
    let k := s.topKey
    let s ← if k.possible then
        let n := k.tokenNumber - s.parsed
        let s :=
          let key : Token := ⟨.key, k.mark, k.mark⟩
          { s with queue := s.queue.take n ++ [key] ++ s.queue.drop n }
        let s := s.rollIndent k.mark.column (some k.tokenNumber) .blockMappingStart k.mark
        pure { (s.setTopKey { k with possible := false }) with simpleKeyAllowed := false }
      else if s.flowLevel == 0 then
        if !s.simpleKeyAllowed then s.failBare "mapping values are not allowed in this context"
        else
          let s := s.rollIndent s.mark.column none .blockMappingStart s.mark
          pure { s with simpleKeyAllowed := true }
      else pure { s with simpleKeyAllowed := false }
    return s.single .value
  if c == '*' || c == '&' then
    let s ← s.saveSimpleKey
    return ← queued (anchorOrAlias { s with simpleKeyAllowed := false } (c == '*'))
  if c == '!' then
    let s ← s.saveSimpleKey
    return ← queued (tag { s with simpleKeyAllowed := false })
  if (c == '|' || c == '>') && s.flowLevel == 0 then
    let s ← s.removeSimpleKey
    return ← queued (blockScalar { s with simpleKeyAllowed := true } (c == '|'))
  if c == '\'' || c == '"' then
    let s ← s.saveSimpleKey
    return ← queued (quotedScalar { s with simpleKeyAllowed := false } (c == '\''))
  let indicator := isBlankZ c || indicators.contains c
  if !indicator || (c == '-' && !isBlank c1) ||
      (s.flowLevel == 0 && (c == '?' || c == ':') && !isBlankZ c1) then
    let s ← s.saveSimpleKey
    return ← queued (plainScalar { s with simpleKeyAllowed := false })
  s.fail "while scanning for the next token" s.mark "found character that cannot start any token"

/-- Scans until the first queued token cannot become part of a simple key any more. -/
def fetchMore : Nat → TokenReader → Except YamlError TokenReader
  | 0, s => .ok { s with tokenAvailable := true }
  | fuel + 1, s => do
    let (needMore, s) ←
      if s.queue.isEmpty then pure (true, s)
      else do
        let s ← s.staleSimpleKeys
        pure (s.simpleKeys.any (fun k => k.possible && k.tokenNumber == s.parsed), s)
    if needMore then fetchMore fuel (← s.fetchNext)
    else pure { s with tokenAvailable := true }

/-- **The next token,** scanning as far as needed. -/
def peekToken (s : TokenReader) : Except YamlError (Token × TokenReader) := do
  let s ← if s.tokenAvailable then pure s else fetchMore (4 * s.left + 16) s
  match s.queue.head? with
  | some t => pure (t, s)
  | none => s.failBare "no more tokens"

/-- Takes the next token. -/
def skipToken (s : TokenReader) : TokenReader :=
  let isEnd := match s.queue.head? with
    | some ⟨.streamEnd, _, _⟩ => true
    | _ => false
  { s with tokenAvailable := false, parsed := s.parsed + 1, streamEndProduced := isEnd
           queue := s.queue.tail }

end TokenReader

end Yaml

end ChatGateway
