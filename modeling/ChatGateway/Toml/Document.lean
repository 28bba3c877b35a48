import ChatGateway.Toml.Lexical
import ChatGateway.Toml.Tables

/-! # Reading a TOML document

`Toml.parse` reads a whole document into its root table, or fails with an error that points at
the text.

* A line is blank, a comment, a table header (`[a.b]` or `[[a.b]]`), or a key-value pair; what
  follows a header or a value on its line may only be blanks and a comment.
* A value is a string, a boolean, a date-time, a float or an integer (tried in that order for
  text starting with a sign or a digit), an array, or an inline table. Arrays and inline tables
  nest at most 80 deep.
* A failure is reported with the notes of the rules it happened in; a problem with how the
  tables fit together is reported at the start of the line (or, for an inline table, just
  after its brace), and one found only at the end of the text is reported without a place.
-/

namespace ChatGateway

namespace Toml

/-- **A TOML error:** its words and the span it points at, when it has one. -/
structure TomlError where
  message : String
  span : Option Span
  deriving Repr

/-- The notes of a value that is no value: it was read as a string that lacks its quotes. -/
def stringNotes : List Context :=
  [.label "string", .expected (literal '"'), .expected (literal '\'')]

/-- How deep arrays and inline tables may nest. -/
def nestingLimit : Nat := 80

/-- A node with the span between two cursors. -/
def spanned {α : Type} (start : Cursor) (r : Parse α) (mk : α → Span → Node) : Parse Node :=
  r.map fun (v, c) => (mk v (spanBetween start c), c)

mutual

/-- **A value**, at its first byte. -/
def value : Nat → Nat → Cursor → Parse Node
  | 0, _, c => stop c []
  | fuel + 1, depth, c =>
    match c.peek with
    | none => miss c []
    | some b =>
      if b == 34 || b == 39 then spanned c (string c) Node.string
      else if b == 91 then array fuel depth c
      else if b == 123 then inlineTable fuel depth c
      else if b == 43 || b == 45 || isDigit b then
        match dateTime c with
        | .ok (t, c') => .ok (.datetime t (spanBetween c c'), c')
        | .error f =>
          if f.committed then .error f
          else
            match float c with
            | .ok (x, c') => .ok (.float x (spanBetween c c'), c')
            | .error f => if f.committed then .error f else spanned c (integer c) Node.integer
      else if b == 95 then within [.expected "leading digit"] (spanned c (integer c) Node.integer)
      else if b == 46 then within [.expected "leading digit"] (spanned c (float c) Node.float)
      else if b == 116 then
        if startsWith c "true" then .ok (.boolean true (spanBetween c (c.advance 4)), c.advance 4)
        else stop c stringNotes
      else if b == 102 then
        if startsWith c "false" then .ok (.boolean false (spanBetween c (c.advance 5)), c.advance 5)
        else stop c stringNotes
      else if b == 105 then
        if startsWith c "inf" then
          .ok (.float (.infinite false) (spanBetween c (c.advance 3)), c.advance 3)
        else miss c stringNotes
      else if b == 110 then
        if startsWith c "nan" then .ok (.float .nan (spanBetween c (c.advance 3)), c.advance 3)
        else miss c stringNotes
      else miss c stringNotes

/-- A value of an array with the blanks, comments and newlines around it. -/
def arrayElement : Nat → Nat → Cursor → Except Failure (Node × Cursor)
  | 0, _, c => stop c []
  | fuel + 1, depth, c => do
    let ((), c) ← gap c
    let (v, c) ← value fuel depth c
    let ((), c) ← gap c
    pure (v, c)

/-- The elements of an array after the first, each after a comma. -/
def arrayRest : Nat → Nat → Cursor → List Node → Parse (List Node)
  | 0, _, c, acc => .ok (acc, c)
  | fuel + 1, depth, c, acc =>
    if c.peek == some 44 then
      match arrayElement fuel depth c.bump with
      | .ok (v, c') => arrayRest fuel depth c' (acc ++ [v])
      | .error f => if f.committed then .error f else .ok (acc, c)
    else .ok (acc, c)

/-- **An array**, at its bracket. -/
def array : Nat → Nat → Cursor → Parse Node
  | 0, _, c => stop c []
  | fuel + 1, depth, c =>
    let start := c
    let c := c.bump
    if depth + 1 ≥ nestingLimit then refuse c "recursion limit exceeded"
    else
      let items : Parse (List Node) :=
        match arrayElement fuel (depth + 1) c with
        | .ok (v, c') => arrayRest fuel (depth + 1) c' [v]
        | .error f => if f.committed then .error f else .ok ([], c)
      match cut items with
      | .error f => .error f
      | .ok (items, c) =>
        let c := if c.peek == some 44 then c.bump else c
        match cut (gap c) with
        | .error f => .error f
        | .ok ((), c) =>
          if c.peek == some 93 then .ok (.array items (spanBetween start c.bump), c.bump)
          else stop c [.expected (literal ']')]

/-- A key-value pair of an inline table: the dotted path, the last key and the value. -/
def inlinePair : Nat → Nat → Cursor →
    Except Failure ((List TomlKey × TomlKey × Node) × Cursor)
  | 0, _, c => stop c []
  | fuel + 1, depth, c => do
    let (path, c) ← key c
    if c.peek != some 61 then stop c [.expected (literal '.'), .expected (literal '=')]
    else
      let (v, c) ← cut (value fuel depth (blanks c.bump))
      pure ((path.dropLast, path.getLast?.getD default, v), blanks c)

/-- The pairs of an inline table after the first, each after a comma. -/
def inlineRest : Nat → Nat → Cursor → List (List TomlKey × TomlKey × Node) →
    Parse (List (List TomlKey × TomlKey × Node))
  | 0, _, c, acc => .ok (acc, c)
  | fuel + 1, depth, c, acc =>
    if c.peek == some 44 then
      match inlinePair fuel depth c.bump with
      | .ok (p, c') => inlineRest fuel depth c' (acc ++ [p])
      | .error f => if f.committed then .error f else .ok (acc, c)
    else .ok (acc, c)

/-- **An inline table**, at its brace. -/
def inlineTable : Nat → Nat → Cursor → Parse Node
  | 0, _, c => stop c []
  | fuel + 1, depth, c =>
    let start := c
    let c := c.bump
    let inner := c
    if depth + 1 ≥ nestingLimit then refuse c "recursion limit exceeded"
    else
      let pairs : Parse (List (List TomlKey × TomlKey × Node)) :=
        match inlinePair fuel (depth + 1) c with
        | .ok (p, c') => inlineRest fuel (depth + 1) c' [p]
        | .error f => if f.committed then .error f else .ok ([], c)
      match cut pairs with
      | .error f => .error f
      | .ok (pairs, c) =>
        let c := blanks c
        match inlineEntries pairs with
        | .error e => refuse inner e.text
        | .ok es =>
          if c.peek == some 125 then
            .ok (.inline es false (some (spanBetween start c.bump)), c.bump)
          else stop c [.label "inline table", .expected (literal '}')]

end

/-- The notes of a line that goes on after its value or header. -/
def lineEndNotes : List Context := [.expected (literal '\n'), .expected (literal '#')]

/-- **A key-value line** of the document. -/
def keyValueLine (a : Assembly) (c : Cursor) : Except Failure (Assembly × Cursor) := do
  let start := c
  let (path, c) ← cut (key c)
  if c.peek != some 61 then stop c [.expected (literal '.'), .expected (literal '=')]
  else
    let (v, c) ← cut (value (4 * c.rest.length + 4) 0 (blanks c.bump))
    match lineTrailing c with
    | .error f => .error ⟨f.offset, lineEndNotes, none, true⟩
    | .ok ((), c) =>
      match a.keyValue path.dropLast (path.getLast?.getD default) v with
      | .ok a => pure (a, c)
      | .error e => refuse start e.text

/-- **A table header line,** `[path]` or `[[path]]`. -/
def headerLine (a : Assembly) (c : Cursor) : Except Failure (Assembly × Cursor) :=
  within [.label "table header"] do
    let start := c
    if c.rest.length < 2 then stop c []
    else
      let isArray := startsWith c "[["
      let (path, c) ← cut (key (c.advance (if isArray then 2 else 1)))
      let close := if isArray then "]]" else "]"
      if !startsWith c close then stop c [.expected (literal '.'), .expected (literal ']')]
      else
        let c := c.advance close.length
        let span := spanBetween start c
        match lineTrailing c with
        | .error f => .error ⟨f.offset, lineEndNotes, none, true⟩
        | .ok ((), c) =>
          let r := if isArray then a.arrayHeader path span else a.tableHeader path span
          match r with
          | .ok a => pure (a, c)
          | .error e => refuse start e.text

/-- The lines of a document, from the cursor to the end. -/
def lines : Nat → Assembly → Cursor → Except Failure Assembly
  | 0, a, _ => .ok a
  | fuel + 1, a, c =>
    match c.peek with
    | none => .ok a
    | some b =>
      let next : Except Failure (Assembly × Cursor) :=
        if b == 35 then
          let c := comment c
          match lineEnding c with
          | some c => .ok (a, c)
          | none => stop c []
        else if b == 91 then headerLine a c
        else if b == 10 || b == 13 then
          match newline c with
          | some c => .ok (a, c)
          | none => miss c []
        else keyValueLine a c
      match next with
      | .error f => .error f
      | .ok (a, c) => lines fuel a (blanks c)

/-- The byte-order mark some editors put before a text. -/
def byteOrderMark : List UInt8 := [0xEF, 0xBB, 0xBF]

/-- The number of bytes of the UTF-8 sequence a byte begins. -/
def sequenceLength (b : UInt8) : Nat :=
  if b < 0xC0 then 1 else if b < 0xE0 then 2 else if b < 0xF0 then 3 else 4

/-- **Reads a TOML document** into its root table. A failure points at the character where
reading stopped, or at the end of the text. -/
def parse (text : String) : Except TomlError Node :=
  let bytes := text.toUTF8.toList
  let c := Cursor.ofBytes bytes
  let c := if byteOrderMark.isPrefixOf bytes then c.advance 3 else c
  match lines (bytes.length + 1) Assembly.start (blanks c) with
  | .error f =>
    let stopAt := match bytes[f.offset]? with
      | some b => f.offset + sequenceLength b
      | none => f.offset
    .error ⟨f.message, some ⟨f.offset, stopAt⟩⟩
  | .ok a =>
    match a.finish with
    | .ok a => .ok a.root
    | .error e => .error ⟨e.text, none⟩

end Toml

end ChatGateway
