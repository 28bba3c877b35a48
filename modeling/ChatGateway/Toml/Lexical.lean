import ChatGateway.Toml.Node
import ChatGateway.Json.Parse

/-! # The lexical grammar of TOML

The rules that read TOML's pieces: blanks, comments and line ends, keys, strings, numbers,
booleans and date-times. Each rule reads from a byte `Cursor` and either succeeds with what it
read and the cursor after it, or fails with a `Failure`.

* A failure is placed at the offset where reading stopped. A *committed* failure ends the
  whole reading; an uncommitted one lets an enclosing rule try something else, from where that
  rule began.
* A failure carries the rules' notes about it, innermost first: what was being read
  (`invalid basic string`) and what was expected there (`expected `.`, `]``), and the cause an
  inner check gave (`number too large to fit in target type`).
-/

namespace ChatGateway

namespace Toml

/-- **A note a rule adds to a failure.** -/
inductive Context where
  /-- What was being read. -/
  | label (what : String)
  /-- Something that could have come here. -/
  | expected (what : String)
  deriving Repr

/-- **Why a rule did not match,** and where. -/
structure Failure where
  offset : Nat
  contexts : List Context
  cause : Option String
  committed : Bool
  deriving Repr

namespace Failure

/-- The words of a failure: what was being read, what was expected, and the cause, one per
line. -/
def message (f : Failure) : String :=
  let label := f.contexts.findSome? fun
    | .label w => some w
    | _ => none
  let expected := f.contexts.filterMap fun
    | .expected w => some w
    | _ => none
  let parts := (label.map ("invalid " ++ ·)).toList ++
    (if expected.isEmpty then [] else ["expected " ++ ", ".intercalate expected]) ++ f.cause.toList
  "\n".intercalate parts

/-- The failure with more notes, outer ones after inner ones. -/
def note (f : Failure) (cs : List Context) : Failure := { f with contexts := f.contexts ++ cs }

end Failure

/-- A reading step. -/
abbrev Parse (α : Type) := Except Failure (α × Cursor)

/-- An uncommitted failure at the cursor. -/
def miss {α : Type} (c : Cursor) (cs : List Context) : Except Failure α :=
  .error ⟨c.offset, cs, none, false⟩

/-- A committed failure at the cursor. -/
def stop {α : Type} (c : Cursor) (cs : List Context) : Except Failure α :=
  .error ⟨c.offset, cs, none, true⟩

/-- A committed failure at the cursor from an inner check's cause. -/
def refuse {α : Type} (c : Cursor) (cause : String) : Except Failure α :=
  .error ⟨c.offset, [], some cause, true⟩

/-- Commits a step's failure. -/
def cut {α : Type} (r : Except Failure α) : Except Failure α :=
  r.mapError fun f => { f with committed := true }

/-- Adds notes to a step's failure. -/
def within {α : Type} (cs : List Context) (r : Except Failure α) : Except Failure α :=
  r.mapError (·.note cs)

/-- What a character literal looks like when it is expected. -/
def literal (c : Char) : String :=
  if c = '\n' then "newline" else "`" ++ c.toString ++ "`"

/-- The text of the bytes between two cursors. -/
def textBetween (a b : Cursor) : String :=
  (String.fromUTF8? (ByteArray.mk (a.rest.take (b.offset - a.offset)).toArray)).getD ""

/-- The span between two cursors. -/
def spanBetween (a b : Cursor) : Span := ⟨a.offset, b.offset⟩

/-- Whether the cursor is at the end of the text. -/
def atEnd (c : Cursor) : Bool := c.rest.isEmpty

/-- Whether the text at the cursor starts with the bytes of `s`. -/
def startsWith (c : Cursor) (s : String) : Bool := s.toUTF8.toList.isPrefixOf c.rest

/-- Moves past the leading bytes that satisfy `p`. -/
def skipWhile (p : UInt8 → Bool) (c : Cursor) : Cursor := c.advance (c.rest.takeWhile p).length

/-! ## Blanks, comments and line ends -/

/-- Whether a byte is a space or a tab. -/
def isBlank (b : UInt8) : Bool := b == 32 || b == 9

/-- Whether a byte may stand in a comment. -/
def isCommentByte (b : UInt8) : Bool := b == 9 || (32 ≤ b && b ≤ 126) || b ≥ 128

/-- Skips spaces and tabs. -/
def blanks (c : Cursor) : Cursor := skipWhile isBlank c

/-- A line feed, or a carriage return and a line feed. -/
def newline (c : Cursor) : Option Cursor :=
  match c.rest with
  | 10 :: _ => some c.bump
  | 13 :: 10 :: _ => some (c.advance 2)
  | _ => none

/-- A comment, at its `#`: the bytes that may stand in one. -/
def comment (c : Cursor) : Cursor := skipWhile isCommentByte c.bump

/-- A line end: a newline or the end of the text. -/
def lineEnding (c : Cursor) : Option Cursor :=
  match newline c with
  | some c => some c
  | none => if atEnd c then some c else none

/-- What may end a line after a value or a header: blanks, a comment, and a line end. -/
def lineTrailing (c : Cursor) : Parse Unit :=
  let c := blanks c
  let c := if c.peek == some 35 then comment c else c
  match lineEnding c with
  | some c => .ok ((), c)
  | none => miss c []

/-- Blanks, comments and newlines, as between the values of an array; a comment must end with a
newline. -/
def gapLines : Nat → Cursor → Parse Unit
  | 0, c => .ok ((), c)
  | fuel + 1, c =>
    let c := blanks c
    match c.peek with
    | some 35 =>
      let c := comment c
      match newline c with
      | some c => gapLines fuel c
      | none => miss c []
    | some 10 | some 13 =>
      match newline c with
      | some c => gapLines fuel c
      | none => miss c []
    | _ => .ok ((), c)

/-- See `gapLines`. -/
def gap (c : Cursor) : Parse Unit := gapLines (c.rest.length + 1) c

/-! ## Strings -/

/-- Whether a byte stands for itself in a basic string. -/
def isBasicByte (b : UInt8) : Bool :=
  isBlank b || b == 0x21 || (0x23 ≤ b && b ≤ 0x5B) || (0x5D ≤ b && b ≤ 0x7E) || b ≥ 0x80

/-- Whether a byte stands for itself in a literal string. -/
def isLiteralByte (b : UInt8) : Bool :=
  b == 9 || (0x20 ≤ b && b ≤ 0x26) || (0x28 ≤ b && b ≤ 0x7E) || b ≥ 0x80

/-- Whether a byte is an ASCII digit. -/
def isDigit (b : UInt8) : Bool := 48 ≤ b && b ≤ 57

/-- The value of a hexadecimal digit. -/
def hexDigit (b : UInt8) : Option Nat := Cursor.hexValue b

/-- The UTF-8 bytes of a code point. -/
def utf8 (n : Nat) : List UInt8 := (String.singleton (Char.ofNat n)).toUTF8.toList

/-- The escapes a basic string knows, as expected after a backslash. -/
def escapeNames : List Context :=
  [.label "escape sequence"] ++ ['b', 'f', 'n', 'r', 't', 'u', 'U', '\\', '"'].map
    fun c => .expected (literal c)

/-- `n` hexadecimal digits of a `\u` or `\U` escape, as a Unicode scalar value. -/
def hexEscape (n : Nat) (what : String) (c : Cursor) : Parse (List UInt8) :=
  let digits := (c.rest.take n).takeWhile fun b => (hexDigit b).isSome
  if digits.length ≠ n then stop c [.label what]
  else
    let v := digits.foldl (fun acc b => acc * 16 + (hexDigit b).getD 0) 0
    if v > 0x10FFFF ∨ (0xD800 ≤ v ∧ v ≤ 0xDFFF) then
      .error ⟨c.offset, [.label what], some "value is out of range", true⟩
    else .ok (utf8 v, c.advance n)

/-- An escape, at its backslash; an uncommitted failure when the text ends there. -/
def escape (c : Cursor) : Parse (List UInt8) :=
  let c := c.bump
  match c.peek with
  | none => miss c []
  | some b =>
    let c := c.bump
    if b == 98 then .ok ([8], c)
    else if b == 102 then .ok ([12], c)
    else if b == 110 then .ok ([10], c)
    else if b == 114 then .ok ([13], c)
    else if b == 116 then .ok ([9], c)
    else if b == 92 then .ok ([92], c)
    else if b == 34 then .ok ([34], c)
    else if b == 117 then hexEscape 4 "unicode 4-digit hex code" c
    else if b == 85 then hexEscape 8 "unicode 8-digit hex code" c
    else stop c escapeNames

/-- The text of UTF-8 bytes. -/
def decode (bytes : List UInt8) : String := (String.fromUTF8? (ByteArray.mk bytes.toArray)).getD ""

/-- The body of a basic string: runs of plain bytes and escapes, up to what can be neither. -/
def basicBody : Nat → Cursor → List UInt8 → Parse (List UInt8)
  | 0, c, acc => .ok (acc, c)
  | fuel + 1, c, acc =>
    let run := c.rest.takeWhile isBasicByte
    if !run.isEmpty then basicBody fuel (c.advance run.length) (acc ++ run)
    else if c.peek == some 92 then
      match escape c with
      | .ok (bytes, c') => basicBody fuel c' (acc ++ bytes)
      | .error f => if f.committed then .error f else .ok (acc, c)
    else .ok (acc, c)

/-- **A basic string**, at its quote. -/
def basicString (c : Cursor) : Parse String :=
  match basicBody (c.rest.length + 1) c.bump [] with
  | .error f => .error f
  | .ok (bytes, c) =>
    if c.peek == some 34 then .ok (decode bytes, c.bump) else stop c [.label "basic string"]

/-- **A literal string**, at its apostrophe. -/
def literalString (c : Cursor) : Parse String :=
  let start := c.bump
  let c := skipWhile isLiteralByte start
  if c.peek == some 39 then .ok (textBetween start c, c.bump) else stop c [.label "literal string"]

/-- One piece of a multi-line basic string's content: plain bytes, a line-ending backslash with
the blanks and newlines after it, an escape, or a newline. -/
def multiBasicContent (c : Cursor) : Parse (List UInt8) :=
  let run := c.rest.takeWhile isBasicByte
  if !run.isEmpty then .ok (run, c.advance run.length)
  else if c.peek == some 92 then
    let afterBlanks := blanks c.bump
    match newline afterBlanks with
    | some c' =>
      let rec skipGap : Nat → Cursor → Cursor
        | 0, c => c
        | fuel + 1, c =>
          match newline c with
          | some c => skipGap fuel c
          | none => if c.peek.any isBlank then skipGap fuel (blanks c) else c
      let rec more : Nat → Cursor → Cursor
        | 0, c => c
        | fuel + 1, c =>
          let c := skipGap (c.rest.length + 1) c
          if c.peek == some 92 then
            match newline (blanks c.bump) with
            | some c' => more fuel c'
            | none => c
          else c
      .ok ([], more (c'.rest.length + 1) c')
    | none => escape c
  else
    match newline c with
    | some c => .ok ([10], c)
    | none => miss c []

/-- One or two quotes followed by `follows`, in a multi-line string. -/
def quotesThen (q : UInt8) (follows : Cursor → Bool) (c : Cursor) :
    Option (List UInt8 × Cursor) :=
  match c.rest with
  | a :: b :: _ =>
    if a == q && b == q && follows (c.advance 2) then some ([q, q], c.advance 2)
    else if a == q && follows c.bump then some ([q], c.bump)
    else none
  | [a] => if a == q && follows c.bump then some ([q], c.bump) else none
  | [] => none

/-- The body of a multi-line basic string. -/
def multiBasicBody : Nat → Cursor → List UInt8 → Parse (List UInt8)
  | 0, c, acc => .ok (acc, c)
  | fuel + 1, c, acc =>
    match multiBasicContent c with
    | .ok (bytes, c) => multiBasicBody fuel c (acc ++ bytes)
    | .error f =>
      if f.committed then .error f
      else
        let notQuote (c : Cursor) : Bool := match c.peek with
          | some b => b != 34
          | none => false
        match quotesThen 34 notQuote c with
        | some (qs, c') =>
          match multiBasicContent c' with
          | .ok (bytes, c'') => multiBasicBody fuel c'' (acc ++ qs ++ bytes)
          | .error f => if f.committed then .error f else .ok (acc, c')
        | none =>
          match quotesThen 34 (fun c => startsWith c "\"\"\"") c with
          | some (qs, c') => .ok (acc ++ qs, c')
          | none => .ok (acc, c)

/-- **A multi-line basic string**, at its three quotes; a newline right after them is dropped. -/
def multiBasicString (c : Cursor) : Parse String :=
  let c := c.advance 3
  let c := (newline c).getD c
  match within [.label "multiline basic string"] (multiBasicBody (c.rest.length + 1) c []) with
  | .error f => .error f
  | .ok (bytes, c) =>
    if startsWith c "\"\"\"" then .ok (decode bytes, c.advance 3)
    else stop c [.label "multiline basic string"]

/-- One piece of a multi-line literal string's content: a byte or a newline. -/
def multiLiteralContent (c : Cursor) : Option Cursor :=
  match c.peek with
  | some b => if isLiteralByte b then some c.bump else newline c
  | none => none

/-- The body of a multi-line literal string. -/
def multiLiteralBody : Nat → Cursor → Cursor
  | 0, c => c
  | fuel + 1, c =>
    match multiLiteralContent c with
    | some c => multiLiteralBody fuel c
    | none =>
      let notApostrophe (c : Cursor) : Bool := match c.peek with
        | some b => b != 39
        | none => false
      match quotesThen 39 notApostrophe c with
      | some (_, c') =>
        match multiLiteralContent c' with
        | some c'' => multiLiteralBody fuel c''
        | none => c
      | none =>
        match quotesThen 39 (fun c => startsWith c "'''") c with
        | some (_, c') => c'
        | none => c

/-- Replaces each carriage return and line feed pair by a line feed. -/
def unixLines : List Char → List Char
  | '\r' :: '\n' :: rest => '\n' :: unixLines rest
  | c :: rest => c :: unixLines rest
  | [] => []

/-- **A multi-line literal string**, at its three apostrophes. -/
def multiLiteralString (c : Cursor) : Parse String :=
  let c := c.advance 3
  let start := (newline c).getD c
  let c := multiLiteralBody (start.rest.length + 1) start
  if startsWith c "'''" then
    .ok (String.ofList (unixLines (textBetween start c).toList), c.advance 3)
  else stop c [.label "multiline literal string"]

/-- **A string of any of the four kinds.** -/
def string (c : Cursor) : Parse String :=
  if startsWith c "\"\"\"" then multiBasicString c
  else if c.peek == some 34 then basicString c
  else if startsWith c "'''" then multiLiteralString c
  else if c.peek == some 39 then literalString c
  else miss c []

/-! ## Keys -/

/-- Whether a byte may stand in a bare key. -/
def isBareKeyByte (b : UInt8) : Bool :=
  (65 ≤ b && b ≤ 90) || (97 ≤ b && b ≤ 122) || isDigit b || b == 45 || b == 95

/-- One key: bare, basic-quoted or literal-quoted. -/
def simpleKey (c : Cursor) : Parse TomlKey :=
  let finish (r : Parse String) : Parse TomlKey :=
    r.map fun (name, c') => (⟨name, textBetween c c', spanBetween c c'⟩, c')
  match c.peek with
  | some 34 => finish (basicString c)
  | some 39 => finish (literalString c)
  | _ =>
    let c' := skipWhile isBareKeyByte c
    if c'.offset = c.offset then miss c [] else finish (.ok (textBetween c c', c'))

/-- The dotted rest of a key. -/
def keyParts : Nat → Cursor → List TomlKey → Parse (List TomlKey)
  | 0, c, acc => .ok (acc, c)
  | fuel + 1, c, acc =>
    if c.peek == some 46 then
      match simpleKey (blanks c.bump) with
      | .ok (k, c') => keyParts fuel (blanks c') (acc ++ [k])
      | .error f => if f.committed then .error f else .ok (acc, c)
    else .ok (acc, c)

/-- **A key, dotted or not,** with the blanks around its parts. -/
def key (c : Cursor) : Parse (List TomlKey) :=
  within [.label "key"] do
    let (k, c) ← simpleKey (blanks c)
    keyParts (c.rest.length + 1) (blanks c) [k]

/-! ## Numbers -/

/-- Digits of `isDigitOf` joined by single underscores, after a first digit already consumed;
an underscore must be followed by a digit. -/
def digitsAfterFirst (isDigitOf : UInt8 → Bool) : Nat → Cursor → Parse Unit
  | 0, c => .ok ((), c)
  | fuel + 1, c =>
    match c.peek with
    | some b =>
      if isDigitOf b then digitsAfterFirst isDigitOf fuel c.bump
      else if b == 95 then
        let c := c.bump
        if c.peek.any isDigitOf then digitsAfterFirst isDigitOf fuel c.bump
        else stop c [.expected "digit"]
      else .ok ((), c)
    | none => .ok ((), c)

/-- A decimal integer's text: an optional sign, then `0` or a digit from one to nine with
more digits. -/
def decimalInteger (c : Cursor) : Parse String :=
  let start := c
  let c := if c.peek == some 43 || c.peek == some 45 then c.bump else c
  within [.label "integer"] <|
    match c.peek with
    | some b =>
      if 49 ≤ b && b ≤ 57 then
        (digitsAfterFirst isDigit (c.rest.length + 1) c.bump).map fun (_, c) =>
          (textBetween start c, c)
      else if b == 48 then .ok (textBetween start c.bump, c.bump)
      else miss c []
    | none => miss c []

/-- Digits (with single underscores) of a number that may start with zeros. -/
def zeroPrefixable (c : Cursor) : Parse Unit :=
  if c.peek.any isDigit then digitsAfterFirst isDigit (c.rest.length + 1) c.bump else miss c []

/-- The value of digits in a radix, underscores dropped. -/
def digitsValue (radix : Nat) (text : String) : Nat :=
  text.toList.foldl (fun acc ch =>
    if ch = '_' then acc else acc * radix + ((hexDigit ch.toNat.toUInt8).getD 0)) 0

/-- The largest 64-bit signed integer. -/
def i64Max : Nat := Nat.pow 2 63 - 1

/-- Checks that a signed value fits 64 bits. -/
def fitI64 (negative : Bool) (magnitude : Nat) (c : Cursor) : Except Failure Int :=
  if negative then
    if magnitude > i64Max + 1 then refuse c "number too small to fit in target type"
    else .ok (-(magnitude : Int))
  else if magnitude > i64Max then refuse c "number too large to fit in target type"
  else .ok magnitude

/-- A prefixed integer (`0x`, `0o`, `0b`), at its prefix. -/
def prefixedInteger (radix : Nat) (what : String) (isDigitOf : UInt8 → Bool) (c : Cursor) :
    Parse Int :=
  let body := c.advance 2
  let digits : Parse Unit :=
    if body.peek.any isDigitOf then digitsAfterFirst isDigitOf (body.rest.length + 1) body.bump
    else stop body []
  match within [.label what] (cut digits) with
  | .error f => .error f
  | .ok ((), c') =>
    match fitI64 false (digitsValue radix (textBetween body c')) c with
    | .ok v => .ok (v, c')
    | .error f => .error f

/-- **An integer**: decimal, or hexadecimal, octal or binary after its prefix. -/
def integer (c : Cursor) : Parse Int :=
  if startsWith c "0x" then
    prefixedInteger 16 "hexadecimal integer" (fun b => (hexDigit b).isSome) c
  else if startsWith c "0o" then prefixedInteger 8 "octal integer" (fun b => 48 ≤ b && b ≤ 55) c
  else if startsWith c "0b" then prefixedInteger 2 "binary integer" (fun b => b == 48 || b == 49) c
  else
    match decimalInteger c with
    | .error f => .error f
    | .ok (text, c') =>
      let digits := text.toList.filter Char.isDigit
      let negative := text.startsWith "-"
      match fitI64 negative (digitsValue 10 (String.ofList digits)) c with
      | .ok v => .ok (v, c')
      | .error f => .error f

/-- The significand digits and decimal exponent of a float's text. -/
def floatParts (text : String) : Bool × Nat × Int :=
  let cs := text.toList.filter (· ≠ '_')
  let negative := cs.head? == some '-'
  let cs := cs.dropWhile fun ch => ch = '+' ∨ ch = '-'
  let mantissa := cs.takeWhile fun ch => ch ≠ 'e' ∧ ch ≠ 'E'
  let expPart := (cs.dropWhile fun ch => ch ≠ 'e' ∧ ch ≠ 'E').drop 1
  let intDigits := mantissa.takeWhile Char.isDigit
  let fracDigits := (mantissa.dropWhile Char.isDigit).drop 1
  let expNegative := expPart.head? == some '-'
  let expDigits := expPart.filter Char.isDigit
  let expValue : Int := (digitsValue 10 (String.ofList expDigits) : Int)
  let significand := digitsValue 10 (String.ofList (intDigits ++ fracDigits))
  (negative, significand, (if expNegative then -expValue else expValue) - fracDigits.length)

/-- The exponent part of a float, at its `e`. -/
def exponentPart (c : Cursor) : Parse Unit :=
  if c.peek == some 101 || c.peek == some 69 then
    let c := c.bump
    let c := if c.peek == some 43 || c.peek == some 45 then c.bump else c
    cut (zeroPrefixable c)
  else miss c []

/-- The fraction part of a float, at its point. -/
def fractionPart (c : Cursor) : Parse Unit :=
  if c.peek == some 46 then cut (within [.expected "digit"] (zeroPrefixable c.bump)) else miss c []

/-- The text of a float with a fraction or an exponent. -/
def floatText (c : Cursor) : Except Failure (Unit × Cursor) := do
  let ((), c') ← decimalInteger c
  match exponentPart c' with
  | .ok r => pure r
  | .error f =>
    if f.committed then .error f
    else
      match fractionPart c' with
      | .error f => .error f
      | .ok ((), c'') =>
        match exponentPart c'' with
        | .ok r => pure r
        | .error f => if f.committed then .error f else pure ((), c'')
  where
    decimalInteger (c : Cursor) : Parse Unit := (Toml.decimalInteger c).map fun (_, c) => ((), c)

/-- `inf` or `nan` with an optional sign. -/
def specialFloat (c : Cursor) : Parse TomlFloat :=
  let negative := c.peek == some 45
  let c := if c.peek == some 43 || c.peek == some 45 then c.bump else c
  if startsWith c "inf" then .ok (.infinite negative, c.advance 3)
  else if startsWith c "nan" then .ok (.nan, c.advance 3)
  else miss c []

/-- **A float**: digits with a fraction or an exponent, or a special float; one that overflows to
positive infinity is refused. -/
def float (c : Cursor) : Parse TomlFloat :=
  within [.label "floating-point number"] <|
    match floatText c with
    | .ok ((), c') =>
      let (negative, significand, exponent) := floatParts (textBetween c c')
      match Binary64.ofDecimal negative significand exponent with
      | some x => .ok (.finite x, c')
      | none => if negative then .ok (.infinite true, c') else stop c []
    | .error f => if f.committed then .error f else specialFloat c

/-! ## Booleans and date-times -/

/-- Exactly `n` digits, as a number. -/
def fixedDigits (n : Nat) (c : Cursor) : Option (Nat × Cursor) :=
  let ds := (c.rest.take n).takeWhile isDigit
  if ds.length = n then some (ds.foldl (fun acc b => acc * 10 + (b.toNat - 48)) 0, c.advance n)
  else none

/-- Two digits in a range, or a failure (committed when `committed`) at their start. -/
def ranged (lo hi : Nat) (committed : Bool) (c : Cursor) : Parse Nat :=
  match fixedDigits 2 c with
  | none => .error ⟨c.offset, [], none, committed⟩
  | some (v, c') =>
    if lo ≤ v ∧ v ≤ hi then .ok (v, c')
    else .error ⟨c.offset, [], some "value is out of range", committed⟩

/-- Two digits, zero-padded. -/
def pad2 (n : Nat) : String := if n < 10 then "0" ++ toString n else toString n

/-- A time `HH:MM:SS[.fraction]`, at its hour; the part after the first colon is committed. -/
def partialTime (c : Cursor) : Except Failure (String × Cursor) := do
  let (h, c) ← ranged 0 23 false c
  if c.peek != some 58 then miss c []
  else
    let (m, c) ← ranged 0 59 true c.bump
    if c.peek != some 58 then stop c []
    else
      let (s, c) ← ranged 0 60 true c.bump
      let (fraction, c) :=
        if c.peek == some 46 && (c.bump.peek.any isDigit) then
          let ds := c.bump.rest.takeWhile isDigit
          let kept := (ds.take 9).map fun b => Char.ofNat b.toNat
          let padded := kept ++ List.replicate (9 - kept.length) '0'
          let kept := String.ofList (padded.reverse.dropWhile (· = '0')).reverse
          (if kept.isEmpty then "" else "." ++ String.ofList kept.toList, c.bump.advance ds.length)
        else ("", c)
      pure (pad2 h ++ ":" ++ pad2 m ++ ":" ++ pad2 s ++ fraction, c)

/-- A time offset: `Z`, or a sign with hours and minutes. -/
def timeOffset (c : Cursor) : Parse String :=
  if c.peek == some 90 || c.peek == some 122 then .ok ("Z", c.bump)
  else if c.peek == some 43 || c.peek == some 45 then
    let sign := if c.peek == some 43 then "+" else "-"
    within [.label "time offset"] <| cut do
      let (h, c) ← ranged 0 23 false c.bump
      if c.peek != some 58 then miss c []
      else
        let (m, c) ← ranged 0 59 false c.bump
        pure (if h = 0 ∧ m = 0 then "+00:00" else sign ++ pad2 h ++ ":" ++ pad2 m, c)
  else miss c []

/-- The number of days of a month. -/
def monthDays (year month : Nat) : Nat :=
  if month = 2 then (if year % 4 = 0 ∧ (year % 100 ≠ 0 ∨ year % 400 = 0) then 29 else 28)
  else if month = 4 ∨ month = 6 ∨ month = 9 ∨ month = 11 then 30 else 31

/-- A date `YYYY-MM-DD`, at its year; the part after the first dash is committed. -/
def fullDate (c : Cursor) : Except Failure (String × Cursor) := do
  match fixedDigits 4 c with
  | none => miss c []
  | some (y, c) =>
    if c.peek != some 45 then miss c []
    else
      let (m, c) ← ranged 1 12 true c.bump
      if c.peek != some 45 then stop c []
      else
        let dayStart := c.bump
        let (d, c) ← ranged 1 31 true dayStart
        if d > monthDays y m then refuse dayStart "value is out of range"
        else
          let year := toString y
          let year := String.ofList (List.replicate (4 - year.length) '0') ++ year
          pure (year ++ "-" ++ pad2 m ++ "-" ++ pad2 d, c)

/-- **A date-time, a date or a time,** as it displays. -/
def dateTime (c : Cursor) : Parse String :=
  match within [.label "date-time"] (fullDate c) with
  | .ok (date, c') =>
    let timed : Option (Except Failure (String × Cursor)) :=
      if c'.peek == some 84 || c'.peek == some 116 || c'.peek == some 32 then
        match partialTime c'.bump with
        | .ok (t, c'') =>
          match timeOffset c'' with
          | .ok (o, c''') => some (.ok (date ++ "T" ++ t ++ o, c'''))
          | .error f => if f.committed then some (.error (f.note [.label "date-time"]))
            else some (.ok (date ++ "T" ++ t, c''))
        | .error f => if f.committed then some (.error (f.note [.label "date-time"])) else none
      else none
    match timed with
    | some r => r
    | none => .ok (date, c')
  | .error f =>
    if f.committed then .error f
    else within [.label "time"] (partialTime c)

end Toml

end ChatGateway
