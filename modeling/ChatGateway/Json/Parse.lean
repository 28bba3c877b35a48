import ChatGateway.Json.Value

/-! # Reading JSON text

`Json.parse` reads a JSON document the way a strict streaming reader does, and on failure says
why and where, in the reader's words: `EOF while parsing a list at line 1 column 4`.

The text is read as UTF-8 bytes through a `Cursor`. Positions count lines from 1 and columns in
bytes from the start of the line; an error found by looking at the next byte (a *peek* error) is
placed one byte further than an error found after consuming a byte. Containers nest at most 127
deep.

Numbers follow the reader's three kinds: digits that fit `u64` give `Number.nat`, a minus sign
and digits that fit `i64` give `Number.neg`, anything else (a fraction, an exponent, `-0`, or
too many digits) gives a double built by `Binary64.ofDecimalParts`, whose overflow is the
error `number out of range`.

The primitives (`Cursor.skipBlanks`, `Cursor.readString`, `Cursor.readNumber`, `Cursor.readValue`)
are shared with the typed configuration reader of `ChatGateway.Config.JsonText`.
-/

namespace ChatGateway

/-- Why a JSON text could not be read. -/
inductive SyntaxIssue where
  | eofWhileParsingList
  | eofWhileParsingObject
  | eofWhileParsingString
  | eofWhileParsingValue
  | expectedColon
  | expectedListCommaOrEnd
  | expectedObjectCommaOrEnd
  | expectedSomeIdent
  | expectedSomeValue
  | invalidEscape
  | invalidNumber
  | numberOutOfRange
  | controlCharacterWhileParsingString
  | keyMustBeAString
  | loneLeadingSurrogateInHexEscape
  | trailingComma
  | trailingCharacters
  | unexpectedEndOfHexEscape
  | recursionLimitExceeded
  deriving DecidableEq, Repr

namespace SyntaxIssue

/-- The reader's wording of each issue. -/
def message : SyntaxIssue → String
  | .eofWhileParsingList => "EOF while parsing a list"
  | .eofWhileParsingObject => "EOF while parsing an object"
  | .eofWhileParsingString => "EOF while parsing a string"
  | .eofWhileParsingValue => "EOF while parsing a value"
  | .expectedColon => "expected `:`"
  | .expectedListCommaOrEnd => "expected `,` or `]`"
  | .expectedObjectCommaOrEnd => "expected `,` or `\x7d`"
  | .expectedSomeIdent => "expected ident"
  | .expectedSomeValue => "expected value"
  | .invalidEscape => "invalid escape"
  | .invalidNumber => "invalid number"
  | .numberOutOfRange => "number out of range"
  | .controlCharacterWhileParsingString =>
    "control character (\\u0000-\\u001F) found while parsing a string"
  | .keyMustBeAString => "key must be a string"
  | .loneLeadingSurrogateInHexEscape => "lone leading surrogate in hex escape"
  | .trailingComma => "trailing comma"
  | .trailingCharacters => "trailing characters"
  | .unexpectedEndOfHexEscape => "unexpected end of hex escape"
  | .recursionLimitExceeded => "recursion limit exceeded"

end SyntaxIssue

/-- A line (from 1) and a column (bytes from the start of the line). -/
structure TextPosition where
  line : Nat
  column : Nat
  deriving DecidableEq, Repr

/-- The position of byte offset `i` of a text. -/
def TextPosition.ofOffset (bytes : List UInt8) (i : Nat) : TextPosition :=
  let before := bytes.take i
  let lineStart := (before.zipIdx.filter (fun (b, _) => b == 10)).getLast?.map (·.2 + 1)
  let start := lineStart.getD 0
  { line := 1 + (before.take start).count 10, column := i - start }

/-- A read failure: the issue and the byte offset it is placed at. -/
structure ReadFailure where
  issue : SyntaxIssue
  offset : Nat
  deriving Repr

/-- A read failure placed in its text. -/
structure SyntaxError where
  issue : SyntaxIssue
  position : TextPosition
  deriving Repr

/-- `<issue> at line <l> column <c>`. -/
def SyntaxError.message (e : SyntaxError) : String :=
  e.issue.message ++ " at line " ++ toString e.position.line ++ " column " ++
    toString e.position.column

/-- The part of a text still to be read, with its byte offset and the text's length. -/
structure Cursor where
  rest : List UInt8
  offset : Nat
  total : Nat

/-- A reading step: a result and the cursor after it, or a failure. -/
abbrev Reading (α : Type) := Except ReadFailure (α × Cursor)

namespace Cursor

/-- A cursor at the start of a text. -/
def ofBytes (bytes : List UInt8) : Cursor := ⟨bytes, 0, bytes.length⟩

/-- The next byte, if any. -/
def peek (c : Cursor) : Option UInt8 := c.rest.head?

/-- Moves past one byte. -/
def bump (c : Cursor) : Cursor :=
  match c.rest with
  | [] => c
  | _ :: r => ⟨r, c.offset + 1, c.total⟩

/-- Moves past `n` bytes. -/
def advance (c : Cursor) (n : Nat) : Cursor :=
  ⟨c.rest.drop n, min c.total (c.offset + n), c.total⟩

/-- A failure placed at the current offset. -/
def fail (c : Cursor) (i : SyntaxIssue) : Reading α := .error ⟨i, c.offset⟩

/-- A failure placed one byte further: the issue was seen on the byte not yet consumed. -/
def failPeek (c : Cursor) (i : SyntaxIssue) : Reading α := .error ⟨i, min c.total (c.offset + 1)⟩

/-- Whether a byte is a JSON blank. -/
def isBlank (b : UInt8) : Bool := b == 32 || b == 10 || b == 9 || b == 13

/-- Skips blanks. -/
def skipBlanks (c : Cursor) : Cursor :=
  let n := (c.rest.takeWhile isBlank).length
  c.advance n

/-- Whether a byte is an ASCII digit. -/
def isDigit (b : UInt8) : Bool := 48 ≤ b && b ≤ 57

/-- The value of an ASCII digit. -/
def digitValue (b : UInt8) : Nat := b.toNat - 48

/-- Whether `acc * 10 + d` would pass `limit`. -/
def wouldOverflow (acc d limit : Nat) : Bool :=
  acc ≥ limit / 10 && (acc > limit / 10 || d > limit % 10)

/-- Digits accumulated while the value stays within `limit`: the value, how many digits were
taken, and whether taking stopped at a digit that would overflow. -/
def scanDigits (limit : Nat) : List UInt8 → Nat → Nat → Nat × Nat × Bool
  | [], acc, n => (acc, n, false)
  | b :: r, acc, n =>
    if isDigit b then
      if wouldOverflow acc (digitValue b) limit then (acc, n, true)
      else scanDigits limit r (acc * 10 + digitValue b) (n + 1)
    else (acc, n, false)

/-- The number of leading digits. -/
def countDigits (bs : List UInt8) : Nat := (bs.takeWhile isDigit).length

/-- `2^64 - 1`. -/
def u64Max : Nat := Nat.pow 2 64 - 1

/-- `2^31 - 1`. -/
def i32Max : Nat := Nat.pow 2 31 - 1

/-- Clamps an integer into the 32-bit signed range. -/
def saturate32 (v : Int) : Int := max (-Int.pow 2 31) (min (Int.pow 2 31 - 1) v)

/-- A double from its decimal parts, failing with `number out of range` at the cursor. -/
def finishFloat (c : Cursor) (positive : Bool) (significand : Nat) (exponent : Int) :
    Reading Binary64 :=
  match Binary64.ofDecimalParts (!positive) significand exponent with
  | some x => .ok (x, c)
  | none => c.fail .numberOutOfRange

/-- The exponent part, the `e` or `E` not yet consumed. -/
def readExponent (c : Cursor) (positive : Bool) (significand : Nat) (start : Int) :
    Reading Binary64 :=
  let c := c.bump
  let (positiveExp, c) :=
    match c.peek with
    | some 43 => (true, c.bump)
    | some 45 => (false, c.bump)
    | _ => (true, c)
  match c.peek with
  | none => c.fail .eofWhileParsingValue
  | some b =>
    if !isDigit b then c.bump.fail .invalidNumber
    else
      let c := c.bump
      let (exp, n, overflowed) := scanDigits i32Max c.rest (digitValue b) 0
      if overflowed then
        -- the digit that overflows is consumed before the check
        let c := c.advance (n + 1)
        if significand ≠ 0 && positiveExp then c.fail .numberOutOfRange
        else
          let c := c.advance (countDigits c.rest)
          .ok (if positive then Binary64.zero else Binary64.zero.negate, c)
      else
        let c := c.advance n
        let final := saturate32 (if positiveExp then start + exp else start - exp)
        c.finishFloat positive significand final

/-- The fraction part, the point not yet consumed. -/
def readFraction (c : Cursor) (positive : Bool) (significand : Nat) (start : Int) :
    Reading Binary64 :=
  let c := c.bump
  let (sig, n, overflowed) := scanDigits u64Max c.rest significand 0
  let c := c.advance n
  let exponent := start - n
  if overflowed then
    let c := c.advance (countDigits c.rest)
    match c.peek with
    | some 101 | some 69 => c.readExponent positive sig exponent
    | _ => c.finishFloat positive sig exponent
  else if n = 0 then
    match c.peek with
    | some _ => c.failPeek .invalidNumber
    | none => c.failPeek .eofWhileParsingValue
  else
    match c.peek with
    | some 101 | some 69 => c.readExponent positive sig exponent
    | _ => c.finishFloat positive sig exponent

/-- What follows the integer digits: a fraction, an exponent, or the end of the number. -/
def readNumberTail (c : Cursor) (positive : Bool) (significand : Nat) : Reading Number :=
  match c.peek with
  | some 46 => (c.readFraction positive significand 0).map fun (x, c) => (.float x, c)
  | some 101 | some 69 => (c.readExponent positive significand 0).map fun (x, c) => (.float x, c)
  | _ =>
    if positive then .ok (.nat significand, c)
    else if significand = 0 ∨ significand > Nat.pow 2 63 then
      -- `-0` and magnitudes past `i64` become doubles
      .ok (.float (Binary64.ofNat significand).negate, c)
    else .ok (.neg significand, c)

/-- A number whose sign (if any) is consumed. -/
def readUnsigned (c : Cursor) (positive : Bool) : Reading Number :=
  match c.peek with
  | none => c.fail .eofWhileParsingValue
  | some b =>
    let c := c.bump
    if b == 48 then
      match c.peek with
      | some d => if isDigit d then c.failPeek .invalidNumber else c.readNumberTail positive 0
      | none => c.readNumberTail positive 0
    else if isDigit b then
      let (sig, n, overflowed) := scanDigits u64Max c.rest (digitValue b) 0
      let c := c.advance n
      if overflowed then
        -- too many digits for `u64`: the rest only scale the value
        let extra := countDigits c.rest
        let c := c.advance extra
        match c.peek with
        | some 46 => (c.readFraction positive sig extra).map fun (x, c) => (.float x, c)
        | some 101 | some 69 =>
          (c.readExponent positive sig extra).map fun (x, c) => (.float x, c)
        | _ => (c.finishFloat positive sig extra).map fun (x, c) => (.float x, c)
      else c.readNumberTail positive sig
    else c.fail .invalidNumber

/-- A number starting at the cursor (a digit or a minus sign). -/
def readNumber (c : Cursor) : Reading Number :=
  match c.peek with
  | some 45 => c.bump.readUnsigned false
  | _ => c.readUnsigned true

/-- Whether a byte is an ASCII hexadecimal digit, and its value. -/
def hexValue (b : UInt8) : Option Nat :=
  if 48 ≤ b && b ≤ 57 then some (b.toNat - 48)
  else if 97 ≤ b && b ≤ 102 then some (b.toNat - 87)
  else if 65 ≤ b && b ≤ 70 then some (b.toNat - 55)
  else none

/-- Four hexadecimal digits of a `\u` escape. -/
def readHex4 (c : Cursor) : Reading Nat :=
  match c.rest with
  | a :: b :: d :: e :: _ =>
    let c := c.advance 4
    match hexValue a, hexValue b, hexValue d, hexValue e with
    | some w, some x, some y, some z => .ok (((w * 16 + x) * 16 + y) * 16 + z, c)
    | _, _, _, _ => c.fail .invalidEscape
  | _ => (c.advance c.rest.length).fail .eofWhileParsingString

/-- The UTF-8 bytes of a code point. -/
def utf8Of (n : Nat) : List UInt8 := (String.singleton (Char.ofNat n)).toUTF8.toList

/-- The rest of a `\u` escape, the `\u` consumed: one code point, or a surrogate pair. -/
def readUnicodeEscape (c : Cursor) : Reading (List UInt8) :=
  match c.readHex4 with
  | .error e => .error e
  | .ok (n, c) =>
    if 0xDC00 ≤ n ∧ n ≤ 0xDFFF then c.fail .loneLeadingSurrogateInHexEscape
    else if n < 0xD800 ∨ n > 0xDBFF then .ok (utf8Of n, c)
    else
      match c.peek with
      | none => c.fail .eofWhileParsingString
      | some b =>
        if b != 92 then c.bump.fail .unexpectedEndOfHexEscape
        else
          let c := c.bump
          match c.peek with
          | none => c.fail .eofWhileParsingString
          | some u =>
            if u != 117 then c.bump.fail .unexpectedEndOfHexEscape
            else
              match c.bump.readHex4 with
              | .error e => .error e
              | .ok (n2, c) =>
                if n2 < 0xDC00 ∨ n2 > 0xDFFF then c.fail .loneLeadingSurrogateInHexEscape
                else .ok (utf8Of (((n - 0xD800) * 1024 + (n2 - 0xDC00)) + 0x10000), c)

/-- One escape, the backslash consumed. -/
def readEscape (c : Cursor) : Reading (List UInt8) :=
  match c.peek with
  | none => c.fail .eofWhileParsingString
  | some b =>
    let c := c.bump
    if b == 34 then .ok ([34], c)
    else if b == 92 then .ok ([92], c)
    else if b == 47 then .ok ([47], c)
    else if b == 98 then .ok ([8], c)
    else if b == 102 then .ok ([12], c)
    else if b == 110 then .ok ([10], c)
    else if b == 114 then .ok ([13], c)
    else if b == 116 then .ok ([9], c)
    else if b == 117 then c.readUnicodeEscape
    else c.fail .invalidEscape

/-- Whether a byte ends a plain run of string bytes. -/
def isStringStop (b : UInt8) : Bool := b == 34 || b == 92 || b < 32

/-- String bytes up to the closing quote, the opening quote consumed; `fuel` bounds the number
of runs and escapes. -/
def readStringBytes : Nat → Cursor → List UInt8 → Reading (List UInt8)
  | 0, c, _ => c.fail .eofWhileParsingString
  | fuel + 1, c, acc =>
    let run := c.rest.takeWhile (fun b => !isStringStop b)
    let c := c.advance run.length
    let acc := acc ++ run
    match c.peek with
    | none => c.fail .eofWhileParsingString
    | some b =>
      if b == 34 then .ok (acc, c.bump)
      else if b == 92 then
        match c.bump.readEscape with
        | .error e => .error e
        | .ok (bytes, c) => readStringBytes fuel c (acc ++ bytes)
      else c.bump.fail .controlCharacterWhileParsingString

/-- A string, the opening quote consumed. -/
def readString (c : Cursor) : Reading String :=
  match readStringBytes (c.rest.length + 1) c [] with
  | .error e => .error e
  | .ok (bytes, c) => .ok ((String.fromUTF8? (ByteArray.mk bytes.toArray)).getD "", c)

/-- The remaining letters of `null`, `true` or `false`, the first letter consumed. -/
def readIdent (c : Cursor) : List UInt8 → Reading Unit
  | [] => .ok ((), c)
  | x :: xs =>
    match c.peek with
    | none => c.fail .eofWhileParsingValue
    | some b => if b == x then c.bump.readIdent xs else c.bump.fail .expectedSomeIdent

/-- The letters of `ull`, `rue` and `alse`. -/
def ullBytes : List UInt8 := [117, 108, 108]
/-- See `ullBytes`. -/
def rueBytes : List UInt8 := [114, 117, 101]
/-- See `ullBytes`. -/
def alseBytes : List UInt8 := [97, 108, 115, 101]

mutual

/-- A value at the cursor (blanks before it skipped). `depth` is how many containers may still
open; `fuel` bounds the calls, each of which reads at least one byte. -/
def readValue : Nat → Nat → Cursor → Reading Json
  | 0, _, c => c.failPeek .recursionLimitExceeded
  | fuel + 1, depth, c =>
    let c := c.skipBlanks
    match c.peek with
    | none => c.failPeek .eofWhileParsingValue
    | some b =>
      if b == 110 then (c.bump.readIdent ullBytes).map fun (_, c) => (.null, c)
      else if b == 116 then (c.bump.readIdent rueBytes).map fun (_, c) => (.bool true, c)
      else if b == 102 then (c.bump.readIdent alseBytes).map fun (_, c) => (.bool false, c)
      else if b == 45 || isDigit b then c.readNumber.map fun (n, c) => (.num n, c)
      else if b == 34 then c.bump.readString.map fun (s, c) => (.str s, c)
      else if b == 91 then
        if depth ≤ 1 then c.failPeek .recursionLimitExceeded
        else readItems fuel (depth - 1) c.bump true []
      else if b == 123 then
        if depth ≤ 1 then c.failPeek .recursionLimitExceeded
        else readFields fuel (depth - 1) c.bump true []
      else c.failPeek .expectedSomeValue

/-- The items of an array, `[` consumed. -/
def readItems : Nat → Nat → Cursor → Bool → List Json → Reading Json
  | 0, _, c, _, _ => c.failPeek .recursionLimitExceeded
  | fuel + 1, depth, c, first, acc =>
    let c := c.skipBlanks
    match c.peek with
    | none => c.failPeek .eofWhileParsingList
    | some 93 => .ok (.arr acc.reverse, c.bump)
    | some b =>
      let next : Option Cursor :=
        if b == 44 && !first then some c.bump.skipBlanks
        else if first then some c
        else none
      match next with
      | none => c.failPeek .expectedListCommaOrEnd
      | some c =>
        match c.peek with
        | some 93 => c.failPeek .trailingComma
        | none => c.failPeek .eofWhileParsingValue
        | some _ =>
          match readValue fuel depth c with
          | .error e => .error e
          | .ok (v, c) => readItems fuel depth c false (v :: acc)

/-- The fields of an object, `{` consumed. -/
def readFields : Nat → Nat → Cursor → Bool → List (String × Json) → Reading Json
  | 0, _, c, _, _ => c.failPeek .recursionLimitExceeded
  | fuel + 1, depth, c, first, acc =>
    let c := c.skipBlanks
    match c.peek with
    | none => c.failPeek .eofWhileParsingObject
    | some 125 => .ok (.obj acc, c.bump)
    | some b =>
      let next : Option Cursor :=
        if b == 44 && !first then some c.bump.skipBlanks
        else if first then some c
        else none
      match next with
      | none => c.failPeek .expectedObjectCommaOrEnd
      | some c =>
        match c.peek with
        | some 34 =>
          match c.bump.readString with
          | .error e => .error e
          | .ok (k, c) =>
            let c := c.skipBlanks
            match c.peek with
            | some 58 =>
              match readValue fuel depth c.bump with
              | .error e => .error e
              | .ok (v, c) => readFields fuel depth c false (Json.insertField k v acc)
            | some _ => c.failPeek .expectedColon
            | none => c.failPeek .eofWhileParsingObject
        | some 125 => c.failPeek .trailingComma
        | some _ => c.failPeek .keyMustBeAString
        | none => c.failPeek .eofWhileParsingValue

end

/-- Fuel enough for every call a text of this length can make. -/
def fuelFor (c : Cursor) : Nat := 2 * c.rest.length + 4

/-- The deepest nesting a reader accepts, plus one. -/
def nestingLimit : Nat := 128

/-- Fails unless only blanks remain. -/
def expectEnd (c : Cursor) : Reading Unit :=
  let c := c.skipBlanks
  match c.peek with
  | none => .ok ((), c)
  | some _ => c.failPeek .trailingCharacters

end Cursor

namespace Json

/-- Places a failure in its text. -/
def placeFailure (bytes : List UInt8) (f : ReadFailure) : SyntaxError :=
  ⟨f.issue, TextPosition.ofOffset bytes f.offset⟩

/-- Reads one JSON document. -/
def parse (text : String) : Except SyntaxError Json :=
  let bytes := text.toUTF8.toList
  let c := Cursor.ofBytes bytes
  let result : Except ReadFailure Json :=
    match Cursor.readValue c.fuelFor Cursor.nestingLimit c with
    | .error f => .error f
    | .ok (v, c) => (c.expectEnd).map fun _ => v
  result.mapError (placeFailure bytes)

end Json

end ChatGateway
