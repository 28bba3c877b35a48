import ChatGateway.Config.Shape
import ChatGateway.Json.Parse

/-! # Reading a configuration from JSON text

The JSON reader of configurations reads the text once, front to back, guided by the shape it
expects, so the first problem met decides the error: a value of the wrong kind early in the
text is reported even when the text is broken further on.

* Syntax errors are placed as `Json.parse` places them.
* A value of the wrong kind is consumed before it is reported, when it is a scalar; the error
  is placed just after it (or, for a container, just before it).
* A record's own errors (a missing or repeated field, a sequence too short) are placed after
  the record's closing bracket, or where the reader stopped when the bracket is not next.
* Fields a record does not know are skipped by a lighter reader that checks only the syntax:
  it does not compute numbers, does not check surrogates in escapes, and has no nesting limit.
* A record may also be written as a sequence of its fields in order; an enumeration as its name
  or as an object whose only key is the name, with `null` as value.
-/

namespace ChatGateway

namespace JsonText

/-- **Why the reader stopped:** a placed error, or an error a record raised at a cursor, which
the record places after running to its closing bracket. -/
inductive Misread where
  /-- An error placed at a byte offset. -/
  | placed (text : String) (offset : Nat)
  /-- An error raised where the cursor stands, not yet placed. -/
  | pending (text : String) (rest : Cursor)

/-- A reading step. -/
abbrev Step (α : Type) := Except Misread (α × Cursor)

/-- A syntax failure as a misread. -/
def ofFailure (f : ReadFailure) : Misread := .placed f.issue.message f.offset

/-- A syntax reading step as a typed one. -/
def lift {α : Type} (r : Reading α) : Step α := r.mapError ofFailure

/-- A decoding error placed at the cursor. -/
def failAt {α : Type} (c : Cursor) (e : DecodeError) : Step α := .error (.placed e.text c.offset)

/-- A syntax issue seen on the byte not yet consumed. -/
def peekFail {α : Type} (c : Cursor) (i : SyntaxIssue) : Step α := lift (c.failPeek i)

/-- A syntax issue placed at the cursor. -/
def failHere {α : Type} (c : Cursor) (i : SyntaxIssue) : Step α := lift (c.fail i)

/-- **What the reader found instead of what it expected:** a scalar is consumed and the error
placed after it; a container is not consumed; anything else is not a value. -/
def foundAt (c : Cursor) (expected : String) : Misread :=
  let found (u : Unexpected) (c : Cursor) : Misread :=
    .placed (DecodeError.invalidType u expected).text c.offset
  match c.peek with
  | some 110 =>
    match c.bump.readIdent Cursor.ullBytes with
    | .error f => ofFailure f
    | .ok (_, c) => found .null c
  | some 116 =>
    match c.bump.readIdent Cursor.rueBytes with
    | .error f => ofFailure f
    | .ok (_, c) => found (.bool true) c
  | some 102 =>
    match c.bump.readIdent Cursor.alseBytes with
    | .error f => ofFailure f
    | .ok (_, c) => found (.bool false) c
  | some 34 =>
    match c.bump.readString with
    | .error f => ofFailure f
    | .ok (s, c) => found (.str s) c
  | some 91 => found .seq c
  | some 123 => found .map c
  | some b =>
    if b == 45 || Cursor.isDigit b then
      match c.readNumber with
      | .error f => ofFailure f
      | .ok (n, c) => found (.ofNumber n) c
    else ofFailure ⟨.expectedSomeValue, min c.total (c.offset + 1)⟩
  | none => ofFailure ⟨.expectedSomeValue, min c.total (c.offset + 1)⟩

/-- Skips the colon after a key. -/
def colon (c : Cursor) : Step Unit :=
  let c := c.skipBlanks
  match c.peek with
  | some 58 => .ok ((), c.bump)
  | some _ => peekFail c .expectedColon
  | none => peekFail c .eofWhileParsingObject

/-! ## Skipping values -/

/-- The digits after the first, then what may follow them. -/
def skipDigits (c : Cursor) : Cursor := c.advance (Cursor.countDigits c.rest)

/-- The exponent of a skipped number, the `e` not yet consumed. -/
def skipExponent (c : Cursor) : Except ReadFailure Cursor :=
  let c := c.bump
  let c := match c.peek with
    | some 43 | some 45 => c.bump
    | _ => c
  match c.peek with
  | some b =>
    if Cursor.isDigit b then .ok (skipDigits c.bump) else .error ⟨.invalidNumber, c.offset + 1⟩
  | none => .error ⟨.invalidNumber, c.offset⟩

/-- The fraction of a skipped number, the point not yet consumed. -/
def skipFraction (c : Cursor) : Except ReadFailure Cursor :=
  let c := c.bump
  let n := Cursor.countDigits c.rest
  if n = 0 then .error ⟨.invalidNumber, min c.total (c.offset + 1)⟩
  else
    let c := c.advance n
    match c.peek with
    | some 101 | some 69 => skipExponent c
    | _ => .ok c

/-- A skipped number, its sign (if any) consumed: the digits are checked, not computed. -/
def skipNumber (c : Cursor) : Except ReadFailure Cursor :=
  let after (c : Cursor) : Except ReadFailure Cursor :=
    match c.peek with
    | some 46 => skipFraction c
    | some 101 | some 69 => skipExponent c
    | _ => .ok c
  match c.peek with
  | some 48 =>
    let c := c.bump
    match c.peek with
    | some d => if Cursor.isDigit d then .error ⟨.invalidNumber, min c.total (c.offset + 1)⟩
      else after c
    | none => after c
  | some b =>
    if Cursor.isDigit b then after (skipDigits c.bump)
    else .error ⟨.invalidNumber, c.offset + 1⟩
  | none => .error ⟨.invalidNumber, c.offset⟩

/-- An escape of a skipped string, the backslash consumed; a `\u` escape needs only four
hexadecimal digits. -/
def skipEscape (c : Cursor) : Except ReadFailure Cursor :=
  match c.peek with
  | none => .error ⟨.eofWhileParsingString, c.offset⟩
  | some b =>
    let c := c.bump
    if b == 117 then (c.readHex4).map (·.2)
    else if b == 34 || b == 92 || b == 47 || b == 98 || b == 102 || b == 110 || b == 114 ||
      b == 116 then .ok c
    else .error ⟨.invalidEscape, c.offset⟩

/-- A skipped string, the opening quote consumed; a control character is reported where it
stands. -/
def skipString : Nat → Cursor → Except ReadFailure Cursor
  | 0, c => .error ⟨.eofWhileParsingString, c.offset⟩
  | fuel + 1, c =>
    let c := c.advance (c.rest.takeWhile fun b => !Cursor.isStringStop b).length
    match c.peek with
    | none => .error ⟨.eofWhileParsingString, c.offset⟩
    | some b =>
      if b == 34 then .ok c.bump
      else if b == 92 then
        match skipEscape c.bump with
        | .error f => .error f
        | .ok c => skipString fuel c
      else .error ⟨.controlCharacterWhileParsingString, c.offset⟩

mutual

/-- **Skips one value** inside the open containers `frames` (innermost first, `true` for an
object), then closes what it can. -/
def skipValue : Nat → List Bool → Cursor → Except ReadFailure Cursor
  | 0, _, c => .error ⟨.recursionLimitExceeded, c.offset⟩
  | fuel + 1, frames, c =>
    let c := c.skipBlanks
    let scalar (r : Except ReadFailure Cursor) : Except ReadFailure Cursor :=
      match r with
      | .error f => .error f
      | .ok c => if frames.isEmpty then .ok c else skipClose fuel frames true c
    match c.peek with
    | none => .error ⟨.eofWhileParsingValue, min c.total (c.offset + 1)⟩
    | some b =>
      if b == 110 then scalar ((c.bump.readIdent Cursor.ullBytes).map (·.2))
      else if b == 116 then scalar ((c.bump.readIdent Cursor.rueBytes).map (·.2))
      else if b == 102 then scalar ((c.bump.readIdent Cursor.alseBytes).map (·.2))
      else if b == 45 then scalar (skipNumber c.bump)
      else if Cursor.isDigit b then scalar (skipNumber c)
      else if b == 34 then scalar (skipString (c.rest.length + 1) c.bump)
      else if b == 91 then skipClose fuel (false :: frames) false c.bump
      else if b == 123 then skipClose fuel (true :: frames) false c.bump
      else .error ⟨.expectedSomeValue, min c.total (c.offset + 1)⟩

/-- After a value or an opening bracket: a comma (when one may come) leads to the next value,
a closing bracket closes the innermost container. -/
def skipClose : Nat → List Bool → Bool → Cursor → Except ReadFailure Cursor
  | 0, _, _, c => .error ⟨.recursionLimitExceeded, c.offset⟩
  | _, [], _, c => .ok c
  | fuel + 1, isObject :: outer, acceptComma, c =>
    let c := c.skipBlanks
    let peekAt (i : SyntaxIssue) : Except ReadFailure Cursor :=
      .error ⟨i, min c.total (c.offset + 1)⟩
    let next (c : Cursor) : Except ReadFailure Cursor :=
      if isObject then
        let c := c.skipBlanks
        match c.peek with
        | some 34 =>
          match skipString (c.rest.length + 1) c.bump with
          | .error f => .error f
          | .ok c =>
            let c := c.skipBlanks
            match c.peek with
            | some 58 => skipValue fuel (isObject :: outer) c.bump
            | some _ => .error ⟨.expectedColon, min c.total (c.offset + 1)⟩
            | none => .error ⟨.eofWhileParsingObject, min c.total (c.offset + 1)⟩
        | some _ => .error ⟨.keyMustBeAString, min c.total (c.offset + 1)⟩
        | none => .error ⟨.eofWhileParsingObject, min c.total (c.offset + 1)⟩
      else skipValue fuel (isObject :: outer) c
    match c.peek with
    | none => peekAt (if isObject then .eofWhileParsingObject else .eofWhileParsingList)
    | some b =>
      if b == 44 && acceptComma then next c.bump
      else if (b == 93 && !isObject) || (b == 125 && isObject) then
        if outer.isEmpty then .ok c.bump else skipClose fuel outer true c.bump
      else if acceptComma then
        peekAt (if isObject then .expectedObjectCommaOrEnd else .expectedListCommaOrEnd)
      else next c

end

/-- Skips one value of any shape. -/
def skip (c : Cursor) : Step Unit :=
  match skipValue (2 * c.rest.length + 4) [] c with
  | .error f => .error (ofFailure f)
  | .ok c => .ok ((), c)

/-! ## Reading values of a shape -/

/-- Where a record's reader stands after running to its closing brace: the brace is consumed
when it is next. -/
def closeBrace (c : Cursor) : Cursor :=
  let c := c.skipBlanks
  if c.peek == some 125 then c.bump else c

/-- Where a record read from a sequence stands after running to its closing bracket: the
bracket, or a comma and the blanks after it, is consumed when next. -/
def closeBracket (c : Cursor) : Cursor :=
  let c := c.skipBlanks
  match c.peek with
  | some 93 => c.bump
  | some 44 => c.bump.skipBlanks
  | _ => c

/-- Places a record's pending error at the position `close` reaches. -/
def settle (close : Cursor → Cursor) : Misread → Misread
  | .pending t c => .placed t (close c).offset
  | m => m

/-- The end of a sequence read as a record: its closing bracket, with nothing left in it. -/
def endSequence (c : Cursor) : Step Unit :=
  let c := c.skipBlanks
  match c.peek with
  | some 93 => .ok ((), c.bump)
  | some 44 =>
    let c := c.bump.skipBlanks
    if c.peek == some 93 then peekFail c .trailingComma else peekFail c .trailingCharacters
  | some _ => peekFail c .trailingCharacters
  | none => peekFail c .eofWhileParsingList

/-- The next element of a sequence, blanks and a separating comma skipped: `none` at the
closing bracket (not consumed), else the cursor at the element. -/
def nextElement (c : Cursor) (first : Bool) : Step (Option Unit) :=
  let c := c.skipBlanks
  match c.peek with
  | none => peekFail c .eofWhileParsingList
  | some 93 => .ok (none, c)
  | some b =>
    let at? : Option Cursor :=
      if b == 44 && !first then some c.bump.skipBlanks
      else if first then some c
      else none
    match at? with
    | none => peekFail c .expectedListCommaOrEnd
    | some c =>
      match c.peek with
      | some 93 => peekFail c .trailingComma
      | none => peekFail c .eofWhileParsingValue
      | some _ => .ok (some (), c)

/-- The next key of an object, blanks and a separating comma skipped: `none` at the closing
brace (not consumed), else the key with the cursor after it. -/
def nextKey (c : Cursor) (first : Bool) : Step (Option String) :=
  let c := c.skipBlanks
  match c.peek with
  | none => peekFail c .eofWhileParsingObject
  | some 125 => .ok (none, c)
  | some b =>
    let at? : Option Cursor :=
      if b == 44 && !first then some c.bump.skipBlanks
      else if first then some c
      else none
    match at? with
    | none => peekFail c .expectedObjectCommaOrEnd
    | some c =>
      match c.peek with
      | some 34 => (lift c.bump.readString).map fun (k, c) => (some k, c)
      | some 125 => peekFail c .trailingComma
      | some _ => peekFail c .keyMustBeAString
      | none => peekFail c .eofWhileParsingValue

/-- The rest of an enumeration written as an object, the brace consumed: the variant's name as
the only key, `null` as its value, and the closing brace. -/
def readVariantObject (variants : List String) (c : Cursor) : Step Json :=
  let c := c.skipBlanks
  match c.peek with
  | none => peekFail c .eofWhileParsingValue
  | some 34 =>
    match lift c.bump.readString with
    | .error m => .error m
    | .ok (s, c) =>
      if !variants.contains s then failAt c (.unknownVariant s variants)
      else
        match colon c with
        | .error m => .error m
        | .ok ((), c) =>
          let c := c.skipBlanks
          let unit : Step Unit :=
            if c.peek == some 110 then lift ((c.bump.readIdent Cursor.ullBytes))
            else .error (foundAt c "unit")
          match unit with
          | .error m => .error m
          | .ok ((), c) =>
            let c := c.skipBlanks
            match c.peek with
            | some 125 => .ok (.str s, c.bump)
            | some _ => failHere c .expectedSomeValue
            | none => failHere c .eofWhileParsingObject
  | some _ => .error (foundAt c "variant identifier")

mutual

/-- **Reads a value of shape `e`**, blanks before it skipped. -/
def readAs : Nat → Expect → Cursor → Step Json
  | 0, _, c => peekFail c .recursionLimitExceeded
  | fuel + 1, e, c =>
    let c := c.skipBlanks
    match c.peek with
    | none =>
      match e with
      | .optional inner => readAs fuel inner c
      | _ => peekFail c .eofWhileParsingValue
    | some b =>
      match e with
      | .text =>
        if b == 34 then (lift c.bump.readString).map fun (s, c) => (.str s, c)
        else .error (foundAt c e.expecting)
      | .flag =>
        if b == 116 then (lift (c.bump.readIdent Cursor.rueBytes)).map fun (_, c) => (.bool true, c)
        else if b == 102 then
          (lift (c.bump.readIdent Cursor.alseBytes)).map fun (_, c) => (.bool false, c)
        else .error (foundAt c e.expecting)
      | .count t =>
        if b == 45 || Cursor.isDigit b then
          match lift c.readNumber with
          | .error m => .error m
          | .ok (.nat n, c) => .ok (.num (.nat n), c)
          | .ok (.neg m, c) => failAt c (.invalidValue (.signed (-(m : Int))) t)
          | .ok (.float x, c) => failAt c (.invalidType (.float x) t)
        else .error (foundAt c t)
      | .choice _ variants =>
        if b == 34 then
          match lift c.bump.readString with
          | .error m => .error m
          | .ok (s, c) =>
            if variants.contains s then .ok (.str s, c) else failAt c (.unknownVariant s variants)
        else if b == 123 then readVariantObject variants c.bump
        else peekFail c .expectedSomeValue
      | .optional inner =>
        if b == 110 then (lift (c.bump.readIdent Cursor.ullBytes)).map fun (_, c) => (.null, c)
        else readAs fuel inner c
      | .list item =>
        if b == 91 then
          match readItems fuel item c.bump true [] with
          | .error m => .error m
          | .ok (xs, c) => .ok (.arr xs, c.bump)
        else .error (foundAt c e.expecting)
      | .dict item =>
        if b == 123 then
          match readEntries fuel item c.bump true [] with
          | .error m => .error m
          | .ok (fs, c) => .ok (.obj fs, c.bump)
        else .error (foundAt c e.expecting)
      | .record t fields defaulted =>
        if b == 123 then
          match readFields fuel fields defaulted c.bump true [] with
          | .error m => .error (settle closeBrace m)
          | .ok (fs, c) => .ok (.obj fs, c.bump)
        else if b == 91 then
          match readSequenceFields fuel t fields.length fields defaulted c.bump true [] with
          | .error m => .error (settle closeBracket m)
          | .ok (fs, c) => (endSequence c).map fun (_, c) => (.obj fs, c)
        else .error (foundAt c e.expecting)

/-- The items of a sequence, the bracket consumed; the closing bracket is left. -/
def readItems : Nat → Expect → Cursor → Bool → List Json → Step (List Json)
  | 0, _, c, _, _ => peekFail c .recursionLimitExceeded
  | fuel + 1, item, c, first, acc =>
    match nextElement c first with
    | .error m => .error m
    | .ok (none, c) => .ok (acc.reverse, c)
    | .ok (some (), c) =>
      match readAs fuel item c with
      | .error m => .error m
      | .ok (v, c) => readItems fuel item c false (v :: acc)

/-- The entries of a map, the brace consumed; the closing brace is left. A repeated key keeps
its last value. -/
def readEntries : Nat → Expect → Cursor → Bool → List (String × Json) →
    Step (List (String × Json))
  | 0, _, c, _, _ => peekFail c .recursionLimitExceeded
  | fuel + 1, item, c, first, acc =>
    match nextKey c first with
    | .error m => .error m
    | .ok (none, c) => .ok (acc, c)
    | .ok (some k, c) =>
      match colon c with
      | .error m => .error m
      | .ok ((), c) =>
        match readAs fuel item c with
        | .error m => .error m
        | .ok (v, c) => readEntries fuel item c false (Json.insertField k v acc)

/-- The fields of a record, the brace consumed; the closing brace is left. Unknown fields are
skipped; a repeated field, and a missing field of a record without defaults, is a pending
error. -/
def readFields : Nat → List (String × Expect) → Bool → Cursor → Bool → List (String × Json) →
    Step (List (String × Json))
  | 0, _, _, c, _, _ => peekFail c .recursionLimitExceeded
  | fuel + 1, fields, defaulted, c, first, acc =>
    match nextKey c first with
    | .error m => .error m
    | .ok (none, c) =>
      let missing := if defaulted then none
        else fields.find? fun (name, e) =>
          match e with
          | .optional _ => false
          | _ => (Json.lookupField name acc).isNone
      match missing with
      | some (name, _) => .error (.pending (DecodeError.missingField name).text c)
      | none => .ok (acc, c)
    | .ok (some k, c) =>
      match fields.lookup k with
      | some e =>
        if (Json.lookupField k acc).isSome then
          .error (.pending (DecodeError.custom ("duplicate field `" ++ k ++ "`")).text c)
        else
          match colon c with
          | .error m => .error m
          | .ok ((), c) =>
            match readAs fuel e c with
            | .error m => .error m
            | .ok (v, c) => readFields fuel fields defaulted c false (acc ++ [(k, v)])
      | none =>
        match colon c with
        | .error m => .error m
        | .ok ((), c) =>
          match skip c with
          | .error m => .error m
          | .ok ((), c) => readFields fuel fields defaulted c false acc

/-- The fields of a record written as a sequence of its fields in order, the bracket consumed.
A record with defaults takes the fields after the last element from them; one without fails
with a pending error on the first one missing. -/
def readSequenceFields : Nat → String → Nat → List (String × Expect) → Bool → Cursor → Bool →
    List (String × Json) → Step (List (String × Json))
  | 0, _, _, _, _, c, _, _ => peekFail c .recursionLimitExceeded
  | _, _, _, [], _, c, _, acc => .ok (acc, c)
  | fuel + 1, t, n, (name, e) :: rest, defaulted, c, first, acc =>
    match nextElement c first with
    | .error m => .error m
    | .ok (none, c) =>
      if defaulted then .ok (acc, c)
      else
        let e := DecodeError.invalidLength acc.length (Expect.lengthExpecting t n)
        .error (.pending e.text c)
    | .ok (some (), c) =>
      match readAs fuel e c with
      | .error m => .error m
      | .ok (v, c) => readSequenceFields fuel t n rest defaulted c false (acc ++ [(name, v)])

end

/-- The error message of a misread, placed in its text: `<words> at line <l> column <c>`. -/
def Misread.message (bytes : List UInt8) : Misread → String
  | .placed t offset =>
    let p := TextPosition.ofOffset bytes offset
    t ++ " at line " ++ toString p.line ++ " column " ++ toString p.column
  | .pending t _ => t

/-- **Reads a document of shape `e` from JSON text,** with nothing but blanks after it. -/
def read (e : Expect) (text : String) : Except String Json :=
  let bytes := text.toUTF8.toList
  let c := Cursor.ofBytes bytes
  let r : Step Json :=
    match readAs (2 * bytes.length + 64) e c with
    | .error m => .error m
    | .ok (v, c) => (lift c.expectEnd).map fun _ => (v, c)
  match r with
  | .ok (v, _) => .ok v
  | .error m => .error (m.message bytes)

end JsonText

end ChatGateway
