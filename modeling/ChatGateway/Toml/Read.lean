import ChatGateway.Toml.Document
import ChatGateway.Config.Shape
import ChatGateway.Decode.Error

/-! # Reading settings from a TOML document

A parsed document is read against the shape of the settings, and any error is shown with the
line it points at:

```
TOML parse error at line 2, column 16
  |
2 | timeout_secs = -1
  |                ^^
invalid value: integer `-1`, expected u64
```

* A value of the wrong kind is reported at the value; a record's missing field at the record's
  table (a header table spans from its header to its last value; an implicit table, which has
  no span, is reported at its key).
* Integers are signed 64-bit; a negative one where a count is expected is an invalid value.
* A date-time read where a record or map is expected reads as a map of one private key.
* An enumeration is read from its name, or from a table whose only key is the name and whose
  value is empty; a table of any other size is refused by its number of entries.
-/

namespace ChatGateway

namespace Toml

/-- **An error of reading settings:** its words and, once known, the span it points at. -/
structure Misread where
  text : String
  span : Option Span
  deriving Repr

/-- A misread without a span yet. -/
def misread {α : Type} (e : DecodeError) : Except Misread α := .error ⟨e.text, none⟩

/-- A misread that points at a span. -/
def misreadAt {α : Type} (text : String) (span : Option Span) : Except Misread α :=
  .error ⟨text, span⟩

/-- Gives a misread the span `s` unless it has one. -/
def placeAt {α : Type} (s : Option Span) (r : Except Misread α) : Except Misread α :=
  r.mapError fun m => if m.span.isSome then m else { m with span := s }

/-- What a node is, as an error about a value of the wrong kind says. -/
def unexpectedOf : Node → Unexpected
  | .string s _ => .str s
  | .integer i _ => .signed i
  | .float x _ => .other ("floating point `" ++ x.display ++ "`")
  | .boolean b _ => .bool b
  | .datetime .. | .inline .. | .table .. => .map
  | .array .. | .tables .. => .seq

/-- The key under which a date-time reads as a map. -/
def datetimeKey : String := "$__toml_private_datetime"

/-- The value of an enumeration's variant must be empty: an array of tables is refused as a
non-empty array, and an inline array or a table as a non-empty table. -/
def emptyVariantValue (n : Node) : Except Misread Unit :=
  match n with
  | .array [] _ | .tables [] => .ok ()
  | .tables _ => misreadAt "expected empty array" n.span?
  | .array _ _ => misreadAt "expected empty table" n.span?
  | .table [] _ _ _ | .inline [] _ _ => .ok ()
  | .table .. | .inline .. => misreadAt "expected empty table" n.span?
  | other => misreadAt ("expected table, found " ++ other.typeName) other.span?

/-- An enumeration's variant named by a key, its value empty. -/
def variantEntry (variants : List String) (k : TomlKey) (v : Node) : Except Misread Json :=
  if variants.contains k.name then (emptyVariantValue v).map fun _ => .str k.name
  else misreadAt (DecodeError.unknownVariant k.name variants).text (some k.span)

mutual

/-- **Reads a node as a value of shape `e`.** -/
def readNode : Nat → Expect → Node → Except Misread Json
  | 0, _, n => misreadAt "recursion limit exceeded" n.span?
  | fuel + 1, e, n =>
    placeAt n.span? <|
    match e, n with
    | .text, .string s _ => .ok (.str s)
    | .flag, .boolean b _ => .ok (.bool b)
    | .count t, .integer i _ =>
      if i < 0 then misread (.invalidValue (.signed i) t) else .ok (.num (.nat i.toNat))
    | .choice _ variants, .string s _ =>
      if variants.contains s then .ok (.str s) else misread (.unknownVariant s variants)
    | .choice _ variants, .inline es _ _ =>
      match es with
      | [] => misreadAt "wanted exactly 1 element, found 0 elements" n.span?
      | [(k, v)] => variantEntry variants k v
      | _ => misreadAt "wanted exactly 1 element, more than 1 element" n.span?
    | .choice _ variants, .table es _ _ _ =>
      match es with
      | [] => misreadAt "wanted exactly 1 element, found 0 elements" n.span?
      | [(k, v)] => variantEntry variants k v
      | _ => misreadAt "wanted exactly 1 element, more than 1 element" n.span?
    | .choice _ _, other => misreadAt "wanted string or table" other.span?
    | .optional inner, n => readNode fuel inner n
    | .list item, .array items _ => (readItems fuel item items).map Json.arr
    | .list item, .tables items => (readItems fuel item items).map Json.arr
    | .dict item, .inline es _ _ => (readEntries fuel item es []).map Json.obj
    | .dict item, .table es _ _ _ => (readEntries fuel item es []).map Json.obj
    | .dict item, .datetime text s =>
      (readNode fuel item (.string text s)).map fun v => .obj [(datetimeKey, v)]
    | .record _ fields defaulted, .inline es _ _ => readFields fuel fields defaulted es []
    | .record _ fields defaulted, .table es _ _ _ => readFields fuel fields defaulted es []
    | .record _ fields defaulted, .datetime .. => readFields fuel fields defaulted [] []
    | .record t fields defaulted, .array items _ =>
      readSequence fuel t fields.length fields defaulted items []
    | .record t fields defaulted, .tables items =>
      readSequence fuel t fields.length fields defaulted items []
    | e, n => misread (.invalidType (unexpectedOf n) e.expecting)

/-- The items of a sequence. -/
def readItems : Nat → Expect → List Node → Except Misread (List Json)
  | 0, _, _ => .ok []
  | _, _, [] => .ok []
  | fuel + 1, item, n :: rest => do
    let v ← readNode fuel item n
    let vs ← readItems fuel item rest
    pure (v :: vs)

/-- The entries of a map, in order; an error without a span points at the entry's value, or its
key. -/
def readEntries : Nat → Expect → List (TomlKey × Node) → List (String × Json) →
    Except Misread (List (String × Json))
  | 0, _, _, acc => .ok acc
  | _, _, [], acc => .ok acc
  | fuel + 1, item, (k, v) :: rest, acc => do
    let j ← placeAt (v.span?.orElse fun _ => some k.span) (readNode fuel item v)
    readEntries fuel item rest (Json.insertField k.name j acc)

/-- The fields of a record from a table's entries, in order; unknown keys are skipped, and a
missing field of a record without defaults is an error. -/
def readFields : Nat → List (String × Expect) → Bool → List (TomlKey × Node) →
    List (String × Json) → Except Misread Json
  | 0, _, _, _, acc => .ok (.obj acc)
  | _, fields, defaulted, [], acc =>
    let missing := if defaulted then none
      else fields.find? fun (name, e) =>
        match e with
        | .optional _ => false
        | _ => (Json.lookupField name acc).isNone
    match missing with
    | some (name, _) => misread (.missingField name)
    | none => .ok (.obj acc)
  | fuel + 1, fields, defaulted, (k, v) :: rest, acc =>
    match fields.lookup k.name with
    | some e => do
      let j ← placeAt (v.span?.orElse fun _ => some k.span) (readNode fuel e v)
      readFields fuel fields defaulted rest (acc ++ [(k.name, j)])
    | none => readFields fuel fields defaulted rest acc

/-- The fields of a record from the items of a sequence, in order. -/
def readSequence : Nat → String → Nat → List (String × Expect) → Bool → List Node →
    List (String × Json) → Except Misread Json
  | 0, _, _, _, _, _, acc => .ok (.obj acc)
  | _, _, _, [], _, _, acc => .ok (.obj acc)
  | _, t, n, _ :: _, defaulted, [], acc =>
    if defaulted then .ok (.obj acc)
    else misread (.invalidLength acc.length (Expect.lengthExpecting t n))
  | fuel + 1, t, n, (name, e) :: fields, defaulted, item :: items, acc => do
    let j ← readNode fuel e item
    readSequence fuel t n fields defaulted items (acc ++ [(name, j)])

end

/-- The line and column (both from zero, the column in characters when the line up to the
place is whole UTF-8) of a byte offset. -/
def linePosition (bytes : List UInt8) (index : Nat) : Nat × Nat :=
  if bytes.isEmpty then (0, index)
  else
    let safe := min index (bytes.length - 1)
    let beyond := index - safe
    let before := bytes.take safe
    let lineStart := match (before.zipIdx.filter fun (b, _) => b == 10).getLast? with
      | some (_, i) => i + 1
      | none => 0
    let line := (bytes.take lineStart).count 10
    let piece := (bytes.drop lineStart).take (safe + 1 - lineStart)
    let column := match String.fromUTF8? (ByteArray.mk piece.toArray) with
      | some s => s.length - 1
      | none => safe - lineStart
    (line, column + beyond)

/-- `n` spaces. -/
def spaces (n : Nat) : String := String.ofList (List.replicate n ' ')

/-- **The display of an error:** the place, the line with the span marked, and the words. -/
def render (text : String) (message : String) (span : Option Span) : String :=
  match span with
  | none => message ++ "\n"
  | some s =>
    let bytes := text.toUTF8.toList
    let (line, column) := linePosition bytes s.start
    let lineNum := line + 1
    let colNum := column + 1
    let gutter := (toString lineNum).length
    let content := ((text.splitOn "\n")[line]?).getD ""
    let width := min (s.stop - s.start) (content.utf8ByteSize - column)
    "TOML parse error at line " ++ toString lineNum ++ ", column " ++ toString colNum ++ "\n" ++
    spaces (gutter + 1) ++ "|\n" ++
    toString lineNum ++ " | " ++ content ++ "\n" ++
    spaces (gutter + 1) ++ "|" ++ spaces (column + 1) ++ "^" ++
      String.ofList (List.replicate (width - 1) '^') ++ "\n" ++
    message ++ "\n"

/-- **Reads a document of shape `e` from TOML text.** -/
def read (e : Expect) (text : String) : Except String Json :=
  match parse text with
  | .error err => .error (render text err.message err.span)
  | .ok root =>
    match readNode (text.length + 64) e root with
    | .ok j => .ok j
    | .error m => .error (render text m.text m.span)

end Toml

end ChatGateway
