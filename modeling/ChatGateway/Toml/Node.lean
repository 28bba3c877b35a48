import ChatGateway.Num.Shortest

/-! # TOML documents

A TOML document is read into a tree of `Node`s that remembers where each part was written, so
that errors found later, when the document is read as settings, can point at the text.

* A `Span` is a range of byte offsets.
* A `TomlKey` is a key as written: its name, its text (quotes included) and its span.
* A `Node` is a value (string, integer, float, boolean, date-time, array, inline table), a table
  of the document, or an array of tables.
* A table is *implicit* when only a longer header or a dotted key made it, and *dotted* when a
  dotted key made it; a header may later define an implicit table made by a longer header, but
  not one made by a dotted key.
-/

namespace ChatGateway

namespace Toml

/-- **A range of byte offsets,** `start` included and `stop` excluded. -/
structure Span where
  start : Nat
  stop : Nat
  deriving DecidableEq, Repr, Inhabited

/-- **A key as written:** its name, its text with any quotes, and its span. -/
structure TomlKey where
  name : String
  raw : String
  span : Span
  deriving Repr, Inhabited

/-- **A float value.** -/
inductive TomlFloat where
  /-- A finite double. -/
  | finite (x : Binary64)
  /-- Infinity of a sign. -/
  | infinite (negative : Bool)
  /-- Not a number. -/
  | nan
  deriving Repr, Inhabited

namespace TomlFloat

/-- The float as written by a plain display, with `.0` when no point would appear. -/
def display : TomlFloat → String
  | .finite x => x.plainText
  | .infinite negative => if negative then "-inf" else "inf"
  | .nan => "NaN"

end TomlFloat

/-- **A part of a TOML document.** -/
inductive Node where
  /-- A string. -/
  | string (s : String) (span : Span)
  /-- A 64-bit signed integer. -/
  | integer (i : Int) (span : Span)
  /-- A float. -/
  | float (x : TomlFloat) (span : Span)
  /-- A boolean. -/
  | boolean (b : Bool) (span : Span)
  /-- A date-time, as it displays. -/
  | datetime (text : String) (span : Span)
  /-- An array value. -/
  | array (items : List Node) (span : Span)
  /-- An inline table, or a table a dotted key made inside one (`dotted`, without a span). -/
  | inline (entries : List (TomlKey × Node)) (dotted : Bool) (span : Option Span)
  /-- A table of the document. -/
  | table (entries : List (TomlKey × Node)) (implicit dotted : Bool) (span : Option Span)
  /-- An array of tables. -/
  | tables (items : List Node)
  deriving Repr, Inhabited

namespace Node

/-- An empty table of the document with the given flags. -/
def emptyTable (implicit dotted : Bool) : Node := .table [] implicit dotted none

/-- Where a node was written, when it was. An array of tables spans its first to its last
table. -/
def span? : Node → Option Span
  | .string _ s | .integer _ s | .float _ s | .boolean _ s | .datetime _ s | .array _ s => some s
  | .inline _ _ s | .table _ _ _ s => s
  | .tables items =>
    match items.head?, items.getLast? with
    | some (.table _ _ _ (some a)), some (.table _ _ _ (some b)) => some ⟨a.start, b.stop⟩
    | _, _ => none

/-- The name of a value's type, as an error about extending it says. -/
def typeName : Node → String
  | .string .. => "string"
  | .integer .. => "integer"
  | .float .. => "float"
  | .boolean .. => "boolean"
  | .datetime .. => "datetime"
  | .array .. => "array"
  | .inline .. => "inline table"
  | .table .. => "table"
  | .tables .. => "array of tables"

/-- The entries of a table or inline table. -/
def entries : Node → List (TomlKey × Node)
  | .inline es _ _ | .table es _ _ _ => es
  | _ => []

/-- Whether a table was made by a dotted key. -/
def isDotted : Node → Bool
  | .inline _ d _ | .table _ _ d _ => d
  | _ => false

/-- Whether a table was made only implicitly. -/
def isImplicit : Node → Bool
  | .inline _ d _ => d
  | .table _ i _ _ => i
  | _ => false

/-- The same table with other entries. -/
def withEntries (n : Node) (es : List (TomlKey × Node)) : Node :=
  match n with
  | .inline _ d s => .inline es d s
  | .table _ i d s => .table es i d s
  | other => other

end Node

/-- The entry of a name. -/
def lookupEntry (name : String) (es : List (TomlKey × Node)) : Option Node :=
  (es.find? fun (k, _) => k.name == name).map (·.2)

/-- The entries with the entry of a name replaced. -/
def replaceEntry (name : String) (n : Node) (es : List (TomlKey × Node)) :
    List (TomlKey × Node) :=
  es.map fun (k, v) => if k.name == name then (k, n) else (k, v)

/-- The entries without the entry of a name. -/
def removeEntry (name : String) (es : List (TomlKey × Node)) : List (TomlKey × Node) :=
  es.filter fun (k, _) => k.name != name

end Toml

end ChatGateway
