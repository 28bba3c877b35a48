import ChatGateway.Json.Value
import ChatGateway.Text.Debug

/-! # Decoding errors

When a JSON (or TOML, or YAML) value does not have the shape a typed value needs, decoding
fails with a `DecodeError`, worded as `invalid type: integer `5`, expected a string` or
``missing field `chat_id` ``.

* `Unexpected` describes the value found: `integer `5``, `floating point `1.5``,
  `string "x"`, `map`, `sequence`, `boolean `true``, `null` or `unit value`.
* A float found is written as JSON writes it (`1e+20`); readers of other formats, which write
  every digit (`100000000000000000000.0`), report their floats as `Unexpected.other`.
* `DecodeError.text` words an error. A JSON `null` is worded `null` wherever it is found;
  `unit value` is what the readers of other formats call an empty or null scalar.
-/

namespace ChatGateway

/-- **The kind and value of what a decoder found instead of what it needed.** -/
inductive Unexpected where
  | bool (b : Bool)
  | unsigned (n : Nat)
  | signed (i : Int)
  | float (x : Binary64)
  | str (s : String)
  | null
  | unit
  | seq
  | map
  | other (text : String)
  deriving Repr

namespace Unexpected

/-- The wording of what was found. -/
def text : Unexpected → String
  | .bool b => "boolean `" ++ (if b then "true" else "false") ++ "`"
  | .unsigned n => "integer `" ++ toString n ++ "`"
  | .signed i => "integer `" ++ toString i ++ "`"
  | .float x => "floating point `" ++ x.exchangeText ++ "`"
  | .str s => "string " ++ Text.debugQuote s
  | .null => "null"
  | .unit => "unit value"
  | .seq => "sequence"
  | .map => "map"
  | .other t => t

/-- What a JSON number is, as a decoder reports it. -/
def ofNumber : Number → Unexpected
  | .nat n => .unsigned n
  | .neg m => .signed (-(m : Int))
  | .float x => .float x

/-- What a JSON value is, as a decoder reports it. -/
def ofJson : Json → Unexpected
  | .null => .null
  | .bool b => .bool b
  | .num (.nat n) => .unsigned n
  | .num (.neg m) => .signed (-(m : Int))
  | .num (.float x) => .float x
  | .str s => .str s
  | .arr _ => .seq
  | .obj _ => .map

end Unexpected

/-- **Why a value could not be decoded into a typed value.** -/
inductive DecodeError where
  | invalidType (found : Unexpected) (expected : String)
  | invalidValue (found : Unexpected) (expected : String)
  | invalidLength (length : Nat) (expected : String)
  | missingField (name : String)
  | unknownVariant (name : String) (expected : List String)
  | custom (text : String)
  deriving Repr

namespace DecodeError

/-- The variants a name could have been, in backquotes. -/
def variantList : List String → String
  | [] => "there are no variants"
  | [a] => "expected `" ++ a ++ "`"
  | [a, b] => "expected `" ++ a ++ "` or `" ++ b ++ "`"
  | vs => "expected one of " ++ ", ".intercalate (vs.map fun v => "`" ++ v ++ "`")

/-- The wording of an error. -/
def text : DecodeError → String
  | .invalidType u e => "invalid type: " ++ u.text ++ ", expected " ++ e
  | .invalidValue u e => "invalid value: " ++ u.text ++ ", expected " ++ e
  | .invalidLength n e => "invalid length " ++ toString n ++ ", expected " ++ e
  | .missingField f => "missing field `" ++ f ++ "`"
  | .unknownVariant v vs => "unknown variant `" ++ v ++ "`, " ++ variantList vs
  | .custom t => t

end DecodeError

end ChatGateway
