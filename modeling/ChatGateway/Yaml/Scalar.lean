import ChatGateway.Decode.Error
import ChatGateway.Yaml.Token

/-! # What a YAML scalar stands for

A quoted scalar is a string. A plain scalar is resolved by its text:

| text | value |
|---|---|
| empty, `~`, `null`, `Null`, `NULL` | nothing (a unit value) |
| `true`, `True`, `TRUE`, `false`, `False`, `FALSE` | a boolean |
| `12`, `+12`, `0x1f`, `0o17`, `0b101`, `-0x1f` | an integer |
| `1.5`, `-2e3`, `.5`, `.inf`, `-.Inf`, `.nan` | a float |
| anything else, and `012` (a zero before more digits) | a string |

* Integers are tried as 64-bit unsigned, then 64-bit signed, then 128-bit of either kind; an
  integer outside all four is read as a float when it can be, else as a string.
* A float must be finite, except for the `.inf` and `.nan` words; its text is the usual
  decimal grammar (digits with an optional point and exponent).
* A tag names the kind outright: `!!bool`, `!!int`, `!!float` and `!!null` require their kind
  (`invalid value: string "x", expected a boolean`), a local tag on a plain scalar resolves it
  as if untagged, and any other tag makes a string.
-/

namespace ChatGateway

namespace Yaml

/-- **A float as a scalar gives it:** finite, infinite of a sign, or not a number. -/
inductive FloatValue where
  | finite (x : Binary64)
  | infinite (negative : Bool)
  | nan
  deriving Repr

/-- The text of a float: every digit of a finite one written out (`1e20` is
`100000000000000000000.0`), `inf`, `-inf` or `NaN`. -/
def FloatValue.text : FloatValue → String
  | .finite x => x.plainText
  | .infinite false => "inf"
  | .infinite true => "-inf"
  | .nan => "NaN"

/-- **What a scalar stands for.** Integers keep the width they were read at: a `wide` one
did not fit 64 bits. -/
inductive Scalar where
  | unit
  | bool (b : Bool)
  | unsigned (n : Nat) (wide : Bool)
  | signed (i : Int) (wide : Bool)
  | float (x : FloatValue)
  | str (s : String)
  deriving Repr

namespace Scalar

/-- What an error says was found. -/
def unexpected : Scalar → Unexpected
  | .unit => .unit
  | .bool b => .bool b
  | .unsigned n false => .unsigned n
  | .unsigned n true => .other ("integer `" ++ toString n ++ "` as u128")
  | .signed i false => .signed i
  | .signed i true => .other ("integer `" ++ toString i ++ "` as i128")
  | .float x => .other ("floating point `" ++ x.text ++ "`")
  | .str s => .str s

end Scalar

/-! ## Integers -/

/-- The value of a digit in a radix up to 36. -/
def digitValue (c : Char) : Option Nat :=
  if '0' ≤ c ∧ c ≤ '9' then some (c.toNat - 48)
  else if 'a' ≤ c ∧ c ≤ 'z' then some (c.toNat - 87)
  else if 'A' ≤ c ∧ c ≤ 'Z' then some (c.toNat - 55)
  else none

/-- The number written by digits of a radix, when there is at least one and all are digits of
it. -/
def digitsValue (radix : Nat) (cs : List Char) : Option Nat :=
  if cs.isEmpty then none
  else
    let step (acc : Nat) (c : Char) : Option Nat :=
      (digitValue c).bind fun d => if d < radix then some (acc * radix + d) else none
    cs.foldlM step 0

/-- **An integer in a radix, between `lo` and `hi`:** an optional `+` (or, where negatives are
allowed, `-`) and at least one digit. -/
def integerIn (radix : Nat) (lo hi : Int) (s : String) : Option Int :=
  let cs := s.toList
  let (negative, ds) := match cs with
    | '+' :: rest => (false, rest)
    | '-' :: rest => if lo < 0 then (true, rest) else (false, cs)
    | _ => (false, cs)
  (digitsValue radix ds).bind fun n =>
    let v : Int := if negative then -(n : Int) else n
    if lo ≤ v ∧ v ≤ hi then some v else none

/-- Whether a text is a zero followed by more decimal digits, after an optional sign: such text
is a string, not a number. -/
def leadingZeroDigits (s : String) : Bool :=
  let cs := match s.toList with
    | '-' :: rest | '+' :: rest => rest
    | cs => cs
  cs.length > 1 && cs.head? == some '0' && cs.tail.all Char.isDigit

/-- Whether a text starts with a sign. -/
def startsSigned (s : String) : Bool := s.startsWith "+" || s.startsWith "-"

/-- The radix prefixes an integer may have. -/
def radixPrefixes : List (String × Nat) := [("0x", 16), ("0o", 8), ("0b", 2)]

/-- A non-negative integer of at most `hi`: `+` may come first, then a radix prefix or
decimal digits. -/
def unsignedIn (hi : Int) (s : String) : Option Int :=
  let unsigned := if s.startsWith "+" then s.drop 1 |>.toString else s
  let prefixed := radixPrefixes.findSome? fun (p, radix) =>
    if unsigned.startsWith p then
      let rest := (unsigned.drop p.length).toString
      if startsSigned rest then some none else (integerIn radix 0 hi rest).map some
    else none
  match prefixed with
  | some r => r
  | none =>
    if startsSigned unsigned || leadingZeroDigits s then none
    else integerIn 10 0 hi unsigned

/-- A negative (or any decimal) integer between `lo` and `hi`: `-` and a radix prefix, or
decimal digits. -/
def signedIn (lo hi : Int) (s : String) : Option Int :=
  let prefixed := radixPrefixes.findSome? fun (p, radix) =>
    if s.startsWith ("-" ++ p) then integerIn radix lo hi ("-" ++ (s.drop (p.length + 1)).toString)
    else none
  match prefixed with
  | some v => some v
  | none => if leadingZeroDigits s then none else integerIn 10 lo hi s

/-- **The integer a plain scalar stands for,** tried at 64 bits, unsigned then signed, then at
128 bits. -/
def integerOf (s : String) : Option Scalar :=
  match unsignedIn (Int.pow 2 64 - 1) s with
  | some n => some (.unsigned n.toNat false)
  | none =>
    match signedIn (-Int.pow 2 63) (Int.pow 2 63 - 1) s with
    | some i => some (.signed i false)
    | none =>
      match unsignedIn (Int.pow 2 128 - 1) s with
      | some n => some (.unsigned n.toNat true)
      | none => (signedIn (-Int.pow 2 127) (Int.pow 2 127 - 1) s).map fun i => .signed i true

/-! ## Floats -/

/-- The decimal digits at the front of a text, and the rest. -/
def decimalRun (cs : List Char) : List Char × List Char :=
  (cs.takeWhile Char.isDigit, cs.dropWhile Char.isDigit)

/-- The value of an exponent's digits; past `65536` it stops growing, which is far out of range
either way. -/
def exponentValue (ds : List Char) : Nat :=
  ds.foldl (fun acc c => if acc < 65536 then acc * 10 + (c.toNat - 48) else acc) 0

/-- **A decimal float:** an optional sign, digits with an optional point (at least one digit in
all), and an optional exponent; the nearest double, when it is finite. -/
def decimalFloat (s : String) : Option Binary64 :=
  let cs := s.toList
  let (negative, cs) := match cs with
    | '-' :: rest => (true, rest)
    | '+' :: rest => (false, rest)
    | _ => (false, cs)
  let (whole, cs) := decimalRun cs
  let (fraction, cs) := match cs with
    | '.' :: rest => decimalRun rest
    | _ => ([], cs)
  if whole.isEmpty && fraction.isEmpty then none
  else
    let exponent : Option Int := match cs with
      | [] => some 0
      | c :: rest =>
        if c == 'e' || c == 'E' then
          let (sign, rest) := match rest with
            | '-' :: r => (-1, r)
            | '+' :: r => (1, r)
            | r => (1, r)
          let (ds, rest) := decimalRun rest
          if ds.isEmpty || !rest.isEmpty then none else some (sign * (exponentValue ds : Int))
        else none
    exponent.bind fun e =>
      let c := (whole ++ fraction).foldl (fun acc d => acc * 10 + (d.toNat - 48)) 0
      Binary64.ofDecimal negative c (e - fraction.length)

/-- **The float a plain scalar stands for:** a finite decimal, or one of the words `.inf`,
`-.inf` (any of three spellings each) and `.nan`. -/
def floatOf (s : String) : Option FloatValue :=
  let unsigned : Option String :=
    if s.startsWith "+" then
      let rest := (s.drop 1).toString
      if startsSigned rest then none else some rest
    else some s
  unsigned.bind fun u =>
    if [".inf", ".Inf", ".INF"].contains u then some (.infinite false)
    else if ["-.inf", "-.Inf", "-.INF"].contains s then some (.infinite true)
    else if [".nan", ".NaN", ".NAN"].contains s then some .nan
    else (decimalFloat u).map FloatValue.finite

/-! ## Resolution -/

/-- Whether a text spells nothing. -/
def isNullText (s : String) : Bool := ["~", "null", "Null", "NULL"].contains s

/-- The boolean a text spells. -/
def boolOf (s : String) : Option Bool :=
  if ["true", "True", "TRUE"].contains s then some true
  else if ["false", "False", "FALSE"].contains s then some false
  else none

/-- **What an untagged plain scalar stands for.** -/
def untagged (s : String) : Scalar :=
  if s.isEmpty || isNullText s then .unit
  else match boolOf s with
    | some b => .bool b
    | none =>
      match integerOf s with
      | some i => i
      | none =>
        match (if leadingZeroDigits s then none else floatOf s) with
        | some x => .float x
        | none => .str s

/-- The prefix of the tags of the core schema. -/
def coreTag (name : String) : String := "tag:yaml.org,2002:" ++ name

/-- **What a scalar stands for,** by its tag, its style and its text. -/
def resolve (tag : Option Tag) (s : String) (style : ScalarStyle) : Except DecodeError Scalar :=
  match tag with
  | some (.bytes bs) => .ok (if bs.head? == some 33 && style == .plain then untagged s else .str s)
  | some (.text t) =>
    if t = coreTag "bool" then
      match boolOf s with
      | some b => .ok (.bool b)
      | none => .error (.invalidValue (.str s) "a boolean")
    else if t = coreTag "int" then
      match integerOf s with
      | some i => .ok i
      | none => .error (.invalidValue (.str s) "an integer")
    else if t = coreTag "float" then
      match floatOf s with
      | some x => .ok (.float x)
      | none => .error (.invalidValue (.str s) "a float")
    else if t = coreTag "null" then
      if isNullText s then .ok .unit else .error (.invalidValue (.str s) "null")
    else if t.startsWith "!" && style == .plain then .ok (untagged s)
    else .ok (.str s)
  | none => .ok (if style == .plain then untagged s else .str s)

end Yaml

end ChatGateway
