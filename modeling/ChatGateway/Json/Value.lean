import ChatGateway.Num.Shortest

/-! # JSON values

`Json` is the value model of every JSON document the library reads or writes. Numbers keep the
three kinds a JSON reader distinguishes: non-negative integers (up to `2^64 - 1`), negative
integers (down to `-2^63`) and doubles. Objects are kept with their keys in ascending order and
without repetition, which is the order in which they are written; `Json.insert` replaces the
value of a key that is already present.

`Json.compact` writes the compact form: no spaces, `"` and `\` escaped, the controls below
U+0020 written as `\n`, `\t`, `\r`, `\b`, `\f` or `\u00xx` with lowercase hex, every other
character as it is.
-/

namespace ChatGateway

/-- A JSON number as a reader classifies it. -/
inductive Number where
  /-- A non-negative integer. -/
  | nat (n : Nat)
  /-- The negative integer `-magnitude`. -/
  | neg (magnitude : Nat)
  /-- Any other number, as the nearest double. -/
  | float (x : Binary64)
  deriving DecidableEq, Repr

/-- A JSON value. -/
inductive Json where
  | null
  | bool (b : Bool)
  | num (n : Number)
  | str (s : String)
  | arr (items : List Json)
  | obj (fields : List (String × Json))
  deriving Repr, Inhabited

namespace Number

/-- The integer value of an integral number. -/
def toInt? : Number → Option Int
  | .nat n => some n
  | .neg m => some (-(m : Int))
  | .float _ => none

/-- The written form of the number. -/
def text : Number → String
  | .nat n => toString n
  | .neg m => "-" ++ toString m
  | .float x => x.exchangeText

end Number

namespace Json

/-- The empty object. -/
def empty : Json := .obj []

/-- Inserts a field into a key-ordered field list, replacing the value of an equal key. -/
def insertField (k : String) (v : Json) : List (String × Json) → List (String × Json)
  | [] => [(k, v)]
  | (k', v') :: rest =>
    if k = k' then (k, v) :: rest
    else if k < k' then (k, v) :: (k', v') :: rest
    else (k', v') :: insertField k v rest

/-- The value of a key in a field list. -/
def lookupField (k : String) : List (String × Json) → Option Json
  | [] => none
  | (k', v) :: rest => if k = k' then some v else lookupField k rest

/-- Removes a key from a field list. -/
def eraseField (k : String) : List (String × Json) → List (String × Json)
  | [] => []
  | (k', v) :: rest => if k = k' then rest else (k', v) :: eraseField k rest

/-- An object holding the given fields; a later field wins over an earlier one of equal key. -/
def object (fields : List (String × Json)) : Json :=
  .obj (fields.foldl (fun acc (k, v) => insertField k v acc) [])

/-- Sets a key of an object; any other value is left as it is. -/
def insert (j : Json) (k : String) (v : Json) : Json :=
  match j with
  | .obj fs => .obj (insertField k v fs)
  | other => other

/-- The value of a key of an object. -/
def get? (j : Json) (k : String) : Option Json :=
  match j with
  | .obj fs => lookupField k fs
  | _ => none

/-- A string value. -/
def str? : Json → Option String
  | .str s => some s
  | _ => none

/-- A boolean value. -/
def bool? : Json → Option Bool
  | .bool b => some b
  | _ => none

/-- A non-negative integer value. -/
def nat? : Json → Option Nat
  | .num (.nat n) => some n
  | _ => none

/-- The fields of an object. -/
def fields? : Json → Option (List (String × Json))
  | .obj fs => some fs
  | _ => none

/-- The items of an array. -/
def items? : Json → Option (List Json)
  | .arr xs => some xs
  | _ => none

/-- A natural number as a JSON integer. -/
def ofNat (n : Nat) : Json := .num (.nat n)

/-- An optional string, `null` when absent. -/
def ofOption (o : Option String) : Json :=
  match o with
  | some s => .str s
  | none => .null

/-- The lowercase hexadecimal digit of `n < 16`. -/
def hexDigit (n : Nat) : Char :=
  if n < 10 then Char.ofNat (48 + n) else Char.ofNat (87 + n)

/-- The written form of one character inside a JSON string. -/
def escapeChar (c : Char) : List Char :=
  if c = '"' then ['\\', '"']
  else if c = '\\' then ['\\', '\\']
  else if c = '\n' then ['\\', 'n']
  else if c = '\t' then ['\\', 't']
  else if c = '\r' then ['\\', 'r']
  else if c.toNat = 8 then ['\\', 'b']
  else if c.toNat = 12 then ['\\', 'f']
  else if c.toNat < 32 then
    ['\\', 'u', '0', '0', hexDigit (c.toNat / 16), hexDigit (c.toNat % 16)]
  else [c]

/-- A string in double quotes with the JSON escapes applied. -/
def quote (s : String) : String :=
  String.ofList ('"' :: (s.toList.flatMap escapeChar ++ ['"']))

mutual

/-- The compact written form of a value. -/
def compact : Json → String
  | .null => "null"
  | .bool true => "true"
  | .bool false => "false"
  | .num n => n.text
  | .str s => quote s
  | .arr xs => "[" ++ compactItems xs ++ "]"
  | .obj fs => "\x7b" ++ compactFields fs ++ "\x7d"

/-- The items of an array, comma separated. -/
def compactItems : List Json → String
  | [] => ""
  | [x] => compact x
  | x :: rest => compact x ++ "," ++ compactItems rest

/-- The fields of an object, comma separated. -/
def compactFields : List (String × Json) → String
  | [] => ""
  | [(k, v)] => quote k ++ ":" ++ compact v
  | (k, v) :: rest => quote k ++ ":" ++ compact v ++ "," ++ compactFields rest

end

mutual

/-- **Applies `f` to every string of a value,** object keys included. -/
def mapStrings (f : String → String) : Json → Json
  | .str s => .str (f s)
  | .arr xs => .arr (mapStringItems f xs)
  | .obj fs => .obj (mapStringFields f fs)
  | j => j

/-- `mapStrings` on the items of an array. -/
def mapStringItems (f : String → String) : List Json → List Json
  | [] => []
  | x :: rest => mapStrings f x :: mapStringItems f rest

/-- `mapStrings` on the fields of an object. -/
def mapStringFields (f : String → String) : List (String × Json) → List (String × Json)
  | [] => []
  | (k, v) :: rest => (f k, mapStrings f v) :: mapStringFields f rest

end

end Json

end ChatGateway
