import ChatGateway.Decode.Error

/-! # Decoding typed values from JSON values

A `Decoder α` turns a JSON value into an `α` or says why it cannot.

* Scalars: `Decoder.string`, `Decoder.bool`, and the unsigned integers `Decoder.nat` with a bound
  and a type name (`u64`, `u32`, `usize`). A negative integer or one past the bound is an
  *invalid value*; a float or any other kind of value is an *invalid type*.
* Containers: `Decoder.list` reads an array, `Decoder.object` an object's fields, and
  `Decoder.option` treats `null` as absent.
* Records: `Decoder.record` checks a value against the fields of a record. An object's known
  fields are checked in key order, the first bad one failing; then the first missing required
  field, in declaration order, fails. An array is read as the fields in declaration order.
* Enumerations: `Decoder.variant` reads a name among a fixed list.
-/

namespace ChatGateway

/-- **A decoder of typed values from JSON values.** -/
abbrev Decoder (α : Type) := Json → Except DecodeError α

namespace Decoder

/-- A string. -/
def string : Decoder String
  | .str s => .ok s
  | j => .error (.invalidType (.ofJson j) "a string")

/-- A boolean. -/
def bool : Decoder Bool
  | .bool b => .ok b
  | j => .error (.invalidType (.ofJson j) "a boolean")

/-- An unsigned integer of at most `bound`, named `typeName` in errors. -/
def nat (bound : Nat) (typeName : String) : Decoder Nat
  | .num (.nat n) => if n ≤ bound then .ok n else .error (.invalidValue (.unsigned n) typeName)
  | .num (.neg m) => .error (.invalidValue (.signed (-(m : Int))) typeName)
  | j => .error (.invalidType (.ofJson j) typeName)

/-- A 64-bit unsigned integer. -/
def u64 : Decoder Nat := nat (Nat.pow 2 64 - 1) "u64"

/-- A 64-bit size. -/
def usize : Decoder Nat := nat (Nat.pow 2 64 - 1) "usize"

/-- A 32-bit unsigned integer. -/
def u32 : Decoder Nat := nat (Nat.pow 2 32 - 1) "u32"

/-- Decodes every item of a list, failing at the first bad one. -/
def items (d : Decoder α) : List Json → Except DecodeError (List α)
  | [] => .ok []
  | j :: rest => do
    let x ← d j
    let xs ← items d rest
    pure (x :: xs)

/-- An array of values. -/
def list (d : Decoder α) : Decoder (List α)
  | .arr xs => items d xs
  | j => .error (.invalidType (.ofJson j) "a sequence")

/-- The fields of an object. -/
def object : Decoder (List (String × Json))
  | .obj fs => .ok fs
  | j => .error (.invalidType (.ofJson j) "a map")

/-- An optional value: `null` is absent. -/
def option (d : Decoder α) : Decoder (Option α)
  | .null => .ok none
  | j => (d j).map some

/-- A name among `names`, for an enumeration named `typeName`. -/
def variant (names : List String) (typeName : String) : Decoder String
  | .str s => if names.contains s then .ok s else .error (.unknownVariant s names)
  | j => .error (.invalidType (.ofJson j) typeName)

/-- A value passed through as it is. -/
def any : Decoder Json := fun j => .ok j

end Decoder

/-- **A field of a record:** its name, a check of its value, and whether it must be present. -/
structure FieldSpec where
  name : String
  check : Json → Except DecodeError Unit
  required : Bool

namespace FieldSpec

/-- A field that must be present. -/
def need (name : String) (d : Decoder α) : FieldSpec := ⟨name, fun j => (d j).map fun _ => (), true⟩

/-- A field that may be absent. -/
def maybe (name : String) (d : Decoder α) : FieldSpec :=
  ⟨name, fun j => (d j).map fun _ => (), false⟩

end FieldSpec

namespace Decoder

/-- Checks present fields in order. -/
def checkAll (specs : List FieldSpec) : List (String × Json) → Except DecodeError Unit
  | [] => .ok ()
  | (k, v) :: rest =>
    match specs.find? (·.name == k) with
    | some s => do s.check v; checkAll specs rest
    | none => checkAll specs rest

/-- **The fields of a record, checked.** `record` names the record in errors (`struct X`). -/
def record (recordName : String) (specs : List FieldSpec) : Decoder (List (String × Json))
  | .obj fs => do
    checkAll specs fs
    match specs.find? fun s => s.required && (Json.lookupField s.name fs).isNone with
    | some s => .error (.missingField s.name)
    | none => pure fs
  | .arr xs => do
    let present := specs.zip xs |>.map fun (s, v) => (s.name, v)
    checkAll specs present
    if xs.length < specs.length then
      match (specs.drop xs.length).find? (·.required) with
      | some _ =>
        .error (.invalidLength xs.length (recordName ++ " with " ++ toString specs.length ++
          (if specs.length = 1 then " element" else " elements")))
      | none => pure present
    else if xs.length > specs.length then
      .error (.invalidLength xs.length "fewer elements in array")
    else pure present
  | j => .error (.invalidType (.ofJson j) recordName)

/-- A checked field that must be there. -/
def field (fs : List (String × Json)) (name : String) (d : Decoder α) : Except DecodeError α :=
  match Json.lookupField name fs with
  | some v => d v
  | none => .error (.missingField name)

/-- A checked field with a default. -/
def fieldOr (fs : List (String × Json)) (name : String) (fallback : α) (d : Decoder α) :
    Except DecodeError α :=
  match Json.lookupField name fs with
  | some v => d v
  | none => .ok fallback

/-- A checked optional field: absent or `null` is `none`. -/
def fieldOpt (fs : List (String × Json)) (name : String) (d : Decoder α) :
    Except DecodeError (Option α) :=
  match Json.lookupField name fs with
  | some v => option d v
  | none => .ok none

end Decoder

end ChatGateway
