import ChatGateway.Decode.Value

/-! # Requests and answers

The library answers requests given as JSON objects naming an operation (`op`) and its
arguments. An answer is a JSON value, or a `Failure`: a kind (`bad_input` for a malformed
request, `deserialize` for a value of the wrong shape, or the kind of a library error) and the
error's text, written as `{"error": kind, "message": text}`.

The accessors of this module read a request's arguments. A required argument that is missing,
or present with the wrong type, is a `bad_input` failure naming the field; an optional argument
of the wrong type counts as absent.
-/

namespace ChatGateway

/-- **A failed request:** the kind of failure and its text. -/
structure Failure where
  kind : String
  message : String
  deriving Repr

namespace Failure

/-- The JSON form of a failure. -/
def toJson (f : Failure) : Json :=
  Json.object [("error", .str f.kind), ("message", .str f.message)]

/-- A malformed request. -/
def badInput (message : String) : Failure := ⟨"bad_input", message⟩

/-- A value of the wrong shape. -/
def ofDecode (e : DecodeError) : Failure := ⟨"deserialize", e.text⟩

end Failure

/-- The outcome of a request. -/
abbrev Answer := Except Failure Json

/-- An answer, with a failure written in its JSON form. -/
def Answer.toJson (a : Answer) : Json :=
  match a with
  | .ok j => j
  | .error f => f.toJson

namespace Request

/-- A field that must be present. -/
def field (r : Json) (k : String) : Except Failure Json :=
  match r.get? k with
  | some v => .ok v
  | none => .error (.badInput ("missing field " ++ k))

/-- A string field. -/
def str (r : Json) (k : String) : Except Failure String :=
  match r.get? k with
  | some (.str s) => .ok s
  | some _ => .error (.badInput ("field " ++ k ++ " must be a string"))
  | none => .error (.badInput ("missing field " ++ k))

/-- An optional string field: anything but a string is `none`. -/
def strOpt (r : Json) (k : String) : Except Failure (Option String) :=
  match r.get? k with
  | some (.str s) => .ok (some s)
  | _ => .ok none

/-- A natural number field, at most `2^64 - 1`. -/
def nat (r : Json) (k : String) : Except Failure Nat :=
  match r.get? k with
  | some (.num (.nat n)) => .ok n
  | some _ => .error (.badInput ("field " ++ k ++ " must be a non-negative integer"))
  | none => .error (.badInput ("missing field " ++ k))

/-- A natural number field with a default for anything but a natural number. -/
def natOr (r : Json) (k : String) (fallback : Nat) : Except Failure Nat :=
  match r.get? k with
  | some (.num (.nat n)) => .ok n
  | _ => .ok fallback

/-- A boolean field with a default for anything but a boolean. -/
def boolOr (r : Json) (k : String) (fallback : Bool) : Except Failure Bool :=
  match r.get? k with
  | some (.bool b) => .ok b
  | _ => .ok fallback

/-- An array field. -/
def arr (r : Json) (k : String) : Except Failure (List Json) :=
  match r.get? k with
  | some (.arr xs) => .ok xs
  | some _ => .error (.badInput (k ++ " must be an array"))
  | none => .error (.badInput ("missing field " ++ k))

/-- An array field, empty when absent or not an array. -/
def arrOr (r : Json) (k : String) : Except Failure (List Json) :=
  match r.get? k with
  | some (.arr xs) => .ok xs
  | _ => .ok []

/-- An object field, empty when absent or not an object. -/
def objOr (r : Json) (k : String) : Except Failure (List (String × Json)) :=
  match r.get? k with
  | some (.obj fs) => .ok fs
  | _ => .ok []

/-- Whether a name and value can be set as a process variable: the name is not empty, and
neither holds NUL nor the name an equals sign. -/
def isSettableVariable (name value : String) : Bool :=
  !name.isEmpty && !name.contains '=' && !name.contains (Char.ofNat 0) &&
    !value.contains (Char.ofNat 0)

/-- **The variables a request sets,** from its `env` object, checked entry by entry in order: a
value that is not a string, or a variable that cannot be set, ends the reading. -/
def environment (r : Json) : Except Failure (List (String × String)) := do
  let env ← objOr r "env"
  env.mapM fun (k, v) =>
    match v with
    | .str s =>
      if isSettableVariable k s then .ok (k, s) else .error (.badInput "invalid env var")
    | _ => .error (.badInput "env values must be strings")

/-- A field decoded into a typed value; a shape error is a `deserialize` failure. -/
def decode (r : Json) (k : String) (d : Decoder α) : Except Failure α := do
  let v ← field r k
  (d v).mapError Failure.ofDecode

end Request

end ChatGateway
