import ChatGateway.Json.Value

/-! # Masking task ids in answers

Task ids are random UUIDs, so answers show them masked: every substring of a string value of
the form `xxxxxxxx-xxxx-xxxx-xxxx-xxxxxxxxxxxx` (lowercase hexadecimal) becomes `<id:N>`, where
`N` numbers the distinct ids by first appearance. The answer is walked depth first, arrays in
order and objects in key order, and each string from left to right.
-/

namespace ChatGateway

namespace Mask

/-- Whether a character is a lowercase hexadecimal digit. -/
def isHexDigit (c : Char) : Bool := ('0' ≤ c && c ≤ '9') || ('a' ≤ c && c ≤ 'f')

/-- Whether the first 36 characters have the shape of a UUID. -/
def isUuidAt (cs : List Char) : Bool :=
  cs.length ≥ 36 && ((cs.take 36).zipIdx.all fun (c, i) =>
    if i = 8 ∨ i = 13 ∨ i = 18 ∨ i = 23 then c = '-' else isHexDigit c)

/-- The number of an id, adding it when new. -/
def number (seen : List String) (id : String) : Nat × List String :=
  match seen.idxOf? id with
  | some i => (i + 1, seen)
  | none => (seen.length + 1, seen ++ [id])

/-- Masks the ids of a character list. -/
def maskChars (cs : List Char) (seen : List String) : List Char × List String :=
  match cs with
  | [] => ([], seen)
  | c :: rest =>
    if isUuidAt (c :: rest) then
      let (n, seen) := number seen (String.ofList ((c :: rest).take 36))
      have : ((c :: rest).drop 36).length < (c :: rest).length := by
        simp only [List.length_drop, List.length_cons]; omega
      let (more, seen) := maskChars ((c :: rest).drop 36) seen
      (("<id:" ++ toString n ++ ">").toList ++ more, seen)
    else
      let (more, seen) := maskChars rest seen
      (c :: more, seen)
termination_by cs.length

mutual

/-- Masks the ids in a value. -/
def maskJson : Json → List String → Json × List String
  | .str s, seen => let (cs, seen) := maskChars s.toList seen; (.str (String.ofList cs), seen)
  | .arr xs, seen => let (xs, seen) := maskItems xs seen; (.arr xs, seen)
  | .obj fs, seen => let (fs, seen) := maskFields fs seen; (.obj fs, seen)
  | j, seen => (j, seen)

/-- Masks the ids in array items, in order. -/
def maskItems : List Json → List String → List Json × List String
  | [], seen => ([], seen)
  | x :: rest, seen =>
    let (x, seen) := maskJson x seen
    let (rest, seen) := maskItems rest seen
    (x :: rest, seen)

/-- Masks the ids in object values, in key order. -/
def maskFields : List (String × Json) → List String → List (String × Json) × List String
  | [], seen => ([], seen)
  | (k, v) :: rest, seen =>
    let (v, seen) := maskJson v seen
    let (rest, seen) := maskFields rest seen
    ((k, v) :: rest, seen)

end

/-- **An answer with its task ids masked.** -/
def answer (j : Json) : Json := (maskJson j []).1

end Mask

end ChatGateway
