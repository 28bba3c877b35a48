import ChatGateway.Text.Lowercase

/-! # Sender allowlists

An allowlist decides which senders may talk to the assistant through a channel.

* An empty allowlist admits everyone.
* Otherwise a sender is admitted when one of its *candidates* matches one of the patterns, both
  compared in lowercase. The candidates are the whole sender id and each non-empty part of it
  between `|` signs, so `12345|alice` is admitted by the pattern `alice`.
* A pattern without `*` matches exactly that text. In a pattern with stars, `*` stands for any
  run of characters: the text before the first star must begin the candidate, the text after
  the last star must end it, without the two overlapping, and the pieces between the stars must
  appear in order in what lies between (`Glob.accepts`).
-/

namespace ChatGateway

namespace Glob

/-- The pieces of a pattern between its stars (one piece when there is no star). -/
def pieces : List Char → List (List Char)
  | [] => [[]]
  | c :: rest =>
    match pieces rest with
    | [] => [[c]]
    | p :: ps => if c = '*' then [] :: p :: ps else (c :: p) :: ps

/-- The text after the leftmost occurrence of `piece`, if it occurs. -/
def dropThrough (piece : List Char) : List Char → Option (List Char)
  | [] => if piece.isEmpty then some [] else none
  | c :: rest => if piece.isPrefixOf (c :: rest) then some ((c :: rest).drop piece.length)
    else dropThrough piece rest

/-- Whether the pieces occur in order, each after the previous one, searching leftmost. -/
def inOrder : List (List Char) → List Char → Bool
  | [], _ => true
  | p :: ps, text =>
    match dropThrough p text with
    | some rest => inOrder ps rest
    | none => false

/-- **Whether a starred pattern matches a text.** The first piece anchors the start, the last
piece the end, and the pieces between occur in order in the rest. -/
def accepts (pattern text : List Char) : Bool :=
  match pieces pattern with
  | [] => pattern == text
  | [single] => single == text
  | head :: more =>
    let tail := more.getLast?.getD []
    let middle := (more.dropLast).filter (!·.isEmpty)
    head.length + tail.length ≤ text.length && head.isPrefixOf text && tail.isSuffixOf text &&
      inOrder middle ((text.drop head.length).take (text.length - head.length - tail.length))

end Glob

/-- **A channel's sender allowlist:** patterns, with `*` as wildcard. -/
structure Allowlist where
  patterns : List String
  deriving Repr, DecidableEq

namespace Allowlist

/-- The texts of a sender id that patterns are tried against: the lowercased id, then its
non-empty parts between `|` signs. -/
def candidates (sender : String) : List String :=
  let lower := Text.lowercase sender
  lower :: (lower.splitOn "|").filter (· ≠ "")

/-- Whether a lowercased pattern matches a candidate. -/
def patternMatches (pattern candidate : String) : Bool :=
  if pattern.contains '*' then Glob.accepts pattern.toList candidate.toList
  else pattern == candidate

/-- **Whether the allowlist admits a sender.** -/
def admits (a : Allowlist) (sender : String) : Bool :=
  a.patterns.isEmpty ||
    (candidates sender).any fun c => a.patterns.any fun p => patternMatches (Text.lowercase p) c

end Allowlist

end ChatGateway
