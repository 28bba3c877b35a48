/-! # Finding and replacing inside a text

`Text.occursIn` tells whether a piece occurs in a character list, and `Text.replaceAll` replaces
its occurrences left to right without overlap: after a replacement the search resumes behind
the occurrence, so `aaa` with `aa` replaced by `b` becomes `ba`.
-/

namespace ChatGateway

namespace Text

/-- Whether `piece` occurs somewhere in `cs`. -/
def occursIn (piece : List Char) : List Char → Bool
  | [] => piece.isEmpty
  | c :: rest => piece.isPrefixOf (c :: rest) || occursIn piece rest

/-- **Replaces every occurrence of a non-empty `piece`, left to right, by `by`.** -/
def replaceAll (piece replacement : List Char) (cs : List Char) : List Char :=
  match cs with
  | [] => []
  | c :: rest =>
    if h : piece ≠ [] ∧ piece.isPrefixOf (c :: rest) then
      have : 0 < piece.length := List.length_pos_iff.mpr h.1
      replacement ++ replaceAll piece replacement ((c :: rest).drop piece.length)
    else c :: replaceAll piece replacement rest
termination_by cs.length

end Text

end ChatGateway
