/-! # Truncating tool results

A tool result longer than the byte budget is cut at the last character boundary within the
budget, and a note with the full size follows: `<prefix>\n\n[truncated, N bytes total]`.
A result within the budget is kept whole.
-/

namespace ChatGateway

namespace ToolResult

/-- The longest prefix of `cs` whose UTF-8 encoding fits in `budget` bytes. -/
def fitPrefix : List Char → Nat → List Char
  | [], _ => []
  | c :: rest, budget =>
    if c.utf8Size ≤ budget then c :: fitPrefix rest (budget - c.utf8Size) else []

/-- **A tool result cut to at most `maxBytes` bytes, with a note when it was cut.** -/
def truncate (input : String) (maxBytes : Nat) : String :=
  if input.utf8ByteSize ≤ maxBytes then input
  else
    String.ofList (fitPrefix input.toList maxBytes) ++ "\n\n[truncated, " ++
      toString input.utf8ByteSize ++ " bytes total]"

end ToolResult

end ChatGateway
