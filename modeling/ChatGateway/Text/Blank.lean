/-! # Blank characters and trimming

`Text.isBlank` is the Unicode `White_Space` property: the ASCII controls from tab to carriage
return, space, next line, no-break space, the Ogham space mark, the spaces from en quad to hair
space, the line and paragraph separators, the narrow no-break space, the medium mathematical
space and the ideographic space. `Text.trim` removes such characters from both ends of a text;
this is the trimming applied to every field the configuration and the heartbeat read.
-/

namespace ChatGateway

namespace Text

/-- **Whether a character has the Unicode `White_Space` property.** -/
def isBlank (c : Char) : Bool :=
  let n := c.toNat
  (9 ≤ n && n ≤ 13) || n == 32 || n == 0x85 || n == 0xA0 || n == 0x1680 ||
    (0x2000 ≤ n && n ≤ 0x200A) || n == 0x2028 || n == 0x2029 || n == 0x202F ||
    n == 0x205F || n == 0x3000

/-- Removes blanks from the front of a character list. -/
def dropBlanks (cs : List Char) : List Char := cs.dropWhile isBlank

/-- **The text without its leading and trailing blanks.** -/
def trim (s : String) : String :=
  String.ofList (dropBlanks (dropBlanks s.toList).reverse).reverse

/-- The text without its leading blanks. -/
def trimStart (s : String) : String := String.ofList (dropBlanks s.toList)

end Text

end ChatGateway
