/-!
White space as the Unicode property of that name has it, and the removal of it at both ends of a
text. Lower case is that of ASCII: no other letter changes.
-/

namespace CursorBuffers.Text

/-- The property White_Space. -/
def isBlank (c : Char) : Bool :=
  let code := c.toNat
  (9 ≤ code && code ≤ 13) || code == 0x20 || code == 0x85 || code == 0xa0 || code == 0x1680 ||
    (0x2000 ≤ code && code ≤ 0x200a) || code == 0x2028 || code == 0x2029 || code == 0x202f ||
    code == 0x205f || code == 0x3000

def trimStart (text : List Char) : List Char := text.dropWhile isBlank

def trimEnd (text : List Char) : List Char := (text.reverse.dropWhile isBlank).reverse

def trim (text : List Char) : List Char := trimEnd (trimStart text)

def lower (text : List Char) : List Char := text.map Char.toLower

end CursorBuffers.Text
