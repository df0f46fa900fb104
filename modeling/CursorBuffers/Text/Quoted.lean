import CursorBuffers.Text.Visible

/-!
Quoted text: a text between double quotes, or one character between single quotes. The quote in
use, the backslash and the common controls are escaped by a backslash, and a character that is not
visible by its code point.
-/

namespace CursorBuffers.Text

def hexDigits (value : Nat) : List Char := Nat.toDigits 16 value

def codePoint (c : Char) : List Char :=
  ['\\', 'u', '\x7b'] ++ hexDigits c.toNat ++ ['\x7d']

/-- The written form of a character inside quotes of the kind `quote`. -/
def escaped (quote : Char) (c : Char) : List Char :=
  if c = '\x00' then ['\\', '0']
  else if c = '\t' then ['\\', 't']
  else if c = '\n' then ['\\', 'n']
  else if c = '\r' then ['\\', 'r']
  else if c = '\\' then ['\\', '\\']
  else if c = quote then ['\\', c]
  else if isVisible c then [c]
  else codePoint c

def quoted (text : String) : String :=
  String.ofList (['"'] ++ text.toList.flatMap (escaped '"') ++ ['"'])

def quotedChar (c : Char) : String :=
  String.ofList (['\''] ++ escaped '\'' c ++ ['\''])

end CursorBuffers.Text
