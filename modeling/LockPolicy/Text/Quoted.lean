import LockPolicy.Text.Glyphless

/-!
# Quoted text

Text in double quotes, written so that it can be read on any screen: the
quote and the backslash follow a backslash, four controls have a sign
of their own, and every other character without a glyph stands as its
number.
-/

namespace LockPolicy.Text

/-- How a character is written between quotes. -/
def escape (c : Char) : List Char :=
  if c = '\x00' then ['\\', '0']
  else if c = '\t' then ['\\', 't']
  else if c = '\n' then ['\\', 'n']
  else if c = '\r' then ['\\', 'r']
  else if c = '\x22' then ['\\', c]
  else if c = '\\' then ['\\', c]
  else if isGlyphless c then
    ['\\', 'u', '\x7b'] ++ Nat.toDigits 16 c.toNat ++ ['\x7d']
  else [c]

/-- The text in double quotes. -/
def quote (text : String) : String :=
  String.ofList ('\x22' :: text.toList.flatMap escape ++ ['\x22'])

end LockPolicy.Text
