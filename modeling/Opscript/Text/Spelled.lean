import Opscript.Text.Characters

/-!
# Spelled-out text

`spell` writes a text so that every character of it can be seen: the common controls by letter,
and what has no glyph or joins its neighbour as its hexadecimal number.
-/

namespace Opscript.Text

/-- The number of a character in braces. -/
def spellNumber (c : Char) : List Char :=
  ['\\', 'u', '\x7b'] ++ Nat.toDigits 16 c.toNat ++ ['\x7d']

def spellChar (c : Char) : List Char :=
  if c = '"' then ['\\', '"']
  else if c = '\\' then ['\\', '\\']
  else if c = '\t' then ['\\', 't']
  else if c = '\n' then ['\\', 'n']
  else if c = '\r' then ['\\', 'r']
  else if c = '\x00' then ['\\', '0']
  else if 0x20 ≤ c.toNat && c.toNat < 0x7F then [c]
  else if isUnprintable c || isExtending c then spellNumber c
  else [c]

/-- The text between quotation marks, with nothing in it that cannot be seen. -/
def spell (s : String) : String :=
  String.ofList ('"' :: s.toList.flatMap spellChar ++ ['"'])

end Opscript.Text
