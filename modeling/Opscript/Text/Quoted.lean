/-!
# Quoted text

`quote` writes a text between quotation marks as JSON does: quotation mark and backslash behind a
backslash, the controls below U+0020 by letter or as four hexadecimal digits, all else as it is.
-/

namespace Opscript.Text

/-- A lower-case hexadecimal digit. -/
def hexDigit (n : Nat) : Char := Nat.digitChar (n % 16)

/-- How a character is written between quotation marks. -/
def escape (c : Char) : List Char :=
  if c = '"' then ['\\', '"']
  else if c = '\\' then ['\\', '\\']
  else if c = '\x08' then ['\\', 'b']
  else if c = '\t' then ['\\', 't']
  else if c = '\n' then ['\\', 'n']
  else if c = '\x0c' then ['\\', 'f']
  else if c = '\r' then ['\\', 'r']
  else if c.toNat < 0x20 then
    ['\\', 'u', '0', '0', hexDigit (c.toNat / 16), hexDigit c.toNat]
  else [c]

def quoteChars (s : List Char) : List Char := '"' :: s.flatMap escape ++ ['"']

/-- The text between quotation marks. -/
def quote (s : String) : String := String.ofList (quoteChars s.toList)

end Opscript.Text
