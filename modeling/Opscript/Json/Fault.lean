/-!
# Faults of a JSON text

A fault has a cause and a place. Lines count from one; the column is the number of bytes of the
line up to and including the one at fault, or up to the end of the text if it ended too early.
-/

namespace Opscript.Json

/-- What was being read when the text ended. -/
inductive Part where
  | value
  | list
  | object
  | string
  deriving DecidableEq, Repr

inductive Cause where
  | endOf (part : Part)
  | noValue
  | noWord
  | noColon
  | noCommaOrBracket
  | noCommaOrBrace
  | keyNotString
  | trailingComma
  | trailingCharacters
  | badNumber
  | numberOutOfRange
  | badEscape
  | rawControl
  | unpairedHexEscape
  | loneSurrogate
  | tooDeep
  deriving DecidableEq, Repr

def Part.text : Part → String
  | value => "a value"
  | list => "a list"
  | object => "an object"
  | string => "a string"

def Cause.message : Cause → String
  | endOf part => "EOF while parsing " ++ part.text
  | noValue => "expected value"
  | noWord => "expected ident"
  | noColon => "expected `:`"
  | noCommaOrBracket => "expected `,` or `]`"
  | noCommaOrBrace => "expected `,` or `\x7d`"
  | keyNotString => "key must be a string"
  | trailingComma => "trailing comma"
  | trailingCharacters => "trailing characters"
  | badNumber => "invalid number"
  | numberOutOfRange => "number out of range"
  | badEscape => "invalid escape"
  | rawControl => "control character (\\u0000-\\u001F) found while parsing a string"
  | unpairedHexEscape => "unexpected end of hex escape"
  | loneSurrogate => "lone leading surrogate in hex escape"
  | tooDeep => "recursion limit exceeded"

/-- A cause, and how many bytes of the text lie behind its place. -/
structure Fault where
  cause : Cause
  left : Nat
  deriving DecidableEq, Repr

/-- A place in a text. -/
structure Place where
  line : Nat
  column : Nat
  deriving DecidableEq, Repr

namespace Place

def start : Place := ⟨1, 0⟩

def next (p : Place) (byte : UInt8) : Place :=
  if byte = 10 then ⟨p.line + 1, 0⟩ else ⟨p.line, p.column + 1⟩

/-- The place behind these bytes. -/
def after (bytes : List UInt8) : Place := bytes.foldl next start

end Place

/-- A fault at its place. -/
structure ReadError where
  cause : Cause
  place : Place
  deriving DecidableEq, Repr

def Fault.locate (f : Fault) (text : String) : ReadError :=
  let bytes := text.toUTF8.toList
  ⟨f.cause, .after (bytes.take (bytes.length - f.left))⟩

def ReadError.message (e : ReadError) : String :=
  e.cause.message ++ " at line " ++ toString e.place.line ++ " column " ++ toString e.place.column

end Opscript.Json
