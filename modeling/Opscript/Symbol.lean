import Opscript.Inspect
import Opscript.Json.Basic
import Opscript.Text.Utf16

/-!
# Symbols

A symbol is how a user writes a code: as a character or as a number. A text of ASCII digits is a
number, so `"5"` is code 5 and never the character `'5'`; a digit character is addressed by its
number only. `number?` resolves a symbol without any check of length or range.
-/

namespace Opscript

inductive Symbol where
  | text (s : String)
  | int (n : Int64)
  /-- Input of another shape, by its text. -/
  | invalid (raw : String)
  deriving DecidableEq

/-- What a symbol can stand for, before its length and range are looked at. -/
inductive Symbol.Shape where
  | invalid
  | number
  | character
  deriving DecidableEq, Repr

namespace Symbol

/-- A non-empty text of ASCII digits. -/
def isDigits (s : List Char) : Bool := !s.isEmpty && s.all Char.isDigit

def shape : Symbol → Shape
  | text s => if isDigits s.toList then .number else .character
  | int _ => .number
  | invalid _ => .invalid

/-- The greatest number that digits resolve to. -/
def maxNumber : Nat := UInt64.size / 2 - 1

/-- The number of a digit text; larger ones saturate. -/
def ofDigits (s : List Char) : Nat := min (Nat.ofDigitChars 10 s 0) maxNumber

/-- The number that a symbol resolves to: digits by value, other texts by their first unit. -/
def number? : Symbol → Option Int
  | text s =>
    if isDigits s.toList then some (ofDigits s.toList)
    else (Utf16.encode s).head?.map Code.toInt
  | int n => some n.toInt
  | invalid _ => none

/-- Number of units of a text symbol. -/
def length? : Symbol → Option Nat
  | text s => some (Utf16.length s)
  | _ => none

/-- The symbol as it stands in a message. -/
def display : Symbol → String
  | text s => Text.spell s
  | int n => toString n.toInt
  | invalid raw => raw

/-- Texts and signed 64-bit integers are symbols; anything else keeps its text. -/
def ofJson : Json → Symbol
  | .string s => text s
  | .number n =>
    match n.int64? with
    | some i => int i
    | none => invalid n.text
  | v => invalid v.compact

instance : Inspect Symbol where
  inspect
    | text s => Inspect.call "Text" [inspect s]
    | int n => Inspect.call "Int" [toString n.toInt]
    | invalid raw => Inspect.call "Invalid" [inspect raw]

end Symbol

end Opscript
