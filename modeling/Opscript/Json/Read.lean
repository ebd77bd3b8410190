import Opscript.Decimal.Reading
import Opscript.Json.Basic
import Opscript.Json.Fault
import Opscript.Ordered
import Opscript.Text.Utf16

/-!
# Reading JSON

`read` takes a whole text. Each reader below it takes the characters that are left and gives back
what it read with the rest. Brackets nest at most 127 levels. In an object the last value of a
key counts, in the place of the first. The repeated part of a string, list or object is bounded by
the number of characters left, which it never needs in full.
-/

namespace Opscript.Json

namespace Reading

/-- A result with the characters left, or a fault. -/
abbrev Step (α : Type) := Except Fault (α × List Char)

/-- Reads on with what was read and what is left. -/
def Step.andThen {α β : Type} : Step α → (α → List Char → Step β) → Step β
  | .error f, _ => .error f
  | .ok (x, rest), next => next x rest

/-- Changes the result and keeps what is left. -/
def Step.map {α β : Type} (f : α → β) (r : Step α) : Step β :=
  r.andThen fun x rest => .ok (f x, rest)

/-- Number of bytes of these characters. -/
def bytes (s : List Char) : Nat := total Char.utf8Size s

/-- A fault that takes in the next byte, if there is one. -/
def faultAt {α : Type} (cause : Cause) (s : List Char) : Step α := .error ⟨cause, bytes s - 1⟩

/-- A fault right before these characters. -/
def faultBefore {α : Type} (cause : Cause) (s : List Char) : Step α := .error ⟨cause, bytes s⟩

/-- The text ended inside `part`. -/
def ended {α : Type} (part : Part) : Step α := .error ⟨.endOf part, 0⟩

def isBlank (c : Char) : Bool := c == ' ' || c == '\n' || c == '\t' || c == '\r'

def skipBlanks (s : List Char) : List Char := s.dropWhile isBlank

/-! ## Words and numbers -/

/-- Takes the letters of `word` off the text. -/
def word : List Char → List Char → Step Unit
  | [], s => .ok ((), s)
  | _ :: _, [] => ended .value
  | w :: ws, c :: rest => if c = w then word ws rest else faultAt .noWord (c :: rest)

def digit (c : Char) : Nat := c.toNat - 48

def startsWithDigit : List Char → Bool
  | [] => false
  | c :: _ => c.isDigit

/-- Gathers digits behind the significand `n` while it fits. -/
def gather (n : Nat) : List Char → Nat × List Char
  | [] => (n, [])
  | c :: rest =>
    if c.isDigit then
      match Decimal.push? n (digit c) with
      | some m => gather m rest
      | none => (n, c :: rest)
    else (n, c :: rest)

/-- The largest exponent that can be written. -/
def maxExponent : Nat := UInt32.size / 2 - 1

/-- Gathers the digits of an exponent. One that is too large ends at the digit that makes it so. -/
def gatherExponent (n : Nat) : List Char → Except (List Char) (Nat × List Char)
  | [] => .ok (n, [])
  | c :: rest =>
    if c.isDigit then
      if n * 10 + digit c ≤ maxExponent then gatherExponent (n * 10 + digit c) rest
      else .error rest
    else .ok (n, c :: rest)

def withSign (negative : Bool) (x : Float) : Float := if negative then -x else x

/-- The float `significand · 10 ^ e`. -/
def scaled (negative : Bool) (significand : Nat) (e : Int) (s : List Char) : Step Number :=
  match Decimal.toFloat? significand e with
  | some x => .ok (.float (withSign negative x), s)
  | none => faultBefore .numberOutOfRange s

/-- Reads the digits of an exponent, behind its sign. -/
def exponentDigits (negative : Bool) (significand : Nat) (e : Int) (down : Bool) :
    List Char → Step Number
  | [] => ended .value
  | c :: rest =>
    if c.isDigit then
      match gatherExponent (digit c) rest with
      | .ok (n, rest) => scaled negative significand (if down then e - n else e + n) rest
      | .error rest =>
        if significand ≠ 0 ∧ ¬ down then faultBefore .numberOutOfRange rest
        else .ok (.float (withSign negative 0), rest.dropWhile Char.isDigit)
    else faultAt .badNumber (c :: rest)

/-- Reads what may follow the digits of a float. -/
def exponentPart (negative : Bool) (significand : Nat) (e : Int) : List Char → Step Number
  | [] => scaled negative significand e []
  | c :: rest =>
    if c = 'e' ∨ c = 'E' then
      match rest with
      | '+' :: rest => exponentDigits negative significand e false rest
      | '-' :: rest => exponentDigits negative significand e true rest
      | rest => exponentDigits negative significand e false rest
    else scaled negative significand e (c :: rest)

/-- Reads the digits behind a decimal point. -/
def fraction (negative : Bool) (significand : Nat) (e : Int) (s : List Char) : Step Number :=
  match s with
  | [] => ended .value
  | c :: _ =>
    if c.isDigit then
      let (n, rest) := gather significand s
      let taken := s.length - rest.length
      exponentPart negative n (e - taken) (rest.dropWhile Char.isDigit)
    else faultAt .badNumber s

/-- A number without point and exponent. -/
def integer (negative : Bool) (n : Nat) : Number :=
  if ¬ negative then .int n
  else if n = 0 ∨ UInt64.size / 2 < n then .float (-(UInt64.ofNat n).toFloat)
  else .int (-n)

/-- Reads what may follow the whole part, of which `dropped` digits did not fit. -/
def afterWhole (negative : Bool) (n : Nat) (dropped : Nat) (s : List Char) : Step Number :=
  match s with
  | '.' :: rest => fraction negative n dropped rest
  | c :: _ =>
    if c = 'e' ∨ c = 'E' ∨ dropped ≠ 0 then exponentPart negative n dropped s
    else .ok (integer negative n, s)
  | [] => if dropped = 0 then .ok (integer negative n, []) else scaled negative n dropped []

/-- Reads a number behind its sign. -/
def number (negative : Bool) : List Char → Step Number
  | [] => ended .value
  | '0' :: rest =>
    if startsWithDigit rest then faultAt .badNumber rest else afterWhole negative 0 0 rest
  | c :: rest =>
    if c.isDigit then
      let (n, rest) := gather (digit c) rest
      let more := rest.dropWhile Char.isDigit
      afterWhole negative n (rest.length - more.length) more
    else faultAt .badNumber (c :: rest)

/-! ## Strings -/

def hexValue? (c : Char) : Option Nat :=
  if c.isDigit then some (c.toNat - 48)
  else if 'a' ≤ c ∧ c ≤ 'f' then some (c.toNat - 87)
  else if 'A' ≤ c ∧ c ≤ 'F' then some (c.toNat - 55)
  else none

/-- The unit of four hexadecimal digits. -/
def hexUnit? (a b c d : Char) : Option Code := do
  let a ← hexValue? a
  let b ← hexValue? b
  let c ← hexValue? c
  let d ← hexValue? d
  return UInt16.ofNat (((a * 16 + b) * 16 + c) * 16 + d)

/-- Takes four bytes, which must be hexadecimal digits. -/
def hexUnit (s : List Char) : Step Code :=
  if bytes s < 4 then ended .string
  else
    match s with
    | a :: b :: c :: d :: rest =>
      match hexUnit? a b c d with
      | some u => .ok (u, rest)
      | none => .error ⟨.badEscape, bytes s - 4⟩
    | _ => .error ⟨.badEscape, bytes s - 4⟩

/-- The second half of a pair whose first half was read. -/
def lowHalf (high : Code) : List Char → Step Char
  | [] => ended .string
  | ['\\'] => ended .string
  | '\\' :: 'u' :: rest =>
    (hexUnit rest).andThen fun low rest =>
      if low.isLow then .ok (Utf16.pair high low, rest) else faultBefore .loneSurrogate rest
  | '\\' :: rest => faultAt .unpairedHexEscape rest
  | s => faultAt .unpairedHexEscape s

/-- Reads what follows `\u`. -/
def hexEscape (s : List Char) : Step Char :=
  (hexUnit s).andThen fun u rest =>
    if u.isLow then faultBefore .loneSurrogate rest
    else if u.isHigh then lowHalf u rest
    else .ok (Char.ofNat u.toNat, rest)

/-- Reads what follows a backslash. -/
def escaped : List Char → Step Char
  | [] => ended .string
  | '"' :: rest => .ok ('"', rest)
  | '\\' :: rest => .ok ('\\', rest)
  | '/' :: rest => .ok ('/', rest)
  | 'b' :: rest => .ok ('\x08', rest)
  | 'f' :: rest => .ok ('\x0c', rest)
  | 'n' :: rest => .ok ('\n', rest)
  | 'r' :: rest => .ok ('\r', rest)
  | 't' :: rest => .ok ('\t', rest)
  | 'u' :: rest => hexEscape rest
  | s => faultAt .badEscape s

/-- Reads the rest of a string behind its quotation mark. -/
def stringRest : Nat → List Char → Step (List Char)
  | 0, _ => ended .string
  | _ + 1, [] => ended .string
  | n + 1, c :: rest =>
    if c = '"' then .ok ([], rest)
    else if c = '\\' then
      (escaped rest).andThen fun x rest => (stringRest n rest).map (x :: ·)
    else if c.toNat < 0x20 then faultAt .rawControl (c :: rest)
    else (stringRest n rest).map (c :: ·)

/-- Reads a string behind its quotation mark. -/
def string (s : List Char) : Step String := (stringRest (s.length + 1) s).map String.ofList

/-! ## Lists and objects -/

/-- Reads on behind an item of a list. -/
def moreItems (item : List Char → Step Json) : Nat → List Char → Step (List Json)
  | 0, _ => ended .list
  | n + 1, s =>
    match skipBlanks s with
    | [] => ended .list
    | ']' :: rest => .ok ([], rest)
    | ',' :: rest =>
      match skipBlanks rest with
      | [] => ended .value
      | ']' :: rest => faultAt .trailingComma (']' :: rest)
      | s => (item s).andThen fun v rest => (moreItems item n rest).map (v :: ·)
    | s => faultAt .noCommaOrBracket s

/-- Reads a list behind its bracket. -/
def items (item : List Char → Step Json) (s : List Char) : Step (List Json) :=
  match skipBlanks s with
  | [] => ended .list
  | ']' :: rest => .ok ([], rest)
  | s => (item s).andThen fun v rest => (moreItems item (rest.length + 1) rest).map (v :: ·)

/-- Reads a field behind the quotation mark of its key. -/
def field (item : List Char → Step Json) (s : List Char) : Step (String × Json) :=
  (string s).andThen fun k rest =>
    match skipBlanks rest with
    | [] => ended .object
    | ':' :: rest => (item rest).map (k, ·)
    | s => faultAt .noColon s

/-- Reads on behind a field of an object. -/
def moreFields (item : List Char → Step Json) : Nat → List Char → Step (List (String × Json))
  | 0, _ => ended .object
  | n + 1, s =>
    match skipBlanks s with
    | [] => ended .object
    | '}' :: rest => .ok ([], rest)
    | ',' :: rest =>
      match skipBlanks rest with
      | [] => ended .value
      | '"' :: rest =>
        (field item rest).andThen fun f rest => (moreFields item n rest).map (f :: ·)
      | '}' :: rest => faultAt .trailingComma ('}' :: rest)
      | s => faultAt .keyNotString s
    | s => faultAt .noCommaOrBrace s

/-- Reads an object behind its brace. -/
def fields (item : List Char → Step Json) (s : List Char) : Step (List (String × Json)) :=
  match skipBlanks s with
  | [] => ended .object
  | '}' :: rest => .ok ([], rest)
  | '"' :: rest =>
    (field item rest).andThen fun f rest =>
      (moreFields item (rest.length + 1) rest).map (f :: ·)
  | s => faultAt .keyNotString s

/-! ## Documents -/

/-- Reads a value with brackets that nest at most `levels` deep. -/
def value (levels : Nat) (s : List Char) : Step Json :=
  match skipBlanks s with
  | [] => ended .value
  | 'n' :: rest => (word ['u', 'l', 'l'] rest).map fun _ => .null
  | 't' :: rest => (word ['r', 'u', 'e'] rest).map fun _ => .bool true
  | 'f' :: rest => (word ['a', 'l', 's', 'e'] rest).map fun _ => .bool false
  | '-' :: rest => (number true rest).map .number
  | '"' :: rest => (string rest).map .string
  | '[' :: rest =>
    match levels with
    | 0 => faultAt .tooDeep ('[' :: rest)
    | n + 1 => (items (value n) rest).map .array
  | '{' :: rest =>
    match levels with
    | 0 => faultAt .tooDeep ('{' :: rest)
    | n + 1 => (fields (value n) rest).map fun fs => .object (Ordered.collapse fs)
  | c :: rest =>
    if c.isDigit then (number false (c :: rest)).map .number
    else faultAt .noValue (c :: rest)

/-- How deep brackets may nest. -/
def maxLevels : Nat := 127

/-- Reads a value with nothing but blanks around it. -/
def document (s : List Char) : Step Json :=
  (value maxLevels s).andThen fun v rest =>
    match skipBlanks rest with
    | [] => .ok (v, [])
    | s => faultAt .trailingCharacters s

end Reading

/-- Reads a whole text. -/
def read (text : String) : Except ReadError Json :=
  match Reading.document text.toList with
  | .ok (v, _) => .ok v
  | .error f => .error (f.locate text)

end Opscript.Json
