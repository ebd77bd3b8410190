/-!
# Kinds of diagnostics

Every condition that the checks can detect is a kind. A kind has a category, may have a hint of
its own, and has two messages: one by itself, and one that takes in a detail.
-/

namespace Opscript.Diagnostic

inductive Category where
  | type
  | form
  | range
  | reference
  deriving DecidableEq, Repr

def Category.name : Category → String
  | type => "TypeError"
  | form => "SyntaxError"
  | range => "RangeError"
  | reference => "ReferenceError"

inductive Kind where
  | invalidSymbolType
  | missingCallback
  | invalidConfigField
  | unknownConfigKey
  | symbolNotSingleChar
  | emptySequence
  | codeOutOfRange
  | sequenceTooLong
  | invalidMaxLength
  | recordNotFound
  deriving DecidableEq, Repr

/-- A message in which a pair of braces stands for a detail. -/
structure Template where
  text : String
  deriving DecidableEq, Repr

namespace Template

/-- What stands for the detail. -/
def braces : String := "\x7b\x7d"

/-- The message with the detail in the place of the braces. -/
def fill (t : Template) (detail : String) : String := t.text.replace braces detail

end Template

namespace Kind

def all : List Kind :=
  [invalidSymbolType, missingCallback, invalidConfigField, unknownConfigKey, symbolNotSingleChar,
    emptySequence, codeOutOfRange, sequenceTooLong, invalidMaxLength, recordNotFound]

def name : Kind → String
  | invalidSymbolType => "InvalidSymbolType"
  | missingCallback => "MissingCallback"
  | invalidConfigField => "InvalidConfigField"
  | unknownConfigKey => "UnknownConfigKey"
  | symbolNotSingleChar => "SymbolNotSingleChar"
  | emptySequence => "EmptySequence"
  | codeOutOfRange => "CodeOutOfRange"
  | sequenceTooLong => "SequenceTooLong"
  | invalidMaxLength => "InvalidMaxLength"
  | recordNotFound => "RecordNotFound"

def category : Kind → Category
  | invalidSymbolType | missingCallback | invalidConfigField | unknownConfigKey => .type
  | symbolNotSingleChar | emptySequence => .form
  | codeOutOfRange | sequenceTooLong | invalidMaxLength => .range
  | recordNotFound => .reference

/-- The hint that every diagnostic of the kind carries. -/
def hint? : Kind → Option String
  | symbolNotSingleChar =>
    some "use a single character, or its numeric code for digits and astral characters"
  | codeOutOfRange => some "codes are UTF-16 code units: 0 to 65535"
  | unknownConfigKey =>
    some ("known keys: sequence, operations, values, labels, maxSequenceLength, " ++
      "ignoreWarnings, strictMode, argumentResolution")
  | _ => none

/-- The message without a detail. -/
def fallback : Kind → String
  | invalidSymbolType => "symbol must be a character or an integer"
  | missingCallback => "operation has no callback"
  | invalidConfigField => "invalid configuration field"
  | unknownConfigKey => "unknown configuration key"
  | symbolNotSingleChar => "symbol must be exactly one character"
  | emptySequence => "cannot execute empty sequence"
  | codeOutOfRange => "code out of range"
  | sequenceTooLong => "sequence exceeds maximum length"
  | invalidMaxLength => "maximum sequence length must be a positive integer"
  | recordNotFound => "operation record not found"

/-- The message with a detail. Where there is no room for one, it is the same. -/
def template : Kind → Template
  | symbolNotSingleChar => ⟨"symbol \x7b\x7d must be exactly one character"⟩
  | codeOutOfRange => ⟨"code \x7b\x7d is outside 0..=65535"⟩
  | unknownConfigKey => ⟨"unknown configuration key `\x7b\x7d`"⟩
  | recordNotFound => ⟨"no operation record with id \x7b\x7d"⟩
  | missingCallback => ⟨"operation \x7b\x7d has no callback"⟩
  | emptySequence => ⟨emptySequence.fallback⟩
  | kind => ⟨kind.fallback ++ ": \x7b\x7d"⟩

def message (kind : Kind) : Option String → String
  | none => kind.fallback
  | some detail => kind.template.fill detail

end Kind

end Opscript.Diagnostic
