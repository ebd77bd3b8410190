import Opscript.Diagnostic.ByteRange
import Opscript.Diagnostic.Window
import Opscript.Text.Characters

/-!
# Excerpts

An excerpt shows a message with the line of text that it is about, and marks a range of bytes in
it. The mark follows the columns of the characters above it, and the message is written once more
behind the mark, as it is.
-/

namespace Opscript.Diagnostic.Excerpt

/-- The terminal's sequences around a text, if colours are wanted. -/
def ink (colored : Bool) (codes : List String) (s : String) : String :=
  if colored then String.join (codes.map fun c => "\x1b[" ++ c ++ "m") ++ s ++ "\x1b[0m" else s

/-- The frame of an excerpt. -/
def frame (colored : Bool) (s : String) : String := ink colored ["1", "94"] s

/-- The columns of the blanks before the text of a line, if it has any text. -/
def indent (s : List Char) : Nat :=
  if s.all Text.isBlank then 0
  else total (fun c => if c = '\t' then 4 else 1) (s.takeWhile Text.isBlank)

/-- What is printed in an excerpt. -/
structure Content where
  level : String
  /-- The terminal's number for the colour of the level. -/
  color : String
  title : String
  label : String
  path : Option String
  source : List Char
  range : ByteRange

namespace Content

/-- The text before the mark. -/
def before (x : Content) : List Char := takeBytes x.range.start x.source

/-- The marked text. -/
def marked (x : Content) : List Char :=
  takeBytes (x.range.stop - x.range.start) (dropBytes x.range.start x.source)

/-- The columns of the mark. -/
def markWidth (x : Content) : Nat := max 1 (width x.marked)

/-- Where the parts of the excerpt stand. One column is free between the mark and the label. -/
def place (x : Content) : Place :=
  let start := width x.before
  let stop := start + x.markWidth
  { line := width x.source
    indent := min (indent x.source) start
    start
    stop
    reach := stop + 1 + width x.label.toList }

/-- The part of the line that is shown. -/
def window (x : Content) : Window := Window.fit x.place

def levelInk (colored : Bool) (x : Content) (s : String) : String := ink colored ["1", x.color] s

/-- The lines of the title; further ones begin below the first. -/
def titleLines (colored : Bool) (x : Content) : List String :=
  let bold := ink colored ["1"]
  let below (s : String) : String :=
    Listing.spaces (x.level.length + 2) ++ if s.isEmpty then "" else bold s
  match (String.ofList (pictures x.title.toList)).splitOn "\n" with
  | [] => []
  | first :: rest => (x.levelInk colored x.level ++ bold (": " ++ first)) :: rest.map below

def pathLines (colored : Bool) (x : Content) : List String :=
  match x.path with
  | none => []
  | some path =>
    [" " ++ frame colored "--> " ++ path ++ ":1:" ++ toString (x.before.length + 1)]

def sourceLine (colored : Bool) (x : Content) : String :=
  let row := x.window.draw (frame colored) (pictures x.source)
  frame colored "1" ++ " " ++ frame colored "|" ++ if row.isEmpty then "" else " " ++ row

def markLine (colored : Bool) (x : Content) : String :=
  let left := width (x.window.hidden (pictures x.source))
  "  " ++ frame colored "|" ++ " " ++ Listing.spaces (x.place.start - left) ++
    x.levelInk colored (String.ofList (List.replicate x.markWidth '^')) ++ " " ++
    x.levelInk colored x.label

/-- The lines of the excerpt. -/
def render (colored : Bool) (x : Content) : String :=
  String.intercalate "\n"
    (x.titleLines colored ++ x.pathLines colored ++
      ["  " ++ frame colored "|", x.sourceLine colored, x.markLine colored])

end Content

end Opscript.Diagnostic.Excerpt
