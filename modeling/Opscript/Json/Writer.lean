import Opscript.Json.Basic

/-!
# Writing a document piece by piece

A document can be handed over in pieces: a scalar by itself; a list or an object as a beginning with
the number of what is in it, then each item or field behind its announcement, then an end. A `Sink`
takes such pieces. A `Writer` makes the text without blanks of them. Of a list or an object that is
open it only knows whether anything stands in it yet, and from that it knows where commas go.
-/

namespace Opscript.Json

/-- Someone who is handed a document piece by piece. -/
structure Sink (σ : Type) where
  null : σ → σ
  bool (b : Bool) : σ → σ
  int (n : Int64) : σ → σ
  float (x : Float) : σ → σ
  string (s : String) : σ → σ
  /-- A list with so many items begins. -/
  beginArray (size : Nat) : σ → σ
  /-- The next item follows. -/
  item : σ → σ
  endArray : σ → σ
  /-- An object with so many fields begins. -/
  beginObject (size : Nat) : σ → σ
  /-- The next value follows, and this is its key. -/
  key (k : String) : σ → σ
  endObject : σ → σ

/-- What is known of a list or an object that has begun. -/
inductive Writer.Filling where
  /-- It has nothing in it, and its closing bracket is written. -/
  | closed
  | nothing
  | something
  deriving DecidableEq, Repr

structure Writer where
  text : String := ""
  /-- The lists and objects that have begun, the innermost first. -/
  opened : List Writer.Filling := []
  deriving DecidableEq, Repr

namespace Writer

def put (s : String) (w : Writer) : Writer := { w with text := w.text ++ s }

/-- Begins something between the brackets `front` and `back`, which is closed at once if it is
empty. -/
def enter (front back : String) (size : Nat) (w : Writer) : Writer :=
  if size = 0 then { w.put (front ++ back) with opened := .closed :: w.opened }
  else { w.put front with opened := .nothing :: w.opened }

/-- Writes a comma in front of all but the first item. -/
def separate (w : Writer) : Writer :=
  match w.opened with
  | [] => w
  | .nothing :: outer => { w with opened := .something :: outer }
  | _ :: outer => { w.put "," with opened := .something :: outer }

def leave (back : String) (w : Writer) : Writer :=
  match w.opened with
  | [] => w
  | .closed :: outer => { w with opened := outer }
  | _ :: outer => { w.put back with opened := outer }

/-- Writes without blanks, and floats as `number` does. -/
def compact (number : Float → String) : Sink Writer where
  null := put "null"
  bool b := put (if b then "true" else "false")
  int n := put (toString n.toInt)
  float x := put (number x)
  string s := put (Text.quote s)
  beginArray := enter "[" "]"
  item := separate
  endArray := leave "]"
  beginObject := enter "\x7b" "\x7d"
  key k w := w.separate.put (Text.quote k ++ ":")
  endObject := leave "\x7d"

end Writer

end Opscript.Json
