import LicenseGate.Yaml.Character

/-!
A place in a text, and what is still to be read from there.
-/

namespace LicenseGate.Yaml

/-- The line, counted from zero, and what stands before the place on it: in characters, and in
octets of UTF-8. -/
structure Place where
  line : Nat
  column : Nat
  octets : Nat
  deriving DecidableEq, Repr

namespace Place

def start : Place := ⟨0, 0, 0⟩

def past (place : Place) (c : Char) : Place :=
  { place with column := place.column + 1, octets := place.octets + c.utf8Size }

def nextLine (place : Place) : Place := ⟨place.line + 1, 0, 0⟩

end Place

structure Cursor where
  place : Place
  rest : List Char
  deriving DecidableEq, Repr

namespace Cursor

def skip (cursor : Cursor) (count : Nat) : Cursor :=
  ⟨(cursor.rest.take count).foldl Place.past cursor.place, cursor.rest.drop count⟩

def next (cursor : Cursor) : Cursor := cursor.skip 1

/-- The longest run of characters of a class that holds no line end, and the place after it. -/
def takeWhile (cursor : Cursor) (keep : Char → Bool) : List Char × Cursor :=
  let run := cursor.rest.takeWhile keep
  (run, cursor.skip run.length)

def skipWhile (cursor : Cursor) (drop : Char → Bool) : Cursor := (cursor.takeWhile drop).2

def skipBreak (cursor : Cursor) : Cursor :=
  match cursor.rest with
  | c :: rest => if isBreak c then ⟨cursor.place.nextLine, rest⟩ else cursor
  | [] => cursor

/-- Past blanks and a comment to the start of the next line, if nothing else is on this one. -/
def finishLine? (cursor : Cursor) : Option Cursor :=
  let cursor := cursor.skipWhile isBlank
  let cursor := if cursor.rest.head? = some '#' then cursor.skipWhile (!isBreak ·) else cursor
  match cursor.rest with
  | [] => some cursor
  | c :: _ => if isBreak c then some cursor.skipBreak else none

end Cursor

end LicenseGate.Yaml
