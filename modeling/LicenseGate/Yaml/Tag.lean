import LicenseGate.Yaml.Cursor

/-!
Tags, anchors and directives as they are written. A tag is kept as octets, one character each: its
text may give some of them by number.
-/

namespace LicenseGate.Yaml

structure Tag where
  handle : List Char
  suffix : List Char
  deriving DecidableEq, Repr

inductive Directive where
  | version (major minor : Nat)
  | handle (name standsFor : List Char)
  deriving DecidableEq, Repr

/-- A character that may stand in a tag; some only where the tag is bracketed or given for a
handle. -/
def isTagCharacter (bracketed : Bool) (c : Char) : Bool :=
  isWord c || ";/?:@&=+$.!~*'()".toList.contains c || (bracketed && ",[]".toList.contains c)

def followers? (octet : Nat) : Option Nat :=
  if octet < 0x80 then some 0
  else if octet < 0xc0 then none
  else if octet < 0xe0 then some 1
  else if octet < 0xf0 then some 2
  else if octet < 0xf8 then some 3
  else none

/-- Octets of a tag and the number of characters that they are written in. `due` octets have to
follow as `%` and two digits. -/
def scanTagText (bracketed : Bool) (due : Nat) : List Char → Option (List Char × Nat)
  | '%' :: high :: low :: rest =>
      match hexValue? high, hexValue? low with
      | some high, some low =>
          let octet := high * 16 + low
          let due? := if due = 0 then followers? octet
            else if octet / 64 = 2 then some (due - 1) else none
          due?.bind fun due =>
            (scanTagText bracketed due rest).map fun (text, length) =>
              (Char.ofNat octet :: text, length + 3)
      | _, _ => none
  | c :: rest =>
      if c == '%' || due ≠ 0 then none
      else if isTagCharacter bracketed c then
        (scanTagText bracketed 0 rest).map fun (text, length) => (c :: text, length + 1)
      else some ([], 0)
  | [] => if due = 0 then some ([], 0) else none

namespace Cursor

def tagText? (cursor : Cursor) (bracketed : Bool) : Option (List Char × Cursor) := do
  let (text, length) ← scanTagText bracketed 0 cursor.rest
  if length = 0 then none else some (text, cursor.skip length)

def handle (cursor : Cursor) : List Char × Cursor :=
  let (word, after) := cursor.next.takeWhile isWord
  match after.rest with
  | '!' :: _ => ('!' :: word ++ ['!'], after.next)
  | _ => ('!' :: word, after)

def untilNul (text : List Char) : List Char := text.takeWhile (· != '\x00')

def tag? (cursor : Cursor) (inFlow : Bool) : Option (Tag × Cursor) := do
  let (tag, after) ←
    match cursor.rest with
    | '!' :: '<' :: _ => do
        let (text, after) ← (cursor.skip 2).tagText? true
        match after.rest with
        | '>' :: _ => some (⟨[], untilNul text⟩, after.next)
        | _ => none
    | _ => do
        let (handle, after) := cursor.handle
        if 1 < handle.length && handle.getLast? == some '!' then
          let (text, after) ← after.tagText? false
          some (⟨handle, untilNul text⟩, after)
        else
          let (text, length) ← scanTagText false 0 after.rest
          let suffix := untilNul (handle.tail ++ text)
          let tag : Tag := if suffix.isEmpty then ⟨[], ['!']⟩ else ⟨['!'], suffix⟩
          some (tag, after.skip length)
  if atSpace after.rest || (inFlow && after.rest.head? == some ',') then some (tag, after) else none

/-- The name after `&` or `*`, at least one character, followed by white space or one of a few
indicators. -/
def anchor? (cursor : Cursor) : Option (List Char × Cursor) :=
  let (name, after) := cursor.next.takeWhile isWord
  let ends :=
    match after.rest with
    | [] => true
    | c :: _ => atSpace after.rest || "?:,]\x7d%@\x60".toList.contains c
  if name.isEmpty || !ends then none else some (name, after)

def number? (cursor : Cursor) : Option (Nat × Cursor) :=
  let (digits, after) := cursor.takeWhile Char.isDigit
  if digits.isEmpty || 9 < digits.length then none
  else some (digits.foldl (fun value c => value * 10 + (c.toNat - '0'.toNat)) 0, after)

def directive? (cursor : Cursor) : Option (Directive × Cursor) := do
  let (name, after) := cursor.next.takeWhile isWord
  if !atSpace after.rest then none
  else
    let (directive, after) ←
      if name = "YAML".toList then do
        let (major, after) ← (after.skipWhile isBlank).number?
        if after.rest.head? ≠ some '.' then none
        else
          let (minor, after) ← after.next.number?
          some (Directive.version major minor, after)
      else if name = "TAG".toList then do
        let start := after.skipWhile isBlank
        if start.rest.head? ≠ some '!' then none
        else
          let (handle, after) := start.handle
          if handle.getLast? ≠ some '!' then none
          else if !(after.rest.head?.any isBlank) then none
          else
            let (text, after) ← (after.skipWhile isBlank).tagText? true
            if atSpace after.rest then some (Directive.handle handle (untilNul text), after)
            else none
      else none
    let after ← after.finishLine?
    some (directive, after)

end Cursor

end LicenseGate.Yaml
