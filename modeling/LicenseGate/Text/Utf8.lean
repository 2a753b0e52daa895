/-!
UTF-8 read byte by byte. Well-formed text gives its characters; each longest stretch that starts a
character and cannot be finished, and each byte that cannot start one, stands as a gap. Overlong
forms, surrogates and numbers past the last character are never well formed, because the range of a
second byte depends on the first.
-/

namespace LicenseGate.Text.Utf8

/-- A character begun: what has been read of it, how many bytes it lacks, and the range in which
the next one must lie. -/
structure Partial where
  value : Nat
  missing : Nat
  low : Nat
  high : Nat
  deriving DecidableEq, Repr

inductive Start where
  | complete (character : Char)
  | pending (begun : Partial)
  | invalid

def start (byte : UInt8) : Start :=
  let b := byte.toNat
  if b < 0x80 then .complete (Char.ofNat b)
  else if b < 0xc2 then .invalid
  else if b < 0xe0 then .pending ⟨b - 0xc0, 1, 0x80, 0xbf⟩
  else if b = 0xe0 then .pending ⟨0, 2, 0xa0, 0xbf⟩
  else if b = 0xed then .pending ⟨0xd, 2, 0x80, 0x9f⟩
  else if b < 0xf0 then .pending ⟨b - 0xe0, 2, 0x80, 0xbf⟩
  else if b = 0xf0 then .pending ⟨0, 3, 0x90, 0xbf⟩
  else if b < 0xf4 then .pending ⟨b - 0xf0, 3, 0x80, 0xbf⟩
  else if b = 0xf4 then .pending ⟨4, 3, 0x80, 0x8f⟩
  else .invalid

def Partial.accepts (begun : Partial) (byte : UInt8) : Bool :=
  begun.low ≤ byte.toNat && byte.toNat ≤ begun.high

/-- The character begun with six more bits; the last byte completes it. -/
def Partial.push (begun : Partial) (byte : UInt8) : Start :=
  let value := begun.value * 64 + (byte.toNat - 0x80)
  if begun.missing ≤ 1 then .complete (Char.ofNat value)
  else .pending ⟨value, begun.missing - 1, 0x80, 0xbf⟩

def units : Option Partial → List UInt8 → List (Option Char)
  | none, [] => []
  | some _, [] => [none]
  | begun, byte :: rest =>
      let (lost, next) :=
        match begun with
        | none => ([], start byte)
        | some begun =>
            if begun.accepts byte then ([], begun.push byte) else ([none], start byte)
      match next with
      | .complete character => lost ++ some character :: units none rest
      | .pending begun => lost ++ units (some begun) rest
      | .invalid => lost ++ none :: units none rest

def decode (bytes : List UInt8) : Option (List Char) :=
  let read := units none bytes
  if read.all Option.isSome then some (read.filterMap id) else none

/-- The text of any bytes, with U+FFFD for each gap. -/
def decodeLossy (bytes : List UInt8) : List Char :=
  (units none bytes).map fun unit => unit.getD '\ufffd'

def encodeChar (character : Char) : List UInt8 :=
  let n := character.toNat
  if n < 0x80 then [n.toUInt8]
  else if n < 0x800 then [(0xc0 + n / 64).toUInt8, (0x80 + n % 64).toUInt8]
  else if n < 0x10000 then
    [(0xe0 + n / 4096).toUInt8, (0x80 + n / 64 % 64).toUInt8, (0x80 + n % 64).toUInt8]
  else
    [(0xf0 + n / 262144).toUInt8, (0x80 + n / 4096 % 64).toUInt8, (0x80 + n / 64 % 64).toUInt8,
      (0x80 + n % 64).toUInt8]

def encode (text : List Char) : List UInt8 := text.flatMap encodeChar

end LicenseGate.Text.Utf8
