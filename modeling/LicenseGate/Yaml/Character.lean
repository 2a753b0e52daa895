/-!
Characters of a YAML text, and the text that is read: every line is ended by one character.
Carriage returns and NEL become line feeds; the line and paragraph separators end lines too and are
kept. A character that YAML does not allow spoils the whole stretch of the text that it stands in.
-/

namespace LicenseGate.Yaml

def isBreak (c : Char) : Bool := c == '\n' || c == '\u2028' || c == '\u2029'

def isBlank (c : Char) : Bool := c == ' ' || c == '\t'

def atSpace : List Char → Bool
  | [] => true
  | c :: _ => isBlank c || isBreak c

def isWord (c : Char) : Bool := c.isAlphanum || c == '-' || c == '_'

def isFlowIndicator (c : Char) : Bool :=
  c == '[' || c == ']' || c == '\x7b' || c == '\x7d' || c == ','

def isIndicator (c : Char) : Bool :=
  isFlowIndicator c || c == '#' || c == '&' || c == '*' || c == '!' || c == '|' || c == '>' ||
    c == '\'' || c == '"' || c == '%' || c == '@' || c == '\x60'

/-- Three hyphens or three points that stand alone; at the start of a line they bound documents. -/
def isDocumentMark : List Char → Bool
  | '-' :: '-' :: '-' :: rest => atSpace rest
  | '.' :: '.' :: '.' :: rest => atSpace rest
  | _ => false

def hexValue? (c : Char) : Option Nat :=
  if c.isDigit then some (c.toNat - '0'.toNat)
  else if 'a' ≤ c && c ≤ 'f' then some (c.toNat - 'a'.toNat + 10)
  else if 'A' ≤ c && c ≤ 'F' then some (c.toNat - 'A'.toNat + 10)
  else none

/-- A byte order mark at the start of a line is passed over, but takes a column. -/
def isMark (c : Char) : Bool := c == '\ufeff'

def isAllowed (c : Char) : Bool :=
  let n := c.toNat
  n == 0x9 || n == 0xa || n == 0xd || (0x20 ≤ n && n ≤ 0x7e) || n == 0x85 ||
    (0xa0 ≤ n && n ≤ 0xfffd) || 0x10000 ≤ n

def unifyBreaks : List Char → List Char
  | [] => []
  | '\r' :: '\n' :: rest => '\n' :: unifyBreaks rest
  | c :: rest => (if c == '\r' || c == '\u0085' then '\n' else c) :: unifyBreaks rest

def stretchSize : Nat := 16384

/-- The stretches before the first with a character that is not allowed, and whether they are all.
`stretch` is the one in hand, in reverse order, with room for some more octets. -/
def takeStretches (room : Nat) (stretch : List Char) : List Char → List Char × Bool
  | [] => (stretch.reverse, true)
  | c :: rest =>
      let fits := c.utf8Size ≤ room
      let done := if fits then [] else stretch.reverse
      if isAllowed c then
        let (later, whole) :=
          if fits then takeStretches (room - c.utf8Size) (c :: stretch) rest
          else takeStretches (stretchSize - c.utf8Size) [c] rest
        (done ++ later, whole)
      else (done, false)

def readable (text : List Char) : List Char × Bool :=
  let (text, whole) := takeStretches stretchSize [] text
  (unifyBreaks text, whole)

end LicenseGate.Yaml
