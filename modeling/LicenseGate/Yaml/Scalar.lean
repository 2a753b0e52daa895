import LicenseGate.Yaml.Cursor

/-!
Scalars and how their text is read from each of the five styles. A scalar that runs over several
lines is folded: a single line end between two words stands for a blank, and of several line ends
the first is dropped.
-/

namespace LicenseGate.Yaml

inductive Style where
  | plain
  | singleQuoted
  | doubleQuoted
  | literal
  | folded
  deriving DecidableEq, Repr

structure Scalar where
  style : Style
  tag : Option (List Char)
  text : List Char
  deriving DecidableEq, Repr

namespace Scalar

def empty : Scalar := ⟨.plain, none, []⟩

def isAbsent (scalar : Scalar) : Bool := scalar.style == .plain && scalar.text.isEmpty

end Scalar

inductive Gap where
  | none
  | blanks (run : List Char)
  /-- Line ends; blanks beside them do not count. An escaped line end leaves no `first`. -/
  | lines (first : Option Char) (more : List Char)
  deriving DecidableEq, Repr

namespace Gap

def addBlank (c : Char) : Gap → Gap
  | .none => .blanks [c]
  | .blanks run => .blanks (run ++ [c])
  | .lines first more => .lines first more

def addBreak (c : Char) : Gap → Gap
  | .none | .blanks _ => .lines (some c) []
  | .lines first more => .lines first (more ++ [c])

def crossesLine : Gap → Bool
  | .lines _ _ => true
  | _ => false

def text : Gap → List Char
  | .none => []
  | .blanks run => run
  | .lines (some '\n') [] => [' ']
  | .lines (some '\n') more => more
  | .lines first more => first.toList ++ more

end Gap

structure Scanned where
  text : List Char
  after : Cursor
  deriving DecidableEq, Repr

namespace Scanned

def prepend (front : List Char) (scanned : Scanned) : Scanned :=
  { scanned with text := front ++ scanned.text }

end Scanned

/-- Where a plain scalar may be: in a flow collection, or in block context, where its further lines
have to reach the column `margin`. -/
structure PlainContext where
  inFlow : Bool
  margin : Nat

namespace PlainContext

def leaves (context : PlainContext) (column : Nat) (text : List Char) : Bool :=
  (!context.inFlow && column < context.margin) || text.head? == some '#' ||
    (column == 0 && isDocumentMark text)

def stops (context : PlainContext) : List Char → Bool
  | [] => true
  | c :: rest => (c == ':' && atSpace rest) || (context.inFlow && isFlowIndicator c)

/-- In a flow collection a colon may not stand before an indicator. -/
def refuses (context : PlainContext) : List Char → Bool
  | ':' :: c :: _ => context.inFlow && (isFlowIndicator c || c == '?')
  | _ => false

end PlainContext

/-- Reads a plain scalar; also says whether a line end was crossed after its last word. The place
after it lies behind the white space that follows. Tabs may not stand before the margin. -/
def scanPlain (context : PlainContext) (place : Place) (gap : Gap) :
    List Char → Option (Scanned × Bool)
  | [] => some (⟨[], ⟨place, []⟩⟩, gap.crossesLine)
  | c :: rest =>
      if isBlank c then
        if gap.crossesLine && c == '\t' && place.column < context.margin then none
        else scanPlain context (place.past c) (gap.addBlank c) rest
      else if isBreak c then scanPlain context place.nextLine (gap.addBreak c) rest
      else if gap != .none && context.leaves place.column (c :: rest) then
        some (⟨[], ⟨place, c :: rest⟩⟩, gap.crossesLine)
      else if context.refuses (c :: rest) then none
      else if context.stops (c :: rest) then some (⟨[], ⟨place, c :: rest⟩⟩, gap.crossesLine)
      else
        (scanPlain context (place.past c) .none rest).map fun (scanned, crossed) =>
          (scanned.prepend (gap.text ++ [c]), crossed)

def scanSingle (place : Place) (gap : Gap) : List Char → Option Scanned
  | [] => none
  | c :: rest =>
      if place.column == 0 && isDocumentMark (c :: rest) then none
      else if isBlank c then scanSingle (place.past c) (gap.addBlank c) rest
      else if isBreak c then scanSingle place.nextLine (gap.addBreak c) rest
      else if c == '\'' then
        match rest with
        | '\'' :: rest =>
            (scanSingle ((place.past c).past c) .none rest).map (·.prepend (gap.text ++ ['\'']))
        | rest => some ⟨gap.text, ⟨place.past c, rest⟩⟩
      else (scanSingle (place.past c) .none rest).map (·.prepend (gap.text ++ [c]))

def escaped? (c : Char) : Option Char :=
  match c with
  | '0' => some '\x00'
  | 'a' => some '\x07'
  | 'b' => some '\x08'
  | 't' => some '\t'
  | '\t' => some '\t'
  | 'n' => some '\n'
  | 'v' => some '\x0b'
  | 'f' => some '\x0c'
  | 'r' => some '\r'
  | 'e' => some '\x1b'
  | ' ' => some ' '
  | '"' => some '"'
  | '/' => some '/'
  | '\\' => some '\\'
  | 'N' => some '\u0085'
  | '_' => some '\u00a0'
  | 'L' => some '\u2028'
  | 'P' => some '\u2029'
  | _ => none

def codeLength? (c : Char) : Option Nat :=
  match c with
  | 'x' => some 2
  | 'u' => some 4
  | 'U' => some 8
  | _ => none

inductive QuotedState where
  | text
  | escape
  | code (value missing : Nat)
  deriving DecidableEq, Repr

def scanDouble (place : Place) (gap : Gap) : QuotedState → List Char → Option Scanned
  | _, [] => none
  | .text, c :: rest =>
      if place.column == 0 && isDocumentMark (c :: rest) then none
      else if isBlank c then scanDouble (place.past c) (gap.addBlank c) .text rest
      else if isBreak c then scanDouble place.nextLine (gap.addBreak c) .text rest
      else if c == '"' then some ⟨gap.text, ⟨place.past c, rest⟩⟩
      else if c == '\\' then scanDouble (place.past c) gap .escape rest
      else (scanDouble (place.past c) .none .text rest).map (·.prepend (gap.text ++ [c]))
  | .escape, c :: rest =>
      if isBreak c then
        (scanDouble place.nextLine (.lines none []) .text rest).map (·.prepend gap.text)
      else match escaped? c, codeLength? c with
        | some meant, _ =>
            (scanDouble (place.past c) .none .text rest).map (·.prepend (gap.text ++ [meant]))
        | none, some digits => scanDouble (place.past c) gap (.code 0 digits) rest
        | none, none => none
  | .code value missing, c :: rest =>
      match hexValue? c with
      | none => none
      | some digit =>
          let value := value * 16 + digit
          if 1 < missing then scanDouble (place.past c) gap (.code value (missing - 1)) rest
          else if value.isValidChar then
            (scanDouble (place.past c) .none .text rest).map
              (·.prepend (gap.text ++ [Char.ofNat value]))
          else none

inductive Chomping where
  | strip
  | clip
  | keep
  deriving DecidableEq, Repr

def chomping? (c : Char) : Option Chomping :=
  match c with
  | '-' => some .strip
  | '+' => some .keep
  | _ => none

/-- The signs after `|` or `>`: how to chomp, and by how much the text is indented if that is
given. They stand in either order. -/
def blockHeader? (cursor : Cursor) : Option (Chomping × Option Nat × Cursor) :=
  let digit (c : Char) : Option Nat := if c.isDigit then some (c.toNat - '0'.toNat) else none
  match cursor.rest with
  | c :: rest =>
      match chomping? c, digit c with
      | some chomping, _ =>
          match rest.head?.bind digit with
          | some 0 => none
          | some indent => some (chomping, some indent, cursor.skip 2)
          | none => some (chomping, none, cursor.next)
      | none, some 0 => none
      | none, some indent =>
          match rest.head?.bind chomping? with
          | some chomping => some (chomping, some indent, cursor.skip 2)
          | none => some (.clip, some indent, cursor.next)
      | none, none => some (.clip, none, cursor)
  | [] => some (.clip, none, cursor)

/-- Empty lines before a block scalar's text, when its indentation is yet to be found. Gives their
line ends, the place of the text, and the greatest column reached. Tabs may not indent. -/
def scanLeading (place : Place) (deepest : Nat) : List Char → Option (List Char × Nat × Cursor)
  | [] => some ([], max deepest place.column, ⟨place, []⟩)
  | c :: rest =>
      if c == ' ' then scanLeading (place.past c) deepest rest
      else if c == '\t' then none
      else if isBreak c then
        (scanLeading place.nextLine (max deepest place.column) rest).map fun (breaks, found) =>
          (c :: breaks, found)
      else some ([], max deepest place.column, ⟨place, c :: rest⟩)

structure BlockGap where
  first : Option Char
  afterBlank : Bool
  more : List Char
  deriving DecidableEq, Repr

/-- What a gap stands for before a line that begins with `c`. Lines that begin with a blank are not
folded. -/
def BlockGap.join (gap : BlockGap) (folded : Bool) (c : Char) : List Char :=
  if folded && gap.first == some '\n' && !gap.afterBlank && !isBlank c then
    if gap.more.isEmpty then [' '] else gap.more
  else gap.first.toList ++ gap.more

def BlockGap.chomp (gap : BlockGap) : Chomping → List Char
  | .strip => []
  | .clip => gap.first.toList
  | .keep => gap.first.toList ++ gap.more

/-- Reads the lines of a block scalar from the start of a line, or from within one when
`gap` is `none`. `blankLine` says whether the line in hand began with a blank. -/
def scanBlock (folded : Bool) (chomping : Chomping) (indent : Nat) (place : Place)
    (blankLine : Bool) : Option BlockGap → List Char → Option Scanned
  | none, [] => some ⟨[], ⟨place, []⟩⟩
  | some gap, [] => some ⟨gap.chomp chomping, ⟨place, []⟩⟩
  | none, c :: rest =>
      if isBreak c then
        scanBlock folded chomping indent place.nextLine blankLine
          (some ⟨some c, blankLine, []⟩) rest
      else (scanBlock folded chomping indent (place.past c) blankLine none rest).map (·.prepend [c])
  | some gap, c :: rest =>
      if place.column < indent && c == ' ' then
        scanBlock folded chomping indent (place.past c) blankLine (some gap) rest
      else if place.column < indent && c == '\t' then none
      else if isBreak c then
        scanBlock folded chomping indent place.nextLine blankLine
          (some { gap with more := gap.more ++ [c] }) rest
      else if place.column == indent then
        (scanBlock folded chomping indent (place.past c) (isBlank c) none rest).map
          (·.prepend (gap.join folded c ++ [c]))
      else some ⟨gap.chomp chomping, ⟨place, c :: rest⟩⟩

/-- Reads a block scalar after its `|` or `>`. `parent` is the column of the block collection
around it. -/
def scanBlockScalar (folded : Bool) (parent : Option Nat) (cursor : Cursor) : Option Scanned := do
  let (chomping, given, cursor) ← blockHeader? cursor
  let start ← cursor.finishLine?
  match given with
  | some indent =>
      scanBlock folded chomping (parent.getD 0 + indent) start.place false
        (some ⟨none, false, []⟩) start.rest
  | none =>
      let (breaks, deepest, first) ← scanLeading start.place 0 start.rest
      let least := match parent with
        | some column => column + 1
        | none => 1
      scanBlock folded chomping (max deepest least) first.place false
        (some ⟨none, false, breaks⟩) first.rest

end LicenseGate.Yaml
