import LicenseGate.Yaml.Scalar
import LicenseGate.Yaml.Tag

/-!
The tokens of a YAML text. Block structure, which indentation gives, becomes explicit: collections
start and end by tokens of their own, and a key has a token before it. Whether a scalar is a key is
known only from the colon after it, so it is held back until the colon comes or no longer can; a
text that cannot be read on gives just the tokens that were settled before.
-/

namespace LicenseGate.Yaml

inductive Token where
  | directive (directive : Directive)
  | documentStart
  | documentEnd
  | streamEnd
  | blockSequenceStart
  | blockMappingStart
  | blockEnd
  | flowSequenceStart
  | flowSequenceEnd
  | flowMappingStart
  | flowMappingEnd
  | blockEntry
  | flowEntry
  | key
  | value
  | alias (name : List Char)
  | anchor (name : List Char)
  | tag (tag : Tag)
  | scalar (style : Style) (text : List Char)
  deriving DecidableEq, Repr

structure Candidate where
  index : Nat
  place : Place
  /-- In block context a token at the column of its collection has to be a key. -/
  required : Bool
  deriving DecidableEq, Repr

structure Lexer where
  cursor : Cursor
  /-- Whether the text ends where the cursor's does; otherwise it cannot be read on there. -/
  whole : Bool
  indents : List Nat := []
  /-- The candidate in the innermost flow collection, or in block context if there is none. -/
  candidate : Option Candidate := none
  outer : List (Option Candidate) := []
  keyAllowed : Bool := true
  queue : List Token := []
  released : Nat := 0
  deriving DecidableEq, Repr

namespace Lexer

def inFlow (lexer : Lexer) : Bool := !lexer.outer.isEmpty

def push (lexer : Lexer) (token : Token) : Lexer :=
  { lexer with queue := lexer.queue ++ [token] }

def deeper (lexer : Lexer) (column : Nat) : Bool :=
  match lexer.indents with
  | [] => true
  | indent :: _ => indent < column

def openBlock (lexer : Lexer) (column : Nat) (token : Token) : Lexer :=
  if !lexer.inFlow && lexer.deeper column then
    { lexer.push token with indents := column :: lexer.indents }
  else lexer

def closeBlocks (lexer : Lexer) (column : Option Nat) : Lexer :=
  let left (indent : Nat) : Bool :=
    match column with
    | none => true
    | some column => column < indent
  if lexer.inFlow then lexer
  else
    let closed := lexer.indents.takeWhile left
    { lexer with
      queue := lexer.queue ++ closed.map fun _ => Token.blockEnd
      indents := lexer.indents.dropWhile left }

def dropCandidate (lexer : Lexer) : Option Lexer :=
  match lexer.candidate with
  | some ⟨_, _, true⟩ => none
  | _ => some { lexer with candidate := none }

def markCandidate (lexer : Lexer) : Option Lexer :=
  if lexer.keyAllowed then do
    let required := !lexer.inFlow && lexer.indents.head? == some lexer.cursor.place.column
    let lexer ← lexer.dropCandidate
    some { lexer with
      candidate := some ⟨lexer.released + lexer.queue.length, lexer.cursor.place, required⟩ }
  else some lexer

/-- A key ends on its line and within 1024 octets. -/
def outdated (here : Place) (candidate : Candidate) : Bool :=
  candidate.place.line < here.line || candidate.place.octets + 1024 < here.octets

def dropOutdated (lexer : Lexer) : Option Lexer :=
  let late := outdated lexer.cursor.place
  let lost (candidate : Option Candidate) : Bool :=
    candidate.any fun candidate => candidate.required && late candidate
  if lost lexer.candidate || lexer.outer.any lost then none
  else
    let keep (candidate : Option Candidate) : Option Candidate :=
      candidate.filter fun candidate => !late candidate
    some { lexer with candidate := keep lexer.candidate, outer := lexer.outer.map keep }

/-- White space, comments and line ends. In block context a line end lets a key begin, and tabs may
not stand where one may. -/
def skipSpace (inFlow : Bool) (keyAllowed inComment : Bool) (place : Place) :
    List Char → Bool × Cursor
  | [] => (keyAllowed, ⟨place, []⟩)
  | c :: rest =>
      if isBreak c then skipSpace inFlow (keyAllowed || !inFlow) false place.nextLine rest
      else if inComment then skipSpace inFlow keyAllowed true (place.past c) rest
      else if c == ' ' || (c == '\t' && (inFlow || !keyAllowed)) ||
          (place.column == 0 && isMark c) then
        skipSpace inFlow keyAllowed false (place.past c) rest
      else if c == '#' then skipSpace inFlow keyAllowed true (place.past c) rest
      else (keyAllowed, ⟨place, c :: rest⟩)

def toToken (lexer : Lexer) : Option Lexer :=
  let (keyAllowed, cursor) :=
    skipSpace lexer.inFlow lexer.keyAllowed false lexer.cursor.place lexer.cursor.rest
  ({ lexer with keyAllowed, cursor } : Lexer).dropOutdated.map
    (·.closeBlocks (some cursor.place.column))

def take (lexer : Lexer) (token : Token) (length : Nat) (keyAllowed : Bool) : Lexer :=
  { lexer.push token with keyAllowed, cursor := lexer.cursor.skip length }

def readStreamEnd (lexer : Lexer) : Option Lexer :=
  let place := lexer.cursor.place
  let cursor := { lexer.cursor with place := if place.column = 0 then place else place.nextLine }
  (({ lexer with cursor } : Lexer).closeBlocks none).dropCandidate.map
    (·.take .streamEnd 0 false)

def readDirective (lexer : Lexer) : Option Lexer := do
  let lexer ← (lexer.closeBlocks none).dropCandidate
  let (directive, after) ← lexer.cursor.directive?
  some { lexer.push (.directive directive) with keyAllowed := false, cursor := after }

def readDocumentMark (lexer : Lexer) (token : Token) : Option Lexer :=
  (lexer.closeBlocks none).dropCandidate.map (·.take token 3 false)

def readFlowStart (lexer : Lexer) (token : Token) : Option Lexer :=
  lexer.markCandidate.map fun lexer =>
    ({ lexer with outer := lexer.candidate :: lexer.outer, candidate := none } : Lexer).take
      token 1 true

def readFlowEnd (lexer : Lexer) (token : Token) : Option Lexer :=
  lexer.dropCandidate.map fun lexer =>
    match lexer.outer with
    | [] => lexer.take token 1 false
    | candidate :: outer => ({ lexer with candidate, outer } : Lexer).take token 1 false

def readFlowEntry (lexer : Lexer) : Option Lexer :=
  lexer.dropCandidate.map (·.take .flowEntry 1 true)

def readBlockEntry (lexer : Lexer) : Option Lexer :=
  if !lexer.inFlow && !lexer.keyAllowed then none
  else (lexer.openBlock lexer.cursor.place.column .blockSequenceStart).dropCandidate.map
    (·.take .blockEntry 1 true)

def readKey (lexer : Lexer) : Option Lexer :=
  if !lexer.inFlow && !lexer.keyAllowed then none
  else (lexer.openBlock lexer.cursor.place.column .blockMappingStart).dropCandidate.map fun lexer =>
    lexer.take .key 1 !lexer.inFlow

/-- A colon makes a key of the candidate, and opens a mapping at the key's column if it is deeper.
Without a candidate it follows a key that was marked, or an empty one. -/
def readValue (lexer : Lexer) : Option Lexer :=
  match lexer.candidate with
  | some candidate =>
      let index := candidate.index - lexer.released
      let opens := !lexer.inFlow && lexer.deeper candidate.place.column
      let inserted := if opens then [Token.blockMappingStart, .key] else [.key]
      let lexer := { lexer with
        queue := lexer.queue.take index ++ inserted ++ lexer.queue.drop index
        indents := if opens then candidate.place.column :: lexer.indents else lexer.indents
        candidate := none }
      some (lexer.take .value 1 false)
  | none =>
      if !lexer.inFlow && !lexer.keyAllowed then none
      else
        let lexer := lexer.openBlock lexer.cursor.place.column .blockMappingStart
        some (lexer.take .value 1 !lexer.inFlow)

def readAnchor (lexer : Lexer) (token : List Char → Token) : Option Lexer := do
  let lexer ← lexer.markCandidate
  let (name, after) ← lexer.cursor.anchor?
  some { lexer.push (token name) with keyAllowed := false, cursor := after }

def readTag (lexer : Lexer) : Option Lexer := do
  let lexer ← lexer.markCandidate
  let (tag, after) ← lexer.cursor.tag? lexer.inFlow
  some { lexer.push (.tag tag) with keyAllowed := false, cursor := after }

def readBlockScalar (lexer : Lexer) (style : Style) : Option Lexer := do
  let lexer ← lexer.dropCandidate
  let scanned ← scanBlockScalar (style == .folded) lexer.indents.head? lexer.cursor.next
  some { lexer.push (.scalar style scanned.text) with keyAllowed := true, cursor := scanned.after }

def readQuoted (lexer : Lexer) (style : Style) : Option Lexer := do
  let lexer ← lexer.markCandidate
  let start := lexer.cursor.next
  let scanned ←
    if style == .singleQuoted then scanSingle start.place .none start.rest
    else scanDouble start.place .none .text start.rest
  some { lexer.push (.scalar style scanned.text) with keyAllowed := false, cursor := scanned.after }

def readPlain (lexer : Lexer) : Option Lexer := do
  let lexer ← lexer.markCandidate
  let margin := match lexer.indents with
    | [] => 0
    | indent :: _ => indent + 1
  let (scanned, crossed) ←
    scanPlain ⟨lexer.inFlow, margin⟩ lexer.cursor.place .none lexer.cursor.rest
  some { lexer.push (.scalar .plain scanned.text) with
    keyAllowed := crossed, cursor := scanned.after }

def readHere (lexer : Lexer) : Option Lexer :=
  let atStart := lexer.cursor.place.column == 0
  match lexer.cursor.rest with
  | [] => lexer.readStreamEnd
  | c :: rest =>
      if atStart && c == '%' then lexer.readDirective
      else if atStart && isDocumentMark (c :: rest) then
        lexer.readDocumentMark (if c == '-' then .documentStart else .documentEnd)
      else if c == '[' then lexer.readFlowStart .flowSequenceStart
      else if c == '\x7b' then lexer.readFlowStart .flowMappingStart
      else if c == ']' then lexer.readFlowEnd .flowSequenceEnd
      else if c == '\x7d' then lexer.readFlowEnd .flowMappingEnd
      else if c == ',' then lexer.readFlowEntry
      else if c == '-' && atSpace rest then lexer.readBlockEntry
      else if c == '?' && (lexer.inFlow || atSpace rest) then lexer.readKey
      else if c == ':' && (lexer.inFlow || atSpace rest) then lexer.readValue
      else if c == '*' then lexer.readAnchor .alias
      else if c == '&' then lexer.readAnchor .anchor
      else if c == '!' then lexer.readTag
      else if c == '|' && !lexer.inFlow then lexer.readBlockScalar .literal
      else if c == '>' && !lexer.inFlow then lexer.readBlockScalar .folded
      else if c == '\'' then lexer.readQuoted .singleQuoted
      else if c == '"' then lexer.readQuoted .doubleQuoted
      else if isBlank c || isIndicator c then none
      else lexer.readPlain

/-- The number of tokens in the queue that are settled: those before the first candidate. -/
def settled (lexer : Lexer) : Nat :=
  (lexer.candidate :: lexer.outer).foldl
    (fun count candidate =>
      match candidate with
      | none => count
      | some candidate => min count (candidate.index - lexer.released))
    lexer.queue.length

def release (lexer : Lexer) : List Token × Lexer :=
  let count := lexer.settled
  (lexer.queue.take count,
    { lexer with queue := lexer.queue.drop count, released := lexer.released + count })

def hasText (lexer : Lexer) (count : Nat) : Bool :=
  lexer.whole || count ≤ (lexer.cursor.rest.take count).length

/-- Reads the next token. Where the text cannot be read on, four characters have to be left for a
token to begin, and one after it. -/
def step (lexer : Lexer) : Option Lexer :=
  lexer.toToken.bind fun atToken =>
    if atToken.hasText 4 then
      (atToken.readHere.filter (·.hasText 1)).bind dropOutdated
    else none

def tokens : (fuel : Nat) → Lexer → List Token
  | 0, _ => []
  | fuel + 1, lexer =>
      match lexer.step with
      | none => []
      | some lexer =>
          let (ready, next) := lexer.release
          if ready.getLast? = some .streamEnd then ready else ready ++ next.tokens fuel

end Lexer

/-- The tokens of a text, up to the point where it cannot be read on. Each token but the last takes
a character. -/
def Token.ofText (text : List Char) : List Token :=
  let (text, whole) := readable text
  ({ cursor := ⟨.start, text⟩, whole } : Lexer).tokens (text.length + 1)

end LicenseGate.Yaml
