import LicenseGate.Yaml.Token

/-!
The nodes of a document in the order in which they are written, as a flat list: scalars, aliases,
and the starts and ends of collections. Tokens that fit no document end the list early.
-/

namespace LicenseGate.Yaml

/-- An anchor is known by a number: how many names were known when it was met. A name that is used
again may share its number with another one, so a number means the last node that has it. -/
inductive Event where
  | alias (number : Nat)
  | scalar (anchor : Option Nat) (scalar : Scalar)
  | sequenceStart (anchor : Option Nat)
  | sequenceEnd
  | mappingStart (anchor : Option Nat)
  | mappingEnd
  deriving DecidableEq, Repr

namespace Event

def empty : Event := .scalar none .empty

def anchor? : Event → Option Nat
  | .scalar anchor _ | .sequenceStart anchor | .mappingStart anchor => anchor
  | _ => none

end Event

inductive Expected where
  | blockItem
  | flushItem
  | blockKey
  | blockValue
  | flowItem (first : Bool)
  | pairKey
  | pairValue
  | pairEnd
  | flowKey (first : Bool)
  | flowValue
  | noValue
  deriving DecidableEq, Repr

structure Reader where
  tokens : List Token
  expected : List Expected := []
  anchors : List (List Char × Nat) := []
  handles : List (List Char × List Char) := []
  deriving DecidableEq, Repr

namespace Reader

def nameNode (reader : Reader) : Option (List Char) → Option Nat × Reader
  | none => (none, reader)
  | some name =>
      let number := reader.anchors.length
      (some number,
        { reader with anchors := (name, number) :: reader.anchors.filter (·.1 != name) })

def fullTag? (reader : Reader) (tag : Tag) : Option (List Char) :=
  if tag.handle.isEmpty then some tag.suffix
  else (reader.handles.lookup tag.handle).map (· ++ tag.suffix)

def properties : List Token → Option (List Char) × Option Tag × List Token
  | .anchor name :: .tag tag :: rest => (some name, some tag, rest)
  | .tag tag :: .anchor name :: rest => (some name, some tag, rest)
  | .anchor name :: rest => (some name, none, rest)
  | .tag tag :: rest => (none, some tag, rest)
  | rest => (none, none, rest)

def enter (reader : Reader) (expected : Expected) (tokens : List Token) : Reader :=
  { reader with tokens, expected := expected :: reader.expected }

/-- The content of a node after its anchor and tag. The tag `!` only says that a scalar has none;
a node of which nothing is written needs an anchor or a tag. -/
def content (reader : Reader) (anchor : Option Nat) (tag : Option (List Char)) (bare : Bool)
    (inBlock flush : Bool) : Option (Event × Reader) :=
  match reader.tokens with
  | [] => none
  | .scalar style text :: rest =>
      let tag := tag.filter (· != ['!'])
      some (.scalar anchor ⟨style, tag, text⟩, { reader with tokens := rest })
  | .flowSequenceStart :: rest => some (.sequenceStart anchor, reader.enter (.flowItem true) rest)
  | .flowMappingStart :: rest => some (.mappingStart anchor, reader.enter (.flowKey true) rest)
  | token :: rest =>
      if flush && token = .blockEntry then
        some (.sequenceStart anchor, reader.enter .flushItem (token :: rest))
      else if inBlock && token = .blockSequenceStart then
        some (.sequenceStart anchor, reader.enter .blockItem rest)
      else if inBlock && token = .blockMappingStart then
        some (.mappingStart anchor, reader.enter .blockKey rest)
      else if bare then none
      else some (.scalar anchor ⟨.plain, tag, []⟩, reader)

/-- A node, in block or flow context; `flush` lets a sequence begin at the column of its key. -/
def node (reader : Reader) (inBlock flush : Bool) : Option (Event × Reader) :=
  match reader.tokens with
  | .alias name :: rest =>
      (reader.anchors.lookup name).map fun number =>
        (.alias number, { reader with tokens := rest })
  | tokens =>
      let (name, tag, rest) := properties tokens
      let (anchor, named) := nameNode { reader with tokens := rest } name
      match tag with
      | none => named.content anchor none name.isNone inBlock flush
      | some tag =>
          (reader.fullTag? tag).bind fun tag =>
            named.content anchor (some tag) false inBlock flush

def nodeUnless (reader : Reader) (omitted : List Token) (inBlock flush : Bool) :
    Option (Event × Reader) :=
  match reader.tokens with
  | [] => none
  | token :: _ => if token ∈ omitted then some (.empty, reader) else reader.node inBlock flush

def entry? (first : Bool) : List Token → Option (List Token)
  | .flowEntry :: rest => if first then some (.flowEntry :: rest) else some rest
  | tokens => if first then some tokens else none

def proceed (reader : Reader) : Expected → Option (Event × Reader)
  | .blockItem =>
      match reader.tokens with
      | .blockEntry :: rest =>
          (reader.enter .blockItem rest).nodeUnless [.blockEntry, .blockEnd] true false
      | .blockEnd :: rest => some (.sequenceEnd, { reader with tokens := rest })
      | _ => none
  | .flushItem =>
      match reader.tokens with
      | .blockEntry :: rest =>
          (reader.enter .flushItem rest).nodeUnless [.blockEntry, .key, .value, .blockEnd] true
            false
      | [] => none
      | _ => some (.sequenceEnd, reader)
  | .blockKey =>
      match reader.tokens with
      | .key :: rest =>
          (reader.enter .blockValue rest).nodeUnless [.key, .value, .blockEnd] true true
      | .blockEnd :: rest => some (.mappingEnd, { reader with tokens := rest })
      | _ => none
  | .blockValue =>
      match reader.tokens with
      | .value :: rest =>
          (reader.enter .blockKey rest).nodeUnless [.key, .value, .blockEnd] true true
      | [] => none
      | tokens => some (.empty, reader.enter .blockKey tokens)
  | .flowItem first =>
      match reader.tokens with
      | .flowSequenceEnd :: rest => some (.sequenceEnd, { reader with tokens := rest })
      | tokens =>
          match entry? first tokens with
          | some (.flowSequenceEnd :: rest) => some (.sequenceEnd, { reader with tokens := rest })
          | some (.key :: rest) => some (.mappingStart none, reader.enter .pairKey rest)
          | some rest => (reader.enter (.flowItem false) rest).node false false
          | none => none
  | .pairKey =>
      (reader.enter .pairValue reader.tokens).nodeUnless
        [.value, .flowEntry, .flowSequenceEnd] false false
  | .pairValue =>
      match reader.tokens with
      | .value :: rest =>
          (reader.enter .pairEnd rest).nodeUnless [.flowEntry, .flowSequenceEnd] false false
      | [] => none
      | tokens => some (.empty, reader.enter .pairEnd tokens)
  | .pairEnd =>
      match reader.tokens with
      | [] => none
      | tokens => some (.mappingEnd, reader.enter (.flowItem false) tokens)
  | .flowKey first =>
      match reader.tokens with
      | .flowMappingEnd :: rest => some (.mappingEnd, { reader with tokens := rest })
      | tokens =>
          match entry? first tokens with
          | some (.flowMappingEnd :: rest) => some (.mappingEnd, { reader with tokens := rest })
          | some (.key :: rest) =>
              (reader.enter .flowValue rest).nodeUnless
                [.value, .flowEntry, .flowMappingEnd] false false
          | some rest => (reader.enter .noValue rest).node false false
          | none => none
  | .flowValue =>
      match reader.tokens with
      | .value :: rest =>
          (reader.enter (.flowKey false) rest).nodeUnless [.flowEntry, .flowMappingEnd] false false
      | [] => none
      | tokens => some (.empty, reader.enter (.flowKey false) tokens)
  | .noValue =>
      match reader.tokens with
      | [] => none
      | tokens => some (.empty, reader.enter (.flowKey false) tokens)

def events : (fuel : Nat) → Reader → List Event × List Token
  | 0, _ => ([], [])
  | fuel + 1, reader =>
      match reader.expected with
      | [] => ([], reader.tokens)
      | expected :: around =>
          match proceed { reader with expected := around } expected with
          | none => ([], [])
          | some (event, next) =>
              let (later, rest) := next.events fuel
              (event :: later, rest)

end Reader

def standardHandles : List (List Char × List Char) :=
  [(['!'], ['!']), (['!', '!'], "tag:yaml.org,2002:".toList)]

/-- The directives before a document: a version, at most once, and handles, each at most once. -/
def readDirectives (versioned : Bool) (handles : List (List Char × List Char)) :
    List Token → Option (List (List Char × List Char) × List Token)
  | .directive (.version major minor) :: rest =>
      if versioned || major != 1 || (minor != 1 && minor != 2) then none
      else readDirectives true handles rest
  | .directive (.handle name standsFor) :: rest =>
      if handles.any (·.1 == name) then none
      else readDirectives versioned ((name, standsFor) :: handles) rest
  | rest => some (handles, rest)

structure Document where
  events : List Event
  complete : Bool
  deriving DecidableEq, Repr

namespace Document

def void : Document := ⟨[.empty], true⟩

def unreadable : Document := ⟨[], false⟩

/-- A document that begins with an event. Between two tokens there are at most three events that
take none. -/
def ofFirst : Option (Event × Reader) → Document
  | none => unreadable
  | some (event, reader) =>
      let (later, rest) := reader.events (4 * reader.tokens.length + 4)
      ⟨event :: later, rest.dropWhile (· = .documentEnd) = [.streamEnd]⟩

def ofContent (handles : List (List Char × List Char)) (tokens : List Token) : Document :=
  let reader : Reader := { tokens, handles := handles ++ standardHandles }
  match tokens with
  | .directive _ :: _ | .documentStart :: _ | .documentEnd :: _ | .streamEnd :: _ =>
      ofFirst (some (.empty, reader))
  | _ => ofFirst (reader.node true false)

def ofTokens (tokens : List Token) : Document :=
  match tokens with
  | .streamEnd :: _ => void
  | .directive _ :: _ | .documentStart :: _ =>
      match readDirectives false [] tokens with
      | some (handles, .documentStart :: rest) => ofContent handles rest
      | _ => unreadable
  | _ => ofFirst (({ tokens, handles := standardHandles } : Reader).node true false)

def ofText (text : List Char) : Document := ofTokens (Token.ofText text)

end Document

end LicenseGate.Yaml
