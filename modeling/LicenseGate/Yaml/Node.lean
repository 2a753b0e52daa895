import LicenseGate.Yaml.Event

/-!
A document as a tree. Where the text could not be read on, the tree is cut: every collection then
open ends in a cut. Aliases are looked up when they are met, so a tree may contain itself.
-/

namespace LicenseGate.Yaml

inductive Node where
  | scalar (scalar : Scalar)
  | sequence (items : List Node)
  | mapping (entries : List (Node × Node))
  | alias (number : Nat)
  | cut

/-- A collection whose end has not been met; what is in it is in reverse order. -/
inductive OpenNode where
  | sequence (items : List Node)
  | mapping (entries : List (Node × Node)) (key : Option Node)

namespace OpenNode

def add (node : Node) : OpenNode → OpenNode
  | .sequence items => .sequence (node :: items)
  | .mapping entries none => .mapping entries (some node)
  | .mapping entries (some key) => .mapping ((key, node) :: entries) none

/-- The collection; a key without a value was cut off. -/
def close : OpenNode → Node
  | .sequence items => .sequence items.reverse
  | .mapping entries none => .mapping entries.reverse
  | .mapping entries (some key) => .mapping ((key, Node.cut) :: entries).reverse

end OpenNode

namespace Node

def place (node : Node) : List OpenNode → Node ⊕ List OpenNode
  | [] => .inl node
  | innermost :: around => .inr (innermost.add node :: around)

def cutIn : List OpenNode → Node
  | [] => .cut
  | innermost :: around =>
      around.foldl (fun inner collection => (collection.add inner).close) (innermost.add .cut).close

def build (opened : List OpenNode) : List Event → Node
  | [] => cutIn opened
  | event :: rest =>
      let placed : Node ⊕ List OpenNode :=
        match event, opened with
        | .scalar _ found, opened => place (.scalar found) opened
        | .alias number, opened => place (.alias number) opened
        | .sequenceStart _, opened => .inr (.sequence [] :: opened)
        | .mappingStart _, opened => .inr (.mapping [] none :: opened)
        | .sequenceEnd, innermost :: around | .mappingEnd, innermost :: around =>
            place innermost.close around
        | .sequenceEnd, [] | .mappingEnd, [] => .inl .cut
      match placed with
      | .inl node => node
      | .inr opened => build opened rest

def ofEvents (events : List Event) : Node := build [] events

end Node

namespace Document

def root (document : Document) : Node := Node.ofEvents document.events

def placeOf? (number : Nat) : List Event → Option Nat
  | [] => none
  | event :: rest =>
      match placeOf? number rest with
      | some place => some (place + 1)
      | none => if event.anchor? = some number then some 0 else none

/-- The node that an alias stands for; any other node stands for itself. -/
def resolve (document : Document) : Node → Node
  | .alias number =>
      match placeOf? number document.events with
      | some place => Node.ofEvents (document.events.drop place)
      | none => .cut
  | node => node

end Document

end LicenseGate.Yaml
