import LicenseGate.Proofs.Schema

/-!
Trees from tokens. A tree without aliases and tags is written as the tokens of block collections,
and from those it is read back whole.
-/

namespace LicenseGate.Yaml

namespace Node

mutual

def tokens : Node → List Token
  | .scalar leaf => if leaf.isAbsent then [] else [.scalar leaf.style leaf.text]
  | .sequence items => .blockSequenceStart :: (itemTokens items ++ [.blockEnd])
  | .mapping entries => .blockMappingStart :: (entryTokens entries ++ [.blockEnd])
  | .alias _ | .cut => []

def itemTokens : List Node → List Token
  | [] => []
  | item :: rest => .blockEntry :: (item.tokens ++ itemTokens rest)

def entryTokens : List (Node × Node) → List Token
  | [] => []
  | (key, value) :: rest => .key :: (key.tokens ++ .value :: (value.tokens ++ entryTokens rest))

end

mutual

def events : Node → List Event
  | .scalar leaf => [.scalar none leaf]
  | .sequence items => .sequenceStart none :: (itemEvents items ++ [.sequenceEnd])
  | .mapping entries => .mappingStart none :: (entryEvents entries ++ [.mappingEnd])
  | .alias number => [.alias number]
  | .cut => []

def itemEvents : List Node → List Event
  | [] => []
  | item :: rest => item.events ++ itemEvents rest

def entryEvents : List (Node × Node) → List Event
  | [] => []
  | (key, value) :: rest => key.events ++ (value.events ++ entryEvents rest)

end

end Node

namespace Reader

/-- The reader goes on with these events, and has these tokens left when nothing is open. -/
inductive Yields : Reader → List Event → List Token → Prop where
  | last {reader : Reader} : reader.expected = [] → Yields reader [] reader.tokens
  | next {reader next : Reader} {expected : Expected} {around : List Expected} {event : Event}
      {events : List Event} {rest : List Token} :
      reader.expected = expected :: around →
      proceed { reader with expected := around } expected = some (event, next) →
      Yields next events rest → Yields reader (event :: events) rest

theorem events_of_yields (reader : Reader) (events : List Event) (rest : List Token) (fuel : Nat)
    (yields : Yields reader events rest) (enough : events.length < fuel) :
    reader.events fuel = (events, rest) := by
  induction yields generalizing fuel with
  | last closed =>
      obtain ⟨fuel, rfl⟩ := Nat.exists_eq_succ_of_ne_zero (Nat.ne_zero_of_lt enough)
      simp [Reader.events, closed]
  | next opened proceeds _ ih =>
      obtain ⟨fuel, rfl⟩ := Nat.exists_eq_succ_of_ne_zero (Nat.ne_zero_of_lt enough)
      simp [Reader.events, opened, proceeds, ih fuel (Nat.lt_of_succ_lt_succ enough)]

def Continues (found : Option (Event × Reader)) (events : List Event) (rest : List Token) : Prop :=
  ∃ event next later, found = some (event, next) ∧ events = event :: later ∧
    Yields next later rest

theorem yields_continues (reader : Reader) (expected : Expected) (around : List Expected)
    (events : List Event) (rest : List Token) (opened : reader.expected = expected :: around)
    (continues : Continues (proceed { reader with expected := around } expected) events rest) :
    Yields reader events rest := by
  obtain ⟨event, next, later, found, rfl, yields⟩ := continues
  exact Yields.next opened found yields

section

variable (reader : Reader) (after : List Token) (flush : Bool)

theorem node_scalar (style : Style) (text : List Char) :
    { reader with tokens := .scalar style text :: after }.node true flush =
      some (.scalar none ⟨style, none, text⟩, { reader with tokens := after }) := rfl

theorem node_sequence :
    { reader with tokens := .blockSequenceStart :: after }.node true flush =
      some (.sequenceStart none, { reader with
        tokens := after, expected := .blockItem :: reader.expected }) := by
  cases flush <;> rfl

theorem node_mapping :
    { reader with tokens := .blockMappingStart :: after }.node true flush =
      some (.mappingStart none, { reader with
        tokens := after, expected := .blockKey :: reader.expected }) := by
  cases flush <;> rfl

end

/-- The tokens by which a node that is left out may be followed. -/
def marks : List Token := [.blockEntry, .key, .value, .blockEnd]

/-- A tree is read from its tokens wherever what comes after them may end it. -/
def Readable (node : Node) : Prop :=
  ∀ (reader : Reader) (after omitted : List Token) (flush : Bool) (later : List Event)
    (rest : List Token),
    (∃ mark ∈ after.head?, mark ∈ omitted) → omitted ⊆ marks →
    Yields { reader with tokens := after } later rest →
    Continues ({ reader with tokens := node.tokens ++ after }.nodeUnless omitted true flush)
      (node.events ++ later) rest

theorem items_ended (items : List Node) (after : List Token) :
    ∃ mark ∈ (Node.itemTokens items ++ .blockEnd :: after).head?,
      mark ∈ [Token.blockEntry, .blockEnd] := by
  cases items with
  | nil => exact ⟨.blockEnd, rfl, by decide⟩
  | cons item items => exact ⟨.blockEntry, rfl, by decide⟩

theorem entries_ended (entries : List (Node × Node)) (after : List Token) :
    ∃ mark ∈ (Node.entryTokens entries ++ .blockEnd :: after).head?,
      mark ∈ [Token.key, .value, .blockEnd] := by
  cases entries with
  | nil => exact ⟨.blockEnd, rfl, by decide⟩
  | cons entry entries => exact ⟨.key, rfl, by decide⟩

theorem yields_items (items : List Node) (readable : ∀ item ∈ items, Readable item)
    (reader : Reader) (after : List Token) (later : List Event) (rest : List Token)
    (onward : Yields { reader with tokens := after } later rest) :
    Yields
      { reader with
        tokens := Node.itemTokens items ++ .blockEnd :: after
        expected := .blockItem :: reader.expected }
      (Node.itemEvents items ++ .sequenceEnd :: later) rest := by
  induction items with
  | nil => exact Yields.next rfl rfl onward
  | cons item items ih =>
      obtain ⟨first, others⟩ := List.forall_mem_cons.mp readable
      have continues := first { reader with expected := .blockItem :: reader.expected } _ _ false
        _ _ (items_ended items after) (by decide) (ih others)
      rw [Node.itemEvents, Node.itemTokens, List.append_assoc, List.cons_append, List.append_assoc]
      exact yields_continues _ .blockItem reader.expected _ _ rfl continues

theorem yields_entries (entries : List (Node × Node))
    (keys : ∀ entry ∈ entries, Readable entry.1) (values : ∀ entry ∈ entries, Readable entry.2)
    (reader : Reader) (after : List Token) (later : List Event) (rest : List Token)
    (onward : Yields { reader with tokens := after } later rest) :
    Yields
      { reader with
        tokens := Node.entryTokens entries ++ .blockEnd :: after
        expected := .blockKey :: reader.expected }
      (Node.entryEvents entries ++ .mappingEnd :: later) rest := by
  induction entries with
  | nil => exact Yields.next rfl rfl onward
  | cons entry entries ih =>
      obtain ⟨key, value⟩ := entry
      obtain ⟨firstKey, otherKeys⟩ := List.forall_mem_cons.mp keys
      obtain ⟨firstValue, otherValues⟩ := List.forall_mem_cons.mp values
      have tail := firstValue { reader with expected := .blockKey :: reader.expected } _ _ true
        _ _ (entries_ended entries after) (by decide) (ih otherKeys otherValues)
      have head := firstKey { reader with expected := .blockValue :: reader.expected }
        (.value :: (value.tokens ++ (Node.entryTokens entries ++ .blockEnd :: after)))
        [.key, .value, .blockEnd] true _ _ ⟨.value, rfl, by decide⟩ (by decide)
        (yields_continues _ .blockValue reader.expected _ _ rfl tail)
      simp only [Node.entryEvents, Node.entryTokens, List.append_assoc, List.cons_append]
      exact yields_continues _ .blockKey reader.expected _ _ rfl head

theorem node_unless_begun (reader : Reader) (token : Token) (after omitted : List Token)
    (flush : Bool) (known : omitted ⊆ marks) (begins : token ∉ marks) :
    { reader with tokens := token :: after }.nodeUnless omitted true flush =
      { reader with tokens := token :: after }.node true flush :=
  if_neg fun omits => begins (known omits)

theorem readable_of_resolved (node : Node) (resolved : node.Resolved) : Readable node := by
  induction resolved with
  | @scalar leaf untagged =>
      intro reader after omitted flush later rest ends known onward
      by_cases absent : leaf.isAbsent = true
      · cases (Settings.is_absent_iff leaf untagged).mp absent
        obtain ⟨mark, follows, omits⟩ := ends
        obtain ⟨others, rfl⟩ : ∃ others, after = mark :: others :=
          ⟨after.tail, List.eq_cons_of_mem_head? follows⟩
        exact ⟨_, _, _, if_pos omits, rfl, onward⟩
      · obtain ⟨style, tag, text⟩ := leaf
        cases untagged
        rw [Node.tokens, if_neg absent]
        refine ⟨_, _, _, ?_, rfl, onward⟩
        rw [List.singleton_append, node_unless_begun reader _ _ omitted flush known (by simp [marks]),
          node_scalar]
  | @sequence items inner ih =>
      intro reader after omitted flush later rest ends known onward
      simp only [Node.tokens, Node.events, List.cons_append, List.append_assoc, List.nil_append]
      refine ⟨_, _, _, ?_, rfl, yields_items items ih reader after later rest onward⟩
      rw [node_unless_begun reader _ _ omitted flush known (by decide), node_sequence]
  | @mapping entries keys values keysRead valuesRead =>
      intro reader after omitted flush later rest ends known onward
      simp only [Node.tokens, Node.events, List.cons_append, List.append_assoc, List.nil_append]
      refine ⟨_, _, _, ?_, rfl,
        yields_entries entries keysRead valuesRead reader after later rest onward⟩
      rw [node_unless_begun reader _ _ omitted flush known (by decide), node_mapping]

end Reader

namespace Node

theorem item_events_le (items : List Node)
    (bounded : ∀ item ∈ items, item.events.length ≤ item.tokens.length + 1) :
    (itemEvents items).length ≤ (itemTokens items).length := by
  induction items with
  | nil => exact Nat.le_refl 0
  | cons item items ih =>
      obtain ⟨first, others⟩ := List.forall_mem_cons.mp bounded
      have rest := ih others
      simp only [itemEvents, itemTokens, List.length_append, List.length_cons]
      omega

theorem entry_events_le (entries : List (Node × Node))
    (keys : ∀ entry ∈ entries, entry.1.events.length ≤ entry.1.tokens.length + 1)
    (values : ∀ entry ∈ entries, entry.2.events.length ≤ entry.2.tokens.length + 1) :
    (entryEvents entries).length ≤ (entryTokens entries).length := by
  induction entries with
  | nil => exact Nat.le_refl 0
  | cons entry entries ih =>
      obtain ⟨key, otherKeys⟩ := List.forall_mem_cons.mp keys
      obtain ⟨value, otherValues⟩ := List.forall_mem_cons.mp values
      have rest := ih otherKeys otherValues
      simp only [entryEvents, entryTokens, List.length_append, List.length_cons]
      omega

theorem events_le (node : Node) (resolved : node.Resolved) :
    node.events.length ≤ node.tokens.length + 1 := by
  induction resolved with
  | scalar untagged => exact Nat.le_add_left 1 _
  | @sequence items inner ih =>
      have within := item_events_le items ih
      simp only [events, tokens, List.length_append, List.length_cons]
      omega
  | @mapping entries keys values keysBounded valuesBounded =>
      have within := entry_events_le entries keysBounded valuesBounded
      simp only [events, tokens, List.length_append, List.length_cons]
      omega

def resume (rest : List Event) : Node ⊕ List OpenNode → Node
  | .inl node => node
  | .inr opened => build opened rest

theorem build_items (items done : List Node) (opened : List OpenNode) (rest : List Event)
    (built : ∀ item ∈ items, ∀ opened rest,
      build opened (item.events ++ rest) = resume rest (place item opened)) :
    build (.sequence done :: opened) (itemEvents items ++ .sequenceEnd :: rest) =
      resume rest (place (.sequence (done.reverse ++ items)) opened) := by
  induction items generalizing done with
  | nil =>
      rw [List.append_nil]
      rfl
  | cons item items ih =>
      obtain ⟨first, others⟩ := List.forall_mem_cons.mp built
      rw [itemEvents, List.append_assoc, first]
      have placed := ih (item :: done) others
      rw [List.reverse_cons, List.append_assoc, List.singleton_append] at placed
      exact placed

theorem build_entries (entries done : List (Node × Node)) (opened : List OpenNode)
    (rest : List Event)
    (keys : ∀ entry ∈ entries, ∀ opened rest,
      build opened (entry.1.events ++ rest) = resume rest (place entry.1 opened))
    (values : ∀ entry ∈ entries, ∀ opened rest,
      build opened (entry.2.events ++ rest) = resume rest (place entry.2 opened)) :
    build (.mapping done none :: opened) (entryEvents entries ++ .mappingEnd :: rest) =
      resume rest (place (.mapping (done.reverse ++ entries)) opened) := by
  induction entries generalizing done with
  | nil =>
      rw [List.append_nil]
      rfl
  | cons entry entries ih =>
      obtain ⟨key, otherKeys⟩ := List.forall_mem_cons.mp keys
      obtain ⟨value, otherValues⟩ := List.forall_mem_cons.mp values
      obtain ⟨name, content⟩ := entry
      rw [entryEvents, List.append_assoc, key, List.append_assoc]
      change build (.mapping done (some name) :: opened) _ = _
      rw [value]
      have placed := ih ((name, content) :: done) otherKeys otherValues
      rw [List.reverse_cons, List.append_assoc, List.singleton_append] at placed
      exact placed

theorem build_tree (node : Node) (resolved : node.Resolved) (opened : List OpenNode)
    (rest : List Event) :
    build opened (node.events ++ rest) = resume rest (place node opened) := by
  induction resolved generalizing opened rest with
  | scalar untagged => rfl
  | @sequence items inner ih =>
      rw [events, List.cons_append, List.append_assoc, List.singleton_append]
      exact build_items items [] opened rest ih
  | @mapping entries keys values keysBuilt valuesBuilt =>
      rw [events, List.cons_append, List.append_assoc, List.singleton_append]
      exact build_entries entries [] opened rest keysBuilt valuesBuilt

/-- A tree is built again from its nodes in order. -/
theorem of_events_tree (node : Node) (resolved : node.Resolved) : ofEvents node.events = node := by
  have built := build_tree node resolved [] []
  rwa [List.append_nil] at built

end Node

namespace Document

open Node

theorem of_first_yields (event : Event) (reader : Reader) (later : List Event)
    (yields : Reader.Yields reader later [.streamEnd])
    (enough : later.length < 4 * reader.tokens.length + 4) :
    ofFirst (some (event, reader)) = ⟨event :: later, true⟩ := by
  rw [ofFirst, Reader.events_of_yields reader later _ _ yields enough]
  rfl

/-- A tree of which something is written is read whole from its tokens. -/
theorem of_tokens_tree (node : Node) (resolved : node.Resolved) (present : node ≠ .nothing) :
    ofTokens (node.tokens ++ [.streamEnd]) = ⟨node.events, true⟩ := by
  have ended (reader : Reader) (closed : reader.expected = []) :
      Reader.Yields { reader with tokens := [.streamEnd] } [] [.streamEnd] := .last closed
  cases resolved with
  | @scalar leaf untagged =>
      have written := (Settings.is_absent_iff leaf untagged).not.mpr present
      obtain ⟨style, tag, text⟩ := leaf
      cases untagged
      rw [tokens, if_neg written]
      rfl
  | @sequence items inner =>
      have yields := Reader.yields_items items
        (fun item member => Reader.readable_of_resolved item (inner item member))
        { tokens := [], handles := standardHandles } _ [] _ (ended _ rfl)
      have within := item_events_le items fun item member => events_le item (inner item member)
      simp only [tokens, List.cons_append, List.append_assoc]
      refine of_first_yields _ _ _ yields ?_
      simp only [List.length_append, List.length_cons]
      omega
  | @mapping entries keys values =>
      have yields := Reader.yields_entries entries
        (fun entry member => Reader.readable_of_resolved entry.1 (keys entry member))
        (fun entry member => Reader.readable_of_resolved entry.2 (values entry member))
        { tokens := [], handles := standardHandles } _ [] _ (ended _ rfl)
      have within := entry_events_le entries
        (fun entry member => events_le entry.1 (keys entry member))
        (fun entry member => events_le entry.2 (values entry member))
      simp only [tokens, List.cons_append, List.append_assoc]
      refine of_first_yields _ _ _ yields ?_
      simp only [List.length_append, List.length_cons]
      omega

theorem root_of_tokens (node : Node) (resolved : node.Resolved) (present : node ≠ .nothing) :
    (ofTokens (node.tokens ++ [.streamEnd])).root = node ∧
      (ofTokens (node.tokens ++ [.streamEnd])).complete = true := by
  rw [of_tokens_tree node resolved present]
  exact ⟨of_events_tree node resolved, rfl⟩

end Document

end LicenseGate.Yaml
