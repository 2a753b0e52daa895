import LicenseGate.Proofs.LineScan

/-!
Keys and plain values in block collections: the tokens of each, with those of the collections that
it opens and closes, before the tokens of what follows.
-/

namespace LicenseGate.Yaml

namespace Lexer

def inBlock (place : Place) (rest : List Char) (indents : List Nat) (keyAllowed : Bool)
    (released : Nat) (candidate : Option Candidate) (queue : List Token) : Lexer :=
  { cursor := ⟨place, rest⟩, whole := true, indents, candidate, keyAllowed, queue, released }

def advance (lexer : Lexer) : Option (List Token × Lexer) := lexer.step.map release

/-- The tokens up to the end of the stream, of a lexer that reaches it. -/
inductive Yields : Lexer → List Token → Prop where
  | last {lexer rest : Lexer} {ready : List Token} :
      lexer.advance = some (ready, rest) → ready.getLast? = some .streamEnd → Yields lexer ready
  | next {lexer between : Lexer} {ready tokens : List Token} :
      lexer.advance = some (ready, between) →
      between.cursor.rest.length < lexer.cursor.rest.length → .streamEnd ∉ ready →
      Yields between tokens → Yields lexer (ready ++ tokens)

/-- Every step takes a character, so the characters are fuel enough. -/
theorem tokens_of_yields (lexer : Lexer) (tokens : List Token) (fuel : Nat)
    (yields : Yields lexer tokens) (enough : lexer.cursor.rest.length < fuel) :
    lexer.tokens fuel = tokens := by
  induction yields generalizing fuel with
  | last advanced ended =>
      obtain ⟨fuel, rfl⟩ := Nat.exists_eq_succ_of_ne_zero (Nat.ne_zero_of_lt enough)
      obtain ⟨scanned, stepped, released⟩ := Option.map_eq_some_iff.mp advanced
      simp [Lexer.tokens, stepped, released, ended]
  | @next lexer between ready tokens advanced onward goes _ ih =>
      obtain ⟨fuel, rfl⟩ := Nat.exists_eq_succ_of_ne_zero (Nat.ne_zero_of_lt enough)
      obtain ⟨scanned, stepped, released⟩ := Option.map_eq_some_iff.mp advanced
      have unended : ready.getLast? ≠ some .streamEnd :=
        fun ended => goes (List.mem_of_getLast? ended)
      simp [Lexer.tokens, stepped, released, unended, ih fuel (by omega)]

theorem skip_space_stop (keyAllowed : Bool) (place : Place) (c : Char) (rest : List Char)
    (solid : isSolid c = true) :
    skipSpace false keyAllowed false place (c :: rest) = (keyAllowed, ⟨place, c :: rest⟩) := by
  obtain ⟨blank, broken, comment, mark⟩ := (solid_iff c).mp solid
  simp only [isBlank, Bool.or_eq_false_iff, beq_eq_false_iff_ne] at blank
  simp [skipSpace, broken, blank, comment, mark]

theorem skip_space_gap (keyAllowed : Bool) (place : Place) (c : Char) (rest : List Char)
    (solid : isSolid c = true) :
    skipSpace false keyAllowed false place (' ' :: c :: rest) =
      (keyAllowed, ⟨place.past ' ', c :: rest⟩) := by
  rw [skipSpace]
  simp [isBreak, skip_space_stop keyAllowed (place.past ' ') c rest solid]

theorem skip_space_blanks (keyAllowed : Bool) (line start more : Nat) (c : Char)
    (rest : List Char) (solid : isSolid c = true) :
    skipSpace false keyAllowed false (.inLine line start) (List.replicate more ' ' ++ c :: rest) =
      (keyAllowed, ⟨.inLine line (start + more), c :: rest⟩) := by
  induction more generalizing start with
  | zero => exact skip_space_stop keyAllowed _ c rest solid
  | succ more ih =>
      have space : Place.past (.inLine line start) ' ' = .inLine line (start + 1) := rfl
      rw [List.replicate_succ, List.cons_append, skipSpace]
      simp [isBreak, space, ih, Nat.add_right_comm, Nat.add_assoc]

/-- A key may begin at a place, with `rest`; the lexer is there, or on the line before. -/
structure Begins (place : Place) (text : List Char) (keyAllowed : Bool) (here : Place)
    (rest : List Char) : Prop where
  skipped : skipSpace false keyAllowed false place text = (true, ⟨here, rest⟩)
  fewer : rest.length ≤ text.length

def Stands (text : List Char) : Prop := ∃ c rest, text = c :: rest ∧ isSolid c = true

theorem begins_here (place : Place) (text : List Char) (stands : Stands text) :
    Begins place text true place text := by
  obtain ⟨c, rest, rfl, solid⟩ := stands
  exact ⟨skip_space_stop true place c rest solid, Nat.le_refl _⟩

theorem begins_line (place : Place) (keyAllowed : Bool) (column : Nat) (text : List Char)
    (stands : Stands text) :
    Begins place (margin column text) keyAllowed (.inLine (place.line + 1) column) text := by
  obtain ⟨c, rest, rfl, solid⟩ := stands
  have start : place.nextLine = .inLine (place.line + 1) 0 := rfl
  constructor
  · rw [margin, skipSpace]
    simp [isBreak, start, skip_space_blanks true (place.line + 1) 0 column c rest solid]
  · simp only [margin, List.length_cons, List.length_append, List.length_replicate]
    omega

theorem step_of_read {lexer atToken scanned : Lexer} (begins : lexer.toToken = some atToken)
    (read : atToken.readHere = some scanned) (whole : atToken.whole = true)
    (still : scanned.whole = true) : lexer.step = scanned.dropOutdated := by
  simp [step, begins, read, hasText, whole, still, Option.filter_some]

theorem drop_outdated_block {place : Place} {rest : List Char} {indents : List Nat}
    {keyAllowed : Bool} {released : Nat} {candidate : Option Candidate} {queue : List Token}
    (kept : ∀ held ∈ candidate, held.required = true → outdated place held = false) :
    (inBlock place rest indents keyAllowed released candidate queue).dropOutdated = some
      (inBlock place rest indents keyAllowed released
        (candidate.filter fun held => !outdated place held) queue) := by
  have lost : (candidate.any fun held => held.required && outdated place held) = false := by
    cases held : candidate with
    | none => rfl
    | some candidate =>
        have near := kept candidate held
        cases required : candidate.required <;> simp [required, near]
  simp [dropOutdated, inBlock, lost]

section

variable (place here : Place) (text rest : List Char) (indents : List Nat) (keyAllowed : Bool)
  (released : Nat)

theorem to_token_block (candidate : Option Candidate) (queue : List Token) (allowed : Bool)
    (skipped : skipSpace false keyAllowed false place text = (allowed, ⟨here, rest⟩))
    (kept : ∀ held ∈ candidate, held.required = true → outdated here held = false) :
    (inBlock place text indents keyAllowed released candidate queue).toToken = some
      (inBlock here rest (indents.dropWhile (here.column < ·)) allowed released
        (candidate.filter fun held => !outdated here held)
        (queue ++ List.replicate (indents.takeWhile (here.column < ·)).length Token.blockEnd)) := by
  have dropped : (inBlock here rest indents allowed released candidate queue).dropOutdated = _ :=
    drop_outdated_block kept
  rw [inBlock] at dropped
  simp [toToken, inBlock, inFlow, skipped, dropped, closeBlocks]

theorem release_all (queue : List Token) :
    (inBlock place rest indents keyAllowed released none queue).release =
      (queue, inBlock place rest indents keyAllowed (released + queue.length) none []) := by
  simp [release, settled, inBlock]

theorem release_before (before held : List Token) (start : Place) (required : Bool) :
    (inBlock place rest indents keyAllowed released
        (some ⟨released + before.length, start, required⟩) (before ++ held)).release =
      (before, inBlock place rest indents keyAllowed (released + before.length)
        (some ⟨released + before.length, start, required⟩) held) := by
  simp [release, settled, inBlock]

end

theorem advance_of_read {lexer atToken : Lexer} {place : Place} {rest : List Char}
    {indents : List Nat} {keyAllowed : Bool} {released : Nat} {queue : List Token}
    (begins : lexer.toToken = some atToken)
    (read : atToken.readHere = some (inBlock place rest indents keyAllowed released none queue))
    (whole : atToken.whole = true) :
    lexer.advance = some
      (queue, inBlock place rest indents keyAllowed (released + queue.length) none []) := by
  rw [advance, step_of_read begins read whole rfl, drop_outdated_block (by simp),
    Option.filter_none, Option.map_some, release_all]

structure PlainWord (word : List Char) : Prop where
  present : word ≠ []
  plain : ∀ c ∈ word, isPlain c = true

theorem word_stands (word rest : List Char) (key : PlainWord word) : Stands (word ++ rest) := by
  obtain ⟨first, more, rfl⟩ := List.exists_cons_of_ne_nil key.present
  exact ⟨first, more ++ rest, rfl, plain_solid first (key.plain first List.mem_cons_self)⟩

theorem read_here_plain (lexer : Lexer) (c : Char) (rest : List Char) (plain : isPlain c = true)
    (here : lexer.cursor.rest = c :: rest) : lexer.readHere = lexer.readPlain := by
  have differs (other : Char) := class_differs isPlain c other plain
  have blank := (plain_unspaced c plain).1
  have unmarked : isDocumentMark (c :: rest) = false := by
    unfold isDocumentMark
    split
    next same => cases same; exact absurd plain (by decide)
    next same => cases same; exact absurd plain (by decide)
    next => rfl
  simp [readHere, here, unmarked, isIndicator, isFlowIndicator, blank, differs '%' (by decide),
    differs '[' (by decide), differs ']' (by decide), differs '\x7b' (by decide),
    differs '\x7d' (by decide), differs ',' (by decide), differs '-' (by decide),
    differs '?' (by decide), differs ':' (by decide), differs '*' (by decide),
    differs '&' (by decide), differs '!' (by decide), differs '|' (by decide),
    differs '>' (by decide), differs '\'' (by decide), differs '"' (by decide),
    differs '#' (by decide), differs '@' (by decide), differs '\x60' (by decide)]

def Inside (indents : List Nat) (column : Nat) : Prop := ∀ indent ∈ indents.head?, indent ≤ column

theorem inside_keeps (indents : List Nat) (column : Nat) (inside : Inside indents column) :
    indents.takeWhile (column < ·) = [] ∧ indents.dropWhile (column < ·) = indents := by
  cases indents with
  | nil => exact ⟨rfl, rfl⟩
  | cons indent around =>
      have least : ¬ column < indent := Nat.not_lt.mpr (inside indent rfl)
      simp [least]

theorem inside_left (indents : List Nat) (column : Nat) :
    Inside (indents.dropWhile (column < ·)) column := by
  intro indent innermost
  have stopped := List.head?_dropWhile_not (column < ·) indents
  rw [Option.mem_def] at innermost
  rw [innermost] at stopped
  simpa using stopped

theorem inside_mono (indents : List Nat) (column further : Nat) (inside : Inside indents column)
    (later : column ≤ further) : Inside indents further :=
  fun indent innermost => Nat.le_trans (inside indent innermost) later

/-- The collections that are open once there is one that begins at a column. -/
def opened (indents : List Nat) (column : Nat) : List Nat :=
  if indents.head? = some column then indents else column :: indents

def opening (indents : List Nat) (column : Nat) (token : Token) : List Token :=
  if indents.head? = some column then [] else [token]

def keyed (indents : List Nat) (column : Nat) (word : List Char) : List Token :=
  opening indents column .blockMappingStart ++ [Token.key, Token.scalar .plain word, Token.value]

def dashed (indents : List Nat) (column : Nat) : List Token :=
  opening indents column .blockSequenceStart ++ [Token.blockEntry]

theorem opened_cons (indents : List Nat) (column : Nat) :
    ∃ around, opened indents column = column :: around := by
  rw [opened]
  split
  next same => exact ⟨indents.tail, List.eq_cons_of_mem_head? same⟩
  next => exact ⟨indents, rfl⟩

theorem inside_opened (indents : List Nat) (column : Nat) :
    Inside (opened indents column) (column + 1) := by
  obtain ⟨around, opens⟩ := opened_cons indents column
  rw [opens]
  rintro _ ⟨⟩
  exact Nat.le_succ column

theorem deeper_inside (indents : List Nat) (column : Nat) (inside : Inside indents column)
    (lexer : Lexer) (held : lexer.indents = indents) :
    lexer.deeper column = decide (indents.head? ≠ some column) := by
  rw [deeper, held]
  cases indents with
  | nil => rfl
  | cons indent around =>
      have least : indent ≤ column := inside indent rfl
      simp [Nat.lt_iff_le_and_ne, least]

section

variable (place here : Place) (text word rest : List Char) (indents : List Nat)
  (keyAllowed : Bool) (released : Nat)

theorem word_recent (index : Nat) (required : Bool) (short : 4 * word.length ≤ 1024) :
    outdated (here.along word) ⟨index, here, required⟩ = false := by
  have octets := Place.along_octets_le here word
  simp only [outdated, Place.along_line, Bool.or_eq_false_iff, decide_eq_false_iff_not]
  omega

theorem read_word (queue : List Token) (first : Char) (key : PlainWord (first :: word))
    (ends : atSpace rest = true) :
    (inBlock here (first :: word ++ ':' :: rest) indents true released none queue).readHere = some
      (inBlock (here.along (first :: word)) (':' :: rest) indents false released
        (some ⟨released + queue.length, here, indents.head? == some here.column⟩)
        (queue ++ [Token.scalar .plain (first :: word)])) := by
  have scanned (margin : Nat) :=
    scan_plain_key ⟨false, margin⟩ here (first :: word) rest rfl key.plain ends
  rw [List.cons_append] at scanned
  rw [read_here_plain _ first (word ++ ':' :: rest) (key.plain first List.mem_cons_self) rfl]
  simp [readPlain, markCandidate, dropCandidate, inFlow, inBlock, scanned, push]

/-- A word in front of a colon is held back until the colon is met; released are the ends of the
collections that the word closes. -/
theorem advance_word (begins : Begins place text keyAllowed here (word ++ ':' :: rest))
    (key : PlainWord word) (ends : atSpace rest = true) (short : 4 * word.length ≤ 1024) :
    (inBlock place text indents keyAllowed released none []).advance = some
      (List.replicate (indents.takeWhile (here.column < ·)).length Token.blockEnd,
        inBlock (here.along word) (':' :: rest) (indents.dropWhile (here.column < ·)) false
          (released + (indents.takeWhile (here.column < ·)).length)
          (some ⟨released + (indents.takeWhile (here.column < ·)).length, here,
            (indents.dropWhile (here.column < ·)).head? == some here.column⟩)
          [Token.scalar .plain word]) := by
  obtain ⟨first, more, rfl⟩ := List.exists_cons_of_ne_nil key.present
  have recent := word_recent here (first :: more)
  have stepped := step_of_read
    (to_token_block place here text _ indents keyAllowed released none [] true begins.skipped
      nofun)
    (read_word here more rest _ released _ first key ends) rfl rfl
  have settled := release_before (here.along (first :: more)) (':' :: rest)
    (indents.dropWhile (here.column < ·)) false released
    (List.replicate (indents.takeWhile (here.column < ·)).length Token.blockEnd)
    [Token.scalar .plain (first :: more)] here
    ((indents.dropWhile (here.column < ·)).head? == some here.column)
  rw [List.length_replicate] at settled
  rw [advance, stepped, List.nil_append, List.length_replicate,
    drop_outdated_block (by simp [recent _ _ short]), Option.filter_some,
    if_pos (by simp [recent _ _ short]), Option.map_some, settled]

theorem read_colon (start : Place) (required : Bool) (inside : Inside indents start.column)
    (ends : atSpace rest = true) :
    (inBlock place (':' :: rest) indents false released (some ⟨released, start, required⟩)
        [Token.scalar .plain word]).readHere = some
      (inBlock (place.past ':') rest (opened indents start.column) false released none
        (keyed indents start.column word)) := by
  have opens := deeper_inside indents start.column inside
  by_cases same : indents.head? = some start.column
  · simp [readHere, readValue, inBlock, inFlow, opens, same, ends, take, push, Cursor.skip,
      isDocumentMark, opened, opening, keyed]
  · simp [readHere, readValue, inBlock, inFlow, opens, same, ends, take, push, Cursor.skip,
      isDocumentMark, opened, opening, keyed]

/-- The colon makes a key of the word before it, and opens a mapping there if the word stands
further in than the collection around it. -/
theorem advance_colon (required : Bool) (inside : Inside indents here.column)
    (ends : atSpace rest = true) (short : 4 * word.length ≤ 1024) :
    (inBlock (here.along word) (':' :: rest) indents false released
        (some ⟨released, here, required⟩) [Token.scalar .plain word]).advance = some
      (keyed indents here.column word,
        inBlock ((here.along word).past ':') rest (opened indents here.column) false
          (released + (keyed indents here.column word).length) none []) := by
  have recent := word_recent here word released required short
  have further : here.column ≤ (here.along word).column := by
    rw [Place.along_column]
    exact Nat.le_add_right _ _
  obtain ⟨closed, left⟩ := inside_keeps indents _ (inside_mono indents _ _ inside further)
  have begins := to_token_block (here.along word) (here.along word) (':' :: rest) (':' :: rest)
    indents false released (some ⟨released, here, required⟩) [Token.scalar .plain word] false
    (skip_space_stop false _ ':' rest (by decide)) (by simp [recent])
  rw [left, closed, Option.filter_some, if_pos (by simp [recent])] at begins
  exact advance_of_read begins
    (read_colon (here.along word) word rest indents released here required inside ends) rfl

end

theorem yields_key {place here : Place} {text word rest : List Char} {keyAllowed : Bool}
    {indents : List Nat} {released : Nat} {tokens : List Token}
    (begins : Begins place text keyAllowed here (word ++ ':' :: rest)) (key : PlainWord word)
    (short : 4 * word.length ≤ 1024) (ends : atSpace rest = true)
    (onward : ∀ after released, here.column ≤ after.column →
      Yields (inBlock after rest (opened (indents.dropWhile (here.column < ·)) here.column) false
        released none []) tokens) :
    Yields (inBlock place text indents keyAllowed released none [])
      (List.replicate (indents.takeWhile (here.column < ·)).length Token.blockEnd ++
        (keyed (indents.dropWhile (here.column < ·)) here.column word ++ tokens)) := by
  have taken : 0 < word.length := List.length_pos_iff.mpr key.present
  have fewer := begins.fewer
  rw [List.length_append, List.length_cons] at fewer
  refine Yields.next (advance_word place here text word rest indents keyAllowed released begins
    key ends short) ?_ (by simp) ?_
  · change (':' :: rest).length < text.length
    rw [List.length_cons]
    omega
  · refine Yields.next (advance_colon here word rest _ _ _ (inside_left indents here.column) ends
      short) (Nat.lt_succ_self _) ?_ (onward _ _ ?_)
    · rw [keyed, opening]
      split <;> simp
    · change here.column ≤ (here.along word).column + 1
      rw [Place.along_column]
      omega

/-- A plain scalar behind a key ends with its line if the next one is not indented further than the
collection that the key is in. -/
theorem advance_plain (place : Place) (value next : List Char) (indent column released : Nat)
    (around : List Nat) (plain : PlainWord value) (inside : indent ≤ place.column)
    (outdented : column ≤ indent) (stands : Stands next) :
    (inBlock place (' ' :: (value ++ margin column next)) (indent :: around) false released none
        []).advance = some
      ([Token.scalar .plain value],
        inBlock (.inLine (place.line + 1) column) next (indent :: around) true (released + 1) none
          []) := by
  obtain ⟨first, more, rfl⟩ := List.exists_cons_of_ne_nil plain.present
  obtain ⟨c, rest, rfl, solid⟩ := stands
  have begun := plain.plain first List.mem_cons_self
  have further : Inside (indent :: around) (place.past ' ').column := by
    rintro _ ⟨⟩
    exact Nat.le_succ_of_le inside
  obtain ⟨closed, left⟩ := inside_keeps _ _ further
  have begins := to_token_block place (place.past ' ') _ _ (indent :: around) false released none []
    false (skip_space_gap false place first (more ++ margin column (c :: rest))
      (plain_solid first begun)) nofun
  have scanned := scan_plain_line ⟨false, indent + 1⟩ (place.past ' ') (first :: more) column c rest
    rfl plain.plain solid (Nat.lt_succ_of_le outdented)
  rw [left, closed] at begins
  have read : (inBlock (place.past ' ') (first :: (more ++ margin column (c :: rest)))
      (indent :: around) false released none []).readHere = some
        (inBlock (.inLine (place.line + 1) column) (c :: rest) (indent :: around) true released
          none [Token.scalar .plain (first :: more)]) := by
    rw [read_here_plain _ first _ begun rfl]
    rw [List.cons_append] at scanned
    simp [readPlain, markCandidate, inFlow, inBlock, scanned, push]
    rfl
  exact advance_of_read begins read rfl

theorem yields_plain {place : Place} {value next : List Char} {indent column released : Nat}
    {around : List Nat} {tokens : List Token} (plain : PlainWord value)
    (inside : indent ≤ place.column) (outdented : column ≤ indent) (stands : Stands next)
    (onward : ∀ line released,
      Yields (inBlock (.inLine line column) next (indent :: around) true released none []) tokens) :
    Yields (inBlock place (' ' :: (value ++ margin column next)) (indent :: around) false released
      none []) (Token.scalar .plain value :: tokens) := by
  refine Yields.next (advance_plain place value next indent column released around plain inside
    outdented stands) ?_ (by simp) (onward _ _)
  change next.length < (' ' :: (value ++ margin column next)).length
  simp only [margin, List.length_cons, List.length_append, List.length_replicate]
  omega

theorem yields_line {place here : Place} {text word value next : List Char} {keyAllowed : Bool}
    {indents : List Nat} {column released : Nat} {tokens : List Token}
    (begins : Begins place text keyAllowed here
      (word ++ ':' :: ' ' :: (value ++ margin column next)))
    (key : PlainWord word) (short : 4 * word.length ≤ 1024) (plain : PlainWord value)
    (inside : Inside indents here.column) (outdented : column ≤ here.column) (stands : Stands next)
    (onward : ∀ line released,
      Yields (inBlock (.inLine line column) next (opened indents here.column) true released none [])
        tokens) :
    Yields (inBlock place text indents keyAllowed released none [])
      (keyed indents here.column word ++ Token.scalar .plain value :: tokens) := by
  obtain ⟨closed, left⟩ := inside_keeps indents _ inside
  obtain ⟨around, opens⟩ := opened_cons indents here.column
  have behind (after : Place) (released : Nat) (further : here.column ≤ after.column) :
      Yields (inBlock after (' ' :: (value ++ margin column next))
        (opened (indents.dropWhile (here.column < ·)) here.column) false released none [])
        (Token.scalar .plain value :: tokens) := by
    rw [left, opens]
    exact yields_plain plain further outdented stands (opens ▸ onward)
  have line : Yields (inBlock place text indents keyAllowed released none []) _ :=
    yields_key begins key short rfl behind
  rwa [closed, left] at line

end Lexer

end LicenseGate.Yaml
