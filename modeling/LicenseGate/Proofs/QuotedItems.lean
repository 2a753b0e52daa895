import LicenseGate.Proofs.BlockTokens

/-!
Items in quotes, and the end of a text. A text in quotes is held back as a key that might be, until
what follows shows that it is none; whatever comes of that, the tokens are the same.
-/

namespace LicenseGate.Yaml

namespace Lexer

/-- What is held back may be given up: it need not be a key, and the stream does not end in it. -/
structure Loose (candidate : Option Candidate) (queue : List Token) : Prop where
  optional : ∀ held ∈ candidate, held.required = false
  unended : Token.streamEnd ∉ queue

theorem loose_none : Loose none [] := ⟨nofun, nofun⟩

theorem optional_near {candidate : Option Candidate}
    (optional : ∀ held ∈ candidate, held.required = false) (here : Place) :
    ∀ held ∈ candidate, held.required = true → outdated here held = false :=
  fun held kept required => absurd required (by simp [optional held kept])

theorem optional_filter {candidate : Option Candidate}
    (optional : ∀ held ∈ candidate, held.required = false) (keep : Candidate → Bool) :
    ∀ held ∈ candidate.filter keep, held.required = false :=
  fun held kept => optional held (Option.mem_filter_iff.mp kept).1

theorem drop_loose (candidate : Option Candidate)
    (optional : ∀ held ∈ candidate, held.required = false) (lexer : Lexer)
    (held : lexer.candidate = candidate) :
    lexer.dropCandidate = some { lexer with candidate := none } := by
  rw [dropCandidate, held]
  cases candidate with
  | none => rfl
  | some candidate =>
      obtain ⟨index, start, required⟩ := candidate
      obtain rfl : required = false := optional _ rfl
      rfl

section

variable (place : Place) (text rest : List Char) (indents : List Nat) (keyAllowed : Bool)
  (released : Nat) (candidate : Option Candidate) (queue : List Token)

theorem read_entry (inside : Inside indents place.column) (ends : atSpace rest = true)
    (optional : ∀ held ∈ candidate, held.required = false) :
    (inBlock place ('-' :: rest) indents true released candidate queue).readHere = some
      (inBlock (place.past '-') rest (opened indents place.column) true released none
        (queue ++ dashed indents place.column)) := by
  have unmarked : isDocumentMark ('-' :: rest) = false := by
    cases rest with
    | nil => rfl
    | cons c rest =>
        unfold isDocumentMark
        split
        next same => cases same; exact absurd ends (by simp [atSpace, isBlank, isBreak])
        next same => cases same
        next => rfl
  have opens := deeper_inside indents place.column inside
  have drops := drop_loose candidate optional
  by_cases same : indents.head? = some place.column
  · simp [readHere, inBlock, unmarked, ends, readBlockEntry, openBlock, inFlow, opens, same, drops,
      take, push, Cursor.skip, opened, dashed, opening]
  · simp [readHere, inBlock, unmarked, ends, readBlockEntry, openBlock, inFlow, opens, same, drops,
      take, push, Cursor.skip, opened, dashed, opening]

theorem advance_entry (here : Place) (begins : Begins place text keyAllowed here ('-' :: rest))
    (inside : Inside indents here.column) (ends : atSpace rest = true)
    (optional : ∀ held ∈ candidate, held.required = false) :
    (inBlock place text indents keyAllowed released candidate queue).advance = some
      (queue ++ dashed indents here.column,
        inBlock (here.past '-') rest (opened indents here.column) true
          (released + (queue ++ dashed indents here.column).length) none []) := by
  obtain ⟨closed, left⟩ := inside_keeps indents _ inside
  have atDash := to_token_block place here text _ indents keyAllowed released candidate queue true
    begins.skipped (optional_near optional here)
  rw [left, closed, List.length_nil, List.replicate_zero, List.append_nil] at atDash
  exact advance_of_read atDash
    (read_entry here rest indents released _ queue inside ends (optional_filter optional _)) rfl

theorem read_double (quoted : List Char) (inside : indents.head? ≠ some place.column)
    (quotable : ∀ c ∈ quoted, isQuotable c = true) :
    (inBlock place ('"' :: (quoted ++ '"' :: rest)) indents true released none []).readHere = some
      (inBlock (((place.past '"').along quoted).past '"') rest indents false released
        (some ⟨released, place, false⟩) [Token.scalar .doubleQuoted quoted]) := by
  have scanned := scan_double_text (place.past '"') .none quoted rest (Nat.succ_ne_zero _) rfl
    quotable
  simp [readHere, inBlock, isDocumentMark, readQuoted, markCandidate, dropCandidate, inFlow, inside,
    Cursor.next, Cursor.skip, scanned, Gap.text, push]

end

theorem yields_double {place : Place} {quoted rest : List Char} {indents : List Nat}
    {released : Nat} {tokens : List Token} (inside : Inside indents place.column)
    (quotable : ∀ c ∈ quoted, isQuotable c = true)
    (onward : ∀ after released candidate queue, Loose candidate queue →
      Yields (inBlock after rest indents false released candidate queue) (queue ++ tokens)) :
    Yields (inBlock place (' ' :: '"' :: (quoted ++ '"' :: rest)) indents true released none [])
      (Token.scalar .doubleQuoted quoted :: tokens) := by
  obtain ⟨closed, left⟩ :=
    inside_keeps indents _ (inside_mono indents _ (place.past ' ').column inside (Nat.le_succ _))
  have apart : indents.head? ≠ some (place.past ' ').column := by
    intro same
    exact absurd (inside _ same) (Nat.not_succ_le_self _)
  have begins := to_token_block place (place.past ' ') _ _ indents true released none [] true
    (skip_space_gap true place '"' (quoted ++ '"' :: rest) (by decide)) nofun
  rw [left, closed] at begins
  have stepped := step_of_read begins
    (read_double (place.past ' ') rest indents released quoted apart quotable) rfl rfl
  rw [drop_outdated_block (by simp), Option.filter_some] at stepped
  have fewer : rest.length < (' ' :: '"' :: (quoted ++ '"' :: rest)).length := by
    simp only [List.length_cons, List.length_append]
    omega
  have single : Token.streamEnd ∉ [Token.scalar .doubleQuoted quoted] := by simp
  -- A text of more than 1024 octets is too long for a key, and is given up at once.
  split at stepped
  · have held := release_before (((place.past ' ').past '"').along quoted |>.past '"') rest indents
      false released [] [Token.scalar .doubleQuoted quoted] (place.past ' ') false
    have advanced := congrArg (Option.map release) stepped
    rw [List.length_nil, Nat.add_zero, List.nil_append] at held
    rw [Option.map_some, held] at advanced
    exact Yields.next advanced fewer nofun (onward _ _ _ _ ⟨by simp, single⟩)
  · have advanced := congrArg (Option.map release) stepped
    rw [Option.map_some, release_all] at advanced
    exact Yields.next advanced fewer single (onward _ _ none [] loose_none)

theorem yields_item {place here : Place} {text quoted rest : List Char} {keyAllowed : Bool}
    {indents : List Nat} {released : Nat} {candidate : Option Candidate} {queue tokens : List Token}
    (begins : Begins place text keyAllowed here ('-' :: ' ' :: '"' :: (quoted ++ '"' :: rest)))
    (inside : Inside indents here.column) (loose : Loose candidate queue)
    (quotable : ∀ c ∈ quoted, isQuotable c = true)
    (onward : ∀ after released candidate queue, Loose candidate queue →
      Yields (inBlock after rest (opened indents here.column) false released candidate queue)
        (queue ++ tokens)) :
    Yields (inBlock place text indents keyAllowed released candidate queue)
      (queue ++ (dashed indents here.column ++ Token.scalar .doubleQuoted quoted :: tokens)) := by
  have within := inside_opened indents here.column
  rw [← List.append_assoc]
  refine Yields.next (advance_entry place text _ indents keyAllowed released candidate queue here
    begins inside rfl loose.optional) begins.fewer ?_
    (yields_double within quotable onward)
  rw [dashed, opening]
  split <;> simp [loose.unended]

theorem read_end (place : Place) (indents : List Nat) (keyAllowed : Bool) (released : Nat)
    (candidate : Option Candidate) (queue : List Token)
    (optional : ∀ held ∈ candidate, held.required = false) :
    (inBlock place [] indents keyAllowed released candidate queue).readHere = some
      (inBlock (if place.column = 0 then place else place.nextLine) [] [] false released none
        (queue ++ (List.replicate indents.length Token.blockEnd ++ [Token.streamEnd]))) := by
  have drops := drop_loose candidate optional
  have all : indents.takeWhile (fun _ => true) = indents :=
    List.takeWhile_eq_self_iff.mpr fun _ _ => rfl
  simp [readHere, readStreamEnd, inBlock, closeBlocks, inFlow, drops, take, push, Cursor.skip, all]
  rfl

/-- At the end of the text, after its last line end or without one, all that is open is closed. -/
theorem yields_end {place : Place} {ending : List Char} {indents : List Nat} {keyAllowed : Bool}
    {released : Nat} {candidate : Option Candidate} {queue : List Token}
    (ends : ending = [] ∨ ending = ['\n']) (loose : Loose candidate queue) :
    Yields (inBlock place ending indents keyAllowed released candidate queue)
      (queue ++ (List.replicate indents.length Token.blockEnd ++ [Token.streamEnd])) := by
  obtain ⟨here, allowed, skipped⟩ : ∃ here allowed,
      skipSpace false keyAllowed false place ending = (allowed, ⟨here, []⟩) := by
    rcases ends with rfl | rfl
    · exact ⟨_, _, rfl⟩
    · exact ⟨_, _, rfl⟩
  have begins := to_token_block place here ending [] indents keyAllowed released candidate queue
    allowed skipped (optional_near loose.optional here)
  have whole : (indents.takeWhile (here.column < ·)).length +
      (indents.dropWhile (here.column < ·)).length = indents.length := by
    rw [← List.length_append, List.takeWhile_append_dropWhile]
  have advanced := advance_of_read begins
    (read_end here _ _ _ _ _ (optional_filter loose.optional _)) rfl
  rw [List.append_assoc, ← List.append_assoc (List.replicate _ _),
    List.replicate_append_replicate, whole] at advanced
  exact Yields.last advanced (by simp)

end Lexer

end LicenseGate.Yaml
