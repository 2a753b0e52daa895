import LicenseGate.Yaml.Token
import Mathlib

/-!
What is read on a line: a word up to the colon that makes it a key, a scalar up to the line that
follows it, and text in quotes. Where the reader stands afterwards is told from what it has passed.
-/

namespace LicenseGate.Yaml

theorem take_stretches_allowed (room : Nat) (stretch text : List Char)
    (allowed : ∀ c ∈ text, isAllowed c = true) :
    takeStretches room stretch text = (stretch.reverse ++ text, true) := by
  induction text generalizing room stretch with
  | nil => simp [takeStretches]
  | cons c rest ih =>
      obtain ⟨first, later⟩ := List.forall_mem_cons.mp allowed
      simp only [takeStretches, first, ↓reduceIte]
      by_cases fits : c.utf8Size ≤ room
      · simp [fits, ih _ _ later]
      · simp [fits, ih _ _ later]

theorem unify_breaks_exact (text : List Char)
    (unified : ∀ c ∈ text, c ≠ '\r' ∧ c ≠ '\u0085') : unifyBreaks text = text := by
  induction text with
  | nil => rfl
  | cons c rest ih =>
      obtain ⟨first, later⟩ := List.forall_mem_cons.mp unified
      rw [unifyBreaks, ih later]
      · simp [first.1, first.2]
      · rintro _ rfl
        exact absurd rfl first.1

/-- Characters that are read as they stand: those that YAML allows, and of the line ends those that
are not made one. -/
def isExact (c : Char) : Bool := isAllowed c && c != '\r' && c != '\u0085'

theorem readable_exact (text : List Char) (exact : ∀ c ∈ text, isExact c = true) :
    readable text = (text, true) := by
  simp only [isExact, Bool.and_eq_true, bne_iff_ne] at exact
  have allowed := take_stretches_allowed stretchSize [] text fun c member => (exact c member).1.1
  have unified := unify_breaks_exact text fun c member =>
    ⟨(exact c member).1.2, (exact c member).2⟩
  simp [readable, allowed, unified]

namespace Place

/-- A place on a line, after so many characters of one octet. -/
def inLine (line column : Nat) : Place := ⟨line, column, column⟩

def along (place : Place) (text : List Char) : Place := text.foldl past place

theorem along_line (place : Place) (text : List Char) : (place.along text).line = place.line := by
  induction text generalizing place with
  | nil => rfl
  | cons c rest ih => exact ih (place.past c)

theorem along_column (place : Place) (text : List Char) :
    (place.along text).column = place.column + text.length := by
  induction text generalizing place with
  | nil => rfl
  | cons c rest ih =>
      calc ((place.past c).along rest).column
          = place.column + 1 + rest.length := ih (place.past c)
        _ = place.column + (rest.length + 1) := by omega

theorem along_octets_le (place : Place) (text : List Char) :
    (place.along text).octets ≤ place.octets + 4 * text.length := by
  induction text generalizing place with
  | nil => exact Nat.le_refl _
  | cons c rest ih =>
      have size := c.utf8Size_le_four
      calc ((place.past c).along rest).octets
          ≤ place.octets + c.utf8Size + 4 * rest.length := ih (place.past c)
        _ ≤ place.octets + 4 * (rest.length + 1) := by omega

end Place

def isPlain (c : Char) : Bool := c.isAlphanum || c == '_'

theorem class_differs (keep : Char → Bool) (c other : Char) (kept : keep c = true)
    (dropped : keep other = false) : c ≠ other := by
  rintro rfl
  rw [dropped] at kept
  exact absurd kept nofun

theorem plain_unspaced (c : Char) (plain : isPlain c = true) :
    isBlank c = false ∧ isBreak c = false := by
  have differs (other : Char) := class_differs isPlain c other plain
  simp [isBlank, isBreak, differs ' ' (by decide), differs '\t' (by decide),
    differs '\n' (by decide), differs '\u2028' (by decide), differs '\u2029' (by decide)]

def isSolid (c : Char) : Bool := !(isBlank c || isBreak c || c == '#' || isMark c)

theorem solid_iff (c : Char) : isSolid c = true ↔
    isBlank c = false ∧ isBreak c = false ∧ c ≠ '#' ∧ isMark c = false := by
  simp [isSolid, and_assoc]

theorem plain_solid (c : Char) (plain : isPlain c = true) : isSolid c = true := by
  obtain ⟨blank, broken⟩ := plain_unspaced c plain
  exact (solid_iff c).mpr ⟨blank, broken, class_differs isPlain c '#' plain (by decide),
    beq_eq_false_iff_ne.mpr (class_differs isPlain c '\ufeff' plain (by decide))⟩

/-- A line end, and the blanks in front of what stands at a column of the next line. -/
def margin (column : Nat) (text : List Char) : List Char :=
  '\n' :: (List.replicate column ' ' ++ text)

theorem refuses_block (context : PlainContext) (block : context.inFlow = false)
    (text : List Char) : context.refuses text = false := by
  unfold PlainContext.refuses
  split
  next => rw [block, Bool.false_and]
  next => rfl

theorem scan_plain_word (context : PlainContext) (place : Place) (word rest : List Char)
    (block : context.inFlow = false) (plain : ∀ c ∈ word, isPlain c = true) :
    scanPlain context place .none (word ++ rest) =
      (scanPlain context (place.along word) .none rest).map fun (scanned, crossed) =>
        (scanned.prepend word, crossed) := by
  induction word generalizing place with
  | nil => simp [Scanned.prepend, Place.along]
  | cons c word ih =>
      obtain ⟨first, later⟩ := List.forall_mem_cons.mp plain
      obtain ⟨blank, broken⟩ := plain_unspaced c first
      have goes : context.stops (c :: (word ++ rest)) = false := by
        simp [PlainContext.stops, block, class_differs isPlain c ':' first (by decide)]
      rw [List.cons_append, scanPlain]
      simp only [blank, broken, goes, refuses_block context block, Bool.false_eq_true, ↓reduceIte,
        bne_self_eq_false, Bool.false_and, ih _ later, Option.map_map, Gap.text, List.nil_append]
      rfl

theorem scan_plain_key (context : PlainContext) (place : Place) (word rest : List Char)
    (block : context.inFlow = false) (plain : ∀ c ∈ word, isPlain c = true)
    (ends : atSpace rest = true) :
    scanPlain context place .none (word ++ ':' :: rest) =
      some (⟨word, ⟨place.along word, ':' :: rest⟩⟩, false) := by
  have stop : context.stops (':' :: rest) = true := by simp [PlainContext.stops, ends]
  rw [scan_plain_word context place word _ block plain]
  simp [scanPlain, isBlank, isBreak, stop, refuses_block context block, Gap.crossesLine,
    Scanned.prepend]

theorem scan_plain_blanks (context : PlainContext) (line start more : Nat) (first : Option Char)
    (c : Char) (rest : List Char) (block : context.inFlow = false) (solid : isSolid c = true)
    (outdented : start + more < context.margin) :
    scanPlain context (.inLine line start) (.lines first [])
        (List.replicate more ' ' ++ c :: rest) =
      some (⟨[], ⟨.inLine line (start + more), c :: rest⟩⟩, true) := by
  induction more generalizing start with
  | zero =>
      obtain ⟨blank, broken, -, -⟩ := (solid_iff c).mp solid
      have outside : start < context.margin := outdented
      have leaves : context.leaves start (c :: rest) = true := by
        simp [PlainContext.leaves, block, outside]
      simp [scanPlain, blank, broken, Gap.crossesLine, Place.inLine, leaves]
  | succ more ih =>
      have space : Place.past (.inLine line start) ' ' = .inLine line (start + 1) := rfl
      rw [List.replicate_succ, List.cons_append, scanPlain]
      simp [isBlank, space, Gap.addBlank, ih (start + 1) (by omega), Nat.add_right_comm,
        Nat.add_assoc]

/-- A line that is not indented as far as a scalar has to be ends the scalar. -/
theorem scan_plain_line (context : PlainContext) (place : Place) (word : List Char)
    (column : Nat) (c : Char) (rest : List Char) (block : context.inFlow = false)
    (plain : ∀ c ∈ word, isPlain c = true) (solid : isSolid c = true)
    (outdented : column < context.margin) :
    scanPlain context place .none (word ++ margin column (c :: rest)) =
      some (⟨word, ⟨.inLine (place.line + 1) column, c :: rest⟩⟩, true) := by
  have start : (place.along word).nextLine = .inLine (place.line + 1) 0 := by
    rw [Place.nextLine, Place.along_line, Place.inLine]
  have blanks := scan_plain_blanks context (place.line + 1) 0 column (some '\n') c rest block solid
    (by rwa [Nat.zero_add])
  rw [scan_plain_word context place word _ block plain, margin, scanPlain]
  simp [isBlank, isBreak, start, Gap.addBreak, blanks, Scanned.prepend]

/-- Characters that stand for themselves between double quotes: those of ASCII that are seen, and
the blank, but for the quote and the backslash. -/
def isQuotable (c : Char) : Bool :=
  decide (0x20 ≤ c.toNat) && decide (c.toNat ≤ 0x7e) && c != '"' && c != '\\'

theorem quotable_blank (c : Char) (quotable : isQuotable c = true) :
    isBreak c = false ∧ (isBlank c = true ↔ c = ' ') := by
  have differs (other : Char) := class_differs isQuotable c other quotable
  constructor
  · simp [isBreak, differs '\n' (by decide), differs '\u2028' (by decide),
      differs '\u2029' (by decide)]
  · simp [isBlank, differs '\t' (by decide)]

theorem quotable_exact (c : Char) (quotable : isQuotable c = true) : isExact c = true := by
  have carriage := class_differs isQuotable c '\r' quotable (by decide)
  have next := class_differs isQuotable c '\u0085' quotable (by decide)
  simp only [isQuotable, Bool.and_eq_true, decide_eq_true_eq] at quotable
  simp [isExact, isAllowed, carriage, next, quotable]

theorem plain_quotable (c : Char) (plain : isPlain c = true) : isQuotable c = true := by
  have differs (other : Char) := class_differs isPlain c other plain
  have seen : 0x20 ≤ c.toNat ∧ c.toNat ≤ 0x7e := by
    simp only [isPlain, Char.isAlphanum, Char.isAlpha, Char.isUpper, Char.isLower, Char.isDigit,
      Bool.or_eq_true, Bool.and_eq_true, decide_eq_true_eq, beq_iff_eq, UInt32.le_iff_toNat_le,
      ge_iff_le] at plain
    rcases plain with ((⟨low, high⟩ | ⟨low, high⟩) | ⟨low, high⟩) | rfl
    · exact ⟨Nat.le_trans (by decide) low, Nat.le_trans high (by decide)⟩
    · exact ⟨Nat.le_trans (by decide) low, Nat.le_trans high (by decide)⟩
    · exact ⟨Nat.le_trans (by decide) low, Nat.le_trans high (by decide)⟩
    · decide
  simp [isQuotable, seen, differs '"' (by decide), differs '\\' (by decide)]

theorem scan_double_text (place : Place) (gap : Gap) (text rest : List Char)
    (inside : place.column ≠ 0) (whole : gap.crossesLine = false)
    (quotable : ∀ c ∈ text, isQuotable c = true) :
    scanDouble place gap .text (text ++ '"' :: rest) =
      some ⟨gap.text ++ text, ⟨(place.along text).past '"', rest⟩⟩ := by
  -- Blanks wait in the gap until something else follows, here at the latest the quote.
  induction text generalizing place gap with
  | nil => simp [scanDouble, inside, isBlank, isBreak, Place.along]
  | cons c text ih =>
      obtain ⟨first, later⟩ := List.forall_mem_cons.mp quotable
      obtain ⟨broken, blank⟩ := quotable_blank c first
      have differs (other : Char) := class_differs isQuotable c other first
      have next : (place.past c).column ≠ 0 := Nat.succ_ne_zero _
      rw [List.cons_append, scanDouble]
      by_cases space : c = ' '
      · have grown : (gap.addBlank c).crossesLine = false ∧
            (gap.addBlank c).text = gap.text ++ [c] := by
          cases gap with
          | none => exact ⟨rfl, rfl⟩
          | blanks run => exact ⟨rfl, rfl⟩
          | lines first more => exact absurd whole nofun
        simp [inside, blank.mpr space, ih _ _ next grown.1 later, grown.2, Place.along]
      · simp [inside, broken, blank.not.mpr space, differs '"' (by decide),
          differs '\\' (by decide), ih _ .none next rfl later, Scanned.prepend, Gap.text, Place.along]

end LicenseGate.Yaml
