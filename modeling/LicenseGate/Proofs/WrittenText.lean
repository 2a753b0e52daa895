import LicenseGate.Proofs.NumberText
import LicenseGate.Proofs.QuotedItems
import LicenseGate.Proofs.TreeTokens

/-!
Settings written out in full, with the entitlements in quotes, as lines of text and as a tree. The
text is read back as that tree, however large its numbers and however long its list.
-/

namespace LicenseGate.Settings

open Yaml Node Lexer

def itemLine (text : String) : String := "  - \"" ++ text ++ "\""

def settingsLines (version grace fade : Nat) (entitlements : List String) : List String :=
  ["version: " ++ toString version, "gate:", "  grace_ms: " ++ toString grace,
    "  fade_ms: " ++ toString fade, "entitlements:"] ++ entitlements.map itemLine

def writtenText (version grace fade : Nat) (entitlements : List String) (ending : List Char) :
    List Char :=
  ("\n".intercalate (settingsLines version grace fade entitlements)).toList ++ ending

def decimal (number : Nat) : Node := .scalar ⟨.plain, none, Nat.toDigits 10 number⟩

def word (text : String) : Node := .scalar ⟨.plain, none, text.toList⟩

def quoted (text : String) : Node := .scalar ⟨.doubleQuoted, none, text.toList⟩

/-- A list of texts; nothing is written of one without items. -/
def listed : List String → Node
  | [] => .nothing
  | first :: rest => .sequence ((first :: rest).map quoted)

def writtenGate (grace fade : Nat) : Node :=
  .mapping [(word "grace_ms", decimal grace), (word "fade_ms", decimal fade)]

/-- The tree of settings that are written out in full. -/
def written (version grace fade : Nat) (entitlements : List String) : Node :=
  .mapping [(word "version", decimal version), (word "gate", writtenGate grace fade),
    (word "entitlements", listed entitlements)]

theorem decimal_resolved (number : Nat) : (decimal number).Resolved := .scalar rfl

theorem word_resolved (text : String) : (word text).Resolved := .scalar rfl

theorem listed_resolved (texts : List String) : (listed texts).Resolved := by
  cases texts with
  | nil => exact .scalar rfl
  | cons first rest =>
      refine .sequence ?_
      intro item member
      obtain ⟨text, -, rfl⟩ := List.mem_map.mp member
      exact .scalar rfl

theorem written_resolved (version grace fade : Nat) (entitlements : List String) :
    (written version grace fade entitlements).Resolved := by
  have gate : (writtenGate grace fade).Resolved := by
    refine .mapping ?_ ?_ <;> simp [word_resolved, decimal_resolved]
  refine .mapping ?_ ?_ <;> simp [word_resolved, decimal_resolved, listed_resolved, gate]

def header (name : String) (rest : List Char) : List Char := name.toList ++ ':' :: rest

def entry (name : String) (number : Nat) (rest : List Char) : List Char :=
  header name (' ' :: (Nat.toDigits 10 number ++ rest))

def itemLines (ending : List Char) : List String → List Char
  | [] => ending
  | text :: rest => margin 2 ('-' :: ' ' :: '"' :: (text.toList ++ '"' :: itemLines ending rest))

/-- The text of written settings as the lexer meets it. -/
def settingsText (ending : List Char) (version grace fade : Nat) (entitlements : List String) :
    List Char :=
  entry "version" version (margin 0 (header "gate" (margin 2 (entry "grace_ms" grace
    (margin 2 (entry "fade_ms" fade (margin 0
      (header "entitlements" (itemLines ending entitlements)))))))))

theorem join_lines (first : List Char) (rest : List (List Char)) :
    ['\n'].intercalate (first :: rest) = first ++ rest.flatMap ('\n' :: ·) := by
  induction rest generalizing first with
  | nil => simp
  | cons second rest ih => simp [ih]

theorem item_lines_join (ending : List Char) (texts : List String) :
    itemLines ending texts =
      ((texts.map itemLine).map String.toList).flatMap ('\n' :: ·) ++ ending := by
  induction texts with
  | nil => rfl
  | cons text rest ih => simp [itemLines, ih, itemLine, margin]

theorem lines_joined (ending : List Char) (version grace fade : Nat) (entitlements : List String) :
    writtenText version grace fade entitlements ending =
      settingsText ending version grace fade entitlements := by
  have lineEnd : "\n".toList = ['\n'] := rfl
  rw [writtenText, String.toList_intercalate, lineEnd, settingsLines, List.map_append,
    List.map_cons, List.cons_append, join_lines, settingsText, item_lines_join]
  simp [entry, header, margin]

example : settingsText ['\n'] 1 250 10 ["urn:a", "b # c"] =
    ("version: 1\ngate:\n  grace_ms: 250\n  fade_ms: 10\n" ++
      "entitlements:\n  - \"urn:a\"\n  - \"b # c\"\n").toList := by decide +kernel

theorem decimal_plain (number : Nat) : PlainWord (Nat.toDigits 10 number) := by
  refine ⟨Nat.toDigits_ne_nil, fun c member => ?_⟩
  have digit := Nat.isDigit_of_mem_toDigits (by decide) (by decide) member
  simp [isPlain, Char.isAlphanum, digit]

theorem margin_exact (column : Nat) (rest : List Char) :
    (margin column rest).all isExact = rest.all isExact := by
  have blank : isExact ' ' = true := by decide
  have lineEnd : isExact '\n' = true := by decide
  simp [margin, List.all_append, List.all_replicate, blank, lineEnd]

theorem word_exact (text : List Char) (plain : text.all isPlain = true) :
    text.all isExact = true :=
  List.all_eq_true.mpr fun c member =>
    quotable_exact c (plain_quotable c (List.all_eq_true.mp plain c member))

theorem header_exact (name : String) (rest : List Char) (plain : name.toList.all isPlain = true) :
    (header name rest).all isExact = rest.all isExact := by
  have colon : isExact ':' = true := by decide
  rw [header, List.all_append, word_exact _ plain, List.all_cons, colon, Bool.true_and,
    Bool.true_and]

theorem entry_exact (name : String) (number : Nat) (rest : List Char)
    (plain : name.toList.all isPlain = true) :
    (entry name number rest).all isExact = rest.all isExact := by
  have blank : isExact ' ' = true := by decide
  have digits := word_exact _ (List.all_eq_true.mpr (decimal_plain number).plain)
  rw [entry, header_exact name _ plain, List.all_cons, blank, List.all_append, digits,
    Bool.true_and, Bool.true_and]

theorem written_tokens (version grace fade : Nat) (entitlements : List String) :
    (written version grace fade entitlements).tokens ++ [Token.streamEnd] =
      keyed [] 0 "version".toList ++ Token.scalar .plain (Nat.toDigits 10 version) ::
        (keyed [0] 0 "gate".toList ++
          (keyed [0] 2 "grace_ms".toList ++ Token.scalar .plain (Nat.toDigits 10 grace) ::
            (keyed [2, 0] 2 "fade_ms".toList ++ Token.scalar .plain (Nat.toDigits 10 fade) ::
              ([Token.blockEnd] ++ (keyed [0] 0 "entitlements".toList ++
                ((listed entitlements).tokens ++ [Token.blockEnd, Token.streamEnd])))))) := by
  have number (value : Nat) :
      (decimal value).tokens = [Token.scalar .plain (Nat.toDigits 10 value)] := by
    simp [decimal, Node.tokens, Scalar.isAbsent]
  simp [written, writtenGate, Node.tokens, entryTokens, word, Scalar.isAbsent, number, keyed,
    opening]

theorem inside_self (column : Nat) (indents : List Nat) : Inside (column :: indents) column := by
  rintro _ ⟨⟩
  exact Nat.le_refl column

section

variable (ending : List Char) (ends : ending = [] ∨ ending = ['\n']) (texts : List String)
  (quotable : ∀ text ∈ texts, ∀ c ∈ text.toList, isQuotable c = true)

include ends quotable

theorem items_exact : (itemLines ending texts).all isExact = true := by
  have marks : isExact '-' = true ∧ isExact ' ' = true ∧ isExact '"' = true := by decide
  induction texts with
  | nil => rcases ends with rfl | rfl <;> decide
  | cons text rest ih =>
      obtain ⟨first, others⟩ := List.forall_mem_cons.mp quotable
      have exact : text.toList.all isExact = true :=
        List.all_eq_true.mpr fun c member => quotable_exact c (first c member)
      simp [itemLines, margin_exact, marks, exact, ih others]

theorem text_exact (version grace fade : Nat) :
    (settingsText ending version grace fade texts).all isExact = true := by
  rw [settingsText, entry_exact "version" _ _ rfl, margin_exact, header_exact "gate" _ rfl,
    margin_exact, entry_exact "grace_ms" _ _ rfl, margin_exact, entry_exact "fade_ms" _ _ rfl,
    margin_exact, header_exact "entitlements" _ rfl]
  exact items_exact ending ends texts quotable

/-- The items of a sequence that is open at their column, to the end of the text. -/
theorem yields_items (place : Place) (around : List Nat) (keyAllowed : Bool) (released : Nat)
    (candidate : Option Candidate) (queue : List Token) (loose : Loose candidate queue) :
    Yields
      (inBlock place (itemLines ending texts) (2 :: around) keyAllowed released candidate queue)
      (queue ++ (itemTokens (texts.map quoted) ++
        (List.replicate (around.length + 1) Token.blockEnd ++ [Token.streamEnd]))) := by
  -- What an item leaves held back comes out with the item after it, or at the end.
  induction texts generalizing place keyAllowed released candidate queue with
  | nil => exact yields_end ends loose
  | cons text rest ih =>
      obtain ⟨first, others⟩ := List.forall_mem_cons.mp quotable
      exact yields_item (begins_line place keyAllowed 2 _ ⟨'-', _, rfl, by decide⟩)
        (inside_self 2 around) loose first
        fun after released candidate queue loose => ih others after _ released candidate queue loose

theorem yields_listed (place : Place) (released : Nat) :
    Yields (inBlock place (itemLines ending texts) [0] false released none [])
      ((listed texts).tokens ++ [Token.blockEnd, Token.streamEnd]) := by
  cases texts with
  | nil => exact yields_end ends loose_none
  | cons text rest =>
      obtain ⟨first, others⟩ := List.forall_mem_cons.mp quotable
      have items : Yields (inBlock place _ [0] false released none []) _ :=
        yields_item (begins_line place false 2 _ ⟨'-', _, rfl, by decide⟩)
          (inside_mono [0] 0 2 (inside_self 0 []) (by decide)) loose_none first
          fun after released candidate queue loose =>
            yields_items ending ends rest others after [0] _ released candidate queue loose
      have tokens : (listed (text :: rest)).tokens ++ [Token.blockEnd, Token.streamEnd] =
          Token.blockSequenceStart :: Token.blockEntry :: Token.scalar .doubleQuoted text.toList ::
            (itemTokens (rest.map quoted) ++
              (List.replicate 2 Token.blockEnd ++ [Token.streamEnd])) := by
        simp [listed, Node.tokens, itemTokens, quoted, Scalar.isAbsent]
      rw [tokens]
      exact items

theorem yields_written (version grace fade : Nat) :
    Yields (inBlock .start (settingsText ending version grace fade texts) [] true 0 none [])
      ((written version grace fade texts).tokens ++ [Token.streamEnd]) := by
  have key (name : String) (present : name.toList ≠ []) (plain : name.toList.all isPlain = true) :
      PlainWord name.toList := ⟨present, List.all_eq_true.mp plain⟩
  have versionKey := key "version" nofun rfl
  have gateKey := key "gate" nofun rfl
  have graceKey := key "grace_ms" nofun rfl
  have fadeKey := key "fade_ms" nofun rfl
  have textsKey := key "entitlements" nofun rfl
  have spaced : atSpace (itemLines ending texts) = true := by
    cases texts with
    | nil => rcases ends with rfl | rfl <;> rfl
    | cons text rest => rfl
  rw [written_tokens]
  refine yields_line (begins_here .start _ (word_stands _ _ versionKey)) versionKey (by decide)
    (decimal_plain version) nofun (Nat.le_refl 0) (word_stands _ _ gateKey) fun line released => ?_
  refine yields_key (begins_here (.inLine line 0) _ (word_stands _ _ gateKey)) gateKey (by decide)
    rfl fun after released _ => ?_
  refine yields_line (begins_line after false 2 _ (word_stands _ _ graceKey)) graceKey (by decide)
    (decimal_plain grace) (inside_mono [0] 0 2 (inside_self 0 []) (by decide)) (Nat.le_refl 2)
    (word_stands _ _ fadeKey) fun line released => ?_
  refine yields_line (begins_here (.inLine line 2) _ (word_stands _ _ fadeKey)) fadeKey (by decide)
    (decimal_plain fade) (inside_self 2 [0]) (Nat.zero_le 2) (word_stands _ _ textsKey)
    fun line released => ?_
  refine yields_key (begins_here (.inLine line 0) _ (word_stands _ _ textsKey)) textsKey (by decide)
    spaced fun after released _ => ?_
  exact yields_listed ending ends texts quotable after released

/-- A text of written settings is read as their tree, and nothing follows it. -/
theorem document_of_lines (version grace fade : Nat) :
    (Document.ofText (writtenText version grace fade texts ending)).root =
        written version grace fade texts ∧
      (Document.ofText (writtenText version grace fade texts ending)).complete = true := by
  have read := readable_exact _
    (List.all_eq_true.mp (text_exact ending ends texts quotable version grace fade))
  have tokens : Token.ofText (settingsText ending version grace fade texts) =
      (written version grace fade texts).tokens ++ [Token.streamEnd] := by
    rw [Token.ofText, read]
    exact tokens_of_yields _ _ _
      (yields_written ending ends texts quotable version grace fade) (Nat.lt_succ_self _)
  rw [lines_joined, Document.ofText, tokens]
  exact Document.root_of_tokens _ (written_resolved version grace fade texts) nofun

end

end LicenseGate.Settings
