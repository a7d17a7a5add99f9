import Mathlib.Data.List.DropRight
import Parley.Assembly.Draft
import Parley.Proofs.Scanning

/-!
# Parley.Proofs.Patterns

Kinds of errors are dotted, as in `payment.declined`, and a handler has a list of patterns for them,
separated by commas. A pattern is tried as the beginning of a text. What it says is about segments:
it stands for the kinds that begin with all of its own.

* `Text.trimChars_eq_iff`: what is left of a text without the white space around it.
* `Text.splitOn_isPrefix_iff`: which divided texts begin with the parts of another.
* `Kind.Covers`: the kinds that a pattern stands for.
* `handler_accepts_by_segments`: the errors that a handler accepts.
-/

namespace Parley

namespace Text

variable {sep : Char} {text cs inner front back : List Char}

/-! ## Text between separators -/

theorem intercalate_append {parts others : List (List Char)} (begun : parts ≠ [])
    (more : others ≠ []) : [sep].intercalate (parts ++ others) =
      [sep].intercalate parts ++ sep :: [sep].intercalate others := by
  induction parts with
  | nil => exact absurd rfl begun
  | cons part parts ih =>
    rw [List.cons_append, List.intercalate_cons_of_ne_nil (by simp [more])]
    by_cases last : parts = []
    · simp [last]
    · simp [ih last, List.intercalate_cons_of_ne_nil last]

/-- The parts of a text are the first ones of another exactly if it is the other text, or all that
comes before one of the separators there. -/
theorem splitOn_isPrefix_iff :
    text.splitOn sep <+: cs.splitOn sep ↔ text = cs ∨ ∃ rest, text ++ sep :: rest = cs := by
  constructor
  · rintro ⟨others, whole⟩
    -- Joined again the parts are the texts, and other parts come behind a separator.
    have joined := congrArg [sep].intercalate whole
    rw [List.intercalate_splitOn] at joined
    by_cases more : others = []
    · rw [more, List.append_nil, List.intercalate_splitOn] at joined
      exact .inl joined
    · rw [intercalate_append (List.splitOn_ne_nil sep text) more,
        List.intercalate_splitOn] at joined
      exact .inr ⟨_, joined⟩
  · rintro (rfl | ⟨rest, rfl⟩)
    · exact List.prefix_rfl
    · rw [List.splitOn_append_cons_self]
      exact List.prefix_append _ _

/-! ## Text between white space -/

/-- A text stands in another with nothing but white space around it, and has none at its ends. -/
structure Trimmed (cs inner : List Char) : Prop where
  around : ∃ front back, Token.Gap front ∧ Token.Gap back ∧ cs = front ++ (inner ++ back)
  first : ∀ c ∈ inner.head?, isBlank c = false
  last : ∀ c ∈ inner.getLast?, isBlank c = false

theorem not_isBlank_of_head?_dropWhile {c : Char} (first : c ∈ (cs.dropWhile isBlank).head?) :
    isBlank c = false := by
  have stopped := List.head?_dropWhile_not isBlank cs
  rwa [Option.mem_def.mp first] at stopped

theorem trimmed_trimChars (cs : List Char) : Trimmed cs (trimChars cs) where
  around := eq_gap_trimChars_gap cs
  first c mem := by
    -- What is cut off at the end leaves the beginning where it is, if anything is left.
    obtain ⟨cut, whole⟩ : trimChars cs <+: cs.dropWhile isBlank := List.rdropWhile_prefix isBlank _
    have begins : c ∈ (cs.dropWhile isBlank).head? := by
      rw [← whole, List.head?_append, Option.mem_def.mp mem]
      rfl
    exact not_isBlank_of_head?_dropWhile begins
  last c mem := by
    rw [trimChars, List.getLast?_reverse] at mem
    exact not_isBlank_of_head?_dropWhile mem

theorem trimChars_gap_append (blank : Token.Gap front) :
    trimChars (front ++ cs) = trimChars cs := by
  rw [trimChars, trimChars, List.dropWhile_append_of_pos blank]

theorem trimChars_append_gap (blank : Token.Gap back) :
    trimChars (cs ++ back) = trimChars cs := by
  rw [trimChars, trimChars, List.dropWhile_append]
  split
  · next none => rw [List.isEmpty_iff.mp none, List.dropWhile_eq_nil_iff.mpr blank]
  · rw [List.reverse_append,
      List.dropWhile_append_of_pos fun c mem => blank c (List.mem_reverse.mp mem)]

theorem trimChars_eq_iff : trimChars cs = inner ↔ Trimmed cs inner := by
  constructor
  · rintro rfl
    exact trimmed_trimChars cs
  · rintro ⟨⟨front, back, blankFront, blankBack, rfl⟩, first, last⟩
    rw [trimChars_gap_append blankFront, trimChars_append_gap blankBack,
      trimChars_eq_self first last]

end Text

/-! ## Kinds and patterns -/

namespace Kind

/-- What stands between the dots of a kind. -/
def segments (kind : String) : List (List Char) := kind.toList.splitOn '.'

/-- A pattern stands for the kinds that begin with its segments, and a star for all kinds. -/
def Covers (pattern kind : String) : Prop := pattern = "*" ∨ segments pattern <+: segments kind

/-- The pattern is in a list of patterns: it is what stands between two commas, without the white
space around it, and is not empty. -/
structure Listed (patterns pattern : String) : Prop where
  part : ∃ part ∈ patterns.toList.splitOn ',', Text.Trimmed part pattern.toList
  ne_empty : pattern ≠ ""

variable {patterns pattern kind lower : String}

theorem segments_isPrefix_iff : segments pattern <+: segments kind ↔
    pattern = kind ∨ ∃ rest, pattern.toList ++ '.' :: rest = kind.toList := by
  rw [segments, segments, Text.splitOn_isPrefix_iff, String.toList_inj]

/-- The test on the texts is that on their segments. -/
theorem kindMatches_iff : kindMatches pattern kind = true ↔ Covers pattern kind := by
  rw [kindMatches, Bool.or_eq_true, Bool.or_eq_true, decide_eq_true_eq, decide_eq_true_eq, or_assoc,
    Covers, segments_isPrefix_iff]
  refine or_congr_right (or_congr_right ?_)
  simp only [← Text.dropBeginning_eq_some_iff]
  split
  · next rest dropped => simp [dropped]
  · next other => simpa using other

/-- Only the star itself has segments with which the star begins. -/
theorem eq_star_of_segments_isPrefix (h : segments pattern <+: segments "*") : pattern = "*" := by
  rcases segments_isPrefix_iff.mp h with same | ⟨rest, longer⟩
  · exact same
  · have dot : '.' ∈ "*".toList := by simp [← longer]
    exact absurd dot (by decide)

theorem Covers.trans (upper : Covers pattern kind) (below : Covers kind lower) :
    Covers pattern lower := by
  rcases upper with star | upper
  · exact .inl star
  rcases below with rfl | below
  · exact .inl (eq_star_of_segments_isPrefix upper)
  · exact .inr (upper.trans below)

theorem mem_iff_listed :
    pattern ∈ ((Text.split ',' patterns).map Text.trim).filter (· ≠ "") ↔
      Listed patterns pattern := by
  have trimmed (part : List Char) :
      Text.trim (String.ofList part) = pattern ↔ Text.Trimmed part pattern.toList := by
    rw [← Text.trimChars_eq_iff, Text.trim, String.toList_ofList, ← String.toList_inj,
      String.toList_ofList]
  simp only [List.mem_filter, Text.split, List.map_map, List.mem_map, Text.splitChars_eq_splitOn,
    Function.comp_apply, trimmed, decide_eq_true_eq]
  exact ⟨fun ⟨part, full⟩ => ⟨part, full⟩, fun ⟨part, full⟩ => ⟨part, full⟩⟩

end Kind

/-! ## Handlers -/

open Kind

/-- The star needs a kind to stand for, and every error has one. -/
theorem ExecutionError.covers_kind_iff {pattern : String} {e : ExecutionError} :
    (∃ kind ∈ e.kinds, Covers pattern kind) ↔
      pattern = "*" ∨ ∃ kind ∈ e.kinds, segments pattern <+: segments kind := by
  constructor
  · rintro ⟨kind, mem, star | begins⟩
    · exact .inl star
    · exact .inr ⟨kind, mem, begins⟩
  · rintro (star | ⟨kind, mem, begins⟩)
    · exact ⟨"flow_execution", by simp [ExecutionError.kinds], .inl star⟩
    · exact ⟨kind, mem, .inr begins⟩

theorem Handler.transition_accepts_iff {patterns : List String} {state : String}
    {e : ExecutionError} : (transition patterns state).accepts e = true ↔
      ∃ pattern ∈ patterns, ∃ kind ∈ e.kinds, Covers pattern kind := by
  simp only [transition, List.any_eq_true, kindMatches_iff]

theorem Draft.handler_accepts_iff {patterns destination : String} {e : ExecutionError} :
    (handler patterns destination).accepts e = true ↔
      ∃ pattern, Listed patterns pattern ∧ ∃ kind ∈ e.kinds, Covers pattern kind := by
  simp only [handler, Handler.transition_accepts_iff, mem_iff_listed]

/-- **Handlers choose errors by the segments of their kinds.** The handler for a list of patterns
accepts an error exactly if one of the patterns is a star or has the first segments of a kind of the
error. So it accepts all that another handler does whose patterns lie below its own. -/
theorem handler_accepts_by_segments (patterns destination : String) (e : ExecutionError) :
    ((Draft.handler patterns destination).accepts e = true ↔
      ∃ pattern, Listed patterns pattern ∧
        (pattern = "*" ∨ ∃ kind ∈ e.kinds, segments pattern <+: segments kind)) ∧
    ∀ others elsewhere : String,
      (∀ lower, Listed others lower → ∃ pattern, Listed patterns pattern ∧ Covers pattern lower) →
      (Draft.handler others elsewhere).accepts e = true →
        (Draft.handler patterns destination).accepts e = true := by
  constructor
  · rw [Draft.handler_accepts_iff]
    simp only [ExecutionError.covers_kind_iff]
  · intro others elsewhere below accepted
    obtain ⟨lower, listed, kind, mem, covers⟩ := Draft.handler_accepts_iff.mp accepted
    obtain ⟨pattern, above, upper⟩ := below lower listed
    exact Draft.handler_accepts_iff.mpr ⟨pattern, above, kind, mem, upper.trans covers⟩

/-- An action that failed for want of money. -/
def declined : ExecutionError :=
  .actionExecution "checkout" (some "pay") ⟨"payment.declined", "no funds"⟩

/-- A handler for payments takes what one for declined payments takes, and one for the first half of
the segment does not. -/
theorem payment_handler_accepts_declined :
    (Draft.handler " shipping ,payment,, " "retry").accepts declined = true ∧
      (Draft.handler "pay" "retry").accepts declined = false := by
  have below (lower : String) (listed : Listed "payment.declined" lower) :
      ∃ pattern, Listed " shipping ,payment,, " pattern ∧ Covers pattern lower := by
    have only : ((Text.split ',' "payment.declined").map Text.trim).filter (· ≠ "") =
        ["payment.declined"] := by decide +kernel
    have same := mem_iff_listed.mpr listed
    rw [only, List.mem_singleton] at same
    exact ⟨"payment", mem_iff_listed.mp (by decide +kernel),
      kindMatches_iff.mp (same ▸ by decide +kernel)⟩
  obtain ⟨-, taken⟩ := handler_accepts_by_segments " shipping ,payment,, " "retry" declined
  exact ⟨taken "payment.declined" "apologize" below (by decide +kernel), by decide +kernel⟩

end Parley
