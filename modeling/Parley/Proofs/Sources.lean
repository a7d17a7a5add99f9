import Parley.Proofs.Grammar
import Parley.Proofs.Spelling

/-!
# Parley.Proofs.Sources

The texts that write a tree down, and that the tree comes back from each of them. Operands of
operators are in parentheses unless they are atoms; a string is in either quote, an operator is
written in any of its ways, and white space stands wherever anyone likes, and where two texts would
be read together it has to.

* `Node.Source`: the texts of a tree. `Node.write` is one of them.
* `Token.Scans`: a text read for its tokens, given whether an operand is expected before it.
* `source_reads_back`: every source of a tree is read as that tree.
-/

namespace Parley

namespace Token

/-- Two texts in a row, with white space between them where they would be read together. -/
inductive Spaced (left right : List Char) : List Char → Prop where
  | of (gap : List Char) (blank : Gap gap) (apart : Apart left (gap ++ right)) :
    Spaced left right (left ++ (gap ++ right))

theorem Spaced.space {left right : List Char} : Spaced left right (left ++ ' ' :: right) :=
  .of [' '] (by simp [Gap, Text.isBlank]) fun _ _ _ next => by
    obtain rfl := Option.some.inj next
    exact sticks_blank rfl

theorem Spaced.tight {left right cs : List Char} (whole : left ++ right = cs)
    (apart : Apart left right) : Spaced left right cs := whole ▸ .of [] nofun apart

def inParentheses (cs : List Char) : List Char := '(' :: cs ++ [')']

theorem Apart.opening {ds : List Char} : Apart ['('] ds := by
  intro c last d next
  obtain rfl := Option.some.inj last
  have pair : pair? '(' d = none := pair?_of_not_first (by decide)
  have word : continuesWord '(' = false := by decide
  simp [sticks, pair, word]

theorem Apart.closing {cs : List Char} : Apart cs [')'] := by
  intro c last d next
  obtain rfl := Option.some.inj next
  exact not_sticks (by decide) (by decide)

/-- The text has these tokens where an operand is expected, or is not, before it and after it. -/
def Scans (before after : Bool) (cs : List Char) (ts : List Token) : Prop :=
  ∀ previous, expectsOperand previous = before →
    lex previous cs = .ok ts ∧ expectsOperand (ts.getLast?.or previous) = after

variable {a b c : Bool} {cs ds es : List Char} {ts us : List Token}

theorem Scans.append (first : Scans a b cs ts) (second : Scans b c ds us) (apart : Apart cs ds) :
    Scans a c (cs ++ ds) (ts ++ us) := by
  intro previous before
  obtain ⟨lexed, between⟩ := first previous before
  obtain ⟨lexed', after⟩ := second _ between
  rw [lex_append apart (by rw [lexed]; nofun), lexed]
  simp only [Except.bind, lexed', Except.map, List.getLast?_append, Option.or_assoc]
  exact ⟨trivial, after⟩

theorem Scans.spaced (first : Scans a b cs ts) (second : Scans b c ds us)
    (spaced : Spaced cs ds es) : Scans a c es (ts ++ us) := by
  obtain ⟨gap, blank, apart⟩ := spaced
  have between : Scans b b gap [] := fun _ expected => ⟨lex_gap blank, expected⟩
  exact first.append (between.append second blank.apart_left) apart

/-- A text that is one token wherever it stands. -/
theorem Scans.single {t : Token} (lexed : ∀ previous, lex previous cs = .ok [t])
    (after : expectsOperand (some t) = b) : Scans a b cs [t] := fun previous _ =>
  ⟨lexed previous, after⟩

theorem Scans.sign {t : Token} {sign : String} (mem : sign ∈ t.signs)
    (after : expectsOperand (some t) = b) : Scans a b sign.toList [t] :=
  .single (fun _ => lex_sign mem) after

/-- A sign between two operands. -/
theorem Scans.binary {t : Token} {sign : String} {begun : List Char} (left : Scans a false cs ts)
    (mem : sign ∈ t.signs) (operator : expectsOperand (some t) = true)
    (right : Scans true false ds us) (first : Spaced cs sign.toList begun)
    (second : Spaced begun ds es) : Scans a false es (ts ++ t :: us) := by
  have whole := (left.spaced (Scans.sign mem operator) first).spaced right second
  rwa [List.append_assoc] at whole

end Token

open Token

namespace Node

/-- The tree is of what can be written: paths of plain names, integers of 64 bits, texts, truth
values and nothing, under operators. -/
def Printable : Node → Prop
  | literal .null | literal (.bool _) | literal (.text _) => True
  | literal (.number (.int i)) => Number.Fits64 i
  | literal (.number (.float _)) | literal (.list _) | literal (.object _) => False
  | path segments => Path.Plain segments
  | not inner => inner.Printable
  | and left right | or left right | compare _ left right => left.Printable ∧ right.Printable

mutual

/-- The texts of a tree that stand beside an operator: atoms, and any text in parentheses. -/
inductive Operand : Node → List Char → Prop where
  | path {segments : Path} : Path.Plain segments →
    Operand (.path segments) (Path.text segments).toList
  | integer {i : Int} : Number.Fits64 i →
    Operand (.literal (.number (.int i))) (toString i).toList
  | text {quote : Char} (s : String) : quote = '\'' ∨ quote = '"' →
    Operand (.literal (.text s)) (inQuotes quote s)
  | yes : Operand (.literal (.bool true)) "true".toList
  | no : Operand (.literal (.bool false)) "false".toList
  | null : Operand (.literal .null) "null".toList
  | group {n : Node} {inner opened cs : List Char} : Source n inner →
    Spaced "(".toList inner opened → Spaced opened ")".toList cs → Operand n cs

inductive Source : Node → List Char → Prop where
  | operand {n : Node} {cs : List Char} : Operand n cs → Source n cs
  | not {n : Node} {sign : String} {inner cs : List Char} : sign ∈ notWord.signs →
    Operand n inner → Spaced sign.toList inner cs → Source (.not n) cs
  | and {m n : Node} {sign : String} {left right begun cs : List Char} : Operand m left →
    sign ∈ andWord.signs → Operand n right → Spaced left sign.toList begun →
    Spaced begun right cs → Source (.and m n) cs
  | or {m n : Node} {sign : String} {left right begun cs : List Char} : Operand m left →
    sign ∈ orWord.signs → Operand n right → Spaced left sign.toList begun →
    Spaced begun right cs → Source (.or m n) cs
  | compare {m n : Node} {op : Comparison} {left right begun cs : List Char} : Operand m left →
    Operand n right → Spaced left op.symbol.toList begun →
    Spaced begun right cs → Source (.compare op m n) cs

end

/-- A tree as a text, every operand in parentheses. -/
def write : Node → List Char
  | literal (.bool true) => "true".toList
  | literal (.bool false) => "false".toList
  | literal (.number n) => n.text.toList
  | literal (.text s) => inQuotes '\'' s
  | literal _ => "null".toList
  | path segments => (Path.text segments).toList
  | not inner => "not".toList ++ ' ' :: inParentheses inner.write
  | and left right =>
    inParentheses left.write ++ ' ' :: "and".toList ++ ' ' :: inParentheses right.write
  | or left right =>
    inParentheses left.write ++ ' ' :: "or".toList ++ ' ' :: inParentheses right.write
  | compare op left right =>
    inParentheses left.write ++ ' ' :: op.symbol.toList ++ ' ' :: inParentheses right.write

variable {n : Node} {cs : List Char}

theorem Source.inParentheses (source : n.Source cs) : n.Operand (inParentheses cs) :=
  .group source (.of [] nofun .opening) (.of [] nofun .closing)

theorem source_write (printable : n.Printable) : n.Source n.write := by
  induction n with
  | literal value =>
    cases value with
    | null => exact .operand .null
    | bool b =>
      cases b with
      | true => exact .operand .yes
      | false => exact .operand .no
    | number i =>
      cases i with
      | int i => exact .operand (.integer printable)
      | float x => exact printable.elim
    | text s => exact .operand (.text s (.inl rfl))
    | list items => exact printable.elim
    | object fields => exact printable.elim
  | path segments => exact .operand (.path printable)
  | not inner ih => exact .not (by decide) (ih printable).inParentheses .space
  | and left right ihl ihr =>
    exact .and (ihl printable.1).inParentheses (by decide) (ihr printable.2).inParentheses
      .space .space
  | or left right ihl ihr =>
    exact .or (ihl printable.1).inParentheses (by decide) (ihr printable.2).inParentheses
      .space .space
  | compare op left right ihl ihr =>
    exact .compare (ihl printable.1).inParentheses (ihr printable.2).inParentheses .space .space

end Node

/-! ## Phrases of sources -/

def PrimaryPhrase.whole (p : PrimaryPhrase) : OrPhrase := .of (.of (.plain (.single p)) []) []

@[simp] theorem PrimaryPhrase.node_whole (p : PrimaryPhrase) : p.whole.node = p.node := rfl

@[simp] theorem PrimaryPhrase.tokens_whole (p : PrimaryPhrase) : p.whole.tokens = p.tokens := by
  simp [whole]

mutual

theorem Node.Operand.phrase : ∀ {n : Node} {cs : List Char}, n.Operand cs →
    ∃ p : PrimaryPhrase, p.node = n ∧ Scans true false cs p.tokens
  | _, _, .path plain => by
    refine ⟨.path (Path.text _), ?_, .single (Path.lex_text plain) rfl⟩
    rw [PrimaryPhrase.node, Path.ofString_text plain]
  | _, _, .integer fits =>
    ⟨.number (.int _), rfl, fun _ expected => ⟨lex_toString fits expected, rfl⟩⟩
  | _, _, .text s kind => ⟨.text s, rfl, .single (fun _ => lex_inQuotes kind s) rfl⟩
  | _, _, .yes => ⟨.trueWord, rfl, .sign (by decide) rfl⟩
  | _, _, .no => ⟨.falseWord, rfl, .sign (by decide) rfl⟩
  | _, _, .null => ⟨.nullWord, rfl, .sign (by decide) rfl⟩
  | _, _, .group source opened closed => by
    obtain ⟨p, rfl, scans⟩ := source.phrase
    have begun := (Scans.sign (a := true) (t := .opening) (by decide) rfl).spaced scans opened
    exact ⟨.group p, rfl, begun.spaced (Scans.sign (t := .closing) (by decide) rfl) closed⟩

theorem Node.Source.phrase : ∀ {n : Node} {cs : List Char}, n.Source cs →
    ∃ p : OrPhrase, p.node = n ∧ Scans true false cs p.tokens
  | _, _, .operand operand => by
    obtain ⟨p, rfl, scans⟩ := operand.phrase
    exact ⟨p.whole, p.node_whole, by rwa [p.tokens_whole]⟩
  | _, _, .not mem inner spaced => by
    obtain ⟨p, rfl, scans⟩ := inner.phrase
    refine ⟨.of (.of (.not (.plain (.single p))) []) [], rfl, ?_⟩
    have whole := (Scans.sign (a := true) mem rfl).spaced scans spaced
    simpa using whole
  | _, _, .and left mem right first second => by
    obtain ⟨p, rfl, before⟩ := left.phrase
    obtain ⟨q, rfl, after⟩ := right.phrase
    refine ⟨.of (.of (.plain (.single p)) [.plain (.single q)]) [], rfl, ?_⟩
    simpa using before.binary mem rfl after first second
  | _, _, .or left mem right first second => by
    obtain ⟨p, rfl, before⟩ := left.phrase
    obtain ⟨q, rfl, after⟩ := right.phrase
    refine ⟨.of (.of (.plain (.single p)) []) [.of (.plain (.single q)) []], rfl, ?_⟩
    simpa using before.binary mem rfl after first second
  | .compare op _ _, _, .compare left right first second => by
    obtain ⟨p, rfl, before⟩ := left.phrase
    obtain ⟨q, rfl, after⟩ := right.phrase
    refine ⟨.of (.of (.plain (.pair p op q)) []) [], rfl, ?_⟩
    have mem : op.symbol ∈ (comparison op).signs := List.mem_singleton_self _
    simpa using before.binary mem rfl after first second

end

/-- **Every source of a tree is read as that tree.** -/
theorem source_reads_back (n : Node) (printable : n.Printable) :
    n.Source n.write ∧ ∀ cs, n.Source cs → Node.ofChars cs = .ok n := by
  refine ⟨n.source_write printable, fun cs source => ?_⟩
  obtain ⟨p, rfl, scans⟩ := source.phrase
  have lexed : tokens cs = .ok p.tokens := (scans none rfl).1
  have some : p.tokens ≠ [] := List.ne_nil_of_length_pos p.length_tokens_pos
  exact Node.ofChars_eq_ok_iff.mpr ⟨_, lexed, some, Node.ofTokens_tokens p⟩

theorem tight_source_reads_back :
    Node.ofString "not((and_1.0>=-5)&&\"it's \\\" \")" = .ok (.not (.and
      (.compare .greaterOrEqual (.path ["and_1", "0"]) (.literal (.number (.int (-5)))))
      (.literal (.text "it's \" ")))) := by
  have plain : Path.Plain ["and_1", "0"] :=
    ⟨⟨"and_1", ["0"], 'a', _, rfl, rfl, .inl rfl⟩, by simp; decide, by decide⟩
  have fits : Number.Fits64 (-5) := by decide
  have comparison : Node.Source (.compare .greaterOrEqual _ _) "and_1.0>=-5".toList :=
    .compare (.path plain) (.integer fits) (.tight rfl (by decide)) (.tight rfl (by decide))
  have compared : Node.Operand _ "(and_1.0>=-5)".toList := comparison.inParentheses
  have quoted : Node.Operand _ "\"it's \\\" \"".toList := .text "it's \" " (.inr rfl)
  have both : Node.Source _ "(and_1.0>=-5)&&\"it's \\\" \"".toList :=
    .and compared (show "&&" ∈ andWord.signs by decide) quoted (.tight rfl (by decide))
      (.tight rfl (by decide))
  have source : Node.Source _ "not((and_1.0>=-5)&&\"it's \\\" \")".toList :=
    .not (show "not" ∈ notWord.signs by decide) both.inParentheses (.tight rfl (by decide))
  exact (source_reads_back _ (by exact ⟨⟨plain, fits⟩, trivial⟩)).2 _ source

end Parley
