import Mathlib.Data.List.TakeWhile
import Parley.Proofs.Scanning
import Parley.Value.Path

/-!
# Parley.Proofs.Spelling

How single tokens are written, and that each spelling is read as its token alone: the signs and
words of operators, paths, integers, and texts in either quote.
-/

namespace Parley

/-! ## Integers -/

namespace Number

/-- The digits of an integer, after a minus if it is negative. -/
theorem toList_toString (i : Int) :
    (toString i).toList =
      if i < 0 then '-' :: Nat.toDigits 10 i.natAbs else Nat.toDigits 10 i.natAbs := by
  cases i with
  | ofNat n =>
    have digits : (toString (Int.ofNat n)).toList = (Nat.repr n).toList := rfl
    rw [digits, Nat.repr_eq_ofList_toDigits, String.toList_ofList, if_neg (by simp)]
    rfl
  | negSucc n =>
    have digits : (toString (Int.negSucc n)).toList = ("-" ++ Nat.repr (n + 1)).toList := rfl
    rw [digits, Nat.repr_eq_ofList_toDigits, String.toList_append, if_pos (Int.negSucc_lt_zero n),
      String.toList_ofList, String.toList_ofList]
    rfl

theorem isDigit_of_mem {n : Nat} {c : Char} (mem : c ∈ Nat.toDigits 10 n) : c.isDigit = true :=
  Nat.isDigit_of_mem_toDigits (by decide) (by decide) mem

theorem areDigits_toDigits (n : Nat) : areDigits (Nat.toDigits 10 n) = true := by
  simp only [areDigits, Bool.and_eq_true, Bool.not_eq_true', List.isEmpty_eq_false_iff,
    List.all_eq_true]
  exact ⟨Nat.toDigits_ne_nil, fun _ => isDigit_of_mem⟩

theorem takeSign_toDigits (n : Nat) :
    takeSign (Nat.toDigits 10 n) = (false, Nat.toDigits 10 n) := by
  have digits : ∀ c ∈ Nat.toDigits 10 n, c.isDigit = true := fun _ => isDigit_of_mem
  rw [takeSign]
  · rintro cs same
    exact absurd (digits '-' (by simp [same])) (by decide)
  · rintro cs same
    exact absurd (digits '+' (by simp [same])) (by decide)

theorem readInt_toString {i : Int} (fits : Fits64 i) : readInt (toString i).toList = some i := by
  have value : ofDigits (Nat.toDigits 10 i.natAbs) = i.natAbs := Nat.ofDigitChars_ten_toDigits
  rw [toList_toString]
  split
  · rename_i negative
    have whole : -(i.natAbs : Int) = i := by omega
    simp only [readInt, takeSign, areDigits_toDigits, value, whole, if_true, if_pos fits]
  · rename_i positive
    have whole : (i.natAbs : Int) = i := by omega
    simp [readInt, takeSign_toDigits, areDigits_toDigits, value, whole, fits]

end Number

namespace Token

variable {previous : Option Token} {c : Char} {cs : List Char}

/-! ## Signs and words -/

/-- The ways to write a token that is no operand of its own text. -/
def signs : Token → List String
  | comparison op => [op.symbol]
  | andWord => ["and", "&&"]
  | orWord => ["or", "||"]
  | notWord => ["not", "!"]
  | trueWord => ["true"]
  | falseWord => ["false"]
  | nullWord => ["null"]
  | opening => ["("]
  | closing => [")"]
  | path _ | number _ | text _ => []

theorem lex_sign {t : Token} {sign : String} (mem : sign ∈ t.signs) :
    lex previous sign.toList = .ok [t] := by
  cases t with
  | comparison op =>
    obtain rfl := List.mem_singleton.mp mem
    cases op <;> rfl
  | path | number | text => cases mem
  | andWord | orWord | notWord =>
    simp only [signs, List.mem_cons, List.not_mem_nil, or_false] at mem
    rcases mem with rfl | rfl <;> rfl
  | trueWord | falseWord | nullWord | opening | closing =>
    obtain rfl := List.mem_singleton.mp mem
    rfl

/-- The characters that begin a string or a sign. -/
def marks : List Char := ['\'', '"', '(', ')', '=', '!', '>', '<', '&', '|']

theorem visible_of_continuesWord (word : continuesWord c = true) : Text.isBlank c = false := by
  cases blank : Text.isBlank c with
  | false => rfl
  | true => simp [not_continuesWord_of_isBlank blank] at word

theorem scan_eq_scanLong (long : continuesWord c = true ∨ c = '-') :
    scan previous c cs = scanLong previous c cs := by
  have visible : Text.isBlank c = false := by
    rcases long with word | rfl
    · exact visible_of_continuesWord word
    · rfl
  have plain : c ∉ marks := by
    have none : marks.all (fun d => !continuesWord d) = true := by decide
    rcases long with word | rfl
    · intro mem
      have no := List.all_eq_true.mp none c mem
      simp [word] at no
    · decide
  simp only [marks, List.mem_cons, List.not_mem_nil, or_false, not_or] at plain
  have unquoted : ¬(c = '\'' ∨ c = '"') := by simp [plain]
  have single : single? c = none := by
    unfold single?
    split <;> simp_all
  have pair (d : Char) : pair? c d = none := by
    unfold pair?
    split <;> simp_all
  have noPair : cs.head?.bind (pair? c) = none := by
    cases cs with
    | nil => rfl
    | cons d cs => exact pair d
  rw [scan, if_neg (by simp [visible]), if_neg unquoted, noPair, single]

/-- The words that are no paths. -/
def keywords : List String := ["and", "or", "not", "true", "false", "null", "contains"]

theorem ofWord_of_not_keyword {word : String} (other : word ∉ keywords) :
    ofWord word.toList = path word := by
  have ne {chars : List Char} (mem : String.ofList chars ∈ keywords) : word.toList ≠ chars := by
    rintro rfl
    exact other (by rwa [String.ofList_toList] at mem)
  rw [ofWord, if_neg (ne (by decide)), if_neg (ne (by decide)), if_neg (ne (by decide)),
    if_neg (ne (by decide)), if_neg (ne (by decide)), if_neg (ne (by decide)),
    if_neg (ne (by decide)), String.ofList_toList]

theorem not_isDigit_of_startsWord (starts : startsWord c = true) : c.isDigit = false := by
  have early : ∀ n < 58, startsWord (Char.ofNat n) = false := by decide
  cases digit : c.isDigit with
  | false => rfl
  | true =>
    have last : c.toNat ≤ 57 := (Char.isDigit_iff_toNat.mp digit).2
    have no := early c.toNat (by omega)
    rw [Char.ofNat_toNat, starts] at no
    cases no

theorem lex_word (starts : startsWord c = true) (all : ∀ d ∈ cs, continuesWord d = true) :
    lex previous (c :: cs) = .ok [ofWord (c :: cs)] := by
  have word := continuesWord_of_startsWord starts
  have minus : c ≠ '-' := by
    rintro rfl
    exact absurd starts (by decide)
  have took : cs.takeWhile continuesWord = cs := List.takeWhile_eq_self_iff.mpr all
  have left : cs.dropWhile continuesWord = [] := List.dropWhile_eq_nil_iff.mpr all
  rw [lex_cons, scan_eq_scanLong (.inl word), scanLong]
  simp [not_isDigit_of_startsWord starts, minus, starts, took, left, Except.bind, Except.map]

end Token

/-! ## Paths -/

namespace Path

/-- At least one name, each of letters, digits and underscores, the first one not beginning with a
digit; and no word of the language. -/
structure Plain (segments : Path) : Prop where
  begins : ∃ name names c cs, segments = name :: names ∧ name.toList = c :: cs ∧
    (Text.isAlphabetic c = true ∨ c = '_')
  named : ∀ name ∈ segments, name ≠ "" ∧
    ∀ c ∈ name.toList, Text.isAlphanumeric c = true ∨ c = '_'
  free : text segments ∉ Token.keywords

variable {name : String} {names : List String} {c : Char}

theorem toList_text_cons : (text (name :: names)).toList =
    name.toList ++ names.flatMap fun next => '.' :: next.toList := by
  induction names generalizing name with
  | nil => simp [text, Text.join]
  | cons next names ih =>
    have joined : text (name :: next :: names) = name ++ "." ++ text (next :: names) := rfl
    simp [joined, ih]

theorem continuesWord_of_named (h : Text.isAlphanumeric c = true ∨ c = '_') :
    Token.continuesWord c = true := by
  rcases h with h | h <;> simp [Token.continuesWord, h]

theorem split_text (free : ∀ next ∈ name :: names, '.' ∉ next.toList) :
    Text.split '.' (text (name :: names)) = name :: names := by
  rw [Text.split, toList_text_cons]
  induction names generalizing name with
  | nil =>
    rw [List.flatMap_nil, List.append_nil, Text.splitChars_of_not_mem (free name (by simp)),
      List.map_singleton, String.ofList_toList]
  | cons next names ih =>
    rw [List.flatMap_cons, List.cons_append, Text.splitChars_append (free name (by simp)),
      List.map_cons, ih fun n mem => free n (List.mem_cons_of_mem _ mem), String.ofList_toList]

theorem ofString_text {segments : Path} (plain : Plain segments) :
    ofString (text segments) = segments := by
  obtain ⟨name, names, _, _, rfl, _, _⟩ := plain.begins
  have parts : Text.split '.' (text (name :: names)) = name :: names := by
    apply split_text
    intro next mem point
    exact absurd ((plain.named next mem).2 '.' point) (by decide)
  have visible (next : String) (mem : next ∈ name :: names) : Text.trim next = next := by
    have each : ∀ c ∈ next.toList, Text.isBlank c = false := fun c inName =>
      Token.visible_of_continuesWord (continuesWord_of_named ((plain.named next mem).2 c inName))
    have same : Text.trimChars next.toList = next.toList := Text.trimChars_eq_self
      (fun c first => each c (List.mem_of_mem_head? first))
      fun c last => each c (List.mem_of_mem_getLast? last)
    rw [Text.trim, same, String.ofList_toList]
  have trimmed : (name :: names).map Text.trim = name :: names := by
    rw [List.map_congr_left visible, List.map_id']
  rw [ofString, parts, trimmed, List.filter_eq_self]
  intro next mem
  simpa using (plain.named next mem).1

theorem lex_text {segments : Path} (plain : Plain segments) (previous : Option Token) :
    Token.lex previous (text segments).toList = .ok [.path (text segments)] := by
  obtain ⟨name, names, c, cs, rfl, first, starts⟩ := plain.begins
  have rest : ∀ d ∈ cs ++ names.flatMap (fun next => '.' :: next.toList),
      Token.continuesWord d = true := by
    intro d mem
    rcases List.mem_append.mp mem with mem | mem
    · exact continuesWord_of_named ((plain.named name (by simp)).2 d (by simp [first, mem]))
    · obtain ⟨next, inNames, mem⟩ := List.mem_flatMap.mp mem
      rcases List.mem_cons.mp mem with rfl | mem
      · rfl
      · exact continuesWord_of_named
          ((plain.named next (List.mem_cons_of_mem _ inNames)).2 d mem)
  have word : (text (name :: names)).toList =
      c :: (cs ++ names.flatMap fun next => '.' :: next.toList) := by
    rw [toList_text_cons, first, List.cons_append]
  rw [word, Token.lex_word (by simpa [Token.startsWord] using starts) rest, ← word,
    Token.ofWord_of_not_keyword plain.free]

end Path

namespace Token

/-! ## Numbers -/

variable {previous : Option Token} {c : Char} {cs : List Char}

theorem readNumber_toString {i : Int} (fits : Number.Fits64 i) :
    readNumber (toString i).toList = some (.int i) := by
  have whole : (toString i).toList.contains '.' = false := by
    have noPoint : '.' ∉ Nat.toDigits 10 i.natAbs := fun mem =>
      absurd (Number.isDigit_of_mem mem) (by decide)
    rw [Number.toList_toString]
    split <;> simp [noPoint]
  rw [readNumber, whole, if_neg (by simp), Number.readInt_toString fits]

theorem lex_digits {n : Number} (digits : ∀ d ∈ cs, d.isDigit = true)
    (read : readNumber (c :: cs) = some n)
    (begins : c.isDigit = true ∨ c = '-' ∧ cs ≠ [] ∧ expectsOperand previous = true) :
    lex previous (c :: cs) = .ok [number n] := by
  have all : ∀ d ∈ cs, continuesNumber d = true := fun d mem => by
    simp [continuesNumber, digits d mem]
  have took : cs.takeWhile continuesNumber = cs := List.takeWhile_eq_self_iff.mpr all
  have left : cs.dropWhile continuesNumber = [] := List.dropWhile_eq_nil_iff.mpr all
  have long : continuesWord c = true ∨ c = '-' :=
    begins.imp (fun digit => continuesWord_of_continuesNumber (by simp [continuesNumber, digit]))
      fun minus => minus.1
  have number : (c.isDigit || (c = '-' && (cs.head?.map Char.isDigit).getD false &&
      expectsOperand previous)) = true := by
    rcases begins with digit | ⟨rfl, more, operand⟩
    · simp [digit]
    · obtain ⟨d, ds, rfl⟩ := List.exists_cons_of_ne_nil more
      simp [digits, operand]
  rw [lex_cons, scan_eq_scanLong long, scanLong]
  simp only [number, if_true, took, left, read]
  rfl

theorem lex_toString {i : Int} (fits : Number.Fits64 i)
    (operand : expectsOperand previous = true) :
    lex previous (toString i).toList = .ok [number (.int i)] := by
  have read := readNumber_toString fits
  have digits : ∀ d ∈ Nat.toDigits 10 i.natAbs, d.isDigit = true := fun _ => Number.isDigit_of_mem
  rw [Number.toList_toString] at read ⊢
  split at read
  · rename_i negative
    rw [if_pos negative]
    exact lex_digits digits read (.inr ⟨rfl, Nat.toDigits_ne_nil, operand⟩)
  · rename_i positive
    rw [if_neg positive]
    obtain ⟨d, ds, spelled⟩ : ∃ d ds, Nat.toDigits 10 i.natAbs = d :: ds :=
      List.exists_cons_of_ne_nil Nat.toDigits_ne_nil
    rw [spelled] at digits read ⊢
    exact lex_digits (fun e mem => digits e (List.mem_cons_of_mem _ mem)) read
      (.inl (digits d List.mem_cons_self))

/-! ## Strings -/

/-- The text between quotes of a kind, with a backslash before these and before backslashes. -/
def inQuotes (quote : Char) (s : String) : List Char :=
  quote :: s.toList.flatMap (fun c => if c = quote ∨ c = '\\' then ['\\', c] else [c]) ++ [quote]

theorem readString_escaped {quote : Char} (other : quote ≠ '\\') (cs rest : List Char) :
    readString quote
      (cs.flatMap (fun c => if c = quote ∨ c = '\\' then ['\\', c] else [c]) ++ quote :: rest) =
      some (cs, rest) := by
  induction cs with
  | nil => rw [List.flatMap_nil, List.nil_append, readString_cons other, if_pos rfl]
  | cons c cs ih =>
    rw [List.flatMap_cons, List.append_assoc]
    split
    · simp [readString, ih]
    · rename_i plain
      rw [not_or] at plain
      simp [readString_cons plain.2, plain.1, ih]

theorem lex_inQuotes {quote : Char} (kind : quote = '\'' ∨ quote = '"') (s : String) :
    lex previous (inQuotes quote s) = .ok [text s] := by
  have visible : Text.isBlank quote = false := by rcases kind with rfl | rfl <;> decide
  have other : quote ≠ '\\' := by rcases kind with rfl | rfl <;> decide
  rw [inQuotes, List.cons_append, lex_cons, scan, if_neg (by simp [visible]), if_pos kind,
    readString_escaped other]
  simp [Except.bind, Except.map]

end Token

end Parley
