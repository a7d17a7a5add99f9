import Parley.Expression.Token

/-!
# Parley.Proofs.Scanning

Texts are read piece by piece: the tokens of two texts in a row are those of the first and then
those of the second, unless the two are read together where they meet. White space never is.
-/

namespace Parley

namespace Token

/-- The tokens of a text that follows the token `previous`. -/
def lex (previous : Option Token) (cs : List Char) : Except Fault (List Token) :=
  scanAll cs.length previous cs

theorem tokens_eq_lex (cs : List Char) : tokens cs = lex none cs := rfl

/-! ## What one token leaves -/

theorem readString_suffix {quote : Char} {cs rest value : List Char}
    (h : readString quote cs = some (value, rest)) : rest <:+ cs := by
  fun_induction readString quote cs generalizing value rest with
  | case1 => cases h
  | case2 => cases h
  | case3 c cs ih =>
    obtain ⟨⟨v, r⟩, read, same⟩ := Option.map_eq_some_iff.mp h
    cases same
    exact (ih read).trans ((List.suffix_cons c cs).trans (List.suffix_cons _ _))
  | case4 cs _ _ => cases h; exact List.suffix_cons _ _
  | case5 c cs _ _ _ ih =>
    obtain ⟨⟨v, r⟩, read, same⟩ := Option.map_eq_some_iff.mp h
    cases same
    exact (ih read).trans (List.suffix_cons _ _)

theorem scanLong_suffix {previous t : Option Token} {c : Char} {cs rest : List Char}
    (h : scanLong previous c cs = .ok (t, rest)) : rest <:+ cs := by
  simp only [scanLong] at h
  split at h
  · split at h
    · cases h
      exact List.dropWhile_suffix _
    · cases h
  · split at h
    · cases h
      exact List.dropWhile_suffix _
    · cases h

theorem scan_suffix {previous t : Option Token} {c : Char} {cs rest : List Char}
    (h : scan previous c cs = .ok (t, rest)) : rest <:+ cs := by
  rw [scan] at h
  split at h
  · cases h
    exact List.suffix_rfl
  · split at h
    · split at h
      · rename_i read
        cases h
        exact readString_suffix read
      · cases h
    · split at h
      · cases h
        exact List.tail_suffix cs
      · split at h
        · cases h
          exact List.suffix_rfl
        · exact scanLong_suffix h

theorem scanAll_cons (fuel : Nat) (previous : Option Token) (c : Char) (cs : List Char) :
    scanAll (fuel + 1) previous (c :: cs) = (scan previous c cs).bind fun found =>
      match found.1 with
      | none => scanAll fuel previous found.2
      | some t => (scanAll fuel (some t) found.2).map (t :: ·) := by
  conv => lhs; unfold scanAll
  generalize scan previous c cs = came
  rcases came with e | ⟨_ | t, rest⟩
  · rfl
  · rfl
  · cases scanned : scanAll fuel (some t) rest <;> simp [scanned, Except.bind, Except.map]

theorem scanAll_eq {fuel fuel' : Nat} {previous : Option Token} {cs : List Char}
    (enough : cs.length ≤ fuel) (enough' : cs.length ≤ fuel') :
    scanAll fuel previous cs = scanAll fuel' previous cs := by
  induction fuel generalizing fuel' previous cs with
  | zero =>
    obtain rfl := List.eq_nil_of_length_eq_zero (Nat.le_zero.mp enough)
    cases fuel' <;> rfl
  | succ fuel ih =>
    cases cs with
    | nil => cases fuel' <;> rfl
    | cons c cs =>
      rw [List.length_cons] at enough enough'
      obtain ⟨fuel', rfl⟩ := Nat.exists_eq_add_one_of_ne_zero (show fuel' ≠ 0 by omega)
      rw [scanAll_cons, scanAll_cons]
      cases came : scan previous c cs with
      | error e => rfl
      | ok found =>
        obtain ⟨t, rest⟩ := found
        have shorter : rest.length ≤ cs.length := (scan_suffix came).length_le
        have same (p : Option Token) : scanAll fuel p rest = scanAll fuel' p rest :=
          ih (by omega) (by omega)
        cases t <;> simp only [Except.bind, same]

@[simp] theorem lex_nil (previous : Option Token) : lex previous [] = .ok [] := rfl

theorem lex_cons (previous : Option Token) (c : Char) (cs : List Char) :
    lex previous (c :: cs) = (scan previous c cs).bind fun found =>
      match found.1 with
      | none => lex previous found.2
      | some t => (lex (some t) found.2).map (t :: ·) := by
  rw [lex, List.length_cons, scanAll_cons]
  cases came : scan previous c cs with
  | error e => rfl
  | ok found =>
    obtain ⟨t, rest⟩ := found
    have shorter : rest.length ≤ cs.length := (scan_suffix came).length_le
    have same (p : Option Token) : scanAll cs.length p rest = lex p rest :=
      scanAll_eq shorter (Nat.le_refl _)
    cases t <;> simp only [Except.bind, same]

/-! ## What follows a token -/

/-- Two characters that are read together where they are neighbours. -/
def sticks (c d : Char) : Bool :=
  continuesWord c && continuesWord d || (pair? c d).isSome || c = '-' && d.isDigit

/-- The end of one text and the beginning of the next are not read together. -/
def Apart (cs ds : List Char) : Prop := ∀ c ∈ cs.getLast?, ∀ d ∈ ds.head?, sticks c d = false

instance (cs ds : List Char) : Decidable (Apart cs ds) :=
  decidable_of_iff
    ((cs.getLast?.all fun c => ds.head?.all fun d => !sticks c d) = true)
    (by simp [Apart, Option.all_eq_true])

theorem readString_cons {quote c : Char} (plain : c ≠ '\\') (cs : List Char) :
    readString quote (c :: cs) =
      if c = quote then some ([], cs)
      else (readString quote cs).map fun (value, rest) => (c :: value, rest) := by
  rw [readString]
  · intro h _
    exact plain h
  · intro _ _ h _
    exact plain h

theorem readString_append {quote : Char} {cs rest value : List Char}
    (h : readString quote cs = some (value, rest)) (more : List Char) :
    readString quote (cs ++ more) = some (value, rest ++ more) := by
  fun_induction readString quote cs generalizing value rest with
  | case1 => cases h
  | case2 => cases h
  | case3 c cs ih =>
    obtain ⟨⟨v, r⟩, read, same⟩ := Option.map_eq_some_iff.mp h
    cases same
    simp [readString, ih read]
  | case4 cs last escape =>
    have plain : quote ≠ '\\' := by
      intro e
      cases cs with
      | nil => exact last e rfl
      | cons d ds => exact escape d ds e rfl
    cases h
    rw [List.cons_append, readString_cons plain, if_pos rfl]
  | case5 c cs last escape other ih =>
    have plain : c ≠ '\\' := by
      intro e
      cases cs with
      | nil => exact last e rfl
      | cons d ds => exact escape d ds e rfl
    obtain ⟨⟨v, r⟩, read, same⟩ := Option.map_eq_some_iff.mp h
    cases same
    rw [List.cons_append, readString_cons plain, if_neg other, ih read]
    rfl

theorem continuesWord_of_startsWord {c : Char} (h : startsWord c = true) :
    continuesWord c = true := by
  simp only [startsWord, Bool.or_eq_true] at h
  rcases h with h | h
  · simp [continuesWord, Text.isAlphanumeric, h]
  · simp [continuesWord, h]

theorem continuesWord_of_continuesNumber {c : Char} (h : continuesNumber c = true) :
    continuesWord c = true := by
  simp only [continuesNumber, Bool.or_eq_true] at h
  rcases h with digit | point
  · have ascii : c.toNat < 128 := by
      have bounds : c.toNat ≤ 57 := (Char.isDigit_iff_toNat.mp digit).2
      omega
    simp [continuesWord, Text.isAlphanumeric, Text.isNumeric, ascii, digit]
  · simp [continuesWord, point]

/-- A run of characters ends with a text that they all make up, if the next text does not go on
with the run. -/
theorem takeWhile_append {p : Char → Bool} {cs ds : List Char}
    (stops : (∀ c ∈ cs, p c = true) → ∀ d ∈ ds.head?, p d = false) :
    (cs ++ ds).takeWhile p = cs.takeWhile p ∧ (cs ++ ds).dropWhile p = cs.dropWhile p ++ ds := by
  induction cs with
  | nil =>
    cases ds with
    | nil => simp
    | cons d ds => simp [stops (by simp) d rfl]
  | cons c cs ih =>
    by_cases here : p c = true
    · have more := ih fun all => stops (List.forall_mem_cons.mpr ⟨here, all⟩)
      simp [here, more.1, more.2]
    · simp [here]

section

variable {previous : Option Token} {c : Char} {cs ds : List Char}

theorem Apart.stops {p : Char → Bool} (inWord : ∀ d, p d = true → continuesWord d = true)
    (apart : Apart (c :: cs) ds) (last : cs = [] → continuesWord c = true)
    (all : ∀ d ∈ cs, p d = true) : ∀ d ∈ ds.head?, p d = false := by
  intro d next
  have ending : continuesWord ((c :: cs).getLast (by simp)) = true := by
    cases cs with
    | nil => exact last rfl
    | cons e es =>
      rw [List.getLast_cons (by simp)]
      exact inWord _ (all _ (List.getLast_mem _))
  have free := apart _ (List.getLast?_eq_some_getLast (by simp)) d next
  simp only [sticks, ending, Bool.true_and, Bool.or_eq_false_iff] at free
  cases h : p d with
  | false => rfl
  | true =>
    rw [inWord d h] at free
    exact absurd free.1.1 (by simp)

/-- Whether a minus belongs to a number is told by what stands next to it. -/
theorem Apart.minus (apart : Apart (c :: cs) ds) :
    (c = '-' && ((cs ++ ds).head?.map Char.isDigit).getD false) =
      (c = '-' && (cs.head?.map Char.isDigit).getD false) := by
  cases cs with
  | cons d cs => rfl
  | nil =>
    cases ds with
    | nil => rfl
    | cons d ds =>
      have free := apart c rfl d rfl
      simp only [sticks, Bool.or_eq_false_iff] at free
      simpa using free.2

theorem scanLong_append (apart : Apart (c :: cs) ds) :
    scanLong previous c (cs ++ ds) =
      (scanLong previous c cs).map fun found => (found.1, found.2 ++ ds) := by
  simp only [scanLong, apart.minus]
  split
  · rename_i number
    have last : cs = [] → continuesWord c = true := by
      rintro rfl
      have digit : c.isDigit = true := by simpa using number
      exact continuesWord_of_continuesNumber (by simp [continuesNumber, digit])
    have run := takeWhile_append (p := continuesNumber)
      (apart.stops (fun _ => continuesWord_of_continuesNumber) last)
    rw [run.1, run.2]
    cases readNumber (c :: cs.takeWhile continuesNumber) <;> rfl
  · split
    · rename_i starts
      have run := takeWhile_append (p := continuesWord)
        (apart.stops (fun _ h => h) fun _ => continuesWord_of_startsWord starts)
      rw [run.1, run.2]
      rfl
    · rfl

theorem Apart.pair (apart : Apart (c :: cs) ds) :
    (cs ++ ds).head?.bind (pair? c) = cs.head?.bind (pair? c) := by
  cases cs with
  | cons d cs => rfl
  | nil =>
    cases ds with
    | nil => rfl
    | cons d ds =>
      have free := apart c rfl d rfl
      simp only [sticks, Bool.or_eq_false_iff] at free
      simpa using free.1.2

theorem scan_append (apart : Apart (c :: cs) ds)
    (closed : scan previous c cs ≠ .error .openString) :
    scan previous c (cs ++ ds) =
      (scan previous c cs).map fun found => (found.1, found.2 ++ ds) := by
  rw [scan] at closed
  rw [scan, scan]
  split
  · rfl
  · rename_i visible
    split
    · rename_i quoted
      cases read : readString c cs with
      | none => simp [visible, quoted, read] at closed
      | some found =>
        rw [readString_append read ds]
        rfl
    · rw [apart.pair]
      cases both : cs.head?.bind (pair? c) with
      | some t =>
        obtain ⟨d, first, _⟩ := Option.bind_eq_some_iff.mp both
        have more : cs ≠ [] := by rintro rfl; cases first
        simp [more, Except.map]
      | none =>
        cases single? c with
        | some t => rfl
        | none => exact scanLong_append apart

theorem Apart.of_suffix (apart : Apart cs ds) {rest : List Char} (suffix : rest <:+ cs) :
    Apart rest ds := by
  obtain ⟨front, rfl⟩ := suffix
  intro c last
  apply apart c
  rw [List.getLast?_append, Option.mem_def.mp last]
  rfl

/-- **Texts that stand apart are read one after the other.** -/
theorem lex_append (apart : Apart cs ds) (closed : lex previous cs ≠ .error .openString) :
    lex previous (cs ++ ds) = (lex previous cs).bind fun ts =>
      (lex (ts.getLast?.or previous) ds).map (ts ++ ·) := by
  induction bound : cs.length using Nat.strongRecOn generalizing previous cs with
  | _ n ih =>
    cases cs with
    | nil =>
      simp only [lex_nil, Except.bind, List.nil_append, List.getLast?_nil, Option.none_or]
      cases lex previous ds <;> rfl
    | cons c cs =>
      have first : scan previous c cs ≠ .error .openString := by
        intro e
        rw [lex_cons, e] at closed
        exact closed rfl
      rw [lex_cons] at closed
      rw [List.cons_append, lex_cons, lex_cons, scan_append apart first]
      cases came : scan previous c cs with
      | error e => rfl
      | ok found =>
        obtain ⟨t, rest⟩ := found
        have shorter : rest.length < n := by
          have := (scan_suffix came).length_le
          rw [List.length_cons] at bound
          omega
        have stillApart := apart.of_suffix ((scan_suffix came).trans (List.suffix_cons c cs))
        rw [came] at closed
        cases t with
        | none => exact ih _ shorter stillApart closed rfl
        | some t =>
          have rest_closed : lex (some t) rest ≠ .error .openString := by
            intro e
            simp only [Except.bind, e] at closed
            exact closed rfl
          simp only [Except.bind, Except.map, ih _ shorter stillApart rest_closed rfl]
          cases lex (some t) rest with
          | error e => rfl
          | ok ts =>
            have ending : (t :: ts).getLast?.or previous = ts.getLast?.or (some t) := by
              rw [List.getLast?_cons]
              cases ts.getLast? <;> rfl
            simp only [ending]
            cases lex (ts.getLast?.or (some t)) ds <;> rfl

/-! ## Blanks -/

/-- White space between tokens. -/
def Gap (cs : List Char) : Prop := ∀ c ∈ cs, Text.isBlank c = true

/-- The code points of white space. -/
def blankPoints : List Nat :=
  [9, 10, 11, 12, 13, 0x20, 0x85, 0xA0, 0x1680, 0x2000, 0x2001, 0x2002, 0x2003, 0x2004, 0x2005,
    0x2006, 0x2007, 0x2008, 0x2009, 0x200A, 0x2028, 0x2029, 0x202F, 0x205F, 0x3000]

theorem mem_blankPoints (blank : Text.isBlank c = true) : c.toNat ∈ blankPoints := by
  simp only [Text.isBlank, Bool.or_eq_true, Bool.and_eq_true, decide_eq_true_eq] at blank
  simp only [blankPoints, List.mem_cons, List.not_mem_nil, or_false]
  omega

/-- What holds of all blanks holds of white space. -/
theorem not_of_isBlank {p : Char → Bool} (none : ∀ n ∈ blankPoints, p (Char.ofNat n) = false)
    (blank : Text.isBlank c = true) : p c = false := by
  have := none c.toNat (mem_blankPoints blank)
  rwa [Char.ofNat_toNat] at this

theorem not_continuesWord_of_isBlank (blank : Text.isBlank c = true) : continuesWord c = false :=
  not_of_isBlank (by decide +kernel) blank

theorem pair?_of_not_first {d : Char} (other : c ∉ ['=', '!', '>', '<', '&', '|']) :
    pair? c d = none := by
  unfold pair?
  split <;> simp_all

theorem pair?_of_not_second {d : Char} (other : d ∉ ['=', '&', '|']) : pair? c d = none := by
  unfold pair?
  split <;> simp_all

/-- The second character neither goes on with a word or a number nor ends an operator. -/
theorem not_sticks {d : Char} (word : continuesWord d = false) (second : d ∉ ['=', '&', '|']) :
    sticks c d = false := by
  have pair : pair? c d = none := pair?_of_not_second second
  have digit : d.isDigit = false := by
    cases digit : d.isDigit with
    | false => rfl
    | true =>
      rw [continuesWord_of_continuesNumber (by simp [continuesNumber, digit])] at word
      cases word
  simp [sticks, word, digit, pair]

theorem sticks_blank {d : Char} (blank : Text.isBlank d = true) : sticks c d = false := by
  have mark : ['=', '&', '|'].contains d = false := not_of_isBlank (by decide) blank
  exact not_sticks (not_continuesWord_of_isBlank blank) (by simpa using mark)

theorem blank_sticks {d : Char} (blank : Text.isBlank c = true) : sticks c d = false := by
  have word := not_continuesWord_of_isBlank blank
  have minus : decide (c = '-') = false := not_of_isBlank (p := (· = '-')) (by decide) blank
  have mark : ['=', '!', '>', '<', '&', '|'].contains c = false :=
    not_of_isBlank (by decide) blank
  have pair : pair? c d = none := pair?_of_not_first (by simpa using mark)
  simp [sticks, word, minus, pair]

theorem Gap.apart_right (gap : Gap ds) : Apart cs ds := fun _ _ d next =>
  sticks_blank (gap d (List.mem_of_mem_head? next))

theorem Gap.apart_left (gap : Gap cs) : Apart cs ds := fun c last _ _ =>
  blank_sticks (gap c (List.mem_of_mem_getLast? last))

theorem lex_gap (gap : Gap cs) : lex previous cs = .ok [] := by
  induction cs with
  | nil => rfl
  | cons c cs ih =>
    have blank : Text.isBlank c = true := gap c List.mem_cons_self
    have read : scan previous c cs = .ok (none, cs) := by rw [scan, if_pos blank]
    rw [lex_cons, read]
    exact ih fun d mem => gap d (List.mem_cons_of_mem _ mem)

theorem lex_between_gaps {front back : List Char} {ts : List Token} (blankFront : Gap front)
    (blankBack : Gap back) (lexed : lex previous cs = .ok ts) :
    lex previous (front ++ (cs ++ back)) = .ok ts := by
  rw [lex_append blankFront.apart_left (by rw [lex_gap blankFront]; nofun), lex_gap blankFront]
  simp only [Except.bind, List.getLast?_nil, Option.none_or]
  rw [lex_append blankBack.apart_right (by rw [lexed]; nofun), lexed]
  simp [Except.bind, Except.map, lex_gap blankBack]

end

end Token

/-! ## Text between white space -/

namespace Text

theorem trimChars_eq_self {cs : List Char} (first : ∀ c ∈ cs.head?, isBlank c = false)
    (last : ∀ c ∈ cs.getLast?, isBlank c = false) : trimChars cs = cs := by
  have start : cs.dropWhile isBlank = cs := by
    cases cs with
    | nil => rfl
    | cons c cs => rw [List.dropWhile_cons, first c rfl]; rfl
  have ending : cs.reverse.dropWhile isBlank = cs.reverse := by
    cases back : cs.reverse with
    | nil => rfl
    | cons c ds =>
      have here : c ∈ cs.getLast? := by rw [← List.head?_reverse, back]; rfl
      rw [List.dropWhile_cons, last c here]
      rfl
  rw [trimChars, start, ending, List.reverse_reverse]

theorem gap_takeWhile (cs : List Char) : Token.Gap (cs.takeWhile isBlank) := fun _ mem =>
  List.all_eq_true.mp List.all_takeWhile _ mem

theorem eq_gap_trimChars_gap (cs : List Char) :
    ∃ front back, Token.Gap front ∧ Token.Gap back ∧ cs = front ++ (trimChars cs ++ back) := by
  let inner := cs.dropWhile isBlank
  refine ⟨cs.takeWhile isBlank, (inner.reverse.takeWhile isBlank).reverse, gap_takeWhile cs, ?_, ?_⟩
  · exact fun c mem => gap_takeWhile _ c (List.mem_reverse.mp mem)
  · have rest : trimChars cs ++ (inner.reverse.takeWhile isBlank).reverse = inner := by
      rw [trimChars, ← List.reverse_append, List.takeWhile_append_dropWhile, List.reverse_reverse]
    rw [rest, List.takeWhile_append_dropWhile]

end Text

end Parley
