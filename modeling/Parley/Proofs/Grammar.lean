import Parley.Expression.Node

/-!
# Parley.Proofs.Grammar

The grammar that `Parley.Expression.Node` quotes, as derivations with their tokens and their trees,
and the parser against it: it finds every derivation, whatever it finds is one, and no list of
tokens has two.
-/

namespace Parley

mutual

/-- `and ("or" and)*` -/
inductive OrPhrase where
  | of (first : AndPhrase) (more : List AndPhrase)

/-- `unary ("and" unary)*` -/
inductive AndPhrase where
  | of (first : UnaryPhrase) (more : List UnaryPhrase)

/-- `"not" unary | comparison` -/
inductive UnaryPhrase where
  | not (inner : UnaryPhrase)
  | plain (phrase : ComparisonPhrase)

/-- `primary [op primary]` -/
inductive ComparisonPhrase where
  | single (phrase : PrimaryPhrase)
  | pair (left : PrimaryPhrase) (op : Comparison) (right : PrimaryPhrase)

/-- `path | number | string | true | false | null | "(" or ")"` -/
inductive PrimaryPhrase where
  | path (text : String)
  | number (value : Number)
  | text (value : String)
  | trueWord
  | falseWord
  | nullWord
  | group (inner : OrPhrase)

end

mutual

@[simp] def OrPhrase.tokens : OrPhrase → List Token
  | .of first more => first.tokens ++ OrPhrase.moreTokens more

@[simp] def OrPhrase.moreTokens : List AndPhrase → List Token
  | [] => []
  | next :: more => .orWord :: next.tokens ++ OrPhrase.moreTokens more

@[simp] def AndPhrase.tokens : AndPhrase → List Token
  | .of first more => first.tokens ++ AndPhrase.moreTokens more

@[simp] def AndPhrase.moreTokens : List UnaryPhrase → List Token
  | [] => []
  | next :: more => .andWord :: next.tokens ++ AndPhrase.moreTokens more

@[simp] def UnaryPhrase.tokens : UnaryPhrase → List Token
  | .not inner => .notWord :: inner.tokens
  | .plain phrase => phrase.tokens

@[simp] def ComparisonPhrase.tokens : ComparisonPhrase → List Token
  | .single phrase => phrase.tokens
  | .pair left op right => left.tokens ++ .comparison op :: right.tokens

@[simp] def PrimaryPhrase.tokens : PrimaryPhrase → List Token
  | .path s => [.path s]
  | .number n => [.number n]
  | .text s => [.text s]
  | .trueWord => [.trueWord]
  | .falseWord => [.falseWord]
  | .nullWord => [.nullWord]
  | .group inner => .opening :: inner.tokens ++ [.closing]

end

/-! The tree of a phrase. Chains lean to the left. -/

mutual

@[simp] def OrPhrase.node : OrPhrase → Node
  | .of first more => (OrPhrase.moreNodes more).foldl .or first.node

@[simp] def OrPhrase.moreNodes : List AndPhrase → List Node
  | [] => []
  | next :: more => next.node :: OrPhrase.moreNodes more

@[simp] def AndPhrase.node : AndPhrase → Node
  | .of first more => (AndPhrase.moreNodes more).foldl .and first.node

@[simp] def AndPhrase.moreNodes : List UnaryPhrase → List Node
  | [] => []
  | next :: more => next.node :: AndPhrase.moreNodes more

@[simp] def UnaryPhrase.node : UnaryPhrase → Node
  | .not inner => .not inner.node
  | .plain phrase => phrase.node

@[simp] def ComparisonPhrase.node : ComparisonPhrase → Node
  | .single phrase => phrase.node
  | .pair left op right => .compare op left.node right.node

@[simp] def PrimaryPhrase.node : PrimaryPhrase → Node
  | .path s => .path (Path.ofString s)
  | .number n => .literal (.number n)
  | .text s => .literal (.text s)
  | .trueWord => .literal (.bool true)
  | .falseWord => .literal (.bool false)
  | .nullWord => .literal .null
  | .group inner => inner.node

end

/-! ## The parser finds every phrase -/

/-- No token follows that would go on with a comparison. -/
structure EndsComparison (rest : List Token) : Prop where
  noComparison : ∀ op after, rest ≠ .comparison op :: after

structure EndsAnd (rest : List Token) : Prop extends EndsComparison rest where
  noAnd : ∀ after, rest ≠ .andWord :: after

structure EndsOr (rest : List Token) : Prop extends EndsAnd rest where
  noOr : ∀ after, rest ≠ .orWord :: after

theorem EndsOr.nil : EndsOr [] := ⟨⟨⟨by simp⟩, by simp⟩, by simp⟩

theorem EndsOr.closing (rest : List Token) : EndsOr (.closing :: rest) :=
  ⟨⟨⟨by simp⟩, by simp⟩, by simp⟩

/-- What follows the first part of a chain, if `rest` follows the chain. -/
theorem EndsOr.more {rest : List Token} (ends : EndsOr rest) (more : List AndPhrase) :
    EndsAnd (OrPhrase.moreTokens more ++ rest) := by
  cases more with
  | nil => exact ends.toEndsAnd
  | cons next more => exact ⟨⟨by simp [OrPhrase.moreTokens]⟩, by simp [OrPhrase.moreTokens]⟩

theorem EndsAnd.more {rest : List Token} (ends : EndsAnd rest) (more : List UnaryPhrase) :
    EndsComparison (AndPhrase.moreTokens more ++ rest) := by
  cases more with
  | nil => exact ends.toEndsComparison
  | cons next more => exact ⟨by simp [AndPhrase.moreTokens]⟩

/-- Every phrase has a first token, and a primary phrase does not begin with `not`. -/
theorem PrimaryPhrase.tokens_eq_cons (p : PrimaryPhrase) :
    ∃ t ts, p.tokens = t :: ts ∧ t ≠ .notWord := by
  cases p <;> simp [PrimaryPhrase.tokens]

theorem PrimaryPhrase.length_tokens_pos (p : PrimaryPhrase) : 0 < p.tokens.length := by
  obtain ⟨t, ts, first, _⟩ := p.tokens_eq_cons
  simp [first]

theorem ComparisonPhrase.tokens_eq_cons (p : ComparisonPhrase) :
    ∃ t ts, p.tokens = t :: ts ∧ t ≠ .notWord := by
  cases p with
  | single phrase => exact phrase.tokens_eq_cons
  | pair left op right =>
    obtain ⟨t, ts, first, other⟩ := left.tokens_eq_cons
    exact ⟨t, ts ++ .comparison op :: right.tokens, by simp [tokens, first], other⟩

theorem UnaryPhrase.length_tokens_pos (p : UnaryPhrase) : 0 < p.tokens.length := by
  cases p with
  | not inner => simp [tokens]
  | plain phrase =>
    obtain ⟨t, ts, first, _⟩ := phrase.tokens_eq_cons
    simp [tokens, first]

theorem AndPhrase.length_tokens_pos (p : AndPhrase) : 0 < p.tokens.length := by
  obtain ⟨first, more⟩ := p
  have := first.length_tokens_pos
  simp only [tokens, List.length_append]
  omega

theorem OrPhrase.length_tokens_pos (p : OrPhrase) : 0 < p.tokens.length := by
  obtain ⟨first, more⟩ := p
  have := first.length_tokens_pos
  simp only [tokens, List.length_append]
  omega

namespace Node

variable {fuel : Nat} {left node : Node} {ts rest : List Token}

theorem moreOr_of_endsOr (ends : EndsOr ts) : moreOr fuel left ts = .ok (left, ts) := by
  unfold moreOr
  split
  · exact absurd rfl (ends.noOr _)
  · rfl

theorem moreAnd_of_endsAnd (ends : EndsAnd ts) : moreAnd fuel left ts = .ok (left, ts) := by
  unfold moreAnd
  split
  · exact absurd rfl (ends.noAnd _)
  · rfl

theorem parseComparison_of_single (parsed : parsePrimary fuel ts = .ok (node, rest))
    (ends : EndsComparison rest) : parseComparison (fuel + 1) ts = .ok (node, rest) := by
  rw [parseComparison, parsed]
  split
  · rename_i h
    cases h
  · rename_i h
    cases h
    exact absurd rfl (ends.noComparison _ _)
  · rename_i h
    cases h
    rfl

theorem parseUnary_of_ne_not {t : Token} (other : t ≠ .notWord) :
    parseUnary (fuel + 1) (t :: ts) = parseComparison fuel (t :: ts) := by
  rw [parseUnary]
  rintro _ h
  exact other (List.cons.inj h).1

end Node

mutual

theorem OrPhrase.parseOr_tokens : ∀ (p : OrPhrase) {fuel : Nat} {rest : List Token},
    8 * p.tokens.length ≤ fuel → EndsOr rest →
    Node.parseOr fuel (p.tokens ++ rest) = .ok (p.node, rest)
  | .of first more, fuel, rest, enough, ends => by
    have pos := first.length_tokens_pos
    simp only [OrPhrase.tokens, List.length_append] at enough
    obtain ⟨fuel, rfl⟩ := Nat.exists_eq_add_one_of_ne_zero (show fuel ≠ 0 by omega)
    have begun : Node.parseAnd fuel (first.tokens ++ (OrPhrase.moreTokens more ++ rest)) =
        .ok (first.node, OrPhrase.moreTokens more ++ rest) :=
      first.parseAnd_tokens (by omega) (ends.more more)
    rw [OrPhrase.tokens, List.append_assoc, Node.parseOr, begun, OrPhrase.node]
    exact OrPhrase.moreOr_tokens more (by omega) ends

theorem OrPhrase.moreOr_tokens : ∀ (more : List AndPhrase) {fuel : Nat} {left : Node}
    {rest : List Token}, 8 * (OrPhrase.moreTokens more).length ≤ fuel → EndsOr rest →
    Node.moreOr fuel left (OrPhrase.moreTokens more ++ rest) =
      .ok ((OrPhrase.moreNodes more).foldl .or left, rest)
  | [], fuel, left, rest, _, ends => Node.moreOr_of_endsOr ends
  | next :: more, fuel, left, rest, enough, ends => by
    simp only [OrPhrase.moreTokens, List.length_append, List.length_cons] at enough
    obtain ⟨fuel, rfl⟩ := Nat.exists_eq_add_one_of_ne_zero (show fuel ≠ 0 by omega)
    have joined : Node.parseAnd fuel (next.tokens ++ (OrPhrase.moreTokens more ++ rest)) =
        .ok (next.node, OrPhrase.moreTokens more ++ rest) :=
      next.parseAnd_tokens (by omega) (ends.more more)
    rw [OrPhrase.moreTokens, List.cons_append, List.cons_append, List.append_assoc, Node.moreOr,
      joined]
    exact OrPhrase.moreOr_tokens more (by omega) ends

theorem AndPhrase.parseAnd_tokens : ∀ (p : AndPhrase) {fuel : Nat} {rest : List Token},
    8 * p.tokens.length ≤ fuel + 1 → EndsAnd rest →
    Node.parseAnd fuel (p.tokens ++ rest) = .ok (p.node, rest)
  | .of first more, fuel, rest, enough, ends => by
    have pos := first.length_tokens_pos
    simp only [AndPhrase.tokens, List.length_append] at enough
    obtain ⟨fuel, rfl⟩ := Nat.exists_eq_add_one_of_ne_zero (show fuel ≠ 0 by omega)
    have begun : Node.parseUnary fuel (first.tokens ++ (AndPhrase.moreTokens more ++ rest)) =
        .ok (first.node, AndPhrase.moreTokens more ++ rest) :=
      first.parseUnary_tokens (by omega) (ends.more more)
    rw [AndPhrase.tokens, List.append_assoc, Node.parseAnd, begun, AndPhrase.node]
    exact AndPhrase.moreAnd_tokens more (by omega) ends

theorem AndPhrase.moreAnd_tokens : ∀ (more : List UnaryPhrase) {fuel : Nat} {left : Node}
    {rest : List Token}, 8 * (AndPhrase.moreTokens more).length ≤ fuel + 1 → EndsAnd rest →
    Node.moreAnd fuel left (AndPhrase.moreTokens more ++ rest) =
      .ok ((AndPhrase.moreNodes more).foldl .and left, rest)
  | [], fuel, left, rest, _, ends => Node.moreAnd_of_endsAnd ends
  | next :: more, fuel, left, rest, enough, ends => by
    have pos := next.length_tokens_pos
    simp only [AndPhrase.moreTokens, List.length_append, List.length_cons] at enough
    obtain ⟨fuel, rfl⟩ := Nat.exists_eq_add_one_of_ne_zero (show fuel ≠ 0 by omega)
    have joined : Node.parseUnary fuel (next.tokens ++ (AndPhrase.moreTokens more ++ rest)) =
        .ok (next.node, AndPhrase.moreTokens more ++ rest) :=
      next.parseUnary_tokens (by omega) (ends.more more)
    rw [AndPhrase.moreTokens, List.cons_append, List.cons_append, List.append_assoc, Node.moreAnd,
      joined]
    exact AndPhrase.moreAnd_tokens more (by omega) ends

theorem UnaryPhrase.parseUnary_tokens : ∀ (p : UnaryPhrase) {fuel : Nat} {rest : List Token},
    8 * p.tokens.length ≤ fuel + 2 → EndsComparison rest →
    Node.parseUnary fuel (p.tokens ++ rest) = .ok (p.node, rest)
  | .not inner, fuel, rest, enough, ends => by
    simp only [UnaryPhrase.tokens, List.length_cons] at enough
    obtain ⟨fuel, rfl⟩ := Nat.exists_eq_add_one_of_ne_zero (show fuel ≠ 0 by omega)
    rw [UnaryPhrase.tokens, List.cons_append, Node.parseUnary,
      inner.parseUnary_tokens (by omega) ends, UnaryPhrase.node]
  | .plain phrase, fuel, rest, enough, ends => by
    obtain ⟨t, ts, first, other⟩ := phrase.tokens_eq_cons
    have pos : 0 < phrase.tokens.length := by simp [first]
    simp only [UnaryPhrase.tokens] at enough
    obtain ⟨fuel, rfl⟩ := Nat.exists_eq_add_one_of_ne_zero (show fuel ≠ 0 by omega)
    have parsed : Node.parseComparison fuel (phrase.tokens ++ rest) = .ok (phrase.node, rest) :=
      phrase.parseComparison_tokens (by omega) ends
    rw [first, List.cons_append] at parsed
    rw [UnaryPhrase.tokens, first, List.cons_append, Node.parseUnary_of_ne_not other, parsed,
      UnaryPhrase.node]

theorem ComparisonPhrase.parseComparison_tokens : ∀ (p : ComparisonPhrase) {fuel : Nat}
    {rest : List Token}, 8 * p.tokens.length ≤ fuel + 3 → EndsComparison rest →
    Node.parseComparison fuel (p.tokens ++ rest) = .ok (p.node, rest)
  | .single phrase, fuel, rest, enough, ends => by
    have pos := phrase.length_tokens_pos
    simp only [ComparisonPhrase.tokens] at enough
    obtain ⟨fuel, rfl⟩ := Nat.exists_eq_add_one_of_ne_zero (show fuel ≠ 0 by omega)
    exact Node.parseComparison_of_single (phrase.parsePrimary_tokens (by omega)) ends
  | .pair left op right, fuel, rest, enough, ends => by
    simp only [ComparisonPhrase.tokens, List.length_append, List.length_cons] at enough
    obtain ⟨fuel, rfl⟩ := Nat.exists_eq_add_one_of_ne_zero (show fuel ≠ 0 by omega)
    rw [ComparisonPhrase.tokens, List.append_assoc, List.cons_append, Node.parseComparison,
      left.parsePrimary_tokens (by omega)]
    simp only
    rw [right.parsePrimary_tokens (by omega), ComparisonPhrase.node]

theorem PrimaryPhrase.parsePrimary_tokens : ∀ (p : PrimaryPhrase) {fuel : Nat}
    {rest : List Token}, 8 * p.tokens.length ≤ fuel + 4 →
    Node.parsePrimary fuel (p.tokens ++ rest) = .ok (p.node, rest)
  | .path s, fuel + 1, rest, _ => rfl
  | .number s, fuel + 1, rest, _ => rfl
  | .text s, fuel + 1, rest, _ => rfl
  | .trueWord, fuel + 1, rest, _ => rfl
  | .falseWord, fuel + 1, rest, _ => rfl
  | .nullWord, fuel + 1, rest, _ => rfl
  | .group inner, fuel + 1, rest, enough => by
    simp only [PrimaryPhrase.tokens, List.length_append, List.length_cons,
      List.length_nil] at enough
    have inside : Node.parseOr fuel (inner.tokens ++ .closing :: rest) =
        .ok (inner.node, .closing :: rest) :=
      inner.parseOr_tokens (by omega) (.closing rest)
    simp only [PrimaryPhrase.tokens, List.cons_append, List.append_assoc, List.nil_append,
      Node.parsePrimary, inside, PrimaryPhrase.node]

end

theorem Node.ofTokens_tokens (p : OrPhrase) : Node.ofTokens p.tokens = .ok p.node := by
  have parsed : Node.parseOr (8 * p.tokens.length + 8) (p.tokens ++ []) = .ok (p.node, []) :=
    p.parseOr_tokens (by omega) .nil
  rw [List.append_nil] at parsed
  rw [Node.ofTokens, parsed]

theorem Node.ofChars_eq_ok_iff {cs : List Char} {n : Node} :
    ofChars cs = .ok n ↔ ∃ ts, tokens cs = .ok ts ∧ ts ≠ [] ∧ ofTokens ts = .ok n := by
  rw [ofChars]
  rcases tokens cs with e | _ | ⟨t, ts⟩
  · simp
  · simp
  · cases parsed : ofTokens (t :: ts) <;> simp [parsed]

/-! ## Whatever the parser finds is a phrase -/

namespace Node

/-- What the functions of the grammar return with this much fuel. -/
structure Sound (fuel : Nat) : Prop where
  parseOr : ∀ ts n rest, parseOr fuel ts = .ok (n, rest) →
    ∃ p : OrPhrase, ts = p.tokens ++ rest ∧ n = p.node
  moreOr : ∀ left ts n rest, moreOr fuel left ts = .ok (n, rest) →
    ∃ more, ts = OrPhrase.moreTokens more ++ rest ∧ n = (OrPhrase.moreNodes more).foldl .or left
  parseAnd : ∀ ts n rest, parseAnd fuel ts = .ok (n, rest) →
    ∃ p : AndPhrase, ts = p.tokens ++ rest ∧ n = p.node
  moreAnd : ∀ left ts n rest, moreAnd fuel left ts = .ok (n, rest) →
    ∃ more, ts = AndPhrase.moreTokens more ++ rest ∧
      n = (AndPhrase.moreNodes more).foldl .and left
  parseUnary : ∀ ts n rest, parseUnary fuel ts = .ok (n, rest) →
    ∃ p : UnaryPhrase, ts = p.tokens ++ rest ∧ n = p.node
  parseComparison : ∀ ts n rest, parseComparison fuel ts = .ok (n, rest) →
    ∃ p : ComparisonPhrase, ts = p.tokens ++ rest ∧ n = p.node
  parsePrimary : ∀ ts n rest, parsePrimary fuel ts = .ok (n, rest) →
    ∃ p : PrimaryPhrase, ts = p.tokens ++ rest ∧ n = p.node

variable {fuel : Nat} {left n : Node} {ts rest : List Token}

theorem Sound.parseOr_succ (sound : Sound fuel) (ok : Node.parseOr (fuel + 1) ts = .ok (n, rest)) :
    ∃ p : OrPhrase, ts = p.tokens ++ rest ∧ n = p.node := by
  rw [Node.parseOr] at ok
  split at ok
  · cases ok
  · rename_i begun
    obtain ⟨first, rfl, rfl⟩ := sound.parseAnd _ _ _ begun
    obtain ⟨more, rfl, rfl⟩ := sound.moreOr _ _ _ _ ok
    exact ⟨.of first more, by simp [OrPhrase.tokens], rfl⟩

theorem Sound.moreOr_succ (sound : Sound fuel)
    (ok : Node.moreOr (fuel + 1) left ts = .ok (n, rest)) :
    ∃ more, ts = OrPhrase.moreTokens more ++ rest ∧
      n = (OrPhrase.moreNodes more).foldl .or left := by
  unfold Node.moreOr at ok
  split at ok
  · rename_i h
    cases h
    split at ok
    · cases ok
    · rename_i joined
      obtain ⟨next, rfl, rfl⟩ := sound.parseAnd _ _ _ joined
      obtain ⟨more, rfl, rfl⟩ := sound.moreOr _ _ _ _ ok
      exact ⟨next :: more, by simp [OrPhrase.moreTokens], rfl⟩
  · cases ok
    exact ⟨[], rfl, rfl⟩

theorem Sound.parseAnd_succ (sound : Sound fuel)
    (ok : Node.parseAnd (fuel + 1) ts = .ok (n, rest)) :
    ∃ p : AndPhrase, ts = p.tokens ++ rest ∧ n = p.node := by
  rw [Node.parseAnd] at ok
  split at ok
  · cases ok
  · rename_i begun
    obtain ⟨first, rfl, rfl⟩ := sound.parseUnary _ _ _ begun
    obtain ⟨more, rfl, rfl⟩ := sound.moreAnd _ _ _ _ ok
    exact ⟨.of first more, by simp [AndPhrase.tokens], rfl⟩

theorem Sound.moreAnd_succ (sound : Sound fuel)
    (ok : Node.moreAnd (fuel + 1) left ts = .ok (n, rest)) :
    ∃ more, ts = AndPhrase.moreTokens more ++ rest ∧
      n = (AndPhrase.moreNodes more).foldl .and left := by
  unfold Node.moreAnd at ok
  split at ok
  · rename_i h
    cases h
    split at ok
    · cases ok
    · rename_i joined
      obtain ⟨next, rfl, rfl⟩ := sound.parseUnary _ _ _ joined
      obtain ⟨more, rfl, rfl⟩ := sound.moreAnd _ _ _ _ ok
      exact ⟨next :: more, by simp [AndPhrase.moreTokens], rfl⟩
  · cases ok
    exact ⟨[], rfl, rfl⟩

theorem Sound.parseUnary_succ (sound : Sound fuel)
    (ok : Node.parseUnary (fuel + 1) ts = .ok (n, rest)) :
    ∃ p : UnaryPhrase, ts = p.tokens ++ rest ∧ n = p.node := by
  unfold Node.parseUnary at ok
  split at ok
  · rename_i h
    cases h
  · rename_i h
    cases h
    split at ok
    · cases ok
    · rename_i parsed
      cases ok
      obtain ⟨inner, rfl, rfl⟩ := sound.parseUnary _ _ _ parsed
      exact ⟨.not inner, rfl, rfl⟩
  · rename_i same _
    cases same
    obtain ⟨phrase, rfl, rfl⟩ := sound.parseComparison _ _ _ ok
    exact ⟨.plain phrase, rfl, rfl⟩

theorem Sound.parseComparison_succ (sound : Sound fuel)
    (ok : Node.parseComparison (fuel + 1) ts = .ok (n, rest)) :
    ∃ p : ComparisonPhrase, ts = p.tokens ++ rest ∧ n = p.node := by
  rw [Node.parseComparison] at ok
  split at ok
  · cases ok
  · rename_i left op after parsedLeft
    obtain ⟨left, rfl, rfl⟩ := sound.parsePrimary _ _ _ parsedLeft
    split at ok
    · cases ok
    · rename_i parsedRight
      cases ok
      obtain ⟨right, rfl, rfl⟩ := sound.parsePrimary _ _ _ parsedRight
      exact ⟨.pair left op right, by simp [ComparisonPhrase.tokens], rfl⟩
  · rename_i parsed
    cases ok
    obtain ⟨phrase, rfl, rfl⟩ := sound.parsePrimary _ _ _ parsed
    exact ⟨.single phrase, rfl, rfl⟩

theorem Sound.parsePrimary_succ (sound : Sound fuel)
    (ok : Node.parsePrimary (fuel + 1) ts = .ok (n, rest)) :
    ∃ p : PrimaryPhrase, ts = p.tokens ++ rest ∧ n = p.node := by
  cases ts with
  | nil => cases ok
  | cons t ts =>
    cases t with
    | path s => cases ok; exact ⟨.path s, rfl, rfl⟩
    | number i => cases ok; exact ⟨.number i, rfl, rfl⟩
    | text s => cases ok; exact ⟨.text s, rfl, rfl⟩
    | trueWord => cases ok; exact ⟨.trueWord, rfl, rfl⟩
    | falseWord => cases ok; exact ⟨.falseWord, rfl, rfl⟩
    | nullWord => cases ok; exact ⟨.nullWord, rfl, rfl⟩
    | opening =>
      simp only [Node.parsePrimary] at ok
      split at ok
      · cases ok
      · rename_i inside
        cases ok
        obtain ⟨inner, rfl, rfl⟩ := sound.parseOr _ _ _ inside
        exact ⟨.group inner, by simp [PrimaryPhrase.tokens], rfl⟩
      · cases ok
    | comparison op => cases ok
    | andWord => cases ok
    | orWord => cases ok
    | notWord => cases ok
    | closing => cases ok

theorem sound (fuel : Nat) : Sound fuel := by
  induction fuel with
  | zero =>
    refine ⟨fun _ _ _ ok => ?_, fun _ _ _ _ ok => ?_, fun _ _ _ ok => ?_, fun _ _ _ _ ok => ?_,
      fun _ _ _ ok => ?_, fun _ _ _ ok => ?_, fun _ _ _ ok => ?_⟩
    case refine_2 => cases ok; exact ⟨[], rfl, rfl⟩
    case refine_4 => cases ok; exact ⟨[], rfl, rfl⟩
    all_goals cases ok
  | succ fuel sound =>
    exact ⟨fun _ _ _ => sound.parseOr_succ, fun _ _ _ _ => sound.moreOr_succ,
      fun _ _ _ => sound.parseAnd_succ, fun _ _ _ _ => sound.moreAnd_succ,
      fun _ _ _ => sound.parseUnary_succ, fun _ _ _ => sound.parseComparison_succ,
      fun _ _ _ => sound.parsePrimary_succ⟩

end Node

/-! ## No list of tokens is two phrases -/

mutual

theorem OrPhrase.append_inj : ∀ (p q : OrPhrase) {r s : List Token},
    p.tokens ++ r = q.tokens ++ s → EndsOr r → EndsOr s → p = q ∧ r = s
  | .of first more, .of first' more', r, s, same, endsR, endsS => by
    simp only [OrPhrase.tokens, List.append_assoc] at same
    obtain ⟨rfl, after⟩ := first.append_inj first' same (endsR.more more) (endsS.more more')
    obtain ⟨rfl, rfl⟩ := OrPhrase.more_append_inj more more' after endsR endsS
    exact ⟨rfl, rfl⟩

theorem OrPhrase.more_append_inj : ∀ (more more' : List AndPhrase) {r s : List Token},
    OrPhrase.moreTokens more ++ r = OrPhrase.moreTokens more' ++ s → EndsOr r → EndsOr s →
    more = more' ∧ r = s
  | [], [], r, s, same, _, _ => ⟨rfl, same⟩
  | [], next :: more, r, s, same, endsR, _ => by
    exact absurd same (endsR.noOr _)
  | next :: more, [], r, s, same, _, endsS => by
    exact absurd same.symm (endsS.noOr _)
  | next :: more, next' :: more', r, s, same, endsR, endsS => by
    simp only [OrPhrase.moreTokens, List.cons_append, List.append_assoc, List.cons.injEq,
      true_and] at same
    obtain ⟨rfl, after⟩ := next.append_inj next' same (endsR.more more) (endsS.more more')
    obtain ⟨rfl, rfl⟩ := OrPhrase.more_append_inj more more' after endsR endsS
    exact ⟨rfl, rfl⟩

theorem AndPhrase.append_inj : ∀ (p q : AndPhrase) {r s : List Token},
    p.tokens ++ r = q.tokens ++ s → EndsAnd r → EndsAnd s → p = q ∧ r = s
  | .of first more, .of first' more', r, s, same, endsR, endsS => by
    simp only [AndPhrase.tokens, List.append_assoc] at same
    obtain ⟨rfl, after⟩ := first.append_inj first' same (endsR.more more) (endsS.more more')
    obtain ⟨rfl, rfl⟩ := AndPhrase.more_append_inj more more' after endsR endsS
    exact ⟨rfl, rfl⟩

theorem AndPhrase.more_append_inj : ∀ (more more' : List UnaryPhrase) {r s : List Token},
    AndPhrase.moreTokens more ++ r = AndPhrase.moreTokens more' ++ s → EndsAnd r → EndsAnd s →
    more = more' ∧ r = s
  | [], [], r, s, same, _, _ => ⟨rfl, same⟩
  | [], next :: more, r, s, same, endsR, _ => absurd same (endsR.noAnd _)
  | next :: more, [], r, s, same, _, endsS => absurd same.symm (endsS.noAnd _)
  | next :: more, next' :: more', r, s, same, endsR, endsS => by
    simp only [AndPhrase.moreTokens, List.cons_append, List.append_assoc, List.cons.injEq,
      true_and] at same
    obtain ⟨rfl, after⟩ := next.append_inj next' same (endsR.more more) (endsS.more more')
    obtain ⟨rfl, rfl⟩ := AndPhrase.more_append_inj more more' after endsR endsS
    exact ⟨rfl, rfl⟩

theorem UnaryPhrase.append_inj : ∀ (p q : UnaryPhrase) {r s : List Token},
    p.tokens ++ r = q.tokens ++ s → EndsComparison r → EndsComparison s → p = q ∧ r = s
  | .not inner, .not inner', r, s, same, endsR, endsS => by
    simp only [UnaryPhrase.tokens, List.cons_append, List.cons.injEq, true_and] at same
    obtain ⟨rfl, rfl⟩ := inner.append_inj inner' same endsR endsS
    exact ⟨rfl, rfl⟩
  | .not inner, .plain phrase, r, s, same, _, _ => by
    obtain ⟨t, ts, first, other⟩ := phrase.tokens_eq_cons
    simp only [UnaryPhrase.tokens, first, List.cons_append, List.cons.injEq] at same
    exact absurd same.1.symm other
  | .plain phrase, .not inner, r, s, same, _, _ => by
    obtain ⟨t, ts, first, other⟩ := phrase.tokens_eq_cons
    simp only [UnaryPhrase.tokens, first, List.cons_append, List.cons.injEq] at same
    exact absurd same.1 other
  | .plain phrase, .plain phrase', r, s, same, endsR, endsS => by
    obtain ⟨rfl, rfl⟩ := phrase.append_inj phrase' same endsR endsS
    exact ⟨rfl, rfl⟩

theorem ComparisonPhrase.append_inj : ∀ (p q : ComparisonPhrase) {r s : List Token},
    p.tokens ++ r = q.tokens ++ s → EndsComparison r → EndsComparison s → p = q ∧ r = s
  | .single phrase, .single phrase', r, s, same, _, _ => by
    obtain ⟨rfl, rfl⟩ := phrase.append_inj phrase' same
    exact ⟨rfl, rfl⟩
  | .single phrase, .pair left op right, r, s, same, endsR, _ => by
    simp only [ComparisonPhrase.tokens, List.append_assoc, List.cons_append] at same
    exact absurd (phrase.append_inj left same).2 (endsR.noComparison _ _)
  | .pair left op right, .single phrase, r, s, same, _, endsS => by
    simp only [ComparisonPhrase.tokens, List.append_assoc, List.cons_append] at same
    exact absurd (left.append_inj phrase same).2.symm (endsS.noComparison _ _)
  | .pair left op right, .pair left' op' right', r, s, same, _, _ => by
    simp only [ComparisonPhrase.tokens, List.append_assoc, List.cons_append] at same
    obtain ⟨rfl, after⟩ := left.append_inj left' same
    simp only [List.cons.injEq, Token.comparison.injEq] at after
    obtain ⟨rfl, after⟩ := after
    obtain ⟨rfl, rfl⟩ := right.append_inj right' after
    exact ⟨rfl, rfl⟩

theorem PrimaryPhrase.append_inj : ∀ (p q : PrimaryPhrase) {r s : List Token},
    p.tokens ++ r = q.tokens ++ s → p = q ∧ r = s
  | p, q, r, s, same => by
    cases p with
    | group inner =>
      cases q with
      | group inner' =>
        simp only [PrimaryPhrase.tokens, List.cons_append, List.append_assoc, List.nil_append,
          List.cons.injEq, true_and] at same
        obtain ⟨rfl, after⟩ := inner.append_inj inner' same (.closing r) (.closing s)
        exact ⟨rfl, (List.cons.inj after).2⟩
      | _ => simp [PrimaryPhrase.tokens] at same
    | _ => cases q <;> simp_all [PrimaryPhrase.tokens]

end

/-- **The parser accepts exactly the grammar.** -/
theorem parsed_iff_phrase (ts : List Token) :
    (∀ n, Node.ofTokens ts = .ok n ↔ ∃ p : OrPhrase, p.tokens = ts ∧ p.node = n) ∧
      ∀ p q : OrPhrase, p.tokens = ts → q.tokens = ts → p = q := by
  constructor
  · intro n
    constructor
    · intro ok
      rw [Node.ofTokens] at ok
      split at ok
      · cases ok
      · rename_i parsed
        cases ok
        obtain ⟨p, whole, rfl⟩ := (Node.sound _).parseOr _ _ _ parsed
        exact ⟨p, by simpa using whole.symm, rfl⟩
      · cases ok
    · rintro ⟨p, rfl, rfl⟩
      exact Node.ofTokens_tokens p
  · intro p q hp hq
    have same : p.tokens ++ [] = q.tokens ++ [] := by rw [hp, hq]
    exact (p.append_inj q same .nil .nil).1

end Parley
