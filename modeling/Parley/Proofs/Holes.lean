import Parley.Expression.Basic
import Parley.Proofs.Grammar
import Parley.Proofs.Scanning

/-!
# Parley.Proofs.Holes

One expression in `${…}`, read as a bare expression and as a template. The two readings cut it out
in ways of their own: a bare expression ends before the last brace, a hole before the first. They
agree unless the expression has a closing brace of its own, which can only be in a string. Then the
hole ends inside the string, and the template is refused.

* `Expression.Alike`: expressions that nobody can tell apart but by their texts.
* `hole_agrees_iff`: the three readings of an expression.
-/

namespace Parley

namespace Expression

/-- The text in `${…}`. -/
def inHole (s : String) : String := "$\x7b" ++ s ++ "\x7d"

theorem toList_inHole (s : String) : (inHole s).toList = '$' :: '{' :: (s.toList ++ ['}']) := by
  simp [inHole]

/-- The same values everywhere, and the same effect of writing to them, or none. -/
structure Alike (e f : Expression) : Prop where
  value : ∀ property?, e.evalWith property? = f.evalWith property?
  settable : e.settable = f.settable
  assign : ∀ {σ : Type} [Properties σ] (value : Value) (target : σ),
    e.assign value target = f.assign value target ∨
      e.assign value target = .error (.notSettable e.source) ∧
        f.assign value target = .error (.notSettable f.source)

theorem evalWith_of_node {e : Expression} {n : Node} (tree : e.node? = some n)
    (property? : Path → Option Value) : e.evalWith property? = n.eval property? := by
  unfold node? at tree
  unfold evalWith
  split at tree
  · cases tree; rfl
  · cases tree; rfl
  · cases tree

/-- Expressions that are the same tree are alike. -/
theorem alike_of_node {e f : Expression} {n : Node} (he : e.node? = some n)
    (hf : f.node? = some n) : e.Alike f := by
  have target : e.target? = f.target? := by rw [target?, target?, he, hf]
  refine ⟨fun property? => ?_, ?_, fun value scope => ?_⟩
  · rw [evalWith_of_node he, evalWith_of_node hf]
  · rw [settable, settable, target]
  · rw [assign, assign, target]
    cases f.target? with
    | none => exact .inr ⟨rfl, rfl⟩
    | some path => exact .inl rfl

end Expression

/-! ## Trees of padded texts -/

namespace Token

theorem scan_unread {previous : Option Token} {cs : List Char} :
    scan previous '}' cs = .error (.unexpected '}') := by
  have pair : cs.head?.bind (pair? '}') = none := by
    cases cs with
    | nil => rfl
    | cons d cs => exact pair?_of_not_first (c := '}') (d := d) (by decide)
  rw [scan, if_neg (by decide), if_neg (by decide), pair]
  rfl

end Token

namespace Node

theorem ofChars_of_trimChars {cs : List Char} {n : Node}
    (read : ofChars (Text.trimChars cs) = .ok n) : ofChars cs = .ok n := by
  obtain ⟨ts, lexed, some, parsed⟩ := ofChars_eq_ok_iff.mp read
  obtain ⟨front, back, blankFront, blankBack, whole⟩ := Text.eq_gap_trimChars_gap cs
  refine ofChars_eq_ok_iff.mpr ⟨ts, ?_, some, parsed⟩
  rw [whole]
  exact Token.lex_between_gaps blankFront blankBack lexed

/-- What stands before a closing brace ends inside a string. -/
theorem ofChars_before_brace {before after : List Char} {n : Node}
    (read : ofChars (before ++ '}' :: after) = .ok n) :
    ofChars before = .error (.unterminatedString (String.ofList before)) := by
  obtain ⟨ts, lexed, _, _⟩ := ofChars_eq_ok_iff.mp read
  have apart : Token.Apart before ('}' :: after) := fun _ _ d next => by
    obtain rfl := Option.some.inj next
    exact Token.not_sticks (by decide) (by decide)
  have brace (previous : Option Token) :
      Token.lex previous ('}' :: after) = .error (.unexpected '}') := by
    rw [Token.lex_cons, Token.scan_unread]
    rfl
  have openString : Token.lex none before = .error .openString := by
    by_cases closed : Token.lex none before = .error .openString
    · exact closed
    rw [Token.tokens_eq_lex, Token.lex_append apart closed] at lexed
    cases came : Token.lex none before with
    | error e => simp [came, Except.bind] at lexed
    | ok ts => simp [came, Except.bind, brace, Except.map] at lexed
  have failed : tokens before = .error .openString := openString
  rw [ofChars, failed]
  rfl

end Node

/-! ## Templates of one hole -/

namespace Template

theorem inside_append {done before after : List Char} (free : '}' ∉ before) :
    inside done (before ++ '}' :: after) = .hole (done.reverse ++ before) :: outside [] after := by
  induction before generalizing done with
  | nil => simp [inside]
  | cons c before ih =>
    rw [List.mem_cons, not_or] at free
    have step : inside done (c :: (before ++ '}' :: after)) =
        inside (c :: done) (before ++ '}' :: after) := by
      rw [inside]
      intro same
      exact free.1 same.symm
    rw [List.cons_append, step, ih free.2]
    simp

theorem pieces_inHole {s : String} {before after : List Char}
    (cut : s.toList ++ ['}'] = before ++ '}' :: after) (free : '}' ∉ before) :
    pieces (Expression.inHole s).toList = .hole before :: outside [] after := by
  rw [pieces, Expression.toList_inHole, cut, outside, inside_append free]
  rfl

end Template

namespace Expression

theorem stripDelimiters_of_plain {s : String} (plain : isTemplate s = false) :
    stripDelimiters (Text.trimChars s.toList) = Text.trimChars s.toList := by
  rw [stripDelimiters]
  intro rest trimmed
  obtain ⟨front, back, _, _, whole⟩ := Text.eq_gap_trimChars_gap s.toList
  have opens : isTemplate s = true := by
    rw [isTemplate, Text.contains_iff]
    rw [trimmed] at whole
    exact ⟨front, rest ++ back, by rw [whole]; simp⟩
  rw [plain] at opens
  cases opens

theorem ofBare_eq_ok {s : String} {e : Expression} (plain : isTemplate s = false)
    (read : ofBare s = .ok e) :
    ∃ n, Node.ofChars (Text.trimChars s.toList) = .ok n ∧ e = ⟨s, .bare n⟩ := by
  rw [ofBare, stripDelimiters_of_plain plain] at read
  split at read
  · cases read
  · rename_i n tree
    cases read
    exact ⟨n, tree, rfl⟩

theorem ofBare_inHole {s : String} {n : Node}
    (read : Node.ofChars (Text.trimChars s.toList) = .ok n) :
    ofBare (inHole s) = .ok ⟨inHole s, .bare n⟩ := by
  have kept : Text.trimChars (inHole s).toList = (inHole s).toList := by
    rw [toList_inHole]
    apply Text.trimChars_eq_self
    · intro c first
      obtain rfl := Option.some.inj first
      rfl
    · intro c last
      have ending : '$' :: '{' :: (s.toList ++ ['}']) = ('$' :: '{' :: s.toList) ++ ['}'] := rfl
      rw [ending, List.getLast?_concat] at last
      obtain rfl := Option.some.inj last
      rfl
  have inner : stripDelimiters (inHole s).toList = Text.trimChars s.toList := by
    rw [toList_inHole, stripDelimiters, if_pos (by simp), List.dropLast_concat]
  rw [ofBare, kept, inner, read]

theorem ofTemplate_inHole_of_brace {s : String} {n : Node} {before after : List Char}
    (read : Node.ofChars s.toList = .ok n) (cut : s.toList = before ++ '}' :: after)
    (free : '}' ∉ before) :
    ofTemplate (inHole s) = .error (.unterminatedString (String.ofList before)) := by
  have failed := Node.ofChars_before_brace (cut ▸ read)
  have cutHole : s.toList ++ ['}'] = before ++ '}' :: (after ++ ['}']) := by simp [cut]
  rw [ofTemplate, Template.pieces_inHole cutHole free, Template.segments, failed]

theorem ofTemplate_inHole_of_no_brace {s : String} {n : Node}
    (read : Node.ofChars s.toList = .ok n) (free : '}' ∉ s.toList) :
    ofTemplate (inHole s) = .ok ⟨inHole s, .template [.hole n]⟩ := by
  rw [ofTemplate, Template.pieces_inHole rfl free]
  simp [Template.outside, Template.flush, Template.segments, read]

/-- **A hole agrees with the expression in it unless a brace in a string ends it early.** -/
theorem hole_agrees_iff (s : String) (e : Expression) (plain : isTemplate s = false)
    (read : ofBare s = .ok e) :
    (∃ b, ofBare (inHole s) = .ok b ∧ e.Alike b) ∧
      ((∃ t, ofTemplate (inHole s) = .ok t ∧ e.Alike t) ↔ '}' ∉ s.toList) ∧
      ∀ before after, s.toList = before ++ '}' :: after → '}' ∉ before →
        ofTemplate (inHole s) = .error (.unterminatedString (String.ofList before)) := by
  obtain ⟨n, tree, rfl⟩ := ofBare_eq_ok plain read
  have whole : Node.ofChars s.toList = .ok n := Node.ofChars_of_trimChars tree
  refine ⟨⟨_, ofBare_inHole tree, alike_of_node rfl rfl⟩, ⟨?_, ?_⟩, ?_⟩
  · rintro ⟨t, made, _⟩ mem
    obtain ⟨before, after, cut, free⟩ := List.eq_append_cons_of_mem mem
    rw [ofTemplate_inHole_of_brace whole cut free] at made
    cases made
  · intro free
    exact ⟨_, ofTemplate_inHole_of_no_brace whole free, alike_of_node rfl rfl⟩
  · intro before after cut free
    exact ofTemplate_inHole_of_brace whole cut free

theorem brace_free_hole_agrees :
    (∃ b, ofBare (inHole "lamp") = .ok b) ∧ ∃ t, ofTemplate (inHole "lamp") = .ok t := by
  have agrees := hole_agrees_iff "lamp" _ (by decide) rfl
  obtain ⟨b, bare, _⟩ := agrees.1
  obtain ⟨t, made, _⟩ := agrees.2.1.mpr (by decide)
  exact ⟨⟨b, bare⟩, ⟨t, made⟩⟩

theorem brace_in_string_ends_hole :
    isTemplate "'\x7d'" = false ∧ (∃ e, ofBare "'\x7d'" = .ok e) ∧
      ∀ t, ofTemplate (inHole "'\x7d'") ≠ .ok t := by
  have cut : "'\x7d'".toList = ['\''] ++ '}' :: ['\''] := rfl
  have ends := ofTemplate_inHole_of_brace (n := .literal (.text "\x7d")) rfl cut (by decide)
  refine ⟨by decide, ⟨_, rfl⟩, fun t made => ?_⟩
  rw [ends] at made
  cases made

end Expression

end Parley
