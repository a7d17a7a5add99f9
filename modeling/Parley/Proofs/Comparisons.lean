import Parley.Proofs.Reals

/-!
# Parley.Proofs.Comparisons

When the comparison operators go together. Order reads both operands as reals where it can, and
else compares texts; equality allows numbers a tolerance, and compares all else by what is
displayed. The two differ in three ways only: between numbers near each other, between two
spellings of one number, and for the word that is no number. The order leads on among operands
that all read as reals, and among texts of which at most one does.

* `Value.ReadAs`, `Value.ShownAs`: how two numbers compare, and how all others do.
* `Value.or_equal_iff`, `Value.less_and_equal_iff`, `Value.less_trans`: the laws.
* `Node.comparisons_cohere_iff`: the laws for the operators of expressions.
-/

namespace Parley

namespace Extended

/-- One lies below the other: finite numbers by size, all of them between the infinities. -/
inductive Below : Extended → Extended → Prop where
  | size {x y : Double} (less : x.units < y.units) : Below (.finite x) (.finite y)
  | bottom {y : Double} : Below (.infinite true) (.finite y)
  | top {x : Double} : Below (.finite x) (.infinite false)
  | across : Below (.infinite true) (.infinite false)

variable {x y z : Extended}

theorem Below.trans (h : x.Below y) (h' : y.Below z) : x.Below z := by
  cases h with
  | size less =>
    cases h' with
    | size more => exact .size (less.trans more)
    | top => exact .top
  | bottom =>
    cases h' with
    | size => exact .bottom
    | top => exact .across
  | top => nomatch h'
  | across => nomatch h'

theorem compare?_eq_lt_iff : x.compare? y = some .lt ↔ x.Below y := by
  constructor
  · intro less
    cases x with
    | notANumber => cases less
    | finite a =>
      cases y with
      | notANumber => cases less
      | finite b => exact .size (compare_lt_iff_lt.mp (Option.some.inj less))
      | infinite n =>
        cases n with
        | true => cases less
        | false => exact .top
    | infinite m =>
      cases y with
      | notANumber => cases less
      | finite b =>
        cases m with
        | true => exact .bottom
        | false => cases less
      | infinite n =>
        cases m <;> cases n
        · cases less
        · cases less
        · exact .across
        · cases less
  · intro below
    cases below with
    | size less => exact congrArg some (compare_lt_iff_lt.mpr less)
    | bottom | top | across => rfl

/-- Everything is level with itself but what is no number. -/
theorem compare?_self (number : x ≠ .notANumber) : x.compare? x = some .eq := by
  cases x with
  | notANumber => exact absurd rfl number
  | finite a => exact congrArg some (compare_eq_iff_eq.mpr rfl)
  | infinite m => simp [compare?]

end Extended

namespace Double

theorem pow_sub_pow_bounds {a b c : ℕ} (less : a < b) (below : b < c) :
    0 < Nat.pow 2 b - Nat.pow 2 a ∧ Nat.pow 2 b - Nat.pow 2 a < Nat.pow 2 c :=
  ⟨Nat.sub_pos_of_lt (Nat.pow_lt_pow_right one_lt_two less),
    (Nat.sub_le _ _).trans_lt (Nat.pow_lt_pow_right one_lt_two below)⟩

/-- The tolerance is positive and below the distance of integers. -/
theorem tolerance_bounds : 0 < tolerance ∧ tolerance < Nat.pow 2 1074 := by
  unfold tolerance
  apply pow_sub_pow_bounds <;> decide

theorem tolerance_pos : 0 < tolerance := tolerance_bounds.1

end Double

namespace Value

/-- What the laws of comparison are about: numbers of documents, and texts. -/
inductive Operand : Value → Prop where
  | number {n : Number} (document : n.InDocument) : Operand (.number n)
  | text (s : String) : Operand (.text s)

/-- Both are numbers, and so their equality is not that of texts. -/
def Numeric (l r : Value) : Prop := ∃ m n, l = .number m ∧ r = .number n

/-- Two numbers of which the first is less, so near each other that they count as equal. -/
def Blurs (l r : Value) : Prop :=
  ∃ m n x y, l = .number m ∧ r = .number n ∧ m.toDouble? = some x ∧ n.toDouble? = some y ∧
    x.units < y.units ∧ x.near y = true

/-- A number and a text, or two texts, that read as one number and are written differently. -/
def Respelled (l r : Value) : Prop :=
  ¬ Numeric l r ∧ l.display ≠ r.display ∧
    ∃ x y, l.asReal? = some x ∧ r.asReal? = some y ∧ x.compare? y = some .eq

/-- One and the same text, the word for what is no number. -/
def Undefined (l r : Value) : Prop := l = r ∧ l.asReal? = some .notANumber

variable {v l r k : Value}

/-! ## Texts, and numbers beside texts -/

theorem equal_iff_display (hl : l.Operand) (hr : r.Operand) (mixed : ¬ Numeric l r) :
    l.equal r = true ↔ l.display = r.display := by
  cases hl with
  | text s =>
    cases hr with
    | text t => exact decide_eq_true_iff
    | number => exact decide_eq_true_iff
  | number =>
    cases hr with
    | text t => exact decide_eq_true_iff.trans eq_comm
    | number => exact absurd ⟨_, _, rfl, rfl⟩ mixed

theorem display_number (n : Number) : (number n).display = n.text := by
  simp [display, json, write]

theorem asReal?_of_display_eq (hl : l.Operand) (hr : r.Operand) (mixed : ¬ Numeric l r)
    (same : l.display = r.display) : l.asReal? = r.asReal? := by
  cases hl with
  | text s =>
    cases hr with
    | text t => exact congrArg (fun u => (text u).asReal?) same
    | @number n document =>
      rw [display_number] at same
      obtain rfl : s = n.text := same
      exact Number.asReal?_text document
  | @number n document =>
    cases hr with
    | text t =>
      rw [display_number] at same
      obtain rfl : n.text = t := same
      exact (Number.asReal?_text document).symm
    | number => exact absurd ⟨_, _, rfl, rfl⟩ mixed

theorem order?_of_read {x y : Extended} (hx : l.asReal? = some x) (hy : r.asReal? = some y) :
    l.order? r = x.compare? y := by
  simp only [order?, hx, hy]

theorem order?_of_unread {s t : String}
    (unread : (text s).asReal? = none ∨ (text t).asReal? = none) :
    (text s).order? (text t) = some (compare s t) := by
  unfold order?
  split
  · rename_i hx hy
    rcases unread with none | none
    · rw [none] at hx
      cases hx
    · rw [none] at hy
      cases hy
  · rfl

theorem read_of_operand {n : Number} (h : (number n).Operand) :
    ∃ x, n.toDouble? = some x ∧ (number n).asReal? = some (.finite x) := by
  cases h with
  | number document =>
    obtain ⟨x, double⟩ := Number.exists_toDouble? document
    exact ⟨x, double, by rw [asReal?, double]; rfl⟩

/-- Only texts can read as something else than a finite number, or not at all. -/
theorem text_of_not_finite (h : v.Operand) (other : ∀ x, v.asReal? ≠ some (.finite x)) :
    ∃ s, v = text s := by
  cases h with
  | text s => exact ⟨s, rfl⟩
  | number document =>
    obtain ⟨x, -, read⟩ := read_of_operand (.number document)
    exact absurd read (other x)

/-- The order of operands of which one does not read as a number is that of texts, or none. -/
theorem texts_of_order? (hl : l.Operand) (hr : r.Operand) {o : Ordering}
    (unread : l.asReal? = none ∨ r.asReal? = none) (ordered : l.order? r = some o) :
    ∃ s t, l = text s ∧ r = text t ∧ compare s t = o := by
  have texts : ∃ s t, l = text s ∧ r = text t := by
    unfold order? at ordered
    split at ordered
    · rename_i hx hy
      rcases unread with none | none
      · rw [none] at hx
        cases hx
      · rw [none] at hy
        cases hy
    · split at ordered
      · exact ⟨_, _, rfl, rfl⟩
      · cases ordered
  obtain ⟨s, t, rfl, rfl⟩ := texts
  rw [order?_of_unread unread] at ordered
  exact ⟨s, t, rfl, rfl, Option.some.inj ordered⟩

/-- What is displayed alike is level, or the word for what is no number. -/
theorem order?_of_display_eq (hl : l.Operand) (hr : r.Operand) (mixed : ¬ Numeric l r)
    (same : l.display = r.display) :
    l.order? r = some .eq ∧ ¬ Undefined l r ∨ l.order? r = none ∧ Undefined l r := by
  have reals := asReal?_of_display_eq hl hr mixed same
  have texts (other : ∀ x, l.asReal? ≠ some (.finite x)) : ∃ s, l = text s ∧ r = text s := by
    obtain ⟨s, rfl⟩ := text_of_not_finite hl other
    obtain ⟨t, rfl⟩ := text_of_not_finite hr (reals ▸ other)
    obtain rfl : s = t := same
    exact ⟨s, rfl, rfl⟩
  cases read : l.asReal? with
  | none =>
    obtain ⟨s, rfl, rfl⟩ := texts (by simp [read])
    refine .inl ⟨?_, fun undefined => ?_⟩
    · rw [order?_of_unread (.inl read)]
      exact congrArg some Std.ReflCmp.compare_self
    · cases read.symm.trans undefined.2
  | some x =>
    have ordered := order?_of_read read (reals ▸ read)
    by_cases word : x = .notANumber
    · subst word
      obtain ⟨s, rfl, rfl⟩ := texts (by simp [read])
      exact .inr ⟨ordered, rfl, read⟩
    · refine .inl ⟨by rw [ordered, Extended.compare?_self word], fun undefined => ?_⟩
      exact word (Option.some.inj (read.symm.trans undefined.2))

theorem respelled_iff (hl : l.Operand) (hr : r.Operand) (mixed : ¬ Numeric l r) :
    Respelled l r ↔ l.display ≠ r.display ∧ l.order? r = some .eq := by
  constructor
  · rintro ⟨-, differ, x, y, hx, hy, level⟩
    exact ⟨differ, by rw [order?_of_read hx hy, level]⟩
  · rintro ⟨differ, level⟩
    by_cases unread : l.asReal? = none ∨ r.asReal? = none
    · obtain ⟨s, t, rfl, rfl, same⟩ := texts_of_order? hl hr unread level
      exact absurd (Std.LawfulEqCmp.eq_of_compare same) differ
    · rw [not_or] at unread
      obtain ⟨x, hx⟩ := Option.ne_none_iff_exists'.mp unread.1
      obtain ⟨y, hy⟩ := Option.ne_none_iff_exists'.mp unread.2
      rw [order?_of_read hx hy] at level
      exact ⟨mixed, differ, x, y, hx, hy, level⟩

/-! ## Two numbers -/

variable {m n : Number} {x y : Double}

theorem order?_numbers (hm : m.toDouble? = some x) (hn : n.toDouble? = some y) :
    (number m).order? (number n) = some (Ord.compare x.units y.units) := by
  have hx : (number m).asReal? = some (.finite x) := by rw [asReal?, hm]; rfl
  have hy : (number n).asReal? = some (.finite y) := by rw [asReal?, hn]; rfl
  rw [order?_of_read hx hy]
  rfl

theorem equal_numbers (hm : m.toDouble? = some x) (hn : n.toDouble? = some y) :
    (number m).equal (number n) = x.near y := by
  rw [equal, hm, hn]

theorem blurs_numbers (hm : m.toDouble? = some x) (hn : n.toDouble? = some y) :
    Blurs (number m) (number n) ↔ x.units < y.units ∧ x.near y = true := by
  constructor
  · rintro ⟨_, _, x', y', ⟨rfl⟩, ⟨rfl⟩, hx, hy, less, near⟩
    obtain rfl := Option.some.inj (hm.symm.trans hx)
    obtain rfl := Option.some.inj (hn.symm.trans hy)
    exact ⟨less, near⟩
  · rintro ⟨less, near⟩
    exact ⟨m, n, x, y, rfl, rfl, hm, hn, less, near⟩

/-! ## The laws -/

/-- What the comparison operators say, in terms of order and equality. -/
theorem holds_iff : (Comparison.equal.holds l r = true ↔ l.equal r = true) ∧
    (Comparison.less.holds l r = true ↔ l.order? r = some .lt) ∧
    (Comparison.greater.holds l r = true ↔ l.order? r = some .gt) ∧
    (Comparison.lessOrEqual.holds l r = true ↔
      l.order? r = some .lt ∨ l.order? r = some .eq) ∧
    (Comparison.greaterOrEqual.holds l r = true ↔
      l.order? r = some .gt ∨ l.order? r = some .eq) := by
  simp [Comparison.holds]

theorem near_comm (x y : Double) : x.near y = y.near x := by
  rw [Double.near, Double.near, ← Int.natAbs_neg, Int.neg_sub]

theorem near_of_units_eq (same : x.units = y.units) : x.near y = true := by
  simpa [Double.near, same] using Double.tolerance_pos

/-- Two numbers are compared as the doubles that they are read as. -/
structure ReadAs (l r : Value) (x y : Double) : Prop where
  order : l.order? r = some (Ord.compare x.units y.units)
  equal : l.equal r = x.near y
  less : Blurs l r ↔ x.units < y.units ∧ x.near y = true
  greater : Blurs r l ↔ y.units < x.units ∧ x.near y = true
  plain : ¬ (Respelled l r ∨ Undefined l r)

theorem exists_readAs (hl : l.Operand) (hr : r.Operand) (both : Numeric l r) :
    ∃ x y, ReadAs l r x y := by
  obtain ⟨m, n, rfl, rfl⟩ := both
  obtain ⟨x, hm, hx⟩ := read_of_operand hl
  obtain ⟨y, hn, hy⟩ := read_of_operand hr
  refine ⟨x, y, order?_numbers hm hn, equal_numbers hm hn, blurs_numbers hm hn, ?_, ?_⟩
  · rw [near_comm]
    exact blurs_numbers hn hm
  · rintro (⟨mixed, -⟩ | ⟨-, word⟩)
    · exact mixed ⟨m, n, rfl, rfl⟩
    · cases hx.symm.trans word

/-- Elsewhere equality is that of the texts that are displayed. -/
structure ShownAs (l r : Value) (same : Prop) : Prop where
  equal : l.equal r = true ↔ same
  apart : ¬ (Blurs l r ∨ Blurs r l)
  respelled : Respelled l r ↔ ¬ same ∧ l.order? r = some .eq
  level : same → l.order? r = some .eq ∧ ¬ Undefined l r ∨ l.order? r = none ∧ Undefined l r
  undefined : Undefined l r → same

theorem shownAs (hl : l.Operand) (hr : r.Operand) (mixed : ¬ Numeric l r) :
    ShownAs l r (l.display = r.display) := by
  refine ⟨equal_iff_display hl hr mixed, ?_, respelled_iff hl hr mixed,
    order?_of_display_eq hl hr mixed, fun undefined => congrArg display undefined.1⟩
  rintro (⟨m, n, -, -, hl, hr, -⟩ | ⟨m, n, -, -, hr, hl, -⟩)
  · exact mixed ⟨m, n, hl, hr⟩
  · exact mixed ⟨n, m, hl, hr⟩

/-- What is displayed alike is to neither side of each other. -/
theorem ShownAs.not_ordered {same : Prop} (as : ShownAs l r same) {o : Ordering}
    (strict : o ≠ .eq) : ¬ (l.order? r = some o ∧ l.equal r = true) := by
  rintro ⟨ordered, equal⟩
  rcases as.level (as.equal.mp equal) with ⟨level, -⟩ | ⟨level, -⟩ <;> rw [ordered] at level
  · exact strict (Option.some.inj level)
  · cases level

/-- What is less is equal only where two numbers are near each other. -/
theorem less_and_equal_iff (hl : l.Operand) (hr : r.Operand) :
    l.order? r = some .lt ∧ l.equal r = true ↔ Blurs l r := by
  by_cases both : Numeric l r
  · obtain ⟨x, y, as⟩ := exists_readAs hl hr both
    rw [as.order, as.equal, as.less, Option.some_inj, compare_lt_iff_lt]
  · have as := shownAs hl hr both
    exact iff_of_false (as.not_ordered (by decide)) fun blurs => as.apart (.inl blurs)

theorem greater_and_equal_iff (hl : l.Operand) (hr : r.Operand) :
    l.order? r = some .gt ∧ l.equal r = true ↔ Blurs r l := by
  by_cases both : Numeric l r
  · obtain ⟨x, y, as⟩ := exists_readAs hl hr both
    rw [as.order, as.equal, as.greater, Option.some_inj, compare_gt_iff_gt]
  · have as := shownAs hl hr both
    exact iff_of_false (as.not_ordered (by decide)) fun blurs => as.apart (.inr blurs)

/-- An order to one side or none, against that order or equality. -/
theorem or_equal_iff (hl : l.Operand) (hr : r.Operand) {o : Ordering} (strict : o ≠ .eq) :
    ((l.order? r = some o ∨ l.order? r = some .eq ↔ l.order? r = some o ∨ l.equal r = true) ↔
      ¬ ((l.order? r = some o.swap ∧ l.equal r = true) ∨ Respelled l r ∨ Undefined l r)) := by
  have unstrict : o.swap ≠ .eq := by cases o <;> simp_all
  by_cases both : Numeric l r
  · -- Numbers that are level are near, so the law can only fail on the other side.
    obtain ⟨x, y, as⟩ := exists_readAs hl hr both
    have level : Ord.compare x.units y.units = .eq → x.near y = true := fun same =>
      near_of_units_eq (compare_eq_iff_eq.mp same)
    rw [or_iff_left as.plain, as.order, as.equal]
    simp only [Option.some_inj]
    generalize Ord.compare x.units y.units = c at level
    cases o <;> cases c <;> simp_all
  · -- What is displayed alike is level or undefined; all else is not equal.
    have as := shownAs hl hr both
    rw [as.equal, as.respelled]
    by_cases same : l.display = r.display
    · rcases as.level same with ⟨level, defined⟩ | ⟨level, undefined⟩
      · simp [level, same, defined, strict.symm, unstrict.symm]
      · simp [level, same, undefined]
    · have defined : ¬ Undefined l r := fun undefined => same (as.undefined undefined)
      have other : ¬ (l.order? r = some o ∧ l.order? r = some .eq) := fun ⟨order, level⟩ =>
        strict (Option.some.inj (order.symm.trans level))
      simp only [same, defined, not_false_eq_true, true_and, and_false, or_false, false_or]
      constructor
      · intro law level
        exact other ⟨law.mp (.inr level), level⟩
      · intro unlevel
        exact or_iff_left unlevel

theorem less_trans_of_read {x y z : Extended} (hx : l.asReal? = some x) (hy : r.asReal? = some y)
    (hz : k.asReal? = some z) (less : l.order? r = some .lt) (more : r.order? k = some .lt) :
    l.order? k = some .lt := by
  rw [order?_of_read hx hy, Extended.compare?_eq_lt_iff] at less
  rw [order?_of_read hy hz, Extended.compare?_eq_lt_iff] at more
  rw [order?_of_read hx hz, Extended.compare?_eq_lt_iff]
  exact less.trans more

theorem less_trans_of_unread (hl : l.Operand) (hr : r.Operand) (hk : k.Operand)
    (unreadL : l.asReal? = none ∨ r.asReal? = none) (unreadR : r.asReal? = none ∨ k.asReal? = none)
    (unread : l.asReal? = none ∨ k.asReal? = none)
    (less : l.order? r = some .lt) (more : r.order? k = some .lt) : l.order? k = some .lt := by
  obtain ⟨s, t, rfl, rfl, before⟩ := texts_of_order? hl hr unreadL less
  obtain ⟨_, u, ⟨rfl⟩, rfl, behind⟩ := texts_of_order? hr hk unreadR more
  rw [order?_of_unread unread]
  exact congrArg some (Std.TransCmp.lt_trans before behind)

/-- The order leads on unless two of three operands read as numbers and one does not. -/
theorem less_trans (hl : l.Operand) (hr : r.Operand) (hk : k.Operand)
    (less : l.order? r = some .lt) (more : r.order? k = some .lt) :
    l.order? k = some .lt ∨ [l, r, k].countP (fun v => v.asReal?.isSome) = 2 := by
  cases hx : l.asReal? with
  | none =>
    cases hy : r.asReal? with
    | none => exact .inl (less_trans_of_unread hl hr hk (.inl hx) (.inl hy) (.inl hx) less more)
    | some y =>
      cases hz : k.asReal? with
      | none => exact .inl (less_trans_of_unread hl hr hk (.inl hx) (.inr hz) (.inl hx) less more)
      | some z => exact .inr (by simp [hx, hy, hz])
  | some x =>
    cases hy : r.asReal? with
    | none =>
      cases hz : k.asReal? with
      | none => exact .inl (less_trans_of_unread hl hr hk (.inr hy) (.inl hy) (.inr hz) less more)
      | some z => exact .inr (by simp [hx, hy, hz])
    | some y =>
      cases hz : k.asReal? with
      | none => exact .inr (by simp [hx, hy, hz])
      | some z => exact .inl (less_trans_of_read hx hy hz less more)

end Value

namespace Node

open Value

/-- The comparison of the two expressions is true. -/
def Affirms (property? : Path → Option Value) (op : Comparison) (left right : Node) : Prop :=
  (compare op left right).eval property? = .bool true

variable {property? : Path → Option Value} {a b c : Node} {l r k : Value}

theorem affirms_iff {op : Comparison} (ha : a.eval property? = l) (hb : b.eval property? = r) :
    Affirms property? op a b ↔ op.holds l r = true := by
  rw [Affirms, eval, ha, hb, Value.bool.injEq]

/-- **Where the laws of comparison hold.** What is less or equal by its operator is so by the two
others, and what is less is not equal, but for numbers that are near each other, one number
written in two ways, and the word for what is no number. The order leads on unless two of three
operands read as numbers and one does not. -/
theorem comparisons_cohere_iff (ha : a.eval property? = l) (hb : b.eval property? = r)
    (hc : c.eval property? = k) (hl : l.Operand) (hr : r.Operand) (hk : k.Operand) :
    ((Affirms property? .lessOrEqual a b ↔
        Affirms property? .less a b ∨ Affirms property? .equal a b) ↔
      ¬ (Blurs r l ∨ Respelled l r ∨ Undefined l r)) ∧
    ((Affirms property? .greaterOrEqual a b ↔
        Affirms property? .greater a b ∨ Affirms property? .equal a b) ↔
      ¬ (Blurs l r ∨ Respelled l r ∨ Undefined l r)) ∧
    (Affirms property? .less a b ∧ Affirms property? .equal a b ↔ Blurs l r) ∧
    (Affirms property? .less a b → Affirms property? .less b c →
      Affirms property? .less a c ∨ [l, r, k].countP (fun v => v.asReal?.isSome) = 2) := by
  obtain ⟨equal, less, greater, lessOrEqual, greaterOrEqual⟩ := holds_iff (l := l) (r := r)
  have law {o : Ordering} := or_equal_iff hl hr (o := o)
  simp only [affirms_iff ha hb, affirms_iff hb hc, affirms_iff ha hc, equal, less, greater,
    lessOrEqual, greaterOrEqual]
  refine ⟨?_, ?_, less_and_equal_iff hl hr, fun before behind => ?_⟩
  · rw [law (by decide), ← greater_and_equal_iff hl hr]
    rfl
  · rw [law (by decide), ← less_and_equal_iff hl hr]
    rfl
  · simp only [holds_iff] at behind ⊢
    exact less_trans hl hr hk before behind

theorem texts_cohere :
    let none : Path → Option Value := fun _ => none
    let lamp := literal (.text "lamp")
    let oil := literal (.text "oil")
    let wick := literal (.text "wick")
    Affirms none .less lamp oil ∧ Affirms none .less oil wick ∧ Affirms none .less lamp wick := by
  intro none lamp oil wick
  have ha : lamp.eval none = .text "lamp" := rfl
  have hb : oil.eval none = .text "oil" := rfl
  have hc : wick.eval none = .text "wick" := rfl
  have before : Affirms none .less lamp oil := (affirms_iff ha hb).mpr (by decide)
  have behind : Affirms none .less oil wick := (affirms_iff hb hc).mpr (by decide)
  obtain ⟨-, -, -, on⟩ := comparisons_cohere_iff ha hb hc (.text _) (.text _) (.text _)
  exact ⟨before, behind, (on before behind).resolve_right (by decide)⟩

/-- Each of the four laws is broken. -/
theorem comparisons_incoherent :
    (¬ ∀ l r : Value, l.Operand → r.Operand → (Comparison.lessOrEqual.holds l r = true ↔
      Comparison.less.holds l r = true ∨ Comparison.equal.holds l r = true)) ∧
    (¬ ∀ l r : Value, l.Operand → r.Operand → (Comparison.greaterOrEqual.holds l r = true ↔
      Comparison.greater.holds l r = true ∨ Comparison.equal.holds l r = true)) ∧
    (¬ ∀ l r : Value, l.Operand → r.Operand →
      ¬ (Comparison.less.holds l r = true ∧ Comparison.equal.holds l r = true)) ∧
    ¬ ∀ l r k : Value, l.Operand → r.Operand → k.Operand → Comparison.less.holds l r = true →
      Comparison.less.holds r k = true → Comparison.less.holds l k = true := by
  have one : (Value.number (.int 1)).Operand := .number ⟨by decide, by decide⟩
  have zero : (Value.number (.int 0)).Operand := .number ⟨by decide, by decide⟩
  have small : (Value.number (.float ⟨false, 2 ^ 52, -105, by decide⟩)).Operand := .number trivial
  refine ⟨fun law => ?_, fun law => ?_, fun law => ?_, fun law => ?_⟩
  · have broken := (law _ _ one (.text "1.0")).mp (by decide +kernel)
    revert broken
    decide +kernel
  · have broken := (law _ _ one (.text "1.0")).mp (by decide +kernel)
    revert broken
    decide +kernel
  · exact law _ _ zero small (by decide +kernel)
  · have broken := law _ _ _ (.text "10") (.text "1a") (.text "9") (by decide) (by decide)
    revert broken
    decide +kernel

end Node

end Parley
