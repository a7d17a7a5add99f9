import Parley.Proofs.Comparisons

/-!
# Parley.Proofs.Integers

Integers are compared as the doubles nearest to them. These are integers too, in the same order,
and too far apart to be near each other, so that the comparison is that of integers unless both are
read as one double.

* `Comparison.Relates`: the operators on the members of an order.
* `Node.affirms_integers_iff`: integers compare as their doubles.
* `Node.integers_compared_iff`: when that is the comparison of integers.
-/

namespace Parley

namespace Comparison

/-- What the operators say of the members of an order, which contain nothing. -/
def Relates {α : Type} [LinearOrder α] (op : Comparison) (a b : α) : Prop :=
  match op with
  | equal => a = b
  | notEqual => a ≠ b
  | greater => b < a
  | less => a < b
  | greaterOrEqual => b ≤ a
  | lessOrEqual => a ≤ b
  | contains => False

variable {α β : Type} [LinearOrder α] [LinearOrder β] {a b : α} {x y : β}

theorem relates_congr (less : a < b ↔ x < y) (greater : b < a ↔ y < x) (op : Comparison) :
    op.Relates a b ↔ op.Relates x y := by
  have same : a = b ↔ x = y := by
    rw [eq_iff_le_not_lt, eq_iff_le_not_lt, ← not_lt, ← not_lt, less, greater]
  cases op with
  | equal => exact same
  | notEqual => exact not_congr same
  | greater => exact greater
  | less => exact less
  | greaterOrEqual => exact not_lt.symm.trans ((not_congr less).trans not_lt)
  | lessOrEqual => exact not_lt.symm.trans ((not_congr greater).trans not_lt)
  | contains => exact Iff.rfl

end Comparison

namespace Double

variable {x y : Double} {i j : ℤ}

/-- Integers are too far apart to be near each other. -/
theorem near_iff_of_whole (hx : x.value = i) (hy : y.value = j) :
    x.near y = true ↔ x.value = y.value := by
  have far := tolerance_bounds.2
  rw [hx, hy, Int.cast_inj, near, decide_eq_true_iff, units_eq_mul_iff.mpr hx,
    units_eq_mul_iff.mpr hy,
    ← Int.sub_mul, Int.natAbs_mul, Int.natAbs_natCast]
  generalize Nat.pow 2 1074 = unit at far
  constructor
  · intro near
    by_contra differ
    -- Different integers are a whole unit apart, which is more than the tolerance.
    have apart : 1 ≤ (i - j).natAbs := by omega
    have reach := Nat.mul_le_mul_right unit apart
    omega
  · rintro rfl
    simpa using tolerance_pos

end Double

namespace Number

/-- The two integers are read as one double. -/
def Coincide (a b : ℤ) : Prop :=
  ∃ x y, Double.ofInt? a = some x ∧ Double.ofInt? b = some y ∧ x.value = y.value

variable {a b : ℤ} {x y : Double}

theorem Fits64.inDocument (fits : Fits64 a) : (int a).InDocument :=
  ⟨fits.1, fits.2.trans (by decide)⟩

theorem coincide_iff (hx : Double.ofInt? a = some x) (hy : Double.ofInt? b = some y) :
    Coincide a b ↔ x.value = y.value := by
  constructor
  · rintro ⟨x', y', hx', hy', same⟩
    rw [hx] at hx'
    rw [hy] at hy'
    cases hx'
    cases hy'
    exact same
  · intro same
    exact ⟨x, y, hx, hy, same⟩

/-- Integers of at most fifty-three binary digits are doubles of their own. -/
theorem eq_of_coincide (smallA : a.natAbs ≤ 2 ^ 53) (smallB : b.natAbs ≤ 2 ^ 53)
    (same : Coincide a b) : a = b := by
  obtain ⟨x, y, hx, hy, same⟩ := same
  rw [Double.value_of_natAbs_le hx smallA, Double.value_of_natAbs_le hy smallB] at same
  exact_mod_cast same

/-- Integers that are not read as one double are in the order of their doubles. -/
theorem lt_iff_of_apart (hx : Double.ofInt? a = some x) (hy : Double.ofInt? b = some y)
    (apart : x.value ≠ y.value) : a < b ↔ x.value < y.value := by
  constructor
  · intro less
    exact lt_of_le_of_ne (Double.value_mono hx hy less.le) apart
  · intro less
    by_contra more
    exact absurd (Double.value_mono hy hx (not_lt.mp more)) (not_le.mpr less)

end Number

namespace Node

open Number

variable {property? : Path → Option Value} {left right : Node} {a b : ℤ} {x y : Double}

/-- Integers are compared as the doubles that they are read as. -/
theorem affirms_integers_iff (hl : left.eval property? = .number (.int a))
    (hr : right.eval property? = .number (.int b)) (hx : Double.ofInt? a = some x)
    (hy : Double.ofInt? b = some y) (op : Comparison) :
    Affirms property? op left right ↔ op.Relates x.value y.value := by
  obtain ⟨i, wholeX⟩ := Double.exists_int_value hx
  obtain ⟨j, wholeY⟩ := Double.exists_int_value hy
  have order := Value.order?_numbers (m := .int a) (n := .int b) hx hy
  have same : (Value.number (.int a)).equal (.number (.int b)) = true ↔ x.value = y.value := by
    rw [Value.equal_numbers (m := .int a) (n := .int b) hx hy,
      Double.near_iff_of_whole wholeX wholeY]
  have level : (Value.number (.int a)).order? (.number (.int b)) = some .eq ↔
      x.value = y.value := by
    rw [order, Option.some_inj, compare_eq_iff_eq, Double.units_eq_iff]
  have less : (Value.number (.int a)).order? (.number (.int b)) = some .lt ↔
      x.value < y.value := by
    rw [order, Option.some_inj, compare_lt_iff_lt, Double.units_lt_iff]
  have greater : (Value.number (.int a)).order? (.number (.int b)) = some .gt ↔
      y.value < x.value := by
    rw [order, Option.some_inj, compare_gt_iff_gt, Double.units_lt_iff]
  obtain ⟨equals, precedes, exceeds, precedesOr, exceedsOr⟩ :=
    Value.holds_iff (l := .number (.int a)) (r := .number (.int b))
  rw [affirms_iff hl hr]
  cases op with
  | equal => exact equals.trans same
  | notEqual => simp [Comparison.holds, Comparison.Relates, ← same]
  | greater => exact exceeds.trans greater
  | less => exact precedes.trans less
  | greaterOrEqual =>
    rw [exceedsOr, greater, level, eq_comm]
    exact le_iff_lt_or_eq.symm
  | lessOrEqual =>
    rw [precedesOr, less, level]
    exact le_iff_lt_or_eq.symm
  | contains => simp [Comparison.holds, Comparison.Relates, Value.holds]

/-- **Integers compare as integers exactly when they are not read as one double.** Others are
compared as if they were the same. Below fifty-four binary digits there are none. -/
theorem integers_compared_iff (hl : left.eval property? = .number (.int a))
    (hr : right.eval property? = .number (.int b)) (fitsA : Fits64 a) (fitsB : Fits64 b) :
    ((∀ op : Comparison, Affirms property? op left right ↔ op.Relates a b) ↔
      a = b ∨ ¬ Coincide a b) ∧
    (Coincide a b → ∀ op : Comparison, Affirms property? op left right ↔ op.Relates a a) ∧
    (a.natAbs ≤ 2 ^ 53 → b.natAbs ≤ 2 ^ 53 → Coincide a b → a = b) := by
  obtain ⟨x, hx⟩ := exists_toDouble? fitsA.inDocument
  obtain ⟨y, hy⟩ := exists_toDouble? fitsB.inDocument
  have read := affirms_integers_iff hl hr hx hy
  have coincide := coincide_iff hx hy
  have level (same : x.value = y.value) (op : Comparison) :
      Affirms property? op left right ↔ op.Relates a a := by
    rw [read op, same]
    exact Comparison.relates_congr (by simp) (by simp) op
  refine ⟨⟨fun law => ?_, ?_⟩, fun same => level (coincide.mp same), eq_of_coincide⟩
  · by_cases same : Coincide a b
    · exact .inl ((law .equal).mp ((level (coincide.mp same) .equal).mpr rfl))
    · exact .inr same
  · rintro (rfl | apart) op
    · have same : x = y := Option.some.inj (hx.symm.trans hy)
      exact level (congrArg _ same) op
    · rw [coincide] at apart
      rw [read op]
      exact (Comparison.relates_congr (lt_iff_of_apart hx hy apart)
        (lt_iff_of_apart hy hx (Ne.symm apart)) op).symm

theorem small_integers_compared :
    let none : Path → Option Value := fun _ => none
    let three := literal (.number (.int 3))
    let seven := literal (.number (.int 7))
    Affirms none .less three seven ∧ ¬ Affirms none .equal three seven := by
  intro none three seven
  have hl : three.eval none = .number (.int 3) := rfl
  have hr : seven.eval none = .number (.int 7) := rfl
  obtain ⟨exact, -, apart⟩ := integers_compared_iff hl hr (by decide) (by decide)
  have law := exact.mpr (.inr fun same => absurd (apart (by decide) (by decide) same) (by decide))
  refine ⟨(law .less).mpr ?_, mt (law .equal).mp ?_⟩
  · change (3 : ℤ) < 7
    decide
  · change ¬ (3 : ℤ) = 7
    decide

/-- Two integers that differ by one are said to be equal. -/
theorem neighbours_compared_as_one :
    ¬ ∀ a b : ℤ, Fits64 a → Fits64 b → ∀ op : Comparison,
      Affirms (fun _ => none) op (literal (.number (.int a))) (literal (.number (.int b))) ↔
        op.Relates a b := by
  intro law
  have same : (9007199254740993 : ℤ) = 9007199254740992 :=
    (law 9007199254740993 9007199254740992 (by decide) (by decide) .equal).mp
      ((affirms_iff rfl rfl).mpr (by decide +kernel))
  exact absurd same (by decide)

end Node

end Parley
