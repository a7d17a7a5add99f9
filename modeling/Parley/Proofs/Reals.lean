import Mathlib.Tactic.FinCases
import Parley.Expression.Evaluation
import Parley.Proofs.Decimals
import Parley.Proofs.Spelling

/-!
# Parley.Proofs.Reals

What is written of a number is read back as its double, in each of the ways that it is written:
with the point before, behind or among the digits, or with a power of ten.

* `Number.extended_of_basin`: digits around a double are read as the double.
* `Double.readReal_text`, `Number.readReal_text`: the texts of numbers.
* `Number.asReal?_text`: a text that displays a number compares as the number.
-/

namespace Parley

namespace Numeral

variable {base : ℕ} {cs ds : List Char}

theorem value_append :
    value base (cs ++ ds) = value base cs * base ^ ds.length + value base ds := by
  simp [value, Nat.ofDigits_append, Nat.add_comm, Nat.mul_comm]

end Numeral

namespace Number

variable {digits whole fraction tail cs ds : List Char} {negative : Bool} {exponent e : ℤ}
  {x : Double}

theorem isDigit_of_mem_append (allC : ∀ c ∈ cs, c.isDigit = true)
    (allD : ∀ c ∈ ds, c.isDigit = true) : ∀ c ∈ cs ++ ds, c.isDigit = true := fun c mem =>
  (List.mem_append.mp mem).elim (allC c) (allD c)

theorem isDigit_of_mem_zeros (n : ℕ) : ∀ c ∈ List.replicate n '0', c.isDigit = true :=
  fun _ mem => List.eq_of_mem_replicate mem ▸ rfl

theorem mem_digitsOf_of_isDigit (all : ∀ c ∈ cs, c.isDigit = true) :
    ∀ c ∈ cs, c ∈ Numeral.digitsOf 10 := fun c mem => Numeral.mem_digitsOf_ten_iff.mpr (all c mem)

theorem ofDigits_append (allC : ∀ c ∈ cs, c.isDigit = true) (allD : ∀ c ∈ ds, c.isDigit = true) :
    ofDigits (cs ++ ds) = ofDigits cs * 10 ^ ds.length + ofDigits ds := by
  rw [Numeral.ofDigits_eq (mem_digitsOf_of_isDigit (isDigit_of_mem_append allC allD)),
    Numeral.ofDigits_eq (mem_digitsOf_of_isDigit allC),
    Numeral.ofDigits_eq (mem_digitsOf_of_isDigit allD), Numeral.value_append]

theorem ofDigits_zeros (n : ℕ) : ofDigits (List.replicate n '0') = 0 := by
  have none : Numeral.value 10 (List.replicate n '0' ++ []) = Numeral.value 10 [] :=
    Numeral.value_zeros_append n
  rw [List.append_nil] at none
  rw [Numeral.ofDigits_eq (mem_digitsOf_of_isDigit (isDigit_of_mem_zeros n)), none,
    Numeral.value_nil]

theorem ofDigits_toDigits (n : ℕ) : ofDigits (Nat.toDigits 10 n) = n :=
  Nat.ofDigitChars_ten_toDigits

/-- Zeros in front do not count. -/
theorem ofDigits_dropWhile (all : ∀ c ∈ digits, c.isDigit = true) :
    ofDigits (digits.dropWhile (· = '0')) = ofDigits digits := by
  have zeros : digits.takeWhile (· = '0') =
      List.replicate (digits.takeWhile (· = '0')).length '0' := by
    refine List.eq_replicate_of_mem fun c mem => ?_
    simpa using List.mem_takeWhile_imp mem
  have whole := List.takeWhile_append_dropWhile (p := (· = '0')) (l := digits)
  have front : ∀ c ∈ digits.takeWhile (· = '0'), c.isDigit = true := fun c mem =>
    all c (List.takeWhile_subset _ mem)
  have back : ∀ c ∈ digits.dropWhile (· = '0'), c.isDigit = true := fun c mem =>
    all c (List.dropWhile_subset _ mem)
  have sum := ofDigits_append front back
  rw [whole, zeros, ofDigits_zeros, Nat.zero_mul, Nat.zero_add] at sum
  exact sum.symm

/-- A row of digits that begins with another digit than zero. -/
theorem pow_le_ofDigits {c : Char} (all : ∀ d ∈ c :: cs, d.isDigit = true) (first : c ≠ '0') :
    10 ^ cs.length ≤ ofDigits (c :: cs) := by
  have digit : c.isDigit = true := all c (by simp)
  have one : 1 ≤ ofDigits [c] := by
    have least := (Char.isDigit_iff_toNat.mp digit).1
    have other : c.toNat ≠ '0'.toNat := fun same => first (Char.toNat_inj.mp same)
    have value : ofDigits [c] = c.toNat - '0'.toNat := by simp [ofDigits, digitValue]
    have zero : '0'.toNat = 48 := rfl
    omega
  have sum : ofDigits ([c] ++ cs) = ofDigits [c] * 10 ^ cs.length + ofDigits cs :=
    ofDigits_append (fun d mem => all d (by simp_all)) (fun d mem => all d (by simp [mem]))
  rw [List.singleton_append] at sum
  rw [sum]
  exact Nat.le_add_right_of_le (Nat.le_mul_of_pos_left _ one)

theorem ofDigits_lt (all : ∀ c ∈ digits, c.isDigit = true) :
    ofDigits digits < 10 ^ digits.length := by
  have known := mem_digitsOf_of_isDigit all
  rw [Numeral.ofDigits_eq known]
  exact Numeral.value_lt (by decide) known

/-- Within four hundred powers of ten, digits are read as the nearest double. -/
theorem extended_eq (all : ∀ c ∈ digits, c.isDigit = true) (nonzero : ofDigits digits ≠ 0)
    (low : (10 : ℚ) ^ (-400 : ℤ) ≤ ofDigits digits * 10 ^ exponent)
    (high : (ofDigits digits : ℚ) * 10 ^ exponent < 10 ^ (400 : ℤ))
    (made : Double.ofDecimal? negative (ofDigits digits) exponent = some x) :
    extended negative digits exponent = .finite x := by
  have ten : (1 : ℚ) < 10 := by norm_num
  have unit : (0 : ℚ) < 10 ^ exponent := by positivity
  have same := ofDigits_dropWhile all
  have allLeft : ∀ c ∈ digits.dropWhile (· = '0'), c.isDigit = true := fun c mem =>
    all c (List.dropWhile_subset _ mem)
  have first := List.head?_dropWhile_not (· = '0') digits
  unfold extended
  generalize digits.dropWhile (· = '0') = significant at *
  cases significant with
  | nil => exact absurd same.symm nonzero
  | cons c cs =>
    have upper : ((ofDigits digits : ℕ) : ℚ) < 10 ^ (cs.length + 1) := by
      exact_mod_cast same ▸ ofDigits_lt allLeft
    have lower : (10 : ℚ) ^ cs.length ≤ (ofDigits digits : ℕ) := by
      exact_mod_cast same ▸ pow_le_ofDigits allLeft (by simpa using first)
    have above : (-400 : ℤ) < (cs.length + 1 : ℕ) + exponent := by
      refine (zpow_lt_zpow_iff_right₀ ten).mp (low.trans_lt ?_)
      rw [zpow_add₀ (by norm_num), zpow_natCast]
      exact mul_lt_mul_of_pos_right upper unit
    have below : (cs.length : ℤ) + exponent < 400 := by
      refine (zpow_lt_zpow_iff_right₀ ten).mp (lt_of_le_of_lt ?_ high)
      rw [zpow_add₀ (by norm_num), zpow_natCast]
      exact mul_le_mul_of_nonneg_right lower unit.le
    simp only [List.isEmpty_cons, Bool.false_eq_true, false_or, List.length_cons]
    rw [if_neg (by omega), if_neg (by push_cast; omega), same, made]

/-- Digits that lie around a number are read as the number. -/
theorem extended_of_basin (all : ∀ c ∈ digits, c.isDigit = true) (pos : x.mantissa ≠ 0)
    (h : x.Basin (ofDigits digits * 10 ^ exponent)) :
    extended x.negative digits exponent = .finite x := by
  obtain ⟨low, high⟩ := h.bounds pos
  have raise {a b : ℤ} (le : a ≤ b) : (2 : ℚ) ^ a ≤ 2 ^ b := zpow_le_zpow_right₀ one_le_two le
  -- Doubles and their midpoints stay far inside the powers of ten that are read exactly.
  have eight : (2 : ℚ) ^ (1200 : ℤ) < 10 ^ (400 : ℤ) := by
    calc (2 : ℚ) ^ (1200 : ℤ) = (2 ^ (3 : ℤ)) ^ (400 : ℤ) := by rw [← zpow_mul]; rfl
      _ < 10 ^ (400 : ℤ) := zpow_lt_zpow_left₀ (by norm_num) (by norm_num) (by norm_num)
  have least : (10 : ℚ) ^ (-400 : ℤ) ≤ 2 ^ (-1075 : ℤ) := by
    calc (10 : ℚ) ^ (-400 : ℤ) = (10 ^ (400 : ℤ))⁻¹ := zpow_neg _ _
      _ ≤ (2 ^ (1200 : ℤ))⁻¹ := inv_anti₀ (by positivity) eight.le
      _ = 2 ^ (-1200 : ℤ) := (zpow_neg _ _).symm
      _ ≤ 2 ^ (-1075 : ℤ) := raise (by decide)
  have greatest : (2 : ℚ) ^ (1024 : ℤ) < 10 ^ (400 : ℤ) := (raise (by decide)).trans_lt eight
  refine extended_eq all ?_ (least.trans low) (high.trans greatest) ?_
  · intro none
    have positive : (0 : ℚ) < 2 ^ (-1075 : ℤ) := by positivity
    rw [none, Nat.cast_zero, zero_mul] at low
    linarith
  · have power := zpow_eq_div 10 exponent
    rw [Nat.cast_ofNat] at power
    rw [power, mul_div_assoc', ← Nat.cast_mul] at h
    exact Double.nearest?_of_basin pos (Nat.pow_pos (by decide)) h

/-! ## Decimal notations -/

theorem span_digits (all : ∀ c ∈ whole, c.isDigit = true)
    (ends : ∀ c, tail.head? = some c → c.isDigit = false) :
    (whole ++ tail).takeWhile Char.isDigit = whole ∧
      (whole ++ tail).dropWhile Char.isDigit = tail := by
  rw [List.takeWhile_append_of_pos all, List.dropWhile_append_of_pos all]
  cases tail with
  | nil => simp
  | cons c cs =>
    have stop := ends c rfl
    simp [stop]

theorem readDecimal_point (negative : Bool) (allW : ∀ c ∈ whole, c.isDigit = true)
    (allF : ∀ c ∈ fraction, c.isDigit = true) (filled : fraction ≠ [])
    (ends : ∀ c, tail.head? = some c → c.isDigit = false) (power : readExponent tail = some e) :
    readDecimal negative (whole ++ '.' :: (fraction ++ tail)) =
      some (extended negative (whole ++ fraction) (e - fraction.length)) := by
  have point : ∀ c, ('.' :: (fraction ++ tail)).head? = some c → c.isDigit = false := by
    rintro c first
    obtain rfl := Option.some.inj first
    rfl
  obtain ⟨takeW, dropW⟩ := span_digits allW point
  obtain ⟨takeF, dropF⟩ := span_digits allF ends
  unfold readDecimal
  simp only [takeW, dropW, takeF, dropF, power]
  simp [filled]

theorem readDecimal_plain (negative : Bool) (all : ∀ c ∈ whole, c.isDigit = true)
    (filled : whole ≠ []) (ends : ∀ c, tail.head? = some c → c.isDigit = false ∧ c ≠ '.')
    (power : readExponent tail = some e) :
    readDecimal negative (whole ++ tail) = some (extended negative whole e) := by
  obtain ⟨take, drop⟩ := span_digits all fun c first => (ends c first).1
  unfold readDecimal
  simp only [take, drop]
  cases tail with
  | nil => simp_all
  | cons c cs =>
    have other := (ends c rfl).2
    simp_all

theorem readExponent_nil : readExponent [] = some 0 := rfl

theorem readExponent_mark (p : ℤ) :
    readExponent ('e' :: (if p < 0 then '-' else '+') :: Nat.toDigits 10 p.natAbs) = some p := by
  have signs : takeSign ((if p < 0 then '-' else '+') :: Nat.toDigits 10 p.natAbs) =
      (decide (p < 0), Nat.toDigits 10 p.natAbs) := by
    by_cases below : p < 0 <;> simp [below, takeSign]
  simp only [readExponent, signs, areDigits_toDigits, ofDigits_toDigits]
  simp only [true_or, if_true, decide_eq_true_eq, Option.some.injEq]
  split <;> omega

/-! ## Positional and scientific notation -/

theorem readDecimal_fraction (allW : ∀ c ∈ whole, c.isDigit = true)
    (allF : ∀ c ∈ fraction, c.isDigit = true) (filled : fraction ≠ []) (pos : x.mantissa ≠ 0)
    (h : x.Basin (ofDigits (whole ++ fraction) * 10 ^ (-fraction.length : ℤ))) :
    readDecimal x.negative (whole ++ '.' :: fraction) = some (.finite x) := by
  have read := readDecimal_point x.negative allW allF filled (by simp) readExponent_nil
  rw [List.append_nil, zero_sub,
    extended_of_basin (isDigit_of_mem_append allW allF) pos h] at read
  exact read

variable {before : ℤ}

/-- The point stands in front of all digits. -/
theorem readDecimal_small (all : ∀ c ∈ digits, c.isDigit = true) (filled : digits ≠ [])
    (pos : x.mantissa ≠ 0) (h : x.Basin (ofDigits digits * 10 ^ (before - digits.length)))
    (small : before ≤ 0) :
    readDecimal x.negative ('0' :: '.' :: (List.replicate (-before).toNat '0' ++ digits)) =
      some (.finite x) := by
  have zeros := isDigit_of_mem_zeros (-before).toNat
  have zero : ∀ c ∈ ['0'], c.isDigit = true := isDigit_of_mem_zeros 1
  have allF := isDigit_of_mem_append zeros all
  have value : ofDigits (['0'] ++ (List.replicate (-before).toNat '0' ++ digits)) =
      ofDigits digits := by
    have none : ofDigits ['0'] = 0 := ofDigits_zeros 1
    rw [ofDigits_append zero allF, ofDigits_append zeros all, none, ofDigits_zeros]
    simp
  have places : before - digits.length =
      -((List.replicate (-before).toNat '0' ++ digits).length : ℤ) := by
    rw [List.length_append, List.length_replicate]
    omega
  rw [places, ← value] at h
  exact readDecimal_fraction zero allF (by simp [filled]) pos h

/-- The point stands behind all digits and zeros. -/
theorem readDecimal_large {n : ℕ} (all : ∀ c ∈ digits, c.isDigit = true)
    (pos : x.mantissa ≠ 0) (h : x.Basin (ofDigits digits * 10 ^ (n - digits.length : ℤ)))
    (short : digits.length ≤ n) :
    readDecimal x.negative (digits ++ List.replicate (n - digits.length) '0' ++ ['.', '0']) =
      some (.finite x) := by
  have zeros := isDigit_of_mem_zeros (n - digits.length)
  have zero : ∀ c ∈ ['0'], c.isDigit = true := isDigit_of_mem_zeros 1
  have allW := isDigit_of_mem_append all zeros
  have value : ofDigits (digits ++ List.replicate (n - digits.length) '0' ++ ['0']) =
      ofDigits digits * 10 ^ (n - digits.length) * 10 := by
    have none : ofDigits ['0'] = 0 := ofDigits_zeros 1
    rw [ofDigits_append allW zero, ofDigits_append all zeros, none, ofDigits_zeros,
      List.length_replicate]
    simp
  have same : (ofDigits digits : ℚ) * 10 ^ (n - digits.length : ℤ) =
      (ofDigits digits * 10 ^ (n - digits.length) * 10 : ℕ) * 10 ^ (-['0'].length : ℤ) := by
    have tenth : (10 : ℚ) ^ (-['0'].length : ℤ) = 1 / 10 := by norm_num
    rw [tenth, ← Nat.cast_sub short, zpow_natCast]
    push_cast
    ring
  rw [same, ← value] at h
  exact readDecimal_fraction allW zero (by simp) pos h

/-- The point stands among the digits. -/
theorem readDecimal_within {n : ℕ} (all : ∀ c ∈ digits, c.isDigit = true)
    (pos : x.mantissa ≠ 0) (h : x.Basin (ofDigits digits * 10 ^ (n - digits.length : ℤ)))
    (long : n < digits.length) :
    readDecimal x.negative (digits.take n ++ '.' :: digits.drop n) = some (.finite x) := by
  have places : (n - digits.length : ℤ) = -((digits.drop n).length : ℤ) := by
    rw [List.length_drop]
    omega
  have left : digits.drop n ≠ [] := by
    rw [ne_eq, List.drop_eq_nil_iff]
    omega
  refine readDecimal_fraction (fun c mem => all c (List.mem_of_mem_take mem))
    (fun c mem => all c (List.mem_of_mem_drop mem)) left pos ?_
  rw [List.take_append_drop, ← places]
  exact h

theorem readDecimal_positional (all : ∀ c ∈ digits, c.isDigit = true) (filled : digits ≠ [])
    (pos : x.mantissa ≠ 0) (h : x.Basin (ofDigits digits * 10 ^ (before - digits.length))) :
    readDecimal x.negative (Double.positional digits before) = some (.finite x) := by
  unfold Double.positional
  split
  · rename_i small
    exact readDecimal_small all filled pos h small
  · rename_i large
    extract_lets n
    have whole : before = n := by omega
    rw [whole] at h
    split
    · rename_i short
      exact readDecimal_large all pos h short
    · rename_i long
      exact readDecimal_within all pos h (by omega)

/-- One digit, the others behind a point, and a power of ten. -/
theorem readDecimal_scientific (all : ∀ c ∈ digits, c.isDigit = true) (filled : digits ≠ [])
    (pos : x.mantissa ≠ 0) {power : ℤ}
    (h : x.Basin (ofDigits digits * 10 ^ (power + 1 - digits.length))) :
    readDecimal x.negative (Double.scientific digits power) = some (.finite x) := by
  have mark := readExponent_mark power
  have ends : ∀ c, ('e' :: (if power < 0 then '-' else '+') ::
      Nat.toDigits 10 power.natAbs).head? = some c → c.isDigit = false ∧ c ≠ '.' := by
    rintro c first
    obtain rfl := Option.some.inj first
    decide
  have written : Double.scientific digits power = digits.take 1 ++
      (if (digits.drop 1).isEmpty then [] else '.' :: digits.drop 1) ++
        ('e' :: (if power < 0 then '-' else '+') :: Nat.toDigits 10 power.natAbs) := by
    simp [Double.scientific]
  generalize 'e' :: _ :: _ = tail at *
  obtain ⟨c, cs, rfl⟩ := List.exists_cons_of_ne_nil filled
  have allW : ∀ d ∈ [c], d.isDigit = true := fun d mem => all d (by simp_all)
  have allF : ∀ d ∈ cs, d.isDigit = true := fun d mem => all d (by simp [mem])
  rw [written]
  simp only [List.take_succ_cons, List.take_zero, List.drop_succ_cons, List.drop_zero]
  by_cases single : cs = []
  · subst single
    have places : power + 1 - ([c].length : ℤ) = power := by simp
    rw [places] at h
    have read := readDecimal_plain x.negative allW (by simp) ends mark
    rw [extended_of_basin allW pos h] at read
    simpa using read
  · have places : power + 1 - ((c :: cs).length : ℤ) = power - cs.length := by
      rw [List.length_cons]
      omega
    rw [places] at h
    have read := readDecimal_point x.negative allW allF single
      (fun d first => (ends d first).1) mark
    simp only [List.singleton_append] at read
    rw [extended_of_basin all pos h] at read
    simpa [single] using read

/-! ## Texts of numbers -/

/-- What begins with a digit, behind a sign or not, is read as a decimal. -/
theorem readReal_signed {c : Char} (digit : c.isDigit = true) (negative : Bool) (cs : List Char) :
    readReal ((if negative then ['-'] else []) ++ c :: cs) = readDecimal negative (c :: cs) := by
  have known : c ∈ Numeral.digitsOf 10 := Numeral.mem_digitsOf_ten_iff.mpr digit
  have each : ((Numeral.digitsOf 10).all fun c =>
      c.toLower ≠ 'i' ∧ c.toLower ≠ 'n' ∧ c ≠ '-' ∧ c ≠ '+') = true := by decide
  obtain ⟨notI, notN, minus, plus⟩ := of_decide_eq_true (List.all_eq_true.mp each c known)
  have signs : takeSign ((if negative then ['-'] else []) ++ c :: cs) = (negative, c :: cs) := by
    cases negative with
    | true => rfl
    | false =>
      simp only [Bool.false_eq_true, if_false, List.nil_append]
      unfold takeSign
      split <;> simp_all
  simp [readReal, signs, notI, notN]

end Number

namespace Double

theorem eq_zero_of_isZero {x : Double} (none : x.mantissa = 0) : x = zero x.negative := by
  obtain ⟨negative, mantissa, exponent, canonical⟩ := x
  obtain rfl : mantissa = 0 := none
  have least : exponent = -1074 := canonical.2.2.2.resolve_left (by decide)
  subst least
  rfl

theorem positional_cons {digits : List Char} (before : ℤ)
    (all : ∀ c ∈ digits, c.isDigit = true) (filled : digits ≠ []) :
    ∃ c cs, positional digits before = c :: cs ∧ c.isDigit = true := by
  obtain ⟨c, cs, rfl⟩ := List.exists_cons_of_ne_nil filled
  have digit : c.isDigit = true := all c (by simp)
  unfold positional
  split
  · exact ⟨'0', _, rfl, rfl⟩
  · rename_i large
    extract_lets n
    split
    · exact ⟨c, _, rfl, digit⟩
    · obtain ⟨k, more⟩ : ∃ k, n = k + 1 := ⟨n - 1, by omega⟩
      rw [more, List.take_succ_cons]
      exact ⟨c, _, rfl, digit⟩

theorem scientific_cons {digits : List Char} (power : ℤ)
    (all : ∀ c ∈ digits, c.isDigit = true) (filled : digits ≠ []) :
    ∃ c cs, scientific digits power = c :: cs ∧ c.isDigit = true := by
  obtain ⟨c, cs, rfl⟩ := List.exists_cons_of_ne_nil filled
  refine ⟨c, (if cs.isEmpty then [] else '.' :: cs) ++
    ['e', if power < 0 then '-' else '+'] ++ Nat.toDigits 10 power.natAbs, ?_, all c (by simp)⟩
  simp [scientific]

/-- **What is written of a double is read back as that double.** -/
theorem readReal_text (x : Double) : Number.readReal x.text.toList = some (.finite x) := by
  unfold text
  extract_lets sign d digits before
  split
  · rename_i none
    have zero := eq_zero_of_isZero (of_decide_eq_true none)
    have read : Number.readDecimal x.negative ['0', '.', '0'] =
        some (.finite (.zero x.negative)) := by
      cases x.negative <;> rfl
    rw [String.toList_ofList, Number.readReal_signed rfl, read, ← zero]
  · rename_i nonzero
    have pos : x.mantissa ≠ 0 := fun none => nonzero (decide_eq_true none)
    have all : ∀ c ∈ digits, c.isDigit = true := fun _ => Number.isDigit_of_mem
    have filled : digits ≠ [] := Nat.toDigits_ne_nil
    have basin : x.Basin (Number.ofDigits digits * 10 ^ (before - digits.length)) := by
      have places : before - digits.length = d.exponent := by omega
      rw [places, Number.ofDigits_toDigits]
      exact basin_shortest pos
    rw [String.toList_ofList]
    split
    · obtain ⟨c, cs, cons, digit⟩ := positional_cons before all filled
      rw [cons, Number.readReal_signed digit, ← cons]
      exact Number.readDecimal_positional all filled pos basin
    · obtain ⟨c, cs, cons, digit⟩ := scientific_cons (before - 1) all filled
      rw [cons, Number.readReal_signed digit, ← cons]
      rw [← sub_add_cancel before 1] at basin
      exact Number.readDecimal_scientific all filled pos basin

end Double

namespace Number

/-- The numbers that documents hold: integers of 64 bits, signed or unsigned, and doubles. -/
def InDocument : Number → Prop
  | int i => -0x8000000000000000 ≤ i ∧ i < 0x10000000000000000
  | float _ => True

/-- The digits of an integer are read as its double. -/
theorem extended_toDigits {i : ℤ} (document : (int i).InDocument)
    (made : Double.ofInt? i = some x) :
    extended (decide (i < 0)) (Nat.toDigits 10 i.natAbs) 0 = .finite x := by
  by_cases zero : i = 0
  · subst zero
    cases made
    rfl
  · obtain ⟨low, high⟩ := document
    have one : (1 : ℚ) ≤ i.natAbs := by exact_mod_cast (by omega : 1 ≤ i.natAbs)
    have small : (i.natAbs : ℚ) < 10 ^ (400 : ℤ) := by
      have below : i.natAbs < 10 ^ 20 := by omega
      calc (i.natAbs : ℚ) < 10 ^ (20 : ℤ) := by exact_mod_cast below
        _ ≤ 10 ^ (400 : ℤ) := zpow_le_zpow_right₀ (by norm_num) (by decide)
    have least : (10 : ℚ) ^ (-400 : ℤ) ≤ 1 := zpow_le_one_of_nonpos₀ (by norm_num) (by decide)
    refine extended_eq (fun _ => isDigit_of_mem) ?_ ?_ ?_ ?_ <;> rw [ofDigits_toDigits]
    · omega
    · rw [zpow_zero, mul_one]
      exact least.trans one
    · rwa [zpow_zero, mul_one]
    · simpa [Double.ofDecimal?, Double.ofInt?] using made

/-- What is written of an integer is read back as its double. -/
theorem readReal_toString {i : ℤ} (document : (int i).InDocument)
    (made : Double.ofInt? i = some x) : readReal (toString i).toList = some (.finite x) := by
  have all : ∀ c ∈ Nat.toDigits 10 i.natAbs, c.isDigit = true := fun _ => isDigit_of_mem
  have filled : Nat.toDigits 10 i.natAbs ≠ [] := Nat.toDigits_ne_nil
  have sign : (toString i).toList =
      (if decide (i < 0) then ['-'] else []) ++ Nat.toDigits 10 i.natAbs := by
    rw [toList_toString]
    by_cases below : i < 0 <;> simp [below]
  have read := readDecimal_plain (decide (i < 0)) all filled (by simp) readExponent_nil
  rw [List.append_nil, extended_toDigits document made] at read
  obtain ⟨c, cs, cons⟩ := List.exists_cons_of_ne_nil filled
  rw [sign, cons, readReal_signed (all c (by simp [cons])), ← cons, read]

theorem exists_toDouble? {n : Number} (document : n.InDocument) : ∃ x, n.toDouble? = some x := by
  cases n with
  | int i =>
    have small : i.natAbs < 2 ^ 64 := by
      obtain ⟨low, high⟩ := document
      omega
    exact Double.exists_ofInt? small
  | float x => exact ⟨x, rfl⟩

/-- **What is written of a number is read back as its double.** -/
theorem readReal_text {n : Number} (document : n.InDocument) (double : n.toDouble? = some x) :
    readReal n.text.toList = some (.finite x) := by
  cases n with
  | int i => exact readReal_toString document double
  | float y =>
    cases double
    exact Double.readReal_text _

/-! ## Texts without blanks around them -/

/-- The characters of numbers. -/
def Figure (c : Char) : Prop := c.isDigit = true ∨ c ∈ ['.', 'e', '-', '+']

theorem Figure.visible {c : Char} (figure : Figure c) : Text.isBlank c = false := by
  have digits : ((Numeral.digitsOf 10).all fun c => !Text.isBlank c) = true := by decide
  have others : (['.', 'e', '-', '+'].all fun c => !Text.isBlank c) = true := by decide
  rcases figure with digit | other
  · simpa using List.all_eq_true.mp digits c (Numeral.mem_digitsOf_ten_iff.mpr digit)
  · simpa using List.all_eq_true.mp others c other

theorem figure_toDigits {n : ℕ} : ∀ c ∈ Nat.toDigits 10 n, Figure c := fun _ mem =>
  .inl (isDigit_of_mem mem)

theorem figure_positional (all : ∀ c ∈ digits, Figure c) :
    ∀ c ∈ Double.positional digits before, Figure c := by
  have zeros (n : ℕ) : ∀ c ∈ List.replicate n '0', Figure c := fun c mem =>
    .inl (isDigit_of_mem_zeros n c mem)
  have point : Figure '.' := .inr (by simp)
  have zero : Figure '0' := .inl rfl
  unfold Double.positional
  split
  · simp only [List.cons_append, List.forall_mem_cons, List.forall_mem_append]
    exact ⟨zero, point, zeros _, all⟩
  · extract_lets n
    split
    · simp only [List.forall_mem_cons, List.forall_mem_append]
      exact ⟨⟨all, zeros _⟩, point, zero, by simp⟩
    · simp only [List.forall_mem_cons, List.forall_mem_append]
      exact ⟨fun c mem => all c (List.mem_of_mem_take mem), point,
        fun c mem => all c (List.mem_of_mem_drop mem)⟩

theorem figure_scientific {power : ℤ} (all : ∀ c ∈ digits, Figure c) :
    ∀ c ∈ Double.scientific digits power, Figure c := by
  have mark : ∀ c ∈ ['e', if power < 0 then '-' else '+'], Figure c := by
    intro c mem
    refine .inr ?_
    split at mem <;> fin_cases mem <;> simp
  have rest : ∀ c ∈ (if (digits.drop 1).isEmpty then [] else '.' :: digits.drop 1), Figure c := by
    split
    · simp
    · simp only [List.forall_mem_cons]
      exact ⟨.inr (by simp), fun c mem => all c (List.mem_of_mem_drop mem)⟩
  unfold Double.scientific
  simp only [List.forall_mem_append]
  exact ⟨⟨⟨fun c mem => all c (List.mem_of_mem_take mem), rest⟩, mark⟩, figure_toDigits⟩

theorem figure_text (n : Number) : ∀ c ∈ n.text.toList, Figure c := by
  have minus : ∀ c ∈ ['-'], Figure c := by simp [Figure]
  cases n with
  | int i =>
    rw [text, toList_toString]
    split
    · exact List.forall_mem_cons.mpr ⟨.inr (by simp), figure_toDigits⟩
    · exact figure_toDigits
  | float x =>
    have sign : ∀ c ∈ (if x.negative then ['-'] else []), Figure c := by
      split
      · exact minus
      · simp
    change ∀ c ∈ x.text.toList, Figure c
    unfold Double.text
    extract_lets sign' d digits before
    split <;> rw [String.toList_ofList, List.forall_mem_append] <;> refine ⟨sign, ?_⟩
    · simp [Figure]
    · split
      · exact figure_positional figure_toDigits
      · exact figure_scientific figure_toDigits

/-- **A text that displays a number reads as the number.** -/
theorem asReal?_text {n : Number} (document : n.InDocument) :
    (Value.text n.text).asReal? = (Value.number n).asReal? := by
  have trimmed : Text.trimChars n.text.toList = n.text.toList := by
    refine Text.trimChars_eq_self (fun c first => ?_) (fun c last => ?_)
    · exact (figure_text n c (List.mem_of_mem_head? first)).visible
    · exact (figure_text n c (List.mem_of_mem_getLast? last)).visible
  obtain ⟨x, double⟩ := exists_toDouble? document
  rw [Value.asReal?, Value.asReal?, trimmed, readReal_text document double, double]
  rfl

end Number

end Parley
