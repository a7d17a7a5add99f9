import Mathlib.Data.List.Induction
import Mathlib.Data.Nat.Digits.Defs
import Parley.Number.Radix
import Parley.Number.Reading

/-!
# Parley.Proofs.Numerals

Numerals of bases up to sixteen. Every reader of digits in a row comes to the positional value of
the row, and so does what is written of a number, with zeros in front or without.

* `Numeral.readRadix_eq`, `Numeral.ofDigits_eq`: the readers of hexadecimal and decimal digits.
* `Numeral.value_toDigits`: the digits that are written of a number have its value, and so have
  those that are written in a given width (`Numeral.value_padded`).
-/

namespace Parley

namespace Numeral

/-- The digits of the greatest base, each at the place of its value. -/
def digits : List Char :=
  ['0', '1', '2', '3', '4', '5', '6', '7', '8', '9', 'a', 'b', 'c', 'd', 'e', 'f']

/-- The digits of a base. -/
def digitsOf (base : Nat) : List Char := digits.take base

/-- The value of a row of digits: the last one counts once, and each one as much as the base times
the one behind it. -/
def value (base : Nat) (cs : List Char) : Nat :=
  Nat.ofDigits base (cs.reverse.map fun c => digits.idxOf c)

variable {base n : Nat} {c : Char} {cs : List Char}

@[simp] theorem value_nil : value base [] = 0 := rfl

theorem value_concat : value base (cs ++ [c]) = value base cs * base + digits.idxOf c := by
  simp [value, Nat.ofDigits_cons, Nat.add_comm, Nat.mul_comm]

theorem value_zeros_append (zeros : Nat) :
    value base (List.replicate zeros '0' ++ cs) = value base cs := by
  have nothing : digits.idxOf '0' = 0 := rfl
  simp [value, Nat.ofDigits_append, nothing, Nat.ofDigits_replicate_zero]

theorem idxOf_lt (mem : c ∈ digitsOf base) : digits.idxOf c < base := by
  obtain ⟨i, early, rfl⟩ := List.mem_take_iff_getElem.mp mem
  have distinct : digits.Nodup := by decide
  rw [distinct.idxOf_getElem]
  omega

theorem value_lt (two : 2 ≤ base) (all : ∀ c ∈ cs, c ∈ digitsOf base) :
    value base cs < base ^ cs.length := by
  have small : ∀ d ∈ cs.reverse.map (fun c => digits.idxOf c), d < base := by
    intro d mem
    obtain ⟨c, given, rfl⟩ := List.mem_map.mp mem
    exact idxOf_lt (all c (List.mem_reverse.mp given))
  simpa [value] using Nat.ofDigits_lt_base_pow_length two small

/-- What holds of all characters below a code point, tried on each of them. -/
theorem holds_of_lt (P : Char → Prop) {bound : Nat} (each : ∀ n < bound, P (Char.ofNat n))
    (below : c.toNat < bound) : P c := by
  have here := each c.toNat below
  rwa [Char.ofNat_toNat] at here

theorem mem_digitsOf_ten_iff : c ∈ digitsOf 10 ↔ c.isDigit = true := by
  constructor
  · intro mem
    have each : (digitsOf 10).all Char.isDigit = true := by decide
    exact List.all_eq_true.mp each c mem
  · intro digit
    have last : c.toNat ≤ 57 := (Char.isDigit_iff_toNat.mp digit).2
    have below : c.toNat < 58 := Nat.lt_succ_of_le last
    exact holds_of_lt (fun c => c.isDigit = true → c ∈ digitsOf 10) (by decide) below digit

/-! ## As they are read -/

theorem hexValue?_of_mem (mem : c ∈ digits) : Number.hexValue? c = some (digits.idxOf c) := by
  have each : (digits.all fun c => Number.hexValue? c = some (digits.idxOf c)) = true := by decide
  exact of_decide_eq_true (List.all_eq_true.mp each c mem)

/-- By induction from the last digit on, which is the one that the readers come to last. -/
theorem readRadix_eq (digit : cs ≠ []) (all : ∀ c ∈ cs, c ∈ digitsOf base) :
    Number.readRadix base cs = some (value base cs) := by
  unfold Number.readRadix
  rw [if_neg (by simpa using digit)]
  clear digit
  induction cs using List.reverseRecOn with
  | nil => rfl
  | append_singleton cs c ih =>
    have last : c ∈ digitsOf base := all c (by simp)
    have read := hexValue?_of_mem (List.mem_of_mem_take last)
    rw [List.foldl_append, ih fun c mem => all c (by simp [mem]), value_concat]
    simp [read, idxOf_lt last]

theorem ofDigits_eq (all : ∀ c ∈ cs, c ∈ digitsOf 10) : Number.ofDigits cs = value 10 cs := by
  induction cs using List.reverseRecOn with
  | nil => rfl
  | append_singleton cs c ih =>
    have each : ((digitsOf 10).all fun c => Number.digitValue c = digits.idxOf c) = true := by
      decide
    have last : Number.digitValue c = digits.idxOf c :=
      of_decide_eq_true (List.all_eq_true.mp each c (all c (by simp)))
    have front : Number.ofDigits cs = value 10 cs := ih fun c mem => all c (by simp [mem])
    rw [value_concat, ← front, ← last, Nat.mul_comm]
    simp [Number.ofDigits]

/-! ## As they are written -/

theorem digits_getElem? (small : n < 16) : digits[n]? = some n.digitChar := by
  have each : ∀ n < 16, digits[n]? = some (Nat.digitChar n) := by decide
  exact each n small

theorem idxOf_digitChar (small : n < 16) : digits.idxOf n.digitChar = n := by
  have each : ∀ n < 16, digits.idxOf (Nat.digitChar n) = n := by decide
  exact each n small

theorem digitChar_mem (small : n < base) (known : base ≤ 16) : n.digitChar ∈ digitsOf base := by
  have place : (digitsOf base)[n]? = some n.digitChar := by
    rw [digitsOf, List.getElem?_take_of_lt small, digits_getElem? (by omega)]
  exact List.mem_of_getElem? place

theorem value_toDigits (two : 2 ≤ base) (known : base ≤ 16) (n : Nat) :
    value base (Nat.toDigits base n) = n := by
  induction n using Nat.strongRecOn with
  | ind n ih =>
    rw [Nat.toDigits_eq_if two]
    split
    · rename_i small
      have single : value base ([] ++ [n.digitChar]) = 0 * base + digits.idxOf n.digitChar :=
        value_concat
      simpa [idxOf_digitChar (Nat.lt_of_lt_of_le small known)] using single
    · rename_i large
      have less : n / base < n := Nat.div_lt_self (by omega) two
      have last : n % base < 16 := Nat.lt_of_lt_of_le (Nat.mod_lt n (by omega)) known
      rw [value_concat, ih _ less, idxOf_digitChar last, Nat.div_add_mod']

theorem mem_of_mem_toDigits (two : 2 ≤ base) (known : base ≤ 16)
    (mem : c ∈ Nat.toDigits base n) : c ∈ digitsOf base := by
  induction n using Nat.strongRecOn with
  | ind n ih =>
    rw [Nat.toDigits_eq_if two] at mem
    split at mem
    · rename_i small
      rw [List.mem_singleton.mp mem]
      exact digitChar_mem small known
    · rename_i large
      have less : n / base < n := Nat.div_lt_self (by omega) two
      rcases List.mem_append.mp mem with front | last
      · exact ih _ less front
      · rw [List.mem_singleton.mp last]
        exact digitChar_mem (Nat.mod_lt n (by omega)) known

/-- The digits of a number with zeros in front, up to the width. -/
def padded (base width n : Nat) : List Char :=
  List.replicate (width - (Nat.toDigits base n).length) '0' ++ Nat.toDigits base n

theorem value_padded (two : 2 ≤ base) (known : base ≤ 16) (width n : Nat) :
    value base (padded base width n) = n := by
  rw [padded, value_zeros_append, value_toDigits two known]

theorem mem_of_mem_padded (two : 2 ≤ base) (known : base ≤ 16) {width : Nat}
    (mem : c ∈ padded base width n) : c ∈ digitsOf base := by
  rcases List.mem_append.mp mem with zero | digit
  · rw [List.eq_of_mem_replicate zero]
    exact digitChar_mem (n := 0) (by omega) known
  · exact mem_of_mem_toDigits two known digit

theorem length_padded (two : 2 ≤ base) {width : Nat} (wide : 0 < width) (fits : n < base ^ width) :
    (padded base width n).length = width := by
  have short : (Nat.toDigits base n).length ≤ width :=
    (Nat.length_toDigits_le_iff two wide).mpr fits
  rw [padded, List.length_append, List.length_replicate]
  omega

end Numeral

end Parley
