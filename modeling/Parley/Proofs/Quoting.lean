import Parley.Json.Reading
import Parley.Proofs.Numerals
import Parley.Value.Writing

/-!
# Parley.Proofs.Quoting

Texts in JSON: whatever the characters of a text, the quoted text is read back as the text.

* `Json.readQuoted_escaped`: each character is read back from the way it is written.
* `Json.read_text`: a whole document that is one text.
-/

namespace Parley

namespace Json

variable {c : Char} {cs rest : List Char} {fuel : Nat} {done : Option (List Char)}

theorem readUnit_eq (four : cs.length = 4) (all : ∀ c ∈ cs, c ∈ Numeral.digits) :
    readUnit (cs ++ rest) = some (Numeral.value 16 cs, rest) := by
  obtain ⟨a, b, c, d, rfl⟩ : ∃ a b c d, cs = [a, b, c, d] :=
    match cs, four with
    | [a, b, c, d], _ => ⟨a, b, c, d, rfl⟩
  simp only [List.mem_cons, List.not_mem_nil, or_false, forall_eq_or_imp, forall_eq] at all
  obtain ⟨ha, hb, hc, hd⟩ := all
  simp only [List.cons_append, List.nil_append, readUnit, Numeral.hexValue?_of_mem, ha, hb, hc, hd]
  congr 2
  simp [Numeral.value, Nat.ofDigits_cons]
  omega

/-- The character of a control code, written with four digits. -/
theorem readEscapedUnit_control (control : c.toNat < 32) :
    readEscapedUnit (Numeral.padded 16 4 c.toNat ++ rest) = some (some c, rest) := by
  have four : (Numeral.padded 16 4 c.toNat).length = 4 :=
    Numeral.length_padded (by decide) (by decide) (by omega)
  have all : ∀ d ∈ Numeral.padded 16 4 c.toNat, d ∈ Numeral.digits := fun d mem =>
    Numeral.mem_of_mem_padded (by decide) (by decide) mem
  rw [readEscapedUnit, readUnit_eq four all, Numeral.value_padded (by decide) (by decide)]
  simp only [Char.ofNat_toNat]
  rw [if_neg (by simp; omega), if_neg (by simp; omega)]

theorem readQuoted_escaped :
    readQuoted (fuel + 1) done (escaped c ++ rest) = readQuoted fuel (done.map (c :: ·)) rest := by
  unfold escaped
  split
  · rfl
  · rfl
  · rfl
  · rfl
  · rfl
  · rfl
  · rfl
  · rename_i quote slash _ _ _ _ _
    split
    · rename_i control
      have code : readEscapedUnit (Numeral.padded 16 4 c.toNat ++ rest) = some (some c, rest) :=
        readEscapedUnit_control control
      rw [Numeral.padded] at code
      simp only [List.cons_append, List.append_assoc, readQuoted] at code ⊢
      rw [code]
    · rename_i plain
      simp only [List.cons_append, List.nil_append]
      rw [readQuoted.eq_def]
      split <;> simp_all

theorem escaped_ne_nil : escaped c ≠ [] := by
  unfold escaped
  split <;> try simp
  split <;> simp

/-- The characters of a text as they are written, before what follows. -/
def escapedAll (cs rest : List Char) : List Char :=
  cs.foldr (fun c after => escaped c ++ after) rest

theorem length_le_escapedAll (cs rest : List Char) :
    cs.length + rest.length ≤ (escapedAll cs rest).length := by
  induction cs with
  | nil => simp [escapedAll]
  | cons c cs ih =>
    have some : 0 < (escaped c).length := List.length_pos_iff.mpr escaped_ne_nil
    simp only [escapedAll, List.foldr_cons, List.length_cons, List.length_append] at ih ⊢
    omega

/-- By induction on the text; the fuel lasts as long as there is a unit of it for each character. -/
theorem readQuoted_escapedAll {before : List Char} (enough : cs.length < fuel) :
    readQuoted fuel (some before) (escapedAll cs ('"' :: rest)) =
      some (some (String.ofList (before.reverse ++ cs)), rest) := by
  obtain ⟨fuel, rfl⟩ : ∃ less, fuel = less + 1 := ⟨fuel - 1, by omega⟩
  induction cs generalizing fuel before with
  | nil => simp [escapedAll, readQuoted]
  | cons c cs ih =>
    obtain ⟨fuel, rfl⟩ : ∃ less, fuel = less + 1 := ⟨fuel - 1, by simp at enough; omega⟩
    have tail : readQuoted (fuel + 1) (some (c :: before)) (escapedAll cs ('"' :: rest)) =
        some (some (String.ofList ((c :: before).reverse ++ cs)), rest) :=
      ih fuel (by simpa using enough)
    rw [escapedAll, List.foldr_cons, readQuoted_escaped]
    rw [escapedAll] at tail
    simpa using tail

/-- **Quoted texts are read back.** -/
theorem read_text (s : String) : read (Value.text s).json = some (.text s) := by
  have written : (Value.text s).json.toList = '"' :: escapedAll s.toList ['"'] := by
    simp [Value.json, Value.write, quote, escapedAll]
  have long : s.toList.length + 1 ≤ (escapedAll s.toList ['"']).length :=
    length_le_escapedAll s.toList ['"']
  have quoted : readQuoted (2 * (escapedAll s.toList ['"']).length + 3) (some [])
      (escapedAll s.toList ['"']) = some (some (String.ofList ([].reverse ++ s.toList)), []) :=
    readQuoted_escapedAll (by omega)
  have value : readValue (2 * (Value.text s).json.toList.length + 2) depthLimit
      (Value.text s).json.toList = some (.text s, []) := by
    have start : skipSpace ('"' :: escapedAll s.toList ['"']) = '"' :: escapedAll s.toList ['"'] :=
      rfl
    rw [written, List.length_cons, Nat.mul_add, readValue, start]
    simp [quoted, textual]
  rw [read, value]
  rfl

end Json

end Parley
