import Parley.Executor
import Parley.Proofs.Quoting

/-!
# Parley.Proofs.Keys

Keys as they come from outside. A text is a key if it has the form of one and its snapshot has 32
bits; no other text is, and whoever brings one is told so and leaves everything as it was. The
conversation has a fixed width, so each one is written in one way only, but zeros in front of a
snapshot do not count.

* `Key.ofText_of_shape`, `Key.ofText_of_no_shape`: what becomes of a text in the form of a key, and
  of any other text.
* `keys_read_exactly`: the text of a key is that key again, in JSON too, and no texts are keys but
  those of the form.
-/

namespace Parley

namespace ConversationId

variable {c : Char} {cs hex rest : List Char} {id : ConversationId}

theorem isDigit_iff : isDigit c = true ↔ c ∈ Numeral.digitsOf 16 := by
  constructor
  · intro digit
    have below : c.toNat < 103 := by
      simp only [isDigit, Bool.or_eq_true, Bool.and_eq_true, decide_eq_true_eq] at digit
      rcases digit with decimal | ⟨-, letter⟩
      · have nine : c.toNat ≤ 57 := (Char.isDigit_iff_toNat.mp decimal).2
        omega
      · exact Nat.lt_succ_of_le (UInt32.le_iff_toNat_le.mp (Char.le_def.mp letter))
    exact Numeral.holds_of_lt (fun c => isDigit c = true → c ∈ Numeral.digitsOf 16) (by decide)
      below digit
  · intro mem
    have each : (Numeral.digitsOf 16).all isDigit = true := by decide
    exact List.all_eq_true.mp each c mem

theorem toList_text (c : ConversationId) : c.text.toList = Numeral.padded 16 32 c.toNat := by
  simp [text, Numeral.padded, digits]

theorem read_append (width : hex.length = 32) (all : ∀ c ∈ hex, c ∈ Numeral.digitsOf 16) :
    read (hex ++ rest) = some (BitVec.ofNat 128 (Numeral.value 16 hex), rest) := by
  have digit : hex ≠ [] := by
    rintro rfl
    cases width
  have front : (hex ++ rest).take digits = hex := List.take_left' width
  have back : (hex ++ rest).drop digits = rest := List.drop_left' width
  have known : hex.all isDigit = true :=
    List.all_eq_true.mpr fun c mem => isDigit_iff.mpr (all c mem)
  have formed : (decide (hex.length = digits) && hex.all isDigit) = true := by
    rw [known, width]
    rfl
  rw [read, front, back, if_pos formed, Numeral.readRadix_eq digit all]
  rfl

theorem read_eq_some (h : read cs = some (id, rest)) :
    ∃ hex, cs = hex ++ rest ∧ hex.length = 32 ∧ ∀ c ∈ hex, c ∈ Numeral.digitsOf 16 := by
  rw [read] at h
  split at h
  · rename_i formed
    obtain ⟨n, -, same⟩ := Option.map_eq_some_iff.mp h
    cases same
    simp only [Bool.and_eq_true, decide_eq_true_eq, List.all_eq_true] at formed
    exact ⟨cs.take digits, (List.take_append_drop digits cs).symm, formed.1, fun c mem =>
      isDigit_iff.mp (formed.2 c mem)⟩
  · cases h

end ConversationId

namespace Key

/-- The form of a key: the letter of the conversation and its 32 digits, then the letter of the
snapshot and its digits. -/
structure Shape (s : String) (conversation snapshot : List Char) : Prop where
  parts : s.toList = 'e' :: (conversation ++ 's' :: snapshot)
  width : conversation.length = 32
  hexadecimal : ∀ c ∈ conversation, c ∈ Numeral.digitsOf 16
  digit : snapshot ≠ []
  decimal : ∀ c ∈ snapshot, c ∈ Numeral.digitsOf 10

variable {s : String} {conversation snapshot : List Char}

theorem shape_text (k : Key) :
    Shape k.text (Numeral.padded 16 32 k.conversation.toNat)
      (Nat.toDigits 10 k.snapshot.toNat) where
  parts := by simp [text, ConversationId.toList_text]
  width := Numeral.length_padded (by decide) (by decide) k.conversation.isLt
  hexadecimal _ := Numeral.mem_of_mem_padded (by decide) (by decide)
  digit := Nat.toDigits_ne_nil
  decimal _ := Numeral.mem_of_mem_toDigits (by decide) (by decide)

theorem areDigits_iff {cs : List Char} :
    Number.areDigits cs = true ↔ cs ≠ [] ∧ ∀ c ∈ cs, c ∈ Numeral.digitsOf 10 := by
  simp [Number.areDigits, Numeral.mem_digitsOf_ten_iff]

theorem ofText_of_shape (h : Shape s conversation snapshot) :
    ofText s =
      if Numeral.value 10 snapshot < 2 ^ 32 then
        .ok ⟨BitVec.ofNat 128 (Numeral.value 16 conversation),
          BitVec.ofNat 32 (Numeral.value 10 snapshot)⟩
      else .error .range := by
  have number : readSnapshot snapshot =
      if Numeral.value 10 snapshot < 2 ^ 32 then .ok (BitVec.ofNat 32 (Numeral.value 10 snapshot))
      else .error .range := by
    rw [readSnapshot, if_pos (areDigits_iff.mpr ⟨h.digit, h.decimal⟩),
      Numeral.ofDigits_eq h.decimal]
    rfl
  rw [ofText, h.parts, read, ConversationId.read_append h.width h.hexadecimal]
  change (readSnapshot snapshot).map _ = _
  rw [number]
  split <;> rfl

theorem ofText_of_no_shape (none : ∀ conversation snapshot, ¬ Shape s conversation snapshot) :
    ofText s = .error .form := by
  unfold ofText read
  split
  · rename_i cs parts
    split
    · rename_i id digits found
      obtain ⟨hex, rfl, width, hexadecimal⟩ := ConversationId.read_eq_some found
      have undigits : Number.areDigits digits = false := by
        refine Bool.eq_false_iff.mpr fun are => ?_
        obtain ⟨digit, decimal⟩ := areDigits_iff.mp are
        exact none hex digits ⟨parts, width, hexadecimal, digit, decimal⟩
      simp [readSnapshot, undigits, Except.map]
    · rfl
  · rfl

/-- A conversation has exactly the bits of 32 digits. -/
theorem Shape.value_lt (h : Shape s conversation snapshot) :
    Numeral.value 16 conversation < 2 ^ 128 := by
  have bound := Numeral.value_lt (by decide) h.hexadecimal
  rw [h.width] at bound
  exact Nat.lt_of_lt_of_eq bound (by decide)

theorem ofText_eq_ok_iff {k : Key} :
    ofText s = .ok k ↔ ∃ conversation snapshot, Shape s conversation snapshot ∧
      k.conversation.toNat = Numeral.value 16 conversation ∧
      k.snapshot.toNat = Numeral.value 10 snapshot := by
  constructor
  · intro parsed
    by_cases formed : ∃ conversation snapshot, Shape s conversation snapshot
    · obtain ⟨conversation, snapshot, h⟩ := formed
      rw [ofText_of_shape h] at parsed
      split at parsed
      · rename_i small
        cases parsed
        exact ⟨conversation, snapshot, h, Nat.mod_eq_of_lt h.value_lt, Nat.mod_eq_of_lt small⟩
      · cases parsed
    · rw [ofText_of_no_shape (by simpa using formed)] at parsed
      cases parsed
  · rintro ⟨conversation, snapshot, h, whole, number⟩
    have small : Numeral.value 10 snapshot < 2 ^ 32 := number ▸ k.snapshot.isLt
    rw [ofText_of_shape h, if_pos small, ← whole, ← number]
    simp

theorem ofText_accepts_iff :
    (∃ k, ofText s = .ok k) ↔
      ∃ conversation snapshot, Shape s conversation snapshot ∧
        Numeral.value 10 snapshot < 2 ^ 32 := by
  constructor
  · rintro ⟨k, parsed⟩
    obtain ⟨conversation, snapshot, h, -, number⟩ := ofText_eq_ok_iff.mp parsed
    exact ⟨conversation, snapshot, h, number ▸ k.snapshot.isLt⟩
  · rintro ⟨conversation, snapshot, h, small⟩
    exact ⟨_, (ofText_of_shape h).trans (if_pos small)⟩

/-- What is wrong with a text is its form, unless it has the form. -/
theorem ofText_error {fault : KeyFault} (refused : ofText s = .error fault) :
    fault = .range ↔ ∃ conversation snapshot, Shape s conversation snapshot := by
  by_cases formed : ∃ conversation snapshot, Shape s conversation snapshot
  · obtain ⟨conversation, snapshot, h⟩ := formed
    rw [ofText_of_shape h] at refused
    split at refused
    · cases refused
    · cases refused
      exact ⟨fun _ => ⟨conversation, snapshot, h⟩, fun _ => rfl⟩
  · rw [ofText_of_no_shape (by simpa using formed)] at refused
    cases refused
    exact ⟨nofun, fun h => absurd h formed⟩

theorem parse_eq_ok_iff {k : Key} : parse s = .ok k ↔ ofText s = .ok k := by
  unfold parse
  cases ofText s <;> simp [Except.mapError]

theorem ofText_text (k : Key) : ofText k.text = .ok k :=
  ofText_eq_ok_iff.mpr ⟨_, _, shape_text k,
    (Numeral.value_padded (by decide) (by decide) _ _).symm,
    (Numeral.value_toDigits (by decide) (by decide) _).symm⟩

end Key

/-- **Keys are read exactly.** The text of a key is that key, as a JSON document too. A text is a
key if and only if it is `e`, 32 digits of base sixteen, `s` and decimal digits of a value below
2^32; the key has the values of the digits. Any other text is a bad key, and a request with it does
nothing. -/
theorem keys_read_exactly (k : Key) (s : String) :
    Key.parse k.text = .ok k ∧
      (Json.read k.toValue.json).bind (Key.ofDocument .json) = some k ∧
      ((∃ k', Key.parse s = .ok k') ↔
        ∃ conversation snapshot, Key.Shape s conversation snapshot ∧
          Numeral.value 10 snapshot < 2 ^ 32) ∧
      (∀ k', Key.parse s = .ok k' ↔
        ∃ conversation snapshot, Key.Shape s conversation snapshot ∧
          k'.conversation.toNat = Numeral.value 16 conversation ∧
          k'.snapshot.toNat = Numeral.value 10 snapshot) ∧
      ((∃ k', Key.parse s = .ok k') ∨
        ∃ fault, Key.parse s = .error (.badFlowExecutionKey s fault) ∧
          (fault = .range ↔ ∃ conversation snapshot, Key.Shape s conversation snapshot) ∧
          ∀ (e : Executor) clock fresh event external store,
            e.resume clock fresh s event external store =
              ⟨.error (.repository (.badFlowExecutionKey s fault)), [], store⟩) := by
  have back := Key.ofText_text k
  have document : (Json.read k.toValue.json).bind (Key.ofDocument .json) = some k := by
    rw [Key.toValue, Json.read_text]
    simp [Key.ofDocument, Document.text, Document.string?, back, Except.toOption]
  simp only [Key.parse_eq_ok_iff]
  refine ⟨back, document, Key.ofText_accepts_iff, fun k' => Key.ofText_eq_ok_iff, ?_⟩
  cases refused : Key.ofText s with
  | ok k' => exact .inl ⟨k', rfl⟩
  | error fault =>
    refine .inr ⟨fault, ?_, Key.ofText_error refused, fun e clock fresh event external store => ?_⟩
    · simp [Key.parse, refused, Except.mapError]
    · simp [Executor.resume, refused]

/-- Zeros in front of a snapshot do not count. -/
example : Key.parse "e00000000000000000000000000000001s007" = .ok ⟨1, 7⟩ := rfl

end Parley
