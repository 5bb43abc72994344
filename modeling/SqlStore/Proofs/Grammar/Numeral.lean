import SqlStore.Text.Decimal

/-! # Which texts are numbers

A numeral is one digit or more, behind one sign or none, and denotes what its digits do in base ten.
Reading it as a word of 64 bits succeeds exactly when it denotes the value of such a word.
-/

namespace SqlStore.Text

def IsDigits (text : List Char) : Prop := text ≠ [] ∧ ∀ c ∈ text, c.isDigit = true

/-- A sign, for one, is no digit. -/
theorem IsDigits.ne_cons {digits : List Char} (only : IsDigits digits) {sign : Char}
    (other : sign.isDigit = false) (rest : List Char) : digits ≠ sign :: rest := by
  rintro rfl
  exact Bool.false_ne_true (other.symm.trans (only.2 sign List.mem_cons_self))

inductive Numeral : List Char → Int → Prop where
  | unsigned {digits : List Char} (only : IsDigits digits) :
    Numeral digits (Nat.ofDigitChars 10 digits 0)
  | positive {digits : List Char} (only : IsDigits digits) :
    Numeral ('+' :: digits) (Nat.ofDigitChars 10 digits 0)
  | negative {digits : List Char} (only : IsDigits digits) :
    Numeral ('-' :: digits) (-Nat.ofDigitChars 10 digits 0)

namespace Decimal

theorem natural?_eq_some_iff {digits : List Char} {n : Nat} :
    natural? digits = some n ↔ IsDigits digits ∧ Nat.ofDigitChars 10 digits 0 = n := by
  simp [natural?, IsDigits]

theorem integer?_eq_some_iff {text : List Char} {value : Int} :
    integer? text = some value ↔ Numeral text value := by
  constructor
  · intro read
    rw [integer?.eq_def] at read
    split at read
    · obtain ⟨n, digits, rfl⟩ := Option.map_eq_some_iff.mp read
      obtain ⟨only, rfl⟩ := natural?_eq_some_iff.mp digits
      exact .positive only
    · obtain ⟨n, digits, rfl⟩ := Option.map_eq_some_iff.mp read
      obtain ⟨only, rfl⟩ := natural?_eq_some_iff.mp digits
      exact .negative only
    · obtain ⟨n, digits, rfl⟩ := Option.map_eq_some_iff.mp read
      obtain ⟨only, rfl⟩ := natural?_eq_some_iff.mp digits
      exact .unsigned only
  · intro numeral
    cases numeral with
    | unsigned only =>
      rw [integer?.eq_3 text (only.ne_cons rfl) (only.ne_cons rfl),
        natural?_eq_some_iff.mpr ⟨only, rfl⟩]
      rfl
    | positive only =>
      rw [integer?, natural?_eq_some_iff.mpr ⟨only, rfl⟩]
      rfl
    | negative only =>
      rw [integer?, natural?_eq_some_iff.mpr ⟨only, rfl⟩]
      rfl

theorem int64?_eq_some_iff {text : String} {value : Int64} :
    int64? text = some value ↔ Numeral text.toList value.toInt := by
  rw [int64?, Option.bind_eq_some_iff, ← integer?_eq_some_iff]
  constructor
  · rintro ⟨number, read, kept⟩
    obtain ⟨⟨above, below⟩, same⟩ := Option.ite_none_right_eq_some.mp kept
    rw [← Option.some.inj same, Int64.toInt_ofInt_of_le above (Int.lt_of_le_sub_one below)]
    exact read
  · intro read
    refine ⟨value.toInt, read, ?_⟩
    rw [if_pos ⟨value.minValue_le_toInt, value.toInt_le⟩, Int64.ofInt_toInt]

end Decimal

end SqlStore.Text
