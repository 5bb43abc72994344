import Mathlib.Algebra.Group.Nat.Defs
import Mathlib.Algebra.Ring.Int.Defs
import SqlStore.Proofs.Grammar.Expressible

/-! # Integer literals

A number is worth what its digits are at their places, however many there are, and leading zeros
count for nothing. It is read as that value if a signed word of 64 bits has it, and refused
otherwise; the refusal repeats it as it was written. In a text numbers have no sign, so only those
that are too great are refused there, and an integer that was read can be printed and read again.
-/

namespace SqlStore

namespace Text

/-- Every digit counts ten times as much as the next. -/
def placeValue : List Char → Nat
  | [] => 0
  | digit :: rest => (digit.toNat - '0'.toNat) * 10 ^ rest.length + placeValue rest

/-- The text is made of digits behind one sign or none, and they are worth that much. -/
def StandsFor (text : List Char) (value : Int) : Prop :=
  ∃ digits, IsDigits digits ∧
    ((text = digits ∨ text = '+' :: digits) ∧ value = placeValue digits ∨
      text = '-' :: digits ∧ value = -placeValue digits)

/-- To take up one digit after the other is to count each at its place. -/
theorem ofDigitChars_eq_placeValue (digits : List Char) :
    Nat.ofDigitChars 10 digits 0 = placeValue digits := by
  induction digits with
  | nil => rfl
  | cons digit rest ih =>
    rw [Nat.ofDigitChars_cons, Nat.ofDigitChars_eq_ofDigitChars_zero, ih, placeValue, Nat.mul_zero,
      Nat.zero_add, Nat.mul_comm]

theorem numeral_iff_standsFor {text : List Char} {value : Int} :
    Numeral text value ↔ StandsFor text value := by
  constructor
  · intro numeral
    cases numeral with
    | unsigned only => exact ⟨text, only, .inl ⟨.inl rfl, by rw [ofDigitChars_eq_placeValue]⟩⟩
    | positive only => exact ⟨_, only, .inl ⟨.inr rfl, by rw [ofDigitChars_eq_placeValue]⟩⟩
    | negative only => exact ⟨_, only, .inr ⟨rfl, by rw [ofDigitChars_eq_placeValue]⟩⟩
  · rintro ⟨digits, only, ⟨rfl | rfl, rfl⟩ | ⟨rfl, rfl⟩⟩
    · exact ofDigitChars_eq_placeValue text ▸ .unsigned only
    · exact ofDigitChars_eq_placeValue digits ▸ .positive only
    · exact ofDigitChars_eq_placeValue digits ▸ .negative only

theorem standsFor_iff_of_isDigits {digits : List Char} {value : Int} (only : IsDigits digits) :
    StandsFor digits value ↔ value = placeValue digits := by
  constructor
  · rintro ⟨rest, _, ⟨rfl | signed, worth⟩ | ⟨signed, _⟩⟩
    · exact worth
    · exact absurd signed (only.ne_cons rfl rest)
    · exact absurd signed (only.ne_cons rfl rest)
  · intro worth
    exact ⟨digits, only, .inl ⟨.inl rfl, worth⟩⟩

end Text

namespace Token

open Text

variable {text : String}

theorem expectLiteral_number_eq_ok_iff {n : Int64} :
    (number text).expectLiteral = .ok (.integer n) ↔ StandsFor text.toList n.toInt := by
  rw [expectLiteral_eq_ok_iff, ← numeral_iff_standsFor]
  constructor
  · rintro ⟨denoted⟩
    exact denoted
  · exact .number

/-- A number is an integer or out of range, and nothing else. -/
theorem expectLiteral_number_cases (text : String) :
    (∃ n, (number text).expectLiteral = .ok (.integer n)) ∨
      (number text).expectLiteral = .error (.integerOutOfRange text) := by
  rw [expectLiteral]
  split
  · exact .inl ⟨_, rfl⟩
  · exact .inr rfl

/-- The words are as many as there are values from the least to the greatest. -/
theorem exists_expectLiteral_number_iff {value : Int} :
    (∃ n : Int64, n.toInt = value ∧ (number text).expectLiteral = .ok (.integer n)) ↔
      StandsFor text.toList value ∧ -2 ^ 63 ≤ value ∧ value ≤ 2 ^ 63 - 1 := by
  constructor
  · rintro ⟨n, rfl, read⟩
    exact ⟨expectLiteral_number_eq_ok_iff.mp read, n.le_toInt, Int.le_sub_one_of_lt n.toInt_lt⟩
  · rintro ⟨worth, least, most⟩
    have same := Int64.toInt_ofInt_of_le least (Int.lt_of_le_sub_one most)
    exact ⟨.ofInt value, same, expectLiteral_number_eq_ok_iff.mpr (same.symm ▸ worth)⟩

theorem ofText_lexeme {token : Token} (lexical : token.Lexical) :
    ofText (String.ofList token.lexeme) = .ok [token] := by
  refine Lexer.tokens_eq_ok_iff.mpr (spelled_cons_iff.mpr ⟨[], [], ?_, nofun, lexical, nofun, ?_⟩)
  · rw [Lexer.ofText, String.toList_ofList, List.append_nil, List.nil_append]
  · exact spelled_nil_iff.mpr nofun

/-- An integer that is not negative is printed as a text could say it. -/
theorem exists_ofText_display {n : Int64} (nonneg : 0 ≤ n.toInt) :
    ∃ digits, ofText (Value.integer n).display = .ok [number digits] ∧
      (number digits).expectLiteral = .ok (.integer n) := by
  obtain ⟨m, count⟩ := Int.eq_ofNat_of_zero_le nonneg
  obtain ⟨only, worth⟩ := Decimal.natural?_eq_some_iff.mp (Decimal.natural?_toDigits m)
  have printed : (Value.integer n).display = String.ofList (Nat.toDigits 10 m) := by
    rw [Value.display, count]
    rfl
  refine ⟨String.ofList (Nat.toDigits 10 m), ?_, ?_⟩
  · have read := @ofText_lexeme (number (String.ofList (Nat.toDigits 10 m)))
      (by rwa [Lexical, String.toList_ofList])
    rw [printed]
    rwa [lexeme_number, String.ofList_toList] at read
  · rw [expectLiteral_number_eq_ok_iff, String.toList_ofList, standsFor_iff_of_isDigits only, count,
      ← ofDigitChars_eq_placeValue, worth]

/-- A number is read exactly if it is digits behind one sign or none and a signed word of 64 bits has
the value, and it is read as this value. Any other is out of range, whatever is wrong with it. A
number in a text is made of digits and read unless it is too great, and the value as it is printed is
read back. -/
theorem integers_are_read_exactly (text : String) :
    (∀ value : Int,
      (∃ n : Int64, n.toInt = value ∧ (number text).expectLiteral = .ok (.integer n)) ↔
        StandsFor text.toList value ∧ -2 ^ 63 ≤ value ∧ value ≤ 2 ^ 63 - 1) ∧
    ((¬ ∃ value, StandsFor text.toList value ∧ -2 ^ 63 ≤ value ∧ value ≤ 2 ^ 63 - 1) →
      (number text).expectLiteral = .error (.integerOutOfRange text) ∧
      (SyntaxError.integerOutOfRange text).message =
        "[Parser] Integer literal out of range: '" ++ text ++ "'") ∧
    ∀ source tokens, ofText source = .ok tokens → number text ∈ tokens →
      IsDigits text.toList ∧
      ((∃ value, (number text).expectLiteral = .ok value) ↔
        placeValue text.toList ≤ 2 ^ 63 - 1) ∧
      ∀ value, (number text).expectLiteral = .ok value →
        (∃ n : Int64, value = .integer n ∧ n.toInt = placeValue text.toList) ∧
        ∃ digits, ofText value.display = .ok [number digits] ∧
          (number digits).expectLiteral = .ok value := by
  refine ⟨fun value => exists_expectLiteral_number_iff, fun none => ⟨?_, rfl⟩, ?_⟩
  · rcases expectLiteral_number_cases text with ⟨n, read⟩ | refused
    · exact absurd ⟨_, exists_expectLiteral_number_iff.mp ⟨n, rfl, read⟩⟩ none
    · exact refused
  · intro source tokens cut member
    have only : IsDigits text.toList := (Lexer.tokens_eq_ok_iff.mp cut).lexical _ member
    have integer {value : Value} (read : (number text).expectLiteral = .ok value) :
        ∃ n : Int64, value = .integer n ∧ n.toInt = placeValue text.toList := by
      rcases expectLiteral_number_cases text with ⟨n, same⟩ | refused
      · obtain rfl := Except.ok.inj (read.symm.trans same)
        exact ⟨n, rfl, (standsFor_iff_of_isDigits only).mp (expectLiteral_number_eq_ok_iff.mp same)⟩
      · rw [refused] at read
        cases read
    refine ⟨only, ⟨fun ⟨value, read⟩ => ?_, fun small => ?_⟩, fun value read => ⟨integer read, ?_⟩⟩
    · obtain ⟨n, rfl, worth⟩ := integer read
      have most := n.toInt_lt
      omega
    · obtain ⟨n, _, read⟩ := exists_expectLiteral_number_iff.mpr
        ⟨(standsFor_iff_of_isDigits only).mpr rfl, by omega, by omega⟩
      exact ⟨_, read⟩
    · obtain ⟨n, rfl, worth⟩ := integer read
      exact exists_ofText_display (worth ▸ Int.natCast_nonneg _)

/-- The least value needs its sign, a sign alone is nothing, zeros in front do no harm, and the value
after the greatest is out of range. -/
theorem integers_are_read_exactly_at_bounds :
    (∃ n : Int64, n.toInt = -2 ^ 63 ∧
      (number "-9223372036854775808").expectLiteral = .ok (.integer n)) ∧
    (number "+").expectLiteral = .error (.integerOutOfRange "+") ∧
    ofText "007 9223372036854775808" = .ok [number "007", number "9223372036854775808"] ∧
    (¬ ∃ value, (number "9223372036854775808").expectLiteral = .ok value) ∧
    ∃ value n, (number "007").expectLiteral = .ok value ∧ value = .integer n ∧ n.toInt = 7 ∧
      ∃ digits, ofText value.display = .ok [number digits] ∧
        (number digits).expectLiteral = .ok value := by
  have cut : ofText "007 9223372036854775808" =
      .ok [number "007", number "9223372036854775808"] := by decide +kernel
  refine ⟨?_, ?_, cut, ?_, ?_⟩
  · exact ((integers_are_read_exactly "-9223372036854775808").1 (-2 ^ 63)).mpr
      ⟨⟨"9223372036854775808".toList, ⟨by decide, List.all_eq_true.mp (by decide +kernel)⟩,
        .inr ⟨rfl, by decide +kernel⟩⟩, by decide, by decide⟩
  · refine ((integers_are_read_exactly "+").2.1 ?_).1
    rintro ⟨value, ⟨digits, only, ⟨rfl | signed, _⟩ | ⟨minus, _⟩⟩, _⟩
    · exact absurd (only.2 '+' (by decide)) (by decide)
    · exact only.1 (List.cons.inj signed).2.symm
    · exact absurd (List.cons.inj minus).1 (by decide)
  · rw [((integers_are_read_exactly "9223372036854775808").2.2 _ _ cut (by decide)).2.1]
    decide +kernel
  · obtain ⟨-, accepted, back⟩ := (integers_are_read_exactly "007").2.2 _ _ cut (by decide)
    obtain ⟨value, read⟩ := accepted.mpr (by decide +kernel)
    obtain ⟨⟨n, same, worth⟩, printed⟩ := back value read
    exact ⟨value, n, read, same, worth.trans (by decide +kernel), printed⟩

end Token

end SqlStore
