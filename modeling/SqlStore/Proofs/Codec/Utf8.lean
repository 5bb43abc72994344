import Mathlib.Data.String.Basic
import Mathlib.Tactic.SplitIfs
import SqlStore.Proofs.Result
import SqlStore.Proofs.Storage.ByteOrder
import SqlStore.Text.Utf8

/-! # Reading back a text

A character takes one to four bytes. The first fixes the range of the second, and the ranges that
are narrowed for the sake of unique spellings still hold every character that has the spelling at
all. So reading a character that was written stops right behind it, and a text is read back whole.

They hold nothing else either: longer spellings, surrogates and code points beyond the last plane
fall outside. So the bytes that are read as a text are those that it is written with.

A greater character begins with a greater byte or takes the same first byte further, so the bytes of
two texts stand in the order of their characters.
-/

namespace SqlStore.Text.Utf8

section Steps

variable {byte : UInt8} {index start bits : Nat} {range next : Nat × Nat} {later : List (Nat × Nat)}
  (rest : Bytes)

private theorem decodeFrom_lead (lead : lead? byte = some (bits, next :: later)) :
    decodeFrom index none (byte :: rest) =
      decodeFrom (index + 1) (some ⟨index, bits, next, later⟩) rest := by
  rw [decodeFrom, lead]

private theorem decodeFrom_middle (inside : range.1 ≤ byte.toNat ∧ byte.toNat ≤ range.2) :
    decodeFrom index (some ⟨start, bits, range, next :: later⟩) (byte :: rest) =
      decodeFrom (index + 1) (some ⟨start, bits * 64 + byte.toNat % 64, next, later⟩) rest := by
  rw [decodeFrom, if_pos inside]

private theorem decodeFrom_last (inside : range.1 ≤ byte.toNat ∧ byte.toNat ≤ range.2) :
    decodeFrom index (some ⟨start, bits, range, []⟩) (byte :: rest) =
      (Char.ofNat (bits * 64 + byte.toNat % 64) :: ·) <$> decodeFrom (index + 1) none rest := by
  rw [decodeFrom, if_pos inside]

end Steps

private theorem toNat_ofNat_of_lt {n : Nat} (small : n < 256) : (UInt8.ofNat n).toNat = n := by
  rw [UInt8.toNat_ofNat']
  exact Nat.mod_eq_of_lt small

private theorem lead?_two {n : Nat} (low : 0x80 ≤ n) (high : n < 0x800) :
    lead? (.ofNat (0xC0 + n / 64)) = some (n / 64, [inner]) := by
  rw [lead?, toNat_ofNat_of_lt (by omega), if_neg (by omega), if_neg (by omega), if_pos (by omega),
    Nat.add_sub_cancel_left]

private theorem lead?_three {n : Nat} (high : n < 0x10000) :
    lead? (.ofNat (0xE0 + n / 4096)) = some (n / 4096,
      [(if n / 4096 = 0 then 0xA0 else 0x80, if n / 4096 = 0xD then 0x9F else 0xBF), inner]) := by
  have first : 0xE0 + n / 4096 = 0xE0 ↔ n / 4096 = 0 := by omega
  have surrogate : 0xE0 + n / 4096 = 0xED ↔ n / 4096 = 0xD := by omega
  rw [lead?, toNat_ofNat_of_lt (by omega), if_neg (by omega), if_neg (by omega), if_neg (by omega),
    if_pos (by omega), Nat.add_sub_cancel_left]
  simp only [first, surrogate]

private theorem lead?_four {n : Nat} (high : n < 0x110000) :
    lead? (.ofNat (0xF0 + n / 262144)) = some (n / 262144,
      [(if n / 262144 = 0 then 0x90 else 0x80, if n / 262144 = 4 then 0x8F else 0xBF),
        inner, inner]) := by
  have first : 0xF0 + n / 262144 = 0xF0 ↔ n / 262144 = 0 := by omega
  have last : 0xF0 + n / 262144 = 0xF4 ↔ n / 262144 = 4 := by omega
  rw [lead?, toNat_ofNat_of_lt (by omega), if_neg (by omega), if_neg (by omega), if_neg (by omega),
    if_neg (by omega), if_pos (by omega), Nat.add_sub_cancel_left]
  simp only [first, last]

/-- Reading goes on behind a character that was written. -/
theorem decodeFrom_encodeChar (index : Nat) (c : Char) (rest : Bytes) :
    decodeFrom index none (encodeChar c ++ rest) =
      (c :: ·) <$> decodeFrom (index + (encodeChar c).length) none rest := by
  have valid : c.toNat < 0xD800 ∨ 0xDFFF < c.toNat ∧ c.toNat < 0x110000 := c.valid
  have back : Char.ofNat c.toNat = c := Char.ofNat_toNat c
  unfold encodeChar
  generalize c.toNat = n at *
  have follow (m : Nat) : (UInt8.ofNat (0x80 + m % 64)).toNat = 0x80 + m % 64 :=
    toNat_ofNat_of_lt (by omega)
  dsimp only
  split
  · next one =>
    rw [List.singleton_append, decodeFrom, lead?, toNat_ofNat_of_lt (by omega), if_pos one]
    simp only [back, List.length_singleton]
  · split
    · next two =>
      have whole : n / 64 * 64 + (0x80 + n % 64) % 64 = n := by omega
      simp only [List.cons_append, List.nil_append]
      rw [decodeFrom_lead _ (lead?_two (by omega) two),
        decodeFrom_last _ (by rw [follow, inner]; omega), follow, whole, back]
      rfl
    · split
      · next three =>
        have whole :
            (n / 4096 * 64 + (0x80 + n / 64 % 64) % 64) * 64 + (0x80 + n % 64) % 64 = n := by
          omega
        simp only [List.cons_append, List.nil_append]
        rw [decodeFrom_lead _ (lead?_three three),
          decodeFrom_middle _ (by rw [follow]; dsimp only; split <;> split <;> omega),
          decodeFrom_last _ (by rw [follow, inner]; omega), follow, follow, whole, back]
        rfl
      · have whole : ((n / 262144 * 64 + (0x80 + n / 4096 % 64) % 64) * 64 +
            (0x80 + n / 64 % 64) % 64) * 64 + (0x80 + n % 64) % 64 = n := by
          omega
        simp only [List.cons_append, List.nil_append]
        rw [decodeFrom_lead _ (lead?_four (by omega)),
          decodeFrom_middle _ (by rw [follow]; dsimp only; split <;> split <;> omega),
          decodeFrom_middle _ (by rw [follow, inner]; omega),
          decodeFrom_last _ (by rw [follow, inner]; omega), follow, follow, follow, whole, back]
        rfl

theorem decodeFrom_flatMap_encodeChar (index : Nat) (text : List Char) :
    decodeFrom index none (text.flatMap encodeChar) = .ok text := by
  induction text generalizing index with
  | nil => rfl
  | cons c rest ih =>
    rw [List.flatMap_cons, decodeFrom_encodeChar, ih]
    rfl

theorem decode_encode (text : String) : decode (encode text) = .ok text := by
  rw [decode, encode, decodeFrom_flatMap_encodeChar]
  exact congrArg Except.ok String.ofList_toList

theorem encode_injective {a b : String} (same : encode a = encode b) : a = b := by
  have decoded := congrArg decode same
  rw [decode_encode, decode_encode] at decoded
  exact Except.ok.inj decoded

/-- What a first byte says of its character: the top bits, and where the bytes to come may lie. -/
private theorem lead?_cases {byte : UInt8} {bits : Nat} {later : List (Nat × Nat)}
    (lead : lead? byte = some (bits, later)) :
    byte.toNat = bits ∧ bits < 0x80 ∧ later = [] ∨
    byte.toNat = 0xC0 + bits ∧ 2 ≤ bits ∧ bits < 0x20 ∧ later = [inner] ∨
    byte.toNat = 0xE0 + bits ∧ bits < 0x10 ∧
      later = [(if bits = 0 then 0xA0 else 0x80, if bits = 0xD then 0x9F else 0xBF), inner] ∨
    byte.toNat = 0xF0 + bits ∧ bits < 5 ∧
      later = [(if bits = 0 then 0x90 else 0x80, if bits = 4 then 0x8F else 0xBF),
        inner, inner] := by
  simp only [lead?] at lead
  generalize byte.toNat = b at lead ⊢
  split at lead
  · next one =>
    obtain ⟨rfl, rfl⟩ := Prod.mk.inj (Option.some.inj lead)
    exact .inl ⟨rfl, one, rfl⟩
  split at lead
  · contradiction
  split at lead
  · obtain ⟨rfl, rfl⟩ := Prod.mk.inj (Option.some.inj lead)
    exact .inr (.inl ⟨by omega, by omega, by omega, rfl⟩)
  split at lead
  · have first : b = 0xE0 ↔ b - 0xE0 = 0 := by omega
    have surrogate : b = 0xED ↔ b - 0xE0 = 0xD := by omega
    obtain ⟨rfl, rfl⟩ := Prod.mk.inj (Option.some.inj lead)
    simp only [first, surrogate]
    exact .inr (.inr (.inl ⟨by omega, by omega, trivial⟩))
  split at lead
  · have first : b = 0xF0 ↔ b - 0xF0 = 0 := by omega
    have last : b = 0xF4 ↔ b - 0xF0 = 4 := by omega
    obtain ⟨rfl, rfl⟩ := Prod.mk.inj (Option.some.inj lead)
    simp only [first, last]
    exact .inr (.inr (.inr ⟨by omega, by omega, trivial⟩))
  · contradiction

section Inversion

variable {index start bits : Nat} {range next : Nat × Nat} {later : List (Nat × Nat)}
  {bytes : Bytes} {text : List Char}

private theorem middle_of_decodeFrom
    (read : decodeFrom index (some ⟨start, bits, range, next :: later⟩) bytes = .ok text) :
    ∃ byte rest, bytes = byte :: rest ∧ (range.1 ≤ byte.toNat ∧ byte.toNat ≤ range.2) ∧
      decodeFrom (index + 1) (some ⟨start, bits * 64 + byte.toNat % 64, next, later⟩) rest =
        .ok text := by
  cases bytes with
  | nil => cases read
  | cons byte rest =>
    rw [decodeFrom] at read
    split at read
    · next inside => exact ⟨byte, rest, rfl, inside, read⟩
    · cases read

private theorem last_of_decodeFrom
    (read : decodeFrom index (some ⟨start, bits, range, []⟩) bytes = .ok text) :
    ∃ byte rest later, bytes = byte :: rest ∧ (range.1 ≤ byte.toNat ∧ byte.toNat ≤ range.2) ∧
      text = Char.ofNat (bits * 64 + byte.toNat % 64) :: later ∧
      decodeFrom (index + 1) none rest = .ok later := by
  cases bytes with
  | nil => cases read
  | cons byte rest =>
    rw [decodeFrom] at read
    split at read
    · next inside =>
      obtain ⟨later, done, rfl⟩ := Result.map_eq_ok_iff.mp read
      exact ⟨byte, rest, later, rfl, inside, rfl, done⟩
    · cases read

end Inversion

private theorem ofNat_eq {n : Nat} (byte : UInt8) (same : n = byte.toNat) :
    UInt8.ofNat n = byte := by
  rw [same, UInt8.ofNat_toNat]

/-- A narrowed range is a range of inner bytes. -/
private theorem bounds_of_narrowed {p q : Prop} [Decidable p] [Decidable q] {n low high : Nat}
    (inside : (if p then low else 0x80) ≤ n ∧ n ≤ if q then high else 0xBF)
    (least : 0x80 ≤ low) (most : high ≤ 0xBF) :
    (0x80 ≤ n ∧ n ≤ 0xBF) ∧ (p → low ≤ n) ∧ (q → n ≤ high) := by
  by_cases hp : p <;> by_cases hq : q <;>
    simp only [hp, hq, if_true, if_false, true_implies, false_implies, true_and, and_true]
      at inside ⊢ <;>
    omega

/-- An inner byte adds six bits. -/
private theorem exists_bits_of_inner {n : Nat} (inside : 0x80 ≤ n ∧ n ≤ 0xBF) :
    ∃ bits < 64, n = 0x80 + bits ∧ n % 64 = bits :=
  ⟨n - 0x80, by omega, by omega, by omega⟩

private theorem toNat_ofNat_of_valid {code : Nat} (valid : code.isValidChar) :
    (Char.ofNat code).toNat = code := by
  rw [Char.ofNat, dif_pos valid]
  rfl

section Spelling

variable {first second third fourth : UInt8} {a b c d : Nat}

private theorem encodeChar_two (hFirst : first.toNat = 0xC0 + a)
    (hSecond : second.toNat = 0x80 + b) (least : 2 ≤ a) (ha : a < 0x20) (hb : b < 64) :
    encodeChar (Char.ofNat (a * 64 + b)) = [first, second] := by
  rw [encodeChar, toNat_ofNat_of_valid (.inl (by omega)), if_neg (by omega), if_pos (by omega),
    ofNat_eq first (by omega), ofNat_eq second (by omega)]

private theorem encodeChar_three (hFirst : first.toNat = 0xE0 + a)
    (hSecond : second.toNat = 0x80 + b) (hThird : third.toNat = 0x80 + c) (ha : a < 0x10)
    (hb : b < 64) (hc : c < 64) (least : a = 0 → 0x20 ≤ b) (surrogate : a = 0xD → b < 0x20) :
    encodeChar (Char.ofNat ((a * 64 + b) * 64 + c)) = [first, second, third] := by
  have valid : Nat.isValidChar ((a * 64 + b) * 64 + c) := by
    change _ ∨ _
    omega
  rw [encodeChar, toNat_ofNat_of_valid valid, if_neg (by omega), if_neg (by omega),
    if_pos (by omega), ofNat_eq first (by omega), ofNat_eq second (by omega),
    ofNat_eq third (by omega)]

private theorem encodeChar_four (hFirst : first.toNat = 0xF0 + a)
    (hSecond : second.toNat = 0x80 + b) (hThird : third.toNat = 0x80 + c)
    (hFourth : fourth.toNat = 0x80 + d) (ha : a < 5) (hb : b < 64) (hc : c < 64) (hd : d < 64)
    (least : a = 0 → 0x10 ≤ b) (most : a = 4 → b < 0x10) :
    encodeChar (Char.ofNat (((a * 64 + b) * 64 + c) * 64 + d)) =
      [first, second, third, fourth] := by
  have valid : Nat.isValidChar (((a * 64 + b) * 64 + c) * 64 + d) := by
    change _ ∨ _
    omega
  rw [encodeChar, toNat_ofNat_of_valid valid, if_neg (by omega), if_neg (by omega),
    if_neg (by omega), ofNat_eq first (by omega), ofNat_eq second (by omega),
    ofNat_eq third (by omega), ofNat_eq fourth (by omega)]

end Spelling

/-- Reading makes a character of the bytes that it is written with, and of no others. -/
private theorem exists_encodeChar_of_decodeFrom {index : Nat} {byte : UInt8} {rest : Bytes}
    {text : List Char} (read : decodeFrom index none (byte :: rest) = .ok text) :
    ∃ c after later behind, byte :: rest = encodeChar c ++ after ∧ text = c :: later ∧
      decodeFrom behind none after = .ok later := by
  rw [decodeFrom] at read
  cases lead : lead? byte with
  | none =>
    rw [lead] at read
    contradiction
  | some announced =>
    obtain ⟨a, ranges⟩ := announced
    rw [lead] at read
    -- One case for each number of bytes that a first byte can announce.
    rcases lead?_cases lead with ⟨one, small, rfl⟩ | ⟨two, least, small, rfl⟩ |
      ⟨three, small, rfl⟩ | ⟨four, small, rfl⟩
    · obtain ⟨later, done, rfl⟩ := Result.map_eq_ok_iff.mp read
      refine ⟨_, rest, later, _, ?_, rfl, done⟩
      rw [encodeChar, toNat_ofNat_of_valid (.inl (by omega)), if_pos small,
        ofNat_eq byte one.symm]
      rfl
    · obtain ⟨second, after, later, rfl, inside, rfl, done⟩ := last_of_decodeFrom read
      obtain ⟨b, hb, value, bits⟩ := exists_bits_of_inner inside
      refine ⟨_, after, later, _, ?_, rfl, done⟩
      rw [bits, encodeChar_two two value least small hb]
      rfl
    · obtain ⟨second, _, rfl, narrowed, read⟩ := middle_of_decodeFrom read
      obtain ⟨third, after, later, rfl, inside, rfl, done⟩ := last_of_decodeFrom read
      obtain ⟨wide, first, surrogate⟩ := bounds_of_narrowed narrowed (by omega) (by omega)
      obtain ⟨b, hb, value, bits⟩ := exists_bits_of_inner wide
      obtain ⟨c, hc, value', bits'⟩ := exists_bits_of_inner inside
      refine ⟨_, after, later, _, ?_, rfl, done⟩
      rw [bits, bits', encodeChar_three three value value' small hb hc (by omega) (by omega)]
      rfl
    · obtain ⟨second, _, rfl, narrowed, read⟩ := middle_of_decodeFrom read
      obtain ⟨third, _, rfl, inside, read⟩ := middle_of_decodeFrom read
      obtain ⟨fourth, after, later, rfl, inside', rfl, done⟩ := last_of_decodeFrom read
      obtain ⟨wide, first, last⟩ := bounds_of_narrowed narrowed (by omega) (by omega)
      obtain ⟨b, hb, value, bits⟩ := exists_bits_of_inner wide
      obtain ⟨c, hc, value', bits'⟩ := exists_bits_of_inner inside
      obtain ⟨d, hd, value'', bits''⟩ := exists_bits_of_inner inside'
      refine ⟨_, after, later, _, ?_, rfl, done⟩
      rw [bits, bits', bits'', encodeChar_four four value value' value'' small hb hc hd (by omega)
        (by omega)]
      rfl

theorem flatMap_encodeChar_of_decodeFrom {index : Nat} {bytes : Bytes} {text : List Char}
    (read : decodeFrom index none bytes = .ok text) : text.flatMap encodeChar = bytes := by
  induction text generalizing index bytes with
  | nil =>
    cases bytes with
    | nil => rfl
    | cons byte rest =>
      obtain ⟨_, _, _, _, _, same, _⟩ := exists_encodeChar_of_decodeFrom read
      contradiction
  | cons head tail ih =>
    cases bytes with
    | nil => cases read
    | cons byte rest =>
      obtain ⟨c, after, later, behind, whole, same, done⟩ := exists_encodeChar_of_decodeFrom read
      obtain ⟨rfl, rfl⟩ := List.cons.inj same
      rw [whole, List.flatMap_cons, ih done]

theorem encode_of_decode {bytes : Bytes} {text : String} (read : decode bytes = .ok text) :
    encode text = bytes := by
  obtain ⟨chars, done, rfl⟩ := Result.map_eq_ok_iff.mp read
  rw [encode, String.toList_ofList]
  exact flatMap_encodeChar_of_decodeFrom done

section Order

/-- The digits of a code point to the base 64 are compared from the first on. -/
private theorem digits_lt {m n : Nat} (less : m < n) :
    m / 262144 < n / 262144 ∨ m / 262144 = n / 262144 ∧
      (m / 4096 % 64 < n / 4096 % 64 ∨ m / 4096 % 64 = n / 4096 % 64 ∧
        (m / 64 % 64 < n / 64 % 64 ∨ m / 64 % 64 = n / 64 % 64 ∧ m % 64 < n % 64)) := by
  omega

theorem encodeChar_append_lt {c d : Char} (less : c < d) (s t : Bytes) :
    encodeChar c ++ s < encodeChar d ++ t := by
  have less : c.toNat < d.toNat := less
  have valid : d.toNat < 0xD800 ∨ 0xDFFF < d.toNat ∧ d.toNat < 0x110000 := d.valid
  have digits := digits_lt less
  rw [encodeChar, encodeChar]
  generalize c.toNat = m at less digits ⊢
  generalize d.toNat = n at *
  -- More bytes begin with a greater one.
  split_ifs
  all_goals
    simp (disch := omega) only [List.cons_append, List.nil_append, List.cons_lt_cons_iff,
      UInt8.lt_iff_toNat_lt, ← UInt8.toNat_inj, toNat_ofNat_of_lt]
    omega

theorem encodeChar_ne_nil (c : Char) : encodeChar c ≠ [] := by
  rw [encodeChar]
  split_ifs <;> nofun

theorem flatMap_encodeChar_lt_iff {a b : List Char} :
    a.flatMap encodeChar < b.flatMap encodeChar ↔ a < b := by
  induction a generalizing b with
  | nil =>
    cases b with
    | nil => simp
    | cons d rest =>
      refine iff_of_true ?_ (List.nil_lt_cons d rest)
      rw [List.flatMap_nil, List.flatMap_cons]
      obtain ⟨first, others, some⟩ := List.exists_cons_of_ne_nil (encodeChar_ne_nil d)
      rw [some]
      exact List.nil_lt_cons _ _
  | cons c rest ih =>
    cases b with
    | nil => simp
    | cons d rest' =>
      rw [List.flatMap_cons, List.flatMap_cons, List.cons_lt_cons_iff]
      rcases lt_trichotomy c d with less | rfl | greater
      · exact iff_of_true (encodeChar_append_lt less _ _) (.inl less)
      · rw [Bytes.append_lt_append_iff rfl, ih]
        simp
      · refine iff_of_false (List.lt_asymm (encodeChar_append_lt greater _ _)) ?_
        rintro (less | ⟨rfl, _⟩)
        · exact lt_asymm less greater
        · exact lt_irrefl _ greater

theorem encode_lt_encode_iff {a b : String} : encode a < encode b ↔ a < b := by
  rw [encode, encode, flatMap_encodeChar_lt_iff, String.lt_iff_toList_lt]

end Order

end SqlStore.Text.Utf8
