import Mathlib.Algebra.Ring.Int.Defs
import SqlStore.Proofs.Storage.KeyOrder

/-! # The order of integer keys

An unsigned word has its most significant byte first, so its bytes are ordered as the numbers are. A
signed word is written as the unsigned word with the same bits, and there the negative numbers come
behind all others. Bytes of two signed words have the order of the numbers if both are negative or
neither is, and the opposite order otherwise.
-/

namespace SqlStore

/-- Without its sign a negative number counts 2 ^ 64 more, and any other counts the same. -/
private theorem toUInt64_cases (n : Int64) :
    0 ≤ n.toInt ∧ n.toUInt64.toNat = n.toInt ∨
      n.toInt < 0 ∧ n.toUInt64.toNat = n.toInt + 2 ^ 64 := by
  have signed := BitVec.toInt_eq_toNat_cond n.toBitVec
  have bound := n.toUInt64.toNat_lt
  rw [Int64.toInt_toBitVec, Int64.toNat_toBitVec] at signed
  split_ifs at signed
  · left
    omega
  · right
    omega

private theorem toUInt64_lt_iff (a b : Int64) :
    a.toUInt64 < b.toUInt64 ↔ if a < 0 ↔ b < 0 then a < b else b < a := by
  have rangeA := And.intro a.le_toInt a.toInt_lt
  have rangeB := And.intro b.le_toInt b.toInt_lt
  simp only [UInt64.lt_iff_toNat_lt, Int64.lt_iff_toInt_lt, Int64.toInt_zero]
  rcases toUInt64_cases a with ⟨signA, countA⟩ | ⟨signA, countA⟩ <;>
    rcases toUInt64_cases b with ⟨signB, countB⟩ | ⟨signB, countB⟩ <;>
    split_ifs <;> omega

namespace Codec

theorem encodeKey_int64_lt_iff (a b : Int64) :
    int64.encodeKey a < int64.encodeKey b ↔ if a < 0 ↔ b < 0 then a < b else b < a :=
  (encodeKey_uint64_lt_iff a.toUInt64 b.toUInt64).trans (toUInt64_lt_iff a b)

theorem encodeKey_integer (n : Int64) :
    Value.codec.encodeKey (.integer n) = (variant 4).encodeKey 2 ++ int64.encodeKey n := rfl

/-- What kind of value it is comes first and is the same for both. -/
theorem encodeKey_integer_lt_iff (a b : Int64) :
    Value.codec.encodeKey (.integer a) < Value.codec.encodeKey (.integer b) ↔
      int64.encodeKey a < int64.encodeKey b := by
  rw [encodeKey_integer, encodeKey_integer, Bytes.append_lt_append_iff rfl, and_iff_right rfl]
  exact or_iff_right (List.lt_irrefl _)

private theorem keeps_order_iff (a b : Int64) :
    ((if a < 0 ↔ b < 0 then a < b else b < a) ↔ a < b) ↔ (a < 0 ↔ b < 0) := by
  simp only [Int64.lt_iff_toInt_lt, Int64.toInt_zero]
  split_ifs <;> omega

/-- Unsigned keys are ordered as their numbers. Signed ones are where both numbers are negative or
neither is, on their own and as values, and elsewhere their order is the opposite one. -/
theorem integer_keys_keep_order_iff (m n : UInt64) (a b : Int64) :
    (uint64.encodeKey m < uint64.encodeKey n ↔ m < n) ∧
    (int64.encodeKey a < int64.encodeKey b ↔ if a < 0 ↔ b < 0 then a < b else b < a) ∧
    (Value.codec.encodeKey (.integer a) < Value.codec.encodeKey (.integer b) ↔
      if a < 0 ↔ b < 0 then a < b else b < a) ∧
    ((int64.encodeKey a < int64.encodeKey b ↔ a < b) ↔ (a < 0 ↔ b < 0)) ∧
    ((Value.codec.encodeKey (.integer a) < Value.codec.encodeKey (.integer b) ↔ a < b) ↔
      (a < 0 ↔ b < 0)) := by
  have values := (encodeKey_integer_lt_iff a b).trans (encodeKey_int64_lt_iff a b)
  refine ⟨encodeKey_uint64_lt_iff m n, encodeKey_int64_lt_iff a b, values, ?_, ?_⟩
  · rw [encodeKey_int64_lt_iff]
    exact keeps_order_iff a b
  · rw [values]
    exact keeps_order_iff a b

/-- The key of -1 stands behind that of 0. -/
theorem negative_key_behind_zero :
    (-1 : Int64) < 0 ∧ ¬ int64.encodeKey (-1) < int64.encodeKey 0 ∧
      ¬ Value.codec.encodeKey (.integer (-1)) < Value.codec.encodeKey (.integer 0) := by
  decide +kernel

end Codec

end SqlStore
