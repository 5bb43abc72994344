import Mathlib.Algebra.Group.Nat.Defs
import SqlStore.Bytes

/-! # The order of byte strings

Fields of one width are compared one after the other, so a number whose most significant byte comes
first is ordered as its bytes are. The byte strings that share a beginning are a stretch of the
order: it starts with the beginning itself and stops short of the successor, if there is one.
-/

namespace SqlStore.Bytes

theorem toNat_ofNat (width n : Nat) : toNat (ofNat width n) = n % 256 ^ width := by
  induction width generalizing n with
  | zero => simp [ofNat, toNat, Nat.mod_one]
  | succ width ih =>
    have low : (UInt8.ofNat (n % 256)).toNat = n % 256 := by
      rw [UInt8.toNat_ofNat']
      omega
    rw [ofNat, toNat, low, ih, Nat.pow_succ, Nat.mul_comm (256 ^ width), Nat.mod_mul]

theorem toNat_lt (bytes : Bytes) : toNat bytes < 256 ^ bytes.length := by
  induction bytes with
  | nil => exact Nat.one_pos
  | cons byte rest ih =>
    have small := byte.toNat_lt
    rw [toNat, List.length_cons, Nat.pow_succ]
    omega

theorem ofNat_inj {width a b : Nat} (ha : a < 256 ^ width) (hb : b < 256 ^ width) :
    ofNat width a = ofNat width b ↔ a = b := by
  refine ⟨fun same => ?_, fun same => by rw [same]⟩
  have read := congrArg toNat same
  rwa [toNat_ofNat, toNat_ofNat, Nat.mod_eq_of_lt ha, Nat.mod_eq_of_lt hb] at read

private theorem isLE_compare_iff (a b : Bytes) : (compare a b).isLE = true ↔ a ≤ b := by
  induction a generalizing b with
  | nil => simp [List.isLE_compare_nil_left]
  | cons head rest ih =>
    cases b with
    | nil => simp
    | cons head' rest' =>
      rw [List.compare_cons_cons, Ordering.isLE_then_iff_or, List.cons_le_cons_iff, ih,
        Std.compare_eq_lt, Std.compare_eq_eq_iff_eq]

instance : Std.LawfulOrderOrd Bytes where
  isLE_compare := isLE_compare_iff
  isGE_compare a b := by
    rw [Std.OrientedOrd.eq_swap, Ordering.isGE_swap]
    exact isLE_compare_iff b a

/-- Fields of one width are compared before what follows them. -/
theorem compare_append {a b s t : Bytes} (width : a.length = b.length) :
    compare (a ++ s) (b ++ t) = (compare a b).then (compare s t) := by
  induction a generalizing b with
  | nil =>
    obtain rfl := List.eq_nil_of_length_eq_zero width.symm
    rfl
  | cons head rest ih =>
    cases b with
    | nil => contradiction
    | cons head' rest' =>
      rw [List.cons_append, List.cons_append, List.compare_cons_cons, List.compare_cons_cons,
        ih (Nat.succ.inj width), Ordering.then_assoc]

theorem compare_append_left (a s t : Bytes) : compare (a ++ s) (a ++ t) = compare s t := by
  rw [compare_append rfl, Std.compare_self, Ordering.eq_then]

theorem append_lt_append_iff {a b s t : Bytes} (width : a.length = b.length) :
    a ++ s < b ++ t ↔ a < b ∨ a = b ∧ s < t := by
  rw [← Std.compare_eq_lt, compare_append width, Ordering.then_eq_lt, Std.compare_eq_lt,
    Std.compare_eq_eq_iff_eq, Std.compare_eq_lt]

/-- With the most significant byte first, the order of the bytes is the order of the numbers. -/
theorem reverse_ofNat_lt_iff {width a b : Nat} (ha : a < 256 ^ width) (hb : b < 256 ^ width) :
    (ofNat width a).reverse < (ofNat width b).reverse ↔ a < b := by
  induction width generalizing a b with
  | zero =>
    simp [ofNat]
    omega
  | succ width ih =>
    rw [Nat.pow_succ] at ha hb
    have high : a / 256 < 256 ^ width ∧ b / 256 < 256 ^ width := by omega
    have digits : a < b ↔ a / 256 < b / 256 ∨ a / 256 = b / 256 ∧ a % 256 < b % 256 := by omega
    rw [ofNat, ofNat, List.reverse_cons, List.reverse_cons, append_lt_append_iff (by simp),
      ih high.1 high.2, List.reverse_inj, ofNat_inj high.1 high.2, digits]
    simp [List.cons_lt_cons_iff, UInt8.lt_iff_toNat_lt]

theorem compare_reverse_ofNat {width a b : Nat} (ha : a < 256 ^ width) (hb : b < 256 ^ width) :
    compare (ofNat width a).reverse (ofNat width b).reverse = compare a b := by
  rcases Nat.lt_trichotomy a b with less | rfl | greater
  · rw [Nat.compare_eq_lt.mpr less]
    exact Std.compare_eq_lt.mpr ((reverse_ofNat_lt_iff ha hb).mpr less)
  · rw [Std.compare_self, Std.compare_self]
  · rw [Nat.compare_eq_gt.mpr greater]
    exact Std.compare_eq_gt.mpr ((reverse_ofNat_lt_iff hb ha).mpr greater)

/-- A byte below the greatest one grows without overflow. -/
theorem toNat_add_one {byte : UInt8} (grows : byte ≠ 0xFF) : (byte + 1).toNat = byte.toNat + 1 := by
  have value : byte.toNat ≠ 255 := fun same => grows (UInt8.toNat.inj same)
  have bound := byte.toNat_lt
  rw [UInt8.toNat_add]
  exact Nat.mod_eq_of_lt (by rw [UInt8.toNat_one]; omega)

private theorem lt_add_one_iff {byte head : UInt8} (grows : byte ≠ 0xFF) :
    head < byte + 1 ↔ head ≤ byte := by
  rw [UInt8.lt_iff_toNat_lt, UInt8.le_iff_toNat_le, toNat_add_one grows, Nat.lt_succ_iff]

theorem successor?_eq_none_iff (bytes : Bytes) :
    successor? bytes = none ↔ ∀ byte ∈ bytes, byte = 0xFF := by
  induction bytes with
  | nil => simp [successor?]
  | cons byte rest ih =>
    rw [List.forall_mem_cons, ← ih, successor?]
    cases successor? rest with
    | some above => simp
    | none => simp

/-- The last byte that can grow is followed by bytes that cannot, and it grows without overflow. -/
theorem exists_of_successor?_eq_some {bytes above : Bytes} (found : successor? bytes = some above) :
    ∃ front last tail, bytes = front ++ last :: tail ∧ (∀ byte ∈ tail, byte = 0xFF) ∧
      (last + 1).toNat = last.toNat + 1 ∧ above = front ++ [last + 1] := by
  induction bytes generalizing above with
  | nil => cases found
  | cons byte rest ih =>
    rw [successor?] at found
    cases later : successor? rest with
    | some above =>
      rw [later] at found
      obtain rfl := Option.some.inj found
      obtain ⟨front, last, tail, rfl, greatest, grows, rfl⟩ := ih later
      exact ⟨byte :: front, last, tail, rfl, greatest, grows, rfl⟩
    | none =>
      rw [later] at found
      dsimp only at found
      split at found
      · contradiction
      · next smaller =>
        obtain rfl := Option.some.inj found
        exact ⟨[], byte, rest, rfl, (successor?_eq_none_iff rest).mp later, toNat_add_one smaller,
          rfl⟩

/-- The extensions of a byte string reach from it up to its successor. -/
theorem prefix_iff_le_and_lt_successor? (start key : Bytes) :
    start <+: key ↔ start ≤ key ∧ ∀ above, successor? start = some above → key < above := by
  induction start generalizing key with
  | nil => simp [successor?]
  | cons byte rest ih =>
    cases key with
    | nil => simp
    | cons head tail =>
      rw [List.cons_prefix_cons, ih, List.cons_le_cons_iff, successor?]
      cases successor? rest with
      | some above =>
        simp only [Option.some.injEq, forall_eq', List.cons_lt_cons_iff]
        constructor
        · rintro ⟨rfl, least, below⟩
          exact ⟨.inr ⟨rfl, least⟩, .inr ⟨rfl, below⟩⟩
        · rintro ⟨less | ⟨rfl, least⟩, greater | ⟨same, below⟩⟩
          · exact absurd less (UInt8.lt_asymm greater)
          · exact absurd (same ▸ less) (UInt8.lt_irrefl _)
          · exact absurd greater (UInt8.lt_irrefl _)
          · exact ⟨rfl, least, below⟩
      | none =>
        -- What follows the first byte cannot grow, so the bound depends on that byte alone.
        by_cases last : byte = 0xFF
        · have greatest : ¬ byte < head := by
            have bound := head.toNat_lt
            rw [last, UInt8.lt_iff_toNat_lt]
            exact Nat.not_lt_of_le (Nat.le_of_lt_succ bound)
          simp only [if_pos last, greatest, reduceCtorEq, false_implies, implies_true, and_true,
            false_or]
        · simp only [if_neg last, Option.some.injEq, forall_eq', reduceCtorEq, false_implies,
            implies_true, and_true, List.cons_lt_cons_iff, List.not_lt_nil, and_false, or_false,
            lt_add_one_iff last]
          constructor
          · rintro ⟨rfl, least⟩
            exact ⟨.inr ⟨rfl, least⟩, UInt8.le_refl _⟩
          · rintro ⟨less | ⟨rfl, least⟩, most⟩
            · exact absurd most (UInt8.not_le.mpr less)
            · exact ⟨rfl, least⟩

end SqlStore.Bytes
