import Mathlib.Data.List.DropRight
import SqlStore.Proofs.Storage.BothEnds

/-! # Scans by a beginning

The keys that share a beginning have no bound of their own among them but the beginning itself. The
one above them is found by dropping the greatest bytes from the end of the beginning and letting the
byte before them grow by one. That byte is not the greatest, so it does not overflow, and the new
bound lies above the beginning. Where every byte is the greatest there is no bound above, and none is
needed.
-/

namespace SqlStore

namespace Bytes

/-- The beginning up to its last byte that can grow. -/
def growing (start : Bytes) : Bytes := start.rdropWhile (· == 0xFF)

theorem growing_append {front tail : Bytes} {last : UInt8} (greatest : ∀ byte ∈ tail, byte = 0xFF)
    (grows : last ≠ 0xFF) : growing (front ++ last :: tail) = front ++ [last] := by
  have dropped : ∀ byte ∈ tail.reverse, (byte == 0xFF) = true := by simpa using greatest
  rw [growing, List.rdropWhile, List.reverse_append, List.reverse_cons, List.append_assoc,
    List.dropWhile_append_of_pos dropped, List.singleton_append,
    List.dropWhile_cons_of_neg (by simpa using grows), List.reverse_cons, List.reverse_reverse]

theorem successor?_eq (start : Bytes) :
    successor? start =
      (growing start).getLast?.map fun last => (growing start).dropLast ++ [last + 1] := by
  cases found : successor? start with
  | none =>
    have stripped : growing start = [] := by
      simpa [growing] using (successor?_eq_none_iff start).mp found
    rw [stripped]
    rfl
  | some above =>
    obtain ⟨front, last, tail, rfl, greatest, grows, rfl⟩ := exists_of_successor?_eq_some found
    have smaller : last ≠ 0xFF := by
      rintro rfl
      contradiction
    rw [growing_append greatest smaller]
    simp

/-- What grows does not overflow. -/
theorem toNat_add_one_of_growing {start : Bytes} {last : UInt8}
    (final : last ∈ (growing start).getLast?) : (last + 1).toNat = last.toNat + 1 := by
  obtain ⟨nonempty, rfl⟩ := List.mem_getLast?_eq_getLast final
  have kept := List.rdropWhile_last_not (· == 0xFF) start nonempty
  exact toNat_add_one fun same => kept (beq_iff_eq.mpr same)

theorem le_successor? {start above : Bytes} (found : successor? start = some above) :
    start ≤ above :=
  List.le_of_lt (((prefix_iff_le_and_lt_successor? start start).mp List.prefix_rfl).2 above found)

end Bytes

namespace KeyRange

/-- A range does not end before it begins, nor does it begin and end at a key that both bounds
exclude. Others are refused. -/
def InOrder (range : KeyRange) : Prop :=
  match range.lower, range.upper with
  | .unbounded, _ | _, .unbounded => True
  | .excluded low, .excluded high => low < high
  | .included low, .included high | .included low, .excluded high
  | .excluded low, .included high => low ≤ high

theorem inOrder_ofBeginning (start : Bytes) : (ofBeginning start).InOrder := by
  cases found : Bytes.successor? start with
  | none => simp [InOrder, ofBeginning, found]
  | some above => simpa [InOrder, ofBeginning, found] using Bytes.le_successor? found

theorem upper_ofBeginning (start : Bytes) :
    (ofBeginning start).upper =
      match (Bytes.growing start).getLast? with
      | some last => .excluded ((Bytes.growing start).dropLast ++ [last + 1])
      | none => .unbounded := by
  rw [ofBeginning, Bytes.successor?_eq]
  cases (Bytes.growing start).getLast? <;> rfl

example : (ofBeginning [1, 0xFF, 0xFF]).upper = .excluded [2] := by decide

end KeyRange

namespace ByteStore

/-- A scan by a beginning delivers the entries whose keys have it, once each: in ascending order from
the front and in descending order from the back. -/
theorem scanBeginning_exact (store : ByteStore) (start : Bytes) :
    (∃ entries, Ascending entries ∧
      (∀ entry, entry ∈ entries ↔ entry ∈ store.entries ∧ start <+: entry.key) ∧
      (store.scanBeginning start).drain .front = entries ∧
      (store.scanBeginning start).drain .back = entries.reverse) ∧
    (KeyRange.ofBeginning start).InOrder ∧
    (KeyRange.ofBeginning start).upper =
      (match (Bytes.growing start).getLast? with
      | some last => .excluded ((Bytes.growing start).dropLast ++ [last + 1])
      | none => .unbounded) ∧
    ∀ last ∈ (Bytes.growing start).getLast?, (last + 1).toNat = last.toNat + 1 := by
  refine ⟨⟨(store.scanBeginning start).remaining, store.ascending_scanBeginning start,
    fun entry => mem_scanBeginning_iff, ?_, ?_⟩, KeyRange.inOrder_ofBeginning start,
    KeyRange.upper_ofBeginning start, fun last => Bytes.toNat_add_one_of_growing⟩
  · exact Cursor.drain_eq _ .front
  · exact Cursor.drain_eq _ .back

end ByteStore

end SqlStore
