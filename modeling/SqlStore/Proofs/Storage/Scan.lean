import Mathlib.Data.List.Sort
import SqlStore.ByteStore
import SqlStore.Proofs.Storage.ByteOrder

/-! # Lookups, writes and scans

A store is the set of its entries: keys are unique, so membership decides every lookup, and the
order is fixed by the keys, so two stores with the same entries are equal. A scan walks to where its
range begins and stops where it ends. Since keys ascend, that is every entry inside the range, and
for the keys that share a beginning it is every entry whose key has it.
-/

namespace SqlStore

section Stretch

variable {α : Type} {p : α → Bool} {items : List α}

/-- A property that is never lost again holds of what is left once it has come. -/
private theorem dropWhile_not_eq_filter (kept : items.Pairwise fun a b => p a = true → p b = true) :
    items.dropWhile (fun item => !p item) = items.filter p := by
  induction items with
  | nil => rfl
  | cons head rest ih =>
    obtain ⟨later, kept⟩ := List.pairwise_cons.mp kept
    cases found : p head with
    | false => simp [found, ih kept]
    | true =>
      have all : rest.filter p = rest := List.filter_eq_self.mpr fun item member =>
        later item member found
      simp [found, all]

/-- A property that never comes back holds of what is passed until it is lost. -/
private theorem takeWhile_eq_filter (kept : items.Pairwise fun a b => p b = true → p a = true) :
    items.takeWhile p = items.filter p := by
  induction items with
  | nil => rfl
  | cons head rest ih =>
    obtain ⟨later, kept⟩ := List.pairwise_cons.mp kept
    cases found : p head with
    | false =>
      have nowhere : rest.filter p = [] := List.filter_eq_nil_iff.mpr fun item member holds =>
        Bool.false_ne_true (found.symm.trans (later item member holds))
      simp [found, nowhere]
    | true => simp [found, ih kept]

end Stretch

namespace Bound

theorem Reached.mono {bound : Bound} {a b : Bytes} (reached : bound.Reached a) (less : a < b) :
    bound.Reached b := by
  cases bound with
  | unbounded => trivial
  | included _ => exact List.le_of_lt (List.lt_of_le_of_lt reached less)
  | excluded _ => exact List.lt_trans reached less

theorem Passed.mono {bound : Bound} {a b : Bytes} (passed : bound.Passed a) (less : a < b) :
    bound.Passed b := by
  cases bound with
  | unbounded => exact passed
  | included _ => exact List.lt_trans passed less
  | excluded _ => exact List.le_of_lt (List.lt_of_le_of_lt passed less)

end Bound

theorem KeyRange.mem_ofBeginning_iff (start key : Bytes) :
    (ofBeginning start).lower.Reached key ∧ ¬ (ofBeginning start).upper.Passed key ↔
      start <+: key := by
  rw [Bytes.prefix_iff_le_and_lt_successor?, ofBeginning]
  cases Bytes.successor? start with
  | none => simp [Bound.Reached, Bound.Passed]
  | some above => simp [Bound.Reached, Bound.Passed, List.not_le]

namespace Ascending

variable {a b : List Entry}

theorem eq_of_key_eq (ascending : Ascending a) {x y : Entry} (hx : x ∈ a) (hy : y ∈ a)
    (same : x.key = y.key) : x = y := by
  have forward : a.Pairwise fun x y => x.key = y.key → x = y :=
    ascending.imp fun less same => absurd (same ▸ less) (List.lt_irrefl _)
  have backward : a.Pairwise (flip fun x y => x.key = y.key → x = y) :=
    ascending.imp fun less same => absurd (same ▸ less) (List.lt_irrefl _)
  exact List.Pairwise.forall_of_forall_of_flip (fun _ _ _ => rfl) forward backward hx hy same

theorem eq_of_mem_iff (ha : Ascending a) (hb : Ascending b)
    (same : ∀ entry, entry ∈ a ↔ entry ∈ b) : a = b := by
  have irrefl : Std.Irrefl fun x y : Entry => x.key < y.key := ⟨fun _ => List.lt_irrefl _⟩
  have antisymm : Std.Antisymm fun x y : Entry => x.key < y.key :=
    ⟨fun _ _ less greater => absurd less (List.lt_asymm greater)⟩
  exact List.Pairwise.eq_of_mem_iff ha hb same

end Ascending

theorem Entry.mem_insert_iff {entry other : Entry} {entries : List Entry}
    (ascending : Ascending entries) :
    other ∈ insert entry entries ↔ other = entry ∨ other ∈ entries ∧ other.key ≠ entry.key := by
  induction entries with
  | nil => simp [insert]
  | cons head rest ih =>
    obtain ⟨above, tail⟩ := List.pairwise_cons.mp ascending
    rw [insert]
    split
    · next before =>
      have different : other ∈ head :: rest → other.key ≠ entry.key := by
        intro member same
        rcases List.mem_cons.mp member with rfl | later
        · exact List.lt_irrefl _ (same ▸ before)
        · exact List.lt_irrefl _ (same ▸ List.lt_trans before (above other later))
      rw [List.mem_cons]
      exact or_congr_right (iff_self_and.mpr different)
    · split
      · next same =>
        have different : other ∈ rest → other.key ≠ entry.key := by
          intro later equal
          exact List.lt_irrefl _ (equal.trans same ▸ above other later)
        rw [List.mem_cons, List.mem_cons, or_and_right]
        refine or_congr_right ⟨fun later => .inr ⟨later, different later⟩, ?_⟩
        rintro (⟨rfl, unequal⟩ | ⟨later, _⟩)
        · exact absurd same.symm unequal
        · exact later
      · next different =>
        rw [List.mem_cons, List.mem_cons, ih tail, or_and_right]
        constructor
        · rintro (rfl | rfl | later)
          · exact .inr (.inl ⟨rfl, fun same => different same.symm⟩)
          · exact .inl rfl
          · exact .inr (.inr later)
        · rintro (rfl | ⟨rfl, _⟩ | later)
          · exact .inr (.inl rfl)
          · exact .inl rfl
          · exact .inr (.inr later)

namespace ByteStore

variable {store : ByteStore} {key value : Bytes}

theorem eq_of_mem_iff {a b : ByteStore} (same : ∀ entry, entry ∈ a.entries ↔ entry ∈ b.entries) :
    a = b := by
  have entries := Ascending.eq_of_mem_iff a.ascending b.ascending same
  cases a
  cases b
  congr

theorem mem_set_iff {entry : Entry} :
    entry ∈ (store.set key value).entries ↔
      entry = ⟨key, value⟩ ∨ entry ∈ store.entries ∧ entry.key ≠ key :=
  Entry.mem_insert_iff store.ascending

theorem get?_eq_some_iff : store.get? key = some value ↔ ⟨key, value⟩ ∈ store.entries := by
  constructor
  · intro found
    obtain ⟨entry, hit, rfl⟩ := Option.map_eq_some_iff.mp found
    have same : entry.key = key := by simpa using List.find?_some hit
    exact same ▸ List.mem_of_find?_eq_some hit
  · intro member
    cases hit : store.entries.find? fun entry => entry.key == key with
    | none => simpa using List.find?_eq_none.mp hit _ member
    | some entry =>
      have same : entry.key = key := by simpa using List.find?_some hit
      have equal := store.ascending.eq_of_key_eq (List.mem_of_find?_eq_some hit) member same
      rw [get?, hit, equal]
      rfl

theorem get?_set : (store.set key value).get? key = some value :=
  get?_eq_some_iff.mpr (mem_set_iff.mpr (.inl rfl))

theorem get?_eq_none_iff : store.get? key = none ↔ ∀ entry ∈ store.entries, entry.key ≠ key := by
  simp [get?]

/-- A scan delivers the entries inside its range. -/
theorem remaining_scan (store : ByteStore) (range : KeyRange) :
    (store.scan range).remaining = store.entries.filter fun entry =>
      range.lower.Reached entry.key ∧ ¬ range.upper.Passed entry.key := by
  have lower : store.entries.Pairwise fun a b =>
      decide (range.lower.Reached a.key) = true → decide (range.lower.Reached b.key) = true :=
    store.ascending.imp fun less => by simpa using fun reached => Bound.Reached.mono reached less
  have upper : (store.entries.filter fun entry => range.lower.Reached entry.key).Pairwise fun a b =>
      decide (¬ range.upper.Passed b.key) = true → decide (¬ range.upper.Passed a.key) = true :=
    (store.ascending.filter _).imp fun less => by
      simpa using fun before passed => before (Bound.Passed.mono passed less)
  simp only [decide_not] at upper
  simp only [scan, decide_not]
  rw [dropWhile_not_eq_filter lower, takeWhile_eq_filter upper, List.filter_filter]
  simp only [Bool.and_comm, Bool.decide_and, decide_not]

/-- A scan of a beginning delivers the entries whose keys have it. -/
theorem remaining_scanBeginning (store : ByteStore) (start : Bytes) :
    (store.scanBeginning start).remaining =
      store.entries.filter fun entry => start.isPrefixOf entry.key := by
  rw [scanBeginning, remaining_scan]
  apply List.filter_congr
  intro entry _
  rw [Bool.eq_iff_iff, decide_eq_true_iff, List.isPrefixOf_iff_prefix]
  exact KeyRange.mem_ofBeginning_iff start entry.key

theorem mem_scanBeginning_iff {start : Bytes} {entry : Entry} :
    entry ∈ (store.scanBeginning start).remaining ↔
      entry ∈ store.entries ∧ start <+: entry.key := by
  rw [remaining_scanBeginning, List.mem_filter, List.isPrefixOf_iff_prefix]

theorem ascending_scanBeginning (store : ByteStore) (start : Bytes) :
    Ascending (store.scanBeginning start).remaining := by
  rw [remaining_scanBeginning]
  exact store.ascending.filter _

end ByteStore

end SqlStore
