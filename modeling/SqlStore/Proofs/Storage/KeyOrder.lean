import SqlStore.Proofs.Storage.KeySpace

/-! # The order of keys

The bytes of a key are its fields one after the other, each of a width that the fields before it
decide, so two keys are ordered by the first field in which they differ: schemas come before rows,
shorter names before longer ones, names of one length stand in the order of their bytes, and the
rows of a name in the order of their numbers. All rows of a name stand together.
-/

namespace SqlStore

/-- The order of names in keys: shorter ones come before longer ones, whatever their letters are. -/
def Text.ShorterFirst (a b : String) : Prop :=
  (Utf8.encode a).length < (Utf8.encode b).length ∨
    (Utf8.encode a).length = (Utf8.encode b).length ∧ Utf8.encode a < Utf8.encode b

namespace Codec

/-- A shorter text comes before a longer one, whatever its letters are. -/
theorem compare_encodeKey_text_append {a b : String} (ha : Text.Sized a) (hb : Text.Sized b)
    (s t : Bytes) :
    compare (text.encodeKey a ++ s) (text.encodeKey b ++ t) =
      (compare (Text.Utf8.encode a).length (Text.Utf8.encode b).length).then
        ((compare (Text.Utf8.encode a) (Text.Utf8.encode b)).then (compare s t)) := by
  have counts := @Bytes.compare_reverse_ofNat 8 _ _ ha hb
  simp only [encodeKey, text, natural, ByteOrder.arrange, List.append_assoc]
  rw [Bytes.compare_append (by simp), counts]
  cases lengths : compare (Text.Utf8.encode a).length (Text.Utf8.encode b).length with
  | lt | gt => rfl
  | eq => rw [Bytes.compare_append (Nat.compare_eq_eq.mp lengths)]

theorem compare_encodeKey_uint64 (a b : UInt64) :
    compare (uint64.encodeKey a) (uint64.encodeKey b) = compare a.toNat b.toNat :=
  Bytes.compare_reverse_ofNat a.toNat_lt b.toNat_lt

end Codec

namespace Key

def form : Key → Nat
  | table _ => 0
  | row _ _ => 1

/-- The name as bytes. -/
def letters : Key → Bytes
  | table name | row name _ => Text.Utf8.encode name

/-- A schema needs no number, since no other has its name. -/
def number : Key → Nat
  | table _ => 0
  | row _ id => id.toNat

/-- Compares two keys field by field. The first field in which they differ decides. -/
def compareFields : Key → Key → Ordering :=
  compareLex (compareOn form) <|
    compareLex (compareOn fun key => key.letters.length) <|
      compareLex (compareOn letters) (compareOn number)

theorem encode_table (name : String) :
    (table name).encode = KeyGroup.tables.encode ++ Codec.text.encodeKey name := rfl

theorem encode_table_lt_iff {a b : String} (ha : Text.Sized a) (hb : Text.Sized b) :
    (table a).encode < (table b).encode ↔ Text.ShorterFirst a b := by
  have texts := Codec.compare_encodeKey_text_append ha hb [] []
  rw [List.append_nil, List.append_nil, Std.compare_self, Ordering.then_eq] at texts
  rw [encode_table, encode_table, ← Std.compare_eq_lt, Bytes.compare_append_left, texts,
    Ordering.then_eq_lt, Nat.compare_eq_lt, Nat.compare_eq_eq, Std.compare_eq_lt]
  rfl

theorem encode_table_lt_encode_row (schema name : String) (id : UInt64) :
    (table schema).encode < (row name id).encode := by
  rw [encode_table, encode_row, KeyGroup.encode_rows, List.append_assoc]
  exact (Bytes.append_lt_append_iff (by simp [KeyGroup.encode])).mpr (.inl (by decide))

theorem compare_encode {a b : Key} (ha : a.Sized) (hb : b.Sized) :
    compare a.encode b.encode = compareFields a b := by
  cases a with
  | table n =>
    cases b with
    | table m =>
      have texts := Codec.compare_encodeKey_text_append ha hb [] []
      rw [List.append_nil, List.append_nil] at texts
      rw [encode_table, encode_table, Bytes.compare_append_left, texts]
      rfl
    | row m j => exact Std.compare_eq_lt.mpr (encode_table_lt_encode_row n m j)
  | row n i =>
    cases b with
    | table m => exact Std.compare_eq_gt.mpr (encode_table_lt_encode_row m n i)
    | row m j =>
      rw [encode_row, encode_row, KeyGroup.encode_rows, KeyGroup.encode_rows, List.append_assoc,
        List.append_assoc, Bytes.compare_append_left, Codec.compare_encodeKey_text_append ha hb,
        Codec.compare_encodeKey_uint64]
      rfl

/-- The rows of a name stand together in a store, with no other key among them. -/
theorem exists_block (store : ByteStore) (name : String) :
    ∃ block, block <:+: store.entries ∧ ∀ entry ∈ store.entries, ∀ key : Key, key.Sized →
      key.encode = entry.key → (entry ∈ block ↔ ∃ id, key = row name id) := by
  refine ⟨(store.scanBeginning (KeyGroup.rows name).encode).remaining, ?_, ?_⟩
  · exact (List.takeWhile_prefix _).isInfix.trans (List.dropWhile_suffix _).isInfix
  · intro entry stored key sized same
    rw [ByteStore.mem_scanBeginning_iff, ← same, KeyGroup.encode_prefix_iff sized,
      and_iff_right stored]
    cases key with
    | table other => simp [KeyGroup.Holds]
    | row other id => simp [KeyGroup.Holds, eq_comm]

/-- Keys are ordered as their forms are, then as the lengths of their names, then as the bytes of
their names, then as their numbers. So the rows of a name are in the order of their numbers, behind
all schemas, and they stand together. -/
theorem keys_are_ordered_by_fields :
    (∀ a b : Key, a.Sized → b.Sized →
      compare a.encode b.encode = compareFields a b ∧
        (a.encode < b.encode ↔ compareFields a b = .lt)) ∧
    (∀ name i j, (row name i).encode < (row name j).encode ↔ i < j) ∧
    (∀ schema name id, (table schema).encode < (row name id).encode) ∧
    ∀ (store : ByteStore) (name : String), ∃ block, block <:+: store.entries ∧
      ∀ entry ∈ store.entries, ∀ key : Key, key.Sized → key.encode = entry.key →
        (entry ∈ block ↔ ∃ id, key = row name id) := by
  refine ⟨fun a b ha hb => ?_, encode_row_lt_iff, encode_table_lt_encode_row, exists_block⟩
  rw [← compare_encode ha hb]
  exact ⟨rfl, Std.compare_eq_lt.symm⟩

/-- The numbers of the longer name differ in two bytes, and the shorter name comes first though its
letter is the greater. -/
theorem keys_are_ordered_by_fields_of_names :
    let held : ByteStore := .ofList [⟨(row "éa" 256).encode, [1]⟩, ⟨(row "éa" 255).encode, [2]⟩,
      ⟨(row "zz" 0).encode, [3]⟩, ⟨(table "éa").encode, [4]⟩]
    compare (row "zz" 0).encode (row "éa" 255).encode = .lt ∧
    compare (row "éa" 256).encode (row "éa" 255).encode = .gt ∧
    ∃ block, block <:+: held.entries ∧ ⟨(row "éa" 256).encode, [1]⟩ ∈ block ∧
      ⟨(row "zz" 0).encode, [3]⟩ ∉ block := by
  intro held
  obtain ⟨ordered, _, _, blocks⟩ := keys_are_ordered_by_fields
  have long : Text.Sized "éa" := by decide
  have short : Text.Sized "zz" := by decide
  refine ⟨(ordered (row "zz" 0) (row "éa" 255) short long).1.trans (by decide),
    (ordered (row "éa" 256) (row "éa" 255) long long).1.trans (by decide), ?_⟩
  obtain ⟨block, stretch, rows⟩ := blocks held "éa"
  refine ⟨block, stretch, ?_, fun member => ?_⟩
  · exact (rows _ (by decide +kernel) (row "éa" 256) long rfl).mpr ⟨256, rfl⟩
  · obtain ⟨id, same⟩ := (rows _ (by decide +kernel) (row "zz" 0) short rfl).mp member
    simp at same

end Key

end SqlStore
