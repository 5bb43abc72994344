import SqlStore.Proofs.Codec.RoundTrip
import SqlStore.Proofs.Storage.Scan

/-! # The keys of a store

Different keys have different bytes. The length of a name precedes its letters, so the keys with the
beginning of a group are those of the group and no others, whatever the names: one may continue the
other or be empty. Within a table the numbers of the rows decide the order.
-/

namespace SqlStore

namespace Codec

@[simp] theorem length_encodeKey_variant {count : Nat} (index : Fin count) :
    ((variant count).encodeKey index).length = 4 := by
  simp [encodeKey, variant, natural]

@[simp] theorem length_encodeKey_uint64 (n : UInt64) : (uint64.encodeKey n).length = 8 := by
  simp [encodeKey, uint64, natural]

theorem encodeKey_uint64_lt_iff (a b : UInt64) :
    uint64.encodeKey a < uint64.encodeKey b ↔ a < b := by
  rw [UInt64.lt_iff_toNat_lt]
  exact Bytes.reverse_ofNat_lt_iff a.toNat_lt b.toNat_lt

theorem encodeKey_text_injective {a b : String} (same : text.encodeKey a = text.encodeKey b) :
    a = b := by
  have letters : Text.Utf8.encode a = Text.Utf8.encode b :=
    List.append_inj_right same (by simp [natural])
  exact Text.Utf8.encode_injective letters

/-- No text continues another. One whose length eight bytes do not count would be longer than the
other by 2 ^ 64 at least, and not that much stands behind it. -/
theorem eq_of_encodeKey_text_prefix {a b : String} (hb : Text.Sized b) {rest : Bytes}
    (short : rest.length < 2 ^ 64) (start : text.encodeKey a <+: text.encodeKey b ++ rest) :
    a = b := by
  obtain ⟨more, same⟩ := start
  have fields : (natural 8).encode .big (Text.Utf8.encode a).length ++
      (Text.Utf8.encode a ++ more) = (natural 8).encode .big (Text.Utf8.encode b).length ++
      (Text.Utf8.encode b ++ rest) := by
    rw [← List.append_assoc, ← List.append_assoc]
    exact same
  obtain ⟨counts, letters⟩ := List.append_inj fields (by simp [natural])
  have equal : (Text.Utf8.encode a).length = (Text.Utf8.encode b).length := by
    have read := congrArg Bytes.toNat (List.reverse_injective counts)
    rw [Bytes.toNat_ofNat, Bytes.toNat_ofNat] at read
    have total := congrArg List.length letters
    rw [List.length_append, List.length_append] at total
    have bound : (Text.Utf8.encode b).length < 2 ^ 64 := hb
    omega
  exact Text.Utf8.encode_injective (List.append_inj_left letters equal)

end Codec

theorem Key.encode_row (name : String) (id : UInt64) :
    (row name id).encode = (KeyGroup.rows name).encode ++ Codec.uint64.encodeKey id := rfl

theorem KeyGroup.encode_rows (name : String) :
    (rows name).encode = (Codec.variant 2).encodeKey 1 ++ Codec.text.encodeKey name := rfl

/-- The first field tells schemas from rows. -/
private theorem tables_append_ne_rows_append {a b : Bytes} {name : String} :
    KeyGroup.tables.encode ++ a ≠ (KeyGroup.rows name).encode ++ b := by
  intro same
  rw [KeyGroup.encode_rows, List.append_assoc] at same
  have forms := List.append_inj_left same (by simp [KeyGroup.encode])
  exact absurd forms (by decide)

namespace Key

def Sized : Key → Prop
  | .table name => Text.Sized name
  | .row name _ => Text.Sized name

theorem codec_roundTrips : codec.RoundTrips Sized := by
  intro order key rest sized
  have forms : (Codec.variant 2).RoundTrips _ := Codec.variant_roundTrips (by decide)
  cases key with
  | table name =>
    simp only [codec, List.append_assoc]
    rw [Decoder.bind_of_ok (forms order 0 _ trivial)]
    exact Decoder.bind_of_ok (Codec.text_roundTrips order name rest sized)
  | row name id =>
    simp only [codec, List.append_assoc]
    rw [Decoder.bind_of_ok (forms order 1 _ trivial)]
    dsimp only
    rw [Decoder.bind_of_ok (Codec.text_roundTrips order name _ sized)]
    exact Decoder.bind_of_ok (Codec.uint64_roundTrips order id rest trivial)

theorem decode_encode {key : Key} (sized : key.Sized) : decode key.encode = .ok key :=
  Codec.decodeKey_encodeKey codec_roundTrips sized

theorem encode_injective {a b : Key} (same : a.encode = b.encode) : a = b := by
  cases a with
  | table n =>
    cases b with
    | table m =>
      have names := Codec.encodeKey_text_injective (List.append_cancel_left same)
      rw [names]
    | row m j => exact absurd same tables_append_ne_rows_append
  | row n i =>
    cases b with
    | table m => exact absurd same.symm tables_append_ne_rows_append
    | row m j =>
      rw [encode_row, encode_row] at same
      obtain ⟨groups, ids⟩ := List.append_inj' same (by simp)
      rw [KeyGroup.encode_rows, KeyGroup.encode_rows] at groups
      rw [Codec.encodeKey_text_injective (List.append_cancel_left groups),
        Codec.eq_of_encodeKey_eq Codec.uint64_roundTrips trivial trivial ids]

theorem encode_row_lt_iff (name : String) (i j : UInt64) :
    (row name i).encode < (row name j).encode ↔ i < j := by
  rw [encode_row, encode_row, Bytes.append_lt_append_iff rfl, Codec.encodeKey_uint64_lt_iff]
  simp [List.lt_irrefl]

end Key

namespace KeyGroup

/-- The keys of a group. -/
def Holds : KeyGroup → Key → Prop
  | tables, .table _ => True
  | rows name, .row other _ => name = other
  | _, _ => False

theorem not_encode_rows_prefix_table (name other : String) :
    ¬ (rows name).encode <+: (Key.table other).encode := by
  rintro ⟨rest, same⟩
  exact tables_append_ne_rows_append same.symm

theorem not_encode_tables_prefix_row (name : String) (id : UInt64) :
    ¬ tables.encode <+: (Key.row name id).encode := by
  rintro ⟨rest, same⟩
  exact tables_append_ne_rows_append same

/-- A key that begins as the rows of a name do is a row of that name. -/
theorem eq_of_encode_rows_prefix {name other : String} {id : UInt64} (sized : Text.Sized other)
    (start : (rows name).encode <+: (Key.row other id).encode) : name = other := by
  rw [Key.encode_row, encode_rows, encode_rows, List.append_assoc,
    List.prefix_append_right_inj] at start
  refine Codec.eq_of_encodeKey_text_prefix sized ?_ start
  rw [Codec.length_encodeKey_uint64]
  decide

/-- The keys that begin as a group does are those of the group. -/
theorem encode_prefix_iff {group : KeyGroup} {key : Key} (sizedKey : key.Sized) :
    group.encode <+: key.encode ↔ group.Holds key := by
  cases group with
  | tables =>
    cases key with
    | table n => exact iff_of_true (List.prefix_append _ _) trivial
    | row n i => exact iff_of_false (not_encode_tables_prefix_row n i) id
  | rows name =>
    cases key with
    | table n => exact iff_of_false (not_encode_rows_prefix_table name n) id
    | row n i =>
      constructor
      · exact eq_of_encode_rows_prefix sizedKey
      · rintro rfl
        exact List.prefix_append _ _

end KeyGroup

end SqlStore
