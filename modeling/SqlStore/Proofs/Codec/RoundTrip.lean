import SqlStore.Codec.Record
import SqlStore.Key
import SqlStore.Proofs.Codec.Utf8
import SqlStore.Proofs.Storage.ByteOrder

/-! # Reading back what was written

Every codec reads back the values that it writes, whatever stands behind them, and leaves that
untouched. A length takes eight bytes, so this holds of texts and lists that are no longer than such
a number can count. Choices, fields and items follow from the round trips of their parts.
-/

namespace SqlStore

/-- Eight bytes count the bytes of the text. -/
def Text.Sized (text : String) : Prop := (Text.Utf8.encode text).length < 2 ^ 64

def Value.Sized : Value → Prop
  | .text s => Text.Sized s
  | _ => True

def Row.Sized (row : Row) : Prop := row.length < 2 ^ 64 ∧ ∀ value ∈ row, value.Sized

def Table.Sized (table : Table) : Prop :=
  Text.Sized table.name ∧
    table.columns.length < 2 ^ 64 ∧ ∀ column ∈ table.columns, Text.Sized column.name

instance (text : String) : Decidable (Text.Sized text) := Nat.decLt _ _

instance : DecidablePred Value.Sized
  | .text s => inferInstanceAs (Decidable (Text.Sized s))
  | .null | .boolean _ | .integer _ => isTrue trivial

instance : DecidablePred Table.Sized := fun _ => instDecidableAnd

namespace Decoder

theorem bind_of_ok {x : Decoder α} {f : α → Decoder β} {bytes rest : Bytes} {value : α}
    (read : x bytes = .ok (value, rest)) : (x >>= f) bytes = f value rest := by
  change (x bytes >>= fun (value, rest) => f value rest) = f value rest
  rw [read]
  rfl

theorem pure_apply (value : α) (bytes : Bytes) :
    (pure value : Decoder α) bytes = .ok (value, bytes) := rfl

theorem take_append {count : Nat} (shortage : DecodeError) {field : Bytes}
    (length : field.length = count) (rest : Bytes) :
    take count shortage (field ++ rest) = .ok (field, rest) := by
  subst length
  simp [take]

end Decoder

namespace Codec

/-- A value that fits is read back from the front of any bytes, and the others are left. -/
def RoundTrips (codec : Codec α) (fits : α → Prop) : Prop :=
  ∀ order value rest, fits value →
    codec.decode order (codec.encode order value ++ rest) = .ok (value, rest)

theorem natural_roundTrips (width : Nat) : (natural width).RoundTrips (· < 256 ^ width) := by
  intro order n rest small
  have length : (order.arrange (Bytes.ofNat width n)).length = width := by simp
  simp only [natural]
  rw [Decoder.bind_of_ok (Decoder.take_append .endOfInput length rest), ByteOrder.arrange_arrange,
    Bytes.toNat_ofNat, Nat.mod_eq_of_lt small, Decoder.pure_apply]

theorem uint64_roundTrips : uint64.RoundTrips fun _ => True := by
  intro order n rest _
  simp only [uint64]
  rw [Decoder.bind_of_ok (natural_roundTrips 8 order n.toNat rest n.toNat_lt), UInt64.ofNat_toNat,
    Decoder.pure_apply]

theorem int64_roundTrips : int64.RoundTrips fun _ => True := by
  intro order n rest _
  simp only [int64]
  rw [Decoder.bind_of_ok (uint64_roundTrips order n.toUInt64 rest trivial), Int64.toInt64_toUInt64,
    Decoder.pure_apply]

theorem bool_roundTrips : bool.RoundTrips fun _ => True := by
  intro order b rest _
  simp only [bool]
  rw [Decoder.bind_of_ok (Decoder.take_append .endOfInput (by simp) rest)]
  cases b <;> rfl

theorem variant_roundTrips {count : Nat} (small : count ≤ 256 ^ 4) :
    (variant count).RoundTrips fun _ => True := by
  intro order index rest _
  have bound : index.val < 256 ^ 4 := Nat.lt_of_lt_of_le index.isLt small
  simp only [variant]
  rw [Decoder.bind_of_ok (natural_roundTrips 4 order index rest bound), dif_pos index.isLt,
    Decoder.pure_apply]

theorem text_roundTrips : text.RoundTrips Text.Sized := by
  intro order s rest small
  simp only [text, List.append_assoc]
  rw [Decoder.bind_of_ok (natural_roundTrips 8 order _ _ small),
    Decoder.bind_of_ok (Decoder.take_append .textOverrun rfl rest), Text.Utf8.decode_encode]
  rfl

theorem times_roundTrips {item : Codec α} {fits : α → Prop} (itemTrips : item.RoundTrips fits)
    (order : ByteOrder) (items : List α) (rest : Bytes) (fitting : ∀ a ∈ items, fits a) :
    Decoder.times (item.decode order) items.length (items.flatMap (item.encode order) ++ rest) =
      .ok (items, rest) := by
  induction items with
  | nil => rfl
  | cons head tail ih =>
    obtain ⟨headFits, tailFits⟩ := List.forall_mem_cons.mp fitting
    rw [List.flatMap_cons, List.append_assoc, List.length_cons, Decoder.times,
      Decoder.bind_of_ok (itemTrips order head _ headFits), Decoder.bind_of_ok (ih tailFits),
      Decoder.pure_apply]

theorem list_roundTrips {item : Codec α} {fits : α → Prop} (itemTrips : item.RoundTrips fits) :
    (list item).RoundTrips fun items => items.length < 2 ^ 64 ∧ ∀ a ∈ items, fits a := by
  rintro order items rest ⟨small, fitting⟩
  simp only [list, List.append_assoc]
  rw [Decoder.bind_of_ok (natural_roundTrips 8 order _ _ small)]
  exact times_roundTrips itemTrips order items rest fitting

theorem decodeKey_encodeKey {codec : Codec α} {fits : α → Prop} (trips : codec.RoundTrips fits)
    {value : α} (fitting : fits value) : codec.decodeKey (codec.encodeKey value) = .ok value := by
  have read := trips .big value [] fitting
  rw [List.append_nil] at read
  rw [decodeKey, encodeKey, read]
  rfl

theorem eq_of_encodeKey_eq {codec : Codec α} {fits : α → Prop} (trips : codec.RoundTrips fits)
    {a b : α} (ha : fits a) (hb : fits b) (same : codec.encodeKey a = codec.encodeKey b) :
    a = b := by
  have read := decodeKey_encodeKey trips ha
  rw [same, decodeKey_encodeKey trips hb] at read
  exact (Except.ok.inj read).symm

theorem decodeStored_encodeStored {codec : Codec α} {fits : α → Prop}
    (trips : codec.RoundTrips fits) {value : α} (fitting : fits value) :
    codec.decodeStored (codec.encodeStored value) = .ok value := by
  have read := trips .little value [] fitting
  rw [List.append_nil] at read
  rw [decodeStored, encodeStored, read]
  rfl

end Codec

theorem Value.codec_roundTrips : Value.codec.RoundTrips Value.Sized := by
  intro order value rest sized
  have forms : (Codec.variant 4).RoundTrips _ := Codec.variant_roundTrips (by decide)
  cases value with
  | null =>
    simp only [codec]
    rw [Decoder.bind_of_ok (forms order 0 rest trivial)]
    rfl
  | boolean b =>
    simp only [codec, List.append_assoc]
    rw [Decoder.bind_of_ok (forms order 1 _ trivial)]
    exact Decoder.bind_of_ok (Codec.bool_roundTrips order b rest trivial)
  | integer n =>
    simp only [codec, List.append_assoc]
    rw [Decoder.bind_of_ok (forms order 2 _ trivial)]
    exact Decoder.bind_of_ok (Codec.int64_roundTrips order n rest trivial)
  | text s =>
    simp only [codec, List.append_assoc]
    rw [Decoder.bind_of_ok (forms order 3 _ trivial)]
    exact Decoder.bind_of_ok (Codec.text_roundTrips order s rest sized)

theorem Row.codec_roundTrips : Row.codec.RoundTrips Row.Sized :=
  Codec.list_roundTrips Value.codec_roundTrips

theorem ColumnType.codec_roundTrips : ColumnType.codec.RoundTrips fun _ => True := by
  intro order type rest _
  have forms : (Codec.variant 3).RoundTrips _ := Codec.variant_roundTrips (by decide)
  cases type <;> simp only [codec] <;> rw [Decoder.bind_of_ok (forms order _ rest trivial)] <;> rfl

theorem Column.codec_roundTrips : Column.codec.RoundTrips fun column => Text.Sized column.name := by
  intro order column rest sized
  simp only [codec, List.append_assoc]
  rw [Decoder.bind_of_ok (Codec.text_roundTrips order column.name _ sized),
    Decoder.bind_of_ok (ColumnType.codec_roundTrips order column.type _ trivial),
    Decoder.bind_of_ok (Codec.bool_roundTrips order column.nullable _ trivial),
    Decoder.bind_of_ok (Codec.bool_roundTrips order column.primaryKey _ trivial),
    Decoder.pure_apply]

theorem Table.codec_roundTrips : Table.codec.RoundTrips Table.Sized := by
  rintro order table rest ⟨name, columns⟩
  simp only [codec, List.append_assoc]
  rw [Decoder.bind_of_ok (Codec.text_roundTrips order table.name _ name),
    Decoder.bind_of_ok
      (Codec.list_roundTrips Column.codec_roundTrips order table.columns _ columns),
    Decoder.pure_apply]

end SqlStore
