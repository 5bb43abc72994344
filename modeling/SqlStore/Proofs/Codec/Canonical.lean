import SqlStore.Proofs.Codec.RoundTrip
import SqlStore.Proofs.Result

/-! # One spelling for every value

What a codec reads as a value is what it writes for the value, byte for byte: numbers use all their
bytes, a truth value is a zero or a one, a form has one position, a text one UTF-8 spelling, and a
length counts exactly what follows it. Together with the round trips this says that a value is read
from the front of some bytes if and only if they begin with what is written for it. So no value is
written as the beginning of another, and bytes that are cut short are no value at all.
-/

namespace SqlStore

variable {α β : Type}

namespace Decoder

theorem bind_eq_ok_iff {first : Decoder α} {next : α → Decoder β} {bytes rest : Bytes} {value : β} :
    (first >>= next) bytes = .ok (value, rest) ↔
      ∃ field middle, first bytes = .ok (field, middle) ∧
        next field middle = .ok (value, rest) := by
  change (first bytes >>= fun (field, middle) => next field middle) = _ ↔ _
  rw [Result.bind_eq_ok_iff]
  exact Prod.exists

theorem pure_eq_ok_iff {value other : α} {bytes rest : Bytes} :
    (pure value : Decoder α) bytes = .ok (other, rest) ↔ other = value ∧ rest = bytes := by
  rw [pure_apply, Except.ok.injEq, Prod.mk.injEq, eq_comm, eq_comm (a := bytes)]

theorem take_eq_ok_iff {count : Nat} {shortage : DecodeError} {bytes field rest : Bytes} :
    take count shortage bytes = .ok (field, rest) ↔
      field.length = count ∧ bytes = field ++ rest := by
  constructor
  · intro read
    rw [take] at read
    split at read
    · next enough =>
      obtain ⟨rfl, rfl⟩ := Prod.mk.inj (Except.ok.inj read)
      exact ⟨List.length_take_of_le enough, (List.take_append_drop count bytes).symm⟩
    · contradiction
  · rintro ⟨length, rfl⟩
    exact take_append shortage length rest

end Decoder

namespace Codec

/-- Nothing is read as a value but what is written for it. -/
def Canonical (codec : Codec α) (fits : α → Prop) : Prop :=
  ∀ order bytes value rest, codec.decode order bytes = .ok (value, rest) →
    fits value ∧ bytes = codec.encode order value ++ rest

/-- Where a field is read first, the bytes begin with what is written for it. -/
theorem Canonical.bind {codec : Codec α} {fits : α → Prop} (canonical : codec.Canonical fits)
    {next : α → Decoder β} {order : ByteOrder} {bytes rest : Bytes} {value : β}
    (read : (codec.decode order >>= next) bytes = .ok (value, rest)) :
    ∃ field middle, fits field ∧ bytes = codec.encode order field ++ middle ∧
      next field middle = .ok (value, rest) := by
  obtain ⟨field, middle, first, later⟩ := Decoder.bind_eq_ok_iff.mp read
  obtain ⟨fitting, whole⟩ := canonical order bytes field middle first
  exact ⟨field, middle, fitting, whole, later⟩

theorem natural_canonical (width : Nat) : (natural width).Canonical (· < 256 ^ width) := by
  intro order bytes value rest read
  obtain ⟨field, middle, taken, done⟩ := Decoder.bind_eq_ok_iff.mp read
  obtain ⟨rfl, rfl⟩ := Decoder.pure_eq_ok_iff.mp done
  obtain ⟨rfl, rfl⟩ := Decoder.take_eq_ok_iff.mp taken
  have bound := Bytes.toNat_lt (order.arrange field)
  have written := Bytes.ofNat_toNat (order.arrange field)
  rw [ByteOrder.length_arrange] at bound written
  refine ⟨bound, ?_⟩
  simp only [natural]
  rw [written, ByteOrder.arrange_arrange]

theorem uint64_canonical : uint64.Canonical fun _ => True := by
  intro order bytes value rest read
  obtain ⟨n, middle, small, rfl, done⟩ := (natural_canonical 8).bind read
  obtain ⟨rfl, rfl⟩ := Decoder.pure_eq_ok_iff.mp done
  refine ⟨trivial, ?_⟩
  simp only [uint64]
  rw [UInt64.toNat_ofNat_of_lt' small]

theorem int64_canonical : int64.Canonical fun _ => True := by
  intro order bytes value rest read
  obtain ⟨n, middle, _, rfl, done⟩ := uint64_canonical.bind read
  obtain ⟨rfl, rfl⟩ := Decoder.pure_eq_ok_iff.mp done
  exact ⟨trivial, rfl⟩

theorem bool_canonical : bool.Canonical fun _ => True := by
  intro order bytes value rest read
  obtain ⟨field, middle, taken, form⟩ := Decoder.bind_eq_ok_iff.mp read
  obtain ⟨_, rfl⟩ := Decoder.take_eq_ok_iff.mp taken
  refine ⟨trivial, ?_⟩
  split at form
  · obtain ⟨rfl, rfl⟩ := Decoder.pure_eq_ok_iff.mp form
    rfl
  · obtain ⟨rfl, rfl⟩ := Decoder.pure_eq_ok_iff.mp form
    rfl
  · contradiction

theorem variant_canonical (count : Nat) : (variant count).Canonical fun _ => True := by
  intro order bytes value rest read
  obtain ⟨index, middle, _, rfl, form⟩ := (natural_canonical 4).bind read
  refine ⟨trivial, ?_⟩
  split at form
  · obtain ⟨rfl, rfl⟩ := Decoder.pure_eq_ok_iff.mp form
    rfl
  · contradiction

theorem text_canonical : text.Canonical Text.Sized := by
  intro order bytes value rest read
  obtain ⟨length, _, small, rfl, body⟩ := (natural_canonical 8).bind read
  obtain ⟨letters, middle, taken, found⟩ := Decoder.bind_eq_ok_iff.mp body
  obtain ⟨rfl, rfl⟩ := Decoder.take_eq_ok_iff.mp taken
  cases valid : Text.Utf8.decode letters with
  | error fault =>
    rw [valid] at found
    contradiction
  | ok s =>
    rw [valid] at found
    obtain ⟨rfl, rfl⟩ := Decoder.pure_eq_ok_iff.mp found
    obtain rfl := Text.Utf8.encode_of_decode valid
    refine ⟨small, ?_⟩
    simp only [text, List.append_assoc]

theorem times_canonical {item : Codec α} {fits : α → Prop} (canonical : item.Canonical fits)
    {order : ByteOrder} {count : Nat} {bytes rest : Bytes} {items : List α}
    (read : Decoder.times (item.decode order) count bytes = .ok (items, rest)) :
    items.length = count ∧ (∀ value ∈ items, fits value) ∧
      bytes = items.flatMap (item.encode order) ++ rest := by
  induction count generalizing bytes items with
  | zero =>
    obtain ⟨rfl, rfl⟩ := Decoder.pure_eq_ok_iff.mp read
    exact ⟨rfl, fun _ member => absurd member List.not_mem_nil, rfl⟩
  | succ count ih =>
    obtain ⟨head, middle, here, rfl, body⟩ := canonical.bind read
    obtain ⟨tail, behind, others, done⟩ := Decoder.bind_eq_ok_iff.mp body
    obtain ⟨rfl, rfl⟩ := Decoder.pure_eq_ok_iff.mp done
    obtain ⟨rfl, later, rfl⟩ := ih others
    refine ⟨rfl, List.forall_mem_cons.mpr ⟨here, later⟩, ?_⟩
    rw [List.flatMap_cons, List.append_assoc]

theorem list_canonical {item : Codec α} {fits : α → Prop} (canonical : item.Canonical fits) :
    (list item).Canonical fun items => items.length < 2 ^ 64 ∧ ∀ value ∈ items, fits value := by
  intro order bytes items rest read
  obtain ⟨count, middle, small, rfl, body⟩ := (natural_canonical 8).bind read
  obtain ⟨rfl, fitting, rfl⟩ := times_canonical canonical body
  refine ⟨⟨small, fitting⟩, ?_⟩
  simp only [list, List.append_assoc]

end Codec

theorem Value.codec_canonical : Value.codec.Canonical Value.Sized := by
  intro order bytes value rest read
  obtain ⟨form, middle, _, rfl, body⟩ := (Codec.variant_canonical 4).bind read
  split at body
  · obtain ⟨rfl, rfl⟩ := Decoder.pure_eq_ok_iff.mp body
    exact ⟨trivial, rfl⟩
  · obtain ⟨b, _, _, rfl, done⟩ := Codec.bool_canonical.bind body
    obtain ⟨rfl, rfl⟩ := Decoder.pure_eq_ok_iff.mp done
    refine ⟨trivial, ?_⟩
    simp only [codec, List.append_assoc]
  · obtain ⟨n, _, _, rfl, done⟩ := Codec.int64_canonical.bind body
    obtain ⟨rfl, rfl⟩ := Decoder.pure_eq_ok_iff.mp done
    refine ⟨trivial, ?_⟩
    simp only [codec, List.append_assoc]
  · obtain ⟨s, _, sized, rfl, done⟩ := Codec.text_canonical.bind body
    obtain ⟨rfl, rfl⟩ := Decoder.pure_eq_ok_iff.mp done
    refine ⟨sized, ?_⟩
    simp only [codec, List.append_assoc]

theorem Row.codec_canonical : Row.codec.Canonical Row.Sized :=
  Codec.list_canonical Value.codec_canonical

theorem ColumnType.codec_canonical : ColumnType.codec.Canonical fun _ => True := by
  intro order bytes type rest read
  obtain ⟨form, middle, _, rfl, done⟩ := (Codec.variant_canonical 3).bind read
  refine ⟨trivial, ?_⟩
  split at done <;> obtain ⟨rfl, rfl⟩ := Decoder.pure_eq_ok_iff.mp done <;> rfl

theorem Column.codec_canonical :
    Column.codec.Canonical fun column => Text.Sized column.name := by
  intro order bytes column rest read
  obtain ⟨name, _, sized, rfl, afterName⟩ := Codec.text_canonical.bind read
  obtain ⟨type, _, _, rfl, afterType⟩ := ColumnType.codec_canonical.bind afterName
  obtain ⟨nullable, _, _, rfl, afterNullable⟩ := Codec.bool_canonical.bind afterType
  obtain ⟨primaryKey, _, _, rfl, done⟩ := Codec.bool_canonical.bind afterNullable
  obtain ⟨rfl, rfl⟩ := Decoder.pure_eq_ok_iff.mp done
  refine ⟨sized, ?_⟩
  simp only [codec, List.append_assoc]

theorem Table.codec_canonical : Table.codec.Canonical Table.Sized := by
  intro order bytes table rest read
  obtain ⟨name, _, named, rfl, afterName⟩ := Codec.text_canonical.bind read
  obtain ⟨columns, _, sized, rfl, done⟩ :=
    (Codec.list_canonical Column.codec_canonical).bind afterName
  obtain ⟨rfl, rfl⟩ := Decoder.pure_eq_ok_iff.mp done
  refine ⟨⟨named, sized⟩, ?_⟩
  simp only [codec, List.append_assoc]

namespace Codec

/-- A value is read from the front of some bytes exactly where they begin with what is written for
it. -/
structure Exact (codec : Codec α) (fits : α → Prop) : Prop where
  roundTrips : codec.RoundTrips fits
  canonical : codec.Canonical fits

namespace Exact

variable {codec : Codec α} {fits : α → Prop}

theorem decode_eq_ok_iff (exact : codec.Exact fits) {order : ByteOrder} {bytes rest : Bytes}
    {value : α} : codec.decode order bytes = .ok (value, rest) ↔
      fits value ∧ bytes = codec.encode order value ++ rest := by
  constructor
  · exact exact.canonical order bytes value rest
  · rintro ⟨fitting, rfl⟩
    exact exact.roundTrips order value rest fitting

theorem eq_of_prefix (exact : codec.Exact fits) {order : ByteOrder} {a b : α} (ha : fits a)
    (hb : fits b) (start : codec.encode order a <+: codec.encode order b) : a = b := by
  obtain ⟨rest, same⟩ := start
  have readA := exact.roundTrips order a rest ha
  have readB := exact.roundTrips order b [] hb
  rw [List.append_nil, ← same, readA] at readB
  exact (Prod.mk.inj (Except.ok.inj readB)).1

theorem decodeKey_eq_ok_iff (exact : codec.Exact fits) {bytes : Bytes} {key : α} :
    codec.decodeKey bytes = .ok key ↔ fits key ∧ codec.encodeKey key = bytes := by
  rw [decodeKey, Result.bind_eq_ok_iff]
  constructor
  · rintro ⟨⟨value, rest⟩, read, whole⟩
    obtain ⟨fitting, rfl⟩ := exact.decode_eq_ok_iff.mp read
    cases rest with
    | nil =>
      obtain rfl := Except.ok.inj whole
      exact ⟨fitting, (List.append_nil _).symm⟩
    | cons _ _ => contradiction
  · rintro ⟨fitting, rfl⟩
    exact ⟨(key, []), exact.decode_eq_ok_iff.mpr ⟨fitting, (List.append_nil _).symm⟩, rfl⟩

theorem decodeStored_eq_ok_iff (exact : codec.Exact fits) {bytes : Bytes} {value : α} :
    codec.decodeStored bytes = .ok value ↔ fits value ∧ codec.encodeStored value <+: bytes := by
  rw [decodeStored, Result.map_eq_ok_iff]
  constructor
  · rintro ⟨⟨value, rest⟩, read, rfl⟩
    obtain ⟨fitting, rfl⟩ := exact.decode_eq_ok_iff.mp read
    exact ⟨fitting, List.prefix_append _ _⟩
  · rintro ⟨fitting, rest, rfl⟩
    exact ⟨(value, rest), exact.decode_eq_ok_iff.mpr ⟨fitting, rfl⟩, rfl⟩

end Exact

end Codec

end SqlStore
