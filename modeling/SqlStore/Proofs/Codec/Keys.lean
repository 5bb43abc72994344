import SqlStore.Proofs.Codec.Canonical
import SqlStore.Proofs.Storage.KeySpace

/-! # Keys and their bytes

A key takes up all its bytes, so a byte string is a key or it is none, and no two keys have the same
bytes. A byte string that continues a key, or that a key continues, is refused as any other is. This
holds of the keys of the store and of the values that can be keys by themselves.
-/

namespace SqlStore

theorem Key.codec_canonical : codec.Canonical Sized := by
  intro order bytes key rest read
  obtain ⟨form, middle, _, rfl, body⟩ := (Codec.variant_canonical 2).bind read
  split at body
  · obtain ⟨name, _, sized, rfl, done⟩ := Codec.text_canonical.bind body
    obtain ⟨rfl, rfl⟩ := Decoder.pure_eq_ok_iff.mp done
    refine ⟨sized, ?_⟩
    simp only [codec, List.append_assoc]
  · obtain ⟨name, _, sized, rfl, afterName⟩ := Codec.text_canonical.bind body
    obtain ⟨id, _, _, rfl, done⟩ := Codec.uint64_canonical.bind afterName
    obtain ⟨rfl, rfl⟩ := Decoder.pure_eq_ok_iff.mp done
    refine ⟨sized, ?_⟩
    simp only [codec, List.append_assoc]

namespace Codec

variable {α : Type} {codec : Codec α} {fits : α → Prop}

/-- Keys and the byte strings that are keys belong to each other, one to one. A key fits if eight
bytes count the bytes of its text. -/
structure KeysExact (codec : Codec α) (fits : α → Prop) : Prop where
  decodeKey_iff : ∀ bytes key,
    codec.decodeKey bytes = .ok key ↔ fits key ∧ codec.encodeKey key = bytes
  /-- No two keys share their bytes. -/
  distinct : ∀ a b, fits a → fits b → codec.encodeKey a = codec.encodeKey b → a = b
  /-- What a key continues, or what continues a key, is no key. -/
  isolated : ∀ key bytes, fits key → bytes ≠ codec.encodeKey key →
    bytes <+: codec.encodeKey key ∨ codec.encodeKey key <+: bytes →
      ∃ cause, codec.decodeKey bytes = .error cause
  /-- What is no key is reported as a fault of the store. -/
  refused : ∀ bytes, (∀ key, fits key → codec.encodeKey key ≠ bytes) →
    ∃ cause, (liftM (codec.decodeKey bytes) : Except Error α) = .error (.storage (.decode cause))

theorem Exact.keysExact (exact : codec.Exact fits) : codec.KeysExact fits where
  decodeKey_iff bytes key := exact.decodeKey_eq_ok_iff
  distinct a b ha hb same := by
    have start : codec.encodeKey a <+: codec.encodeKey b := same ▸ List.prefix_rfl
    exact exact.eq_of_prefix ha hb start
  isolated key bytes fitting different start := by
    apply Result.exists_eq_error
    intro other read
    obtain ⟨fittingOther, rfl⟩ := exact.decodeKey_eq_ok_iff.mp read
    rcases start with shorter | longer
    · exact different (by rw [exact.eq_of_prefix fittingOther fitting shorter])
    · exact different (by rw [exact.eq_of_prefix fitting fittingOther longer])
  refused bytes none := by
    obtain ⟨cause, failed⟩ := Result.exists_eq_error fun key read => by
      obtain ⟨fitting, same⟩ := exact.decodeKey_eq_ok_iff.mp read
      exact none key fitting same
    exact ⟨cause, by rw [failed]; rfl⟩

theorem uint64_exact : uint64.Exact fun _ => True := ⟨uint64_roundTrips, uint64_canonical⟩

theorem int64_exact : int64.Exact fun _ => True := ⟨int64_roundTrips, int64_canonical⟩

theorem text_exact : text.Exact Text.Sized := ⟨text_roundTrips, text_canonical⟩

end Codec

theorem Value.codec_exact : Value.codec.Exact Value.Sized := ⟨codec_roundTrips, codec_canonical⟩

namespace Key

theorem codec_exact : codec.Exact Sized := ⟨codec_roundTrips, codec_canonical⟩

/-- A byte string is a key exactly if it is written for that key, for the keys of the store and for
numbers, texts and values alone. -/
theorem keys_are_their_bytes :
    Key.codec.KeysExact Key.Sized ∧
    Codec.uint64.KeysExact (fun _ => True) ∧
    Codec.int64.KeysExact (fun _ => True) ∧
    Codec.text.KeysExact Text.Sized ∧
    Value.codec.KeysExact Value.Sized :=
  ⟨codec_exact.keysExact, Codec.uint64_exact.keysExact, Codec.int64_exact.keysExact,
    Codec.text_exact.keysExact, Value.codec_exact.keysExact⟩

end Key

/-- Bytes that begin as a group does are a key of the group or no key at all. -/
theorem KeyGroup.holds_of_decode {group : KeyGroup} {bytes : Bytes} {key : Key}
    (start : group.encode <+: bytes) (read : Key.decode bytes = .ok key) : group.Holds key := by
  obtain ⟨sized, rfl⟩ := Key.codec_exact.decodeKey_eq_ok_iff.mp read
  exact (encode_prefix_iff sized).mp start

end SqlStore
