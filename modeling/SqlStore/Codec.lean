import SqlStore.Error

/-! # Values as bytes

A binary format without names or markers: numbers of fixed width, a text as its length and its
bytes, a list as its length and its items, a choice between forms as the position of the form and
its fields. The byte order is open. Keys are written with the most significant byte first and take
up all their bytes; stored values have the least significant byte first and may have bytes behind
them.

Decoding goes from left to right, and the first fault ends it. A length that promises more than
there are bytes is a fault and nothing more: items are read one by one.
-/

namespace SqlStore

/-- Reads a value from the front of the bytes and leaves the others. -/
abbrev Decoder (α : Type) := StateT Bytes (Except DecodeError) α

/-- Reads exactly `count` bytes; `shortage` is the fault if there are fewer. -/
def Decoder.take (count : Nat) (shortage : DecodeError) : Decoder Bytes := fun bytes =>
  if count ≤ bytes.length then .ok (bytes.take count, bytes.drop count) else .error shortage

def Decoder.times (item : Decoder α) : Nat → Decoder (List α)
  | 0 => return []
  | count + 1 => return (← item) :: (← times item count)

/-- How the values of a type are written and read. -/
structure Codec (α : Type) where
  encode : ByteOrder → α → Bytes
  decode : ByteOrder → Decoder α

namespace Codec

/-- Numbers of `width` bytes. -/
def natural (width : Nat) : Codec Nat where
  encode order n := order.arrange (Bytes.ofNat width n)
  decode order := return Bytes.toNat (order.arrange (← Decoder.take width .endOfInput))

def uint64 : Codec UInt64 where
  encode order n := (natural 8).encode order n.toNat
  decode order := return UInt64.ofNat (← (natural 8).decode order)

/-- Two's complement. -/
def int64 : Codec Int64 where
  encode order n := uint64.encode order n.toUInt64
  decode order := return (← uint64.decode order).toInt64

def bool : Codec Bool where
  encode _ b := [if b then 1 else 0]
  decode _ := do
    match ← Decoder.take 1 .endOfInput with
    | [0] => return false
    | [1] => return true
    | bytes => throw (.invalidBool (bytes.headD 0))

def text : Codec String where
  encode order s :=
    let bytes := Text.Utf8.encode s
    (natural 8).encode order bytes.length ++ bytes
  decode order := do
    let length ← (natural 8).decode order
    match Text.Utf8.decode (← Decoder.take length .textOverrun) with
    | .ok s => return s
    | .error fault => throw (.invalidText fault)

def list (item : Codec α) : Codec (List α) where
  encode order items :=
    (natural 8).encode order items.length ++ items.flatMap (item.encode order)
  decode order := do Decoder.times (item.decode order) (← (natural 8).decode order)

/-- The position of one of `count` forms. -/
def variant (count : Nat) : Codec (Fin count) where
  encode order index := (natural 4).encode order index
  decode order := do
    let index ← (natural 4).decode order
    if known : index < count then return ⟨index, known⟩
    else throw (.invalidVariant index count)

def encodeKey (codec : Codec α) (value : α) : Bytes := codec.encode .big value

/-- Refuses bytes behind the key. -/
def decodeKey (codec : Codec α) (bytes : Bytes) : Except DecodeError α := do
  match ← codec.decode .big bytes with
  | (value, []) => return value
  | (_, _ :: _) => throw .leftover

def encodeStored (codec : Codec α) (value : α) : Bytes := codec.encode .little value

/-- Ignores bytes behind the value. -/
def decodeStored (codec : Codec α) (bytes : Bytes) : Except DecodeError α :=
  Prod.fst <$> codec.decode .little bytes

end Codec

end SqlStore
