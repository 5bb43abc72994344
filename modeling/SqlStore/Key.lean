import SqlStore.Codec

/-! # Keys of the store

The schema of a table is stored under the name of the table in small letters, a row under that name
and a number that counts the rows. Since the length of a name comes before its letters, the keys of
one table's rows have a beginning that no other key has, and within it the order of the bytes is the
order of the numbers.
-/

namespace SqlStore

inductive Key where
  | table (name : String)
  | row (table : String) (id : UInt64)
deriving DecidableEq, Repr

namespace Key

def codec : Codec Key where
  encode order
    | .table name => (Codec.variant 2).encode order 0 ++ Codec.text.encode order name
    | .row name id =>
      (Codec.variant 2).encode order 1 ++ Codec.text.encode order name ++
        Codec.uint64.encode order id
  decode order := do
    match ← (Codec.variant 2).decode order with
    | 0 => return .table (← Codec.text.decode order)
    | 1 => return .row (← Codec.text.decode order) (← Codec.uint64.decode order)

def encode (key : Key) : Bytes := codec.encodeKey key

def decode (bytes : Bytes) : Except DecodeError Key := codec.decodeKey bytes

end Key

/-- The keys that share a beginning: those of all schemas, or those of one table's rows. -/
inductive KeyGroup where
  | tables
  | rows (table : String)
deriving DecidableEq, Repr

/-- The beginning that the keys of the group share. -/
def KeyGroup.encode : KeyGroup → Bytes
  | tables => (Codec.variant 2).encodeKey 0
  | rows table => (Codec.variant 2).encodeKey 1 ++ Codec.text.encodeKey table

end SqlStore
