import SqlStore.Codec
import SqlStore.Table

/-! # Stored schemas and rows

The fields of a schema in the order of its declaration, and the cells of a row in the order of the
columns.
-/

namespace SqlStore

def Value.codec : Codec Value where
  encode order
    | .null => (Codec.variant 4).encode order 0
    | .boolean b => (Codec.variant 4).encode order 1 ++ Codec.bool.encode order b
    | .integer n => (Codec.variant 4).encode order 2 ++ Codec.int64.encode order n
    | .text s => (Codec.variant 4).encode order 3 ++ Codec.text.encode order s
  decode order := do
    match ← (Codec.variant 4).decode order with
    | 0 => return .null
    | 1 => return .boolean (← Codec.bool.decode order)
    | 2 => return .integer (← Codec.int64.decode order)
    | 3 => return .text (← Codec.text.decode order)

def Row.codec : Codec Row := Codec.list Value.codec

def ColumnType.codec : Codec ColumnType where
  encode order
    | .int => (Codec.variant 3).encode order 0
    | .text => (Codec.variant 3).encode order 1
    | .bool => (Codec.variant 3).encode order 2
  decode order := do
    match ← (Codec.variant 3).decode order with
    | 0 => return .int
    | 1 => return .text
    | 2 => return .bool

def Column.codec : Codec Column where
  encode order column :=
    Codec.text.encode order column.name ++ ColumnType.codec.encode order column.type ++
      Codec.bool.encode order column.nullable ++ Codec.bool.encode order column.primaryKey
  decode order := return {
    name := ← Codec.text.decode order
    type := ← ColumnType.codec.decode order
    nullable := ← Codec.bool.decode order
    primaryKey := ← Codec.bool.decode order }

def Table.codec : Codec Table where
  encode order table :=
    Codec.text.encode order table.name ++ (Codec.list Column.codec).encode order table.columns
  decode order := return {
    name := ← Codec.text.decode order
    columns := ← (Codec.list Column.codec).decode order }

end SqlStore
