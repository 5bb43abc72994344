import SqlStore.ByteStore
import SqlStore.Codec.Record
import SqlStore.Key
import SqlStore.Statement

/-! # The database

Tables in a byte store: every schema is an entry, and every row is one, under a number that grows
with the rows of its table, so that a scan delivers rows in the order in which they came. Table
names are looked up in small letters and kept as they were given.

A query leaves the database alone and is a function of it. A change is a step that ends with an
answer or an error and with the database after it, so what a failed change leaves behind is open to
question.
-/

namespace SqlStore

/-- Rows under the names of their columns. -/
structure Listing where
  columns : List String
  rows : List Row
deriving DecidableEq, Repr

structure Database where
  store : ByteStore
deriving DecidableEq, Repr

/-- A step that may change the database, whether it succeeds or fails. -/
abbrev DatabaseM := ExceptT Error (StateM Database)

namespace Database

def empty : Database := ⟨.empty⟩

/-- The entries of a group of keys. -/
def scan (database : Database) (group : KeyGroup) : Cursor :=
  database.store.scanBeginning group.encode

/-- The stored values that a cursor has still to deliver. -/
def decodeAll (codec : Codec α) (cursor : Cursor) : Except DecodeError (List α) :=
  cursor.remaining.mapM fun entry => codec.decodeStored entry.value

/-- The schema under a name, in any letter case. -/
def table? (database : Database) (name : String) : Except Error (Option Table) := do
  match database.store.get? (Key.table (Text.lowercase name)).encode with
  | none => return none
  | some bytes => return some (← Table.codec.decodeStored bytes)

def table (database : Database) (name : String) : Except Error Table := do
  match ← database.table? name with
  | some table => return table
  | none => throw (.execution (.unknownTable name))

/-- All schemas, in the order of their names in small letters. -/
def tables (database : Database) : Except Error (List Table) := do
  let tables ← decodeAll Table.codec (database.scan .tables)
  return tables.mergeSort fun a b => Text.lowercase a.name ≤ Text.lowercase b.name

/-- The rows of a table, the oldest first. -/
def rows (database : Database) (table : Table) : Except Error (List Row) := do
  decodeAll Row.codec (database.scan (.rows (Text.lowercase table.name)))

/-- The number for the next row of the table whose name in small letters is given: one more than
that of the last row. -/
def nextRowId (database : Database) (lowered : String) : Except Error UInt64 := do
  match (database.scan (.rows lowered)).nextBack.1 with
  | none => return 0
  | some entry =>
    match ← Key.decode entry.key with
    | .row _ id => if id + 1 = 0 then throw (.storage (.rowIdsExhausted lowered)) else return id + 1
    | .table name => throw (.storage (.tableAmongRows name))

/-- The cells of a row at some positions. -/
def project (positions : List Nat) (row : Row) : Except Error Row :=
  positions.mapM fun position =>
    match row[position]? with
    | some value => .ok value
    | none => .error (.storage (.shortRow position))

/-- Names are resolved before any row is read. -/
def select (database : Database) (name : String) : Selection → Except Error Listing
  | .all => do
    let table ← database.table name
    return ⟨table.columnNames, ← database.rows table⟩
  | .named columns => do
    let table ← database.table name
    let positions ← table.resolve columns
    return ⟨columns, ← (← database.rows table).mapM (project positions)⟩

/-- A table has columns and a name that is free, in any letter case. -/
def checkNew (database : Database) (table : Table) : Except Error Unit := do
  table.validate
  if (database.store.get? (Key.table (Text.lowercase table.name)).encode).isSome then
    throw (.execution (.tableExists table.name))

/-- Asks the database without changing it. -/
def ask (query : Database → Except Error α) : DatabaseM α :=
  ExceptT.mk fun database => (query database, database)

def write (key : Key) (value : Bytes) : DatabaseM Unit :=
  ExceptT.mk fun database => (.ok (), ⟨database.store.set key.encode value⟩)

/-- Adds a table without rows. -/
def createTable (table : Table) : DatabaseM Unit := do
  ask fun database => database.checkNew table
  write (.table (Text.lowercase table.name)) (Table.codec.encodeStored table)

/-- Adds a row at the end of a table, without a look at its width. -/
def appendRow (table : Table) (row : Row) : DatabaseM Unit := do
  let lowered := Text.lowercase table.name
  let id ← ask fun database => database.nextRowId lowered
  write (.row lowered id) (Row.codec.encodeStored row)

/-- Adds a row of one value for each column. -/
def insert (name : String) (values : List Value) : DatabaseM Unit := do
  let table ← ask fun database => database.table name
  let row ← ask fun _ => table.makeRow values
  appendRow table row

end Database

end SqlStore
