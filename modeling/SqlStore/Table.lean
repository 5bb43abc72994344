import SqlStore.Error
import SqlStore.Value

/-! # Table schemas

The columns of a table have an order, and values are bound to them by position. Column names are
compared as they are written and may repeat; the first column of a name is the one that it finds.
-/

namespace SqlStore

inductive ColumnType where
  | int
  | text
  | bool
deriving DecidableEq, Repr

namespace ColumnType

def all : List ColumnType := [int, text, bool]

def label : ColumnType → String
  | int => "INT"
  | text => "TEXT"
  | bool => "BOOL"

/-- Any mix of letter case is accepted. -/
def ofText (name : String) : Except SyntaxError ColumnType :=
  match all.find? fun type => type.label == Text.uppercase name with
  | some type => .ok type
  | none => .error (.unsupportedType name)

end ColumnType

/-- Whether a column may hold nulls and whether it is a key is recorded, not enforced. -/
structure Column where
  name : String
  type : ColumnType
  nullable : Bool := true
  primaryKey : Bool := false
deriving DecidableEq, Repr

structure Table where
  name : String
  columns : List Column
deriving DecidableEq, Repr

namespace Table

def columnNames (table : Table) : List String := table.columns.map Column.name

def validate (table : Table) : Except ExecutionError Unit :=
  if table.columns.isEmpty then .error (.noColumns table.name) else .ok ()

def makeRow (table : Table) (values : List Value) : Except ExecutionError Row :=
  if values.length = table.columns.length then .ok values
  else .error (.valueCount table.columns.length values.length)

/-- The position of each named column. All unknown names are reported together. -/
def resolve (table : Table) (names : List String) : Except ExecutionError (List Nat) :=
  match names.filter fun name => !table.columnNames.contains name with
  | [] => .ok (names.map table.columnNames.idxOf)
  | missing => .error (.unknownColumns missing)

end Table

end SqlStore
