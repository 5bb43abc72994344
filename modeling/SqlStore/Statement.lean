import SqlStore.Table

/-! # Statements

A statement as it is read, before any table is looked up. Names keep the spelling of the text.
-/

namespace SqlStore

/-- The columns that a query asks for: every column of the table, or those named, in the order of
the names and once for each time they are named. -/
inductive Selection where
  | all
  | named (columns : List String)
deriving DecidableEq, Repr

inductive Statement where
  | createTable (schema : Table)
  | insert (table : String) (values : List Value)
  | select (table : String) (selection : Selection)
deriving DecidableEq, Repr

end SqlStore
