import SqlStore.Text.Decimal

/-! # Values

A cell of a table holds nothing, a truth value, a signed word of 64 bits, or a text. The type that a
column declares does not restrict the values in it.
-/

namespace SqlStore

inductive Value where
  | null
  | boolean (value : Bool)
  | integer (value : Int64)
  | text (value : String)
deriving DecidableEq, Repr

/-- One value for each column of a table, in the order of the columns. -/
abbrev Row := List Value

namespace Value

def isNull : Value → Bool
  | null => true
  | _ => false

def display : Value → String
  | null => "NULL"
  | boolean true => "TRUE"
  | boolean false => "FALSE"
  | integer value => Text.Decimal.ofInt value.toInt
  | text value => value

end Value

end SqlStore
