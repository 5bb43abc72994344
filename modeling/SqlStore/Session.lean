import SqlStore.Database
import SqlStore.Statement.Parser

/-! # Running statements

A session is a database and the statements that are run on it one after the other. Each ends with an
outcome or an error, and the next finds the database that it left.
-/

namespace SqlStore

inductive Outcome where
  | created (table : String)
  | inserted (rows : Nat)
  | selected (listing : Listing)
deriving DecidableEq, Repr

namespace Outcome

/-- Only a query has rows. -/
def rows? : Outcome → Option (List Row)
  | selected listing => some listing.rows
  | _ => none

/-- The rows with the name of its column beside every value. A row that is longer or shorter than
the list of columns loses what has no partner. -/
def records? : Outcome → Option (List (List (String × Value)))
  | selected listing => some (listing.rows.map listing.columns.zip)
  | _ => none

end Outcome

namespace Session

def run : Statement → DatabaseM Outcome
  | .createTable schema => do
    Database.createTable schema
    return .created schema.name
  | .insert table values => do
    Database.insert table values
    return .inserted 1
  | .select table selection => do
    return .selected (← Database.ask fun database => database.select table selection)

/-- Reads a statement and runs it. -/
def execute (text : String) : DatabaseM Outcome := do
  run (← Database.ask fun _ => Statement.ofText text)

end Session

end SqlStore
