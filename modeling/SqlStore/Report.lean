import SqlStore.Session

/-! # Results as text

Rows are set out in columns as wide as their widest cell, with a line of dashes under the names and
the number of rows at the end. Widths count characters. The column names fix how many cells of a row
are shown; a row may have fewer.
-/

namespace SqlStore

namespace Report

/-- A null is shown as nothing. -/
def cell (value : Value) : String := if value.isNull then "" else value.display

/-- Widens columns to hold the cells of a row. Columns beyond its end stay as they are. -/
def widen : List Nat → Row → List Nat
  | width :: widths, value :: row => max width (cell value).length :: widen widths row
  | widths, _ => widths

def widths (listing : Listing) : List Nat :=
  listing.rows.foldl widen (listing.columns.map String.length)

/-- Fills a text with spaces up to a width. -/
def pad (text : String) (width : Nat) : String :=
  text ++ String.ofList (List.replicate (width - text.length) ' ')

/-- Cells side by side. What has no width is left out. -/
def line (widths : List Nat) (cells : List String) : String :=
  String.intercalate " | " (List.zipWith pad cells widths)

def rule (widths : List Nat) : String :=
  String.intercalate "-+-" (widths.map fun width => String.ofList (List.replicate width '-'))

def count (rows : Nat) : String := "(" ++ Text.Decimal.ofNat rows ++ " rows)"

def listing (listing : Listing) : String :=
  if listing.rows.isEmpty then count 0
  else
    let widths := widths listing
    String.intercalate "\n" <|
      line widths listing.columns :: rule widths ::
        listing.rows.map (fun row => line widths (row.map cell)) ++ [count listing.rows.length]

def outcome : Outcome → String
  | .selected rows => listing rows
  | _ => "OK"

/-- The columns of a table and their types in one line. -/
def schema (table : Table) : String :=
  let columns := table.columns.map fun column => column.name ++ " " ++ column.type.label
  table.name ++ " (" ++ String.intercalate ", " columns ++ ")"

/-- What is printed for a statement that was run. -/
def result : Except Error Outcome → String
  | .ok found => outcome found
  | .error failure => "Error: " ++ failure.display

end Report

end SqlStore
