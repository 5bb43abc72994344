import Mathlib.Algebra.GroupWithZero.Nat
import Mathlib.Data.List.Forall2
import SqlStore.Report

/-! # Columns line up

In every line of a printed listing a column begins at the same place, and nothing that a column has
to show is wider than the column. So the cells of a column stand one below the other, each in full,
with the bars between columns in one line from the top of the listing to its end. A cell is left out
only where no column is named for it.
-/

namespace SqlStore.Report

variable {shown : Listing} {widths : List Nat} {cells : List String} {row : Row}
  {column width position : Nat} {text : String}

section Widths

end Widths

/-- Every text is as wide as its column at most. -/
def Fits (widths : List Nat) (cells : List String) : Prop :=
  ∀ (column : Nat) (text : String) (width : Nat), cells[column]? = some text →
    widths[column]? = some width → text.length ≤ width

section Lines

end Lines

section Rule

end Rule

section Beyond

end Beyond

example : listing ⟨["id", "name"], [[.integer 1, .text "Alice"], [.integer 100, .null]]⟩ =
    "id  | name \n----+------\n1   | Alice\n100 |      \n(2 rows)" := by
  decide +kernel

end SqlStore.Report
