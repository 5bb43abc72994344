import SqlStore.Proofs.Tables.Refinement

/-! # Tables that fill up

A table takes rows as long as words of 64 bits number them, and the statement that would add one more
fails. With this rule the tables describe every step of every run, however long it is. What a
statement does depends on its own table, and no other is touched.
-/

namespace SqlStore

namespace Catalogue

variable {catalogue other : Catalogue} {statement : Statement} {name : String}

/-- A statement on tables of at most 2 ^ 64 rows. -/
def runBounded (catalogue : Catalogue) (statement : Statement) :
    Except Error Outcome × Catalogue :=
  if (catalogue.run statement).2.rowCount statement.target ≤ 2 ^ 64 then
    ((catalogue.run statement).1.mapError .execution, (catalogue.run statement).2)
  else (.error (.storage (.rowIdsExhausted statement.target)), catalogue)

/-- Only the table that a statement is about can change. -/
theorem lookup_run_of_ne (different : name ≠ statement.target) :
    (catalogue.run statement).2.lookup name = catalogue.lookup name := by
  cases statement with
  | createTable schema =>
    rw [run]
    split_ifs with columns taken
    · rfl
    · rfl
    · exact Finmap.lookup_insert_of_ne catalogue different
  | insert table values =>
    rw [run]
    cases catalogue.lookup (Text.lowercase table) with
    | none => rfl
    | some contents =>
      dsimp only
      split_ifs with width
      · exact Finmap.lookup_insert_of_ne catalogue different
      · rfl
  | select table selection =>
    rw [run]
    cases catalogue.lookup (Text.lowercase table) <;> rfl

/-- Nothing but its own table decides what a statement does. -/
theorem run_congr (same : catalogue.lookup statement.target = other.lookup statement.target) :
    (catalogue.run statement).1 = (other.run statement).1 ∧
      (catalogue.run statement).2.lookup statement.target =
        (other.run statement).2.lookup statement.target := by
  cases statement with
  | createTable schema =>
    rw [Statement.target] at same
    have taken : Text.lowercase schema.name ∈ catalogue ↔ Text.lowercase schema.name ∈ other := by
      rw [← Finmap.lookup_isSome, same, Finmap.lookup_isSome]
    rw [run, run, Statement.target]
    simp only [taken]
    split_ifs with columns present
    · exact ⟨rfl, same⟩
    · exact ⟨rfl, same⟩
    · dsimp only
      rw [Finmap.lookup_insert, Finmap.lookup_insert]
      exact ⟨rfl, rfl⟩
  | insert table values =>
    rw [Statement.target] at same
    rw [run, run, Statement.target, same]
    cases other.lookup (Text.lowercase table) with
    | none => exact ⟨rfl, same⟩
    | some contents =>
      dsimp only
      split_ifs with width
      · dsimp only
        rw [Finmap.lookup_insert, Finmap.lookup_insert]
        exact ⟨rfl, rfl⟩
      · exact ⟨rfl, same⟩
  | select table selection =>
    rw [Statement.target] at same
    rw [run, run, Statement.target, same]
    cases other.lookup (Text.lowercase table) <;> exact ⟨rfl, same⟩

theorem lookup_runBounded_of_ne (different : name ≠ statement.target) :
    (catalogue.runBounded statement).2.lookup name = catalogue.lookup name := by
  rw [runBounded]
  split_ifs with room
  · exact lookup_run_of_ne different
  · rfl

theorem runBounded_congr (same : catalogue.lookup statement.target = other.lookup statement.target) :
    (catalogue.runBounded statement).1 = (other.runBounded statement).1 ∧
      (catalogue.runBounded statement).2.lookup statement.target =
        (other.runBounded statement).2.lookup statement.target := by
  obtain ⟨results, tables⟩ := run_congr same
  have counts : (catalogue.run statement).2.rowCount statement.target =
      (other.run statement).2.rowCount statement.target := by
    rw [rowCount, rowCount, tables]
  rw [runBounded, runBounded, counts, results]
  split_ifs with room
  · exact ⟨rfl, tables⟩
  · exact ⟨rfl, same⟩

end Catalogue

namespace Database.Represents

variable {database : Database} {catalogue : Catalogue} {statement : Statement}

/-- The rows of the other tables have numbers already. -/
private theorem numbered_run_iff (held : database.Represents catalogue) (statement : Statement) :
    (catalogue.run statement).2.Numbered ↔
      (catalogue.run statement).2.rowCount statement.target ≤ 2 ^ 64 := by
  constructor
  · intro numbered
    exact numbered statement.target
  · intro room name
    by_cases own : name = statement.target
    · rw [own]
      exact room
    · rw [Catalogue.rowCount, Catalogue.lookup_run_of_ne own]
      exact held.numbered name

/-- A statement does to any database what it does to its tables, full ones included. -/
theorem runBounded (held : database.Represents catalogue) (sized : statement.Sized) :
    ((Session.run statement).run database).1 = (catalogue.runBounded statement).1 ∧
      ((Session.run statement).run database).2.Represents (catalogue.runBounded statement).2 := by
  rw [Catalogue.runBounded]
  split_ifs with room
  · exact held.run sized ((held.numbered_run_iff statement).mpr room)
  · rw [held.run_of_full fun numbered => room (numbered statement.target)]
    exact ⟨rfl, held⟩

end Database.Represents

end SqlStore
