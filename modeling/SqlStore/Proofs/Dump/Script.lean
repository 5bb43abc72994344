import SqlStore.Proofs.Grammar.ReadBack
import SqlStore.Report

/-! # A database as a script

A script writes a database down in statements: for each table, in the order of the list of tables,
its creation as the schema is printed, and then an insertion for each of its rows, the oldest first.
Nulls and truth values cannot be written, so a database that has one has no script. What can be read
off a text is written by these statements in one of its spellings.
-/

namespace SqlStore

/-- A value as it stands in a statement. -/
def Value.literal? : Value → Option String
  | integer n => some (Text.Decimal.ofInt n.toInt)
  | text body => some ("'" ++ body ++ "'")
  | null | boolean _ => none

namespace Table

def creation (table : Table) : String := "CREATE TABLE " ++ Report.schema table ++ ";"

def insertion? (table : Table) (row : Row) : Option String := do
  let literals ← row.mapM Value.literal?
  return "INSERT INTO " ++ table.name ++ " VALUES (" ++ String.intercalate ", " literals ++ ");"

end Table

namespace Database

def tableScript? (database : Database) (table : Table) : Option (List String) := do
  let rows ← (database.rows table).toOption
  return table.creation :: (← rows.mapM table.insertion?)

def script? (database : Database) : Option (List String) := do
  let tables ← database.tables.toOption
  return (← tables.mapM database.tableScript?).flatten

end Database

/-- An optional traversal that finds something good for every item. -/
theorem exists_mapM_eq_some {α β : Type} {f : α → Option β} {good : α → β → Prop}
    {items : List α} (each : ∀ item ∈ items, ∃ result, f item = some result ∧ good item result) :
    ∃ results, items.mapM f = some results ∧ List.Forall₂ good items results := by
  induction items with
  | nil => exact ⟨[], rfl, .nil⟩
  | cons item rest ih =>
    obtain ⟨⟨result, found, here⟩, later⟩ := List.forall_mem_cons.mp each
    obtain ⟨results, collected, others⟩ := ih later
    refine ⟨result :: results, ?_, .cons here others⟩
    rw [List.mapM_cons, found, collected]
    rfl

namespace Piece

/-- In front of a mark the text writes the pieces. -/
def Writes (text : List Char) (pieces : List Piece) : Prop :=
  ∀ (character : Char) (after : List Piece) (rest : List Char),
    LaidOut (.mark character :: after) rest →
    LaidOut (pieces ++ .mark character :: after) (text ++ rest)

/-- Items are written with a comma and a blank between each two. -/
theorem writes_listed {items : List (List Piece)} {texts : List (List Char)} (some : items ≠ [])
    (each : List.Forall₂ Writes texts items) :
    Writes (List.intercalate [',', ' '] texts) (listed items) := by
  induction each with
  | nil => exact absurd rfl some
  | @cons text item texts items here later ih =>
    cases later with
    | nil =>
      rw [List.intercalate_singleton, listed, List.intercalate_singleton]
      exact here
    | cons next more =>
      intro character after rest closed
      rw [List.intercalate_cons_cons, listed, List.intercalate_cons_cons, List.append_assoc,
        List.append_assoc, List.append_assoc, List.append_assoc]
      have others := ih (List.cons_ne_nil _ _) character after rest closed
      exact here ',' _ _ (.mark ',' (.blank rfl others))

end Piece

theorem Column.writes (column : Column) :
    Piece.Writes (column.name ++ " " ++ column.type.label).toList column.pieces := by
  intro character after rest later
  have typed : Piece.Spells (.type column.type) column.type.label.toList :=
    .type (by cases column.type <;> rfl)
  rw [String.toList_append, String.toList_append, List.append_assoc, List.append_assoc]
  change Piece.LaidOut _ (column.name.toList ++ ' ' :: (column.type.label.toList ++ rest))
  exact .spaced (.name column.name) rfl (.beforeMark typed later)

theorem Value.Expressible.exists_literal {value : Value} (expressible : value.Expressible) :
    ∃ literal, value.literal? = some literal ∧ Piece.Writes literal.toList [.value value] := by
  cases value with
  | null | boolean _ => exact expressible.elim
  | integer n =>
    have positive : 0 ≤ n.toInt := expressible
    refine ⟨_, rfl, fun character after rest later => .beforeMark ?_ later⟩
    have written : Text.Decimal.ofInt n.toInt = String.ofList (Nat.toDigits 10 n.toInt.toNat) := by
      obtain ⟨m, same⟩ := Int.eq_ofNat_of_zero_le positive
      rw [same]
      rfl
    rw [written, String.toList_ofList]
    exact .integer 0 n
  | text body =>
    refine ⟨_, rfl, fun character after rest later => .beforeMark ?_ later⟩
    rw [String.toList_append, String.toList_append]
    exact .text body

namespace Table

variable {table : Table} {row : Row}

/-- The schema of a table is printed as a statement could declare it. -/
theorem spelledBy_creation (expressible : (Statement.createTable table).Expressible) :
    (Statement.createTable table).SpelledBy table.creation := by
  have columns : Piece.Writes (List.intercalate [',', ' '] (table.columns.map fun column =>
      (column.name ++ " " ++ column.type.label).toList))
      (Piece.listed (table.columns.map Column.pieces)) :=
    Piece.writes_listed (List.map_eq_nil_iff.not.mpr expressible.2.1)
      (List.forall₂_map_right_iff.mpr (List.forall₂_map_left_iff.mpr
        (List.forall₂_same.mpr fun column _ => column.writes)))
  have closed := columns ')' [.mark ';'] [')', ';'] (.mark ')' (.mark ';' (.nil nofun)))
  refine ⟨[.mark ';'], .inr rfl, ?_⟩
  rw [creation, Report.schema]
  simp only [String.toList_append, String.toList_intercalate, List.map_map, List.append_assoc]
  rw [Statement.pieces, List.append_assoc]
  change Piece.LaidOut _ ("CREATE".toList ++ ' ' :: ("TABLE".toList ++ ' ' ::
    (table.name.toList ++ ' ' :: '(' :: (_ ++ [')', ';']))))
  exact .spaced (.keyword rfl) rfl (.spaced (.keyword rfl) rfl
    (.spaced (.name table.name) rfl (.mark '(' closed)))

/-- A row of what texts can say has an insertion. -/
theorem exists_insertion (expressible : (Statement.insert table.name row).Expressible) :
    ∃ text, table.insertion? row = some text ∧
      (Statement.insert table.name row).SpelledBy text := by
  obtain ⟨_, some, values⟩ := expressible
  obtain ⟨literals, found, each⟩ := exists_mapM_eq_some fun value member =>
    (values value member).exists_literal
  have row : Piece.Writes (List.intercalate [',', ' '] (literals.map String.toList))
      (Piece.listed (row.map fun value => [.value value])) :=
    Piece.writes_listed (List.map_eq_nil_iff.not.mpr some)
      (List.forall₂_map_right_iff.mpr (List.forall₂_map_left_iff.mpr each.flip))
  have closed := row ')' [.mark ';'] [')', ';'] (.mark ')' (.mark ';' (.nil nofun)))
  refine ⟨_, by rw [insertion?, found]; rfl, [.mark ';'], .inr rfl, ?_⟩
  simp only [String.toList_append, String.toList_intercalate, List.append_assoc]
  rw [Statement.pieces, List.append_assoc]
  change Piece.LaidOut _ ("INSERT".toList ++ ' ' :: ("INTO".toList ++ ' ' ::
    (table.name.toList ++ ' ' :: ("VALUES".toList ++ ' ' :: '(' :: (_ ++ [')', ';'])))))
  exact .spaced (.keyword rfl) rfl (.spaced (.keyword rfl) rfl
    (.spaced (.name table.name) rfl (.spaced (.keyword rfl) rfl (.mark '(' closed))))

end Table

end SqlStore
