import SqlStore.Proofs.Tables.Declarations
import SqlStore.Proofs.Tables.Projection

/-! # Every column by its name

The rows of a table are those that were inserted, in their order. A query that names every column
of the table shows them as a query for all columns does, provided that columns of one name hold one
value in each row. Where names do not repeat that is so. Where they do, the values in later columns
of a name can be listed and cannot be asked for.
-/

namespace SqlStore

open Result DatabaseM

/-- Columns of one name hold one value in the row. -/
def Table.Agrees (table : Table) (row : Row) : Prop :=
  ∀ cell ∈ table.columnNames.zip row, ∀ other ∈ table.columnNames.zip row,
    cell.1 = other.1 → cell.2 = other.2

instance (table : Table) (row : Row) : Decidable (table.Agrees row) :=
  inferInstanceAs (Decidable (∀ cell ∈ _, ∀ other ∈ _, _ → _))

/-- The cells of a row with the names above them. -/
private theorem mem_zip_iff {names : List String} {row : Row} {cell : String × Value} :
    cell ∈ names.zip row ↔ ∃ i : Nat, names[i]? = some cell.1 ∧ row[i]? = some cell.2 := by
  rw [List.mem_iff_getElem?]
  exact exists_congr fun i => List.getElem?_zip_eq_some

theorem Table.agrees_of_nodup {table : Table} (distinct : table.columnNames.Nodup) (row : Row) :
    table.Agrees row := by
  intro cell member other memberOther same
  obtain ⟨i, name, value⟩ := mem_zip_iff.mp member
  obtain ⟨j, nameOther, valueOther⟩ := mem_zip_iff.mp memberOther
  have inside := (List.getElem?_eq_some_iff.mp name).1
  rw [same, ← nameOther] at name
  rw [(List.getElem?_inj inside distinct).mp name, valueOther] at value
  exact (Option.some.inj value).symm

namespace Database

variable {database : Database} {table : Table} {name : String} {row : Row} {rows : List Row}

/-- Under the names of all columns a row is shown as it is if its columns agree. -/
theorem project_columnNames_iff (width : row.length = table.columns.length) :
    project (table.columnNames.map table.columnNames.idxOf) row = .ok row ↔ table.Agrees row := by
  rw [← List.length_map Column.name] at width
  change row.length = table.columnNames.length at width
  rw [project_eq_ok_iff, List.forall₂_map_left_iff, List.forall₂_iff_get]
  constructor
  · rintro ⟨-, cells⟩
    -- Every column holds what the first column of its name holds.
    have first {cell : String × Value} (member : cell ∈ table.columnNames.zip row) :
        row[table.columnNames.idxOf cell.1]? = some cell.2 := by
      obtain ⟨i, name, value⟩ := mem_zip_iff.mp member
      obtain ⟨inside, here⟩ := List.getElem?_eq_some_iff.mp name
      obtain ⟨bound, there⟩ := List.getElem?_eq_some_iff.mp value
      rw [← here, ← there]
      exact cells i inside bound
    intro cell member other memberOther same
    have values := first member
    rw [same, first memberOther] at values
    exact (Option.some.inj values).symm
  · intro agrees
    refine ⟨width.symm, fun i inside bound => ?_⟩
    have declared : table.columnNames[i] ∈ table.columnNames := List.getElem_mem inside
    have earlier := width ▸ List.idxOf_lt_length_of_mem declared
    have same := agrees (_, _)
      (mem_zip_iff.mpr ⟨_, List.getElem?_idxOf declared, List.getElem?_eq_getElem earlier⟩) (_, _)
      (mem_zip_iff.mpr ⟨i, List.getElem?_eq_getElem inside, List.getElem?_eq_getElem bound⟩) rfl
    exact (List.getElem?_eq_getElem earlier).trans (congrArg some same)

theorem select_columnNames_iff (found : database.table name = .ok table)
    (read : database.rows table = .ok rows)
    (widths : ∀ row ∈ rows, row.length = table.columns.length) :
    database.select name (.named table.columnNames) = .ok ⟨table.columnNames, rows⟩ ↔
      ∀ row ∈ rows, table.Agrees row := by
  have all : table.undeclared table.columnNames = [] :=
    Table.undeclared_eq_nil_iff.mpr fun _ => Table.declares_iff.mpr
  rw [select_named_eq found, if_pos all, read, ok_bind]
  have whole : rows.mapM (project (table.columnNames.map table.columnNames.idxOf)) = .ok rows ↔
      ∀ row ∈ rows, table.Agrees row := by
    rw [mapM_eq_ok_iff, List.forall₂_same]
    exact forall₂_congr fun row member => project_columnNames_iff (widths row member)
  rw [← whole, bind_eq_ok_iff]
  constructor
  · rintro ⟨shown, projected, same⟩
    cases same
    exact projected
  · intro projected
    exact ⟨rows, projected, rfl⟩

end Database

/-- The row that a statement added under a name in small letters, given what it ended with. -/
def Statement.addedTo? (name : String) : Statement × Except Error Outcome → Option Row
  | (insert table values, .ok _) => if Text.lowercase table = name then some values else none
  | _ => none

namespace Catalogue

/-- A name without a table has no rows. -/
def rows (catalogue : Catalogue) (name : String) : List Row :=
  (catalogue.lookup name).elim [] Contents.rows

variable {catalogue : Catalogue} {name : String} {contents : Contents}

theorem rows_of_lookup (found : catalogue.lookup name = some contents) :
    catalogue.rows name = contents.rows := by
  rw [rows, found]
  rfl

theorem rows_insert (catalogue : Catalogue) (key : String) (contents : Contents) (name : String) :
    rows (catalogue.insert key contents) name =
      if name = key then contents.rows else catalogue.rows name := by
  split_ifs with same
  · rw [same, rows_of_lookup (Finmap.lookup_insert _)]
  · rw [rows, Finmap.lookup_insert_of_ne _ same]
    rfl

/-- An insertion that succeeds adds its row behind the others, and nothing else changes rows. -/
theorem rows_runBounded (catalogue : Catalogue) (statement : Statement) (name : String) :
    (catalogue.runBounded statement).2.rows name = catalogue.rows name ++
      (Statement.addedTo? name (statement, (catalogue.runBounded statement).1)).toList := by
  rw [runBounded]
  split_ifs with room
  · cases statement with
    | createTable schema =>
      rw [run]
      split_ifs with columns taken
      · exact (List.append_nil _).symm
      · exact (List.append_nil _).symm
      · refine Eq.trans ?_ (List.append_nil _).symm
        rw [rows_insert]
        split_ifs with own
        · rw [own, rows, Finmap.lookup_eq_none.mpr taken]
          rfl
        · rfl
    | insert table values =>
      rw [run]
      cases found : catalogue.lookup (Text.lowercase table) with
      | none => exact (List.append_nil _).symm
      | some contents =>
        dsimp only
        split_ifs with width
        · rw [rows_insert, Result.mapError_ok, Statement.addedTo?]
          by_cases own : name = Text.lowercase table
          · rw [if_pos own, if_pos own.symm, own, rows_of_lookup found]
            rfl
          · rw [if_neg own, if_neg (Ne.symm own)]
            exact (List.append_nil _).symm
        · exact (List.append_nil _).symm
    | select table selection =>
      rw [run]
      cases catalogue.lookup (Text.lowercase table) <;> exact (List.append_nil _).symm
  · cases statement <;> exact (List.append_nil _).symm

end Catalogue

namespace Log

/-- The rows that were added under a name in small letters, in the order in which they were. -/
def rowsInto (log : Log) (name : String) : List Row := log.filterMap (Statement.addedTo? name)

/-- A catalogue has the tables that were created and the rows that were inserted. -/
structure Records (log : Log) (catalogue : Catalogue) : Prop where
  declares : log.Declares catalogue
  rows_eq : ∀ name, catalogue.rows name = log.rowsInto name

theorem Records.nil : Records [] ∅ := ⟨.nil, fun _ => rfl⟩

theorem Records.runBounded {log : Log} {catalogue : Catalogue} (records : log.Records catalogue)
    (statement : Statement) :
    Records (log ++ [(statement, (catalogue.runBounded statement).1)])
      (catalogue.runBounded statement).2 where
  declares := records.declares.runBounded statement
  rows_eq name := by
    rw [Catalogue.rows_runBounded, records.rows_eq, rowsInto, rowsInto, List.filterMap_append]
    cases added : Statement.addedTo? name (statement, (catalogue.runBounded statement).1) with
    | none => rw [List.filterMap_cons_none added]; rfl
    | some row => rw [List.filterMap_cons_some added]; rfl

end Log

namespace Session

/-- After any run a table is found under its name, in whatever letters, and its rows are those that
were inserted into it, each as wide as the table. -/
theorem table_holds_inserted_rows {statements : List Statement} {schema : Table} {name : String}
    (sized : ∀ statement ∈ statements, statement.Sized)
    (member : schema ∈ Log.schemas (statements.zip (each run Database.empty statements).1))
    (same : Text.lowercase name = Text.lowercase schema.name) :
    let ended := each run Database.empty statements
    let rows := Log.rowsInto (statements.zip ended.1) (Text.lowercase schema.name)
    ended.2.table name = .ok schema ∧ ended.2.rows schema = .ok rows ∧
      ∀ row ∈ rows, row.length = schema.columns.length := by
  intro ended rows
  obtain ⟨catalogue, records, held⟩ := Database.Represents.holds_each
    (fun _ _ statement records => records.runBounded statement) Log.Records.nil
    Database.Represents.empty sized
  obtain ⟨contents, stored, rfl⟩ := records.declares.exists_contents member
  have filled : contents.rows = rows :=
    (Catalogue.rows_of_lookup stored).symm.trans (records.rows_eq _)
  refine ⟨?_, filled ▸ held.rows_eq stored, filled ▸ (held.wellFormed _ contents stored).widths⟩
  rw [held.table_eq, same, stored]

/-- After any run a table lists the rows that were inserted into it, and to name all its columns is
to list it exactly if in each row columns of one name hold one value. -/
theorem every_column_by_name_iff (statements : List Statement)
    (sized : ∀ statement ∈ statements, statement.Sized) :
    let ended := each run Database.empty statements
    let log : Log := statements.zip ended.1
    ∀ schema ∈ log.schemas, ∀ name, Text.lowercase name = Text.lowercase schema.name →
      let rows := log.rowsInto (Text.lowercase schema.name)
      let all := (run (.select name .all)).run ended.2
      let named := (run (.select name (.named schema.columnNames))).run ended.2
      all = (.ok (.selected ⟨schema.columnNames, rows⟩), ended.2) ∧
      (∃ shown, named = (.ok (.selected ⟨schema.columnNames, shown⟩), ended.2)) ∧
      (named = all ↔ ∀ row ∈ rows, schema.Agrees row) ∧
      (schema.columnNames.Nodup → named = all) := by
  intro ended log schema member name same rows all named
  obtain ⟨found, read, widths⟩ := table_holds_inserted_rows sized member same
  have listed : all = (.ok (.selected ⟨schema.columnNames, rows⟩), ended.2) := by
    change (run _).run ended.2 = _
    rw [run_select, Database.select_all_eq found read]
    rfl
  obtain ⟨shown, selected, -⟩ := Database.exists_select_named found read widths
    fun _ => Table.declares_iff.mpr
  have projected : named = (.ok (.selected ⟨schema.columnNames, shown⟩), ended.2) := by
    change (run _).run ended.2 = _
    rw [run_select, selected]
    rfl
  have agree : named = all ↔ ∀ row ∈ rows, schema.Agrees row := by
    rw [← Database.select_columnNames_iff found read widths, selected, projected, listed]
    constructor
    · rintro ⟨⟩
      rfl
    · rintro ⟨⟩
      rfl
  refine ⟨listed, ⟨shown, projected⟩, agree, fun distinct => ?_⟩
  exact agree.mpr fun row _ => Table.agrees_of_nodup distinct row

/-- Of the two tables with a repeated name only the one whose rows repeat the value is listed by the
names of its columns. -/
theorem every_column_by_name_iff_of_repeated_names :
    let columns : List Column :=
      [⟨"a", .int, true, false⟩, ⟨"b", .text, true, false⟩, ⟨"a", .text, true, false⟩]
    let statements : List Statement := [.createTable ⟨"Same", columns⟩,
      .createTable ⟨"other", columns⟩, .insert "same" [.integer 7, .null, .integer 7],
      .insert "SAME" [], .insert "Other" [.integer 7, .null, .text "7"]]
    let ended := (each run Database.empty statements).2
    (run (.select "sAme" (.named ["a", "b", "a"]))).run ended =
      (run (.select "sAme" .all)).run ended ∧
    (run (.select "other" (.named ["a", "b", "a"]))).run ended ≠
      (run (.select "other" .all)).run ended := by
  intro columns statements ended
  have shown := every_column_by_name_iff statements (by decide +kernel)
  constructor
  · obtain ⟨-, -, same, -⟩ :=
      shown ⟨"Same", columns⟩ (by decide +kernel) "sAme" (by decide +kernel)
    exact same.mpr (by decide +kernel)
  · obtain ⟨-, -, same, -⟩ :=
      shown ⟨"other", columns⟩ (by decide +kernel) "other" (by decide +kernel)
    exact fun equal => absurd (same.mp equal) (by decide +kernel)

/-- The second column cannot be asked for by its name. -/
theorem repeated_name_hides_column :
    (each execute Database.empty ["CREATE TABLE t (a INT, a TEXT)", "INSERT INTO t VALUES (1, 'x')",
      "SELECT a, a FROM t", "SELECT * FROM t"]).1 =
      [.ok (.created "t"), .ok (.inserted 1),
        .ok (.selected ⟨["a", "a"], [[.integer 1, .integer 1]]⟩),
        .ok (.selected ⟨["a", "a"], [[.integer 1, .text "x"]]⟩)] := by
  decide +kernel

end Session

end SqlStore
