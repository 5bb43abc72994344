import SqlStore.Proofs.Tables.Runs

/-! # Queries for named columns

A name stands for the first column that bears it, letter for letter. All names are looked up before
a row is read, so a query for columns that are not there fails on a table without rows as well, and
it reports every name that it did not find. Otherwise it shows of each row, for one name after the
other, the value in the column that the name stands for.
-/

namespace SqlStore

open Result

namespace Table

/-- Some column bears the name. -/
def Declares (table : Table) (name : String) : Prop :=
  ∃ column ∈ table.columns, column.name = name

instance (table : Table) (name : String) : Decidable (table.Declares name) :=
  inferInstanceAs (Decidable (∃ column ∈ table.columns, column.name = name))

/-- The column at the position bears the name, and none before it does. -/
def FirstNamed (table : Table) (name : String) (position : Nat) : Prop :=
  (∃ column, table.columns[position]? = some column ∧ column.name = name) ∧
    ∀ earlier < position, ∀ column, table.columns[earlier]? = some column → column.name ≠ name

/-- The row has the value in the first column of the name. -/
def Shows (table : Table) (row : Row) (name : String) (value : Value) : Prop :=
  ∃ position, table.FirstNamed name position ∧ row[position]? = some value

/-- The names that no column bears, in the order of the request and each as often as it is there. -/
def undeclared (table : Table) (names : List String) : List String :=
  names.filter fun name => ¬ table.Declares name

variable {table : Table} {name : String} {names : List String}

theorem declares_iff : table.Declares name ↔ name ∈ table.columnNames := List.mem_map.symm

theorem undeclared_eq_nil_iff :
    table.undeclared names = [] ↔ ∀ name ∈ names, table.Declares name := by
  simp [undeclared, List.filter_eq_nil_iff]

theorem firstNamed_idxOf (declared : table.Declares name) :
    table.FirstNamed name (table.columnNames.idxOf name) := by
  constructor
  · have found := List.getElem?_idxOf (declares_iff.mp declared)
    rw [columnNames, List.getElem?_map] at found
    exact Option.map_eq_some_iff.mp found
  · intro earlier before column here same
    have differs := List.not_of_lt_findIdx before
    obtain ⟨bound, rfl⟩ := List.getElem?_eq_some_iff.mp here
    simp [columnNames, same] at differs

/-- Names are resolved if all of them are declared, and otherwise the others are reported. -/
theorem resolve_eq (table : Table) (names : List String) :
    table.resolve names =
      if table.undeclared names = [] then .ok (names.map table.columnNames.idxOf)
      else .error (.unknownColumns (table.undeclared names)) := by
  have same : (names.filter fun name => !table.columnNames.contains name) =
      table.undeclared names := by
    refine List.filter_congr fun name _ => ?_
    rw [List.contains_eq_mem, ← decide_not]
    exact decide_eq_decide.mpr (not_congr declares_iff.symm)
  rw [resolve, same]
  cases table.undeclared names <;> rfl

end Table

namespace Database

variable {database : Database} {table : Table} {name : String} {names : List String}
  {row values : Row} {rows : List Row}

theorem project_eq_ok_iff {positions : List Nat} : project positions row = .ok values ↔
    List.Forall₂ (fun position value => row[position]? = some value) positions values := by
  rw [project, mapM_eq_ok_iff]
  constructor
  · refine List.Forall₂.imp fun position value found => ?_
    cases held : row[position]? with
    | none =>
      rw [held] at found
      cases found
    | some stored =>
      rw [held] at found
      exact congrArg some (Except.ok.inj found)
  · refine List.Forall₂.imp fun position value held => ?_
    rw [held]

/-- A row that is as wide as its table has a value at every position that a name stands for. -/
theorem exists_project (declared : ∀ name ∈ names, table.Declares name)
    (width : row.length = table.columns.length) :
    ∃ values, project (names.map table.columnNames.idxOf) row = .ok values := by
  refine exists_mapM_eq_ok (List.forall_mem_map.mpr fun name asked => ?_)
  have inside : table.columnNames.idxOf name < row.length := by
    rw [width, ← List.length_map Column.name]
    exact List.idxOf_lt_length_iff.mpr (Table.declares_iff.mp (declared name asked))
  exact ⟨_, by rw [List.getElem?_eq_getElem inside]⟩

theorem shows_of_project (declared : ∀ name ∈ names, table.Declares name)
    (projected : project (names.map table.columnNames.idxOf) row = .ok values) :
    List.Forall₂ (table.Shows row) names values := by
  have cells := List.forall₂_map_left_iff.mp (project_eq_ok_iff.mp projected)
  refine ((List.forall₂_and_left _ _).mpr ⟨declared, cells⟩).imp fun name value ⟨known, found⟩ => ?_
  exact ⟨_, Table.firstNamed_idxOf known, found⟩

/-- No row is read where a name is not declared. -/
theorem select_named_eq (found : database.table name = .ok table) (names : List String) :
    database.select name (.named names) =
      if table.undeclared names = [] then do
        let rows ← database.rows table
        return ⟨names, ← rows.mapM (project (names.map table.columnNames.idxOf))⟩
      else .error (.execution (.unknownColumns (table.undeclared names))) := by
  rw [select, found]
  simp only [ok_bind, Table.resolve_eq, lift_execution]
  split_ifs <;> rfl

theorem select_all_eq (found : database.table name = .ok table)
    (read : database.rows table = .ok rows) :
    database.select name .all = .ok ⟨table.columnNames, rows⟩ := by
  rw [select, found, ok_bind, read]
  rfl

/-- On rows as wide as the table a query for declared columns has an answer. -/
theorem exists_select_named (found : database.table name = .ok table)
    (read : database.rows table = .ok rows)
    (widths : ∀ row ∈ rows, row.length = table.columns.length)
    (declared : ∀ name ∈ names, table.Declares name) :
    ∃ shown, database.select name (.named names) = .ok ⟨names, shown⟩ ∧
      List.Forall₂ (fun row values => List.Forall₂ (table.Shows row) names values) rows shown := by
  obtain ⟨shown, projected⟩ := exists_mapM_eq_ok fun row member =>
    exists_project declared (widths row member)
  refine ⟨shown, ?_, ?_⟩
  · rw [select_named_eq found, if_pos (Table.undeclared_eq_nil_iff.mpr declared), read, ok_bind,
      projected]
    rfl
  · exact (mapM_eq_ok_iff.mp projected).imp fun row values => shows_of_project declared

/-- A query for named columns fails if a name is not declared, and it reports all such names, on any
rows. On rows as wide as the table it succeeds otherwise, under the names as they were asked for,
and shows of every row what the first columns of these names have in it. -/
theorem names_stand_for_first_columns (found : database.table name = .ok table)
    (names : List String) :
    ((∃ asked ∈ names, ¬ table.Declares asked) →
      database.select name (.named names) =
        .error (.execution (.unknownColumns (table.undeclared names))) ∧
      (ExecutionError.unknownColumns (table.undeclared names)).message =
        "Unknown columns in SELECT: " ++ String.intercalate ", " (table.undeclared names)) ∧
    ∀ rows, database.rows table = .ok rows →
      (∀ row ∈ rows, row.length = table.columns.length) →
      database.select name .all = .ok ⟨table.columnNames, rows⟩ ∧
      ((∃ listing, database.select name (.named names) = .ok listing) ↔
        ∀ asked ∈ names, table.Declares asked) ∧
      ∀ listing, database.select name (.named names) = .ok listing →
        listing.columns = names ∧
        List.Forall₂ (fun row values => List.Forall₂ (table.Shows row) names values)
          rows listing.rows := by
  have refused (absent : ¬ ∀ asked ∈ names, table.Declares asked) :
      database.select name (.named names) =
        .error (.execution (.unknownColumns (table.undeclared names))) := by
    rw [select_named_eq found, if_neg (absent ∘ Table.undeclared_eq_nil_iff.mp)]
  refine ⟨fun ⟨asked, member, absent⟩ => ⟨refused fun all => absent (all asked member), rfl⟩, ?_⟩
  intro rows read widths
  have declared_of_eq {listing : Listing}
      (selected : database.select name (.named names) = .ok listing) :
      ∀ asked ∈ names, table.Declares asked := by
    by_contra absent
    rw [refused absent] at selected
    cases selected
  refine ⟨select_all_eq found read, ⟨fun ⟨listing, selected⟩ => declared_of_eq selected, ?_⟩, ?_⟩
  · intro declared
    obtain ⟨shown, selected, -⟩ := exists_select_named found read widths declared
    exact ⟨_, selected⟩
  · intro listing selected
    obtain ⟨shown, same, values⟩ := exists_select_named found read widths (declared_of_eq selected)
    rw [selected] at same
    obtain rfl := Except.ok.inj same
    exact ⟨rfl, values⟩

/-- Of two columns with one name only the first is found, and a name in other letters is none. -/
theorem names_stand_for_first_columns_of_repeated_name :
    let table : Table :=
      ⟨"t", [⟨"a", .int, true, false⟩, ⟨"b", .text, true, false⟩, ⟨"a", .bool, true, false⟩]⟩
    let row : Row := [.integer 1, .text "x", .null]
    let held := (DatabaseM.each Session.run empty [.createTable table, .insert "T" row]).2
    held.select "T" (.named ["A", "a", "c", "A"]) =
      .error (.execution (.unknownColumns ["A", "c", "A"])) ∧
    ∃ listing, held.select "T" (.named ["b", "a", "b"]) = .ok listing ∧
      listing.columns = ["b", "a", "b"] ∧
      List.Forall₂ (fun row values => List.Forall₂ (table.Shows row) ["b", "a", "b"] values)
        [row] listing.rows := by
  intro table row held
  have found : held.table "T" = .ok table := by decide +kernel
  have read : held.rows table = .ok [row] := by decide +kernel
  have widths : ∀ stored ∈ [row], stored.length = table.columns.length := by decide
  constructor
  · exact ((names_stand_for_first_columns found ["A", "a", "c", "A"]).1
      ⟨"A", by decide, by decide⟩).1
  · obtain ⟨-, answered, shown⟩ :=
      (names_stand_for_first_columns found ["b", "a", "b"]).2 [row] read widths
    obtain ⟨listing, selected⟩ := answered.mpr (by decide)
    exact ⟨listing, selected, shown listing selected⟩

end Database

end SqlStore
