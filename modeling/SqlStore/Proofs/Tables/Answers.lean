import SqlStore.Proofs.Tables.Representation

/-! # What a database answers

On a database that represents a catalogue every query is answered as the catalogue has it: stored
bytes are read back as the schema or the row they were made of, rows come in the order of their
numbers, and the number of the next row is the number of rows there are.
-/

namespace SqlStore

open Result

namespace Contents

variable {contents : Contents} {name : String} {row : Row}

theorem cell?_eq (known : name ∈ contents.schema.columnNames) (row : Row) :
    contents.cell? name row = row[contents.schema.columnNames.idxOf name]? := by
  rw [cell?]
  generalize contents.schema.columnNames = names at known ⊢
  induction names generalizing row with
  | nil => exact absurd known List.not_mem_nil
  | cons head rest ih =>
    cases row with
    | nil => rfl
    | cons value values =>
      rw [List.zip_cons_cons, List.lookup_cons]
      by_cases same : name = head
      · simp [same]
      · have later := (List.mem_cons.mp known).resolve_left same
        rw [List.idxOf_cons_ne _ (Ne.symm same), List.getElem?_cons_succ, ← ih _ later,
          beq_false_of_ne same]

/-- Named columns are read from a row by position. -/
theorem project_idxOf {names : List String}
    (known : ∀ name ∈ names, name ∈ contents.schema.columnNames)
    (width : row.length = contents.schema.columns.length) :
    Database.project (names.map contents.schema.columnNames.idxOf) row =
      .ok (names.filterMap (contents.cell? · row)) := by
  induction names with
  | nil => rfl
  | cons head rest ih =>
    obtain ⟨here, later⟩ := List.forall_mem_cons.mp known
    have inside : contents.schema.columnNames.idxOf head < row.length := by
      rw [width, ← List.length_map Column.name]
      exact List.idxOf_lt_length_iff.mpr here
    have found := List.getElem?_eq_getElem inside
    rw [Database.project] at ih
    rw [Database.project, List.map_cons, List.mapM_cons, ih later, found, List.filterMap_cons,
      cell?_eq here, found]
    rfl

theorem mapM_project_idxOf {names : List String}
    (known : ∀ name ∈ names, name ∈ contents.schema.columnNames)
    (widths : ∀ row ∈ contents.rows, row.length = contents.schema.columns.length) :
    contents.rows.mapM (Database.project (names.map contents.schema.columnNames.idxOf)) =
      .ok (contents.rows.map fun row => names.filterMap (contents.cell? · row)) := by
  apply mapM_eq_ok_of_map_eq
  rw [List.map_map]
  apply List.map_congr_left
  intro row member
  exact project_idxOf known (widths row member)

end Contents

namespace Database.Represents

variable {database : Database} {catalogue : Catalogue} {name : String} {contents : Contents}

theorem table?_eq (held : database.Represents catalogue) (name : String) :
    database.table? name = .ok ((catalogue.lookup (Text.lowercase name)).map Contents.schema) := by
  rw [table?, held.get?_table]
  cases found : catalogue.lookup (Text.lowercase name) with
  | none => rfl
  | some contents =>
    have sized := (held.wellFormed _ contents found).schemaSized
    simp only [Option.map_some, Codec.decodeStored_encodeStored Table.codec_roundTrips sized]
    rfl

theorem table_eq (held : database.Represents catalogue) (name : String) :
    database.table name =
      match catalogue.lookup (Text.lowercase name) with
      | some contents => .ok contents.schema
      | none => .error (.execution (.unknownTable name)) := by
  rw [table, held.table?_eq]
  cases catalogue.lookup (Text.lowercase name) <;> rfl

theorem rows_eq (held : database.Represents catalogue)
    (found : catalogue.lookup name = some contents) :
    database.rows contents.schema = .ok contents.rows := by
  have formed := held.wellFormed name contents found
  have read : (contents.rowEntries name).map (fun entry => Row.codec.decodeStored entry.value) =
      contents.rows.map .ok := by
    rw [Contents.rowEntries]
    apply List.ext_getElem (by simp)
    intro index bound _
    simp only [List.length_map, List.length_mapIdx] at bound
    simp only [List.getElem_map, List.getElem_mapIdx]
    exact Codec.decodeStored_encodeStored Row.codec_roundTrips
      (formed.rowsSized _ (List.getElem_mem bound))
  rw [rows, formed.lowered, decodeAll, held.remaining_scan_rows found, mapM_eq_ok_of_map_eq read]
  rfl

private theorem ofNat_add_one_eq_zero_iff {n : Nat} (bound : n < 2 ^ 64) :
    UInt64.ofNat n + 1 = 0 ↔ ¬ n + 1 < 2 ^ 64 := by
  rw [← UInt64.toNat_inj, UInt64.toNat_add, UInt64.toNat_ofNat_of_lt' bound]
  change (n + 1) % 2 ^ 64 = 0 ↔ _
  omega

/-- The next row gets the number of rows there are, as long as there is such a number. -/
theorem nextRowId_eq (held : database.Represents catalogue)
    (found : catalogue.lookup name = some contents) :
    database.nextRowId name =
      if contents.rows.length < 2 ^ 64 then .ok (.ofNat contents.rows.length)
      else .error (.storage (.rowIdsExhausted name)) := by
  have formed := held.wellFormed name contents found
  rw [nextRowId, Cursor.nextBack, held.remaining_scan_rows found, Contents.rowEntries,
    List.getLast?_mapIdx]
  cases last : contents.rows.getLast? with
  | none =>
    rw [List.getLast?_eq_none_iff.mp last]
    rfl
  | some row =>
    obtain ⟨before, split⟩ := List.getLast?_eq_some_iff.mp last
    have count : contents.rows.length = before.length + 1 := by rw [split, List.length_append]; rfl
    have bound : before.length < 2 ^ 64 := by
      have := formed.numbered
      omega
    have read : Key.decode (Key.row name (.ofNat before.length)).encode =
        .ok (.row name (.ofNat before.length)) := Key.decode_encode formed.nameSized
    simp only [Option.map_some, count, Nat.add_sub_cancel, Contents.rowEntry, read]
    change (if UInt64.ofNat before.length + 1 = 0 then _ else _) = _
    simp only [ofNat_add_one_eq_zero_iff bound]
    rw [ite_not, UInt64.ofNat_add]
    rfl

theorem select_eq (held : database.Represents catalogue) (name : String) (selection : Selection) :
    database.select name selection =
      match catalogue.lookup (Text.lowercase name) with
      | some contents => (contents.select selection).mapError .execution
      | none => .error (.execution (.unknownTable name)) := by
  have looked := held.table_eq name
  cases found : catalogue.lookup (Text.lowercase name) with
  | none =>
    rw [found] at looked
    cases selection <;> rw [select, looked] <;> rfl
  | some contents =>
    rw [found] at looked
    have stored := held.rows_eq found
    have widths := (held.wellFormed _ contents found).widths
    cases selection with
    | all =>
      rw [select, looked]
      simp only [ok_bind, stored]
      rfl
    | named names =>
      rw [select, looked]
      simp only [ok_bind, Table.resolve, Contents.select, lift_execution, List.contains_eq_mem,
        decide_not]
      cases unknown : names.filter fun name => !decide (name ∈ contents.schema.columnNames) with
      | cons first rest => rfl
      | nil =>
        have known : ∀ name ∈ names, name ∈ contents.schema.columnNames := by
          simpa using List.filter_eq_nil_iff.mp unknown
        have cells := Contents.mapM_project_idxOf known widths
        simp only [mapError_ok, ok_bind, stored, cells]
        rfl

theorem checkNew_eq (held : database.Represents catalogue) (schema : Table) :
    database.checkNew schema =
      if schema.columns = [] then .error (.execution (.noColumns schema.name))
      else if Text.lowercase schema.name ∈ catalogue then
        .error (.execution (.tableExists schema.name))
      else .ok () := by
  rw [checkNew, Table.validate, held.get?_table, Option.isSome_map, lift_execution]
  cases columns : schema.columns with
  | nil => rfl
  | cons first rest =>
    rw [if_neg (List.cons_ne_nil _ _)]
    by_cases taken : Text.lowercase schema.name ∈ catalogue
    · rw [if_pos taken, Finmap.lookup_isSome.mpr taken]
      rfl
    · rw [if_neg taken, Finmap.lookup_eq_none.mpr taken]
      rfl

end Database.Represents

end SqlStore
