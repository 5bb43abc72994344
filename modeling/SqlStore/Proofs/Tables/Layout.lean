import SqlStore.Proofs.Tables.Capacity

/-! # What lies in a store after a run

The statements of a run and what they ended with determine which keys its store has: one for each
table that was created, and for each of its rows a number, counted up from zero. The number of the
next row is recomputed from the last key every time, and it is always the number of rows.
-/

namespace SqlStore

/-- Statements in the order in which they ran, each with what it ended with. -/
abbrev Log := List (Statement × Except Error Outcome)

/-- What every statement keeps true of the log and the tables is true of them after a run. -/
theorem Database.Represents.holds_each {holds : Log → Catalogue → Prop}
    (step : ∀ log catalogue statement, holds log catalogue →
      holds (log ++ [(statement, (catalogue.runBounded statement).1)])
        (catalogue.runBounded statement).2)
    {database : Database} {log : Log} {catalogue : Catalogue} (before : holds log catalogue)
    (held : database.Represents catalogue) {statements : List Statement}
    (sized : ∀ statement ∈ statements, statement.Sized) :
    ∃ after : Catalogue,
      holds (log ++ statements.zip (DatabaseM.each Session.run database statements).1) after ∧
        (DatabaseM.each Session.run database statements).2.Represents after := by
  induction statements generalizing database catalogue log with
  | nil =>
    refine ⟨catalogue, ?_, held⟩
    rw [List.zip_nil_left, List.append_nil]
    exact before
  | cons statement rest ih =>
    obtain ⟨here, later⟩ := List.forall_mem_cons.mp sized
    obtain ⟨result, after⟩ := held.runBounded here
    rw [DatabaseM.each_cons, List.zip_cons_cons, List.append_cons, result]
    exact ih (step log catalogue statement before) after later

namespace Log

def created (log : Log) (name : String) : Bool :=
  log.any fun (statement, result) => statement.creates name && result.isOk

def inserted (log : Log) (name : String) : Nat :=
  log.countP fun (statement, result) => statement.insertsInto name && result.isOk

/-- The entries of a database are the schemas of the tables that were created and their rows. -/
structure Describes (log : Log) (database : Database) : Prop where
  keys : ∀ entry ∈ database.store.entries, ∃ key : Key, entry.key = key.encode
  distinct : (database.store.entries.map Entry.key).Nodup
  table_iff : ∀ name,
    (database.store.get? (Key.table name).encode).isSome ↔ log.created name = true
  row_iff : ∀ name id, (database.store.get? (Key.row name id).encode).isSome ↔
    log.created name = true ∧ id.toNat < log.inserted name
  decoded : ∀ name bytes, database.store.get? (Key.table name).encode = some bytes →
    ∃ schema, Table.codec.decodeStored bytes = .ok schema ∧ Text.lowercase schema.name = name ∧
      schema.columns ≠ [] ∧
      ∀ id bytes, database.store.get? (Key.row name id).encode = some bytes →
        ∃ row, Row.codec.decodeStored bytes = .ok row ∧ row.length = schema.columns.length
  bounded : ∀ name, log.inserted name ≤ 2 ^ 64
  next : ∀ name, log.created name = true → log.inserted name < 2 ^ 64 →
    database.nextRowId name = .ok (.ofNat (log.inserted name))

/-- A catalogue has the tables that were created and as many rows as were inserted. -/
structure Tracks (log : Log) (catalogue : Catalogue) : Prop where
  created_iff : ∀ name, log.created name = true ↔ name ∈ catalogue
  inserted_eq : ∀ name, log.inserted name = catalogue.rowCount name

variable {log : Log} {catalogue : Catalogue} {database : Database}

theorem created_concat (log : Log) (statement : Statement) (result : Except Error Outcome)
    (name : String) :
    created (log ++ [(statement, result)]) name =
      (log.created name || statement.creates name && result.isOk) := by
  simp [created]

theorem inserted_concat (log : Log) (statement : Statement) (result : Except Error Outcome)
    (name : String) :
    inserted (log ++ [(statement, result)]) name =
      log.inserted name + (statement.insertsInto name && result.isOk).toNat := by
  rw [inserted, List.countP_append, ← inserted, List.countP_singleton]
  change _ + (if (statement.insertsInto name && result.isOk) = true then 1 else 0) = _
  cases statement.insertsInto name && result.isOk <;> rfl

theorem Tracks.nil : Tracks [] ∅ where
  created_iff _ := iff_of_false Bool.false_ne_true Finmap.notMem_empty
  inserted_eq _ := rfl

theorem Tracks.run (tracks : log.Tracks catalogue) (statement : Statement) :
    Tracks (log ++ [(statement, (catalogue.run statement).1.mapError .execution)])
      (catalogue.run statement).2 where
  created_iff name := by
    rw [created_concat, Result.isOk_mapError, Bool.or_eq_true, tracks.created_iff,
      Catalogue.mem_run_iff]
  inserted_eq name := by
    rw [inserted_concat, Result.isOk_mapError, tracks.inserted_eq, Catalogue.rowCount_run]

theorem Tracks.failed (tracks : log.Tracks catalogue) (statement : Statement) (cause : Error) :
    Tracks (log ++ [(statement, .error cause)]) catalogue where
  created_iff name := by
    rw [created_concat, ← tracks.created_iff, Except.isOk, Except.toBool, Bool.and_false,
      Bool.or_false]
  inserted_eq name := by
    rw [inserted_concat, tracks.inserted_eq, Except.isOk, Except.toBool, Bool.and_false]
    rfl

theorem Tracks.runBounded (tracks : log.Tracks catalogue) (statement : Statement) :
    Tracks (log ++ [(statement, (catalogue.runBounded statement).1)])
      (catalogue.runBounded statement).2 := by
  rw [Catalogue.runBounded]
  split_ifs with room
  · exact tracks.run statement
  · exact tracks.failed statement _

/-- A run keeps the store, the tables and the log in step. -/
theorem Tracks.each (tracks : log.Tracks catalogue) (held : database.Represents catalogue)
    {statements : List Statement} (sized : ∀ statement ∈ statements, statement.Sized) :
    ∃ after : Catalogue,
      Tracks (log ++ statements.zip (DatabaseM.each Session.run database statements).1) after ∧
        (DatabaseM.each Session.run database statements).2.Represents after :=
  Database.Represents.holds_each (fun _ _ statement tracks => tracks.runBounded statement)
    tracks held sized

theorem Tracks.describes (tracks : log.Tracks catalogue) (held : database.Represents catalogue) :
    log.Describes database where
  keys entry stored := by
    obtain ⟨name, contents, _, member⟩ := (held.mem_entries_iff entry).mp stored
    rcases List.mem_cons.mp member with rfl | member
    · exact ⟨.table name, rfl⟩
    · obtain ⟨index, row, _, rfl⟩ := Contents.mem_rowEntries_iff.mp member
      exact ⟨.row name (.ofNat index), rfl⟩
  distinct := by
    refine List.pairwise_map.mpr (database.store.ascending.imp fun less same => ?_)
    rw [same] at less
    exact List.lt_irrefl _ less
  table_iff name := by
    rw [held.get?_table, Option.isSome_map, Finmap.lookup_isSome, tracks.created_iff]
  row_iff name id := by
    rw [tracks.created_iff, tracks.inserted_eq, Option.isSome_iff_exists, Finmap.mem_iff]
    constructor
    · rintro ⟨bytes, stored⟩
      obtain ⟨contents, row, found, inside, _⟩ := held.get?_row_eq_some_iff.mp stored
      refine ⟨⟨contents, found⟩, ?_⟩
      rw [Catalogue.rowCount_of_lookup found]
      exact (List.getElem?_eq_some_iff.mp inside).1
    · rintro ⟨⟨contents, found⟩, below⟩
      rw [Catalogue.rowCount_of_lookup found] at below
      exact ⟨_, held.get?_row_eq_some_iff.mpr
        ⟨contents, _, found, List.getElem?_eq_getElem below, rfl⟩⟩
  decoded name bytes stored := by
    rw [held.get?_table, Option.map_eq_some_iff] at stored
    obtain ⟨contents, found, rfl⟩ := stored
    have formed := held.wellFormed name contents found
    refine ⟨contents.schema, Codec.decodeStored_encodeStored Table.codec_roundTrips
      formed.schemaSized, formed.lowered, formed.columns, fun id bytes stored => ?_⟩
    obtain ⟨others, row, present, inside, rfl⟩ := held.get?_row_eq_some_iff.mp stored
    obtain rfl := Option.some.inj (found.symm.trans present)
    have member := List.mem_of_getElem? inside
    exact ⟨row, Codec.decodeStored_encodeStored Row.codec_roundTrips (formed.rowsSized row member),
      formed.widths row member⟩
  bounded name := by
    rw [tracks.inserted_eq]
    exact held.numbered name
  next name known room := by
    obtain ⟨contents, found⟩ := Finmap.mem_iff.mp ((tracks.created_iff name).mp known)
    rw [tracks.inserted_eq, Catalogue.rowCount_of_lookup found] at room ⊢
    rw [held.nextRowId_eq found, if_pos room]

end Log

namespace Session

/-- The entries after a run follow from what its statements ended with. -/
theorem log_describes (statements : List Statement)
    (sized : ∀ statement ∈ statements, statement.Sized) :
    Log.Describes (statements.zip (DatabaseM.each Session.run Database.empty statements).1)
      (DatabaseM.each Session.run Database.empty statements).2 := by
  obtain ⟨_, tracks, held⟩ := Log.Tracks.nil.each Database.Represents.empty sized
  exact tracks.describes held

/-- The rows of a table whose name continues another are no rows of the other. -/
theorem log_describes_continued_name :
    let statements : List Statement := [.createTable ⟨"Ab", [⟨"x", .int, true, false⟩]⟩,
      .createTable ⟨"a", [⟨"x", .int, true, false⟩]⟩, .insert "AB" [.integer 1],
      .insert "ab" [.null], .insert "a" []]
    let ended := DatabaseM.each Session.run Database.empty statements
    (∀ id, (ended.2.store.get? (Key.row "ab" id).encode).isSome ↔ id.toNat < 2) ∧
      (∀ id, ended.2.store.get? (Key.row "a" id).encode = none) ∧
      ended.2.nextRowId "ab" = .ok 2 ∧ ended.2.nextRowId "a" = .ok 0 := by
  intro statements ended
  have described := log_describes statements (by decide +kernel)
  have known : Log.created (statements.zip ended.1) "ab" = true ∧
      Log.created (statements.zip ended.1) "a" = true := by decide +kernel
  have counts : Log.inserted (statements.zip ended.1) "ab" = 2 ∧
      Log.inserted (statements.zip ended.1) "a" = 0 := by decide +kernel
  refine ⟨fun id => ?_, fun id => ?_, ?_, ?_⟩
  · rw [described.row_iff, counts.1, known.1, eq_self, true_and]
  · have absent := described.row_iff "a" id
    rw [counts.2] at absent
    simpa using absent
  · rw [described.next "ab" known.1 (by rw [counts.1]; decide), counts.1]
    rfl
  · rw [described.next "a" known.2 (by rw [counts.2]; decide), counts.2]
    rfl

end Session

end SqlStore
