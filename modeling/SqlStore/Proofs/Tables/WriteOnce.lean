import SqlStore.Proofs.Tables.Failure
import SqlStore.Proofs.Tables.Safety
import SqlStore.Proofs.Tables.Survival

/-! # Entries are written once

A change adds one entry under a key that was free, and nothing is ever written over or taken away.
The keys of the new entry tell who can see it: a row is seen by the scan of its own table and comes
last there, a schema by its name. Whatever else is asked is answered as before, also where the store
holds keys and values that the database would not have written.
-/

namespace SqlStore

namespace ByteStore

variable {before after : ByteStore} {entry : Entry} {key value : Bytes}

/-- There is one entry more, and its key was free. -/
structure Adds (before after : ByteStore) (entry : Entry) : Prop where
  free : ∀ other ∈ before.entries, other.key ≠ entry.key
  entries : ∀ other, other ∈ after.entries ↔ other = entry ∨ other ∈ before.entries

theorem adds_set (free : ∀ other ∈ before.entries, other.key ≠ key) (value : Bytes) :
    before.Adds (before.set key value) ⟨key, value⟩ where
  free := free
  entries other := by
    rw [mem_set_iff]
    exact or_congr_right (and_iff_left_of_imp (free other))

theorem Adds.mem_of_mem (adds : before.Adds after entry) {other : Entry}
    (member : other ∈ before.entries) : other ∈ after.entries :=
  (adds.entries other).mpr (.inr member)

/-- Other keys lead where they led. -/
theorem Adds.get?_eq (adds : before.Adds after entry) (other : key ≠ entry.key) :
    after.get? key = before.get? key := by
  apply Option.ext
  intro value
  rw [get?_eq_some_iff, get?_eq_some_iff, adds.entries]
  refine or_iff_right fun same => other ?_
  rw [← same]

/-- Only scans that the new key belongs to see the new entry. -/
theorem Adds.scanBeginning_eq (adds : before.Adds after entry) {start : Bytes}
    (outside : ¬ start <+: entry.key) : after.scanBeginning start = before.scanBeginning start := by
  apply congrArg Cursor.mk
  change (after.scanBeginning start).remaining = (before.scanBeginning start).remaining
  apply Ascending.eq_of_mem_iff (ascending_scanBeginning _ _) (ascending_scanBeginning _ _)
  intro other
  rw [mem_scanBeginning_iff, mem_scanBeginning_iff, adds.entries]
  constructor
  · rintro ⟨rfl | stored, inside⟩
    · exact absurd inside outside
    · exact ⟨stored, inside⟩
  · rintro ⟨stored, inside⟩
    exact ⟨.inr stored, inside⟩

end ByteStore

namespace Database

open DatabaseM

variable {database after : Database} {schema : Table} {row : Row}

theorem adds_of_createTable (done : (createTable schema).run database = (.ok (), after)) :
    database.store.Adds after.store
      ⟨(Key.table (Text.lowercase schema.name)).encode, Table.codec.encodeStored schema⟩ := by
  obtain ⟨checked, rfl⟩ := eq_set_of_createTable done
  apply ByteStore.adds_set
  apply ByteStore.get?_eq_none_iff.mp
  obtain ⟨_, _, free⟩ := Result.bind_eq_ok_iff.mp checked
  split at free
  · cases free
  · next none => simpa using none

/-- A row takes the next number. -/
theorem exists_adds_of_appendRow (done : (appendRow schema row).run database = (.ok (), after)) :
    ∃ id, database.nextRowId (Text.lowercase schema.name) = .ok id ∧
      database.store.Adds after.store
        ⟨(Key.row (Text.lowercase schema.name) id).encode, Row.codec.encodeStored row⟩ := by
  obtain ⟨id, next, rfl⟩ := exists_eq_set_of_appendRow done
  refine ⟨id, next, ByteStore.adds_set (fun other stored same => ?_) _⟩
  -- An entry with this key would be in the range of the table, and the key is above all of those.
  have start : (KeyGroup.rows (Text.lowercase schema.name)).encode <+: other.key :=
    same ▸ List.prefix_append _ _
  have less := key_lt_of_nextRowId next (mem_scan_iff.mpr ⟨stored, start⟩)
  exact List.lt_irrefl _ (same ▸ less)

theorem rows_eq_of_adds {entry : Entry} (adds : database.store.Adds after.store entry)
    {other : Table} (outside : ¬ (KeyGroup.rows (Text.lowercase other.name)).encode <+: entry.key) :
    after.rows other = database.rows other := by
  rw [rows, rows, decodeAll, decodeAll, scan, scan, adds.scanBeginning_eq outside]

/-- What a new row does to the database: it comes last among the rows of its table, and is seen
nowhere else. -/
structure RowAdded (database after : Database) (schema : Table) (row : Row) : Prop where
  entry : ∃ id, database.store.Adds after.store
      ⟨(Key.row (Text.lowercase schema.name) id).encode, Row.codec.encodeStored row⟩ ∧
    ∀ other ∈ database.store.entries,
      (KeyGroup.rows (Text.lowercase schema.name)).encode <+: other.key →
        other.key < (Key.row (Text.lowercase schema.name) id).encode
  rows : row.Sized → after.rows schema = (· ++ [row]) <$> database.rows schema
  otherRows : Text.Sized (Text.lowercase schema.name) →
    ∀ other : Table, Text.lowercase other.name ≠ Text.lowercase schema.name →
      after.rows other = database.rows other
  schemas : ∀ name, after.table? name = database.table? name
  listed : after.tables = database.tables

theorem rowAdded_of_appendRow (done : (appendRow schema row).run database = (.ok (), after)) :
    RowAdded database after schema row := by
  obtain ⟨id, next, adds⟩ := exists_adds_of_appendRow done
  constructor
  · refine ⟨id, adds, fun other stored start => ?_⟩
    exact key_lt_of_nextRowId next (mem_scan_iff.mpr ⟨stored, start⟩)
  · exact fun sized => rows_of_appendRow sized done
  · intro sized other different
    refine rows_eq_of_adds adds fun start => different ?_
    exact KeyGroup.eq_of_encode_rows_prefix sized start
  · intro name
    have other : (Key.table (Text.lowercase name)).encode ≠
        (Key.row (Text.lowercase schema.name) id).encode := by
      intro same
      cases Key.encode_injective same
    rw [table?, table?, adds.get?_eq other]
  · rw [tables, tables, scan, scan,
      adds.scanBeginning_eq (KeyGroup.not_encode_tables_prefix_row _ id)]

/-- What a new schema does to the database. -/
structure SchemaAdded (database after : Database) (schema : Table) : Prop where
  entry : database.store.Adds after.store
    ⟨(Key.table (Text.lowercase schema.name)).encode, Table.codec.encodeStored schema⟩
  rows : ∀ other, after.rows other = database.rows other

theorem schemaAdded_of_createTable (done : (createTable schema).run database = (.ok (), after)) :
    SchemaAdded database after schema where
  entry := adds_of_createTable done
  rows _ := rows_eq_of_adds (adds_of_createTable done)
    (KeyGroup.not_encode_rows_prefix_table _ _)

end Database

namespace DatabaseM

variable {α β : Type}

/-- Every entry stays, whether the step succeeds or fails. -/
def Keeps (step : DatabaseM α) : Prop :=
  ∀ database, ∀ entry ∈ database.store.entries, entry ∈ (step.run database).2.store.entries

theorem keeps_ask (query : Database → Except Error α) : Keeps (Database.ask query) :=
  fun _ _ stored => stored

theorem keeps_pure (value : α) : Keeps (pure value) := fun _ _ stored => stored

theorem Keeps.bind {step : DatabaseM α} {next : α → DatabaseM β} (keeps : Keeps step)
    (later : ∀ value, Keeps (next value)) : Keeps (step >>= next) := by
  intro database entry stored
  have kept := keeps database entry stored
  rw [run_bind]
  generalize step.run database = ended at kept ⊢
  obtain ⟨_ | value, between⟩ := ended
  · exact kept
  · exact later value between entry kept

theorem Keeps.each {step : α → DatabaseM β} (keeps : ∀ item, Keeps (step item))
    (database : Database) (items : List α) :
    ∀ entry ∈ database.store.entries, entry ∈ (each step database items).2.store.entries := by
  induction items generalizing database with
  | nil => exact fun _ stored => stored
  | cons item rest ih =>
    intro entry stored
    rw [each_cons]
    exact ih _ entry (keeps item database entry stored)

/-- A step that adds an entry where it succeeds keeps the others, if it leaves no trace where it
fails. -/
theorem FailsCleanly.keeps {step : DatabaseM Unit} (clean : FailsCleanly step)
    (adds : ∀ database after, step.run database = (.ok (), after) →
      ∃ entry, database.store.Adds after.store entry) : Keeps step := by
  intro database entry stored
  cases ended : step.run database with
  | mk result after =>
    cases result with
    | error cause => exact clean database cause after ended ▸ stored
    | ok _ =>
      obtain ⟨_, adds⟩ := adds database after ended
      exact adds.mem_of_mem stored

end DatabaseM

open DatabaseM

namespace Database

theorem keeps_createTable (schema : Table) : Keeps (createTable schema) :=
  (failsCleanly_createTable schema).keeps fun _ _ done => ⟨_, adds_of_createTable done⟩

theorem keeps_appendRow (schema : Table) (row : Row) : Keeps (appendRow schema row) :=
  (failsCleanly_appendRow schema row).keeps fun _ _ done =>
    let ⟨_, _, adds⟩ := exists_adds_of_appendRow done
    ⟨_, adds⟩

theorem keeps_insert (name : String) (values : List Value) : Keeps (insert name values) :=
  (keeps_ask _).bind fun schema => (keeps_ask _).bind fun row => keeps_appendRow schema row

end Database

theorem Operation.keeps_perform {α : Type} (operation : Operation α) : Keeps operation.perform := by
  cases operation with
  | createTable schema => exact Database.keeps_createTable schema
  | appendRow schema row => exact Database.keeps_appendRow schema row
  | insert name values => exact Database.keeps_insert name values
  | table? _ | table _ | tables | rows _ | select _ _ => exact keeps_ask _

namespace Session

theorem keeps_run (statement : Statement) : Keeps (run statement) := by
  cases statement with
  | createTable schema => exact (Database.keeps_createTable schema).bind fun _ => keeps_pure _
  | insert table values => exact (Database.keeps_insert table values).bind fun _ => keeps_pure _
  | select table selection => exact (keeps_ask _).bind fun _ => keeps_pure _

theorem Command.keeps_perform (command : Command) : Keeps command.perform := by
  cases command with
  | parsed statement => exact keeps_run statement
  | written text => exact (keeps_ask _).bind keeps_run

/-- A row or a schema adds one entry under a free key and disturbs nothing else, and no operation
and no run of commands loses or alters an entry, whatever the store holds. -/
theorem entries_are_written_once :
    (∀ (database after : Database) (schema : Table) (row : Row),
      (Database.appendRow schema row).run database = (.ok (), after) →
        Database.RowAdded database after schema row) ∧
    (∀ (database after : Database) (schema : Table),
      (Database.createTable schema).run database = (.ok (), after) →
        Database.SchemaAdded database after schema) ∧
    (∀ (α : Type) (operation : Operation α) (database : Database),
      ∀ entry ∈ database.store.entries,
        entry ∈ (operation.perform.run database).2.store.entries) ∧
    ∀ (database : Database) (commands : List Command), ∀ entry ∈ database.store.entries,
      entry ∈ (each Command.perform database commands).2.store.entries :=
  ⟨fun _ _ _ _ done => Database.rowAdded_of_appendRow done,
    fun _ _ _ done => Database.schemaAdded_of_createTable done,
    fun _ operation => operation.keeps_perform,
    fun database commands => Keeps.each Command.keeps_perform database commands⟩

/-- A key in the range of the table is cut short and has no row, so the rows cannot be read, before
or after. The new number takes one byte more than the last. -/
theorem entries_are_written_once_behind_broken_key :
    let schema : Table := ⟨"Ab", [⟨"x", .text, true, false⟩]⟩
    let row : Row := [.text "é"]
    let broken : Entry := ⟨(KeyGroup.rows "ab").encode ++ [0], []⟩
    let held : Database := ⟨.ofList [broken,
      ⟨(Key.row "ab" 255).encode, Row.codec.encodeStored [.null]⟩,
      ⟨(Key.row "abc" 0).encode, Row.codec.encodeStored [.boolean true]⟩]⟩
    let filled := ((Database.appendRow schema row).run held).2
    let created := ((Database.createTable schema).run filled).2
    held.rows schema = .error (.storage (.decode .endOfInput)) ∧
      created.rows schema = .error (.storage (.decode .endOfInput)) ∧
      created.rows ⟨"ABC", []⟩ = .ok [[.boolean true]] ∧
      broken ∈ (each Command.perform created [.written "SELECT * FROM ab"]).2.store.entries ∧
      ∃ id, (Key.row "ab" 255).encode < (Key.row "ab" id).encode ∧
        ⟨(Key.row "ab" id).encode, Row.codec.encodeStored row⟩ ∈ filled.store.entries := by
  intro schema row broken held filled created
  obtain ⟨appended, registered, kept, run⟩ := entries_are_written_once
  have rowAdded := appended held filled schema row (Prod.ext (by decide +kernel) rfl)
  have schemaAdded := registered filled created schema (Prod.ext (by decide +kernel) rfl)
  have before : held.rows schema = .error (.storage (.decode .endOfInput)) := by decide +kernel
  have lowered : Text.lowercase schema.name = "ab" := by decide +kernel
  have sized : row.Sized := ⟨by decide, by decide +kernel⟩
  refine ⟨before, ?_, ?_, ?_, ?_⟩
  · rw [schemaAdded.rows, rowAdded.rows sized, before]
    rfl
  · rw [schemaAdded.rows, rowAdded.otherRows (by decide +kernel) _ (by decide +kernel)]
    decide +kernel
  · apply run
    exact kept Unit (.createTable schema) filled broken
      (kept Unit (.appendRow schema row) held broken (by decide +kernel))
  · obtain ⟨id, adds, above⟩ := rowAdded.entry
    rw [lowered] at adds above
    refine ⟨id, above ⟨_, Row.codec.encodeStored [.null]⟩ (by decide +kernel) ?_,
      (adds.entries _).mpr (.inl rfl)⟩
    exact List.prefix_append _ _

end Session

end SqlStore
