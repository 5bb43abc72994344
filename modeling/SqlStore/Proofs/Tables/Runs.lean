import SqlStore.Proofs.Result
import SqlStore.Session

/-! # Statements as steps

A statement asks the database, and where the answers are good it makes at most one write. What it
ends with and what it leaves behind are therefore read off the answers; an error leaves the database
as it was. A run takes statements one after the other and goes on after those that fail.
-/

namespace SqlStore

theorem lift_execution {α : Type} (result : Except ExecutionError α) :
    (liftM result : Except Error α) = result.mapError .execution := rfl

namespace DatabaseM

variable {α β : Type}

theorem run_bind (first : DatabaseM α) (next : α → DatabaseM β) (database : Database) :
    (first >>= next).run database =
      match first.run database with
      | (.ok value, after) => (next value).run after
      | (.error cause, after) => (.error cause, after) := by
  change ExceptT.bindCont next (first.run database).1 (first.run database).2 = _
  generalize first.run database = ended
  rcases ended with ⟨result, after⟩
  cases result <;> rfl

theorem run_ask (query : Database → Except Error α) (database : Database) :
    (Database.ask query).run database = (query database, database) := rfl

/-- What steps end with when they are taken one after the other, failed ones or not, and the
database after the last. -/
def each (step : α → DatabaseM β) (database : Database) : List α → List (Except Error β) × Database
  | [] => ([], database)
  | item :: rest =>
    let (result, database) := (step item).run database
    let (results, database) := each step database rest
    (result :: results, database)

theorem each_cons (step : α → DatabaseM β) (database : Database) (item : α) (rest : List α) :
    each step database (item :: rest) =
      (((step item).run database).1 :: (each step ((step item).run database).2 rest).1,
        (each step ((step item).run database).2 rest).2) := rfl

theorem length_each (step : α → DatabaseM β) (database : Database) (items : List α) :
    (each step database items).1.length = items.length := by
  induction items generalizing database with
  | nil => rfl
  | cons item rest ih => rw [each_cons, List.length_cons, List.length_cons, ih]

end DatabaseM

namespace Database

open DatabaseM

theorem run_createTable (table : Table) (database : Database) :
    (createTable table).run database =
      match database.checkNew table with
      | .ok _ => (.ok (), ⟨database.store.set
          (Key.table (Text.lowercase table.name)).encode (Table.codec.encodeStored table)⟩)
      | .error cause => (.error cause, database) := by
  rw [createTable, run_bind, run_ask]
  cases database.checkNew table <;> rfl

theorem run_appendRow (table : Table) (row : Row) (database : Database) :
    (appendRow table row).run database =
      match database.nextRowId (Text.lowercase table.name) with
      | .ok id => (.ok (), ⟨database.store.set
          (Key.row (Text.lowercase table.name) id).encode (Row.codec.encodeStored row)⟩)
      | .error cause => (.error cause, database) := by
  rw [appendRow, run_bind, run_ask]
  cases database.nextRowId (Text.lowercase table.name) <;> rfl

section Success

variable {table : Table} {row : Row} {database after : Database}

/-- A table is added only if it was found to be new. -/
theorem eq_set_of_createTable (done : (createTable table).run database = (.ok (), after)) :
    database.checkNew table = .ok () ∧ after = ⟨database.store.set
      (Key.table (Text.lowercase table.name)).encode (Table.codec.encodeStored table)⟩ := by
  rw [run_createTable] at done
  cases checked : database.checkNew table with
  | error cause =>
    rw [checked] at done
    cases done
  | ok _ =>
    rw [checked] at done
    obtain ⟨-, rfl⟩ := Prod.mk.inj done
    exact ⟨rfl, rfl⟩

/-- A row is added only under the number that is next. -/
theorem exists_eq_set_of_appendRow (done : (appendRow table row).run database = (.ok (), after)) :
    ∃ id, database.nextRowId (Text.lowercase table.name) = .ok id ∧ after = ⟨database.store.set
      (Key.row (Text.lowercase table.name) id).encode (Row.codec.encodeStored row)⟩ := by
  rw [run_appendRow] at done
  cases next : database.nextRowId (Text.lowercase table.name) with
  | error cause =>
    rw [next] at done
    cases done
  | ok id =>
    rw [next] at done
    obtain ⟨-, rfl⟩ := Prod.mk.inj done
    exact ⟨id, rfl, rfl⟩

end Success

end Database

namespace Session

open DatabaseM

theorem run_createTable (schema : Table) (database : Database) :
    (run (.createTable schema)).run database =
      match database.checkNew schema with
      | .ok _ =>
        (.ok (.created schema.name), ⟨database.store.set
          (Key.table (Text.lowercase schema.name)).encode (Table.codec.encodeStored schema)⟩)
      | .error cause => (.error cause, database) := by
  rw [run, run_bind, Database.run_createTable]
  cases database.checkNew schema <;> rfl

theorem run_insert (name : String) (values : List Value) (database : Database) :
    (run (.insert name values)).run database =
      match database.table name with
      | .error cause => (.error cause, database)
      | .ok table =>
        match table.makeRow values with
        | .error cause => (.error (.execution cause), database)
        | .ok row =>
          match database.nextRowId (Text.lowercase table.name) with
          | .error cause => (.error cause, database)
          | .ok id =>
            (.ok (.inserted 1), ⟨database.store.set
              (Key.row (Text.lowercase table.name) id).encode (Row.codec.encodeStored row)⟩) := by
  rw [run, run_bind, Database.insert, run_bind, run_ask]
  cases database.table name with
  | error cause => rfl
  | ok table =>
    dsimp only
    rw [run_bind, run_ask]
    cases table.makeRow values with
    | error cause => rfl
    | ok row =>
      simp only [lift_execution, Result.mapError_ok]
      rw [Database.run_appendRow]
      cases database.nextRowId (Text.lowercase table.name) <;> rfl

theorem run_select (name : String) (selection : Selection) (database : Database) :
    (run (.select name selection)).run database =
      (Outcome.selected <$> database.select name selection, database) := by
  rw [run, run_bind, run_ask]
  cases database.select name selection <;> rfl

theorem run_execute_of_ok {text : String} {statement : Statement}
    (read : Statement.ofText text = .ok statement) (database : Database) :
    (execute text).run database = (run statement).run database := by
  rw [execute, run_bind, run_ask, read]
  rfl

/-- A text that is no statement asks nothing of the database. -/
theorem run_execute_of_error {text : String} {cause : SyntaxError}
    (failed : Statement.ofText text = .error cause) (database : Database) :
    ((execute text).run database).2 = database := by
  rw [execute, run_bind, run_ask, failed]
  rfl

end Session

end SqlStore
