import SqlStore.Proofs.Tables.Refinement

/-! # Failures leave no trace

Everything that can go wrong with a step is asked before its one write. So an error finds the
database as the step found it, whatever bytes lie in the store, and a run goes on as if the step had
never been tried.
-/

namespace SqlStore

/-- What can be asked of a database or done to it, by the type of the answer. -/
inductive Operation : Type → Type where
  | createTable (schema : Table) : Operation Unit
  | table? (name : String) : Operation (Option Table)
  | table (name : String) : Operation Table
  | tables : Operation (List Table)
  | appendRow (schema : Table) (row : Row) : Operation Unit
  | rows (schema : Table) : Operation (List Row)
  | insert (name : String) (values : List Value) : Operation Unit
  | select (name : String) (selection : Selection) : Operation Listing

def Operation.perform {α : Type} : Operation α → DatabaseM α
  | createTable schema => Database.createTable schema
  | table? name => Database.ask fun database => database.table? name
  | table name => Database.ask fun database => database.table name
  | tables => Database.ask fun database => database.tables
  | appendRow schema row => Database.appendRow schema row
  | rows schema => Database.ask fun database => database.rows schema
  | insert name values => Database.insert name values
  | select name selection => Database.ask fun database => database.select name selection

namespace DatabaseM

variable {α β : Type}

/-- An error leaves the database as it was, however sound or unsound its bytes are. -/
def FailsCleanly (step : DatabaseM α) : Prop :=
  ∀ database cause after, step.run database = (.error cause, after) → after = database

theorem failsCleanly_ask (query : Database → Except Error α) :
    FailsCleanly (Database.ask query) := by
  intro database cause after failed
  exact (Prod.mk.inj failed).2.symm

theorem failsCleanly_write (key : Key) (value : Bytes) :
    FailsCleanly (Database.write key value) := by
  intro database cause after failed
  obtain ⟨same, _⟩ := Prod.mk.inj failed
  contradiction

/-- A question changes nothing, so what comes after it may still fail. -/
theorem FailsCleanly.ask_bind {query : Database → Except Error α} {next : α → DatabaseM β}
    (later : ∀ value, FailsCleanly (next value)) : FailsCleanly (Database.ask query >>= next) := by
  intro database cause after failed
  rw [run_bind, run_ask] at failed
  cases answer : query database with
  | error fault =>
    rw [answer] at failed
    exact (Prod.mk.inj failed).2.symm
  | ok value =>
    rw [answer] at failed
    exact later value database cause after failed

/-- What a step answers may be put in other words. -/
theorem FailsCleanly.bind_pure {step : DatabaseM α} (clean : FailsCleanly step) (f : α → β) :
    FailsCleanly (step >>= fun value => pure (f value)) := by
  intro database cause after failed
  rw [run_bind] at failed
  cases ended : step.run database with
  | mk result behind =>
    rw [ended] at failed
    cases result with
    | ok value =>
      obtain ⟨same, _⟩ := Prod.mk.inj failed
      contradiction
    | error fault =>
      obtain ⟨_, rfl⟩ := Prod.mk.inj failed
      exact clean database fault behind ended

/-- The steps of the second list are those of the first, in their order, without some of those that
failed. -/
inductive Erased : List (α × Except Error β) → List (α × Except Error β) → Prop where
  | nil : Erased [] []
  | keep {log kept : List (α × Except Error β)} (entry : α × Except Error β)
    (later : Erased log kept) : Erased (entry :: log) (entry :: kept)
  | erase {log kept : List (α × Except Error β)} (item : α) (cause : Error)
    (later : Erased log kept) : Erased ((item, .error cause) :: log) kept

/-- Without the failed steps the others end as they did, and so does the run. -/
theorem each_of_erased {step : α → DatabaseM β} (clean : ∀ item, FailsCleanly (step item))
    {database : Database} {items : List α} {kept : List (α × Except Error β)}
    (erased : Erased (items.zip (each step database items).1) kept) :
    each step database (kept.map Prod.fst) =
      (kept.map Prod.snd, (each step database items).2) := by
  induction items generalizing database kept with
  | nil =>
    rw [List.zip_nil_left] at erased
    cases erased
    rfl
  | cons item rest ih =>
    rw [each_cons, List.zip_cons_cons] at erased
    rw [each_cons]
    generalize ended : (step item).run database = outcome at erased ⊢
    obtain ⟨result, after⟩ := outcome
    cases erased with
    | keep _ later =>
      rw [List.map_cons, List.map_cons, each_cons, ended, ih later]
    | erase _ cause later =>
      obtain rfl := clean item database cause after ended
      exact ih later

end DatabaseM

open DatabaseM

namespace Database

theorem failsCleanly_createTable (table : Table) : FailsCleanly (createTable table) :=
  .ask_bind fun _ => failsCleanly_write _ _

theorem failsCleanly_appendRow (table : Table) (row : Row) : FailsCleanly (appendRow table row) :=
  .ask_bind fun _ => failsCleanly_write _ _

theorem failsCleanly_insert (name : String) (values : List Value) :
    FailsCleanly (insert name values) := by
  apply FailsCleanly.ask_bind
  intro table
  apply FailsCleanly.ask_bind
  intro row
  exact failsCleanly_appendRow table row

end Database

theorem Operation.failsCleanly_perform {α : Type} (operation : Operation α) :
    FailsCleanly operation.perform := by
  cases operation with
  | createTable schema => exact Database.failsCleanly_createTable schema
  | appendRow schema row => exact Database.failsCleanly_appendRow schema row
  | insert name values => exact Database.failsCleanly_insert name values
  | table? _ | table _ | tables | rows _ | select _ _ => exact failsCleanly_ask _

namespace Session

theorem failsCleanly_run (statement : Statement) : FailsCleanly (run statement) := by
  cases statement with
  | createTable schema => exact (Database.failsCleanly_createTable schema).bind_pure _
  | insert table values => exact (Database.failsCleanly_insert table values).bind_pure _
  | select table selection => exact (failsCleanly_ask _).bind_pure _

theorem failsCleanly_execute (text : String) : FailsCleanly (execute text) :=
  .ask_bind failsCleanly_run

/-- No operation that fails changes the store, and a run of texts may do without those that failed:
the others end as they did, and the database at the end is the same. -/
theorem failures_leave_no_trace :
    (∀ (α : Type) (operation : Operation α) (database : Database) (cause : Error)
      (after : Database), operation.perform.run database = (.error cause, after) →
        after.store.entries = database.store.entries) ∧
    ∀ (database : Database) (texts : List String) (kept : List (String × Except Error Outcome)),
      Erased (texts.zip (each execute database texts).1) kept →
        each execute database (kept.map Prod.fst) =
          (kept.map Prod.snd, (each execute database texts).2) := by
  refine ⟨fun α operation database cause after failed => ?_, fun database texts kept erased => ?_⟩
  · rw [operation.failsCleanly_perform database cause after failed]
  · exact each_of_erased failsCleanly_execute erased

/-- A schema that cannot be read stops an insertion, and a run does without its second and third
text. -/
theorem failures_leave_no_trace_of_bad_schema :
    let broken : Database := ⟨.ofList [⟨(Key.table "t").encode, [0xFF]⟩]⟩
    let texts := ["CREATE TABLE u (a INT)", "INSERT INTO t VALUES (1)", "SELECT * FRO u",
      "INSERT INTO u VALUES (7)"]
    ((Database.insert "T" [.integer 1]).run broken).2.store.entries = broken.store.entries ∧
    each execute broken ["CREATE TABLE u (a INT)", "INSERT INTO u VALUES (7)"] =
      ([.ok (.created "u"), .ok (.inserted 1)], (each execute broken texts).2) := by
  intro broken texts
  obtain ⟨unchanged, erasable⟩ := failures_leave_no_trace
  have failed : ((Database.insert "T" [.integer 1]).run broken).1 =
      .error (.storage (.decode .endOfInput)) := by decide +kernel
  have results : (each execute broken texts).1 =
      [.ok (.created "u"), .error (.storage (.decode .endOfInput)),
        .error (.parse (.unexpectedToken (.keyword .from) (.ident "FRO"))),
        .ok (.inserted 1)] := by decide +kernel
  refine ⟨?_, erasable broken texts [("CREATE TABLE u (a INT)", .ok (.created "u")),
    ("INSERT INTO u VALUES (7)", .ok (.inserted 1))] ?_⟩
  · exact unchanged Unit (.insert "T" [.integer 1]) broken _ _ (Prod.ext failed rfl)
  · rw [results]
    exact .keep _ (.erase _ _ (.erase _ _ (.keep _ .nil)))

end Session

end SqlStore
