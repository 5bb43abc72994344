import Mathlib.Data.Finmap
import SqlStore.Proofs.Tables.Runs

/-! # What a user sees of the tables

The tables of a database are a finite map: under each name in small letters a schema as it was
declared and the rows in the order in which they came. On such a map every statement has an obvious
meaning, which knows of no keys, no row numbers and no bytes. A statement that does not fit is
turned down, and the words in which this is done are part of the meaning.
-/

namespace SqlStore

namespace Statement

/-- The name in small letters of the table that a statement is about. -/
def target : Statement → String
  | createTable schema => Text.lowercase schema.name
  | insert table _ | select table _ => Text.lowercase table

def creates (name : String) : Statement → Bool
  | createTable schema => Text.lowercase schema.name == name
  | insert _ _ | select _ _ => false

def insertsInto (name : String) : Statement → Bool
  | insert table _ => Text.lowercase table == name
  | createTable _ | select _ _ => false

end Statement

/-- A table as it was declared, and its rows, the oldest first. -/
structure Contents where
  schema : Table
  rows : List Row
deriving DecidableEq, Repr

namespace Contents

/-- The value that a row has under a name; of several columns with the name the first counts. -/
def cell? (contents : Contents) (name : String) (row : Row) : Option Value :=
  (contents.schema.columnNames.zip row).lookup name

def select (contents : Contents) : Selection → Except ExecutionError Listing
  | .all => .ok ⟨contents.schema.columnNames, contents.rows⟩
  | .named names =>
    match names.filter fun name => name ∉ contents.schema.columnNames with
    | [] => .ok ⟨names, contents.rows.map fun row => names.filterMap (contents.cell? · row)⟩
    | unknown => .error (.unknownColumns unknown)

def append (contents : Contents) (row : Row) : Contents :=
  { contents with rows := contents.rows ++ [row] }

/-- What fails is a query for names that are not there, and it reports all of them. -/
theorem select_eq_error_iff {contents : Contents} {selection : Selection} {cause : ExecutionError} :
    contents.select selection = .error cause ↔
      ∃ names, selection = .named names ∧ ¬ names ⊆ contents.schema.columnNames ∧
        cause = .unknownColumns (names.filter fun name => name ∉ contents.schema.columnNames) := by
  cases selection with
  | all => simp [select]
  | named names =>
    have known : names.filter (fun name => name ∉ contents.schema.columnNames) = [] ↔
        names ⊆ contents.schema.columnNames := by
      simp [List.filter_eq_nil_iff, List.subset_def]
    rw [select]
    constructor
    · intro failed
      split at failed
      · cases failed
      · next some =>
        obtain rfl := Except.error.inj failed
        exact ⟨names, rfl, mt known.mpr some, rfl⟩
    · rintro ⟨_, ⟨⟩, unknown, rfl⟩
      split
      · next none => exact absurd (known.mp none) unknown
      · rfl

end Contents

/-- Tables under their names in small letters. -/
abbrev Catalogue := Finmap fun _ : String => Contents

namespace Catalogue

/-- What a statement answers, and the tables after it. -/
def run (catalogue : Catalogue) : Statement → Except ExecutionError Outcome × Catalogue
  | .createTable schema =>
    if schema.columns = [] then (.error (.noColumns schema.name), catalogue)
    else if Text.lowercase schema.name ∈ catalogue then
      (.error (.tableExists schema.name), catalogue)
    else (.ok (.created schema.name), catalogue.insert (Text.lowercase schema.name) ⟨schema, []⟩)
  | .insert name values =>
    match catalogue.lookup (Text.lowercase name) with
    | none => (.error (.unknownTable name), catalogue)
    | some contents =>
      if values.length = contents.schema.columns.length then
        (.ok (.inserted 1), catalogue.insert (Text.lowercase name) (contents.append values))
      else (.error (.valueCount contents.schema.columns.length values.length), catalogue)
  | .select name selection =>
    match catalogue.lookup (Text.lowercase name) with
    | none => (.error (.unknownTable name), catalogue)
    | some contents => (Outcome.selected <$> contents.select selection, catalogue)

/-- The words in which a statement that does not fit the tables is turned down. They name a table as
the statement does, and of several things that are wrong they tell the first. -/
inductive Refuses (catalogue : Catalogue) : Statement → String → Prop where
  | noColumns {schema : Table} (columns : schema.columns = []) :
    Refuses catalogue (.createTable schema) ("table " ++ schema.name ++ " has no columns")
  | taken {schema : Table} (columns : schema.columns ≠ [])
    (present : Text.lowercase schema.name ∈ catalogue) :
    Refuses catalogue (.createTable schema) ("Table '" ++ schema.name ++ "' already exists")
  | insertUnknown {name : String} {values : List Value}
    (missing : Text.lowercase name ∉ catalogue) :
    Refuses catalogue (.insert name values) ("Table '" ++ name ++ "' does not exist")
  | width {name : String} {values : List Value} {contents : Contents}
    (found : catalogue.lookup (Text.lowercase name) = some contents)
    (differs : values.length ≠ contents.schema.columns.length) :
    Refuses catalogue (.insert name values)
      ("Expected " ++ toString contents.schema.columns.length ++ " values, got " ++
        toString values.length)
  | selectUnknown {name : String} {selection : Selection}
    (missing : Text.lowercase name ∉ catalogue) :
    Refuses catalogue (.select name selection) ("Table '" ++ name ++ "' does not exist")
  | columns {name : String} {names : List String} {contents : Contents}
    (found : catalogue.lookup (Text.lowercase name) = some contents)
    (unknown : ¬ names ⊆ contents.schema.columnNames) :
    Refuses catalogue (.select name (.named names))
      ("Unknown columns in SELECT: " ++
        String.intercalate ", " (names.filter fun name => name ∉ contents.schema.columnNames))

/-- The answers to statements that come one after the other, and the tables after the last. -/
def runAll (catalogue : Catalogue) :
    List Statement → List (Except ExecutionError Outcome) × Catalogue
  | [] => ([], catalogue)
  | statement :: rest =>
    let (answer, catalogue) := catalogue.run statement
    let (answers, catalogue) := runAll catalogue rest
    (answer :: answers, catalogue)

/-- A name without a table has no rows. -/
def rowCount (catalogue : Catalogue) (name : String) : Nat :=
  (catalogue.lookup name).elim 0 fun contents => contents.rows.length

/-- The rows of every table can be numbered by words of 64 bits. -/
def Numbered (catalogue : Catalogue) : Prop := ∀ name, catalogue.rowCount name ≤ 2 ^ 64

variable {catalogue : Catalogue} {name key : String} {contents : Contents}

theorem rowCount_of_lookup (found : catalogue.lookup name = some contents) :
    catalogue.rowCount name = contents.rows.length := by
  rw [rowCount, found]
  rfl

theorem lookup_insert_eq_some_iff {other : String} {others : Contents} :
    (catalogue.insert name contents).lookup other = some others ↔
      other = name ∧ others = contents ∨ other ≠ name ∧ catalogue.lookup other = some others := by
  by_cases same : other = name
  · subst same
    simp [Finmap.lookup_insert, eq_comm]
  · simp [Finmap.lookup_insert_of_ne catalogue same, same]

theorem rowCount_insert (catalogue : Catalogue) (key : String) (contents : Contents)
    (name : String) :
    rowCount (catalogue.insert key contents) name =
      if name = key then contents.rows.length else catalogue.rowCount name := by
  rw [rowCount]
  split
  · next same =>
    rw [same, Finmap.lookup_insert]
    rfl
  · next different =>
    rw [Finmap.lookup_insert_of_ne catalogue different]
    rfl

theorem Refuses.exists_run_eq {statement : Statement} {text : String}
    (refused : catalogue.Refuses statement text) :
    ∃ cause, (catalogue.run statement).1 = .error cause ∧ cause.message = text := by
  cases refused with
  | @noColumns schema columns =>
    exact ⟨.noColumns schema.name, by rw [run, if_pos columns], rfl⟩
  | @taken schema columns present =>
    exact ⟨.tableExists schema.name, by rw [run, if_neg columns, if_pos present], rfl⟩
  | @insertUnknown name values missing =>
    exact ⟨.unknownTable name, by rw [run, Finmap.lookup_eq_none.mpr missing], rfl⟩
  | @width name values contents found differs =>
    refine ⟨.valueCount contents.schema.columns.length values.length, ?_, rfl⟩
    rw [run, found]
    exact congrArg Prod.fst (if_neg differs)
  | @selectUnknown name selection missing =>
    exact ⟨.unknownTable name, by rw [run, Finmap.lookup_eq_none.mpr missing], rfl⟩
  | @columns name names contents found unknown =>
    refine ⟨.unknownColumns (names.filter (· ∉ contents.schema.columnNames)), ?_, rfl⟩
    rw [run, found]
    dsimp only
    rw [Contents.select_eq_error_iff.mpr ⟨names, rfl, unknown, rfl⟩]
    rfl

theorem refuses_of_run {statement : Statement} {cause : ExecutionError}
    (failed : (catalogue.run statement).1 = .error cause) :
    catalogue.Refuses statement cause.message := by
  cases statement with
  | createTable schema =>
    rw [run] at failed
    split_ifs at failed with columns present
    · obtain rfl := Except.error.inj failed
      exact .noColumns columns
    · obtain rfl := Except.error.inj failed
      exact .taken columns present
  | insert name values =>
    rw [run] at failed
    cases found : catalogue.lookup (Text.lowercase name) with
    | none =>
      rw [found] at failed
      obtain rfl := Except.error.inj failed
      exact .insertUnknown (Finmap.lookup_eq_none.mp found)
    | some contents =>
      rw [found] at failed
      dsimp only at failed
      split_ifs at failed with width
      obtain rfl := Except.error.inj failed
      exact .width found width
  | select name selection =>
    rw [run] at failed
    cases found : catalogue.lookup (Text.lowercase name) with
    | none =>
      rw [found] at failed
      obtain rfl := Except.error.inj failed
      exact .selectUnknown (Finmap.lookup_eq_none.mp found)
    | some contents =>
      rw [found] at failed
      dsimp only at failed
      cases selected : contents.select selection with
      | ok listing =>
        rw [selected] at failed
        cases failed
      | error reason =>
        rw [selected] at failed
        obtain rfl := Except.error.inj failed
        obtain ⟨names, rfl, unknown, rfl⟩ := Contents.select_eq_error_iff.mp selected
        exact .columns found unknown

/-- Exactly the statements that fail are turned down, and the message of the failure has the words. -/
theorem refuses_iff {statement : Statement} {text : String} :
    catalogue.Refuses statement text ↔
      ∃ failure, (catalogue.run statement).1.mapError .execution = .error failure ∧
        Error.message failure = text := by
  constructor
  · intro refused
    obtain ⟨cause, failed, rfl⟩ := refused.exists_run_eq
    exact ⟨.execution cause, by rw [failed]; rfl, rfl⟩
  · rintro ⟨failure, failed, rfl⟩
    cases ended : (catalogue.run statement).1 with
    | ok outcome =>
      rw [ended] at failed
      cases failed
    | error cause =>
      rw [ended] at failed
      obtain rfl := Except.error.inj failed
      exact refuses_of_run ended

/-- Each answer of a run is the answer to its statement on the tables that were there then. -/
theorem getElem?_runAll (catalogue : Catalogue) (statements : List Statement) (i : Nat) :
    (catalogue.runAll statements).1[i]? =
      statements[i]?.map fun statement =>
        ((catalogue.runAll (statements.take i)).2.run statement).1 := by
  induction statements generalizing catalogue i with
  | nil => rfl
  | cons statement rest ih =>
    cases i with
    | zero => rfl
    | succ i => exact ih (catalogue.run statement).2 i

/-- The names are those of the tables whose creation succeeded. -/
theorem mem_run_iff (catalogue : Catalogue) (statement : Statement) (name : String) :
    name ∈ (catalogue.run statement).2 ↔
      name ∈ catalogue ∨ (statement.creates name && (catalogue.run statement).1.isOk) = true := by
  cases statement with
  | createTable schema =>
    rw [run, Statement.creates]
    split_ifs with columns taken
    · simp [Except.isOk, Except.toBool]
    · simp [Except.isOk, Except.toBool]
    · dsimp only
      rw [Finmap.mem_insert, Except.isOk, Except.toBool, Bool.and_true, beq_iff_eq, or_comm,
        eq_comm (a := name)]
  | insert table values =>
    rw [run, Statement.creates, Bool.false_and]
    simp only [Bool.false_eq_true, or_false]
    cases found : catalogue.lookup (Text.lowercase table) with
    | none => rfl
    | some contents =>
      have present : Text.lowercase table ∈ catalogue := Finmap.mem_iff.mpr ⟨contents, found⟩
      dsimp only
      split_ifs with width
      · rw [Finmap.mem_insert]
        exact or_iff_right_of_imp fun same => same ▸ present
      · rfl
  | select table selection =>
    rw [run, Statement.creates, Bool.false_and]
    simp only [Bool.false_eq_true, or_false]
    cases catalogue.lookup (Text.lowercase table) <;> rfl

/-- A row is added by an insertion that succeeds and in no other way. -/
theorem rowCount_run (catalogue : Catalogue) (statement : Statement) (name : String) :
    (catalogue.run statement).2.rowCount name = catalogue.rowCount name +
      (statement.insertsInto name && (catalogue.run statement).1.isOk).toNat := by
  cases statement with
  | createTable schema =>
    rw [run, Statement.insertsInto, Bool.false_and]
    split_ifs with columns taken
    · rfl
    · rfl
    · dsimp only
      rw [rowCount_insert]
      split_ifs with same
      · rw [same, rowCount, Finmap.lookup_eq_none.mpr taken]
        rfl
      · rfl
  | insert table values =>
    rw [run, Statement.insertsInto]
    cases found : catalogue.lookup (Text.lowercase table) with
    | none => simp [Except.isOk, Except.toBool]
    | some contents =>
      dsimp only
      split_ifs with width
      · dsimp only
        rw [rowCount_insert]
        split_ifs with same
        · rw [same, rowCount_of_lookup found, Contents.append, List.length_append, beq_self_eq_true]
          rfl
        · rw [beq_false_of_ne (Ne.symm same)]
          rfl
      · rw [Except.isOk, Except.toBool, Bool.and_false]
        rfl
  | select table selection =>
    rw [run, Statement.insertsInto, Bool.false_and]
    cases catalogue.lookup (Text.lowercase table) <;> rfl

theorem rowCount_le_runAll (catalogue : Catalogue) (statements : List Statement) (name : String) :
    catalogue.rowCount name ≤ (catalogue.runAll statements).2.rowCount name := by
  induction statements generalizing catalogue with
  | nil => exact Nat.le_refl _
  | cons statement rest ih =>
    have first := rowCount_run catalogue statement name
    exact Nat.le_trans (Nat.le.intro first.symm) (ih _)

/-- Every statement adds at most one row. -/
theorem rowCount_runAll_le (catalogue : Catalogue) (statements : List Statement) (name : String) :
    (catalogue.runAll statements).2.rowCount name ≤
      catalogue.rowCount name + statements.length := by
  induction statements generalizing catalogue with
  | nil => exact Nat.le_refl _
  | cons statement rest ih =>
    have first := rowCount_run catalogue statement name
    have later := ih (catalogue.run statement).2
    have added := Bool.toNat_le (statement.insertsInto name && (catalogue.run statement).1.isOk)
    rw [List.length_cons]
    change ((catalogue.run statement).2.runAll rest).2.rowCount name ≤ _
    omega

theorem Numbered.of_length_le {statements : List Statement} (few : statements.length ≤ 2 ^ 64) :
    (runAll ∅ statements).2.Numbered := fun name => by
  have bound := rowCount_runAll_le ∅ statements name
  have none : rowCount ∅ name = 0 := rfl
  omega

end Catalogue

end SqlStore
