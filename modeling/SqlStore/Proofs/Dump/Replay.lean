import SqlStore.Proofs.Dump.Rebuild
import SqlStore.Proofs.Dump.Script
import SqlStore.Proofs.Grammar.Extent
import SqlStore.Proofs.Tables.Capacity

/-! # A script restores the database

Texts bring only what they can say into a database, so the database can be written down again, and
every text of its script is read as the statement that it writes. These statements make the same
tables from nothing, which lie in the store as the same bytes, although they were first made in
another order and among failures.
-/

namespace SqlStore

namespace Contents

/-- Texts can make the table. -/
def Expressible (contents : Contents) : Prop :=
  ∀ statement ∈ contents.statements, statement.Expressible

variable {contents : Contents} {name : String} {row : Row}

theorem statements_append :
    (contents.append row).statements = contents.statements ++ [.insert contents.schema.name row] := by
  rw [statements, append, List.map_append]
  rfl

theorem Expressible.append (expressible : contents.Expressible) {table : String}
    (inserted : (Statement.insert table row).Expressible) : (contents.append row).Expressible := by
  obtain ⟨named, _⟩ : (Statement.createTable contents.schema).Expressible :=
    expressible _ List.mem_cons_self
  rw [Expressible, statements_append]
  exact List.forall_mem_append.mpr
    ⟨expressible, List.forall_mem_singleton.mpr ⟨named, inserted.2⟩⟩

theorem Expressible.value (expressible : contents.Expressible) (inside : row ∈ contents.rows) :
    ∀ value ∈ row, value.Expressible := by
  have inserted : (Statement.insert contents.schema.name row).Expressible :=
    expressible _ (List.mem_cons_of_mem _ (List.mem_map_of_mem inside))
  exact inserted.2.2

end Contents

/-- The text is read as the statement. -/
def Statement.SaidBy (statement : Statement) (text : String) : Prop :=
  Statement.ofText text = .ok statement

namespace Catalogue

open Contents

variable {catalogue : Catalogue} {statement : Statement} {contents : Contents} {name : String}

/-- Texts can make all tables. -/
def Expressible (catalogue : Catalogue) : Prop :=
  ∀ name contents, catalogue.lookup name = some contents → contents.Expressible

theorem Expressible.insert (expressible : catalogue.Expressible) (new : contents.Expressible) :
    Expressible (Finmap.insert name contents catalogue) := by
  intro other others found
  rcases lookup_insert_eq_some_iff.mp found with ⟨_, rfl⟩ | ⟨_, found⟩
  · exact new
  · exact expressible other others found

theorem Expressible.run (expressible : catalogue.Expressible) (said : statement.Expressible) :
    (catalogue.run statement).2.Expressible := by
  cases statement with
  | createTable schema =>
    rw [Catalogue.run]
    split_ifs with columns taken
    · exact expressible
    · exact expressible
    · exact expressible.insert (List.forall_mem_singleton.mpr said)
  | insert table values =>
    rw [Catalogue.run]
    cases found : catalogue.lookup (Text.lowercase table) with
    | none => exact expressible
    | some contents =>
      dsimp only
      split_ifs with width
      · exact expressible.insert ((expressible _ contents found).append said)
      · exact expressible
  | select table selection =>
    rw [Catalogue.run]
    cases catalogue.lookup (Text.lowercase table) <;> exact expressible

theorem Expressible.runBounded (expressible : catalogue.Expressible)
    (said : statement.Expressible) : (catalogue.runBounded statement).2.Expressible := by
  rw [Catalogue.runBounded]
  split_ifs with room
  · exact expressible.run said
  · exact expressible

end Catalogue

namespace Database.Represents

variable {database : Database} {catalogue : Catalogue}

/-- A table that texts can make is written down by texts that make it. -/
theorem exists_tableScript (held : database.Represents catalogue) {contents : Contents}
    (member : contents ∈ catalogue.listed) (expressible : contents.Expressible) :
    ∃ texts, database.tableScript? contents.schema = some texts ∧
      List.Forall₂ Statement.SaidBy contents.statements texts := by
  obtain ⟨created, inserted⟩ := List.forall_mem_cons.mp expressible
  have insertions : ∀ row ∈ contents.rows, ∃ text, contents.schema.insertion? row = some text ∧
      Statement.SaidBy (.insert contents.schema.name row) text := by
    intro row inside
    have said := inserted _ (List.mem_map_of_mem inside)
    obtain ⟨text, found, spelled⟩ := Table.exists_insertion said
    exact ⟨text, found, spelled.ofText said⟩
  obtain ⟨texts, found, each⟩ := exists_mapM_eq_some insertions
  refine ⟨contents.schema.creation :: texts, ?_, .cons ?_ (List.forall₂_map_left_iff.mpr each)⟩
  · rw [tableScript?, held.rows_eq (held.mem_listed_iff.mp member)]
    change (contents.rows.mapM contents.schema.insertion?).bind _ = _
    rw [found]
    rfl
  · exact (Table.spelledBy_creation created).ofText created

/-- A database whose tables texts can make has a script, and its texts make the tables. -/
theorem exists_script (held : database.Represents catalogue) (expressible : catalogue.Expressible) :
    ∃ script, database.script? = some script ∧
      List.Forall₂ Statement.SaidBy (catalogue.listed.flatMap Contents.statements) script := by
  obtain ⟨parts, found, each⟩ := exists_mapM_eq_some fun contents member =>
    held.exists_tableScript member (expressible _ contents (held.mem_listed_iff.mp member))
  refine ⟨parts.flatten, ?_, List.rel_flatten (List.forall₂_map_left_iff.mpr each)⟩
  rw [script?, held.tables_eq]
  change ((catalogue.listed.map Contents.schema).mapM database.tableScript?).bind _ = _
  rw [List.mapM_map]
  change (catalogue.listed.mapM fun contents => database.tableScript? contents.schema).bind _ = _
  rw [found]
  rfl

end Database.Represents

namespace Session

open DatabaseM

theorem each_execute {statements : List Statement} {texts : List String}
    (said : List.Forall₂ Statement.SaidBy statements texts) (database : Database) :
    each execute database texts = each run database statements := by
  induction said generalizing database with
  | nil => rfl
  | cons here _ ih => rw [each_cons, each_cons, run_execute_of_ok here, ih]

/-- Texts leave nothing behind that they cannot say. -/
theorem exists_expressible {database : Database} {catalogue : Catalogue} {texts : List String}
    (held : database.Represents catalogue) (expressible : catalogue.Expressible)
    (sized : ∀ text ∈ texts, Text.Sized text) :
    ∃ after, (each execute database texts).2.Represents after ∧ after.Expressible := by
  induction texts generalizing database catalogue with
  | nil => exact ⟨catalogue, held, expressible⟩
  | cons text rest ih =>
    obtain ⟨here, later⟩ := List.forall_mem_cons.mp sized
    rw [each_cons]
    cases read : Statement.ofText text with
    | error cause =>
      rw [run_execute_of_error read]
      exact ih held expressible later
    | ok statement =>
      rw [run_execute_of_ok read]
      obtain ⟨_, after⟩ := held.runBounded (Statement.sized_of_ofText read here)
      exact ih after (expressible.runBounded (Statement.expressible_of_ofText read)) later

/-- Whatever texts were run, and whichever of them failed, every value in the tables can be written,
and the script of the database makes its store anew without a failure. -/
theorem replay_restores (texts : List String) (sized : ∀ text ∈ texts, Text.Sized text) :
    let database := (each execute Database.empty texts).2
    (∃ tables, database.tables = .ok tables ∧ ∀ table ∈ tables,
      ∃ rows, database.rows table = .ok rows ∧
        ∀ row ∈ rows, ∀ value ∈ row, value.Expressible) ∧
    ∃ script, database.script? = some script ∧
      (∀ result ∈ (each execute Database.empty script).1, result.isOk = true) ∧
      (each execute Database.empty script).2.store = database.store := by
  obtain ⟨catalogue, held, expressible⟩ :=
    exists_expressible Database.Represents.empty (fun _ _ found => by contradiction) sized
  constructor
  · refine ⟨_, held.tables_eq, fun table member => ?_⟩
    obtain ⟨contents, listed, rfl⟩ := List.mem_map.mp member
    have found := held.mem_listed_iff.mp listed
    exact ⟨contents.rows, held.rows_eq found, fun row => (expressible _ contents found).value⟩
  · obtain ⟨script, written, said⟩ := held.exists_script expressible
    obtain ⟨accepted, ended⟩ := held.accepts_listed
    have numbered := held.numbered
    rw [← ended] at numbered
    obtain ⟨results, again⟩ := Database.Represents.empty.runAll held.sized_statements numbered
    refine ⟨script, written, ?_, ?_⟩
    · rw [each_execute said, results]
      intro result member
      obtain ⟨answer, inside, rfl⟩ := List.mem_map.mp member
      rw [Result.isOk_mapError]
      exact accepted answer inside
    · rw [each_execute said]
      rw [ended] at again
      exact again.store_eq held

/-- A keyword for a name, leading zeros, letters beyond ASCII, and a statement that fails. -/
theorem replay_restores_of_keyword_name :
    let texts := ["create table Table (From int, x text)", "INSERT INTO tABLE VALUES (007, 'é')",
      "INSERT INTO tABLE VALUES (8)", "create table a (b bool);"]
    let script := ["CREATE TABLE a (b BOOL);", "CREATE TABLE Table (From INT, x TEXT);",
      "INSERT INTO Table VALUES (7, 'é');"]
    (each execute Database.empty texts).2.script? = some script ∧
      (∀ result ∈ (each execute Database.empty script).1, result.isOk = true) ∧
      (each execute Database.empty script).2.store = (each execute Database.empty texts).2.store := by
  intro texts script
  obtain ⟨_, written, found, replayed⟩ := replay_restores texts (by decide +kernel)
  let schemas : List Table := [⟨"a", [⟨"b", .bool, true, false⟩]⟩,
    ⟨"Table", [⟨"From", .int, true, false⟩, ⟨"x", .text, true, false⟩]⟩]
  have stored : Database.decodeAll Table.codec
      ((each execute Database.empty texts).2.scan .tables) = .ok schemas := by decide +kernel
  have tables : (each execute Database.empty texts).2.tables = .ok schemas := by
    rw [Database.tables, stored]
    exact congrArg Except.ok (List.mergeSort_of_pairwise (by decide +kernel))
  have same : (each execute Database.empty texts).2.script? = some script := by
    rw [Database.script?, tables]
    decide +kernel
  obtain rfl := Option.some.inj (found.symm.trans same)
  exact ⟨same, replayed⟩

end Session

end SqlStore
