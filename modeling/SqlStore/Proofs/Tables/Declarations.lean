import SqlStore.Proofs.Tables.Layout
import SqlStore.Proofs.Tables.Schemas

/-! # The list of tables tells what was created

A statement that creates a table finds its name free and adds one schema, and no other statement has
a part in the schemas. So a run leaves those that it created, under different names. The store has
the shorter names first. The list is sorted by the bytes of the names in small letters, and there is
one way to do so, whatever was done in between and in whichever order the tables came.
-/

namespace SqlStore

/-- The place of a schema in the list of tables. -/
def Table.Precedes (a b : Table) : Prop :=
  Text.Utf8.encode (Text.lowercase a.name) < Text.Utf8.encode (Text.lowercase b.name)

theorem Table.precedes_iff {a b : Table} :
    a.Precedes b ↔ Text.lowercase a.name < Text.lowercase b.name :=
  Text.Utf8.encode_lt_encode_iff

/-- Sorted lists of the same schemas are one list. -/
theorem Table.eq_of_pairwise_precedes {tables others : List Table} (same : tables.Perm others)
    (sorted : tables.Pairwise Precedes) (sortedOthers : others.Pairwise Precedes) :
    tables = others := by
  refine List.Perm.eq_of_pairwise (fun a b _ _ less greater => ?_) sorted sortedOthers same
  exact absurd less (List.lt_asymm greater)

theorem Table.nodup_of_pairwise_precedes {tables : List Table} (sorted : tables.Pairwise Precedes) :
    tables.Nodup := by
  refine sorted.imp fun {a b} less same => ?_
  rw [same] at less
  exact List.lt_irrefl _ less

/-- The schema that a statement added, given what it ended with. -/
def Statement.declared? : Statement × Except Error Outcome → Option Table
  | (createTable schema, .ok _) => some schema
  | _ => none

namespace Catalogue

variable {catalogue : Catalogue} {name : String}

def schema? (catalogue : Catalogue) (name : String) : Option Table :=
  (catalogue.lookup name).map Contents.schema

theorem schema?_insert (contents : Contents) (added : String) :
    schema? (catalogue.insert added contents) name =
      if name = added then some contents.schema else catalogue.schema? name := by
  rw [schema?]
  split_ifs with same
  · rw [same, Finmap.lookup_insert]
    rfl
  · rw [Finmap.lookup_insert_of_ne _ same]
    rfl

/-- A statement adds a schema under a free name or leaves all schemas as they were. -/
theorem schema?_runBounded_cases (catalogue : Catalogue) (statement : Statement) :
    (∃ schema, Statement.declared? (statement, (catalogue.runBounded statement).1) = some schema ∧
      catalogue.schema? (Text.lowercase schema.name) = none ∧
      ∀ name, (catalogue.runBounded statement).2.schema? name =
        if name = Text.lowercase schema.name then some schema else catalogue.schema? name) ∨
    Statement.declared? (statement, (catalogue.runBounded statement).1) = none ∧
      ∀ name, (catalogue.runBounded statement).2.schema? name = catalogue.schema? name := by
  rw [runBounded]
  split_ifs with room
  · cases statement with
    | createTable schema =>
      rw [run]
      split_ifs with columns taken
      · exact .inr ⟨rfl, fun _ => rfl⟩
      · exact .inr ⟨rfl, fun _ => rfl⟩
      · refine .inl ⟨schema, rfl, ?_, fun name => schema?_insert _ _⟩
        rw [schema?, Finmap.lookup_eq_none.mpr taken]
        rfl
    | insert table values =>
      refine .inr ⟨rfl, fun name => ?_⟩
      rw [run]
      cases found : catalogue.lookup (Text.lowercase table) with
      | none => rfl
      | some contents =>
        dsimp only
        split_ifs with width
        · rw [schema?_insert]
          split_ifs with own
          · rw [own, schema?, found]
            rfl
          · rfl
        · rfl
    | select table selection =>
      refine .inr ⟨rfl, fun name => ?_⟩
      rw [run]
      cases catalogue.lookup (Text.lowercase table) <;> rfl
  · refine .inr ⟨?_, fun _ => rfl⟩
    cases statement <;> rfl

end Catalogue

theorem Database.Represents.pairwise_precedes {database : Database} {catalogue : Catalogue}
    (held : database.Represents catalogue) :
    (catalogue.listed.map Contents.schema).Pairwise Table.Precedes :=
  List.pairwise_map.mpr (held.pairwise_listed.imp Table.precedes_iff.mpr)

namespace Log

variable {log : Log} {catalogue : Catalogue} {database : Database}

/-- The schemas of the tables that were created, in the order in which they were. -/
def schemas (log : Log) : List Table := log.filterMap Statement.declared?

/-- The schemas of a catalogue are those of the tables that were created, and no two of these have
the same name in small letters. -/
structure Declares (log : Log) (catalogue : Catalogue) : Prop where
  mem_iff : ∀ schema,
    schema ∈ log.schemas ↔ catalogue.schema? (Text.lowercase schema.name) = some schema
  distinct : log.schemas.Pairwise fun a b => Text.lowercase a.name ≠ Text.lowercase b.name

theorem schemas_concat (log : Log) (entry : Statement × Except Error Outcome) :
    schemas (log ++ [entry]) = log.schemas ++ (Statement.declared? entry).toList := by
  rw [schemas, List.filterMap_append]
  cases added : Statement.declared? entry with
  | none => rw [List.filterMap_cons_none added]; rfl
  | some schema => rw [List.filterMap_cons_some added]; rfl

theorem Declares.nodup (declares : log.Declares catalogue) : log.schemas.Nodup :=
  declares.distinct.imp fun differ same => differ (by rw [same])

theorem Declares.nil : Declares [] ∅ where
  mem_iff _ := iff_of_false List.not_mem_nil nofun
  distinct := .nil

theorem Declares.runBounded (declares : log.Declares catalogue) (statement : Statement) :
    Declares (log ++ [(statement, (catalogue.runBounded statement).1)])
      (catalogue.runBounded statement).2 := by
  rcases catalogue.schema?_runBounded_cases statement with
    ⟨added, declared, free, after⟩ | ⟨declared, after⟩
  · -- Under a free name there was no schema, so the new one has its name for itself.
    have absent : ∀ schema ∈ log.schemas,
        Text.lowercase schema.name ≠ Text.lowercase added.name := by
      intro schema member same
      have found := (declares.mem_iff schema).mp member
      rw [same, free] at found
      cases found
    constructor
    · intro schema
      rw [schemas_concat, declared, Option.toList_some, List.mem_append, List.mem_singleton, after]
      split_ifs with same
      · rw [Option.some.injEq, eq_comm (a := schema)]
        exact or_iff_right fun member => absent schema member same
      · rw [declares.mem_iff]
        exact or_iff_left fun equal => same (by rw [equal])
    · rw [schemas_concat, declared, Option.toList_some, List.pairwise_append]
      refine ⟨declares.distinct, List.pairwise_singleton _ _, fun schema member other last => ?_⟩
      rw [List.mem_singleton.mp last]
      exact absent schema member
  · constructor
    · intro schema
      rw [schemas_concat, declared, Option.toList_none, List.append_nil, after]
      exact declares.mem_iff schema
    · rw [schemas_concat, declared, Option.toList_none, List.append_nil]
      exact declares.distinct

/-- A table that was created has contents, whether or not rows were added since. -/
theorem Declares.exists_contents (declares : log.Declares catalogue) {schema : Table}
    (member : schema ∈ log.schemas) : ∃ contents,
      catalogue.lookup (Text.lowercase schema.name) = some contents ∧ contents.schema = schema :=
  Option.map_eq_some_iff.mp ((declares.mem_iff schema).mp member)

/-- What is listed is what was created. -/
theorem Declares.perm_listed (declares : log.Declares catalogue)
    (held : database.Represents catalogue) :
    (catalogue.listed.map Contents.schema).Perm log.schemas := by
  have listed := Table.nodup_of_pairwise_precedes held.pairwise_precedes
  rw [List.perm_ext_iff_of_nodup listed declares.nodup]
  intro schema
  rw [declares.mem_iff, Catalogue.schema?, Option.map_eq_some_iff, List.mem_map]
  refine exists_congr fun contents => and_congr_left fun same => ?_
  rw [held.mem_listed_iff, same]

theorem Declares.each_empty {statements : List Statement}
    (sized : ∀ statement ∈ statements, statement.Sized) :
    ∃ after : Catalogue,
      Declares (statements.zip (DatabaseM.each Session.run Database.empty statements).1) after ∧
        (DatabaseM.each Session.run Database.empty statements).2.Represents after :=
  Database.Represents.holds_each (fun _ _ statement declares => declares.runBounded statement)
    Declares.nil Database.Represents.empty sized

end Log

open DatabaseM

/-- Tables with columns and different names are all created, in whichever order they come. -/
theorem Database.Represents.each_createTable {database : Database} {catalogue : Catalogue}
    (held : database.Represents catalogue) {schemas : List Table}
    (sized : ∀ schema ∈ schemas, (Statement.createTable schema).Sized)
    (columns : ∀ schema ∈ schemas, schema.columns ≠ [])
    (distinct : schemas.Pairwise fun a b => Text.lowercase a.name ≠ Text.lowercase b.name)
    (free : ∀ schema ∈ schemas, Text.lowercase schema.name ∉ catalogue) :
    (each Session.run database (schemas.map .createTable)).1 =
      schemas.map fun schema => .ok (.created schema.name) := by
  induction schemas generalizing database catalogue with
  | nil => rfl
  | cons schema rest ih =>
    obtain ⟨sizedHere, sizedRest⟩ := List.forall_mem_cons.mp sized
    obtain ⟨columnsHere, columnsRest⟩ := List.forall_mem_cons.mp columns
    obtain ⟨differ, distinctRest⟩ := List.pairwise_cons.mp distinct
    obtain ⟨freeHere, freeRest⟩ := List.forall_mem_cons.mp free
    have made := Session.run_createTable schema database
    rw [held.checkNew_eq, if_neg columnsHere, if_neg freeHere] at made
    rw [List.map_cons, each_cons, List.map_cons, made]
    refine congrArg _ (ih (held.set_table sizedHere columnsHere freeHere) sizedRest columnsRest
      distinctRest fun other member taken => ?_)
    rcases Finmap.mem_insert.mp taken with same | taken
    · exact differ other member same.symm
    · exact freeRest other member taken

theorem Log.schemas_created (schemas : List Table) :
    Log.schemas ((schemas.map Statement.createTable).zip
      (schemas.map fun schema => .ok (.created schema.name))) = schemas := by
  rw [List.zip_map', Log.schemas, List.filterMap_map]
  exact List.filterMap_some

namespace Session

variable {statements : List Statement}

/-- After any run the list of tables is what was created, sorted. -/
private theorem exists_tables (sized : ∀ statement ∈ statements, statement.Sized) :
    ∃ tables, (each run Database.empty statements).2.tables = .ok tables ∧
      tables.Perm (Log.schemas (statements.zip (each run Database.empty statements).1)) ∧
      tables.Pairwise Table.Precedes := by
  obtain ⟨catalogue, declares, held⟩ := Log.Declares.each_empty sized
  exact ⟨_, held.tables_eq, declares.perm_listed held, held.pairwise_precedes⟩

/-- Runs that created the same tables leave one list. -/
private theorem tables_congr {others : List Statement}
    (sized : ∀ statement ∈ statements, statement.Sized)
    (sizedOthers : ∀ statement ∈ others, statement.Sized)
    (same : (Log.schemas (others.zip (each run Database.empty others).1)).Perm
      (Log.schemas (statements.zip (each run Database.empty statements).1))) :
    (each run Database.empty others).2.tables = (each run Database.empty statements).2.tables := by
  obtain ⟨tables, read, perm, sorted⟩ := exists_tables sized
  obtain ⟨tablesOthers, readOthers, permOthers, sortedOthers⟩ := exists_tables sizedOthers
  rw [read, readOthers,
    Table.eq_of_pairwise_precedes ((permOthers.trans same).trans perm.symm) sortedOthers sorted]

/-- The list of tables has the schema of every table that was created, once and as it was given, and
no other. It is sorted by the bytes of the names in small letters, while the store has shorter names
first. It is the same after all runs that created the same tables, and to create these in any order
and do nothing else is such a run. -/
theorem tables_are_those_created (statements : List Statement)
    (sized : ∀ statement ∈ statements, statement.Sized) :
    let ended := each run Database.empty statements
    let created := Log.schemas (statements.zip ended.1)
    (∃ tables, ended.2.tables = .ok tables ∧ tables.Perm created ∧
      tables.Pairwise Table.Precedes) ∧
    (∃ stored, Database.decodeAll Table.codec (ended.2.scan .tables) = .ok stored ∧
      stored.Perm created ∧ stored.Pairwise fun a b =>
        Text.ShorterFirst (Text.lowercase a.name) (Text.lowercase b.name)) ∧
    (∀ others : List Statement, (∀ statement ∈ others, statement.Sized) →
      (∀ schema, schema ∈ Log.schemas (others.zip (each run Database.empty others).1) ↔
        schema ∈ created) →
      (each run Database.empty others).2.tables = ended.2.tables) ∧
    ∀ order : List Table, order.Perm created →
      (each run Database.empty (order.map .createTable)).2.tables = ended.2.tables := by
  intro ended created
  obtain ⟨catalogue, declares, held⟩ := Log.Declares.each_empty sized
  have listed := declares.perm_listed held
  refine ⟨exists_tables sized, ?_, fun others sizedOthers same => ?_, fun order same => ?_⟩
  · obtain ⟨stored, read, perm, ordered⟩ := held.exists_stored
    exact ⟨stored, read, perm.trans listed, ordered⟩
  · refine tables_congr sized sizedOthers ?_
    obtain ⟨_, declaresOthers, _⟩ := Log.Declares.each_empty sizedOthers
    exact (List.perm_ext_iff_of_nodup declaresOthers.nodup declares.nodup).mpr same
  · have made : ∀ schema ∈ order, (Statement.createTable schema).Sized ∧ schema.columns ≠ [] := by
      intro schema member
      obtain ⟨contents, found, rfl⟩ := declares.exists_contents (same.mem_iff.mp member)
      have formed := held.wellFormed _ contents found
      exact ⟨⟨formed.schemaSized, formed.nameSized⟩, formed.columns⟩
    have results := Database.Represents.empty.each_createTable (fun schema member =>
      (made schema member).1) (fun schema member => (made schema member).2)
      (same.symm.pairwise declares.distinct fun differ => differ.symm)
      fun _ _ => Finmap.notMem_empty
    refine tables_congr sized ?_ ?_
    · exact List.forall_mem_map.mpr fun schema member => (made schema member).1
    · rw [results, Log.schemas_created]
      exact same

/-- The letter order and the length order of the names differ. The rows and the two statements that
fail leave no trace. -/
theorem tables_are_those_created_of_uneven_names :
    let columns : List Column := [⟨"x", .int, true, false⟩]
    let statements : List Statement := [.createTable ⟨"b", columns⟩, .insert "B" [.integer 1],
      .createTable ⟨"Aa", columns⟩, .createTable ⟨"AA", []⟩, .createTable ⟨"B", columns⟩]
    let ended := each run Database.empty statements
    (∃ tables, ended.2.tables = .ok tables ∧ tables.Perm [⟨"b", columns⟩, ⟨"Aa", columns⟩] ∧
      tables.Pairwise Table.Precedes) ∧
    (each run Database.empty [.createTable ⟨"Aa", columns⟩, .createTable ⟨"b", columns⟩]).2.tables =
      ended.2.tables := by
  intro columns statements ended
  have created : Log.schemas (statements.zip ended.1) = [⟨"b", columns⟩, ⟨"Aa", columns⟩] := by
    decide +kernel
  obtain ⟨listed, _, _, ordered⟩ := tables_are_those_created statements (by decide +kernel)
  refine ⟨?_, ordered [⟨"Aa", columns⟩, ⟨"b", columns⟩] ?_⟩
  · rw [← created]
    exact listed
  · rw [created]
    exact .swap _ _ _

end Session

end SqlStore
