import SqlStore.Proofs.Grammar.Extent
import SqlStore.Proofs.Lexing.Position
import SqlStore.Proofs.Tables.Capacity

/-! # Whatever is run, nothing breaks

A text can be no statement, and a statement can be refused because it does not fit the tables.
Beyond that nothing goes wrong: what lies in the store was written by the session itself, so it is
read back; rows are as wide as their tables, so columns are found in them; and as long as a table
has fewer than 2 ^ 64 rows, the next one finds its number. What a query lists has one value for each
of its columns.
-/

namespace SqlStore

/-- Every row has one value for each column. -/
def Listing.Rectangular (listing : Listing) : Prop :=
  ∀ row ∈ listing.rows, row.length = listing.columns.length

/-- In such a listing the records keep all names and all values. -/
theorem Listing.Rectangular.exists_records {listing : Listing} (rectangular : listing.Rectangular) :
    ∃ records, (Outcome.selected listing).records? = some records ∧
      records.map (List.map Prod.snd) = listing.rows ∧
      ∀ record ∈ records, record.map Prod.fst = listing.columns := by
  refine ⟨_, rfl, ?_, ?_⟩
  · have kept : ∀ row ∈ listing.rows, (listing.columns.zip row).map Prod.snd = row :=
      fun row inside => List.map_snd_zip (rectangular row inside).le
    rw [List.map_map]
    exact (List.map_congr_left kept).trans (List.map_id _)
  · intro record member
    obtain ⟨row, inside, rfl⟩ := List.mem_map.mp member
    exact List.map_fst_zip (rectangular row inside).ge

theorem Contents.WellFormed.rectangular_select {contents : Contents} {name : String}
    (formed : contents.WellFormed name) {selection : Selection} {listing : Listing}
    (selected : contents.select selection = .ok listing) : listing.Rectangular := by
  cases selection with
  | all =>
    obtain rfl := Except.ok.inj selected
    intro row member
    rw [formed.widths row member]
    exact (List.length_map _).symm
  | named names =>
    rw [Contents.select] at selected
    split at selected
    · next known =>
      obtain rfl := Except.ok.inj selected
      intro row member
      obtain ⟨stored, inside, rfl⟩ := List.mem_map.mp member
      apply List.filterMap_length_eq_length.mpr
      intro name asked
      have declared : name ∈ contents.schema.columnNames := by
        simpa using List.filter_eq_nil_iff.mp known name asked
      have bound : contents.schema.columnNames.idxOf name < stored.length := by
        rw [formed.widths stored inside, ← List.length_map Column.name]
        exact List.idxOf_lt_length_iff.mpr declared
      rw [contents.cell?_eq declared, List.getElem?_eq_getElem bound]
      rfl
    · contradiction

/-- How many rows are stored under a name in small letters. -/
def Database.rowCount (database : Database) (name : String) : Nat :=
  (database.scan (.rows name)).remaining.length

theorem Database.rowCount_le_length (database : Database) (name : String) :
    database.rowCount name ≤ database.store.entries.length := by
  rw [rowCount, scan, ByteStore.remaining_scanBeginning]
  exact List.length_filter_le _ _

theorem Database.Represents.rowCount_le {database : Database} {catalogue : Catalogue}
    (held : database.Represents catalogue) (name : String) :
    catalogue.rowCount name ≤ database.rowCount name := by
  cases found : catalogue.lookup name with
  | none =>
    rw [Catalogue.rowCount, found]
    exact Nat.zero_le _
  | some contents =>
    rw [Catalogue.rowCount_of_lookup found, Database.rowCount, held.remaining_scan_rows found,
      Contents.rowEntries, List.length_mapIdx]

namespace Session

/-- What a session is asked to do: to read a text and run it, or to run a statement. -/
inductive Command where
  | written (text : String)
  | parsed (statement : Statement)
deriving DecidableEq, Repr

namespace Command

def perform : Command → DatabaseM Outcome
  | written text => execute text
  | parsed statement => run statement

/-- Texts and lists are no longer than memory can hold. -/
def Sized : Command → Prop
  | written text => Text.Sized text
  | parsed statement => statement.Sized

instance : DecidablePred Sized
  | .written text => inferInstanceAs (Decidable (Text.Sized text))
  | .parsed statement => inferInstanceAs (Decidable statement.Sized)

/-- The statement that is run in the end. -/
def statement? : Command → Except SyntaxError Statement
  | written text => Statement.ofText text
  | parsed statement => .ok statement

variable {command : Command}

theorem run_perform (command : Command) (database : Database) :
    command.perform.run database =
      match command.statement? with
      | .ok statement => (run statement).run database
      | .error cause => (.error (.parse cause), database) := by
  cases command with
  | parsed statement => rfl
  | written text =>
    rw [perform, execute, DatabaseM.run_bind, DatabaseM.run_ask, statement?]
    cases Statement.ofText text <;> rfl

theorem Sized.statement {statement : Statement} (sized : command.Sized)
    (read : command.statement? = .ok statement) : statement.Sized := by
  cases command with
  | parsed given => exact Except.ok.inj read ▸ sized
  | written text => exact Statement.sized_of_ofText read sized

end Command

/-- Nothing was wrong with the store, and what is listed has a value for each column. -/
structure Sound (result : Except Error Outcome) : Prop where
  stored : ∀ cause, result ≠ .error (.storage cause)
  rectangular : ∀ listing, result = .ok (.selected listing) → listing.Rectangular

end Session

namespace Catalogue

open Session

variable {catalogue : Catalogue}

/-- What a command answers, and the tables after it. -/
def perform (catalogue : Catalogue) (command : Command) : Except Error Outcome × Catalogue :=
  match command.statement? with
  | .ok statement => catalogue.runBounded statement
  | .error cause => (.error (.parse cause), catalogue)

theorem rowCount_le_perform (catalogue : Catalogue) (command : Command) (name : String) :
    catalogue.rowCount name ≤ (catalogue.perform command).2.rowCount name := by
  rw [perform]
  cases command.statement? with
  | error cause => exact Nat.le_refl _
  | ok statement =>
    dsimp only
    rw [runBounded]
    split_ifs with room
    · exact Nat.le.intro (rowCount_run catalogue statement name).symm
    · exact Nat.le_refl _

/-- Only a query lists rows, and it does so of a table that is there. -/
theorem exists_of_run_eq_selected {statement : Statement} {listing : Listing}
    (listed : (catalogue.run statement).1 = .ok (.selected listing)) :
    ∃ name contents selection, catalogue.lookup name = some contents ∧
      contents.select selection = .ok listing := by
  cases statement with
  | createTable schema =>
    rw [run] at listed
    split_ifs at listed
    cases listed
  | insert table values =>
    rw [run] at listed
    split at listed
    · cases listed
    · split_ifs at listed
      cases listed
  | select table selection =>
    rw [run] at listed
    split at listed
    · cases listed
    · next contents found =>
      obtain ⟨_, selected, same⟩ := Result.map_eq_ok_iff.mp listed
      cases same
      exact ⟨_, contents, selection, found, selected⟩

/-- A table that ends with fewer than 2 ^ 64 rows had a number for every row that was offered. -/
theorem runBounded_of_room {statement : Statement}
    (room : (catalogue.runBounded statement).2.rowCount statement.target < 2 ^ 64) :
    (catalogue.runBounded statement).1 = (catalogue.run statement).1.mapError .execution := by
  rw [runBounded] at room ⊢
  split_ifs at room ⊢ with fits
  · rfl
  · have count := rowCount_run catalogue statement statement.target
    have added := Bool.toNat_le
      (statement.insertsInto statement.target && (catalogue.run statement).1.isOk)
    dsimp only at room
    omega

/-- On tables of well-formed rows a command is refused as no statement or as the tables demand. -/
theorem sound_perform (formed : ∀ name contents, catalogue.lookup name = some contents →
      contents.WellFormed name) {command : Command}
    (room : ∀ name, (catalogue.perform command).2.rowCount name < 2 ^ 64) :
    Sound (catalogue.perform command).1 := by
  rw [perform] at room ⊢
  cases read : command.statement? with
  | error cause => exact ⟨nofun, nofun⟩
  | ok statement =>
    rw [read] at room
    dsimp only
    rw [runBounded_of_room (room statement.target)]
    cases ended : (catalogue.run statement).1 with
    | error cause => exact ⟨nofun, nofun⟩
    | ok outcome =>
      refine ⟨nofun, fun listing same => ?_⟩
      cases same
      obtain ⟨name, contents, selection, found, selected⟩ := exists_of_run_eq_selected ended
      exact (formed name contents found).rectangular_select selected

end Catalogue

namespace Database.Represents

open Session

variable {database : Database} {catalogue : Catalogue}

theorem perform (held : database.Represents catalogue) {command : Command}
    (sized : command.Sized) :
    (command.perform.run database).1 = (catalogue.perform command).1 ∧
      (command.perform.run database).2.Represents (catalogue.perform command).2 := by
  rw [Command.run_perform, Catalogue.perform]
  cases read : command.statement? with
  | error cause => exact ⟨rfl, held⟩
  | ok statement => exact held.runBounded (sized.statement read)

/-- Tables come and grow while commands are run, and none of them shrinks. -/
theorem exists_each (held : database.Represents catalogue) {commands : List Command}
    (sized : ∀ command ∈ commands, command.Sized) :
    ∃ later, (DatabaseM.each Command.perform database commands).2.Represents later ∧
      ∀ name, catalogue.rowCount name ≤ later.rowCount name := by
  induction commands generalizing database catalogue with
  | nil => exact ⟨catalogue, held, fun _ => Nat.le_refl _⟩
  | cons command rest ih =>
    obtain ⟨here, others⟩ := List.forall_mem_cons.mp sized
    obtain ⟨later, heldLater, grown⟩ := ih (held.perform here).2 others
    exact ⟨later, heldLater, fun name =>
      (catalogue.rowCount_le_perform command name).trans (grown name)⟩

/-- Rows are counted at the end, since no table had more of them before. -/
theorem sound_each (held : database.Represents catalogue) {commands : List Command}
    (sized : ∀ command ∈ commands, command.Sized)
    (room : ∀ name, (DatabaseM.each Command.perform database commands).2.rowCount name < 2 ^ 64) :
    ∀ result ∈ (DatabaseM.each Command.perform database commands).1, Sound result := by
  induction commands generalizing database catalogue with
  | nil => exact fun _ member => absurd member List.not_mem_nil
  | cons command rest ih =>
    obtain ⟨here, others⟩ := List.forall_mem_cons.mp sized
    obtain ⟨result, heldNext⟩ := held.perform here
    obtain ⟨later, heldLater, grown⟩ := heldNext.exists_each others
    rw [DatabaseM.each_cons] at room ⊢
    refine List.forall_mem_cons.mpr ⟨?_, ih heldNext others room⟩
    rw [result]
    refine Catalogue.sound_perform held.wellFormed fun name => ?_
    exact ((grown name).trans (heldLater.rowCount_le name)).trans_lt (room name)

end Database.Represents

namespace Session

/-- Commands that leave fewer than 2 ^ 64 rows in each table meet no fault of the store, and what
they list has all its names and values. No cut of a text falls into a character, and no byte
overflows where a scan by a beginning ends. -/
theorem nothing_breaks (commands : List Command) (sized : ∀ command ∈ commands, command.Sized)
    (room : ∀ name,
      (DatabaseM.each Command.perform Database.empty commands).2.rowCount name < 2 ^ 64) :
    (∀ result ∈ (DatabaseM.each Command.perform Database.empty commands).1,
      (∀ cause, result ≠ .error (.storage cause)) ∧
      ∀ listing, result = .ok (.selected listing) → listing.Rectangular ∧
        ∃ records, (Outcome.selected listing).records? = some records ∧
          records.map (List.map Prod.snd) = listing.rows ∧
          ∀ record ∈ records, record.map Prod.fst = listing.columns) ∧
    (∀ text calls, ((Lexer.ofText text).after calls).skipBlanks.CutsCleanly text) ∧
    ∀ beginning above, Bytes.successor? beginning = some above →
      ∃ front last tail, beginning = front ++ last :: tail ∧ (∀ byte ∈ tail, byte = 0xFF) ∧
        (last + 1).toNat = last.toNat + 1 ∧ above = front ++ [last + 1] := by
  refine ⟨fun result member => ?_, fun text calls => ?_, fun beginning above found => ?_⟩
  · have sound := Database.Represents.empty.sound_each sized room result member
    refine ⟨sound.stored, fun listing same => ?_⟩
    have rectangular := sound.rectangular listing same
    exact ⟨rectangular, rectangular.exists_records⟩
  · exact ((Lexer.within_ofText text).after calls).skipBlanks.cutsCleanly
  · exact Bytes.exists_of_successor?_eq_some found

/-- Texts and statements in turn, some of which fail. -/
theorem nothing_breaks_in_mixed_run :
    let commands : List Command :=
      [.written "CREATE TABLE Ünit (a INT", .written "CREATE TABLE t (a INT, b TEXT, a BOOL)",
        .parsed (.insert "T" [.null, .text "é", .boolean true]),
        .written "INSERT INTO t VALUES (1, 'ß', 3);", .parsed (.insert "t" []),
        .parsed (.select "t" (.named ["a", "b", "a"]))]
    ∀ result ∈ (DatabaseM.each Command.perform Database.empty commands).1,
      ∀ cause, result ≠ .error (.storage cause) := by
  intro commands result member
  refine ((nothing_breaks commands (by decide +kernel) fun name => ?_).1 result member).1
  refine (Database.rowCount_le_length _ name).trans_lt ?_
  decide +kernel

end Session

end SqlStore
