import SqlStore.Proofs.Tables.Answers

/-! # A session answers as its tables do

A statement leaves a database that represents a catalogue with one that represents what the
statement makes of the catalogue, and it ends as it does there. The one exception is a table whose
rows have used up the numbers: it takes no further row. Up to that point no run of statements can
tell the store from the tables.
-/

namespace SqlStore

/-- The lengths that a statement would store fit words of 64 bits, as those of texts and lists in
memory do. -/
def Statement.Sized : Statement → Prop
  | createTable schema => schema.Sized ∧ Text.Sized (Text.lowercase schema.name)
  | insert _ values => ∀ value ∈ values, value.Sized
  | select _ _ => True

instance : DecidablePred Statement.Sized
  | .createTable _ => instDecidableAnd
  | .insert _ values => List.decidableBAll Value.Sized values
  | .select _ _ => isTrue trivial

namespace Contents

variable {contents : Contents} {name : String} {row : Row}

theorem WellFormed.empty {schema : Table} (sized : (Statement.createTable schema).Sized)
    (columns : schema.columns ≠ []) :
    WellFormed ⟨schema, []⟩ (Text.lowercase schema.name) where
  lowered := rfl
  nameSized := sized.2
  schemaSized := sized.1
  columns := columns
  widths _ member := absurd member List.not_mem_nil
  rowsSized _ member := absurd member List.not_mem_nil
  numbered := Nat.zero_le _

theorem WellFormed.append (formed : contents.WellFormed name) (sized : ∀ value ∈ row, value.Sized)
    (width : row.length = contents.schema.columns.length) (room : contents.rows.length < 2 ^ 64) :
    (contents.append row).WellFormed name where
  lowered := formed.lowered
  nameSized := formed.nameSized
  schemaSized := formed.schemaSized
  columns := formed.columns
  widths other member := by
    rcases List.mem_append.mp member with earlier | last
    · exact formed.widths other earlier
    · rw [List.mem_singleton.mp last]
      exact width
  rowsSized other member := by
    rcases List.mem_append.mp member with earlier | last
    · exact formed.rowsSized other earlier
    · rw [List.mem_singleton.mp last]
      exact ⟨width ▸ formed.schemaSized.2.1, sized⟩
  numbered := by
    rw [Contents.append, List.length_append]
    exact room

theorem mem_entries_append_iff {entry : Entry} :
    entry ∈ (contents.append row).entries name ↔
      entry = rowEntry name contents.rows.length row ∨ entry ∈ contents.entries name := by
  have split : (contents.append row).rowEntries name =
      contents.rowEntries name ++ [rowEntry name contents.rows.length row] := List.mapIdx_concat
  rw [entries, entries, List.mem_cons, List.mem_cons, split, List.mem_append, List.mem_singleton,
    ← or_assoc, or_comm]
  rfl

end Contents

namespace Database.Represents

open Contents

variable {database : Database} {catalogue : Catalogue} {name : String} {contents : Contents}

/-- A new entry belongs to one table and leaves the others as they were. -/
theorem set (held : database.Represents catalogue) {key : Key} {value : Bytes}
    {updated : Contents} (formed : updated.WellFormed name)
    (fresh : ∀ entry ∈ database.store.entries, entry.key ≠ key.encode)
    (grown : ∀ entry, entry ∈ updated.entries name ↔ entry = ⟨key.encode, value⟩ ∨
      ∃ contents, catalogue.lookup name = some contents ∧ entry ∈ contents.entries name) :
    Represents ⟨database.store.set key.encode value⟩ (catalogue.insert name updated) where
  wellFormed other others found := by
    rcases Catalogue.lookup_insert_eq_some_iff.mp found with ⟨rfl, rfl⟩ | ⟨_, found⟩
    · exact formed
    · exact held.wellFormed other others found
  mem_entries_iff entry := by
    rw [ByteStore.mem_set_iff, and_iff_left_of_imp (fresh entry), held.mem_entries_iff]
    constructor
    · rintro (new | ⟨other, others, found, member⟩)
      · exact ⟨name, updated, Finmap.lookup_insert _, (grown entry).mpr (.inl new)⟩
      · by_cases same : other = name
        · subst same
          have inside := (grown entry).mpr (.inr ⟨_, found, member⟩)
          exact ⟨other, updated, Finmap.lookup_insert _, inside⟩
        · exact ⟨other, others, (Finmap.lookup_insert_of_ne _ same).trans found, member⟩
    · rintro ⟨other, others, found, member⟩
      rcases Catalogue.lookup_insert_eq_some_iff.mp found with ⟨rfl, rfl⟩ | ⟨_, found⟩
      · rcases (grown entry).mp member with new | ⟨_, earlier, member⟩
        · exact .inl new
        · exact .inr ⟨_, _, earlier, member⟩
      · exact .inr ⟨other, others, found, member⟩

theorem set_table (held : database.Represents catalogue) {schema : Table}
    (sized : (Statement.createTable schema).Sized) (columns : schema.columns ≠ [])
    (free : Text.lowercase schema.name ∉ catalogue) :
    Represents ⟨database.store.set (Key.table (Text.lowercase schema.name)).encode
        (Table.codec.encodeStored schema)⟩
      (catalogue.insert (Text.lowercase schema.name) ⟨schema, []⟩) := by
  have missing := Finmap.lookup_eq_none.mpr free
  have absent := held.get?_table (Text.lowercase schema.name)
  rw [missing] at absent
  refine held.set (.empty sized columns) (ByteStore.get?_eq_none_iff.mp absent) fun entry => ?_
  simp [missing, entries, rowEntries]

theorem set_row (held : database.Represents catalogue)
    (found : catalogue.lookup name = some contents) {row : Row} (sized : ∀ value ∈ row, value.Sized)
    (width : row.length = contents.schema.columns.length) (room : contents.rows.length < 2 ^ 64) :
    Represents ⟨database.store.set (Key.row name (.ofNat contents.rows.length)).encode
        (Row.codec.encodeStored row)⟩
      (catalogue.insert name (contents.append row)) := by
  have formed := held.wellFormed name contents found
  refine held.set (formed.append sized width room) ?_ fun entry => ?_
  · intro entry stored same
    obtain ⟨other, others, present, member⟩ := (held.mem_entries_iff entry).mp stored
    rcases List.mem_cons.mp member with rfl | member
    · have equal : Key.table other = .row name _ := Key.encode_injective same
      contradiction
    · obtain ⟨index, _, inside, rfl⟩ := mem_rowEntries_iff.mp member
      obtain ⟨rfl, ids⟩ := Key.row.inj (Key.encode_injective same)
      obtain rfl := Option.some.inj (found.symm.trans present)
      have below := (List.getElem?_eq_some_iff.mp inside).1
      have numbers := congrArg UInt64.toNat ids
      rw [UInt64.toNat_ofNat_of_lt' room, UInt64.toNat_ofNat_of_lt' (below.trans room)] at numbers
      exact absurd numbers below.ne
  · rw [mem_entries_append_iff]
    simp [found, rowEntry]

theorem run_insert (held : database.Represents catalogue) (name : String) (values : List Value) :
    (Session.run (.insert name values)).run database =
      match catalogue.lookup (Text.lowercase name) with
      | none => (.error (.execution (.unknownTable name)), database)
      | some contents =>
        if values.length = contents.schema.columns.length then
          if contents.rows.length < 2 ^ 64 then
            (.ok (.inserted 1), ⟨database.store.set
              (Key.row (Text.lowercase name) (.ofNat contents.rows.length)).encode
              (Row.codec.encodeStored values)⟩)
          else (.error (.storage (.rowIdsExhausted (Text.lowercase name))), database)
        else
          (.error (.execution (.valueCount contents.schema.columns.length values.length)),
            database) := by
  rw [Session.run_insert, held.table_eq]
  cases found : catalogue.lookup (Text.lowercase name) with
  | none => rfl
  | some contents =>
    dsimp only
    rw [Table.makeRow, (held.wellFormed _ contents found).lowered, held.nextRowId_eq found]
    split_ifs <;> rfl

/-- As long as rows can be numbered, a statement does to a database what it does to the tables. -/
theorem run (held : database.Represents catalogue) {statement : Statement} (sized : statement.Sized)
    (room : (catalogue.run statement).2.Numbered) :
    ((Session.run statement).run database).1 = (catalogue.run statement).1.mapError .execution ∧
      ((Session.run statement).run database).2.Represents (catalogue.run statement).2 := by
  cases statement with
  | createTable schema =>
    rw [Session.run_createTable, held.checkNew_eq, Catalogue.run]
    split_ifs with columns taken
    · exact ⟨rfl, held⟩
    · exact ⟨rfl, held⟩
    · exact ⟨rfl, held.set_table sized columns taken⟩
  | insert name values =>
    rw [held.run_insert, Catalogue.run]
    have bound := room (Text.lowercase name)
    rw [Catalogue.run] at bound
    cases found : catalogue.lookup (Text.lowercase name) with
    | none => exact ⟨rfl, held⟩
    | some contents =>
      dsimp only
      rw [found] at bound
      split_ifs with width space
      · exact ⟨rfl, held.set_row found sized width space⟩
      · dsimp only at bound
        rw [if_pos width, Catalogue.rowCount_insert, if_pos rfl, Contents.append,
          List.length_append] at bound
        exact absurd bound space
      · exact ⟨rfl, held⟩
  | select name selection =>
    rw [Session.run_select, held.select_eq, Catalogue.run]
    cases catalogue.lookup (Text.lowercase name) with
    | none => exact ⟨rfl, held⟩
    | some contents =>
      refine ⟨?_, held⟩
      dsimp only
      cases contents.select selection <;> rfl

theorem numbered (held : database.Represents catalogue) : catalogue.Numbered := by
  intro name
  rw [Catalogue.rowCount]
  cases found : catalogue.lookup name with
  | none => exact Nat.zero_le _
  | some contents => exact (held.wellFormed name contents found).numbered

/-- Where the numbers are used up the statement fails and nothing changes. -/
theorem run_of_full (held : database.Represents catalogue) {statement : Statement}
    (full : ¬ (catalogue.run statement).2.Numbered) :
    (Session.run statement).run database =
      (.error (.storage (.rowIdsExhausted statement.target)), database) := by
  obtain ⟨name, above⟩ := not_forall.mp full
  have below := held.numbered name
  rw [Catalogue.rowCount_run] at above
  cases statement with
  | createTable schema => exact absurd below above
  | select table selection => exact absurd below above
  | insert table values =>
    have one := Bool.toNat_le (Statement.insertsInto name (.insert table values) &&
      (catalogue.run (.insert table values)).1.isOk)
    have added : (Statement.insertsInto name (.insert table values) &&
        (catalogue.run (.insert table values)).1.isOk) = true := by
      by_contra unchanged
      rw [Bool.eq_false_iff.mpr unchanged] at above
      exact above below
    obtain ⟨into, accepted⟩ := (Bool.and_eq_true _ _).mp added
    obtain rfl : Text.lowercase table = name := eq_of_beq into
    rw [Catalogue.run] at accepted
    rw [held.run_insert, Statement.target]
    cases found : catalogue.lookup (Text.lowercase table) with
    | none =>
      rw [found] at accepted
      contradiction
    | some contents =>
      rw [Catalogue.rowCount_of_lookup found] at above
      rw [found] at accepted
      dsimp only at accepted ⊢
      split_ifs at accepted ⊢ with width space
      · omega
      · rfl
      · contradiction

/-- A whole run ends as it does on the tables if their rows can be numbered at its end. -/
theorem runAll (held : database.Represents catalogue) {statements : List Statement}
    (sized : ∀ statement ∈ statements, statement.Sized)
    (room : (catalogue.runAll statements).2.Numbered) :
    (DatabaseM.each Session.run database statements).1 =
        (catalogue.runAll statements).1.map (Except.mapError .execution) ∧
      (DatabaseM.each Session.run database statements).2.Represents
        (catalogue.runAll statements).2 := by
  induction statements generalizing database catalogue with
  | nil => exact ⟨rfl, held⟩
  | cons statement rest ih =>
    obtain ⟨here, later⟩ := List.forall_mem_cons.mp sized
    have before : (catalogue.run statement).2.Numbered := fun name =>
      Nat.le_trans (Catalogue.rowCount_le_runAll _ rest name) (room name)
    obtain ⟨result, held⟩ := held.run here before
    obtain ⟨results, held⟩ := ih held later room
    refine ⟨?_, held⟩
    rw [DatabaseM.each_cons, result, results]
    rfl

end Database.Represents

namespace Session

/-- From an empty database every result of a run is that of the tables. A statement of the run fails
with a message exactly if the tables that are there by then turn it down in these words. -/
theorem results_eq_runAll (statements : List Statement)
    (sized : ∀ statement ∈ statements, statement.Sized)
    (room : (Catalogue.runAll ∅ statements).2.Numbered) :
    let results := (DatabaseM.each Session.run Database.empty statements).1
    results = (Catalogue.runAll ∅ statements).1.map (Except.mapError .execution) ∧
    ∀ (i : Nat) (statement : Statement), statements[i]? = some statement → ∀ text : String,
      (∃ failure, results[i]? = some (.error failure) ∧ failure.message = text) ↔
        (Catalogue.runAll ∅ (statements.take i)).2.Refuses statement text := by
  intro results
  have same : results = (Catalogue.runAll ∅ statements).1.map (Except.mapError .execution) :=
    (Database.Represents.empty.runAll sized room).1
  refine ⟨same, fun i statement here text => ?_⟩
  have answer : results[i]? = some
      (((Catalogue.runAll ∅ (statements.take i)).2.run statement).1.mapError .execution) := by
    rw [same, List.getElem?_map, Catalogue.getElem?_runAll, here]
    rfl
  rw [Catalogue.refuses_iff, answer]
  simp only [Option.some.injEq]

/-- A table is found in any letter case, and a run goes on after a statement that fails. -/
theorem results_of_mixed_case :
    let columns : List Column := [⟨"id", .int, true, false⟩]
    let statements : List Statement := [.createTable ⟨"Item", columns⟩, .insert "ITEM" [.integer 7],
      .insert "item" [], .select "iTem" (.named ["id", "id"]), .createTable ⟨"iteM", columns⟩,
      .select "Item" (.named ["x", "id", "ID"])]
    let results := (DatabaseM.each Session.run Database.empty statements).1
    results = [.ok (.created "Item"), .ok (.inserted 1), .error (.execution (.valueCount 1 0)),
      .ok (.selected ⟨["id", "id"], [[.integer 7, .integer 7]]⟩),
      .error (.execution (.tableExists "iteM")),
      .error (.execution (.unknownColumns ["x", "ID"]))] ∧
    (∃ failure, results[2]? = some (.error failure) ∧
      failure.message = "Expected 1 values, got 0") ∧
    (∃ failure, results[4]? = some (.error failure) ∧
      failure.message = "Table 'iteM' already exists") ∧
    ∃ failure, results[5]? = some (.error failure) ∧
      failure.message = "Unknown columns in SELECT: x, ID" := by
  intro columns statements results
  obtain ⟨same, words⟩ :=
    results_eq_runAll statements (by decide +kernel) (.of_length_le (by decide))
  refine ⟨same.trans (by decide +kernel), (words 2 _ rfl _).mpr ?_, (words 4 _ rfl _).mpr ?_,
    (words 5 _ rfl _).mpr ?_⟩
  · have found : (Catalogue.runAll ∅ (statements.take 2)).2.lookup (Text.lowercase "item") =
        some ⟨⟨"Item", columns⟩, [[.integer 7]]⟩ := by decide +kernel
    have differs : ([] : List Value).length ≠ columns.length := by decide
    have refused := Catalogue.Refuses.width found differs
    have text : "Expected " ++ toString columns.length ++ " values, got " ++
        toString ([] : List Value).length = "Expected 1 values, got 0" := by decide +kernel
    rw [← text]
    exact refused
  · have text : "Table '" ++ "iteM" ++ "' already exists" = "Table 'iteM' already exists" := by
      decide +kernel
    rw [← text]
    exact .taken (List.cons_ne_nil _ _) (by decide +kernel)
  · have found : (Catalogue.runAll ∅ (statements.take 5)).2.lookup (Text.lowercase "Item") =
        some ⟨⟨"Item", columns⟩, [[.integer 7]]⟩ := by decide +kernel
    have absent : ¬ ["x", "id", "ID"] ⊆ Table.columnNames ⟨"Item", columns⟩ := by decide
    have refused := Catalogue.Refuses.columns found absent
    have text : "Unknown columns in SELECT: " ++ String.intercalate ", "
        (["x", "id", "ID"].filter fun name => name ∉ Table.columnNames ⟨"Item", columns⟩) =
          "Unknown columns in SELECT: x, ID" := by decide +kernel
    rw [← text]
    exact refused

end Session

end SqlStore
