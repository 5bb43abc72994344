import SqlStore.Proofs.Tables.Schemas

/-! # Making tables anew

The statements of a table create it and insert its rows in their order. Where its name is free they
all succeed, make the table and leave the others alone. Taken together in any order of the tables they
make the whole catalogue from nothing.
-/

namespace SqlStore

namespace Contents

variable {contents : Contents} {name : String}

/-- The statements that make a table. -/
def statements (contents : Contents) : List Statement :=
  .createTable contents.schema :: contents.rows.map (.insert contents.schema.name)

theorem WellFormed.sized (formed : contents.WellFormed name) :
    ∀ statement ∈ contents.statements, statement.Sized := by
  refine List.forall_mem_cons.mpr ⟨⟨formed.schemaSized, ?_⟩, fun statement member => ?_⟩
  · rw [formed.lowered]
    exact formed.nameSized
  · obtain ⟨row, inside, rfl⟩ := List.mem_map.mp member
    exact (formed.rowsSized row inside).2

end Contents

namespace Catalogue

variable {catalogue : Catalogue} {statement : Statement} {contents : Contents} {name : String}

/-- Every statement succeeds, and these are the tables after the last. -/
structure Accepts (catalogue : Catalogue) (statements : List Statement) (after : Catalogue) :
    Prop where
  isOk : ∀ answer ∈ (catalogue.runAll statements).1, answer.isOk = true
  ended : (catalogue.runAll statements).2 = after

theorem Accepts.nil : catalogue.Accepts [] catalogue := ⟨nofun, rfl⟩

theorem Accepts.cons {middle after : Catalogue} {outcome : Outcome} {rest : List Statement}
    (here : catalogue.run statement = (.ok outcome, middle)) (later : middle.Accepts rest after) :
    catalogue.Accepts (statement :: rest) after := by
  have run : catalogue.runAll (statement :: rest) =
      (.ok outcome :: (middle.runAll rest).1, (middle.runAll rest).2) := by
    rw [runAll, here]
  constructor
  · rw [run]
    exact List.forall_mem_cons.mpr ⟨rfl, later.isOk⟩
  · rw [run]
    exact later.ended

theorem Accepts.append {middle after : Catalogue} {first second : List Statement}
    (before : catalogue.Accepts first middle) (later : middle.Accepts second after) :
    catalogue.Accepts (first ++ second) after := by
  induction first generalizing catalogue with
  | nil =>
    obtain rfl : catalogue = middle := before.ended
    exact later
  | cons statement rest ih =>
    obtain ⟨here, others⟩ := List.forall_mem_cons.mp before.isOk
    obtain ⟨isOk, ended⟩ := ih ⟨others, before.ended⟩
    exact ⟨List.forall_mem_cons.mpr ⟨here, isOk⟩, ended⟩

/-- Rows of the right width are all taken, in their order. -/
theorem accepts_insertions {schema : Table} (lowered : Text.lowercase schema.name = name)
    {earlier rows : List Row} (widths : ∀ row ∈ rows, row.length = schema.columns.length) :
    Accepts (catalogue.insert name ⟨schema, earlier⟩) (rows.map (.insert schema.name))
      (catalogue.insert name ⟨schema, earlier ++ rows⟩) := by
  induction rows generalizing earlier with
  | nil =>
    rw [List.append_nil]
    exact .nil
  | cons row rows ih =>
    obtain ⟨width, others⟩ := List.forall_mem_cons.mp widths
    have taken : run (catalogue.insert name ⟨schema, earlier⟩) (.insert schema.name row) =
        (.ok (.inserted 1), catalogue.insert name ⟨schema, earlier ++ [row]⟩) := by
      rw [run, lowered, Finmap.lookup_insert]
      dsimp only
      rw [if_pos width, Finmap.insert_insert]
      rfl
    rw [List.append_cons]
    exact .cons taken (ih others)

/-- The statements of a table make it where its name is free. -/
theorem accepts_statements (formed : contents.WellFormed name) (free : name ∉ catalogue) :
    catalogue.Accepts contents.statements (catalogue.insert name contents) := by
  have made : catalogue.run (.createTable contents.schema) =
      (.ok (.created contents.schema.name), catalogue.insert name ⟨contents.schema, []⟩) := by
    rw [run, formed.lowered, if_neg formed.columns, if_neg free]
  have filled : Accepts (catalogue.insert name ⟨contents.schema, []⟩) _
      (catalogue.insert name ⟨contents.schema, [] ++ contents.rows⟩) :=
    accepts_insertions formed.lowered formed.widths
  exact .cons made filled

/-- The statements of tables with names of their own make these tables and no others. -/
theorem accepts_flatMap_statements {listed : List Contents}
    (formed : ∀ contents ∈ listed, contents.WellFormed (Text.lowercase contents.schema.name))
    (distinct : (listed.map fun contents => Text.lowercase contents.schema.name).Nodup)
    (free : ∀ contents ∈ listed, Text.lowercase contents.schema.name ∉ catalogue) :
    ∃ after, catalogue.Accepts (listed.flatMap Contents.statements) after ∧
      ∀ name contents, after.lookup name = some contents ↔
        (contents ∈ listed ∧ Text.lowercase contents.schema.name = name) ∨
          catalogue.lookup name = some contents := by
  induction listed generalizing catalogue with
  | nil => exact ⟨catalogue, .nil, fun name contents => by simp⟩
  | cons first rest ih =>
    obtain ⟨formedFirst, formedRest⟩ := List.forall_mem_cons.mp formed
    obtain ⟨freeFirst, freeRest⟩ := List.forall_mem_cons.mp free
    obtain ⟨newFirst, newRest⟩ := List.nodup_cons.mp distinct
    have others : ∀ contents ∈ rest, Text.lowercase contents.schema.name ∉
        catalogue.insert (Text.lowercase first.schema.name) first := by
      intro contents member taken
      rcases Finmap.mem_insert.mp taken with same | taken
      · exact newFirst (List.mem_map.mpr ⟨contents, member, same⟩)
      · exact freeRest contents member taken
    obtain ⟨after, accepts, tables⟩ := ih formedRest newRest others
    refine ⟨after, (accepts_statements formedFirst freeFirst).append accepts, ?_⟩
    intro name contents
    rw [tables, lookup_insert_eq_some_iff, List.mem_cons]
    constructor
    · rintro (⟨member, named⟩ | ⟨rfl, rfl⟩ | ⟨_, found⟩)
      · exact .inl ⟨.inr member, named⟩
      · exact .inl ⟨.inl rfl, rfl⟩
      · exact .inr found
    · rintro (⟨rfl | member, named⟩ | found)
      · exact .inr (.inl ⟨named.symm, rfl⟩)
      · exact .inl ⟨member, named⟩
      · refine .inr (.inr ⟨?_, found⟩)
        rintro rfl
        exact freeFirst (Finmap.mem_iff.mpr ⟨contents, found⟩)

end Catalogue

namespace Database.Represents

variable {database : Database} {catalogue : Catalogue}

/-- The statements of all tables make the catalogue anew. -/
theorem accepts_listed (held : database.Represents catalogue) :
    Catalogue.Accepts ∅ (catalogue.listed.flatMap Contents.statements) catalogue := by
  have distinct :
      (catalogue.listed.map fun contents => Text.lowercase contents.schema.name).Nodup :=
    List.pairwise_map.mpr (held.pairwise_listed.imp ne_of_lt)
  obtain ⟨after, accepts, tables⟩ := Catalogue.accepts_flatMap_statements
    (fun contents member => held.wellFormed _ _ (held.mem_listed_iff.mp member)) distinct
    fun _ _ => Finmap.notMem_empty
  have same : after = catalogue := by
    apply Finmap.ext_lookup
    intro name
    apply Option.ext
    intro contents
    rw [tables, Finmap.lookup_empty, held.mem_listed_iff]
    constructor
    · rintro (⟨found, rfl⟩ | none)
      · exact found
      · contradiction
    · intro found
      have lowered := (held.wellFormed name contents found).lowered
      exact .inl ⟨lowered ▸ found, lowered⟩
  exact same ▸ accepts

theorem sized_statements (held : database.Represents catalogue) :
    ∀ statement ∈ catalogue.listed.flatMap Contents.statements, statement.Sized :=
  List.forall_mem_flatMap.mpr fun contents listed =>
    (held.wellFormed _ contents (held.mem_listed_iff.mp listed)).sized

end Database.Represents

end SqlStore
