import SqlStore.Proofs.Tables.Layout
import SqlStore.Proofs.Tables.Capacity

/-! # Tables do not interfere

The statements about one table, taken out of a run and run alone, end as they did in the company of
the others, and they store what lay in the store for that table. So a run is determined by what is
done to each table: however the statements about different tables are mixed, each ends in the same
way and the store holds the same bytes.
-/

namespace SqlStore

/-- The name in small letters of the table that an entry belongs to. -/
def Key.owner : Key → String
  | table name | row name _ => name

def Statement.isAbout (name : String) (statement : Statement) : Bool := statement.target == name

/-- The part of a log that is about one table. -/
def Log.about (name : String) (log : Log) : Log := log.filter fun entry => entry.1.isAbout name

theorem Contents.exists_owned_key {contents : Contents} {name : String} {entry : Entry}
    (member : entry ∈ contents.entries name) :
    ∃ key : Key, key.owner = name ∧ entry.key = key.encode := by
  rcases List.mem_cons.mp member with rfl | member
  · exact ⟨.table name, rfl, rfl⟩
  · obtain ⟨index, row, _, rfl⟩ := mem_rowEntries_iff.mp member
    exact ⟨.row name (.ofNat index), rfl, rfl⟩

namespace Catalogue

variable {whole part : Catalogue} {statement : Statement} {name : String}

/-- The one table that the part has is that of the whole. -/
def IsPart (name : String) (whole part : Catalogue) : Prop :=
  ∀ other, part.lookup other = if other = name then whole.lookup name else none

theorem IsPart.lookup_eq (parts : IsPart name whole part) :
    part.lookup name = whole.lookup name := by
  rw [parts name, if_pos rfl]

theorem IsPart.empty (name : String) : IsPart name ∅ ∅ := by
  intro other
  rw [Finmap.lookup_empty, Finmap.lookup_empty, ite_self]

/-- A statement about the table does the same to both. -/
theorem IsPart.run_own (parts : IsPart statement.target whole part) :
    (part.runBounded statement).1 = (whole.runBounded statement).1 ∧
      IsPart statement.target (whole.runBounded statement).2 (part.runBounded statement).2 := by
  obtain ⟨results, tables⟩ := runBounded_congr parts.lookup_eq
  refine ⟨results, fun other => ?_⟩
  split_ifs with own
  · rw [own]
    exact tables
  · rw [lookup_runBounded_of_ne own, parts other, if_neg own]

/-- A statement about another table does nothing to the part. -/
theorem IsPart.run_other (parts : IsPart name whole part) (different : name ≠ statement.target) :
    IsPart name (whole.runBounded statement).2 part := by
  intro other
  rw [lookup_runBounded_of_ne different]
  exact parts other

end Catalogue

open Catalogue DatabaseM

namespace Database.Represents

variable {database own : Database} {whole part : Catalogue} {name : String}

/-- What a database stores for one table is what a database of this table alone stores. -/
theorem mem_entries_part_iff (held : database.Represents whole) (heldPart : own.Represents part)
    (parts : IsPart name whole part) (entry : Entry) :
    entry ∈ own.store.entries ↔
      entry ∈ database.store.entries ∧ ∃ key : Key, key.owner = name ∧ entry.key = key.encode := by
  rw [heldPart.mem_entries_iff, held.mem_entries_iff]
  constructor
  · rintro ⟨other, contents, found, member⟩
    rw [parts other] at found
    obtain ⟨rfl, found⟩ := Option.ite_none_right_eq_some.mp found
    exact ⟨⟨other, contents, found, member⟩, Contents.exists_owned_key member⟩
  · rintro ⟨⟨other, contents, found, member⟩, key, rfl, same⟩
    obtain ⟨key', rfl, same'⟩ :=
      Contents.exists_owned_key member
    obtain rfl := Key.encode_injective (same'.symm.trans same)
    exact ⟨key'.owner, contents, parts.lookup_eq.trans found, member⟩

/-- A run and the run of its statements about one table stay in step. -/
theorem each_isAbout (held : database.Represents whole) (heldPart : own.Represents part)
    (parts : IsPart name whole part) {statements : List Statement}
    (sized : ∀ statement ∈ statements, statement.Sized) :
    (each Session.run own (statements.filter (Statement.isAbout name))).1 =
        (Log.about name (statements.zip (each Session.run database statements).1)).map Prod.snd ∧
      ∃ whole part, IsPart name whole part ∧
        (each Session.run database statements).2.Represents whole ∧
        (each Session.run own (statements.filter (Statement.isAbout name))).2.Represents part := by
  induction statements generalizing database own whole part with
  | nil => exact ⟨rfl, whole, part, parts, held, heldPart⟩
  | cons statement rest ih =>
    obtain ⟨here, later⟩ := List.forall_mem_cons.mp sized
    obtain ⟨result, after⟩ := held.runBounded here
    rw [each_cons, List.zip_cons_cons, Log.about, List.filter_cons, List.filter_cons]
    cases about : statement.isAbout name with
    | false =>
      have different : name ≠ statement.target := Ne.symm (ne_of_beq_false about)
      obtain ⟨results, ended⟩ := ih after heldPart (parts.run_other different) later
      exact ⟨results, ended⟩
    | true =>
      obtain rfl : statement.target = name := eq_of_beq about
      obtain ⟨same, parts⟩ := parts.run_own
      obtain ⟨resultPart, afterPart⟩ := heldPart.runBounded here
      obtain ⟨results, ended⟩ := ih after afterPart parts later
      rw [if_pos rfl, if_pos rfl, each_cons, results, List.map_cons, resultPart, same, result]
      exact ⟨rfl, ended⟩

end Database.Represents

theorem Log.map_fst_about (name : String) {statements : List Statement}
    {results : List (Except Error Outcome)} (length : results.length = statements.length) :
    (Log.about name (statements.zip results)).map Prod.fst =
      statements.filter (Statement.isAbout name) := by
  have firsts : (statements.zip results).map Prod.fst = statements :=
    List.map_fst_zip (Nat.le_of_eq length.symm)
  rw [about, ← firsts, List.filter_map, firsts]
  rfl

namespace Session

variable {statements : List Statement}

/-- The statements about one table may be run without the others. -/
private theorem each_isAbout_empty (sized : ∀ statement ∈ statements, statement.Sized)
    (name : String) :
    let all := each run Database.empty statements
    let own := each run Database.empty (statements.filter (Statement.isAbout name))
    own.1 = (Log.about name (statements.zip all.1)).map Prod.snd ∧
      ∀ entry, entry ∈ own.2.store.entries ↔
        entry ∈ all.2.store.entries ∧ ∃ key : Key, key.owner = name ∧ entry.key = key.encode := by
  obtain ⟨results, whole, part, parts, held, heldPart⟩ :=
    Database.Represents.empty.each_isAbout Database.Represents.empty (.empty name) sized
  exact ⟨results, held.mem_entries_part_iff heldPart parts⟩

private theorem exists_key_of_mem_each (sized : ∀ statement ∈ statements, statement.Sized)
    {entry : Entry} (member : entry ∈ (each run Database.empty statements).2.store.entries) :
    ∃ key : Key, entry.key = key.encode := by
  obtain ⟨_, _, held⟩ := Log.Tracks.nil.each Database.Represents.empty sized
  obtain ⟨name, contents, _, inside⟩ := (held.mem_entries_iff entry).mp member
  obtain ⟨key, _, same⟩ := Contents.exists_owned_key inside
  exact ⟨key, same⟩

/-- The statements about one table end alone as they end among the others, and alone they store what
is stored for that table. Therefore the order in which statements about different tables come shows
neither in what they end with nor in the store. -/
theorem tables_do_not_interfere (statements : List Statement)
    (sized : ∀ statement ∈ statements, statement.Sized) :
    (∀ name,
      let all := each run Database.empty statements
      let own := each run Database.empty (statements.filter (Statement.isAbout name))
      own.1 = (Log.about name (statements.zip all.1)).map Prod.snd ∧
        ∀ entry, entry ∈ own.2.store.entries ↔
          entry ∈ all.2.store.entries ∧ ∃ key : Key, key.owner = name ∧ entry.key = key.encode) ∧
    ∀ others : List Statement,
      (∀ name, others.filter (Statement.isAbout name) =
        statements.filter (Statement.isAbout name)) →
      (∀ name, Log.about name (others.zip (each run Database.empty others).1) =
        Log.about name (statements.zip (each run Database.empty statements).1)) ∧
      (each run Database.empty others).2.store = (each run Database.empty statements).2.store := by
  refine ⟨each_isAbout_empty sized, fun others mixed => ?_⟩
  have sizedOthers : ∀ statement ∈ others, statement.Sized := by
    intro statement member
    have own : statement ∈ others.filter (Statement.isAbout statement.target) :=
      List.mem_filter.mpr ⟨member, beq_self_eq_true statement.target⟩
    rw [mixed] at own
    exact sized statement (List.mem_filter.mp own).1
  have parts := each_isAbout_empty sized
  have partsOthers := each_isAbout_empty sizedOthers
  simp only [mixed] at partsOthers
  constructor
  · intro name
    have firsts := (Log.map_fst_about name (length_each run Database.empty others)).trans <|
      (mixed name).trans (Log.map_fst_about name (length_each run Database.empty statements)).symm
    have seconds := (partsOthers name).1.symm.trans (parts name).1
    exact (List.zip_of_prod firsts seconds).trans (List.zip_of_prod rfl rfl).symm
  · apply ByteStore.eq_of_mem_iff
    intro entry
    -- Every entry belongs to some table, and for that table both stores hold what it has alone.
    constructor
    · intro member
      obtain ⟨key, same⟩ := exists_key_of_mem_each sizedOthers member
      have alone := ((partsOthers key.owner).2 entry).mpr ⟨member, key, rfl, same⟩
      exact (((parts key.owner).2 entry).mp alone).1
    · intro member
      obtain ⟨key, same⟩ := exists_key_of_mem_each sized member
      have alone := ((parts key.owner).2 entry).mpr ⟨member, key, rfl, same⟩
      exact (((partsOthers key.owner).2 entry).mp alone).1

/-- The empty name is a name, and no beginning of a name is that name. -/
theorem tables_do_not_interfere_of_empty_name :
    let column : Column := ⟨"x", .int, true, false⟩
    let statements : List Statement := [.createTable ⟨"Ab", [column]⟩, .createTable ⟨"", [column]⟩,
      .insert "AB" [.integer 1], .insert "" [.null], .insert "ab" []]
    let others : List Statement := [.createTable ⟨"", [column]⟩, .insert "" [.null],
      .createTable ⟨"Ab", [column]⟩, .insert "AB" [.integer 1], .insert "ab" []]
    (each run Database.empty
        [.createTable ⟨"Ab", [column]⟩, .insert "AB" [.integer 1], .insert "ab" []]).1 =
      [.ok (.created "Ab"), .ok (.inserted 1), .error (.execution (.valueCount 1 0))] ∧
    (each run Database.empty others).2.store = (each run Database.empty statements).2.store := by
  intro column statements others
  obtain ⟨alone, mixed⟩ := tables_do_not_interfere statements (by decide +kernel)
  constructor
  · have own : statements.filter (Statement.isAbout "ab") =
        [.createTable ⟨"Ab", [column]⟩, .insert "AB" [.integer 1], .insert "ab" []] := by
      decide +kernel
    have results := (alone "ab").1
    rw [own] at results
    rw [results]
    decide +kernel
  · apply (mixed others _).2
    intro name
    have lowered : Text.lowercase "Ab" = "ab" ∧ Text.lowercase "AB" = "ab" ∧
        Text.lowercase "ab" = "ab" ∧ Text.lowercase "" = "" := by decide +kernel
    simp only [others, statements, List.filter_cons, List.filter_nil, Statement.isAbout,
      Statement.target, lowered]
    by_cases short : "" = name
    · subst short
      rfl
    · rw [beq_false_of_ne short]
      rfl

end Session

end SqlStore
