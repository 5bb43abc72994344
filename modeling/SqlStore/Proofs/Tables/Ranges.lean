import SqlStore.Proofs.Tables.Survival

/-! # The range of a table

A group of keys is found by its beginning, which no other key has: neither a schema, nor a row of a
name that continues the table's or is continued by it. Nor do other bytes with this beginning read
as a key of another group, so the last key in the range of a table is that of one of its rows, or it
is none.
-/

namespace SqlStore

theorem Key.tables_encode_prefix_iff {key : Key} :
    KeyGroup.tables.encode <+: key.encode ↔ ∃ name, key = .table name := by
  cases key with
  | table name => exact iff_of_true (List.prefix_append _ _) ⟨name, rfl⟩
  | row name id =>
    refine iff_of_false (KeyGroup.not_encode_tables_prefix_row name id) ?_
    rintro ⟨_, same⟩
    cases same

namespace Database

/-- No schema stands among the rows of a table, whatever the store holds. -/
theorem nextRowId_ne_tableAmongRows (database : Database) (name schema : String) :
    database.nextRowId name ≠ .error (.storage (.tableAmongRows schema)) := by
  rcases database.nextRowId_cases name with ⟨_, first⟩ | ⟨_, _, ⟨_, _, failed⟩ | ⟨_, _, counted⟩⟩
  · rw [first]
    nofun
  · rw [failed]
    nofun
  · rw [counted]
    split <;> nofun

/-- The beginning of a group belongs to its keys and to no others, whatever the names are, and what
is read behind it is a key of the group. So the number of the next row never depends on a schema
among the rows. -/
theorem ranges_hold_their_keys :
    (∀ name other id, Text.Sized other →
      ((KeyGroup.rows name).encode <+: (Key.row other id).encode ↔ name = other)) ∧
    (∀ name schema, ¬ (KeyGroup.rows name).encode <+: (Key.table schema).encode) ∧
    (∀ key : Key, KeyGroup.tables.encode <+: key.encode ↔ ∃ name, key = .table name) ∧
    (∀ name bytes key, (KeyGroup.rows name).encode <+: bytes → Key.decode bytes = .ok key →
      ∃ id, key = .row name id) ∧
    ∀ (database : Database) (name schema : String),
      database.nextRowId name ≠ .error (.storage (.tableAmongRows schema)) := by
  refine ⟨fun name other id sized => KeyGroup.encode_prefix_iff sized,
    KeyGroup.not_encode_rows_prefix_table, fun key => Key.tables_encode_prefix_iff,
    fun name bytes key start read => ?_, nextRowId_ne_tableAmongRows⟩
  have holds := KeyGroup.holds_of_decode start read
  cases key with
  | table schema => contradiction
  | row other id => exact ⟨id, by rw [show name = other from holds]⟩

/-- One name continues the other. The last key in the range has a byte too many. -/
theorem ranges_hold_their_keys_of_continued_name :
    let broken := (Key.row "é" 7).encode ++ [0]
    let held : Database := ⟨.ofList [⟨(Key.row "é" 7).encode, []⟩, ⟨broken, []⟩]⟩
    ¬ (KeyGroup.rows "é").encode <+: (Key.row "éa" 7).encode ∧
      ¬ (KeyGroup.rows "").encode <+: (Key.row "éa" 7).encode ∧
      (∃ id, Key.row "é" 7 = .row "é" id) ∧
      held.nextRowId "é" = .error (.storage (.decode .leftover)) ∧
      held.nextRowId "é" ≠ .error (.storage (.tableAmongRows "é")) := by
  intro broken held
  obtain ⟨rows, _, _, read, counted⟩ := ranges_hold_their_keys
  have sized : Text.Sized "éa" := by decide
  refine ⟨mt (rows "é" "éa" 7 sized).mp (by decide), mt (rows "" "éa" 7 sized).mp (by decide),
    read "é" (Key.row "é" 7).encode _ (List.prefix_append _ _) (by decide +kernel),
    by decide +kernel, counted held "é" "é"⟩

end Database

end SqlStore
