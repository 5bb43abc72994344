import SqlStore.Proofs.Codec.Keys
import SqlStore.Proofs.Tables.Runs

/-! # What is stored comes back

A stored schema is found again as it was given, and a stored row comes last in the next scan of its
table. Nothing is assumed of the store: other entries may be missing, broken or out of place.
The number of a new row is above that of the last key in the table's range, and a key that is read
as a row of the table is the one written for it, so the new row lies behind all others.
-/

namespace SqlStore

namespace Codec

variable {α : Type} {codec : Codec α} {fits : α → Prop}

/-- Stored values and the bytes that begin with one belong to each other. A value fits if eight
bytes count the bytes of its texts and the items of its lists. -/
structure ValuesExact (codec : Codec α) (fits : α → Prop) : Prop where
  decodeStored_iff : ∀ bytes value,
    codec.decodeStored bytes = .ok value ↔ fits value ∧ codec.encodeStored value <+: bytes
  /-- No value is written as the beginning of another. -/
  apart : ∀ a b, fits a → fits b → a ≠ b → ¬ codec.encodeStored a <+: codec.encodeStored b
  /-- Bytes that are cut short are a fault of the store and no shorter value. -/
  truncated : ∀ value bytes, fits value → bytes <+: codec.encodeStored value →
    bytes ≠ codec.encodeStored value →
      ∃ cause, (liftM (codec.decodeStored bytes) : Except Error α) =
        .error (.storage (.decode cause))

theorem Exact.valuesExact (exact : codec.Exact fits) : codec.ValuesExact fits where
  decodeStored_iff bytes value := exact.decodeStored_eq_ok_iff
  apart a b ha hb different start := different (exact.eq_of_prefix ha hb start)
  truncated value bytes fitting start cut := by
    obtain ⟨cause, failed⟩ := Result.exists_eq_error fun other read => by
      obtain ⟨fittingOther, inside⟩ := exact.decodeStored_eq_ok_iff.mp read
      obtain rfl := exact.eq_of_prefix fittingOther fitting (inside.trans start)
      exact cut (start.eq_of_length (Nat.le_antisymm start.length_le inside.length_le))
    exact ⟨cause, by rw [failed]; rfl⟩

end Codec

theorem Row.codec_exact : Row.codec.Exact Row.Sized := ⟨codec_roundTrips, codec_canonical⟩

theorem Table.codec_exact : Table.codec.Exact Table.Sized := ⟨codec_roundTrips, codec_canonical⟩

namespace Database

open DatabaseM

variable {database after : Database} {name : String} {id : UInt64}

private theorem lt_add_one_of_ne_zero (room : id + 1 ≠ 0) : id < id + 1 := by
  have bound := id.toNat_lt
  rw [← UInt64.toNat_inj.ne, UInt64.toNat_add] at room
  rw [UInt64.lt_iff_toNat_lt, UInt64.toNat_add]
  change (id.toNat + 1) % 2 ^ 64 ≠ 0 at room
  change id.toNat < (id.toNat + 1) % 2 ^ 64
  omega

theorem mem_scan_iff {group : KeyGroup} {entry : Entry} :
    entry ∈ (database.scan group).remaining ↔
      entry ∈ database.store.entries ∧ group.encode <+: entry.key :=
  ByteStore.mem_scanBeginning_iff

theorem ascending_scan (database : Database) (group : KeyGroup) :
    Ascending (database.scan group).remaining :=
  database.store.ascending_scanBeginning group.encode

/-- The first row has the number zero. The next ones are counted from the last key in the range, if
it can be read; then it is the key of a row of the table. -/
theorem nextRowId_cases (database : Database) (name : String) :
    (database.scan (.rows name)).remaining = [] ∧ database.nextRowId name = .ok 0 ∨
    ∃ last ∈ (database.scan (.rows name)).remaining.getLast?,
      (∃ cause, Key.decode last.key = .error cause ∧
        database.nextRowId name = .error (.storage (.decode cause))) ∨
      ∃ id, last.key = (Key.row name id).encode ∧
        database.nextRowId name =
          if id + 1 = 0 then .error (.storage (.rowIdsExhausted name)) else .ok (id + 1) := by
  rw [nextRowId, Cursor.nextBack]
  cases final : (database.scan (.rows name)).remaining.getLast? with
  | none => exact .inl ⟨List.getLast?_eq_none_iff.mp final, rfl⟩
  | some last =>
    refine .inr ⟨last, rfl, ?_⟩
    have start := (mem_scan_iff.mp (List.mem_of_getLast? final)).2
    cases decoded : Key.decode last.key with
    | error cause => exact .inl ⟨cause, rfl, by simp only [decoded]; rfl⟩
    | ok key =>
      have holds := KeyGroup.holds_of_decode start decoded
      have written := (Key.codec_exact.decodeKey_eq_ok_iff.mp decoded).2
      cases key with
      | table other => contradiction
      | row other id =>
        obtain rfl : name = other := holds
        exact .inr ⟨id, written.symm, by simp only [decoded]; rfl⟩

/-- A row is given a number only behind a key that is read as a row of the table. -/
theorem last_lt_of_nextRowId (next : database.nextRowId name = .ok id) {last : Entry}
    (final : last ∈ (database.scan (.rows name)).remaining.getLast?) :
    last.key < (Key.row name id).encode := by
  rcases database.nextRowId_cases name with ⟨none, _⟩ | ⟨other, found, ⟨_, _, failed⟩ | counted⟩
  · rw [none] at final
    cases final
  · rw [next] at failed
    cases failed
  · obtain ⟨latest, same, chosen⟩ := counted
    obtain rfl := Option.mem_unique found final
    rw [next] at chosen
    split at chosen
    · cases chosen
    · next room =>
      obtain rfl := Except.ok.inj chosen
      rw [same, Key.encode_row_lt_iff]
      exact lt_add_one_of_ne_zero room

/-- The number of a new row is above those of all keys in the range of its table, whatever these
are. -/
theorem key_lt_of_nextRowId (next : database.nextRowId name = .ok id)
    {entry : Entry} (member : entry ∈ (database.scan (.rows name)).remaining) :
    entry.key < (Key.row name id).encode := by
  obtain ⟨last, final⟩ := Option.ne_none_iff_exists'.mp
    (mt List.getLast?_eq_none_iff.mp (List.ne_nil_of_mem member))
  obtain ⟨before, split⟩ := List.getLast?_eq_some_iff.mp final
  have last_lt := last_lt_of_nextRowId next final
  have ascending := ascending_scan database (.rows name)
  rw [split] at member ascending
  rcases List.mem_append.mp member with earlier | same
  · have less := (List.pairwise_append.mp ascending).2.2 entry earlier last List.mem_cons_self
    exact List.lt_trans less last_lt
  · rw [List.mem_singleton.mp same]
    exact last_lt

/-- A scan of the table's rows delivers a new row behind the others. -/
theorem remaining_scan_set_row (next : database.nextRowId name = .ok id) (value : Bytes) :
    (scan ⟨database.store.set (Key.row name id).encode value⟩ (.rows name)).remaining =
      (database.scan (.rows name)).remaining ++ [⟨(Key.row name id).encode, value⟩] := by
  have below (entry : Entry) (member : entry ∈ (database.scan (.rows name)).remaining) :
      entry.key < (Key.row name id).encode := key_lt_of_nextRowId next member
  apply Ascending.eq_of_mem_iff (ascending_scan _ _)
  · refine List.pairwise_append.mpr ⟨ascending_scan _ _, List.pairwise_singleton _ _, ?_⟩
    intro entry member other final
    rw [List.mem_singleton.mp final]
    exact below entry member
  · intro entry
    rw [mem_scan_iff, ByteStore.mem_set_iff, List.mem_append, List.mem_singleton, mem_scan_iff]
    constructor
    · rintro ⟨rfl | ⟨stored, _⟩, start⟩
      · exact .inr rfl
      · exact .inl ⟨stored, start⟩
    · rintro (⟨stored, start⟩ | rfl)
      · have less := below entry (mem_scan_iff.mpr ⟨stored, start⟩)
        exact ⟨.inr ⟨stored, fun same => List.lt_irrefl _ (same ▸ less)⟩, start⟩
      · exact ⟨.inl rfl, List.prefix_append _ _⟩

/-- The rows of a table after a new one, if the others can be read. -/
theorem rows_of_appendRow {schema : Table} {row : Row}
    (sized : row.Sized) (done : (appendRow schema row).run database = (.ok (), after)) :
    after.rows schema = (· ++ [row]) <$> database.rows schema := by
  obtain ⟨id, next, rfl⟩ := exists_eq_set_of_appendRow done
  have read : Row.codec.decodeStored (Row.codec.encodeStored row) = .ok row :=
    Codec.decodeStored_encodeStored Row.codec_roundTrips sized
  rw [rows, rows, decodeAll, decodeAll, remaining_scan_set_row next, List.mapM_append,
    List.mapM_cons, List.mapM_nil, read]
  cases (database.scan (.rows (Text.lowercase schema.name))).remaining.mapM
    fun entry => Row.codec.decodeStored entry.value <;> rfl

/-- A new schema is found under its name in any letter case. -/
theorem table?_of_createTable {schema : Table} (sized : schema.Sized)
    (done : (createTable schema).run database = (.ok (), after))
    (same : Text.lowercase name = Text.lowercase schema.name) :
    after.table? name = .ok (some schema) := by
  obtain ⟨-, rfl⟩ := eq_set_of_createTable done
  have read : Table.codec.decodeStored (Table.codec.encodeStored schema) = .ok schema :=
    Codec.decodeStored_encodeStored Table.codec_roundTrips sized
  rw [table?, same, ByteStore.get?_set]
  simp only [read]
  rfl

/-- Stored bytes are read as a value exactly where they begin with it, and so what a change stores
is what the next query finds, on any store: a schema in its own spelling, a row behind the
others. -/
theorem stored_values_survive :
    Table.codec.ValuesExact Table.Sized ∧
    Row.codec.ValuesExact Row.Sized ∧
    (∀ (database after : Database) (schema : Table), schema.Sized →
      (createTable schema).run database = (.ok (), after) →
        ∀ name, Text.lowercase name = Text.lowercase schema.name →
          after.table? name = .ok (some schema)) ∧
    ∀ (database after : Database) (schema : Table) (row : Row), row.Sized →
      (appendRow schema row).run database = (.ok (), after) →
        after.rows schema = (· ++ [row]) <$> database.rows schema :=
  ⟨Table.codec_exact.valuesExact, Row.codec_exact.valuesExact,
    fun _ _ _ sized done _ same => table?_of_createTable sized done same,
    fun _ _ _ _ sized done => rows_of_appendRow sized done⟩

/-- The number of a row that is there already leaves a gap, another schema cannot be read, and the
last byte of a row is lost. -/
theorem stored_values_survive_behind_gap :
    let schema : Table := ⟨"Ab", [⟨"x", .text, true, false⟩]⟩
    let row : Row := [.text "é"]
    let held : Database := ⟨.ofList [⟨(Key.row "ab" 4).encode, Row.codec.encodeStored [.null]⟩,
      ⟨(Key.table "c").encode, [0xFF]⟩]⟩
    let created := ((createTable schema).run held).2
    let filled := ((appendRow schema row).run created).2
    created.table? "aB" = .ok (some schema) ∧ filled.rows schema = .ok [[.null], row] ∧
      ∃ cause, (liftM (Row.codec.decodeStored (Row.codec.encodeStored row).dropLast) :
        Except Error Row) = .error (.storage (.decode cause)) := by
  intro schema row held created filled
  obtain ⟨_, rows, create, append⟩ := stored_values_survive
  have sized : row.Sized := ⟨by decide, by decide +kernel⟩
  have lowered : Text.lowercase "aB" = Text.lowercase schema.name := by decide +kernel
  refine ⟨?_, ?_, ?_⟩
  · exact create held created schema (by decide +kernel) (Prod.ext (by decide +kernel) rfl) "aB"
      lowered
  · rw [append created filled schema row sized (Prod.ext (by decide +kernel) rfl)]
    decide +kernel
  · exact rows.truncated row _ sized (List.dropLast_prefix _) (by decide +kernel)

end Database

end SqlStore
