import SqlStore.Proofs.Storage.KeySpace
import SqlStore.Proofs.Tables.Catalogue

/-! # How tables lie in a store

A store represents a catalogue when its entries are those of the tables and no others: one for each
schema, and one for each row under its position. Lookups of schemas, scans of rows and the number of
the next row can then be read off the catalogue.
-/

namespace SqlStore

namespace Contents

def rowEntry (name : String) (index : Nat) (row : Row) : Entry :=
  ⟨(Key.row name (.ofNat index)).encode, Row.codec.encodeStored row⟩

/-- The rows of a table, under their positions. -/
def rowEntries (contents : Contents) (name : String) : List Entry :=
  contents.rows.mapIdx (rowEntry name)

/-- Everything that is stored for a table. -/
def entries (contents : Contents) (name : String) : List Entry :=
  ⟨(Key.table name).encode, Table.codec.encodeStored contents.schema⟩ :: contents.rowEntries name

/-- What holds of the tables that statements make. -/
structure WellFormed (contents : Contents) (name : String) : Prop where
  lowered : Text.lowercase contents.schema.name = name
  nameSized : Text.Sized name
  schemaSized : contents.schema.Sized
  columns : contents.schema.columns ≠ []
  widths : ∀ row ∈ contents.rows, row.length = contents.schema.columns.length
  rowsSized : ∀ row ∈ contents.rows, row.Sized
  numbered : contents.rows.length ≤ 2 ^ 64

variable {contents : Contents} {name : String}

theorem mem_rowEntries_iff {entry : Entry} :
    entry ∈ contents.rowEntries name ↔
      ∃ index, ∃ row, contents.rows[index]? = some row ∧ entry = rowEntry name index row := by
  rw [rowEntries, List.mem_mapIdx]
  constructor
  · rintro ⟨index, bound, rfl⟩
    exact ⟨index, _, List.getElem?_eq_getElem bound, rfl⟩
  · rintro ⟨index, row, found, rfl⟩
    obtain ⟨bound, rfl⟩ := List.getElem?_eq_some_iff.mp found
    exact ⟨index, bound, rfl⟩

private theorem ofNat_lt_ofNat {i j : Nat} (less : i < j) (bound : j < 2 ^ 64) :
    UInt64.ofNat i < UInt64.ofNat j := by
  rw [UInt64.lt_iff_toNat_lt, UInt64.toNat_ofNat_of_lt' bound,
    UInt64.toNat_ofNat_of_lt' (Nat.lt_trans less bound)]
  exact less

theorem ascending_rowEntries (numbered : contents.rows.length ≤ 2 ^ 64) :
    Ascending (contents.rowEntries name) := by
  rw [Ascending, List.pairwise_iff_getElem]
  intro i j boundI boundJ less
  simp only [rowEntries, List.length_mapIdx] at boundJ
  simp only [rowEntries, List.getElem_mapIdx]
  exact (Key.encode_row_lt_iff _ _ _).mpr (ofNat_lt_ofNat less (Nat.lt_of_lt_of_le boundJ numbered))

end Contents

/-- A database holds the tables of a catalogue and nothing else. -/
structure Database.Represents (database : Database) (catalogue : Catalogue) : Prop where
  wellFormed : ∀ name contents, catalogue.lookup name = some contents → contents.WellFormed name
  mem_entries_iff : ∀ entry, entry ∈ database.store.entries ↔
    ∃ name contents, catalogue.lookup name = some contents ∧ entry ∈ contents.entries name

namespace Database.Represents

open Contents

variable {database : Database} {catalogue : Catalogue} {name : String} {contents : Contents}

theorem empty : Database.empty.Represents ∅ where
  wellFormed name contents found := by simp at found
  mem_entries_iff entry := by simp [Database.empty, ByteStore.empty]

/-- The tables determine the store, byte for byte. -/
theorem store_eq {other : Database} (held : database.Represents catalogue)
    (heldOther : other.Represents catalogue) : database.store = other.store :=
  ByteStore.eq_of_mem_iff fun entry =>
    (held.mem_entries_iff entry).trans (heldOther.mem_entries_iff entry).symm

/-- Only the schema of a table lies under its name. -/
theorem get?_table (held : database.Represents catalogue) (name : String) :
    database.store.get? (Key.table name).encode =
      (catalogue.lookup name).map fun contents => Table.codec.encodeStored contents.schema := by
  cases found : catalogue.lookup name with
  | some contents =>
    exact ByteStore.get?_eq_some_iff.mpr
      ((held.mem_entries_iff _).mpr ⟨name, contents, found, List.mem_cons_self⟩)
  | none =>
    rw [Option.map_none, ByteStore.get?_eq_none_iff]
    intro entry member same
    obtain ⟨other, contents, present, member⟩ := (held.mem_entries_iff entry).mp member
    rcases List.mem_cons.mp member with rfl | member
    · obtain rfl := Key.table.inj (Key.encode_injective same)
      rw [present] at found
      contradiction
    · obtain ⟨index, row, _, rfl⟩ := mem_rowEntries_iff.mp member
      have equal : Key.row other (.ofNat index) = .table name := Key.encode_injective same
      contradiction

/-- Under its name and a number lies the row at that position. -/
theorem get?_row_eq_some_iff (held : database.Represents catalogue) {id : UInt64} {bytes : Bytes} :
    database.store.get? (Key.row name id).encode = some bytes ↔
      ∃ contents row, catalogue.lookup name = some contents ∧
        contents.rows[id.toNat]? = some row ∧ Row.codec.encodeStored row = bytes := by
  rw [ByteStore.get?_eq_some_iff, held.mem_entries_iff]
  constructor
  · rintro ⟨other, contents, found, member⟩
    rcases List.mem_cons.mp member with same | member
    · have equal : Key.row name id = .table other := Key.encode_injective (congrArg Entry.key same)
      contradiction
    · obtain ⟨index, row, inside, same⟩ := mem_rowEntries_iff.mp member
      obtain ⟨rfl, rfl⟩ := Key.row.inj (Key.encode_injective (congrArg Entry.key same))
      have bound : index < 2 ^ 64 := Nat.lt_of_lt_of_le (List.getElem?_eq_some_iff.mp inside).1
        (held.wellFormed name contents found).numbered
      refine ⟨contents, row, found, ?_, (congrArg Entry.value same).symm⟩
      rw [UInt64.toNat_ofNat_of_lt' bound]
      exact inside
  · rintro ⟨contents, row, found, inside, rfl⟩
    refine ⟨name, contents, found, List.mem_cons_of_mem _ (mem_rowEntries_iff.mpr ?_)⟩
    refine ⟨id.toNat, row, inside, ?_⟩
    rw [rowEntry, UInt64.ofNat_toNat]

/-- The keys with the beginning of a table's rows are those of its rows. -/
theorem remaining_scan_rows (held : database.Represents catalogue)
    (found : catalogue.lookup name = some contents) :
    (database.scan (.rows name)).remaining = contents.rowEntries name := by
  have formed := held.wellFormed name contents found
  have starts (key : Key) (sized : key.Sized) :
      (KeyGroup.rows name).encode <+: key.encode ↔ (KeyGroup.rows name).Holds key :=
    KeyGroup.encode_prefix_iff sized
  rw [Database.scan]
  apply Ascending.eq_of_mem_iff (ByteStore.ascending_scanBeginning _ _)
    (ascending_rowEntries formed.numbered)
  intro entry
  rw [ByteStore.mem_scanBeginning_iff, held.mem_entries_iff]
  constructor
  · rintro ⟨⟨other, others, present, member⟩, start⟩
    have otherSized := (held.wellFormed other others present).nameSized
    rcases List.mem_cons.mp member with rfl | member
    · exact ((starts (.table other) otherSized).mp start).elim
    · obtain ⟨index, row, _, rfl⟩ := mem_rowEntries_iff.mp member
      obtain rfl : name = other := (starts (.row other (.ofNat index)) otherSized).mp start
      rw [found] at present
      exact Option.some.inj present ▸ member
  · intro member
    refine ⟨⟨name, contents, found, List.mem_cons_of_mem _ member⟩, ?_⟩
    obtain ⟨index, row, _, rfl⟩ := mem_rowEntries_iff.mp member
    exact List.prefix_append _ _

end Database.Represents

end SqlStore
