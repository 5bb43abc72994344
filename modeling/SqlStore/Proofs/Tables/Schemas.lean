import Mathlib.Data.Finset.Sort
import Mathlib.Data.List.Perm.Basic
import Mathlib.Data.String.Basic
import SqlStore.Proofs.Storage.KeyOrder
import SqlStore.Proofs.Tables.Refinement

/-! # The list of tables

The schemas lie in the order of their keys, shorter names first. Sorted by their names they are
those of the catalogue, each once.
-/

namespace SqlStore

namespace Contents

def schemaEntry (contents : Contents) : Entry :=
  ⟨(Key.table (Text.lowercase contents.schema.name)).encode,
    Table.codec.encodeStored contents.schema⟩

end Contents

namespace Catalogue

/-- The tables in the order of their names in small letters. -/
def listed (catalogue : Catalogue) : List Contents :=
  (catalogue.keys.sort (· ≤ ·)).filterMap catalogue.lookup

end Catalogue

namespace Database.Represents

open Contents

variable {database : Database} {catalogue : Catalogue} {name : String} {contents : Contents}

theorem mem_listed_iff (held : database.Represents catalogue) : contents ∈ catalogue.listed ↔
    catalogue.lookup (Text.lowercase contents.schema.name) = some contents := by
  rw [Catalogue.listed, List.mem_filterMap]
  constructor
  · rintro ⟨name, _, found⟩
    rw [(held.wellFormed name contents found).lowered]
    exact found
  · intro found
    refine ⟨_, ?_, found⟩
    rw [Finset.mem_sort, Finmap.mem_keys, Finmap.mem_iff]
    exact ⟨contents, found⟩

/-- Listed tables of one name are one table. -/
theorem eq_of_mem_listed (held : database.Represents catalogue) {a b : Contents}
    (memberA : a ∈ catalogue.listed) (memberB : b ∈ catalogue.listed)
    (same : Text.lowercase a.schema.name = Text.lowercase b.schema.name) : a = b := by
  have foundA := held.mem_listed_iff.mp memberA
  rw [same, held.mem_listed_iff.mp memberB] at foundA
  exact (Option.some.inj foundA).symm

theorem pairwise_listed (held : database.Represents catalogue) :
    catalogue.listed.Pairwise fun a b =>
      Text.lowercase a.schema.name < Text.lowercase b.schema.name := by
  rw [Catalogue.listed, List.pairwise_filterMap]
  refine (Finset.sortedLT_sort catalogue.keys).pairwise.imp
    fun {a b} less first foundA second foundB => ?_
  rw [(held.wellFormed a first foundA).lowered, (held.wellFormed b second foundB).lowered]
  exact less

theorem nodup_listed (held : database.Represents catalogue) : catalogue.listed.Nodup := by
  refine held.pairwise_listed.imp fun {a b} less same => ?_
  rw [same] at less
  exact String.lt_irrefl _ less

/-- The keys with the beginning of schemas are those of the schemas. -/
theorem remaining_scan_tables (held : database.Represents catalogue) :
    (database.scan .tables).remaining.Perm (catalogue.listed.map schemaEntry) := by
  have starts (key : Key) (sized : key.Sized) :
      KeyGroup.tables.encode <+: key.encode ↔ KeyGroup.tables.Holds key :=
    KeyGroup.encode_prefix_iff sized
  have distinct : (catalogue.listed.map schemaEntry).Nodup := by
    refine List.Nodup.map_on (fun a memberA b memberB same => ?_) held.nodup_listed
    have keys : Key.table (Text.lowercase a.schema.name) = .table (Text.lowercase b.schema.name) :=
      Key.encode_injective (congrArg Entry.key same)
    exact held.eq_of_mem_listed memberA memberB (Key.table.inj keys)
  have unique : (database.scan .tables).remaining.Nodup := by
    refine (database.store.ascending_scanBeginning _).imp fun {a b} less same => ?_
    exact List.lt_irrefl _ (same ▸ less)
  rw [List.perm_ext_iff_of_nodup unique distinct]
  intro entry
  rw [Database.scan, ByteStore.mem_scanBeginning_iff, held.mem_entries_iff, List.mem_map]
  constructor
  · rintro ⟨⟨name, contents, found, member⟩, start⟩
    have formed := held.wellFormed name contents found
    rcases List.mem_cons.mp member with rfl | member
    · refine ⟨contents, held.mem_listed_iff.mpr ?_, ?_⟩
      · rw [formed.lowered]
        exact found
      · rw [schemaEntry, formed.lowered]
    · obtain ⟨index, row, _, rfl⟩ := mem_rowEntries_iff.mp member
      exact ((starts (.row name (.ofNat index)) formed.nameSized).mp start).elim
  · rintro ⟨contents, member, rfl⟩
    exact ⟨⟨_, contents, held.mem_listed_iff.mp member, List.mem_cons_self⟩, List.prefix_append _ _⟩

/-- The store has every schema once, and it has them in the order of their keys. -/
theorem exists_stored (held : database.Represents catalogue) : ∃ stored : List Table,
    decodeAll Table.codec (database.scan .tables) = .ok stored ∧
      stored.Perm (catalogue.listed.map Contents.schema) ∧
      stored.Pairwise fun a b =>
        Text.ShorterFirst (Text.lowercase a.name) (Text.lowercase b.name) := by
  obtain ⟨kept, remaining, perm⟩ : ∃ kept : List Contents,
      (database.scan .tables).remaining = kept.map schemaEntry ∧ kept.Perm catalogue.listed :=
    (congrFun₂ (List.eq_map_comp_perm schemaEntry) _ _).mpr held.remaining_scan_tables
  have formed : ∀ contents ∈ kept, contents.WellFormed (Text.lowercase contents.schema.name) :=
    fun contents member =>
      held.wellFormed _ _ (held.mem_listed_iff.mp (perm.mem_iff.mp member))
  refine ⟨kept.map Contents.schema, ?_, perm.map _, ?_⟩
  · apply Result.mapM_eq_ok_of_map_eq
    rw [remaining, List.map_map, List.map_map]
    refine List.map_congr_left fun contents member => ?_
    have sized := (formed contents member).schemaSized
    exact Codec.decodeStored_encodeStored Table.codec_roundTrips sized
  · have ascending := database.store.ascending_scanBeginning KeyGroup.tables.encode
    change (database.scan .tables).remaining.Pairwise _ at ascending
    rw [remaining, List.pairwise_map] at ascending
    rw [List.pairwise_map]
    refine ascending.imp_of_mem fun {a b} memberA memberB => ?_
    exact (Key.encode_table_lt_iff (formed a memberA).nameSized (formed b memberB).nameSized).mp

/-- The names in small letters decide the order and tell the tables apart. -/
theorem mergeSort_eq_listed (held : database.Represents catalogue) {schemas : List Table}
    (perm : schemas.Perm (catalogue.listed.map Contents.schema)) :
    (schemas.mergeSort fun a b => Text.lowercase a.name ≤ Text.lowercase b.name) =
      catalogue.listed.map Contents.schema := by
  apply @List.Perm.eq_of_pairwise Table fun a b => Text.lowercase a.name ≤ Text.lowercase b.name
  · intro a b memberA memberB le ge
    obtain ⟨first, inA, rfl⟩ := List.mem_map.mp (perm.mem_iff.mp (List.mem_mergeSort.mp memberA))
    obtain ⟨second, inB, rfl⟩ := List.mem_map.mp memberB
    rw [held.eq_of_mem_listed inA inB (String.le_antisymm le ge)]
  · have ordered := @List.pairwise_mergeSort Table
      (fun a b => Text.lowercase a.name ≤ Text.lowercase b.name)
      (fun a b c first second => ?_) (fun a b => ?_) schemas
    · exact ordered.imp of_decide_eq_true
    · exact decide_eq_true (String.le_trans (of_decide_eq_true first) (of_decide_eq_true second))
    · rw [Bool.or_eq_true, decide_eq_true_eq, decide_eq_true_eq]
      exact String.le_total _ _
  · exact List.pairwise_map.mpr (held.pairwise_listed.imp le_of_lt)
  · exact (List.mergeSort_perm _ _).trans perm

/-- The list of schemas has every table once, in the order of the names in small letters. -/
theorem tables_eq (held : database.Represents catalogue) :
    database.tables = .ok (catalogue.listed.map Contents.schema) := by
  obtain ⟨stored, read, perm, _⟩ := held.exists_stored
  rw [tables, read, ← held.mergeSort_eq_listed perm]
  rfl

end Database.Represents

end SqlStore
