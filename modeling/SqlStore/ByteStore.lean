import SqlStore.Bytes

/-! # The store

A finite map from byte strings to byte strings that keeps its entries in ascending order of keys. A
scan delivers a stretch of them, from either end, and the entries whose keys share a beginning form
such a stretch.
-/

namespace SqlStore

structure Entry where
  key : Bytes
  value : Bytes
deriving DecidableEq, Repr

/-- Ascending keys, none of them twice. -/
abbrev Ascending (entries : List Entry) : Prop := entries.Pairwise fun a b => a.key < b.key

namespace Entry

/-- Puts an entry in its place; one with the same key gives way. -/
def insert (entry : Entry) : List Entry → List Entry
  | [] => [entry]
  | head :: rest =>
    if entry.key < head.key then entry :: head :: rest
    else if entry.key = head.key then entry :: rest
    else head :: insert entry rest

theorem mem_of_mem_insert {entry other : Entry} {entries : List Entry}
    (member : other ∈ insert entry entries) : other = entry ∨ other ∈ entries := by
  induction entries with
  | nil => simpa [insert] using member
  | cons head rest ih => grind [insert]

theorem ascending_insert (entry : Entry) {entries : List Entry} (ascending : Ascending entries) :
    Ascending (insert entry entries) := by
  induction entries with
  | nil => simp [insert]
  | cons head rest ih =>
    obtain ⟨above, ascending⟩ := List.pairwise_cons.mp ascending
    rw [insert]
    split
    · next before =>
      have tail := List.pairwise_cons.mpr ⟨above, ascending⟩
      refine List.pairwise_cons.mpr ⟨fun other member => ?_, tail⟩
      rcases List.mem_cons.mp member with rfl | later
      · exact before
      · exact List.lt_trans before (above other later)
    · split
      · next same =>
        exact List.pairwise_cons.mpr ⟨fun other later => same ▸ above other later, ascending⟩
      · next notBefore different =>
        refine List.pairwise_cons.mpr ⟨fun other member => ?_, ih ascending⟩
        rcases mem_of_mem_insert member with rfl | later
        · rcases Std.lt_trichotomy head.key other.key with less | same | greater
          · exact less
          · exact absurd same.symm different
          · exact absurd greater notBefore
        · exact above other later

end Entry

structure ByteStore where
  entries : List Entry
  ascending : Ascending entries
deriving DecidableEq, Repr

/-- Where a range of keys begins or ends. -/
inductive Bound where
  | unbounded
  | included (key : Bytes)
  | excluded (key : Bytes)
deriving DecidableEq, Repr

namespace Bound

/-- A range that begins here has begun at the key. -/
def Reached : Bound → Bytes → Prop
  | unbounded, _ => True
  | included bound, key => bound ≤ key
  | excluded bound, key => bound < key

/-- A range that ends here has ended before the key. -/
def Passed : Bound → Bytes → Prop
  | unbounded, _ => False
  | included bound, key => bound < key
  | excluded bound, key => bound ≤ key

instance : ∀ (bound : Bound) (key : Bytes), Decidable (bound.Reached key)
  | unbounded, _ => isTrue trivial
  | included bound, key => inferInstanceAs (Decidable (bound ≤ key))
  | excluded bound, key => inferInstanceAs (Decidable (bound < key))

instance : ∀ (bound : Bound) (key : Bytes), Decidable (bound.Passed key)
  | unbounded, _ => isFalse id
  | included bound, key => inferInstanceAs (Decidable (bound < key))
  | excluded bound, key => inferInstanceAs (Decidable (bound ≤ key))

end Bound

structure KeyRange where
  lower : Bound
  upper : Bound
deriving DecidableEq, Repr

/-- The keys that begin with the given bytes. -/
def KeyRange.ofBeginning (bytes : Bytes) : KeyRange where
  lower := .included bytes
  upper :=
    match Bytes.successor? bytes with
    | some above => .excluded above
    | none => .unbounded

/-- A scan under way: the entries that neither end has delivered. -/
structure Cursor where
  remaining : List Entry
deriving DecidableEq, Repr

namespace Cursor

def next (cursor : Cursor) : Option Entry × Cursor :=
  (cursor.remaining.head?, ⟨cursor.remaining.tail⟩)

def nextBack (cursor : Cursor) : Option Entry × Cursor :=
  (cursor.remaining.getLast?, ⟨cursor.remaining.dropLast⟩)

end Cursor

namespace ByteStore

def empty : ByteStore := ⟨[], .nil⟩

def set (store : ByteStore) (key value : Bytes) : ByteStore :=
  ⟨Entry.insert ⟨key, value⟩ store.entries, Entry.ascending_insert _ store.ascending⟩

def ofList (entries : List Entry) : ByteStore :=
  entries.foldl (fun store entry => store.set entry.key entry.value) empty

def get? (store : ByteStore) (key : Bytes) : Option Bytes :=
  (store.entries.find? fun entry => entry.key == key).map Entry.value

/-- Goes to where the range begins and stops where it has ended. -/
def scan (store : ByteStore) (range : KeyRange) : Cursor where
  remaining :=
    (store.entries.dropWhile fun entry => ¬ range.lower.Reached entry.key).takeWhile fun entry =>
      ¬ range.upper.Passed entry.key

/-- The entries whose keys begin with the given bytes. -/
def scanBeginning (store : ByteStore) (bytes : Bytes) : Cursor :=
  store.scan (.ofBeginning bytes)

end ByteStore

end SqlStore
