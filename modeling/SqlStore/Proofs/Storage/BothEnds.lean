import Mathlib.Data.List.Induction
import SqlStore.Proofs.Storage.Scan

/-! # Scans from both ends

A scan is taken from either end, one call at a time and in any mix. A call that delivers an entry
takes it off its end, so what the two ends have delivered and what neither has are the entries of
the range, in their order: the ends meet without a gap and without an overlap. A call that delivers
nothing finds nothing left, and the calls after it find no more.
-/

namespace SqlStore

/-- The keys between the bounds of a range. -/
def KeyRange.Contains (range : KeyRange) (key : Bytes) : Prop :=
  (match range.lower with
    | .unbounded => True
    | .included low => low ≤ key
    | .excluded low => low < key) ∧
  match range.upper with
    | .unbounded => True
    | .included high => key ≤ high
    | .excluded high => key < high

theorem KeyRange.contains_iff {range : KeyRange} {key : Bytes} :
    range.Contains key ↔ range.lower.Reached key ∧ ¬ range.upper.Passed key := by
  obtain ⟨lower, upper⟩ := range
  refine and_congr ?_ ?_
  · cases lower <;> rfl
  · cases upper with
    | unbounded => exact not_false_iff.symm
    | included high => exact List.not_lt.symm
    | excluded high => exact List.not_le.symm

namespace ByteStore

variable {store : ByteStore} {key value : Bytes}

theorem get?_set_of_ne {other : Bytes} (different : other ≠ key) :
    (store.set key value).get? other = store.get? other := by
  apply Option.ext
  intro found
  rw [get?_eq_some_iff, get?_eq_some_iff, mem_set_iff]
  constructor
  · rintro (same | ⟨stored, _⟩)
    · exact absurd (congrArg Entry.key same) different
    · exact stored
  · exact fun stored => .inr ⟨stored, different⟩

/-- The value that was written last under a key. -/
def lastWritten? (writes : List Entry) (key : Bytes) : Option Bytes :=
  (writes.findRev? fun entry => entry.key == key).map Entry.value

theorem get?_ofList (writes : List Entry) (key : Bytes) :
    (ofList writes).get? key = lastWritten? writes key := by
  rw [lastWritten?, List.findRev?_eq_find?_reverse]
  induction writes using List.reverseRecOn with
  | nil => rfl
  | append_singleton earlier last ih =>
    rw [ofList, List.foldl_concat, List.reverse_concat]
    change ((ofList earlier).set last.key last.value).get? key = _
    by_cases same : last.key = key
    · rw [List.find?_cons_of_pos (by simpa using same), ← same, get?_set]
      rfl
    · rw [List.find?_cons_of_neg (by simpa using same), get?_set_of_ne (Ne.symm same), ih]

/-- The entries of a range after some writes, each key once and in ascending order. -/
structure Lists (writes : List Entry) (range : KeyRange) (entries : List Entry) : Prop where
  ascending : Ascending entries
  mem_iff : ∀ key value, ⟨key, value⟩ ∈ entries ↔
    range.Contains key ∧ lastWritten? writes key = some value

theorem lists_remaining_scan (writes : List Entry) (range : KeyRange) :
    Lists writes range ((ofList writes).scan range).remaining where
  ascending := by
    rw [remaining_scan]
    exact (ofList writes).ascending.filter _
  mem_iff key value := by
    rw [remaining_scan, List.mem_filter, decide_eq_true_iff, KeyRange.contains_iff, ← get?_ofList,
      get?_eq_some_iff, and_comm]

end ByteStore

/-- An end of a scan. -/
inductive Side where
  | front
  | back
deriving DecidableEq, Repr

/-- Entries in the order in which this end delivers them. -/
def Side.arrange : Side → List Entry → List Entry
  | front, entries => entries
  | back, entries => entries.reverse

namespace Cursor

/-- A call at one end. -/
def pull (cursor : Cursor) : Side → Option Entry × Cursor
  | .front => cursor.next
  | .back => cursor.nextBack

/-- What a call at one end takes off each of them. -/
def taken (cursor : Cursor) (called side : Side) : List Entry :=
  if called = side then (cursor.pull called).1.toList else []

/-- The scan that some calls leave. -/
def after (cursor : Cursor) (calls : List Side) : Cursor :=
  calls.foldl (fun cursor side => (cursor.pull side).2) cursor

/-- What one end delivers while both are called. -/
def delivered (cursor : Cursor) (side : Side) : List Side → List Entry
  | [] => []
  | called :: rest => cursor.taken called side ++ (cursor.pull called).2.delivered side rest

variable {cursor : Cursor} {side : Side}

theorem pull_eq_none_iff : (cursor.pull side).1 = none ↔ cursor.remaining = [] := by
  cases side with
  | front => exact List.head?_eq_none_iff
  | back => exact List.getLast?_eq_none_iff

/-- One call splits what is left into what it takes off an end and what it leaves. -/
theorem taken_append_remaining_pull (cursor : Cursor) (side : Side) :
    cursor.taken side .front ++ (cursor.pull side).2.remaining ++
      (cursor.taken side .back).reverse = cursor.remaining := by
  obtain ⟨remaining⟩ := cursor
  cases side with
  | front =>
    change remaining.head?.toList ++ remaining.tail ++ [] = remaining
    cases remaining <;> simp
  | back =>
    change [] ++ remaining.dropLast ++ remaining.getLast?.toList.reverse = remaining
    cases final : remaining.getLast? with
    | none => rw [List.getLast?_eq_none_iff.mp final]; rfl
    | some last => exact List.dropLast_append_getLast? last final

/-- What both ends have delivered encloses what is left. -/
theorem delivered_append_remaining (cursor : Cursor) (calls : List Side) :
    cursor.delivered .front calls ++ (cursor.after calls).remaining ++
      (cursor.delivered .back calls).reverse = cursor.remaining := by
  induction calls generalizing cursor with
  | nil => simp [delivered, after]
  | cons called rest ih =>
    have first := taken_append_remaining_pull cursor called
    rw [← ih (cursor.pull called).2] at first
    simpa only [delivered, after, List.foldl_cons, List.reverse_append, List.append_assoc]
      using first

theorem length_remaining_pull_lt {entry : Entry} {later : Cursor}
    (pulled : cursor.pull side = (some entry, later)) :
    later.remaining.length < cursor.remaining.length := by
  have split := congrArg List.length (taken_append_remaining_pull cursor side)
  cases side <;> simp [taken, pulled] at split <;> omega

/-- What calls at one end deliver until one of them delivers nothing. -/
def drain (cursor : Cursor) (side : Side) : List Entry :=
  match pulled : cursor.pull side with
  | (none, _) => []
  | (some entry, later) =>
    have : later.remaining.length < cursor.remaining.length := length_remaining_pull_lt pulled
    entry :: later.drain side
termination_by cursor.remaining.length

theorem drain_eq (cursor : Cursor) (side : Side) :
    cursor.drain side = side.arrange cursor.remaining := by
  fun_induction drain cursor side with
  | case1 cursor later pulled =>
    have exhausted : cursor.remaining = [] := pull_eq_none_iff.mp (congrArg Prod.fst pulled)
    cases side <;> simp [Side.arrange, exhausted]
  | case2 cursor entry later pulled shorter ih =>
    rw [ih, ← taken_append_remaining_pull cursor side]
    cases side <;> simp [Side.arrange, taken, pulled]

/-- Whichever ends are called and however often, each of the entries is delivered once: by the front
in their order, by the back in the opposite order. -/
structure DeliversOnce (scan : Cursor) (entries : List Entry) : Prop where
  complete : ∀ calls, scan.delivered .front calls ++ (scan.after calls).drain .front ++
    (scan.delivered .back calls).reverse = entries
  /-- A call delivers nothing only behind all entries. -/
  exhausted : ∀ calls side, ((scan.after calls).pull side).1 = none →
    scan.delivered .front calls ++ (scan.delivered .back calls).reverse = entries
  /-- Behind such a call there is nothing at either end. -/
  final : ∀ calls side, ((scan.after calls).pull side).1 = none →
    ∀ more last, ((scan.after (calls ++ side :: more)).pull last).1 = none

theorem after_append (cursor : Cursor) (calls more : List Side) :
    cursor.after (calls ++ more) = (cursor.after calls).after more := List.foldl_append

theorem deliversOnce (scan : Cursor) : scan.DeliversOnce scan.remaining where
  complete calls := by
    rw [drain_eq]
    exact delivered_append_remaining scan calls
  exhausted calls side nothing := by
    have split := delivered_append_remaining scan calls
    rwa [pull_eq_none_iff.mp nothing, List.append_nil] at split
  final calls side nothing more last := by
    have split := delivered_append_remaining (scan.after calls) (side :: more)
    rw [pull_eq_none_iff.mp nothing] at split
    rw [pull_eq_none_iff, after_append]
    exact (List.append_eq_nil_iff.mp (List.append_eq_nil_iff.mp split).1).2

end Cursor

/-- Whatever was written before, a scan delivers the entries of its range once each. -/
theorem ByteStore.scans_deliver_once (writes : List Entry) (range : KeyRange) :
    ∃ entries, Lists writes range entries ∧ ((ofList writes).scan range).DeliversOnce entries :=
  ⟨_, lists_remaining_scan writes range, Cursor.deliversOnce _⟩

/-- The first value of a key is gone, and the back takes the entry at which the ends meet. -/
example :
    let scan := (ByteStore.ofList [⟨[1], [0]⟩, ⟨[3], []⟩, ⟨[2], []⟩, ⟨[1], [7]⟩]).scan
      ⟨.included [1], .excluded [4]⟩
    let calls : List Side := [.back, .front, .back, .front, .back]
    scan.delivered .front calls = [⟨[1], [7]⟩] ∧
      scan.delivered .back calls = [⟨[3], []⟩, ⟨[2], []⟩] := by
  decide

end SqlStore
