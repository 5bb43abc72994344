import Mathlib.Data.List.TakeWhile
import SqlStore.Proofs.Shell.Lines

/-! # Passages

The lines of an input fall into passages. Where no statement is pending a blank line is one of its
own, and so is a command. Any other line begins a statement, and with it go all lines up to the
first that holds a semicolon, blank or dotted ones too. This is said here of trimmed lines, without
a shell that reads them.
-/

namespace SqlStore

/-- Trimmed lines that belong together. -/
inductive Passage where
  | blank
  | command (text : String)
  | statement (lines : List String)
  /-- A statement that the input does not finish. -/
  | unfinished (lines : List String)
deriving DecidableEq, Repr

namespace Passage

def lines : Passage → List String
  | blank => [""]
  | command text => [text]
  | statement lines | unfinished lines => lines

/-- The text of a statement. An unfinished one is not executed. -/
def text? : Passage → Option String
  | statement lines => some (String.intercalate " " lines)
  | blank | command _ | unfinished _ => none

/-- A line with a semicolon ends a statement. -/
def Closes (line : String) : Prop := ';' ∈ line.toList

def IsCommand (line : String) : Prop := line.toList.head? = some '.'

/-- After these commands nothing is read. -/
def Leaves (text : String) : Prop := text = ".exit" ∨ text = ".quit"

instance : DecidablePred Closes := fun line => inferInstanceAs (Decidable (';' ∈ line.toList))

instance : DecidablePred IsCommand :=
  fun line => inferInstanceAs (Decidable (line.toList.head? = some '.'))

instance : DecidablePred Leaves :=
  fun text => inferInstanceAs (Decidable (text = ".exit" ∨ text = ".quit"))

private theorem length_lt_of_dropWhile_eq {lines later : List String} {last : String}
    {p : String → Bool} (cut : lines.dropWhile p = last :: later) :
    later.length < lines.length := by
  have behind : lines.dropWhile p <:+ lines := List.dropWhile_suffix p
  have shorter := behind.length_le
  rw [cut] at shorter
  exact shorter

/-- Takes lines apart from the first on. Lines behind a command that leaves the shell belong to no
passage. -/
def ofLines : List String → List Passage
  | [] => []
  | line :: rest =>
    if line = "" then blank :: ofLines rest
    else if IsCommand line then
      command line :: if Leaves line then [] else ofLines rest
    else
      let front := (line :: rest).takeWhile (¬ Closes ·)
      match _ : (line :: rest).dropWhile (¬ Closes ·) with
      | [] => [unfinished front]
      | last :: later => statement (front ++ [last]) :: ofLines later
termination_by lines => lines.length
decreasing_by
  · exact Nat.lt_succ_self rest.length
  · exact Nat.lt_succ_self rest.length
  · exact length_lt_of_dropWhile_eq ‹_›

example : ofLines ["", ".help", "SELECT *", "", ".x", "FROM t; -", ".exit", "a;"] =
    [.blank, .command ".help", .statement ["SELECT *", "", ".x", "FROM t; -"],
      .command ".exit"] := by
  decide +kernel

/-- A line that begins a statement where none is pending. -/
def Opens (line : String) : Prop := line ≠ "" ∧ ¬ IsCommand line

/-- Lines of a statement that has not ended yet; none of them where no statement is pending. -/
structure Pending (front : List String) : Prop where
  opens : ∀ line ∈ front.head?, Opens line
  unclosed : ∀ line ∈ front, ¬ Closes line

variable {front rest : List String} {line : String}

theorem Pending.nil : Pending [] := ⟨nofun, nofun⟩

/-- A line that is no passage of its own goes on with the statement. -/
theorem Pending.append (pending : Pending front) (opens : front = [] → Opens line)
    (unclosed : ¬ Closes line) : Pending (front ++ [line]) where
  opens first := by
    cases front with
    | nil =>
      rintro ⟨⟩
      exact opens rfl
    | cons head others => exact pending.opens first
  unclosed := by
    simpa [or_imp, forall_and] using And.intro pending.unclosed unclosed

theorem ofLines_blank (rest : List String) : ofLines ("" :: rest) = blank :: ofLines rest := by
  rw [ofLines, if_pos rfl]

theorem ofLines_command (some : line ≠ "") (dotted : IsCommand line) (rest : List String) :
    ofLines (line :: rest) = command line :: if Leaves line then [] else ofLines rest := by
  rw [ofLines, if_neg some, if_pos dotted]

theorem ofLines_of_opens (opens : Opens line) (rest : List String) :
    ofLines (line :: rest) =
      let front := (line :: rest).takeWhile (¬ Closes ·)
      match (line :: rest).dropWhile (¬ Closes ·) with
      | [] => [unfinished front]
      | last :: later => statement (front ++ [last]) :: ofLines later := by
  rw [ofLines, if_neg opens.1, if_neg opens.2]
  dsimp only
  split
  · next cut => rw [cut]
  · next cut => rw [cut]

/-- The line that closes a statement ends the passage. -/
theorem ofLines_of_closes (pending : Pending front) (opens : front = [] → Opens line)
    (closes : Closes line) (rest : List String) :
    ofLines (front ++ line :: rest) = statement (front ++ [line]) :: ofLines rest := by
  have within : ∀ line ∈ front, decide (¬ Closes line) = true := by
    simpa using pending.unclosed
  have front_eq : (front ++ line :: rest).takeWhile (¬ Closes ·) = front := by
    rw [List.takeWhile_append_of_pos within, List.takeWhile_cons_of_neg (by simpa), List.append_nil]
  have rest_eq : (front ++ line :: rest).dropWhile (¬ Closes ·) = line :: rest := by
    rw [List.dropWhile_append_of_pos within, List.dropWhile_cons_of_neg (by simpa)]
  cases front with
  | nil =>
    rw [List.nil_append] at front_eq rest_eq ⊢
    rw [ofLines_of_opens (opens rfl), front_eq, rest_eq]
  | cons first others =>
    rw [List.cons_append] at front_eq rest_eq ⊢
    rw [ofLines_of_opens (pending.opens first rfl), front_eq, rest_eq]

theorem ofLines_of_pending (pending : Pending front) (some : front ≠ []) :
    ofLines front = [unfinished front] := by
  have within : ∀ line ∈ front, decide (¬ Closes line) = true := by
    simpa using pending.unclosed
  have front_eq : front.takeWhile (¬ Closes ·) = front := List.takeWhile_eq_self_iff.mpr within
  have rest_eq : front.dropWhile (¬ Closes ·) = [] := List.dropWhile_eq_nil_iff.mpr within
  cases front with
  | nil => exact absurd rfl some
  | cons first others =>
    rw [ofLines_of_opens (pending.opens first rfl), front_eq, rest_eq]

theorem pending_takeWhile (opens : Opens line) (rest : List String) :
    Pending ((line :: rest).takeWhile (¬ Closes ·)) where
  opens first := by
    rw [List.takeWhile_cons]
    split
    · rintro ⟨⟩
      exact opens
    · exact nofun
  unclosed other member := by
    have all := List.all_eq_true.mp List.all_takeWhile other member
    exact of_decide_eq_true all

/-- A list of lines is taken apart passage by passage. -/
theorem ofLines_induction {motive : List String → List Passage → Prop} (nil : motive [] [])
    (blank : ∀ rest, motive rest (ofLines rest) → motive ("" :: rest) (blank :: ofLines rest))
    (command : ∀ line rest, IsCommand line → motive rest (ofLines rest) →
      motive (line :: rest) (command line :: if Leaves line then [] else ofLines rest))
    (statement : ∀ front last rest, Pending front → (front = [] → Opens last) → Closes last →
      motive rest (ofLines rest) →
        motive (front ++ last :: rest) (statement (front ++ [last]) :: ofLines rest))
    (unfinished : ∀ front, Pending front → front ≠ [] → motive front [unfinished front])
    (lines : List String) : motive lines (ofLines lines) := by
  fun_induction ofLines lines with
  | case1 => exact nil
  | case2 rest ih => exact blank rest ih
  | case3 line rest some dotted ih => exact command line rest dotted ih
  | case4 line rest some plain front cut =>
    have pending : Pending front := pending_takeWhile ⟨some, plain⟩ rest
    have whole : front ++ [] = line :: rest := cut ▸ List.takeWhile_append_dropWhile
    rw [List.append_nil] at whole
    rw [← whole]
    exact unfinished front pending (whole ▸ List.cons_ne_nil line rest)
  | case5 line rest some plain front last later cut ih =>
    have pending : Pending front := pending_takeWhile ⟨some, plain⟩ rest
    have whole : front ++ last :: later = line :: rest := cut ▸ List.takeWhile_append_dropWhile
    have closes : Closes last := by
      have outside := List.head?_dropWhile_not (fun line => decide (¬ Closes line)) (line :: rest)
      rw [cut] at outside
      simpa using outside
    rw [← whole]
    refine statement front last later pending (fun none => ?_) closes ih
    rw [none] at whole
    exact (List.cons.inj whole).1 ▸ ⟨some, plain⟩

/-- How a passage is made. -/
inductive Formed : Passage → Prop where
  | blank : Formed blank
  | command {text : String} (dotted : IsCommand text) : Formed (command text)
  | statement {front : List String} {last : String} (pending : Pending front)
    (opens : front = [] → Opens last) (closes : Closes last) : Formed (statement (front ++ [last]))
  | unfinished {front : List String} (pending : Pending front) (some : front ≠ []) :
    Formed (unfinished front)

theorem formed_of_mem_ofLines (lines : List String) :
    ∀ passage ∈ ofLines lines, Formed passage := by
  induction lines using ofLines_induction with
  | nil => exact nofun
  | blank rest ih => exact List.forall_mem_cons.mpr ⟨.blank, ih⟩
  | command line rest dotted ih =>
    refine List.forall_mem_cons.mpr ⟨.command dotted, ?_⟩
    split
    · exact nofun
    · exact ih
  | statement front last rest pending opens closes ih =>
    exact List.forall_mem_cons.mpr ⟨.statement pending opens closes, ih⟩
  | unfinished front pending some =>
    exact List.forall_mem_cons.mpr ⟨.unfinished pending some, nofun⟩

/-- A command after which nothing is read is the last passage. -/
def StopsWhereLeft (passages : List Passage) : Prop :=
  ∀ text, command text ∈ passages.dropLast → ¬ Leaves text

theorem StopsWhereLeft.cons {first : Passage} {passages : List Passage}
    (stops : ∀ text, first = command text → Leaves text → passages = [])
    (later : StopsWhereLeft passages) : StopsWhereLeft (first :: passages) := by
  intro text member leaves
  cases passages with
  | nil => exact absurd member List.not_mem_nil
  | cons second others =>
    rcases List.mem_cons.mp member with same | member
    · exact List.cons_ne_nil _ _ (stops text same.symm leaves)
    · exact later text member leaves

theorem stopsWhereLeft_ofLines (lines : List String) : StopsWhereLeft (ofLines lines) := by
  induction lines using ofLines_induction with
  | nil => exact nofun
  | blank rest ih => exact .cons nofun ih
  | command line rest dotted ih =>
    split
    · next leaves => exact .cons (fun _ _ _ => rfl) nofun
    · next stays =>
      refine .cons (fun text same leaves => ?_) ih
      cases same
      exact absurd leaves stays
  | statement front last rest pending opens closes ih => exact .cons nofun ih
  | unfinished front pending some => exact nofun

/-- The last passage is a command after which nothing is read. -/
def Left (passages : List Passage) : Prop :=
  ∃ text, passages.getLast? = some (command text) ∧ Leaves text

theorem Left.cons {passages : List Passage} (left : Left passages) (first : Passage) :
    Left (first :: passages) := by
  obtain ⟨text, last, leaves⟩ := left
  refine ⟨text, ?_, leaves⟩
  rw [List.getLast?_cons, last]
  rfl

/-- The passages are the lines in their order, up to where the shell is left. -/
theorem exists_eq_flatMap_lines_append (lines : List String) :
    ∃ unread, lines = (ofLines lines).flatMap Passage.lines ++ unread ∧
      (unread ≠ [] → Left (ofLines lines)) := by
  induction lines using ofLines_induction with
  | nil => exact ⟨[], rfl, absurd rfl⟩
  | blank rest ih =>
    obtain ⟨unread, whole, left⟩ := ih
    exact ⟨unread, congrArg ("" :: ·) whole, fun more => (left more).cons _⟩
  | command line rest dotted ih =>
    split
    · next leaves => exact ⟨rest, rfl, fun _ => ⟨line, rfl, leaves⟩⟩
    · obtain ⟨unread, whole, left⟩ := ih
      exact ⟨unread, congrArg (line :: ·) whole, fun more => (left more).cons _⟩
  | statement front last rest pending opens closes ih =>
    obtain ⟨unread, whole, left⟩ := ih
    refine ⟨unread, ?_, fun more => (left more).cons _⟩
    rw [List.flatMap_cons, Passage.lines, List.append_assoc, List.append_assoc, ← whole]
    rfl
  | unfinished front pending some =>
    refine ⟨[], ?_, absurd rfl⟩
    rw [List.append_nil, List.flatMap_singleton, Passage.lines]

end Passage

end SqlStore
