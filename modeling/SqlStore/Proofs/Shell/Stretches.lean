import SqlStore.Proofs.Shell.Reading

/-! # Stretches of lines

A shell that reads some lines to their end has executed texts, has printed replies, and is then a
shell that reads on. Stretches follow one another, and a statement is one: lines that are held, and
the line that ends it.
-/

namespace SqlStore.Shell

open Text Passage

/-- The shell that reads on behind the lines, if it comes to their end. -/
def after (shell : Shell) : List Bytes → Option Shell
  | [] => some shell
  | bytes :: rest =>
    match Utf8.decode bytes with
    | .error _ => none
    | .ok line => (shell.readLine line).next.bind fun next => next.after rest

theorem after_encode (shell : Shell) (line : String) (rest : List Bytes) :
    shell.after (Utf8.encode line :: rest) =
      (shell.readLine line).next.bind fun next => next.after rest := by
  rw [after, Utf8.decode_encode]

variable {shell next last : Shell} {lines before behind : List Bytes}

/-- A shell that comes to the end of lines has read the first of them. -/
theorem after_cons_eq_some_iff {bytes : Bytes} :
    shell.after (bytes :: lines) = some last ↔
      ∃ line next, Utf8.decode bytes = .ok line ∧ (shell.readLine line).next = some next ∧
        next.after lines = some last := by
  rw [after]
  cases Utf8.decode bytes with
  | error fault => simp
  | ok line => simp [Option.bind_eq_some_iff]

theorem after_append (reached : shell.after before = some next) :
    shell.after (before ++ behind) = next.after behind := by
  induction before generalizing shell with
  | nil =>
    cases reached
    rfl
  | cons bytes rest ih =>
    obtain ⟨line, second, read, answered, later⟩ := after_cons_eq_some_iff.mp reached
    rw [List.cons_append, after, read]
    dsimp only
    rw [answered, Option.bind_some, ih later]

/-- What is read after the lines is read by the shell that they lead to. -/
theorem turns_append (reached : shell.after before = some next) :
    shell.turns (before ++ behind) = shell.turns before ++ next.turns behind := by
  induction before generalizing shell with
  | nil =>
    cases reached
    rfl
  | cons bytes rest ih =>
    obtain ⟨line, second, read, answered, later⟩ := after_cons_eq_some_iff.mp reached
    rw [List.cons_append, turns, turns, read]
    dsimp only
    rw [answered]
    exact congrArg (_ :: ·) (ih later)

/-- What a shell does on reading lines to their end: the texts that it executes, its replies, and
the shell that it is then. -/
structure Reads (shell : Shell) (lines : List Bytes) (texts : List String) (output : String)
    (next : Shell) : Prop where
  executed : (shell.turns lines).filterMap Turn.executed? = texts
  replied : String.join ((shell.turns lines).map fun turn => turn.reply.output) = output
  reached : shell.after lines = some next

namespace Reads

variable {database : Database} {line : String} {texts others : List String}
  {output more : String} {front : List String}

theorem nil (shell : Shell) : Reads shell [] [] "" shell := ⟨rfl, rfl, rfl⟩

theorem append (first : Reads shell before texts output next)
    (second : Reads next behind others more last) :
    Reads shell (before ++ behind) (texts ++ others) (output ++ more) last where
  executed := by
    rw [turns_append first.reached, List.filterMap_append, first.executed, second.executed]
  replied := by
    rw [turns_append first.reached, List.map_append, String.join_append, first.replied,
      second.replied]
  reached := by rw [after_append first.reached, second.reached]

/-- One line, answered by a shell that reads on. -/
theorem single (read : Option String) (executed : Turn.executed? ⟨shell, line⟩ = read)
    (reply : shell.readLine line = ⟨output, some next⟩) :
    Reads shell [Utf8.encode line] read.toList output next where
  executed := by
    rw [turns_encode, reply, ← executed]
    cases read : Turn.executed? ⟨shell, line⟩ with
    | none => exact List.filterMap_cons_none read
    | some text => exact List.filterMap_cons_some read
  replied := by
    rw [turns_encode, reply]
    simp [turns, Turn.reply, reply]
  reached := by
    rw [after_encode, reply]
    rfl

theorem idle {pending : String}
    (event : LineEvent.ofLine shell.pending line = (.nothing, pending)) :
    Reads shell [Utf8.encode line] [] "" ⟨shell.database, pending⟩ := by
  refine single none ?_ ?_
  · rw [Turn.executed?, event]
  · rw [readLine, event]

theorem execution {text pending : String}
    (event : LineEvent.ofLine shell.pending line = (.statement text, pending)) :
    Reads shell [Utf8.encode line] [text]
      (Report.result ((Session.execute text).run shell.database).1 ++ "\n")
      ⟨((Session.execute text).run shell.database).2, pending⟩ := by
  refine single (some text) ?_ ?_
  · rw [Turn.executed?, event]
  · rw [readLine, event]
    rfl

/-- Blank lines where no statement is pending. -/
theorem blank {lines : List String} (blank : ∀ line ∈ lines, trim line = "")
    (database : Database) :
    Reads ⟨database, ""⟩ (lines.map Utf8.encode) [] "" ⟨database, ""⟩ := by
  induction lines with
  | nil => exact .nil _
  | cons line rest ih =>
    obtain ⟨here, later⟩ := List.forall_mem_cons.mp blank
    have read : Reads ⟨database, ""⟩ [Utf8.encode line] [] "" ⟨database, ""⟩ :=
      .idle (LineEvent.ofLine_blank here)
    exact read.append (ih later)

/-- Lines that do not end a statement are held. -/
theorem unclosed {lines : List String} (holding : Holding front)
    (opens : ∀ first ∈ (front ++ lines.map trim).head?, Opens first)
    (unclosed : ∀ line ∈ lines, ¬ Closes (trim line)) (database : Database) :
    Reads ⟨database, held front⟩ (lines.map Utf8.encode) [] ""
        ⟨database, held (front ++ lines.map trim)⟩ ∧
      Holding (front ++ lines.map trim) := by
  induction lines generalizing front with
  | nil =>
    rw [List.map_nil, List.map_nil, List.append_nil]
    exact ⟨.nil _, holding⟩
  | cons line rest ih =>
    obtain ⟨here, later⟩ := List.forall_mem_cons.mp unclosed
    have first : front = [] → Opens (trim line) := by
      rintro rfl
      exact opens _ rfl
    have read : Reads ⟨database, held front⟩ [Utf8.encode line] [] ""
        ⟨database, held (front ++ [trim line])⟩ :=
      .idle (LineEvent.ofLine_of_not_closes holding first here)
    have split : front ++ (line :: rest).map trim = front ++ [trim line] ++ rest.map trim := by
      simp
    rw [split] at opens ⊢
    obtain ⟨others, holdingAll⟩ := ih (holding.append first here) opens later
    exact ⟨read.append others, holdingAll⟩

/-- A statement is executed where its last line ends it. -/
theorem statement {lines : List String} {last : String}
    (opens : ∀ first ∈ (lines.map trim ++ [trim last]).head?, Opens first)
    (unclosed : ∀ line ∈ lines, ¬ Closes (trim line)) (closes : Closes (trim last))
    (database : Database) :
    let text := String.intercalate " " (lines.map trim ++ [trim last])
    Reads ⟨database, ""⟩ (lines.map Utf8.encode ++ [Utf8.encode last]) [text]
      (Report.result ((Session.execute text).run database).1 ++ "\n")
      ⟨((Session.execute text).run database).2, ""⟩ := by
  intro text
  have front : ∀ first ∈ (lines.map trim).head?, Opens first := by
    intro first member
    refine opens first ?_
    rw [List.head?_append, Option.mem_def.mp member]
    rfl
  have start : lines.map trim = [] → Opens (trim last) := by
    intro none
    refine opens (trim last) ?_
    rw [none]
    rfl
  obtain ⟨read, holding⟩ := Reads.unclosed .nil front unclosed database
  have ended : Reads ⟨database, held (lines.map trim)⟩ [Utf8.encode last] [text] _ _ :=
    .execution (LineEvent.ofLine_of_closes holding start closes)
  have both := read.append ended
  rw [String.empty_append] at both
  exact both

end Reads

end SqlStore.Shell
