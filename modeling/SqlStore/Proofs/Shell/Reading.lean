import SqlStore.CommandLine
import SqlStore.Proofs.Shell.Passages

/-! # The shell reads passages

What the shell holds while a statement is pending is its lines so far, and whether it holds anything
is whether a statement is pending. So line by line it follows the passages of its input: it executes
the statements among them, prompts for their lines, and prints their answers.
-/

namespace SqlStore

open Text Passage

/-- A line that was read, and the shell as it was. -/
structure Turn where
  shell : Shell
  line : String
deriving DecidableEq, Repr

namespace Turn

def reply (turn : Turn) : Reply := turn.shell.readLine turn.line

/-- The text that is executed in reply, if one is. -/
def executed? (turn : Turn) : Option String :=
  match (LineEvent.ofLine turn.shell.pending turn.line).1 with
  | .statement text => some text
  | .nothing | .command _ => none

def prompted (turn : Turn) : String × String := (turn.shell.prompt, trim turn.line)

def printed (turn : Turn) : String := turn.shell.prompt ++ turn.reply.output

/-- The reply to an executed text is its result, in the database that it leaves behind. -/
theorem exists_reply_eq_of_executed {turn : Turn} {text : String}
    (executed : turn.executed? = some text) :
    ∃ pending, turn.reply =
      ⟨Report.result ((Session.execute text).run turn.shell.database).1 ++ "\n",
        some ⟨((Session.execute text).run turn.shell.database).2, pending⟩⟩ := by
  rw [executed?] at executed
  rw [reply, Shell.readLine]
  generalize LineEvent.ofLine turn.shell.pending turn.line = read at executed ⊢
  obtain ⟨event, pending⟩ := read
  cases event with
  | statement other =>
    cases executed
    exact ⟨pending, rfl⟩
  | nothing | command _ => cases executed

/-- Where no text is executed the database stays as it is. -/
theorem database_eq_of_not_executed {turn : Turn} {next : Shell}
    (idle : turn.executed? = none) (goesOn : turn.reply.next = some next) :
    next.database = turn.shell.database := by
  rw [executed?] at idle
  rw [reply, Shell.readLine] at goesOn
  generalize LineEvent.ofLine turn.shell.pending turn.line = read at idle goesOn
  obtain ⟨event, pending⟩ := read
  cases event with
  | statement other => cases idle
  | nothing =>
    cases goesOn
    rfl
  | command text =>
    dsimp only at goesOn
    split at goesOn
    · cases goesOn
      rfl
    · cases goesOn

end Turn

namespace Shell

/-- The lines that are read. -/
def turns (shell : Shell) : List Bytes → List Turn
  | [] => []
  | bytes :: rest =>
    match Utf8.decode bytes with
    | .error _ => []
    | .ok line =>
      ⟨shell, line⟩ ::
        match (shell.readLine line).next with
        | some next => next.turns rest
        | none => []

/-- What is printed behind the reply to the last line. -/
def closing (shell : Shell) : List Bytes → String
  | [] => shell.prompt ++ "\n"
  | bytes :: rest =>
    match Utf8.decode bytes with
    | .error _ => shell.prompt
    | .ok line =>
      match (shell.readLine line).next with
      | some next => next.closing rest
      | none => ""

/-- Nothing is printed but prompts and replies. -/
theorem transcript_eq_join_printed (shell : Shell) (lines : List Bytes) :
    shell.transcript lines =
      String.join ((shell.turns lines).map Turn.printed) ++ shell.closing lines := by
  induction lines generalizing shell with
  | nil => simp [transcript, turns, closing]
  | cons bytes rest ih =>
    rw [transcript, turns, closing]
    cases Utf8.decode bytes with
    | error fault => simp
    | ok line =>
      dsimp only
      cases ended : (shell.readLine line).next with
      | none => simp [Turn.printed, Turn.reply]
      | some next => simp [ih, Turn.printed, Turn.reply, String.append_assoc]

/-- The lines of a statement as the shell holds them. -/
def held (front : List String) : String := String.join (front.map (· ++ " "))

theorem held_append (front : List String) (line : String) :
    held (front ++ [line]) = held front ++ line ++ " " := by
  simp [held, String.append_assoc]

theorem held_eq_empty_iff {front : List String} : held front = "" ↔ front = [] := by
  cases front with
  | nil => simp [held]
  | cons line rest => simp [held]

theorem intercalate_append (front : List String) (line : String) :
    String.intercalate " " (front ++ [line]) = held front ++ line := by
  induction front with
  | nil => simp [held]
  | cons first rest ih =>
    rw [List.cons_append, String.intercalate_cons_of_ne_nil (by simp), ih]
    simp [held, String.append_assoc]

theorem closes_held_iff {lines : List String} :
    Closes (held lines) ↔ ∃ line ∈ lines, Closes line := by
  simp [held, Closes, String.toList_join, List.mem_flatMap]

/-- What the shell may hold: trimmed lines of a statement that has not ended. -/
structure Holding (front : List String) : Prop extends Pending front where
  trimmed : ∀ line ∈ front, Trimmed line.toList

theorem Holding.nil : Holding [] := ⟨Pending.nil, nofun⟩

variable {front : List String} {line : String}

theorem Holding.append (holding : Holding front) (opens : front = [] → Opens (trim line))
    (unclosed : ¬ Closes (trim line)) : Holding (front ++ [trim line]) where
  toPending := holding.toPending.append opens unclosed
  trimmed := by
    simpa [or_imp, forall_and] using And.intro holding.trimmed (trimmed_trim line)

/-- The first line begins with no blank, and the one that closes the statement ends with none. -/
theorem trimmed_intercalate (holding : Holding front) (closes : Closes (trim line)) :
    Trimmed (String.intercalate " " (front ++ [trim line])).toList := by
  have own := trimmed_trim line
  rw [intercalate_append, String.toList_append]
  constructor
  · cases front with
    | nil => simpa [held] using own.head
    | cons first others =>
      have some : first.toList ≠ [] := fun none =>
        (holding.opens first rfl).1 (String.toList_eq_nil_iff.mp none)
      obtain ⟨c, text, same⟩ := List.exists_cons_of_ne_nil some
      have clear := (holding.trimmed first List.mem_cons_self).head
      rw [same] at clear
      simpa [held, same] using clear
  · rw [List.getLast?_append_of_ne_nil _ (List.ne_nil_of_mem closes)]
    exact own.last

/-- Around the lines of a statement there are no blanks but the one that the shell adds. -/
theorem trim_held (holding : Holding front) (closes : Closes (trim line)) :
    trim (held (front ++ [trim line])) = String.intercalate " " (front ++ [trim line]) := by
  have space : isBlank ' ' = true := by decide
  have trimmed := trimmed_intercalate holding closes
  rw [held_append, ← intercalate_append, trim, String.toList_append]
  change String.ofList (trimChars (_ ++ [' '])) = _
  rw [trimChars_append_blank space, trimmed.trimChars_eq, String.ofList_toList]

end Shell

namespace LineEvent

variable {front : List String} {line : String}

theorem ofLine_blank (blank : trim line = "") : ofLine "" line = (nothing, "") := by
  rw [ofLine, blank]
  rfl

theorem ofLine_command (filled : trim line ≠ "") (dotted : IsCommand (trim line)) :
    ofLine "" line = (command (trim line), "") := by
  rw [ofLine]
  simp [filled, show (trim line).toList.head? = _ from dotted]

/-- A line that is no passage of its own goes to those that are held. -/
theorem ofLine_held (opens : front = [] → Opens (trim line)) :
    ofLine (Shell.held front) line =
      if Closes (Shell.held (front ++ [trim line])) then
        (statement (trim (Shell.held (front ++ [trim line]))), "")
      else (nothing, Shell.held (front ++ [trim line])) := by
  rw [ofLine, ← Shell.held_append]
  have blank : ¬ ((Shell.held front).isEmpty && (trim line).isEmpty) = true := by
    simp only [Bool.and_eq_true, String.isEmpty_iff, Shell.held_eq_empty_iff]
    exact fun both => (opens both.1).1 both.2
  have dotted : ¬ ((Shell.held front).isEmpty && (trim line).toList.head? = some '.') = true := by
    simp only [Bool.and_eq_true, String.isEmpty_iff, Shell.held_eq_empty_iff, decide_eq_true_eq]
    exact fun both => (opens both.1).2 both.2
  dsimp only
  rw [if_neg blank, if_neg dotted]
  rfl

theorem ofLine_of_closes (holding : Shell.Holding front) (opens : front = [] → Opens (trim line))
    (closes : Closes (trim line)) :
    ofLine (Shell.held front) line =
      (statement (String.intercalate " " (front ++ [trim line])), "") := by
  rw [ofLine_held opens, if_pos, Shell.trim_held holding closes]
  exact Shell.closes_held_iff.mpr ⟨trim line, by simp, closes⟩

theorem ofLine_of_not_closes (holding : Shell.Holding front)
    (opens : front = [] → Opens (trim line)) (unclosed : ¬ Closes (trim line)) :
    ofLine (Shell.held front) line = (nothing, Shell.held (front ++ [trim line])) := by
  rw [ofLine_held opens, if_neg]
  intro closes
  obtain ⟨other, member, closes⟩ := Shell.closes_held_iff.mp closes
  exact (holding.append opens unclosed).unclosed other member closes

end LineEvent

namespace Passage

/-- The lines of a passage with the prompts before them. -/
def prompted : List String → List (String × String)
  | [] => []
  | first :: rest => ("minisql> ", first) :: rest.map fun line => ("   ...> ", line)

/-- What is printed for passages. Statements are executed one after the other, and the end of the
input is met with a prompt and a newline. -/
def transcript (database : Database) : List Passage → String
  | [] => "minisql> \n"
  | passage :: rest =>
    String.join ((prompted passage.lines).map Prod.fst) ++
      match passage with
      | .blank => transcript database rest
      | .command text =>
        match Shell.command? database text with
        | some output => output ++ transcript database rest
        | none => ""
      | .statement lines =>
        let (result, database) := (Session.execute (String.intercalate " " lines)).run database
        Report.result result ++ "\n" ++ transcript database rest
      | .unfinished _ => "   ...> \n"

theorem prompted_append (front : List String) (line : String) :
    prompted (front ++ [line]) =
      prompted front ++ [(if front = [] then "minisql> " else "   ...> ", line)] := by
  cases front with
  | nil => rfl
  | cons first rest => simp [prompted]

end Passage

namespace Shell

theorem prompt_held (database : Database) (front : List String) :
    prompt ⟨database, held front⟩ = if front = [] then "minisql> " else "   ...> " := by
  rw [prompt]
  simp only [String.isEmpty_iff, held_eq_empty_iff]

theorem turns_encode (shell : Shell) (line : String) (rest : List Bytes) :
    shell.turns (Utf8.encode line :: rest) =
      ⟨shell, line⟩ ::
        match (shell.readLine line).next with
        | some next => next.turns rest
        | none => [] := by
  rw [turns, Utf8.decode_encode]

theorem transcript_encode (shell : Shell) (line : String) (rest : List Bytes) :
    shell.transcript (Utf8.encode line :: rest) =
      shell.prompt ++ ((shell.readLine line).output ++
        (shell.readLine line).next.elim "" fun next => next.transcript rest) := by
  rw [transcript, Utf8.decode_encode]
  cases ended : (shell.readLine line).next with
  | some next => simp only [ended, Option.elim_some]
  | none => simp only [ended, Option.elim_none, String.append_empty]

theorem exists_command?_eq_some {text : String} (stays : ¬ Leaves text) (database : Database) :
    ∃ output, command? database text = some output := by
  rw [command?]
  split_ifs with leaves
  · exact absurd leaves stays
  · exact ⟨_, rfl⟩
  · exact ⟨_, rfl⟩
  · exact ⟨_, rfl⟩

/-- A shell that holds some lines already reads the rest of its lines as passages. -/
structure Follows (database : Database) (front : List String) (lines : List Bytes)
    (passages : List Passage) : Prop where
  executed : (turns ⟨database, held front⟩ lines).filterMap Turn.executed? =
    passages.filterMap Passage.text?
  prompted : Passage.prompted front ++ (turns ⟨database, held front⟩ lines).map Turn.prompted =
    passages.flatMap fun passage => Passage.prompted passage.lines
  printed : String.join ((Passage.prompted front).map Prod.fst) ++
    transcript ⟨database, held front⟩ lines = Passage.transcript database passages

namespace Follows

variable {database : Database} {front : List String} {line : String} {rest : List Bytes}
  {passages : List Passage}

theorem ended (database : Database) : Follows database [] [] [] := ⟨rfl, rfl, rfl⟩

theorem unfinished (database : Database) (some : front ≠ []) :
    Follows database front [] [.unfinished front] where
  executed := rfl
  prompted := by simp [turns, Passage.lines]
  printed := by
    rw [Shell.transcript, prompt_held, if_neg some, Passage.transcript]
    rfl

/-- A line that completes a passage, for a shell that reads on. -/
theorem complete {passage : Passage} {output : String} {database' : Database}
    (own : passage.lines = front ++ [trim line])
    (read : Turn.executed? ⟨⟨database, held front⟩, line⟩ = passage.text?)
    (reply : readLine ⟨database, held front⟩ line = ⟨output, some ⟨database', held []⟩⟩)
    (shown : Passage.transcript database (passage :: passages) =
      String.join ((Passage.prompted passage.lines).map Prod.fst) ++
        (output ++ Passage.transcript database' passages))
    (later : Follows database' [] rest passages) :
    Follows database front (Utf8.encode line :: rest) (passage :: passages) := by
  constructor
  · rw [turns_encode, reply, List.filterMap_cons, List.filterMap_cons, read, later.executed]
  · rw [turns_encode, reply, List.flatMap_cons, ← later.prompted, List.map_cons, Turn.prompted,
      prompt_held, own, prompted_append, List.append_assoc]
    rfl
  · rw [transcript_encode, reply, shown, ← later.printed, own, prompted_append, prompt_held]
    simp [String.append_assoc, Passage.prompted]

theorem blank (blank : trim line = "") (later : Follows database [] rest passages) :
    Follows database [] (Utf8.encode line :: rest) (.blank :: passages) := by
  have event : LineEvent.ofLine (held []) line = (.nothing, held []) :=
    LineEvent.ofLine_blank blank
  have reply : readLine ⟨database, held []⟩ line = ⟨"", some ⟨database, held []⟩⟩ := by
    rw [readLine, event]
  refine complete ?_ ?_ reply ?_ later
  · rw [blank]
    rfl
  · rw [Turn.executed?, event]
    rfl
  · rw [Passage.transcript, String.empty_append]

theorem leave (filled : trim line ≠ "") (dotted : IsCommand (trim line))
    (leaves : Leaves (trim line)) (database : Database) (rest : List Bytes) :
    Follows database [] (Utf8.encode line :: rest) [.command (trim line)] := by
  have event : LineEvent.ofLine (held []) line = (.command (trim line), held []) :=
    LineEvent.ofLine_command filled dotted
  have answer : command? database (trim line) = none := if_pos leaves
  have reply : readLine ⟨database, held []⟩ line = ⟨"", none⟩ := by
    rw [readLine, event]
    simp only [answer]
  constructor
  · rw [turns_encode, reply, List.filterMap_cons, Turn.executed?, event]
    rfl
  · rw [turns_encode, reply]
    rfl
  · rw [transcript_encode, reply, Passage.transcript, answer]
    rfl

theorem command (filled : trim line ≠ "") (dotted : IsCommand (trim line))
    (stays : ¬ Leaves (trim line)) (later : Follows database [] rest passages) :
    Follows database [] (Utf8.encode line :: rest) (.command (trim line) :: passages) := by
  have event : LineEvent.ofLine (held []) line = (.command (trim line), held []) :=
    LineEvent.ofLine_command filled dotted
  obtain ⟨output, answer⟩ := exists_command?_eq_some stays database
  have reply : readLine ⟨database, held []⟩ line = ⟨output, some ⟨database, held []⟩⟩ := by
    rw [readLine, event]
    simp only [answer]
  refine complete rfl ?_ reply ?_ later
  · rw [Turn.executed?, event]
    rfl
  · rw [Passage.transcript, answer]

/-- A line that ends no statement is held. -/
theorem unclosed (holding : Holding front) (opens : front = [] → Opens (trim line))
    (unclosed : ¬ Closes (trim line))
    (later : Follows database (front ++ [trim line]) rest passages) :
    Follows database front (Utf8.encode line :: rest) passages := by
  have event := LineEvent.ofLine_of_not_closes holding opens unclosed
  have reply : readLine ⟨database, held front⟩ line =
      ⟨"", some ⟨database, held (front ++ [trim line])⟩⟩ := by
    rw [readLine, event]
  constructor
  · rw [turns_encode, reply, List.filterMap_cons, Turn.executed?, event]
    exact later.executed
  · rw [turns_encode, reply, ← later.prompted, prompted_append, List.map_cons, Turn.prompted,
      prompt_held, List.append_assoc]
    rfl
  · rw [transcript_encode, reply, ← later.printed, prompted_append, prompt_held]
    simp [String.append_assoc]

/-- A line that ends a statement has it executed. -/
theorem closed (holding : Holding front) (opens : front = [] → Opens (trim line))
    (closes : Closes (trim line))
    (later : Follows ((Session.execute (String.intercalate " " (front ++ [trim line]))).run
      database).2 [] rest passages) :
    Follows database front (Utf8.encode line :: rest)
      (.statement (front ++ [trim line]) :: passages) := by
  have event := LineEvent.ofLine_of_closes holding opens closes
  generalize ended : (Session.execute (String.intercalate " " (front ++ [trim line]))).run
    database = outcome at later
  obtain ⟨result, database'⟩ := outcome
  have reply : readLine ⟨database, held front⟩ line =
      ⟨Report.result result ++ "\n", some ⟨database', held []⟩⟩ := by
    rw [readLine, event]
    simp only [ended]
    rfl
  refine complete rfl ?_ reply ?_ later
  · rw [Turn.executed?, event]
    rfl
  · rw [Passage.transcript]
    simp only [ended]

end Follows

/-- Line by line the shell follows the passages of its input, with those it holds in front. -/
theorem follows (database : Database) {front : List String} (holding : Holding front)
    (lines : List String) :
    Follows database front (lines.map Utf8.encode) (ofLines (front ++ lines.map trim)) := by
  induction lines generalizing database front with
  | nil =>
    rw [List.map_nil, List.map_nil, List.append_nil]
    by_cases idle : front = []
    · subst idle
      rw [ofLines]
      exact .ended database
    · rw [ofLines_of_pending holding.toPending idle]
      exact .unfinished database idle
  | cons line rest ih =>
    rw [List.map_cons, List.map_cons]
    by_cases blank : front = [] ∧ trim line = ""
    · obtain ⟨rfl, blank⟩ := blank
      rw [List.nil_append, blank, ofLines_blank]
      exact .blank blank (ih database .nil)
    · by_cases dotted : front = [] ∧ IsCommand (trim line)
      · obtain ⟨rfl, dotted⟩ := dotted
        have filled : trim line ≠ "" := fun none => blank ⟨rfl, none⟩
        rw [List.nil_append, ofLines_command filled dotted]
        split
        · next leaves => exact .leave filled dotted leaves database _
        · next stays => exact .command filled dotted stays (ih database .nil)
      · have opens : front = [] → Opens (trim line) := fun idle =>
          ⟨fun none => blank ⟨idle, none⟩, fun command => dotted ⟨idle, command⟩⟩
        by_cases closes : Closes (trim line)
        · rw [ofLines_of_closes holding.toPending opens closes]
          exact .closed holding opens closes (ih _ .nil)
        · have next := ih database (holding.append opens closes)
          rw [List.append_assoc, List.singleton_append] at next
          exact .unclosed holding opens closes next

theorem follows_encode (input : String) :
    Follows .empty [] (lines (Utf8.encode input)) (ofLines (trimmedLines input)) := by
  obtain ⟨raws, cut, trimmed⟩ := exists_lines_encode input
  rw [cut, ← trimmed]
  exact follows .empty .nil raws

/-- A run of the shell prints prompts and the replies to the lines that it reads, and ends with code
0 whatever fails. The texts that it executes are the statements among the passages of its input, in
their order; it reads the lines of the passages and no others, each behind its prompt, and prints
what the passages say. The passages are the lines from the first on, and beyond them there is
something only where a command left the shell. -/
theorem reads_passages (arguments : List String) (starts : Request.ofArguments arguments = .shell)
    (input : String) :
    let bytes := lines (Utf8.encode input)
    let turns := start.turns bytes
    let passages := ofLines (trimmedLines input)
    CommandLine.run arguments (Utf8.encode input) =
      ⟨banner ++ (String.join (turns.map Turn.printed) ++ start.closing bytes), 0⟩ ∧
    turns.filterMap Turn.executed? = passages.filterMap Passage.text? ∧
    turns.map Turn.prompted = passages.flatMap (fun passage => Passage.prompted passage.lines) ∧
    CommandLine.run arguments (Utf8.encode input) =
      ⟨banner ++ Passage.transcript .empty passages, 0⟩ ∧
    (∀ passage ∈ passages, Formed passage) ∧ StopsWhereLeft passages ∧
    ∃ unread, trimmedLines input = passages.flatMap Passage.lines ++ unread ∧
      (unread ≠ [] → Left passages) := by
  intro bytes turns passages
  have followed := follows_encode input
  have ran : CommandLine.run arguments (Utf8.encode input) =
      ⟨banner ++ start.transcript bytes, 0⟩ := by
    rw [CommandLine.run, starts]
  have printed : start.transcript bytes = Passage.transcript .empty passages := by
    rw [← followed.printed]
    exact String.empty_append.symm
  refine ⟨?_, followed.executed, followed.prompted, ?_, formed_of_mem_ofLines _,
    stopsWhereLeft_ofLines _, exists_eq_flatMap_lines_append _⟩
  · rw [ran, transcript_eq_join_printed]
  · rw [ran, printed]

/-- A blank and a dotted line within a statement, text behind a semicolon, and what follows the
command that leaves the shell. -/
theorem reads_passages_of_mixed_lines :
    (start.turns (lines (Utf8.encode
        " \n.help\n SELECT *\r\n\n.tables\n FROM t; é\n;\n.quit\nSELECT 1;"))).filterMap
      Turn.executed? = ["SELECT *  .tables FROM t; é", ";"] := by
  have starts : Request.ofArguments ["--log-level", "info"] = .shell := by decide
  rw [(reads_passages ["--log-level", "info"] starts _).2.1]
  decide +kernel

end Shell

end SqlStore
