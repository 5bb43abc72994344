import SqlStore.Proofs.Shell.Reading
import SqlStore.Proofs.Shell.Trimming
import SqlStore.Proofs.Tables.Runs

/-! # Statements as arguments and as lines

A statement can be an argument of its own or a line typed into the shell. The one is executed as it
stands and the other without the blanks at its ends. If it begins with no blank this makes no
difference, not even for the positions in errors, and the two ways print the same blocks.
-/

namespace SqlStore

open Text Passage

namespace CommandLine

/-- What is printed for texts that are executed one after the other. -/
def blocks (database : Database) (texts : List String) : List String :=
  (DatabaseM.each Session.execute database texts).1.map fun result => Report.result result ++ "\n"

theorem blocks_cons (database : Database) (text : String) (texts : List String) :
    blocks database (text :: texts) =
      (Report.result ((Session.execute text).run database).1 ++ "\n") ::
        blocks ((Session.execute text).run database).2 texts := rfl

theorem runStatements_cons (database : Database) (text : String) (texts : List String) :
    runStatements database (text :: texts) =
      let (result, after) := (Session.execute text).run database
      ⟨Report.result result ++ "\n" ++ (runStatements after texts).output,
        if result.isOk then (runStatements after texts).code else 1⟩ := rfl

theorem runStatements_eq (database : Database) (texts : List String) :
    runStatements database texts =
      ⟨String.join (blocks database texts),
        if (DatabaseM.each Session.execute database texts).1.all Except.isOk then 0 else 1⟩ := by
  induction texts generalizing database with
  | nil => rfl
  | cons text texts ih =>
    rw [runStatements_cons, blocks_cons, DatabaseM.each_cons]
    generalize (Session.execute text).run database = ended
    obtain ⟨result, after⟩ := ended
    dsimp only
    rw [ih]
    cases result with
    | ok outcome => simp [Except.isOk, Except.toBool]
    | error failure => simp [Except.isOk, Except.toBool]

end CommandLine

/-- A statement in one line that is neither a command nor an option. -/
structure OneLine (text : String) : Prop where
  single : '\n' ∉ text.toList
  begins : ∃ c, text.toList.head? = some c ∧ isBlank c = false ∧ c ≠ '.' ∧ c ≠ '-'
  closes : Closes text

namespace OneLine

variable {text : String} {texts : List String}

theorem isValue (line : OneLine text) : Argument.isValue text = true := by
  obtain ⟨c, first, -, -, other⟩ := line.begins
  simp [Argument.isValue, first, other]

theorem clear (line : OneLine text) : ∀ c ∈ text.toList.head?, isBlank c = false := by
  obtain ⟨c, first, visible, -⟩ := line.begins
  rw [first]
  rintro _ ⟨⟩
  exact visible

theorem closes_trim (line : OneLine text) : Closes (trim text) :=
  (mem_trim_iff (by decide)).mpr line.closes

theorem opens_trim (line : OneLine text) : Opens (trim text) where
  left none := by
    have closes := line.closes_trim
    rw [none] at closes
    cases closes
  right dotted := by
    obtain ⟨behind, same, -⟩ := exists_eq_trim_append line.clear
    obtain ⟨c, first, -, other, -⟩ := line.begins
    rw [same, List.head?_append, show (trim text).toList.head? = some '.' from dotted] at first
    exact other (Option.some.inj first).symm

/-- Trimmed or not, the same is executed. -/
theorem execute_trim (line : OneLine text) : Session.execute (trim text) = Session.execute text :=
  Session.execute_eq_of_ofText_eq (Token.ofText_trim line.clear)

/-- Each line is a passage. -/
theorem ofLines_map_trim (oneLine : ∀ text ∈ texts, OneLine text) :
    ofLines (texts.map trim) = texts.map fun text => .statement [trim text] := by
  induction texts with
  | nil => rw [List.map_nil, ofLines, List.map_nil]
  | cons text texts ih =>
    obtain ⟨here, later⟩ := List.forall_mem_cons.mp oneLine
    have cut := ofLines_of_closes Pending.nil (fun _ => here.opens_trim) here.closes_trim
      (texts.map trim)
    rw [List.map_cons, List.map_cons, ← ih later]
    exact cut

/-- What is printed for each statement comes behind a prompt. -/
theorem transcript_eq (oneLine : ∀ text ∈ texts, OneLine text) (database : Database) :
    Passage.transcript database (texts.map fun text => .statement [trim text]) =
      String.join ((CommandLine.blocks database texts).map ("minisql> " ++ ·)) ++
        "minisql> \n" := by
  induction texts generalizing database with
  | nil => rfl
  | cons text texts ih =>
    obtain ⟨here, later⟩ := List.forall_mem_cons.mp oneLine
    have single : String.intercalate " " [trim text] = trim text := by simp
    rw [List.map_cons, Passage.transcript, single, here.execute_trim, CommandLine.blocks_cons]
    generalize (Session.execute text).run database = ended
    obtain ⟨result, after⟩ := ended
    dsimp only
    rw [ih later]
    simp [Passage.lines, Passage.prompted, String.append_assoc]

end OneLine

namespace CommandLine

/-- Arguments that each bring a value for the option are read to their end. -/
theorem ofArgumentsFrom_flatMap {texts : List String}
    (values : ∀ text ∈ texts, Argument.isValue text = true) (settings : Settings) :
    Request.ofArgumentsFrom settings none (texts.flatMap fun text => ["-c", text]) =
      Settings.request { settings with commands := settings.commands ++ texts } := by
  induction texts generalizing settings with
  | nil => simp [Request.ofArgumentsFrom]
  | cons text texts ih =>
    obtain ⟨here, later⟩ := List.forall_mem_cons.mp values
    have option : Argument.ofText "-c" = .setting .command none := by decide
    rw [List.flatMap_cons]
    simp [Request.ofArgumentsFrom, option, here, Settings.set?, ih later]

/-- Statements of one line each may be given as arguments or typed into the shell. As arguments
they are executed in their order, failed ones or not; a block is printed for each, and the code is 1
if one of them fails and 0 otherwise. The shell prints the same blocks, error positions included,
each behind a prompt, and one more prompt at the end of the input. Its code is 0. -/
theorem modes_agree {texts : List String} (some : texts ≠ [])
    (oneLine : ∀ text ∈ texts, OneLine text) (arguments : List String)
    (starts : Request.ofArguments arguments = .shell) (unread : Bytes) :
    let results := (DatabaseM.each Session.execute .empty texts).1
    let blocks := results.map fun result => Report.result result ++ "\n"
    let commands := run (texts.flatMap fun text => ["-c", text]) unread
    let typed := run arguments (Utf8.encode (String.join (texts.map (· ++ "\n"))))
    blocks.length = texts.length ∧
    commands.output = String.join blocks ∧
    (commands.code = 1 ↔ ∃ failure, .error failure ∈ results) ∧
    (commands.code = 0 ↔ ∀ result ∈ results, ∃ outcome, result = .ok outcome) ∧
    typed.output =
      Shell.banner ++ (String.join (blocks.map ("minisql> " ++ ·)) ++ "minisql> \n") ∧
    typed.code = 0 := by
  intro results blocks commands typed
  have asked : Request.ofArguments (texts.flatMap fun text => ["-c", text]) =
      .statements texts := by
    rw [Request.ofArguments,
      ofArgumentsFrom_flatMap fun text member => (oneLine text member).isValue]
    simp [Settings.request, some]
  have ran : commands = ⟨String.join blocks, if results.all Except.isOk then 0 else 1⟩ := by
    change run _ _ = _
    rw [run, asked]
    exact runStatements_eq .empty texts
  have single : ∀ text ∈ texts, '\n' ∉ text.toList :=
    fun text member => (oneLine text member).single
  have shown : typed = ⟨Shell.banner ++
      (String.join (blocks.map ("minisql> " ++ ·)) ++ "minisql> \n"), 0⟩ := by
    change run _ _ = _
    have followed := (Shell.follows_encode (String.join (texts.map (· ++ "\n")))).printed
    rw [trimmedLines_join single, OneLine.ofLines_map_trim oneLine,
      OneLine.transcript_eq oneLine] at followed
    rw [run, starts]
    exact congrArg (Completion.mk · 0) (congrArg (Shell.banner ++ ·) followed)
  rw [ran, shown]
  refine ⟨?_, rfl, ?_, ?_, rfl, rfl⟩
  · rw [List.length_map, DatabaseM.length_each]
  · rw [← Result.not_all_isOk_iff]
    split <;> simp_all
  · rw [← Result.all_isOk_iff]
    split <;> simp_all

/-- A blank behind the semicolon, a character that is no token, and a text behind a statement. -/
theorem modes_agree_on_failures :
    let texts := ["CREATE TABLE t (a INT);\t", "INSERT INTO 'é' @;", "SELECT * FROM t; a"]
    (run ["-c", "CREATE TABLE t (a INT);\t", "-c", "INSERT INTO 'é' @;", "-c", "SELECT * FROM t; a"]
      [0xFF]).code = 1 ∧
    (run ["--log-level", "info"] (Utf8.encode (String.join (texts.map (· ++ "\n"))))).output =
      Shell.banner ++ ("minisql> OK\n" ++
        "minisql> Error: syntax error: [Lexer] Unexpected character at position 17: '@'\n" ++
        "minisql> Error: syntax error: [Parser] Unexpected token after statement: 'a'\n" ++
        "minisql> \n") := by
  intro texts
  have oneLine : ∀ text ∈ texts, OneLine text := by
    simp only [texts, List.forall_mem_cons]
    exact ⟨⟨by decide, ⟨'C', by decide⟩, by decide⟩, ⟨by decide, ⟨'I', by decide⟩, by decide⟩,
      ⟨by decide, ⟨'S', by decide⟩, by decide⟩, nofun⟩
  obtain ⟨-, -, code, -, output, -⟩ := modes_agree (List.cons_ne_nil _ _) oneLine
    ["--log-level", "info"] (by decide) [0xFF]
  refine ⟨code.mpr ⟨.parse (.unexpectedCharacter 17 '@'), ?_⟩, output.trans ?_⟩
  · decide +kernel
  · decide +kernel

end CommandLine

end SqlStore
