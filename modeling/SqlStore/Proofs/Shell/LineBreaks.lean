import SqlStore.Proofs.Shell.Stretches
import SqlStore.Proofs.Shell.Trimming

/-! # Statements over several lines

The shell trims lines and puts a space between them. A newline that is in no string stands between
tokens, and so do the blanks around it, so the tokens stay the same; and as no token begins with a
dot, no line of a statement is taken for a command.
-/

namespace SqlStore.Shell

open Text Passage

theorem held_append_held (a b : List String) : held (a ++ b) = held a ++ held b := by
  simp [held]

theorem blank_held {lines : List String} (blank : ∀ line ∈ lines, line = "") :
    Blank (held lines).toList := by
  intro c member
  simp only [held, String.toList_join, List.flatMap_map, List.mem_flatMap] at member
  obtain ⟨line, inside, member⟩ := member
  obtain rfl := blank line inside
  obtain rfl := List.mem_singleton.mp member
  decide

/-- The lines of a text, trimmed and with spaces between them, have its tokens. -/
theorem spelled_held_trimmedLines {text : String} {tokens : List Token}
    (spelled : Token.Spelled tokens text.toList)
    (outside : ∀ body, .string body ∈ tokens → '\n' ∉ body.toList) :
    Token.Spelled tokens (held (trimmedLines (text ++ "\n"))).toList := by
  have newline : isBlank '\n' = true := by decide
  have space : isBlank ' ' = true := by decide
  rw [← Token.spelled_append_blank_iff (Token.blank_singleton newline), ← flatMap_lines] at spelled
  have trimmed := spelled.flatMap_trimChars newline outside space
  rw [held, trimmedLines_append_newline, String.toList_join]
  simpa [List.flatMap_map, trim] using trimmed

/-- Blank lines have no tokens. -/
theorem spelled_held_append_iff {before lines behind : List String} {tokens : List Token}
    (blankBefore : ∀ line ∈ before, line = "") (blankBehind : ∀ line ∈ behind, line = "") :
    Token.Spelled tokens (held (before ++ lines ++ behind)).toList ↔
      Token.Spelled tokens (held lines).toList := by
  rw [held_append_held, held_append_held, String.toList_append, String.toList_append,
    Token.spelled_append_blank_iff (blank_held blankBehind),
    Token.spelled_blank_append_iff (blank_held blankBefore)]

theorem spelled_intercalate_iff {lines : List String} {last : String} {tokens : List Token} :
    Token.Spelled tokens (String.intercalate " " (lines ++ [last])).toList ↔
      Token.Spelled tokens (held (lines ++ [last])).toList := by
  have space : Blank " ".toList := Token.blank_singleton (by decide)
  rw [held_append, ← intercalate_append, String.toList_append,
    Token.spelled_append_blank_iff space]

/-- The first line of a statement is no command, for no token begins with a dot. -/
theorem opens_of_spelled {lines : List String} {tokens : List Token}
    (spelled : Token.Spelled tokens (held lines).toList)
    (filled : ∀ first ∈ lines.head?, first ≠ "") : ∀ first ∈ lines.head?, Opens first := by
  intro first member
  refine ⟨filled first member, fun dotted => spelled.head?_ne_dot ?_⟩
  obtain ⟨rest, rfl⟩ := List.head?_eq_some_iff.mp member
  simp [held, show first.toList.head? = some '.' from dotted]

/-- Typed lines that make one statement, with blank ones before and behind. -/
structure Arranged (before lines : List String) (last : String) (behind : List String) : Prop where
  blankBefore : ∀ line ∈ before, trim line = ""
  filled : ∀ first ∈ (lines.map trim ++ [trim last]).head?, first ≠ ""
  unclosed : ∀ line ∈ lines, ¬ Closes (trim line)
  closes : Closes (trim last)
  blankBehind : ∀ line ∈ behind, trim line = ""

/-- A statement begins with the first line that is not blank. -/
theorem exists_arranged {front behind : List String} {last : String}
    (unclosed : ∀ line ∈ front, ¬ Closes (trim line)) (closes : Closes (trim last))
    (blank : ∀ line ∈ behind, trim line = "") :
    ∃ before lines, front = before ++ lines ∧ Arranged before lines last behind := by
  refine ⟨front.takeWhile (trim · = ""), front.dropWhile (trim · = ""),
    List.takeWhile_append_dropWhile.symm, ?_, ?_, ?_, closes, blank⟩
  · intro line member
    exact of_decide_eq_true (List.all_eq_true.mp List.all_takeWhile line member)
  · intro first member none
    have outside := List.head?_dropWhile_not (fun line => decide (trim line = "")) front
    cases cut : front.dropWhile (trim · = "") with
    | nil =>
      rw [cut] at member
      obtain rfl := Option.some.inj member
      rw [none] at closes
      cases closes
    | cons line rest =>
      rw [cut] at member outside
      obtain rfl := Option.some.inj member
      simp [none] at outside
  · intro line member
    exact unclosed line ((List.dropWhile_suffix _).mem member)

/-- What is typed for a text: its lines, and perhaps blank ones. Only the last line of the text is
one that ends a statement. -/
theorem exists_typed {text : String} {pieces : List (List Char)} {piece : List Char}
    (cut : Text.lines text.toList = pieces ++ [piece]) (unclosed : ∀ line ∈ pieces, ';' ∉ line)
    (closes : ';' ∈ piece) :
    ∃ front last behind, Shell.lines (Utf8.encode (text ++ "\n")) =
        (front ++ last :: behind).map Utf8.encode ∧
      trimmedLines (text ++ "\n") = (front ++ last :: behind).map trim ∧
      (∀ line ∈ front, ¬ Closes (trim line)) ∧ Closes (trim last) ∧
      ∀ line ∈ behind, trim line = "" := by
  obtain ⟨raws, typed, trimmed⟩ := exists_lines_encode (text ++ "\n")
  obtain ⟨blanks, more, blank⟩ := exists_lines_append_newline text.toList
  let trimPiece := fun piece : List Char => trim (String.ofList piece)
  have closes_iff (piece : List Char) : Closes (trimPiece piece) ↔ ';' ∈ piece := by
    rw [Closes, mem_trim_iff (by decide), String.toList_ofList]
  have whole : raws.map trim =
      pieces.map trimPiece ++ (trimPiece piece :: blanks.map trimPiece) := by
    rw [trimmed, trimmedLines_append_newline, more, cut, List.append_assoc, List.map_append]
    rfl
  obtain ⟨front, rest, rfl, front_eq, rest_eq⟩ := List.map_eq_append_iff.mp whole
  obtain ⟨last, behind, rfl, last_eq, behind_eq⟩ := List.map_eq_cons_iff.mp rest_eq
  refine ⟨front, last, behind, typed, trimmed.symm, ?_, ?_, ?_⟩
  · rw [← List.forall_mem_map (P := (¬ Closes ·)), front_eq, List.forall_mem_map]
    exact fun line member => mt (closes_iff line).mp (unclosed line member)
  · rw [last_eq]
    exact (closes_iff piece).mpr closes
  · rw [← List.forall_mem_map (P := (· = "")), behind_eq, List.forall_mem_map]
    rintro line member
    rw [blank line member]
    rfl

/-- Splitting a statement over lines does not change it. Let a text be cut into tokens, with no
newline in a string and with semicolons in its last line only. If it is typed into a shell with no
pending statement, one text is executed, and that has the same tokens. So it ends as the text itself
would; nothing is printed but its result and prompts, and the shell is left with its database. -/
theorem line_breaks_do_not_matter {text : String} {tokens : List Token}
    (lexed : Token.ofText text = .ok tokens)
    (outside : ∀ body, .string body ∈ tokens → '\n' ∉ body.toList)
    {front : List (List Char)} {last : List Char}
    (cut : Text.lines text.toList = front ++ [last]) (unclosed : ∀ line ∈ front, ';' ∉ line)
    (closes : ';' ∈ last) (database : Database) :
    let shell : Shell := ⟨database, ""⟩
    let typed := Shell.lines (Utf8.encode (text ++ "\n"))
    let ended := (Session.execute text).run database
    ∃ joined, (shell.turns typed).filterMap Turn.executed? = [joined] ∧
      Token.ofText joined = .ok tokens ∧ (Session.execute joined).run database = ended ∧
      String.join ((shell.turns typed).map fun turn => turn.reply.output) =
        Report.result ended.1 ++ "\n" ∧
      shell.after typed = some ⟨ended.2, ""⟩ := by
  intro shell typed ended
  obtain ⟨_, line, behind, encoded, trimmed, open_, closed, blank⟩ :=
    exists_typed cut unclosed closes
  obtain ⟨before, lines, rfl, arranged⟩ := exists_arranged open_ closed blank
  have parts {α : Type} (f : String → α) : (before ++ lines ++ line :: behind).map f =
      before.map f ++ (lines.map f ++ [f line]) ++ behind.map f := by simp
  rw [parts] at encoded trimmed
  have spelled : Token.Spelled tokens text.toList := Lexer.tokens_eq_ok_iff.mp lexed
  have all := spelled_held_trimmedLines spelled outside
  rw [trimmed, spelled_held_append_iff (List.forall_mem_map.mpr arranged.blankBefore)
    (List.forall_mem_map.mpr arranged.blankBehind)] at all
  let joined := String.intercalate " " (lines.map trim ++ [trim line])
  have lexedJoined : Token.ofText joined = .ok tokens :=
    Lexer.tokens_eq_ok_iff.mpr (spelled_intercalate_iff.mpr all)
  have same := Session.execute_eq_of_ofText_eq (lexedJoined.trans lexed.symm)
  have opens := opens_of_spelled all arranged.filled
  have read := ((Reads.blank arranged.blankBefore database).append
    (.statement opens arranged.unclosed arranged.closes database)).append
      (.blank arranged.blankBehind _)
  rw [← encoded, same, List.nil_append, List.append_nil, String.empty_append,
    String.append_empty] at read
  exact ⟨joined, read.executed, lexedJoined, congrArg (·.run database) same, read.replied,
    read.reached⟩

/-- Blank lines, a carriage return, and a string with a semicolon in the last line. -/
theorem line_breaks_do_not_matter_in_insertion :
    let database := ((Session.execute "CREATE TABLE t (a TEXT)").run .empty).2
    let shell : Shell := ⟨database, ""⟩
    let text := "\n \t\nINSERT \r\n\n  INTO t\n\tVALUES( 'a;  b');  \n"
    let typed := Shell.lines (Utf8.encode (text ++ "\n"))
    ((shell.turns typed).filterMap Turn.executed?).length = 1 ∧
    String.join ((shell.turns typed).map fun turn => turn.reply.output) = "OK\n" ∧
    (shell.after typed).map (fun next => (next.database.rows ⟨"t", []⟩, next.pending)) =
      some (.ok [[.text "a;  b"]], "") := by
  intro database shell text typed
  have lexed : Token.ofText text = .ok [.ident "INSERT", .ident "INTO", .ident "t",
      .ident "VALUES", .leftParen, .string "a;  b", .rightParen, .semicolon] := by decide +kernel
  have cut : Text.lines text.toList =
      [[], " \t".toList, "INSERT \r".toList, [], "  INTO t".toList] ++
        ["\tVALUES( 'a;  b');  ".toList] := by decide +kernel
  have outside (body : String) (member : .string body ∈ [Token.ident "INSERT", .ident "INTO",
      .ident "t", .ident "VALUES", .leftParen, .string "a;  b", .rightParen, .semicolon]) :
      '\n' ∉ body.toList := by
    obtain rfl : body = "a;  b" := by simpa using member
    decide
  obtain ⟨joined, executed, -, -, replied, reached⟩ :=
    line_breaks_do_not_matter lexed outside cut (by decide) (by decide) database
  refine ⟨?_, ?_, ?_⟩
  · rw [executed]
    rfl
  · rw [replied]
    decide +kernel
  · rw [reached]
    decide +kernel

end SqlStore.Shell
