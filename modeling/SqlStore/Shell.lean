import SqlStore.Report

/-! # The shell

The shell reads lines. A statement goes on over lines until one of them holds a semicolon; its
lines are trimmed and joined by single spaces. Where no statement is pending, a line that begins
with a dot is a command to the shell itself.

What the shell prints is a function of all that it reads, prompts included.
-/

namespace SqlStore

/-- What a line completes. -/
inductive LineEvent where
  | nothing
  | command (text : String)
  | statement (text : String)
deriving DecidableEq, Repr

namespace LineEvent

/-- What a line completes behind the pending text, and the text that is pending after it. -/
def ofLine (pending line : String) : LineEvent × String :=
  let trimmed := Text.trim line
  if pending.isEmpty && trimmed.isEmpty then (nothing, "")
  else if pending.isEmpty && trimmed.toList.head? = some '.' then (command trimmed, "")
  else
    let joined := pending ++ trimmed ++ " "
    if ';' ∈ joined.toList then (statement (Text.trim joined), "") else (nothing, joined)

end LineEvent

structure Shell where
  database : Database
  /-- The lines of an unfinished statement, each with a space behind it. -/
  pending : String
deriving DecidableEq, Repr

/-- What the shell prints in answer to a line, and the shell that reads the next one, if it does. -/
structure Reply where
  output : String
  next : Option Shell
deriving DecidableEq, Repr

namespace Shell

def start : Shell := ⟨.empty, ""⟩

def version : String := "0.1.0"

def banner : String :=
  "MiniSQL v" ++ version ++ "\n" ++
  "Type SQL and end with ';'. Enter \".help\" for usage hints, Ctrl-D to exit.\n"

def help : String :=
  ".exit              Exit this program\n" ++
  ".help              Show this message\n" ++
  ".tables            List tables and their columns\n" ++
  "\n" ++
  "Statements: CREATE TABLE t (col INT|TEXT|BOOL, ...);\n" ++
  "            INSERT INTO t VALUES (1, 'text', ...);\n" ++
  "            SELECT * | col, ... FROM t;\n"

def prompt (shell : Shell) : String :=
  if shell.pending.isEmpty then "minisql> " else "   ...> "

/-- One line for each table. -/
def describe (database : Database) : String :=
  match database.tables with
  | .ok tables => String.join (tables.map fun table => Report.schema table ++ "\n")
  | .error failure => "Error: " ++ failure.display ++ "\n"

/-- The answer to a command, or nothing where the command ends the shell. -/
def command? (database : Database) (text : String) : Option String :=
  if text = ".exit" ∨ text = ".quit" then none
  else if text = ".help" then some help
  else if text = ".tables" then some (describe database)
  else some ("Error: unknown command: " ++ text ++ "\n")

def readLine (shell : Shell) (line : String) : Reply :=
  match LineEvent.ofLine shell.pending line with
  | (.nothing, pending) => ⟨"", some { shell with pending }⟩
  | (.command text, pending) =>
    match command? shell.database text with
    | some output => ⟨output, some { shell with pending }⟩
    | none => ⟨"", none⟩
  | (.statement text, pending) =>
    let (result, database) := (Session.execute text).run shell.database
    ⟨Report.result result ++ "\n", some ⟨database, pending⟩⟩

/-- Cuts bytes behind every newline. What follows the last newline is a line if it is not empty. -/
def lines : Bytes → List Bytes
  | [] => []
  | byte :: rest =>
    if byte = 0x0A then [byte] :: lines rest
    else match lines rest with
      | [] => [[byte]]
      | line :: others => (byte :: line) :: others

/-- What is printed from the first prompt on. The end of the input is answered by a newline; a line
that is no text ends the shell without one. -/
def transcript (shell : Shell) : List Bytes → String
  | [] => shell.prompt ++ "\n"
  | bytes :: rest =>
    shell.prompt ++
      match Text.Utf8.decode bytes with
      | .error _ => ""
      | .ok line =>
        let reply := shell.readLine line
        match reply.next with
        | some shell => reply.output ++ shell.transcript rest
        | none => reply.output

end Shell

end SqlStore
