import SqlStore.CommandLine

/-! # The program

The shell prints a prompt before it waits for each line, so it is driven line by line here; what it
prints is what `Shell.transcript` says.
-/

namespace SqlStore

/-- Bytes up to and including a newline, or up to the end of the input. -/
partial def readBytes (input : IO.FS.Stream) (line : Bytes) : IO Bytes := do
  match (← input.read 1).toList with
  | [] => return line.reverse
  | byte :: _ =>
    if byte = 0x0A then return (byte :: line).reverse else readBytes input (byte :: line)

def print (text : String) : IO Unit := do
  let output ← IO.getStdout
  output.putStr text
  output.flush

partial def interact (input : IO.FS.Stream) (shell : Shell) : IO Unit := do
  print shell.prompt
  match ← readBytes input [] with
  | [] => print "\n"
  | bytes =>
    match Text.Utf8.decode bytes with
    | .error _ => return
    | .ok line =>
      let reply := shell.readLine line
      print reply.output
      match reply.next with
      | some shell => interact input shell
      | none => return

end SqlStore

open SqlStore in
def main (arguments : List String) : IO UInt32 := do
  match Request.ofArguments arguments with
  | .shell =>
    print Shell.banner
    interact (← IO.getStdin) Shell.start
    return 0
  | _ =>
    let completion := CommandLine.run arguments []
    print completion.output
    return UInt32.ofNat completion.code
