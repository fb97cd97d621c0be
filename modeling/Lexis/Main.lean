import Lexis.CommandLine.Arguments

/-!
# Main — the program

The outer layer of the program performs what the library tells: it reads files and lines, and writes
the effects of a session and the answer of a run.  A file is answered at once; the console takes one
step for each line that is typed, so that a user sees the answer to a line before typing the next.
-/

namespace Lexis

namespace Main

open CommandLine

/-- Reads a line, with its line feed; the end of the input gives what is left of it. -/
partial def readLine (input : IO.FS.Stream) (line : Bytes) : IO Bytes := do
  match (← input.read 1).toList with
  | [] => return line.reverse
  | byte :: _ =>
    if byte == lineFeed then return (byte :: line).reverse
    else readLine input (byte :: line)

/-- Performs the effects that an output shows. -/
def perform (output : IO.FS.Stream) (effects : List Console.Effect) : IO Unit := do
  for effect in effects do
    match effect with
    | .write text => output.putStr (String.ofList text)
    | .flush => output.flush
    | .read _ => pure ()
    | .log _ => pure ()

/-- Takes the steps of a session from the next prompt on, and gives the failure that it ends in, if
any. -/
partial def converse (input output : IO.FS.Stream) : IO (Option IoFault) := do
  perform output Console.prompt
  let line ← readLine input []
  if line.isEmpty then
    return none
  else
    let step := Console.step none line
    perform output step.effects
    match step.ending? with
    | some failure? => return failure?
    | none => converse input output

/-- Files, and the session on the standard input and output, which are written to at once. -/
def outside : Outside IO where
  readFile path := do
    try
      return .ok (← IO.FS.readBinFile (String.ofList path)).toList
    catch problem => return .error (.custom (toString problem).toList)
  converse := do
    let output ← IO.getStdout
    let user? := (← IO.getEnv "USER").map String.toList
    let failure? ←
      try
        output.putStr (String.ofList (greeting user?))
        converse (← IO.getStdin) output
      catch problem => pure (some (.custom (toString problem).toList))
    return ([], failure?)

end Main

end Lexis

/-- Runs the program. -/
def main (arguments : List String) : IO UInt32 := do
  let answer ← Lexis.CommandLine.runIn Lexis.CommandLine.parseArguments Lexis.Main.outside
    (arguments.map String.toList)
  let output ← IO.getStdout
  output.write answer.stdout.toByteArray
  output.flush
  (← IO.getStderr).putStr (String.ofList answer.stderr)
  return answer.exitCode.toUInt32
