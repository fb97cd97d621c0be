import Lexis.Console.Sink
import Lexis.Tokens

/-!
# Answer — what a run of the command line answers

A run answers with an exit code and with what it writes to the two outputs.  On a file it prints the
tokens, one a line, or nothing but a report of what is wrong with the file (`fileAnswer`).  Without
a file it greets the user and is a session of the console, whose output stays if it fails
(`consoleAnswer`).  A fault is reported on the standard error and gives exit code 1.
-/

namespace Lexis

namespace CommandLine

/-- What a run answers. -/
structure Answer where
  exitCode : Nat
  stdout : Bytes
  stderr : Text
  deriving DecidableEq, Repr

namespace Answer

def success (stdout : Bytes) : Answer :=
  ⟨0, stdout, []⟩

/-- The run ended in a fault, after it had written to its output. -/
def failure (stdout : Bytes) (fault : Fault) (sourceName : Text) : Answer :=
  ⟨1, stdout, Text.line (fault.report sourceName)⟩

end Answer

/-! ## Files -/

/-- The text of a file, which must be valid UTF-8. -/
def sourceOf (contents : Except IoFault Bytes) : Except Fault Text :=
  match contents with
  | .error cause => .error (.ofIo cause)
  | .ok bytes =>
    match Text.ofUtf8? bytes with
    | none => .error (.ofIo .notUtf8)
    | some source => .ok source

/-- The tokens of a source, without illegal ones if that is asked for. -/
def tokensOf (strict : Bool) (source : Text) : Except Fault (List Token) :=
  if strict then strictTokens source else .ok (tokens source)

/-- Tokens as they are printed, one a line. -/
def listing (ts : List Token) : Text :=
  listingWith Text.isEscaped ts

theorem listing_eq_flatMap (ts : List Token) :
    listing ts = ts.flatMap fun t => Text.line t.display :=
  rfl

@[simp] theorem listing_nil : listing [] = [] :=
  rfl

@[simp] theorem listing_cons (t : Token) (ts : List Token) :
    listing (t :: ts) = Text.line t.display ++ listing ts :=
  rfl

@[simp] theorem listing_append (ts us : List Token) :
    listing (ts ++ us) = listing ts ++ listing us := by
  simp [listing_eq_flatMap]

/-- The answer to a run on a file, given what reading it gave. -/
def fileAnswer (strict : Bool) (path : Text) (contents : Except IoFault Bytes) : Answer :=
  match sourceOf contents with
  | .error fault => .failure [] fault path
  | .ok source =>
    match tokensOf strict source with
    | .error fault => .failure [] fault path
    | .ok ts => .success (Text.utf8 (listing ts))

/-! ## The console -/

/-- The name by which a user is greeted whose name is not known. -/
def unknownUser : Text :=
  "there".toList

/-- What the console starts with. -/
def greeting (user? : Option Text) : Text :=
  Text.line ("Hello ".toList ++ user?.getD unknownUser
      ++ "! Welcome to the Monkey language REPL!".toList)
    ++ Text.line ("Type ".toList ++ Console.quitCommand ++ " to exit the console.".toList)

def consoleName : Text :=
  "stdin".toList

/-- The answer to a session that wrote the output and ended in a failure, if in one. -/
def consoleAnswer (output : Bytes) (failure? : Option IoFault) : Answer :=
  match failure? with
  | none => .success output
  | some cause => .failure output (.ofIo cause) consoleName

end CommandLine

end Lexis
