import Lexis.CommandLine.Answer

/-!
# Surroundings — a run, wherever it takes place

How arguments are understood, how a file is read and how a session is held are not a matter of the
run, which is given all three.

* A `Parser` finds the options that arguments stand for, or answers in place of a run.
* `Outside` reads files and holds sessions in a monad, and `runIn` is a run in that monad.
* `Surroundings` do both without effects: files are read by a function of the path, and the session
  is the console on a given input.  The answer to a run in them is `answer`.
-/

namespace Lexis

namespace CommandLine

/-- The options of a run: the path of a source, and whether foreign characters are refused. -/
structure Options where
  path? : Option Text
  strict : Bool
  deriving DecidableEq, Repr

/-- A way to understand arguments.  Where they do not stand for options, as when help is asked for
or something is wrong with them, it gives the answer itself. -/
abbrev Parser := List Text → Except Answer Options

/-! ## Runs in a monad -/

/-- What a run needs from outside. -/
structure Outside (m : Type → Type) where
  /-- The bytes of the file at a path. -/
  readFile : Text → m (Except IoFault Bytes)
  /-- Greets the user and holds a session.  Gives the output that is still to be written, and the
  failure that the session ended in, if in one. -/
  converse : m (Bytes × Option IoFault)

variable {m : Type → Type} [Monad m]

def Options.runIn (options : Options) (outside : Outside m) : m Answer :=
  match options.path? with
  | some path => return fileAnswer options.strict path (← outside.readFile path)
  | none => do
    let (output, failure?) ← outside.converse
    return consoleAnswer output failure?

/-- A run on arguments. -/
def runIn (parse : Parser) (outside : Outside m) (arguments : List Text) : m Answer :=
  match parse arguments with
  | .error answer => return answer
  | .ok options => options.runIn outside

/-! ## Runs without effects -/

/-- What a run finds around it: what reading gives at each path, its standard input, and the name of
its user. -/
structure Surroundings where
  read : Text → Except IoFault Bytes
  input : Console.Input
  user? : Option Text

def Surroundings.outside (around : Surroundings) : Outside Id where
  readFile := around.read
  converse :=
    let report := Console.run around.input .faultless
    (Text.utf8 (greeting around.user?) ++ report.output, report.failure?)

/-- The answer to a run on arguments. -/
def answer (parse : Parser) (around : Surroundings) (arguments : List Text) : Answer :=
  (runIn parse around.outside arguments).run

end CommandLine

end Lexis
