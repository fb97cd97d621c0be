import Lexis.CommandLine.Arguments
import Lexis.CommandLine.Directory

/-!
# Run — the program in a given directory

A run can be told in full where all that can be read is a directory given as a list of entries.  Such
a `Setting` is one kind of `Surroundings`, and `parseArguments` is one `Parser`; what is true of runs
is true whatever these are.
-/

namespace Lexis

namespace CommandLine

/-- A directory, which is all that can be read from, the standard input and the name of the user. -/
structure Setting where
  directory : Directory
  stdin : Bytes
  user? : Option Text
  deriving DecidableEq, Repr

def Setting.surroundings (setting : Setting) : Surroundings where
  read := setting.directory.read
  input := ⟨setting.stdin, none⟩
  user? := setting.user?

/-- The answer to a run of the program. -/
def run (arguments : List Text) (setting : Setting) : Answer :=
  answer parseArguments setting.surroundings arguments

end CommandLine

end Lexis
