import Lexis.Token.Basic

/-!
# Log — what is recorded while the library works

A record has a level and a text.  Every token read is recorded at level `trace`, every finished
token list and every line handled at the console at level `debug`.  A log with a maximum level keeps
the records up to that level.  `Logged α` is a value together with the records of its computation.
-/

namespace Lexis

/-! ## Levels -/

/-- The levels of records, the most important first. -/
inductive Level where
  | info
  | debug
  | trace
  deriving DecidableEq, Repr

namespace Level

/-- The place of a level in the order of importance. -/
def rank : Level → Nat
  | info => 0
  | debug => 1
  | trace => 2

def name : Level → Text
  | info => "INFO".toList
  | debug => "DEBUG".toList
  | trace => "TRACE".toList

end Level

/-! ## Records -/

structure LogRecord where
  level : Level
  text : Text
  deriving DecidableEq, Repr

namespace LogRecord

/-- The record of a token that was read. -/
def scanned (t : Token) : LogRecord :=
  ⟨.trace, "scanned ".toList ++ t.display⟩

/-- The record of a source that was read to its end: how many characters it has, and into how many
tokens it was cut. -/
def tokenized (chars tokens : Nat) : LogRecord :=
  ⟨.debug, "tokenized ".toList ++ Text.decimal chars ++ " chars into ".toList
    ++ Text.decimal tokens ++ " tokens".toList⟩

/-- The record of a line that the console handles. -/
def consoleLine (line : Text) : LogRecord :=
  ⟨.debug, "repl line: ".toList ++ Text.quoted line⟩

/-- Whether a log with the given maximum level keeps the record. -/
def isKept (maximum : Level) (record : LogRecord) : Bool :=
  record.level.rank ≤ maximum.rank

end LogRecord

/-- A value, and the records of its computation in order. -/
structure Logged (α : Type) where
  value : α
  records : List LogRecord

end Lexis
