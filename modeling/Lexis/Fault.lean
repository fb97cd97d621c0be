import Lexis.Form

/-!
# Fault — what can go wrong, and how it is told

* `IoFault` holds the causes for which reading or writing fails, each with its message.
* `Fault` is what the library answers in place of a result: a character outside the language, or a
  failure of reading or writing, of which only the message is kept.
* A fault has a name, a message, for a foreign character a tip, a debug form, and a report that
  names the source on a line of its own.
-/

namespace Lexis

/-! ## Failures of reading and writing -/

inductive IoFault where
  | notFound
  | permissionDenied
  | notADirectory
  | isADirectory
  | pathTooLong
  | invalidData
  | unexpectedEnd
  | other
  | notUtf8
  | sinkFull
  | flushFailed
  | custom (message : Text)
  deriving DecidableEq, Repr

def IoFault.message : IoFault → Text
  | notFound => "entity not found".toList
  | permissionDenied => "permission denied".toList
  | notADirectory => "not a directory".toList
  | isADirectory => "is a directory".toList
  | pathTooLong => "invalid filename".toList
  | invalidData => "invalid data".toList
  | unexpectedEnd => "unexpected end of file".toList
  | other => "other error".toList
  | notUtf8 => "stream did not contain valid UTF-8".toList
  | sinkFull => "failed to write whole buffer".toList
  | flushFailed => "flush failed".toList
  | custom message => message

/-! ## Faults -/

/-- What is answered in place of a result. -/
inductive Fault where
  | illegalToken (literal : Text) (index : Nat)
  | io (message : Text)
  deriving DecidableEq, Repr

namespace Fault

/-- The fault of a failure of reading or writing keeps its message. -/
def ofIo (cause : IoFault) : Fault :=
  io cause.message

def name : Fault → Text
  | illegalToken _ _ => "IllegalToken".toList
  | io _ => "Io".toList

/-- The message of a fault; a literal is quoted in it. -/
def message : Fault → Text
  | illegalToken literal index =>
    "illegal token ".toList ++ Text.quoted literal ++ " at token index ".toList
      ++ Text.decimal index
  | io message => "i/o error: ".toList ++ message

/-- What a reader is told to look at, if there is more to say than the message. -/
def tip? : Fault → Option Text
  | illegalToken literal index =>
    -- the token stands here as it is in the source, between back quotes
    some (['\x60'] ++ literal ++ ['\x60'] ++ " (token #".toList ++ Text.decimal index
      ++ ") is not part of the language".toList)
  | io _ => none

def tip (fault : Fault) : Text :=
  fault.tip?.getD []

def causeForm : Fault → Form
  | illegalToken literal index =>
    .record "IllegalToken".toList
      [("token".toList, .quoted literal), ("index".toList, .text (Text.decimal index))]
  | io message => .record "Io".toList [("message".toList, .quoted message)]

def form (fault : Fault) : Form :=
  .record "Error".toList [("internal_error".toList, fault.causeForm)]

/-! ## The report -/

/-- The head of the report: the name, and the tip in parentheses if there is one. -/
def header (fault : Fault) : Text :=
  "Error: ".toList ++ fault.name ++
    match fault.tip? with
    | none => []
    | some tip => [' ', '('] ++ tip ++ [')']

/-- The report of a fault in the named source. -/
def report (fault : Fault) (sourceName : Text) : Text :=
  fault.header ++ "\n-> ".toList ++ sourceName

end Fault

end Lexis
