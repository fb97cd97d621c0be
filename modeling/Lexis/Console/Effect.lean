import Lexis.Fault
import Lexis.Log

/-!
# Effect — what a console session does

A session is told by its effects in order: texts written, flushes, lines read and records logged.
A transcript is the effects of a session together with the failure that it ends in, if it ends in
one.  It tells what happens as long as the output takes everything; what a sink does to it is a
matter of its own.
-/

namespace Lexis

namespace Console

/-- One thing that a session does. -/
inductive Effect where
  | write (text : Text)
  | flush
  | read (bytes : Bytes)
  | log (record : LogRecord)
  deriving DecidableEq, Repr

/-- The record that an effect adds to the log. -/
def Effect.record? : Effect → Option LogRecord
  | log record => some record
  | _ => none

/-- The effects of a session, and the failure that it ends in, if any. -/
structure Transcript where
  effects : List Effect
  failure? : Option IoFault
  deriving DecidableEq, Repr

namespace Transcript

/-- The transcript with more effects at its start. -/
def after (effects : List Effect) (t : Transcript) : Transcript :=
  ⟨effects ++ t.effects, t.failure?⟩

/-- The records that a session logs. -/
def records (t : Transcript) : List LogRecord :=
  t.effects.filterMap Effect.record?

end Transcript

end Console

end Lexis
