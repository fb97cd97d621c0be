import Lexis.Console.Session

/-!
# Sink — a session on an output that may fail

A sink takes bytes.  It may have room for so many only: a text that does not fit is stored as far as
it fits, and writing fails.  One of its flushes may fail.  `Transcript.play` performs the effects of
a session on a sink until one fails, and reports the bytes stored, the bytes read, the flushes made
and how the session ended.
-/

namespace Lexis

namespace Console

/-- An output: the room that is left, if it is limited, and the number of the flush that fails, if
one does, counted from one. -/
structure Sink where
  room? : Option Nat
  failingFlush? : Option Nat
  deriving DecidableEq, Repr

namespace Sink

def faultless : Sink :=
  ⟨none, none⟩

/-- Whether there is room for all the bytes. -/
def fits (sink : Sink) (bytes : Bytes) : Bool :=
  match sink.room? with
  | none => true
  | some room => bytes.length ≤ room

/-- The bytes that are stored of those written. -/
def stored (sink : Sink) (bytes : Bytes) : Bytes :=
  match sink.room? with
  | none => bytes
  | some room => bytes.take room

/-- The sink after the bytes are stored. -/
def filled (sink : Sink) (bytes : Bytes) : Sink :=
  { sink with room? := sink.room?.map (· - bytes.length) }

/-- The sink after a flush that did not fail. -/
def flushed (sink : Sink) : Sink :=
  { sink with failingFlush? := sink.failingFlush?.map (· - 1) }

end Sink

/-- What is left of a session when it is over. -/
structure Report where
  output : Bytes
  consumed : Nat
  flushes : Nat
  failure? : Option IoFault
  deriving DecidableEq, Repr

/-- Performs effects on a sink until one fails; `failure?` is how the session ends if none does. -/
def perform (failure? : Option IoFault) : Sink → List Effect → Report
  | _, [] => ⟨[], 0, 0, failure?⟩
  | sink, .write text :: rest =>
    let bytes := Text.utf8 text
    if sink.fits bytes then
      let report := perform failure? (sink.filled bytes) rest
      { report with output := bytes ++ report.output }
    else
      ⟨sink.stored bytes, 0, 0, some .sinkFull⟩
  | sink, .flush :: rest =>
    -- a flush counts even if it fails
    if sink.failingFlush? = some 1 then
      ⟨[], 0, 1, some .flushFailed⟩
    else
      let report := perform failure? sink.flushed rest
      { report with flushes := report.flushes + 1 }
  | sink, .read bytes :: rest =>
    let report := perform failure? sink rest
    { report with consumed := bytes.length + report.consumed }
  | sink, .log _ :: rest => perform failure? sink rest

def Transcript.play (t : Transcript) (sink : Sink) : Report :=
  perform t.failure? sink t.effects

/-- Runs the console on an input and a sink. -/
def run (input : Input) (sink : Sink) : Report :=
  (session input).play sink

end Console

end Lexis
