import Lexis.Console.Effect
import Lexis.Console.Line
import Lexis.Cursor.Basic

/-!
# Session — reading lines and printing their tokens

A session prompts, reads a line, prints the tokens of its content one a line, and starts over.  It
ends well at the quit command and at the end of the input; it fails at a line that is not UTF-8, and
where the input fails.  An input that fails does so once its bytes are used up: a last line without
a line feed is read then, but not handled.
-/

namespace Lexis

namespace Console

/-- The input of a session: its bytes, and the failure that reading on ends in, if it is not the
end of the input. -/
structure Input where
  bytes : Bytes
  failure? : Option IoFault
  deriving DecidableEq, Repr

/-- What is written before a line is read. -/
def promptText : Text :=
  ">> ".toList

/-- The prompt is written and flushed. -/
def prompt : List Effect :=
  [.write promptText, .flush]

/-- The tokens from a cursor on are logged and printed, one a line; the end of input is logged
only. -/
def echoTokens (c : Cursor) : List Effect :=
  if _h : c.nextToken.1.isEndOfInput then
    [.log (.scanned c.nextToken.1)]
  else
    .log (.scanned c.nextToken.1) :: .write (Text.line c.nextToken.1.display)
      :: echoTokens c.nextToken.2
termination_by c.ahead.length
decreasing_by exact c.length_ahead_nextToken_lt _h

/-- A source typed at the console is logged, then its tokens are. -/
def handle (source : Text) : List Effect :=
  .log (.consoleLine source) :: echoTokens (.ofText source)

/-- What a session does with a line, up to the next prompt or its end, and how it ends there if it
does. -/
structure Step where
  effects : List Effect
  ending? : Option (Option IoFault)
  deriving DecidableEq, Repr

/-- The step on a line, which may lack its line feed if it is the last one. -/
def step (failure? : Option IoFault) (line : Bytes) : Step :=
  -- the failure is met in looking for the end of the line, before the line is looked at
  if failure?.isSome && !isTerminated line then
    ⟨[.read line], some failure?⟩
  else
    match Request.ofLine line with
    | .notUtf8 => ⟨[.read line], some (some .notUtf8)⟩
    | .quit => ⟨[.read line], some none⟩
    | .source text => ⟨.read line :: handle text, none⟩

/-- The session on the given lines: a prompt and a step for each, until one ends it. -/
def sessionOn (failure? : Option IoFault) : List Bytes → Transcript
  | [] => ⟨prompt, failure?⟩
  | line :: rest =>
    let first := step failure? line
    match first.ending? with
    | some end? => ⟨prompt ++ first.effects, end?⟩
    | none => (sessionOn failure? rest).after (prompt ++ first.effects)

/-- The session on an input. -/
def session (input : Input) : Transcript :=
  sessionOn input.failure? input.bytes.lines

end Console

end Lexis
