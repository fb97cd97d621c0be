import Lexis.Text.Blank
import Lexis.Text.Lines
import Lexis.Text.Utf8

/-!
# Line — what a line typed at the console asks for

A line is read as a whole, with its line feed, and has to be valid UTF-8.  The line feeds and
carriage returns at its end do not belong to its content.  A content that is the quit command, with
or without white space around it, ends the session; any other is a source.
-/

namespace Lexis

namespace Console

/-- The command that ends a session. -/
def quitCommand : Text :=
  ".quit".toList

/-- The line without the line feeds and carriage returns at its end. -/
def content (line : Text) : Text :=
  Text.dropEndWhile (fun c => c == '\n' || c == '\r') line

/-- Whether the content of a line is the quit command, white space aside. -/
def isQuit (content : Text) : Bool :=
  Text.trimBlank content == quitCommand

/-- What a line asks for. -/
inductive Request where
  | notUtf8
  | quit
  | source (text : Text)
  deriving DecidableEq, Repr

def Request.ofLine (line : Bytes) : Request :=
  match Text.ofUtf8? line with
  | none => notUtf8
  | some text => if isQuit (content text) then quit else source (content text)

def isTerminated (line : Bytes) : Bool :=
  line.getLast? == some lineFeed

end Console

end Lexis
