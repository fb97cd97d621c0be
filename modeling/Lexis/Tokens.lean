import Lexis.Cursor.Basic
import Lexis.Fault
import Lexis.Log

/-!
# Tokens — whole sources

* `tokens source` is the list of all tokens of a source, up to the first end of input, which is its
  last element.
* `strictTokens source` refuses a source with a character outside the language: it answers the
  first such character, and how many tokens come before it.

Both come with a version that also gives the records of the scan, `scanSource` and `scanStrict`.
-/

namespace Lexis

/-- The tokens from a cursor on, up to the end of input, each with its record. -/
def Cursor.scan (c : Cursor) : Logged (List Token) :=
  if _h : c.nextToken.1.isEndOfInput then
    ⟨[c.nextToken.1], [.scanned c.nextToken.1]⟩
  else
    let rest := c.nextToken.2.scan
    ⟨c.nextToken.1 :: rest.value, .scanned c.nextToken.1 :: rest.records⟩
termination_by c.ahead.length
decreasing_by exact c.length_ahead_nextToken_lt _h

/-- The tokens of a source, and the records of the scan. -/
def scanSource (source : Text) : Logged (List Token) :=
  let scan := (Cursor.ofText source).scan
  ⟨scan.value, scan.records ++ [.tokenized source.length scan.value.length]⟩

/-- The tokens of a source; the last is the end of input. -/
def tokens (source : Text) : List Token :=
  (scanSource source).value

/-! ## Strict reading -/

/-- The token list, unless it holds an illegal token: then the first of them, with its index. -/
def requireLegal (ts : List Token) : Except Fault (List Token) :=
  match ts.zipIdx.find? fun (t, _) => t.isIllegal with
  | some (t, index) => .error (.illegalToken t.literal index)
  | none => .ok ts

/-- The tokens of a source without illegal ones, and the records of the scan. -/
def scanStrict (source : Text) : Logged (Except Fault (List Token)) :=
  let scan := scanSource source
  ⟨requireLegal scan.value, scan.records⟩

/-- The tokens of a source, or the first character that is not in the language. -/
def strictTokens (source : Text) : Except Fault (List Token) :=
  (scanStrict source).value

end Lexis
