import Lexis.Console.Line
import Lexis.Proofs.Text.Trim
import Lexis.Proofs.Text.Utf8
import Lexis.Proofs.Tokens.Reading

/-!
# Line — quit lines and the sources of the others

A line ends the session if it is the quit command once it is trimmed, line end and all
(`isQuit_content`).  Any other line that is valid UTF-8 is a source with the tokens of the whole
line (`tokens_content`).
-/

namespace Lexis

namespace Console

/-- Whether the line, trimmed of white space, is the quit command. -/
def isQuitLine (line : Text) : Bool :=
  Text.trimBlank line == quitCommand

/-- Whether the bytes are valid UTF-8 for a quit line. -/
def quits (line : Bytes) : Bool :=
  (Text.ofUtf8? line).any isQuitLine

/-! ## The end of a line -/

/-- The characters at the end of a line that do not belong to its content. -/
def isLineEnd (c : Char) : Bool :=
  c == '\n' || c == '\r'

theorem isBlank_of_isLineEnd {c : Char} (h : isLineEnd c = true) : Text.isBlank c = true := by
  rcases Bool.or_eq_true_iff.1 h with hc | hc <;> rw [beq_iff_eq.1 hc] <;> decide

theorem isSpace_of_isLineEnd {c : Char} (h : isLineEnd c = true) : isSpace c = true := by
  rcases Bool.or_eq_true_iff.1 h with hc | hc <;> rw [beq_iff_eq.1 hc] <;> decide

/-- Trimming removes the line end anyway. -/
theorem isQuit_content (line : Text) : isQuit (content line) = isQuitLine line := by
  have hblank : ∀ c, isLineEnd c = true → Text.isBlank c = true := by
    intro c hc
    exact isBlank_of_isLineEnd hc
  have htrim : Text.trimBlank (content line) = Text.trimBlank line :=
    Text.trim_dropEndWhile hblank line
  simp [isQuit, isQuitLine, htrim]

/-- Without its line end a line has the same tokens. -/
theorem tokens_content (line : Text) : tokens (content line) = tokens line := by
  rcases Text.exists_eq_dropEndWhile_append isLineEnd line with ⟨tail, hline, htail⟩
  have hgap : IsGap tail := by
    intro c hc
    exact isSpace_of_isLineEnd (htail c hc)
  calc
    tokens (content line) = tokens (content line ++ tail) := (tokens_append_gap hgap _).symm
    _ = tokens line := congrArg tokens hline.symm

/-! ## Requests -/

theorem Request.ofLine_utf8 (line : Text) :
    ofLine (Text.utf8 line) = if isQuitLine line then quit else source (content line) := by
  simp [ofLine, isQuit_content]

theorem Request.ofLine_of_not_isUtf8 {line : Bytes} (h : line.isUtf8 = false) :
    ofLine line = notUtf8 := by
  have hnone : Text.ofUtf8? line = none := by simpa [Bytes.isUtf8] using h
  simp [ofLine, hnone]

@[simp] theorem quits_utf8 (line : Text) : quits (Text.utf8 line) = isQuitLine line := by
  simp [quits]

end Console

end Lexis
