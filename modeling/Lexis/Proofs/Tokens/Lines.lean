import Lexis.Proofs.Text.Lines
import Lexis.Proofs.Tokens.Reading

/-!
# Lines — the tokens of a text are those of its lines

No token crosses a line feed: the tokens of a text before the end of input are those of its lines,
one line after the other (`dropLast_tokens_lines`).
-/

namespace Lexis

theorem endsInSpace_of_isClosed {line : Text} (h : IsClosed (· == '\n') line) :
    Reads.EndsInSpace line := by
  rcases h with ⟨body, x, rfl, -, hx⟩
  obtain rfl : x = '\n' := beq_iff_eq.1 hx
  exact ⟨'\n', by simp, by decide⟩

/-- Closed lines are read one by one before what follows them. -/
theorem dropLast_tokens_flatten_append {lines : List Text}
    (h : ∀ line ∈ lines, IsClosed (· == '\n') line) (rest : Text) :
    (tokens (lines.flatten ++ rest)).dropLast =
      lines.flatMap (fun line => (tokens line).dropLast) ++ (tokens rest).dropLast := by
  induction lines with
  | nil => rfl
  | cons line lines ih =>
    rcases List.forall_mem_cons.1 h with ⟨hline, hlines⟩
    -- a line feed is a space, so nothing that follows the line extends its last token
    have hseam := tokens_append_of_endsInSpace (endsInSpace_of_isClosed hline) (lines.flatten ++ rest)
    calc
      (tokens ((line :: lines).flatten ++ rest)).dropLast
          = (tokens (line ++ (lines.flatten ++ rest))).dropLast := by simp
      _ = (tokens line).dropLast ++ (tokens (lines.flatten ++ rest)).dropLast := hseam
      _ = (line :: lines).flatMap (fun line => (tokens line).dropLast) ++ (tokens rest).dropLast := by
            simp [ih hlines]

/-- The tokens of a text are those of its lines, whether or not the last one ends in a line feed. -/
theorem dropLast_tokens_lines (s : Text) :
    (tokens s).dropLast = (Text.lines s).flatMap fun line => (tokens line).dropLast := by
  rcases exists_isCut (· == '\n') s with ⟨lines, rest, hcut⟩
  have hlines : Text.lines s = lines ++ if rest = [] then [] else [rest] := hcut.cutAfter_eq
  rw [hlines, hcut.eq, dropLast_tokens_flatten_append hcut.closed]
  -- the open rest is a line of its own unless it is empty, and then it has no tokens
  by_cases hrest : rest = []
  · have hnil : Reads [] [] := .gap (by simp [IsGap])
    simp [hrest, hnil.tokens_eq]
  · simp [hrest]

end Lexis
