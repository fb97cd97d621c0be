import Lexis.Proofs.Tokens.Reading

/-!
# Reprint — token lists as texts, and which lists texts have

The literals of a token list, with a space between each two, make a text with these tokens again
(`reads_reprint`): no token goes on over a space.

So the token lists of texts are exactly the lists of lexemes, each of its own kind, before an end of
input (`IsTokenList`); nothing is asked of neighbours, since a space can stand between any two.
-/

namespace Lexis

/-- Tokens spelled as their kinds are, and then the end of input. -/
def IsTokenList (ts : List Token) : Prop :=
  ∃ us, ts = us ++ [Token.endOfInput] ∧
    ∀ t ∈ us, t.kind ≠ .endOfInput ∧ Lexeme t.kind t.literal

/-- The literals of tokens, with a space between each two. -/
def reprint (ts : List Token) : Text :=
  [' '].intercalate (ts.map Token.literal)

/-! ## What is read of a reprint -/

theorem reprint_cons_cons (t u : Token) (ts : List Token) :
    reprint (t :: u :: ts) = t.literal ++ ([' '] ++ reprint (u :: ts)) := by
  simp [reprint, List.intercalate_cons_cons]

/-- Lexemes are read back from their reprint, whatever their kinds. -/
theorem reads_reprint {ts : List Token} (h : ∀ t ∈ ts, Lexeme t.kind t.literal) :
    Reads (reprint ts) ts := by
  have hspace : IsGap [' '] := by simp [IsGap, isSpace]
  induction ts with
  | nil => exact .gap isGap_nil
  | cons t ts ih =>
    rcases List.forall_mem_cons.1 h with ⟨ht, hts⟩
    cases ts with
    | nil =>
      have hlast : ∀ c ∈ ([] : Text).head?, ¬ t.ExtendedBy c := by simp
      simpa [reprint] using Reads.token isGap_nil ht hlast (.gap isGap_nil)
    | cons u ts =>
      -- the space keeps the token apart from the next one, and is skipped before that
      have hapart : ∀ c ∈ ([' '] ++ reprint (u :: ts)).head?, ¬ t.ExtendedBy c := by
        intro c hc
        obtain rfl : ' ' = c := by simpa using hc
        exact t.not_extendedBy_space (by decide)
      rw [reprint_cons_cons]
      exact Reads.token isGap_nil ht hapart (Reads.gap_append hspace (ih hts))

/-! ## Token lists of texts -/

theorem isTokenList_tokens (s : Text) : IsTokenList (tokens s) := by
  refine ⟨(tokens s).dropLast, (reads_tokens s).tokens_eq, ?_⟩
  intro t ht
  have hlexeme := (reads_tokens s).lexeme_of_mem t ht
  exact ⟨hlexeme.kind_ne_endOfInput, hlexeme⟩

/-- A token list is found again in the reprint of all that comes before the end of input. -/
theorem IsTokenList.tokens_reprint {ts : List Token} (h : IsTokenList ts) :
    tokens (reprint ts.dropLast) = ts := by
  rcases h with ⟨us, rfl, hus⟩
  have hlexemes : ∀ t ∈ us, Lexeme t.kind t.literal := fun t ht => (hus t ht).2
  rw [List.dropLast_concat]
  exact (reads_reprint hlexemes).tokens_eq

/-- The end of input has no literal, so at the end of a list it adds a space at most. -/
theorem exists_reprint_concat_endOfInput (ts : List Token) :
    ∃ gap, IsGap gap ∧ reprint (ts ++ [Token.endOfInput]) = reprint ts ++ gap := by
  induction ts with
  | nil => exact ⟨[], by simp [IsGap], rfl⟩
  | cons t ts ih =>
    cases ts with
    | nil => exact ⟨[' '], by simp [IsGap, isSpace], by simp [reprint, Token.endOfInput]⟩
    | cons u ts =>
      rcases ih with ⟨gap, hgap, hreprint⟩
      refine ⟨gap, hgap, ?_⟩
      calc
        reprint (t :: u :: ts ++ [Token.endOfInput])
            = t.literal ++ ([' '] ++ reprint (u :: ts ++ [Token.endOfInput])) :=
              reprint_cons_cons t u (ts ++ [Token.endOfInput])
        _ = t.literal ++ ([' '] ++ reprint (u :: ts)) ++ gap := by
              rw [hreprint]
              simp
        _ = reprint (t :: u :: ts) ++ gap := by rw [reprint_cons_cons]

/-- A list is that of some text exactly if it holds lexemes of their kinds and then the end of
input.  Reprinted with single spaces, such a list has a text of which it is the token list; so a
text and the reprint of its tokens have the same tokens, and it does not matter whether the empty
literal of the end of input is printed with them. -/
theorem exists_tokens_eq_iff_isTokenList :
    (∀ ts, (∃ s, tokens s = ts) ↔ IsTokenList ts) ∧
      (∀ ts, IsTokenList ts → tokens (reprint ts.dropLast) = ts) ∧
      ∀ s, tokens (reprint (tokens s).dropLast) = tokens s ∧
        tokens (reprint (tokens s)) = tokens s := by
  refine ⟨fun ts => ⟨?_, ?_⟩, fun ts h => h.tokens_reprint, fun s => ?_⟩
  · rintro ⟨s, rfl⟩
    exact isTokenList_tokens s
  · intro h
    exact ⟨reprint ts.dropLast, h.tokens_reprint⟩
  · have hbefore := (isTokenList_tokens s).tokens_reprint
    refine ⟨hbefore, ?_⟩
    rcases exists_reprint_concat_endOfInput (tokens s).dropLast with ⟨gap, hgap, hreprint⟩
    rw [← (reads_tokens s).tokens_eq] at hreprint
    rw [hreprint, tokens_append_gap hgap, hbefore]

end Lexis
