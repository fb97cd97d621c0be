import Lexis.Proofs.Cursor.Calls
import Lexis.Proofs.Tokens.Chunks

/-!
# Progress — what every call passes, and how many calls there are

A call passes the spaces ahead and then the literal of its token, and nothing else
(`Cursor.exists_gap_nextToken`).  So the literal is the part of the source right behind the cursor,
and where no character but spaces is ahead the call comes to the end of the source, where all
further calls stay.

Every token takes up a character that is no space, so the end of input is reached after as many
calls at most as there are such characters (`Cursor.progress_of_every_call`).
-/

namespace Lexis

/-- The part of a text between what is before it and what is behind it. -/
theorem Text.slice?_append (before part behind : Text) :
    (before ++ (part ++ behind)).slice? before.length (before.length + part.length) =
      some part := by
  simp [Text.slice?, List.take_append]

namespace Cursor

/-! ## What a call passes -/

theorem position_add_length_ahead (c : Cursor) : c.position + c.ahead.length = c.text.length := by
  simp [position, text]

/-- A call passes a gap and the literal of its token. -/
theorem exists_gap_nextToken (c : Cursor) :
    ∃ gap, IsGap gap ∧ c.ahead = gap ++ (c.nextToken.1.literal ++ c.nextToken.2.ahead) ∧
      c.nextToken.2.position = c.position + gap.length + c.nextToken.1.literal.length := by
  have hliteral : c.nextToken.1.literal <+: c.ahead.dropWhile isSpace := by
    simpa [nextToken_fst] using Token.first_literal_prefix (c.ahead.dropWhile isSpace)
  rcases hliteral with ⟨rest, hrest⟩
  have hafter : c.nextToken.2.ahead = rest := by
    rw [ahead_nextToken, ← hrest, List.drop_left]
  have hahead : c.ahead = c.ahead.takeWhile isSpace ++
      (c.nextToken.1.literal ++ c.nextToken.2.ahead) := by
    rw [hafter, hrest, List.takeWhile_append_dropWhile]
  refine ⟨c.ahead.takeWhile isSpace, isGap_takeWhile c.ahead, hahead, ?_⟩
  -- what has been passed is what is no longer ahead
  have hlength := congrArg List.length hahead
  have hbefore := c.position_add_length_ahead
  have hlater := c.nextToken.2.position_add_length_ahead
  simp only [text_nextToken, List.length_append] at hlength hlater
  omega

/-- Behind the spaces the source holds the literal of the token. -/
theorem slice?_nextToken (c : Cursor) :
    let start := c.nextToken.2.position - c.nextToken.1.literal.length
    c.position ≤ start ∧
      c.text.slice? start c.nextToken.2.position = some c.nextToken.1.literal ∧
      ∃ gap, c.text.slice? c.position start = some gap ∧ IsGap gap := by
  intro start
  rcases c.exists_gap_nextToken with ⟨gap, hgap, hahead, hposition⟩
  have hstart : start = c.position + gap.length := by omega
  have hbehind : c.behind.reverse.length = c.position := by simp [position]
  have hskipped := Text.slice?_append c.behind.reverse gap
    (c.nextToken.1.literal ++ c.nextToken.2.ahead)
  have hread := Text.slice?_append (c.behind.reverse ++ gap) c.nextToken.1.literal
    c.nextToken.2.ahead
  rw [← hahead, hbehind, ← hstart] at hskipped
  rw [List.append_assoc, ← hahead, List.length_append, hbehind, ← hposition, ← hstart] at hread
  exact ⟨by omega, hread, gap, hskipped, hgap⟩

/-! ## Calls at the end, and before it -/

/-- With spaces only ahead a call comes to the end, and no call after it goes anywhere. -/
theorem nextToken_of_gap_ahead {c : Cursor} (h : IsGap c.ahead) :
    c.nextToken.1 = .endOfInput ∧ c.nextToken.2.position = c.text.length ∧
      ∀ n, (c.nextToken.2.afterTokens n).nextToken = (.endOfInput, c.nextToken.2) := by
  have htoken := nextToken_of_gap h
  have hend : c.nextToken.1.isEndOfInput = true := by rw [htoken]; rfl
  have hahead := (ahead_nextToken_of_end hend).2
  refine ⟨htoken, ?_, fun n => ?_⟩
  · have hlength := c.nextToken.2.position_add_length_ahead
    simpa [hahead] using hlength
  · rw [afterTokens_of_ahead_eq_nil hahead, nextToken_of_ahead_eq_nil hahead]

/-- With another character ahead a call gives a token that begins with no space. -/
theorem nextToken_of_not_gap_ahead {c : Cursor} (h : ¬ IsGap c.ahead) :
    c.nextToken.1.isEndOfInput = false ∧
      ∃ x more, c.nextToken.1.literal = x :: more ∧ isSpace x = false := by
  have hlexeme : Lexeme c.nextToken.1.kind c.nextToken.1.literal := by
    rw [nextToken_fst]
    cases hs : c.ahead.dropWhile isSpace with
    | nil => exact absurd (List.dropWhile_eq_nil_iff.1 hs) h
    | cons x rest => exact .of_first ((isInk_iff x).1 (isInk_of_dropWhile_eq_cons hs)) rest
  rcases List.exists_cons_of_ne_nil hlexeme.ne_nil with ⟨x, more, hliteral⟩
  have hx : isSpace x = false := hlexeme.isSpace_eq_false x (by simp [hliteral])
  exact ⟨hlexeme.isEndOfInput_eq_false, x, more, hliteral, hx⟩

/-! ## How many calls there are -/

/-- The tokens that are asked for one by one are those of the list, and then the end of input. -/
theorem nextToken_afterTokens (source : Text) (k : Nat) :
    ((ofText source).afterTokens k).nextToken.1 = (tokens source)[k]?.getD .endOfInput := by
  have hdraw := congrArg Prod.fst (Account.draw_cursor ⟨source, k⟩ .nextToken)
  exact Drawn.token.inj hdraw

theorem tokens_eq_map_range (source : Text) :
    tokens source = (List.range (tokens source).length).map fun k =>
      ((ofText source).afterTokens k).nextToken.1 := by
  apply List.ext_getElem
  · simp
  · intro k hk _
    simp [nextToken_afterTokens, hk]

end Cursor

/-- Every token takes up a character that is no space. -/
theorem Reads.length_le_countP {s : Text} {ts : List Token} (h : Reads s ts) :
    ts.length ≤ s.countP isInk := by
  induction h with
  | gap _ => simp
  | token _ ht _ _ ih =>
    -- all characters of a lexeme count, and it has one at least
    have hink := List.countP_eq_length.2 fun x hx => (isInk_iff x).2 (ht.isSpace_eq_false x hx)
    have hpos := List.length_pos_iff.2 ht.ne_nil
    simp only [List.countP_append, List.length_cons, hink]
    omega

namespace Cursor

/-- Every call ends.  With spaces only ahead it gives the end of input and comes to the end of the
source, where all further calls give the same and stay.  Otherwise it gives a token that begins with
no space, stands in the source up to the place that is reached, and has spaces only between it and
the place of the call.  So the end of input is met after one call for every token, and there are no
more tokens than characters that are no spaces. -/
theorem progress_of_every_call :
    (∀ c : Cursor,
      let t := c.nextToken.1
      let c' := c.nextToken.2
      let start := c'.position - t.literal.length
      Scanner.LeadsTo ⟨.skipping, c.registers⟩ ⟨.finished t, c'.registers⟩ ∧ c'.text = c.text ∧
      (IsGap (c.text.drop c.position) →
        t = .endOfInput ∧ c'.position = c.text.length ∧
          ∀ n, (c'.afterTokens n).nextToken = (.endOfInput, c')) ∧
      (¬ IsGap (c.text.drop c.position) →
        t.isEndOfInput = false ∧ (∃ x more, t.literal = x :: more ∧ isSpace x = false) ∧
          c.position ≤ start ∧ c.text.slice? start c'.position = some t.literal ∧
          ∃ gap, c.text.slice? c.position start = some gap ∧ IsGap gap)) ∧
    ∀ source : Text, ∃ n ≤ source.countP isInk,
      (∀ k < n, ((ofText source).afterTokens k).nextToken.1.isEndOfInput = false) ∧
      ((ofText source).afterTokens n).nextToken.1 = .endOfInput ∧
      tokens source = (List.range (n + 1)).map fun k =>
        ((ofText source).afterTokens k).nextToken.1 := by
  constructor
  · intro c t c' start
    rw [drop_position_text]
    refine ⟨c.leadsTo_nextToken, c.text_nextToken, nextToken_of_gap_ahead, fun hahead => ?_⟩
    rcases nextToken_of_not_gap_ahead hahead with ⟨htoken, hfirst⟩
    exact ⟨htoken, hfirst, c.slice?_nextToken⟩
  · intro source
    -- the end of input stands in the list behind as many tokens as are asked for before it
    have hreads := reads_tokens source
    refine ⟨(tokens source).dropLast.length, hreads.length_le_countP, ?_, ?_, ?_⟩
    · intro k hk
      rw [nextToken_afterTokens, hreads.tokens_eq, List.getElem?_append_left hk,
        List.getElem?_eq_getElem hk]
      exact (hreads.lexeme_of_mem _ (List.getElem_mem hk)).isEndOfInput_eq_false
    · rw [nextToken_afterTokens, hreads.tokens_eq]
      simp
    · have hlength := congrArg List.length hreads.tokens_eq
      rw [List.length_append, List.length_singleton] at hlength
      rw [← hlength]
      exact tokens_eq_map_range source

end Cursor

end Lexis
