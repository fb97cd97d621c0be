import Lexis.Proofs.Tokens.Reading

/-!
# Seam — the tokens of two texts joined

Two texts joined are read one after the other unless the first character of the second would be read
with the last token of the first.

* `Joins a b` says so in terms of the two characters at the seam and of the last token before it;
  whether a last `=` can still be paired depends on how the symbols before it were.
* What is read before the last token stays read, whatever follows (`Reads.exists_replace_last`), so
  a seam that joins changes that token only (`Joins.tokens_append`).
* All other texts are read one after the other (`tokens_append_of_not_joins`).
-/

namespace Lexis

/-! ## The last token of a reading -/

/-- Whatever takes the place of the last token and of what follows it, all before it is read as it
was. -/
theorem Reads.exists_replace_last {s : Text} {ts : List Token} {t : Token}
    (h : Reads s (ts ++ [t])) :
    ∃ before gap, s = before ++ (t.literal ++ gap) ∧ IsGap gap ∧ Lexeme t.kind t.literal ∧
      ∀ rest us, Reads (t.literal ++ rest) us → Reads (before ++ (t.literal ++ rest)) (ts ++ us) := by
  induction ts generalizing s with
  | nil =>
    rcases h.exists_of_cons with ⟨before, gap, rfl, hbefore, ht, -, hgap⟩
    refine ⟨before, gap, rfl, hgap.isGap_of_nil, ht, ?_⟩
    intro rest us hus
    exact hus.gap_append hbefore
  | cons u ts ih =>
    rcases h.exists_of_cons with ⟨start, after, rfl, hstart, hu, hapart, hafter⟩
    rcases ih hafter with ⟨before, gap, rfl, hgap, ht, hreplace⟩
    refine ⟨start ++ (u.literal ++ before), gap, by simp, hgap, ht, ?_⟩
    intro rest us hus
    -- what follows the first token still begins in the same way
    have hne : before ++ t.literal ≠ [] := by simp [ht.ne_nil]
    have hapart' : ∀ c ∈ (before ++ (t.literal ++ rest)).head?, ¬ u.ExtendedBy c := by
      rw [← List.append_assoc, List.head?_append_of_ne_nil _ hne]
      rwa [← List.append_assoc, List.head?_append_of_ne_nil _ hne] at hapart
    simpa using Reads.token hstart hu hapart' (hreplace rest us hus)

/-- A gap at the end of a text that does not end in a space is empty. -/
theorem IsGap.eq_nil_of_not_endsInSpace {s gap : Text} (hgap : IsGap gap)
    (h : ¬ Reads.EndsInSpace (s ++ gap)) : gap = [] := by
  rcases List.eq_nil_or_concat' gap with hnil | ⟨more, c, rfl⟩
  · exact hnil
  · have hc : isSpace c = true := hgap c (by simp)
    exact absurd ⟨c, by simp, hc⟩ h

/-- A text that does not end in a space ends in the literal of its last token. -/
theorem Reads.exists_replace_literal {s : Text} {ts : List Token} {t : Token}
    (h : Reads s (ts ++ [t])) (hs : ¬ EndsInSpace s) :
    ∃ before, s = before ++ t.literal ∧
      ∀ rest us, Reads (t.literal ++ rest) us → Reads (s ++ rest) (ts ++ us) := by
  rcases h.exists_replace_last with ⟨before, gap, rfl, hgap, -, hreplace⟩
  rw [← List.append_assoc] at hs
  obtain rfl := hgap.eq_nil_of_not_endsInSpace hs
  refine ⟨before, by simp, ?_⟩
  simpa using hreplace

/-! ## Seams that join -/

/-- Whether the last token of the first text would go on in the second: letters meet, digits meet,
or a single `=` or `!` meets an equals sign. -/
def Joins (a b : Text) : Prop :=
  (∃ c ∈ a.getLast?, ∃ d ∈ b.head?, isLetter c = true ∧ isLetter d = true) ∨
    (∃ c ∈ a.getLast?, ∃ d ∈ b.head?, isDigit c = true ∧ isDigit d = true) ∨
      (∃ t ∈ (tokens a).dropLast.getLast?, (t.kind = .assign ∨ t.kind = .bang) ∧
        ¬ Reads.EndsInSpace a ∧ b.head? = some '=')

/-- The last character of a token tells by which characters the token is extended. -/
theorem Lexeme.extendedBy_iff {t : Token} {c : Char} (h : Lexeme t.kind t.literal)
    (hc : c ∈ t.literal) (d : Char) :
    t.ExtendedBy d ↔
      (isLetter c = true ∧ isLetter d = true) ∨ (isDigit c = true ∧ isDigit d = true) ∨
        ((t.kind = .assign ∨ t.kind = .bang) ∧ d = '=') := by
  rw [Token.ExtendedBy, h.isRun_isLetter_iff hc, h.kind_eq_integer_iff hc]

/-- A seam joins if the next character extends the last token, and no space stands between. -/
theorem joins_iff (a b : Text) :
    Joins a b ↔ ¬ Reads.EndsInSpace a ∧
      ∃ t ∈ (tokens a).dropLast.getLast?, ∃ d ∈ b.head?, t.ExtendedBy d := by
  have hreads := reads_tokens a
  by_cases hspace : Reads.EndsInSpace a
  · -- a space is neither a letter nor a digit
    rcases id hspace with ⟨c, hc, hcspace⟩
    have hletter : isLetter c = false := by
      cases h : isLetter c with
      | false => rfl
      | true => simp [isSpace_eq_false_of_isLetter h] at hcspace
    have hdigit : isDigit c = false := by
      cases h : isDigit c with
      | false => rfl
      | true => simp [isSpace_eq_false_of_isDigit h] at hcspace
    simp [Joins, Option.mem_def.1 hc, hletter, hdigit, hspace]
  · rcases List.eq_nil_or_concat' (tokens a).dropLast with hnil | ⟨ts, t, hts⟩
    · rw [hnil] at hreads
      obtain rfl : a = [] := hreads.isGap_of_nil.eq_nil_of_not_endsInSpace (s := []) hspace
      simp [Joins, hnil]
    · -- the last character belongs to the last token, and tells of which sort it is
      rw [hts] at hreads
      have ht : Lexeme t.kind t.literal := hreads.lexeme_of_mem t (by simp)
      rcases List.eq_nil_or_concat' t.literal with hnil | ⟨body, c, hliteral⟩
      · exact absurd hnil ht.ne_nil
      rcases hreads.exists_replace_literal hspace with ⟨before, hbefore, -⟩
      have hc : a.getLast? = some c := by simp [hbefore, hliteral]
      have hmem : c ∈ t.literal := by simp [hliteral]
      cases hb : b.head? <;>
        simp [Joins, hc, hts, hspace, hb, ht.extendedBy_iff hmem]

/-! ## Token lists across a seam -/

/-- A token is not read alone before a character that extends it. -/
theorem Lexeme.tokens_append_ne {t : Token} {d : Char} {b : Text} (h : Lexeme t.kind t.literal)
    (hd : d ∈ b.head?) (hextended : t.ExtendedBy d) : tokens (t.literal ++ b) ≠ t :: tokens b := by
  intro heq
  have hreads : Reads (t.literal ++ b) (t :: (tokens b).dropLast) := by
    apply reads_iff.2
    calc
      tokens (t.literal ++ b) = t :: tokens b := heq
      _ = t :: (tokens b).dropLast ++ [Token.endOfInput] := by
            simp [← (reads_tokens b).tokens_eq]
  rcases hreads.exists_of_cons with ⟨gap, rest, hrest, hgap, ht, hapart, -⟩
  -- the literal is read where the text begins, so what follows it is the second text
  have hdrop := congrArg (List.dropWhile isSpace) hrest
  have hfirst := Cursor.dropWhile_gap_append isGap_nil h b
  rw [List.nil_append] at hfirst
  rw [hfirst, Cursor.dropWhile_gap_append hgap ht rest] at hdrop
  obtain rfl : b = rest := List.append_cancel_left hdrop
  exact hapart d hd hextended

/-- Where a seam joins, the last token before it is read anew, with what follows behind it. -/
theorem Joins.tokens_append {a b : Text} (h : Joins a b) :
    ∃ ts t, (tokens a).dropLast = ts ++ [t] ∧ tokens (t.literal ++ b) ≠ t :: tokens b ∧
      tokens (a ++ b) = ts ++ tokens (t.literal ++ b) := by
  rcases (joins_iff a b).1 h with ⟨hspace, t, hlast, d, hd, hextended⟩
  rcases List.getLast?_eq_some_iff.1 hlast with ⟨ts, hts⟩
  have hreads := reads_tokens a
  rw [hts] at hreads
  have ht : Lexeme t.kind t.literal := hreads.lexeme_of_mem t (by simp)
  refine ⟨ts, t, hts, ht.tokens_append_ne hd hextended, ?_⟩
  rcases hreads.exists_replace_literal hspace with ⟨-, -, hreplace⟩
  have hrest := reads_tokens (t.literal ++ b)
  calc
    tokens (a ++ b)
        = ts ++ (tokens (t.literal ++ b)).dropLast ++ [Token.endOfInput] :=
          (hreplace b _ hrest).tokens_eq
    _ = ts ++ tokens (t.literal ++ b) := by
          rw [List.append_assoc, ← hrest.tokens_eq]

/-- Where no seam joins, the texts are read one after the other. -/
theorem tokens_append_of_not_joins {a b : Text} (h : ¬ Joins a b) :
    tokens (a ++ b) = (tokens a).dropLast ++ tokens b := by
  have hb := reads_tokens b
  have hseam : ∀ t ∈ (tokens a).dropLast.getLast?, ∀ c ∈ b.head?, ¬ Reads.EndsInSpace a →
      ¬ t.ExtendedBy c := by
    intro t ht c hc hspace hextended
    exact h ((joins_iff a b).2 ⟨hspace, t, ht, c, hc, hextended⟩)
  calc
    tokens (a ++ b)
        = (tokens a).dropLast ++ (tokens b).dropLast ++ [Token.endOfInput] :=
          ((reads_tokens a).append hb hseam).tokens_eq
    _ = (tokens a).dropLast ++ tokens b := by
          rw [List.append_assoc, ← hb.tokens_eq]

/-- Two texts joined have the tokens of both, one list after the other, exactly if the seam does not
join.  Where it does, only the last token of the first text is read differently: it is read anew,
with the second text behind it. -/
theorem tokens_append_iff_not_joins (a b : Text) :
    ∃ ts, tokens a = ts ++ [Token.endOfInput] ∧
      (tokens (a ++ b) = ts ++ tokens b ↔ ¬ Joins a b) ∧
      (Joins a b → ∃ us t, ts = us ++ [t] ∧
        tokens (a ++ b) = us ++ tokens (t.literal ++ b)) := by
  refine ⟨(tokens a).dropLast, (reads_tokens a).tokens_eq, ⟨?_, ?_⟩, ?_⟩
  · intro heq hjoins
    rcases hjoins.tokens_append with ⟨us, t, hts, hne, hseam⟩
    have hboth : us ++ tokens (t.literal ++ b) = us ++ t :: tokens b := by
      simp [← hseam, heq, hts]
    exact hne (List.append_cancel_left hboth)
  · exact tokens_append_of_not_joins
  · intro hjoins
    rcases hjoins.tokens_append with ⟨us, t, hts, -, hseam⟩
    exact ⟨us, t, hts, hseam⟩

end Lexis
