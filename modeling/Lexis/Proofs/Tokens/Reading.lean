import Mathlib.Data.List.Basic
import Lexis.Proofs.Token.Longest
import Lexis.Tokens

/-!
# Reading — the tokens of a text as a relation

`Reads s ts` says how a text may be cut into tokens: a gap of spaces, a lexeme that the next
character does not extend, and so on up to a last gap.

* Every text is read in one way only, and that way is its token list (`reads_iff`).
* Two texts joined are read one after the other, unless the first character of the second extends
  the last token of the first (`Reads.append`).
-/

namespace Lexis

/-- A text of spaces only, perhaps of none. -/
def IsGap (s : Text) : Prop :=
  ∀ c ∈ s, isSpace c = true

theorem isGap_nil : IsGap [] := by
  simp [IsGap]

theorem isGap_takeWhile (s : Text) : IsGap (s.takeWhile isSpace) := by
  intro c hc
  exact List.mem_takeWhile_imp hc

theorem isGap_append {s t : Text} (hs : IsGap s) (ht : IsGap t) : IsGap (s ++ t) := by
  intro c hc
  rcases List.mem_append.1 hc with hleft | hright
  · exact hs c hleft
  · exact ht c hright

/-- The tokens that a text is cut into, without the end of input. -/
inductive Reads : Text → List Token → Prop where
  | gap {s : Text} : IsGap s → Reads s []
  | token {gap rest : Text} {t : Token} {ts : List Token} :
    IsGap gap → Lexeme t.kind t.literal → (∀ c ∈ rest.head?, ¬ t.ExtendedBy c) → Reads rest ts →
      Reads (gap ++ (t.literal ++ rest)) (t :: ts)

/-! ## One step of a cursor -/

namespace Cursor

theorem nextToken_fst (c : Cursor) : c.nextToken.1 = Token.first (c.ahead.dropWhile isSpace) := by
  simp [nextToken]

theorem ahead_nextToken (c : Cursor) :
    c.nextToken.2.ahead = (c.ahead.dropWhile isSpace).drop c.nextToken.1.literal.length := by
  simp [nextToken]

theorem nextToken_of_gap {c : Cursor} (h : IsGap c.ahead) : c.nextToken.1 = .endOfInput := by
  have hnil : c.ahead.dropWhile isSpace = [] := List.dropWhile_eq_nil_iff.2 h
  rw [nextToken_fst, hnil]
  rfl

/-- The spaces before a lexeme are passed, and then the lexeme. -/
theorem dropWhile_gap_append {gap : Text} {t : Token} (hgap : IsGap gap)
    (ht : Lexeme t.kind t.literal) (rest : Text) :
    (gap ++ (t.literal ++ rest)).dropWhile isSpace = t.literal ++ rest := by
  rw [List.dropWhile_append_of_pos hgap]
  cases hliteral : t.literal with
  | nil => exact absurd hliteral ht.ne_nil
  | cons x more =>
    have hx : isSpace x = false := ht.isSpace_eq_false x (by simp [hliteral])
    simp [hx]

theorem nextToken_of_token {c : Cursor} {gap rest : Text} {t : Token}
    (hc : c.ahead = gap ++ (t.literal ++ rest)) (hgap : IsGap gap) (ht : Lexeme t.kind t.literal)
    (hrest : ∀ x ∈ rest.head?, ¬ t.ExtendedBy x) :
    c.nextToken.1 = t ∧ c.nextToken.2.ahead = rest := by
  have hdrop : c.ahead.dropWhile isSpace = t.literal ++ rest := by
    simp [hc, dropWhile_gap_append hgap ht]
  have hfirst : c.nextToken.1 = t := by
    rw [nextToken_fst, hdrop]
    exact (ht.first_append_iff rest).2 hrest
  refine ⟨hfirst, ?_⟩
  rw [ahead_nextToken, hfirst, hdrop, List.drop_left]

end Cursor

namespace Lexeme

theorem kind_ne_endOfInput {k : Kind} {s : Text} (h : Lexeme k s) : k ≠ .endOfInput := by
  rintro rfl
  cases h with
  | reserved hmem => exact Kind.endOfInput_not_reserved s hmem
  | operator hmem => simp [Kind.operators] at hmem

theorem isEndOfInput_eq_false {t : Token} (h : Lexeme t.kind t.literal) :
    t.isEndOfInput = false := by
  simpa [Token.isEndOfInput] using h.kind_ne_endOfInput

end Lexeme

/-! ## Every text is read, and in one way -/

namespace Reads

theorem exists_reads (s : Text) : ∃ ts, Reads s ts := by
  have hcut : s.takeWhile isSpace ++ s.dropWhile isSpace = s := List.takeWhile_append_dropWhile
  have hgap := isGap_takeWhile s
  cases hs : s.dropWhile isSpace with
  | nil =>
    rw [hs, List.append_nil] at hcut
    exact ⟨[], .gap (hcut ▸ hgap)⟩
  | cons c rest =>
    have hc : isSpace c = false := by
      have hhead := List.head?_dropWhile_not isSpace s
      simpa [hs] using hhead
    rcases Token.exists_append_of_first hc rest with ⟨after, heq, hafter⟩
    -- a lexeme is not empty, so what follows it is shorter than the text
    have hlt : after.length < s.length := by
      have hpos := List.length_pos_iff.2 (Lexeme.of_first hc rest).ne_nil
      have hlength := congrArg List.length hcut
      rw [hs, heq] at hlength
      simp only [List.length_append] at hlength
      omega
    rcases exists_reads after with ⟨ts, hts⟩
    have hreads := Reads.token hgap (Lexeme.of_first hc rest) hafter hts
    rw [← heq, ← hs, hcut] at hreads
    exact ⟨_, hreads⟩
termination_by s.length

theorem lexeme_of_mem {s : Text} {ts : List Token} (h : Reads s ts) :
    ∀ t ∈ ts, Lexeme t.kind t.literal := by
  induction h with
  | gap _ => simp
  | token _ ht _ _ ih => exact List.forall_mem_cons.2 ⟨ht, ih⟩

/-- How a reading begins: a gap, and a token that what follows does not extend. -/
theorem exists_of_cons {s : Text} {t : Token} {ts : List Token} (h : Reads s (t :: ts)) :
    ∃ gap rest, s = gap ++ (t.literal ++ rest) ∧ IsGap gap ∧ Lexeme t.kind t.literal ∧
      (∀ c ∈ rest.head?, ¬ t.ExtendedBy c) ∧ Reads rest ts := by
  cases h with
  | token hgap ht hrest hreads => exact ⟨_, _, rfl, hgap, ht, hrest, hreads⟩

theorem isGap_of_nil {s : Text} (h : Reads s []) : IsGap s := by
  cases h with
  | gap hgap => exact hgap

/-- A scan gives the tokens that the text ahead is read as, and one record for each. -/
theorem scan_eq {s : Text} {ts : List Token} (h : Reads s ts) :
    ∀ c : Cursor, c.ahead = s →
      c.scan = ⟨ts ++ [Token.endOfInput], (ts ++ [Token.endOfInput]).map .scanned⟩ := by
  -- the cursor moves while the reading is taken apart, so the statement is about every cursor
  induction h with
  | gap hgap =>
    rintro c rfl
    have htoken := Cursor.nextToken_of_gap hgap
    have hend : c.nextToken.1.isEndOfInput = true := by rw [htoken]; rfl
    rw [Cursor.scan, dif_pos hend, htoken]
    rfl
  | token hgap ht hrest _ ih =>
    intro c hc
    rcases Cursor.nextToken_of_token hc hgap ht hrest with ⟨htoken, hahead⟩
    have hend : ¬ c.nextToken.1.isEndOfInput = true := by
      rw [htoken, ht.isEndOfInput_eq_false]
      simp
    rw [Cursor.scan, dif_neg hend, ih _ hahead, htoken]
    rfl

theorem tokens_eq {s : Text} {ts : List Token} (h : Reads s ts) :
    tokens s = ts ++ [Token.endOfInput] := by
  have hscan := h.scan_eq (.ofText s) rfl
  simp [tokens, scanSource, hscan]

end Reads

/-- The tokens before the end of input are the only ones that the text can be read as. -/
theorem reads_iff {s : Text} {ts : List Token} :
    Reads s ts ↔ tokens s = ts ++ [Token.endOfInput] := by
  constructor
  · exact Reads.tokens_eq
  · intro h
    rcases Reads.exists_reads s with ⟨us, hus⟩
    have heq : us = ts := List.append_cancel_right (hus.tokens_eq.symm.trans h)
    exact heq ▸ hus

theorem reads_tokens (s : Text) : Reads s (tokens s).dropLast := by
  rcases Reads.exists_reads s with ⟨ts, hts⟩
  simpa [hts.tokens_eq] using hts

/-- A lexeme is a token by itself before what does not extend it. -/
theorem Lexeme.tokens_append {t : Token} (h : Lexeme t.kind t.literal) {rest : Text}
    (hrest : ∀ c ∈ rest.head?, ¬ t.ExtendedBy c) :
    tokens (t.literal ++ rest) = t :: tokens rest := by
  have hreads := Reads.token isGap_nil h hrest (reads_tokens rest)
  calc
    tokens (t.literal ++ rest)
        = t :: (tokens rest).dropLast ++ [Token.endOfInput] := hreads.tokens_eq
    _ = t :: tokens rest := by
          rw [List.cons_append, ← (reads_tokens rest).tokens_eq]

/-! ## Joining texts -/

theorem Token.not_extendedBy_space (t : Token) {c : Char} (hc : isSpace c = true) :
    ¬ t.ExtendedBy c := by
  rintro (⟨-, hletter⟩ | ⟨-, hdigit⟩ | ⟨-, rfl⟩)
  · simp [isSpace_eq_false_of_isLetter hletter] at hc
  · simp [isSpace_eq_false_of_isDigit hdigit] at hc
  · revert hc
    decide

namespace Reads

/-- The text ends in a space: nothing that follows can extend its last token. -/
def EndsInSpace (s : Text) : Prop :=
  ∃ c ∈ s.getLast?, isSpace c = true

theorem eq_nil_of_nil {ts : List Token} (h : Reads [] ts) : ts = [] := by
  have hnil : Reads [] [] := .gap isGap_nil
  exact List.append_cancel_right (h.tokens_eq.symm.trans hnil.tokens_eq)

theorem gap_append {gap s : Text} {ts : List Token} (hgap : IsGap gap) (h : Reads s ts) :
    Reads (gap ++ s) ts := by
  cases h with
  | gap hs => exact .gap (isGap_append hgap hs)
  | @token gap' rest t ts hgap' ht hrest hreads =>
    have hboth : IsGap (gap ++ gap') := isGap_append hgap hgap'
    simpa using Reads.token hboth ht hrest hreads

/-- Texts are read one after the other if the second does not extend the last token of the
first. -/
theorem append {a b : Text} {ts us : List Token} (ha : Reads a ts) (hb : Reads b us)
    (hseam : ∀ t ∈ ts.getLast?, ∀ c ∈ b.head?, ¬ EndsInSpace a → ¬ t.ExtendedBy c) :
    Reads (a ++ b) (ts ++ us) := by
  induction ha with
  | gap hgap => exact gap_append hgap hb
  | @token gap rest t ts hgap ht hrest hreads ih =>
    -- the seam is at this token if nothing follows it in the first text, and further on otherwise
    by_cases hnil : rest = []
    · subst hnil
      obtain rfl : ts = [] := eq_nil_of_nil hreads
      have hlast : ¬ EndsInSpace (gap ++ (t.literal ++ [])) := by
        rintro ⟨c, hc, hspace⟩
        rw [List.append_nil, List.getLast?_append_of_ne_nil _ ht.ne_nil] at hc
        simp [ht.isSpace_eq_false c (List.mem_of_getLast? hc)] at hspace
      have hb' : ∀ c ∈ b.head?, ¬ t.ExtendedBy c := by
        intro c hc
        exact hseam t rfl c hc hlast
      simpa using Reads.token hgap ht hb' hb
    · -- what follows the token in the first text still follows it in both
      have hjoined : ∀ c ∈ (rest ++ b).head?, ¬ t.ExtendedBy c := by
        rwa [List.head?_append_of_ne_nil _ hnil]
      have hlater : Reads (rest ++ b) (ts ++ us) := by
        refine ih fun u hu c hc hlast => ?_
        refine hseam u (by simp_all [List.getLast?_cons]) c hc ?_
        rintro ⟨d, hd, hspace⟩
        rw [← List.append_assoc, List.getLast?_append_of_ne_nil _ hnil] at hd
        exact hlast ⟨d, hd, hspace⟩
      simpa using Reads.token hgap ht hjoined hlater

/-- Spaces at the end change nothing. -/
theorem append_gap {s gap : Text} {ts : List Token} (h : Reads s ts) (hgap : IsGap gap) :
    Reads (s ++ gap) ts := by
  have hseam : ∀ t ∈ ts.getLast?, ∀ c ∈ gap.head?, ¬ EndsInSpace s → ¬ t.ExtendedBy c := by
    intro t _ c hc _
    exact t.not_extendedBy_space (hgap c (List.mem_of_head? hc))
  simpa using h.append (.gap hgap) hseam

end Reads

/-! ## Token lists of joined texts -/

theorem tokens_append_gap {gap : Text} (hgap : IsGap gap) (s : Text) :
    tokens (s ++ gap) = tokens s := by
  have hreads := (reads_tokens s).append_gap hgap
  calc
    tokens (s ++ gap) = (tokens s).dropLast ++ [Token.endOfInput] := hreads.tokens_eq
    _ = tokens s := (reads_tokens s).tokens_eq.symm

/-- A text that ends in a space is read before whatever follows it. -/
theorem tokens_append_of_endsInSpace {a : Text} (ha : Reads.EndsInSpace a) (b : Text) :
    (tokens (a ++ b)).dropLast = (tokens a).dropLast ++ (tokens b).dropLast := by
  have hreads := (reads_tokens a).append (reads_tokens b) fun _ _ _ _ h => absurd ha h
  simp [hreads.tokens_eq]

end Lexis
