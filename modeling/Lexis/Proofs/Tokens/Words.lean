import Lexis.Proofs.Tokens.Seam

/-!
# Words — runs of letters, and the reserved ones among them

* A run of letters that goes on at neither end is one token, and its kind is that of the word
  (`tokens_append_word`).
* A token that is spelled as a word has the kind of the word (`Lexeme.kind_eq_ofWord`), and a token
  has the kind of a reserved word exactly if it is spelled as that word (`Lexeme.isKeyword_iff`).

Digits are no letters, so they bound a word as every other character does.
-/

namespace Lexis

/-! ## Words between other characters -/

/-- A word is a lexeme of its kind. -/
theorem Lexeme.word {w : Text} (hw : IsRun isLetter w) :
    Lexeme (Token.word w).kind (Token.word w).literal :=
  Lexeme.iff_branches.2 (Or.inl ⟨hw, rfl⟩)

/-- A text that does not end in a letter does not go on in a word. -/
theorem not_joins_of_isLetter {a b : Text} (ha : ∀ c ∈ a.getLast?, isLetter c = false)
    (hb : ∀ d ∈ b.head?, isLetter d = true) : ¬ Joins a b := by
  rintro (⟨c, hc, -, -, hletter, -⟩ | ⟨-, -, d, hd, -, hdigit⟩ | ⟨-, -, -, -, hsign⟩)
  · simp [ha c hc] at hletter
  · have hletter := hb d hd
    simp [isLetter_eq_false_of_isDigit hdigit] at hletter
  · have hletter : isLetter '=' = true := hb '=' hsign
    revert hletter
    decide

theorem tokens_word_append {w b : Text} (hw : IsRun isLetter w)
    (hb : ∀ d ∈ b.head?, isLetter d = false) : tokens (w ++ b) = Token.word w :: tokens b := by
  have hapart : ∀ d ∈ b.head?, ¬ (Token.word w).ExtendedBy d := by
    intro d hd
    simp [Token.extendedBy_word_iff hw, hb d hd]
  exact (Lexeme.word hw).tokens_append hapart

/-- A run of letters that goes on at neither end is one token between those of the two texts. -/
theorem tokens_append_word {a w b : Text} (hw : IsRun isLetter w)
    (ha : ∀ c ∈ a.getLast?, isLetter c = false) (hb : ∀ d ∈ b.head?, isLetter d = false) :
    tokens (a ++ w ++ b) = (tokens a).dropLast ++ Token.word w :: tokens b := by
  have hhead : ∀ d ∈ (w ++ b).head?, isLetter d = true := by
    intro d hd
    rw [List.head?_append_of_ne_nil _ hw.1] at hd
    exact hw.2 d (List.mem_of_head? hd)
  calc
    tokens (a ++ w ++ b) = tokens (a ++ (w ++ b)) := by simp
    _ = (tokens a).dropLast ++ tokens (w ++ b) :=
          tokens_append_of_not_joins (not_joins_of_isLetter ha hhead)
    _ = (tokens a).dropLast ++ Token.word w :: tokens b := by simp [tokens_word_append hw hb]

/-! ## Keywords -/

theorem Kind.isKeyword_iff {k : Kind} : k.isKeyword = true ↔ ∃ w, (w, k) ∈ Kind.reserved := by
  simp [isKeyword]

namespace Lexeme

variable {k : Kind} {s : Text}

/-- A lexeme that is spelled as a word has the kind of the word. -/
theorem kind_eq_ofWord (h : Lexeme k s) (hs : IsRun isLetter s) : k = .ofWord s := by
  rcases List.exists_mem_of_ne_nil s hs.1 with ⟨c, hc⟩
  exact (h.isRun_and_kind_eq_of_isLetter hc (hs.2 c hc)).2

theorem kind_eq_of_mem_reserved {k' : Kind} (h : Lexeme k s) (hs : (s, k') ∈ Kind.reserved) :
    k = k' :=
  (h.kind_eq_ofWord (isRun_of_reserved hs)).trans (Kind.ofWord_of_mem hs)

/-- A lexeme has the kind of a reserved word exactly if it is that word. -/
theorem isKeyword_iff (h : Lexeme k s) : k.isKeyword = true ↔ (s, k) ∈ Kind.reserved := by
  constructor
  · intro hkeyword
    -- no other way to be a lexeme gives the kind of a reserved word
    cases h with
    | identifier _ _ | integer _ | illegal _ => exact absurd hkeyword (by decide)
    | reserved hmem => exact hmem
    | operator hmem =>
      have hall : ∀ entry ∈ Kind.operators, entry.2.isKeyword = false := by decide
      simp [hall _ hmem] at hkeyword
  · intro hmem
    exact Kind.isKeyword_iff.2 ⟨s, hmem⟩

end Lexeme

/-- The tokens of a text are lexemes, and then there is the end of input. -/
theorem lexeme_or_endOfInput_of_mem_tokens {s : Text} {t : Token} (h : t ∈ tokens s) :
    Lexeme t.kind t.literal ∨ t = Token.endOfInput := by
  rw [(reads_tokens s).tokens_eq] at h
  rcases List.mem_append.1 h with hbefore | hlast
  · exact Or.inl ((reads_tokens s).lexeme_of_mem t hbefore)
  · exact Or.inr (List.mem_singleton.1 hlast)

/-- Words are read whole: a run of letters, between a text that does not end in a letter and one that
does not begin with one, is a single token of the kind of the word, and the two texts are read as if
it were not there.  Keywords are the reserved words and nothing else: a token of any text has the
kind of a keyword exactly if its literal stands in the table, and then it has the kind that stands
there. -/
theorem keywords_are_reserved_words :
    (∀ a w b, IsRun isLetter w → (∀ c ∈ a.getLast?, isLetter c = false) →
      (∀ d ∈ b.head?, isLetter d = false) →
      ∃ ts, tokens a = ts ++ [Token.endOfInput] ∧
        tokens (a ++ w ++ b) = ts ++ ⟨.ofWord w, w⟩ :: tokens b) ∧
    ∀ s, ∀ t ∈ tokens s,
      (t.kind.isKeyword = true ↔ t.literal ∈ Kind.reserved.map Prod.fst) ∧
      ∀ k, (t.literal, k) ∈ Kind.reserved → t.kind = k := by
  constructor
  · intro a w b hw ha hb
    exact ⟨(tokens a).dropLast, (reads_tokens a).tokens_eq, tokens_append_word hw ha hb⟩
  · intro s t ht
    rcases lexeme_or_endOfInput_of_mem_tokens ht with hlexeme | rfl
    · have hkind : ∀ k, (t.literal, k) ∈ Kind.reserved → t.kind = k :=
        fun k hk => hlexeme.kind_eq_of_mem_reserved hk
      refine ⟨?_, hkind⟩
      rw [hlexeme.isKeyword_iff]
      constructor
      · intro hmem
        exact List.mem_map_of_mem hmem
      · intro hmem
        rcases List.mem_map.1 hmem with ⟨⟨w, k⟩, hentry, rfl⟩
        rwa [hkind k hentry]
    · -- the end of input is no keyword, and no word is empty
      simp [Token.endOfInput, Kind.reserved, Kind.isKeyword]

/-- A reserved word with a digit on both sides, and runs that only begin or end like one. -/
theorem keywords_are_reserved_words_between_digits :
    IsRun isLetter "return".toList ∧ (∀ c ∈ "iffy9".toList.getLast?, isLetter c = false) ∧
      (∀ d ∈ "1Let".toList.head?, isLetter d = false) ∧
      tokens "iffy9return1Let".toList =
        [⟨.identifier, "iffy".toList⟩, ⟨.integer, ['9']⟩, ⟨.returnWord, "return".toList⟩,
         ⟨.integer, ['1']⟩, ⟨.identifier, "Let".toList⟩, Token.endOfInput] := by
  have hw : IsRun isLetter "return".toList := ⟨by decide, List.all_eq_true.1 (by decide)⟩
  have hnine : "iffy9".toList.getLast? = some '9' ∧ isLetter '9' = false := by decide
  have hone : "1Let".toList.head? = some '1' ∧ isLetter '1' = false := by decide
  have ha : ∀ c ∈ "iffy9".toList.getLast?, isLetter c = false := by
    rw [hnine.1]
    simp [hnine.2]
  have hb : ∀ d ∈ "1Let".toList.head?, isLetter d = false := by
    rw [hone.1]
    simp [hone.2]
  have hbefore : tokens "iffy9".toList =
      [⟨.identifier, "iffy".toList⟩, ⟨.integer, ['9']⟩] ++ [Token.endOfInput] := by
    decide +kernel
  have hafter : tokens "1Let".toList =
      [⟨.integer, ['1']⟩, ⟨.identifier, "Let".toList⟩, Token.endOfInput] := by decide +kernel
  rcases keywords_are_reserved_words.1 "iffy9".toList "return".toList "1Let".toList hw ha hb with
    ⟨ts, hts, heq⟩
  rw [hbefore] at hts
  rw [← List.append_cancel_right hts, hafter] at heq
  exact ⟨hw, ha, hb, heq⟩

end Lexis
