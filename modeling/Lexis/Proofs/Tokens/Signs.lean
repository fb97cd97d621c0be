import Lexis.Proofs.Tokens.Seam

/-!
# Signs — runs of bangs and equals signs

Equals signs are paired from the left, two at a time, and the one that may be left over stands
alone.  A bang takes the equals sign behind it, so the last of several bangs shifts the pairs by
one.

`Token.signs` says what a run of bangs and then equals signs is read as.  It is read so between any
two texts that do not go on in it (`tokens_append_signs`).
-/

namespace Lexis

/-! ## Operators -/

/-- An operator is a token by itself, unless an equals sign would be read with it. -/
theorem tokens_operator_append {k : Kind} {w s : Text} (hw : (w, k) ∈ Kind.operators)
    (hs : k = .assign ∨ k = .bang → s.head? ≠ some '=') :
    tokens (w ++ s) = ⟨k, w⟩ :: tokens s := by
  have hlexeme : Lexeme (⟨k, w⟩ : Token).kind (⟨k, w⟩ : Token).literal := .operator hw
  have hsymbols : ∀ entry ∈ Kind.operators, entry.1.all isSymbol = true := by decide
  rcases List.exists_mem_of_ne_nil w hlexeme.ne_nil with ⟨c, hc⟩
  rcases isSymbol_sorts (List.all_eq_true.1 (hsymbols _ hw) c hc) with ⟨hletter, hdigit, -⟩
  have hapart : ∀ d ∈ s.head?, ¬ (⟨k, w⟩ : Token).ExtendedBy d := by
    intro d hd hextended
    have hsign : (k = .assign ∨ k = .bang) ∧ d = '=' := by
      simpa [hletter, hdigit] using (hlexeme.extendedBy_iff hc d).1 hextended
    exact hs hsign.1 (hsign.2 ▸ hd)
  exact hlexeme.tokens_append hapart

/-- The only spellings of the two kinds that an equals sign extends. -/
theorem Lexeme.eq_of_assign_or_bang {k : Kind} {w : Text} (h : Lexeme k w)
    (hk : k = .assign ∨ k = .bang) : w = ['='] ∨ w = ['!'] := by
  cases h with
  | identifier _ _ | integer _ | illegal _ => simp at hk
  | reserved hmem =>
    have hall : ∀ entry ∈ Kind.reserved, ¬ (entry.2 = .assign ∨ entry.2 = .bang) := by decide
    exact absurd hk (hall _ hmem)
  | operator hmem =>
    have hall : ∀ entry ∈ Kind.operators, entry.2 = .assign ∨ entry.2 = .bang →
        entry.1 = ['='] ∨ entry.1 = ['!'] := by decide
    exact hall _ hmem hk

/-! ## The tokens of a run -/

namespace Token

/-- Equals signs, paired from the left. -/
def pairedEquals (n : Nat) : List Token :=
  List.replicate (n / 2) ⟨.equal, ['=', '=']⟩ ++ List.replicate (n % 2) ⟨.assign, ['=']⟩

/-- Bangs and then equals signs; the last bang takes the first equals sign. -/
def signs : Nat → Nat → List Token
  | bangs, 0 => List.replicate bangs ⟨.bang, ['!']⟩
  | 0, equals + 1 => pairedEquals (equals + 1)
  | bangs + 1, equals + 1 =>
    List.replicate bangs ⟨.bang, ['!']⟩ ++ ⟨.notEqual, ['!', '=']⟩ :: pairedEquals equals

theorem pairedEquals_add_two (n : Nat) :
    pairedEquals (n + 2) = ⟨.equal, ['=', '=']⟩ :: pairedEquals n := by
  simp [pairedEquals, List.replicate_succ]

end Token

section Runs

variable {s : Text} (hs : s.head? ≠ some '=')

include hs

theorem tokens_equals_append : ∀ n : Nat,
    tokens (List.replicate n '=' ++ s) = Token.pairedEquals n ++ tokens s
  | 0 => by simp [Token.pairedEquals]
  | 1 => tokens_operator_append (w := ['=']) (by decide) fun _ => hs
  | n + 2 => by
    -- a pair is read whole, whatever comes next
    have hpair := tokens_operator_append (k := .equal) (w := ['=', '='])
      (s := List.replicate n '=' ++ s) (by decide) (by simp)
    simpa [List.replicate_succ, Token.pairedEquals_add_two, tokens_equals_append n] using hpair

theorem tokens_bangs_append (n : Nat) :
    tokens (List.replicate n '!' ++ s) = List.replicate n ⟨.bang, ['!']⟩ ++ tokens s := by
  induction n with
  | zero => simp
  | succ n ih =>
    -- behind a bang there is another one, or the text that begins with no equals sign
    have hnext : (List.replicate n '!' ++ s).head? ≠ some '=' := by
      cases n with
      | zero => simpa using hs
      | succ n => simp [List.replicate_succ]
    have hbang := tokens_operator_append (k := .bang) (w := ['!']) (by decide) fun _ => hnext
    simpa [List.replicate_succ, ih] using hbang

/-- Bangs and equals signs are read as their tokens before what does not go on in an equals sign. -/
theorem tokens_signs_append (bangs equals : Nat) :
    tokens (List.replicate bangs '!' ++ (List.replicate equals '=' ++ s)) =
      Token.signs bangs equals ++ tokens s := by
  cases equals with
  | zero => simpa [Token.signs] using tokens_bangs_append hs bangs
  | succ equals =>
    cases bangs with
    | zero => simpa [Token.signs] using tokens_equals_append hs (equals + 1)
    | succ bangs =>
      have hbangs := tokens_bangs_append
        (s := ['!', '='] ++ (List.replicate equals '=' ++ s)) (by simp) bangs
      have hpair := tokens_operator_append (k := .notEqual) (w := ['!', '='])
        (s := List.replicate equals '=' ++ s) (by decide) (by simp)
      calc
        tokens (List.replicate (bangs + 1) '!' ++ (List.replicate (equals + 1) '=' ++ s))
            = tokens (List.replicate bangs '!' ++
                (['!', '='] ++ (List.replicate equals '=' ++ s))) := by
              rw [List.replicate_succ' (n := bangs), List.replicate_succ (n := equals)]
              simp
        _ = Token.signs (bangs + 1) (equals + 1) ++ tokens s := by
              rw [hbangs, hpair, tokens_equals_append hs equals]
              simp [Token.signs]

end Runs

/-! ## A run between two texts -/

/-- A text that ends in neither sign does not go on in an operator. -/
theorem not_joins_of_isSymbol {a b : Text} (ha : ∀ c ∈ a.getLast?, c ≠ '!' ∧ c ≠ '=')
    (hb : ∀ d ∈ b.head?, isSymbol d = true) : ¬ Joins a b := by
  rintro (⟨-, -, d, hd, -, hletter⟩ | ⟨-, -, d, hd, -, hdigit⟩ | ⟨t, hlast, hkind, hspace, -⟩)
  · simp [(isSymbol_sorts (hb d hd)).1] at hletter
  · simp [(isSymbol_sorts (hb d hd)).2.1] at hdigit
  · -- the last token would be a sign by itself, and the text would end in it
    rcases List.getLast?_eq_some_iff.1 hlast with ⟨ts, hts⟩
    have hreads : Reads a (ts ++ [t]) := hts ▸ reads_tokens a
    have ht : Lexeme t.kind t.literal := hreads.lexeme_of_mem t (by simp)
    rcases hreads.exists_replace_literal hspace with ⟨before, rfl, -⟩
    rcases ht.eq_of_assign_or_bang hkind with hliteral | hliteral <;> simp [hliteral] at ha

/-- A run of bangs and then equals signs, between a text that ends in neither and one that does not
begin with an equals sign, is read as its tokens, between the tokens of the two. -/
theorem tokens_append_signs {a b : Text} {bangs equals : Nat} (hrun : bangs ≠ 0 ∨ equals ≠ 0)
    (ha : ∀ c ∈ a.getLast?, c ≠ '!' ∧ c ≠ '=') (hb : b.head? ≠ some '=') :
    ∃ ts, tokens a = ts ++ [Token.endOfInput] ∧
      tokens (a ++ List.replicate bangs '!' ++ List.replicate equals '=' ++ b) =
        ts ++ Token.signs bangs equals ++ tokens b := by
  refine ⟨(tokens a).dropLast, (reads_tokens a).tokens_eq, ?_⟩
  have hsign : ∀ d ∈ (List.replicate bangs '!' ++ (List.replicate equals '=' ++ b)).head?,
      isSymbol d = true := by
    cases bangs with
    | succ bangs => simp [List.replicate_succ, isSymbol, symbols]
    | zero =>
      cases equals with
      | succ equals => simp [List.replicate_succ, isSymbol, symbols]
      | zero => simp at hrun
  calc
    tokens (a ++ List.replicate bangs '!' ++ List.replicate equals '=' ++ b)
        = tokens (a ++ (List.replicate bangs '!' ++ (List.replicate equals '=' ++ b))) := by
          simp
    _ = (tokens a).dropLast ++
          tokens (List.replicate bangs '!' ++ (List.replicate equals '=' ++ b)) :=
          tokens_append_of_not_joins (not_joins_of_isSymbol ha hsign)
    _ = (tokens a).dropLast ++ Token.signs bangs equals ++ tokens b := by
          rw [tokens_signs_append hb, List.append_assoc]

/-- Three bangs and four equals signs, of which the last is left over, behind a word and before
another bang. -/
theorem tokens_append_signs_left_over :
    (3 ≠ 0 ∨ 4 ≠ 0) ∧ (∀ c ∈ ['x'].getLast?, c ≠ '!' ∧ c ≠ '=') ∧ ['!'].head? ≠ some '=' ∧
      tokens "x!!!====!".toList =
        [⟨.identifier, ['x']⟩, ⟨.bang, ['!']⟩, ⟨.bang, ['!']⟩, ⟨.notEqual, ['!', '=']⟩,
         ⟨.equal, ['=', '=']⟩, ⟨.assign, ['=']⟩, ⟨.bang, ['!']⟩, Token.endOfInput] := by
  have hrun : 3 ≠ 0 ∨ 4 ≠ 0 := by decide
  have ha : ∀ c ∈ ['x'].getLast?, c ≠ '!' ∧ c ≠ '=' := by simp
  have hb : ['!'].head? ≠ some '=' := by simp
  have hbefore : tokens ['x'] = [⟨.identifier, ['x']⟩] ++ [Token.endOfInput] := by decide +kernel
  have hafter : tokens ['!'] = [⟨.bang, ['!']⟩, Token.endOfInput] := by decide +kernel
  rcases tokens_append_signs hrun ha hb with ⟨ts, hts, heq⟩
  obtain rfl : ts = [⟨.identifier, ['x']⟩] := List.append_cancel_right (hts.symm.trans hbefore)
  rw [hafter] at heq
  exact ⟨hrun, ha, hb, heq⟩

end Lexis
