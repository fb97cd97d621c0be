import Lexis.Proofs.Token.Lexeme

/-!
# Longest — the token at the head of a text is the longest

`Token.ExtendedBy` says which character after a token would have been read with it.

* A text that begins with a lexeme begins with its token exactly if the next character does not
  extend it (`Lexeme.first_append_iff`).
* A text that does not begin with a space begins with the lexeme of its first token
  (`Lexeme.of_first`, `Token.exists_append_of_first`).
-/

namespace Lexis

/-- Whether the character would be read with the token that it follows. -/
def Token.ExtendedBy (t : Token) (c : Char) : Prop :=
  (IsRun isLetter t.literal ∧ isLetter c = true) ∨ (t.kind = .integer ∧ isDigit c = true) ∨
    ((t.kind = .assign ∨ t.kind = .bang) ∧ c = '=')

/-! ## Runs -/

/-- A run is all that is taken from a text if what follows it does not go on. -/
theorem takeWhile_run_append_iff {p : Char → Bool} {w : Text} (hw : ∀ c ∈ w, p c = true)
    (rest : Text) : (w ++ rest).takeWhile p = w ↔ ∀ c ∈ rest.head?, p c = false := by
  rw [List.takeWhile_append_of_pos hw]
  cases rest with
  | nil => simp
  | cons c rest => cases hc : p c <;> simp [hc]

theorem isRun_takeWhile {p : Char → Bool} {c : Char} (hc : p c = true) (rest : Text) :
    IsRun p ((c :: rest).takeWhile p) := by
  refine ⟨by simp [hc], ?_⟩
  intro d hd
  exact List.mem_takeWhile_imp hd

namespace Token

theorem first_cons_of_isLetter {c : Char} (hc : isLetter c = true) (rest : Text) :
    first (c :: rest) = word ((c :: rest).takeWhile isLetter) := by
  simp [first, hc]

theorem first_cons_of_isDigit {c : Char} (hc : isDigit c = true) (rest : Text) :
    first (c :: rest) = ⟨.integer, (c :: rest).takeWhile isDigit⟩ := by
  simp [first, hc, isLetter_eq_false_of_isDigit hc]

theorem first_letters {w : Text} (hrun : IsRun isLetter w) (rest : Text) :
    first (w ++ rest) = word ((w ++ rest).takeWhile isLetter) := by
  cases w with
  | nil => exact absurd rfl hrun.1
  | cons c w => exact first_cons_of_isLetter (hrun.2 c (by simp)) (w ++ rest)

theorem first_digits {w : Text} (hrun : IsRun isDigit w) (rest : Text) :
    first (w ++ rest) = ⟨.integer, (w ++ rest).takeWhile isDigit⟩ := by
  cases w with
  | nil => exact absurd rfl hrun.1
  | cons c w => exact first_cons_of_isDigit (hrun.2 c (by simp)) (w ++ rest)

theorem first_single {c : Char} (hc : Lexeme.IsSingle c) (rest : Text) :
    first (c :: rest) = symbol c rest := by
  simp [first, hc.1, hc.2.1]

/-! ## What extends a token -/

theorem extendedBy_word_iff {w : Text} (hrun : IsRun isLetter w) (c : Char) :
    (word w).ExtendedBy c ↔ isLetter c = true := by
  have hkind : Kind.ofWord w ∉ [.integer, .assign, .bang] := by
    have hall : ∀ entry ∈ Kind.reserved, entry.2 ∉ [.integer, .assign, .bang] := by decide
    rcases Kind.ofWord_eq_or_mem w with hid | hmem
    · rw [hid]
      decide
    · exact hall _ hmem
  simp only [List.mem_cons, List.not_mem_nil, or_false, not_or] at hkind
  simp [ExtendedBy, word, hrun, hkind]

theorem extendedBy_integer_iff {w : Text} (hrun : IsRun isDigit w) (c : Char) :
    (⟨.integer, w⟩ : Token).ExtendedBy c ↔ isDigit c = true := by
  have hword : ¬ IsRun isLetter w := by
    intro hletters
    rcases List.exists_mem_of_ne_nil w hrun.1 with ⟨d, hd⟩
    have hletter := hletters.2 d hd
    simp [isLetter_eq_false_of_isDigit (hrun.2 d hd)] at hletter
  simp [ExtendedBy, hword]

theorem extendedBy_single_iff {c : Char} (hc : Lexeme.IsSingle c) (d : Char) :
    (⟨.ofSymbol c, [c]⟩ : Token).ExtendedBy d ↔ (c = '=' ∨ c = '!') ∧ d = '=' := by
  have hinteger : Kind.ofSymbol c ≠ .integer := by
    unfold Kind.ofSymbol
    split <;> simp
  have hkind : (Kind.ofSymbol c = .assign ∨ Kind.ofSymbol c = .bang) ↔ (c = '=' ∨ c = '!') := by
    unfold Kind.ofSymbol
    split <;> simp_all
  simp [ExtendedBy, IsRun, hc.1, hinteger, hkind]

theorem not_extendedBy_pair {c : Char} {k : Kind} (hc : Lexeme.IsSingle c)
    (hk : Kind.ofPair? c '=' = some k) (d : Char) :
    ¬ (⟨k, [c, '=']⟩ : Token).ExtendedBy d := by
  have hkind : k = .equal ∨ k = .notEqual := by
    revert hk
    unfold Kind.ofPair?
    split <;> simp_all
  rcases hkind with rfl | rfl <;> simp [ExtendedBy, IsRun, hc.1]

/-! ## Symbols -/

theorem symbol_eq_single_iff (c : Char) (rest : Text) :
    symbol c rest = ⟨.ofSymbol c, [c]⟩ ↔ ∀ d ∈ rest.head?, ¬ ((c = '=' ∨ c = '!') ∧ d = '=') := by
  cases rest with
  | nil => simp [symbol]
  | cons d rest =>
    cases h : Kind.ofPair? c d with
    | none => simpa [symbol, h] using (Kind.ofPair?_eq_none_iff c d).1 h
    | some k =>
      have hne : ¬ Kind.ofPair? c d = none := by simp [h]
      rw [Kind.ofPair?_eq_none_iff, not_not] at hne
      rcases hne with ⟨hc, rfl⟩
      simp [symbol, h, hc]

/-- A symbol stands alone or is read with an equals sign. -/
theorem symbol_cases (c : Char) (rest : Text) :
    symbol c rest = ⟨.ofSymbol c, [c]⟩ ∨
      ∃ k after, rest = '=' :: after ∧ Kind.ofPair? c '=' = some k ∧
        symbol c rest = ⟨k, [c, '=']⟩ := by
  cases rest with
  | nil => exact Or.inl rfl
  | cons d after =>
    cases h : Kind.ofPair? c d with
    | none => exact Or.inl (by simp [symbol, h])
    | some k =>
      have hne : ¬ Kind.ofPair? c d = none := by simp [h]
      rw [Kind.ofPair?_eq_none_iff, not_not] at hne
      rcases hne with ⟨-, rfl⟩
      exact Or.inr ⟨k, after, rfl, h, by simp [symbol, h]⟩

end Token

namespace Lexeme

/-! ## Reading a lexeme -/

/-- A text that begins with a lexeme begins with its token exactly if the next character does not
extend it. -/
theorem first_append_iff {t : Token} (h : Lexeme t.kind t.literal) (rest : Text) :
    Token.first (t.literal ++ rest) = t ↔ ∀ c ∈ rest.head?, ¬ t.ExtendedBy c := by
  obtain ⟨k, w⟩ := t
  -- a run stops where it is not extended; a symbol is read alone unless it pairs with what follows
  rcases iff_branches.1 h with ⟨hrun, hk⟩ | ⟨hrun, hk⟩ | ⟨c, hc, hw, hk⟩ | ⟨c, hc, hw, hk⟩
  · -- a word: the run and its kind are both read again, and the kind follows from the run
    dsimp only at hrun hk
    have hext := Token.extendedBy_word_iff hrun
    have htake := takeWhile_run_append_iff hrun.2 rest
    subst hk
    simp only [Token.word] at hext
    simp only [Token.first_letters hrun, Token.word, hext, Bool.not_eq_true, ← htake, Token.mk.injEq]
    constructor
    · exact fun heq => heq.2
    · intro heq
      exact ⟨by rw [heq], heq⟩
  · dsimp only at hrun hk
    subst hk
    simp only [Token.first_digits hrun, Token.extendedBy_integer_iff hrun, Bool.not_eq_true,
      ← takeWhile_run_append_iff hrun.2 rest, Token.mk.injEq, true_and]
  · dsimp only at hw hk
    subst hw hk
    simp only [List.singleton_append, Token.first_single hc, Token.extendedBy_single_iff hc]
    exact Token.symbol_eq_single_iff c rest
  · -- a pair is read whole, and nothing extends it
    dsimp only at hw hk
    subst hw
    simp [Token.first_single hc, Token.symbol, hk, Token.not_extendedBy_pair hc hk]

/-- The token at the head of a text is spelled as its kind is. -/
theorem of_first {c : Char} (hspace : isSpace c = false) (rest : Text) :
    Lexeme (Token.first (c :: rest)).kind (Token.first (c :: rest)).literal := by
  rw [iff_branches]
  -- in the order in which the scanner asks
  cases hletter : isLetter c with
  | true =>
    rw [Token.first_cons_of_isLetter hletter]
    exact Or.inl ⟨isRun_takeWhile hletter rest, rfl⟩
  | false =>
    cases hdigit : isDigit c with
    | true =>
      rw [Token.first_cons_of_isDigit hdigit]
      exact Or.inr (Or.inl ⟨isRun_takeWhile hdigit rest, rfl⟩)
    | false =>
      have hc : IsSingle c := ⟨hletter, hdigit, hspace⟩
      rw [Token.first_single hc]
      rcases Token.symbol_cases c rest with heq | ⟨k, after, -, hk, heq⟩
      · rw [heq]
        exact Or.inr (Or.inr (Or.inl ⟨c, hc, rfl, rfl⟩))
      · rw [heq]
        exact Or.inr (Or.inr (Or.inr ⟨c, hc, rfl, hk⟩))

end Lexeme

namespace Token

/-- What is read is the beginning of the text. -/
theorem first_literal_prefix (s : Text) : (first s).literal <+: s := by
  cases s with
  | nil => exact List.prefix_rfl
  | cons c rest =>
    simp only [first]
    split
    · next hletter =>
      have hword : (c :: rest).takeWhile isLetter <+: c :: rest := List.takeWhile_prefix _
      simpa [word, hletter] using hword
    · split
      · next hdigit =>
        have hrun : (c :: rest).takeWhile isDigit <+: c :: rest := List.takeWhile_prefix _
        simpa [hdigit] using hrun
      · rcases symbol_cases c rest with heq | ⟨k, after, rfl, -, heq⟩
        · rw [heq]
          exact ⟨rest, rfl⟩
        · rw [heq]
          exact ⟨after, rfl⟩

/-- A text that does not begin with a space begins with a lexeme that nothing extends. -/
theorem exists_append_of_first {c : Char} (hspace : isSpace c = false) (rest : Text) :
    ∃ after, c :: rest = (first (c :: rest)).literal ++ after ∧
      ∀ d ∈ after.head?, ¬ (first (c :: rest)).ExtendedBy d := by
  rcases first_literal_prefix (c :: rest) with ⟨after, heq⟩
  refine ⟨after, heq.symm, ?_⟩
  rw [← (Lexeme.of_first hspace rest).first_append_iff after, heq]

end Token

end Lexis
