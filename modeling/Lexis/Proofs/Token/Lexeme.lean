import Mathlib.Data.List.TakeWhile
import Lexis.Token.First

/-!
# Lexeme — the spellings of each kind

`Lexeme k s` says, without mentioning how a text is scanned, that `s` is a spelling of the kind `k`:

* a reserved word of its own kind, any other run of letters of an identifier;
* a run of digits of an integer;
* an operator or a delimiter of its own kind;
* a single foreign character of the illegal kind.

`Lexeme.iff_branches` sorts the same spellings by the way in which they are read.
-/

namespace Lexis

/-! ## Sorts of characters -/

theorem isSpace_iff (c : Char) : isSpace c = true ↔ c = ' ' ∨ c = '\t' ∨ c = '\n' ∨ c = '\r' := by
  simp [isSpace, or_assoc]

theorem isSpace_eq_false_of_isLetter {c : Char} (h : isLetter c = true) : isSpace c = false := by
  rw [Bool.eq_false_iff]
  intro hs
  rcases (isSpace_iff c).1 hs with rfl | rfl | rfl | rfl <;> revert h <;> decide

theorem isSpace_eq_false_of_isDigit {c : Char} (h : isDigit c = true) : isSpace c = false := by
  rw [Bool.eq_false_iff]
  intro hs
  rcases (isSpace_iff c).1 hs with rfl | rfl | rfl | rfl <;> revert h <;> decide

/-- No digit is a letter: the digits come before all letters. -/
theorem isLetter_eq_false_of_isDigit {c : Char} (h : isDigit c = true) : isLetter c = false := by
  have hrange : 48 ≤ c.val.toNat ∧ c.val.toNat ≤ 57 := by
    simpa [isDigit, Char.isDigit, UInt32.le_iff_toNat_le] using h
  have hcapital : ¬ 'A'.val ≤ c.val := by
    rw [UInt32.le_iff_toNat_le]
    show ¬ 65 ≤ c.val.toNat
    omega
  have hsmall : ¬ 'a'.val ≤ c.val := by
    rw [UInt32.le_iff_toNat_le]
    show ¬ 97 ≤ c.val.toNat
    omega
  have hupper : c.isUpper = false := decide_eq_false fun hc => hcapital hc.1
  have hlower : c.isLower = false := Bool.and_eq_false_imp.2 fun hc =>
    absurd (of_decide_eq_true hc) hsmall
  have hunderscore : (c == '_') = false := by
    rw [beq_eq_false_iff_ne]
    rintro rfl
    revert h
    decide
  show ((c.isUpper || c.isLower) || c == '_') = false
  simp [hupper, hlower, hunderscore]

/-- A symbol is neither a letter nor a digit nor a space. -/
theorem isSymbol_sorts {c : Char} (h : isSymbol c = true) :
    isLetter c = false ∧ isDigit c = false ∧ isSpace c = false := by
  have hall : symbols.all (fun d => !isLetter d && !isDigit d && !isSpace d) = true := by decide
  have hc := List.all_eq_true.1 hall c (List.contains_iff_mem.1 h)
  simpa [and_assoc] using hc

theorem isForeign_iff (c : Char) :
    isForeign c = true ↔
      isLetter c = false ∧ isDigit c = false ∧ isSpace c = false ∧ isSymbol c = false := by
  simp [isForeign, and_assoc]

/-! ## Lexemes -/

/-- A run of characters of `p`, which holds at least one. -/
def IsRun (p : Char → Bool) (s : Text) : Prop :=
  s ≠ [] ∧ ∀ c ∈ s, p c = true

/-- The operators and delimiters, each with its kind. -/
def Kind.operators : List (Text × Kind) :=
  [(['='], .assign), (['+'], .plus), (['-'], .minus), (['!'], .bang), (['*'], .asterisk),
   (['/'], .slash), (['<'], .lessThan), (['>'], .greaterThan), (['=', '='], .equal),
   (['!', '='], .notEqual), ([','], .comma), ([';'], .semicolon), (['('], .leftParen),
   ([')'], .rightParen), (['{'], .leftBrace), (['}'], .rightBrace)]

/-- The spellings of a kind.  The end of input has none. -/
inductive Lexeme : Kind → Text → Prop where
  | identifier {s : Text} :
    IsRun isLetter s → (∀ k, (s, k) ∉ Kind.reserved) → Lexeme .identifier s
  | reserved {s : Text} {k : Kind} : (s, k) ∈ Kind.reserved → Lexeme k s
  | integer {s : Text} : IsRun isDigit s → Lexeme .integer s
  | operator {s : Text} {k : Kind} : (s, k) ∈ Kind.operators → Lexeme k s
  | illegal {c : Char} : isForeign c = true → Lexeme .illegal [c]

/-! ## Kinds of words and of symbols -/

theorem Kind.ofWord_of_mem {s : Text} {k : Kind} (h : (s, k) ∈ Kind.reserved) :
    Kind.ofWord s = k := by
  have hall : ∀ entry ∈ Kind.reserved, Kind.ofWord entry.1 = entry.2 := by decide
  exact hall _ h

theorem Kind.ofWord_of_forall_not_mem {s : Text} (h : ∀ k, (s, k) ∉ Kind.reserved) :
    Kind.ofWord s = .identifier := by
  rcases Kind.ofWord_eq_or_mem s with hid | hmem
  · exact hid
  · exact absurd hmem (h _)

theorem Kind.ofSymbol_eq_illegal {c : Char} (h : isSymbol c = false) :
    Kind.ofSymbol c = .illegal := by
  have hne : c ∉ symbols := by
    intro hmem
    rw [isSymbol, List.contains_iff_mem.2 hmem] at h
    cases h
  simp only [symbols, List.mem_cons, not_or] at hne
  unfold Kind.ofSymbol
  split <;> simp_all

theorem Kind.ofPair?_eq_none_iff (c d : Char) :
    Kind.ofPair? c d = none ↔ ¬ ((c = '=' ∨ c = '!') ∧ d = '=') := by
  unfold Kind.ofPair?
  split <;> grind

theorem Kind.mem_operators_ofSymbol {c : Char} (h : isSymbol c = true) :
    ([c], Kind.ofSymbol c) ∈ Kind.operators := by
  have hall : symbols.all (fun d => Kind.operators.contains ([d], Kind.ofSymbol d)) = true := by
    decide
  have hc := List.all_eq_true.1 hall c (List.contains_iff_mem.1 h)
  exact List.contains_iff_mem.1 hc

/-- An operator or a delimiter is one symbol, or two that are read together. -/
theorem Kind.operators_cases {s : Text} {k : Kind} (h : (s, k) ∈ Kind.operators) :
    (∃ c ∈ symbols, (s, k) = ([c], Kind.ofSymbol c)) ∨
      ∃ c ∈ symbols, s = [c, '='] ∧ Kind.ofPair? c '=' = some k := by
  have hall : Kind.operators.all (fun entry =>
      symbols.any (fun c => entry == ([c], Kind.ofSymbol c)) ||
        symbols.any fun c => entry.1 == [c, '='] && Kind.ofPair? c '=' == some entry.2) = true := by
    decide
  have hentry := List.all_eq_true.1 hall (s, k) h
  simpa using hentry

theorem Kind.mem_operators_of_pair {c : Char} {k : Kind} (h : Kind.ofPair? c '=' = some k) :
    ([c, '='], k) ∈ Kind.operators := by
  revert h
  unfold Kind.ofPair?
  split <;> intro h <;> cases h <;> decide

/-! ## Lexemes as the scanner meets them -/

namespace Lexeme

/-- A character that is a token by itself unless it belongs to an operator of two. -/
def IsSingle (c : Char) : Prop :=
  isLetter c = false ∧ isDigit c = false ∧ isSpace c = false

theorem isRun_of_reserved {k : Kind} {s : Text} (h : (s, k) ∈ Kind.reserved) :
    IsRun isLetter s := by
  have hall : Kind.reserved.all (fun entry => entry.1 != [] && entry.1.all isLetter) = true := by
    decide
  have hentry := List.all_eq_true.1 hall _ h
  simpa [IsRun] using hentry

/-- The lexemes sorted by the branch of the scanner that reads them. -/
theorem iff_branches {k : Kind} {s : Text} :
    Lexeme k s ↔
      (IsRun isLetter s ∧ k = .ofWord s) ∨ (IsRun isDigit s ∧ k = .integer) ∨
        (∃ c, IsSingle c ∧ s = [c] ∧ k = .ofSymbol c) ∨
          ∃ c, IsSingle c ∧ s = [c, '='] ∧ Kind.ofPair? c '=' = some k := by
  constructor
  · intro h
    -- words and keywords are runs of letters, the rest are runs of digits or begin with a single
    cases h with
    | identifier hrun hfree =>
      exact Or.inl ⟨hrun, (Kind.ofWord_of_forall_not_mem hfree).symm⟩
    | reserved hmem => exact Or.inl ⟨isRun_of_reserved hmem, (Kind.ofWord_of_mem hmem).symm⟩
    | integer hrun => exact Or.inr (Or.inl ⟨hrun, rfl⟩)
    | operator hmem =>
      rcases Kind.operators_cases hmem with ⟨c, hc, heq⟩ | ⟨c, hc, hs, hk⟩
      · cases heq
        exact Or.inr (Or.inr (Or.inl ⟨c, isSymbol_sorts (List.contains_iff_mem.2 hc), rfl, rfl⟩))
      · exact Or.inr (Or.inr (Or.inr ⟨c, isSymbol_sorts (List.contains_iff_mem.2 hc), hs, hk⟩))
    | illegal hforeign =>
      rcases (isForeign_iff _).1 hforeign with ⟨hletter, hdigit, hspace, hsymbol⟩
      exact Or.inr (Or.inr (Or.inl ⟨_, ⟨hletter, hdigit, hspace⟩, rfl,
        (Kind.ofSymbol_eq_illegal hsymbol).symm⟩))
  · rintro (⟨hrun, rfl⟩ | ⟨hrun, rfl⟩ | ⟨c, hsingle, rfl, rfl⟩ | ⟨c, -, rfl, hk⟩)
    · -- the kind of a word is that of a reserved one, or the word is free
      by_cases hmem : (s, Kind.ofWord s) ∈ Kind.reserved
      · exact .reserved hmem
      · have hfree : ∀ k, (s, k) ∉ Kind.reserved := by
          intro k hk
          rw [Kind.ofWord_of_mem hk] at hmem
          exact hmem hk
        rw [Kind.ofWord_of_forall_not_mem hfree]
        exact .identifier hrun hfree
    · exact .integer hrun
    · -- a single is a symbol or foreign
      cases hsymbol : isSymbol c with
      | true => exact .operator (Kind.mem_operators_ofSymbol hsymbol)
      | false =>
        rw [Kind.ofSymbol_eq_illegal hsymbol]
        exact .illegal ((isForeign_iff c).2 ⟨hsingle.1, hsingle.2.1, hsingle.2.2, hsymbol⟩)
    · exact .operator (Kind.mem_operators_of_pair hk)

/-- Both characters of an operator of two are singles. -/
theorem isSingle_of_mem_pair {c d : Char} (hd : IsSingle d) (hc : c ∈ [d, '=']) : IsSingle c := by
  simp only [List.mem_cons, List.not_mem_nil, or_false] at hc
  rcases hc with rfl | rfl
  · exact hd
  · exact ⟨rfl, rfl, rfl⟩

theorem ne_nil {k : Kind} {s : Text} (h : Lexeme k s) : s ≠ [] := by
  rcases iff_branches.1 h with ⟨hrun, -⟩ | ⟨hrun, -⟩ | ⟨c, -, rfl, -⟩ | ⟨c, -, rfl, -⟩
  · exact hrun.1
  · exact hrun.1
  · simp
  · simp

/-- No space is part of a lexeme. -/
theorem isSpace_eq_false {k : Kind} {s : Text} (h : Lexeme k s) :
    ∀ c ∈ s, isSpace c = false := by
  intro c hc
  rcases iff_branches.1 h with ⟨hrun, -⟩ | ⟨hrun, -⟩ | ⟨d, hd, rfl, -⟩ | ⟨d, hd, rfl, -⟩
  · exact isSpace_eq_false_of_isLetter (hrun.2 c hc)
  · exact isSpace_eq_false_of_isDigit (hrun.2 c hc)
  · rw [List.mem_singleton.1 hc]
    exact hd.2.2
  · exact (isSingle_of_mem_pair hd hc).2.2

/-! ## One character tells the sort of a lexeme -/

/-- A lexeme with a letter is a word, of the kind of the word. -/
theorem isRun_and_kind_eq_of_isLetter {k : Kind} {c : Char} {s : Text} (h : Lexeme k s)
    (hc : c ∈ s) (hletter : isLetter c = true) : IsRun isLetter s ∧ k = .ofWord s := by
  rcases iff_branches.1 h with hword | ⟨hrun, -⟩ | ⟨d, hd, rfl, -⟩ | ⟨d, hd, rfl, -⟩
  · exact hword
  -- no lexeme of another sort has a letter
  · simp [isLetter_eq_false_of_isDigit (hrun.2 c hc)] at hletter
  · rw [List.mem_singleton.1 hc, hd.1] at hletter
    cases hletter
  · rw [(isSingle_of_mem_pair hd hc).1] at hletter
    cases hletter

/-- A lexeme with a letter is a run of letters. -/
theorem isRun_isLetter_iff {k : Kind} {c : Char} {s : Text} (h : Lexeme k s) (hc : c ∈ s) :
    IsRun isLetter s ↔ isLetter c = true := by
  constructor
  · intro hrun
    exact hrun.2 c hc
  · intro hletter
    exact (h.isRun_and_kind_eq_of_isLetter hc hletter).1

/-- A lexeme with a digit is an integer. -/
theorem kind_eq_integer_iff {k : Kind} {c : Char} {s : Text} (h : Lexeme k s) (hc : c ∈ s) :
    k = .integer ↔ isDigit c = true := by
  constructor
  · rintro rfl
    cases h with
    | integer hrun => exact hrun.2 c hc
    | reserved hmem => simp [Kind.reserved] at hmem
    | operator hmem => simp [Kind.operators] at hmem
  · intro hdigit
    rcases iff_branches.1 h with ⟨hrun, -⟩ | ⟨-, hk⟩ | ⟨d, hd, rfl, -⟩ | ⟨d, hd, rfl, -⟩
    · have hletter := hrun.2 c hc
      simp [isLetter_eq_false_of_isDigit hdigit] at hletter
    · exact hk
    · rw [List.mem_singleton.1 hc, hd.2.1] at hdigit
      cases hdigit
    · rw [(isSingle_of_mem_pair hd hc).2.1] at hdigit
      cases hdigit

/-- A lexeme with a foreign character is illegal, and no other is. -/
theorem kind_eq_illegal_iff {k : Kind} {c : Char} {s : Text} (h : Lexeme k s) (hc : c ∈ s) :
    k = .illegal ↔ isForeign c = true := by
  cases h with
  | identifier hrun _ => simp [isForeign, hrun.2 c hc]
  | reserved hmem =>
    have hall : ∀ entry ∈ Kind.reserved, entry.2 ≠ .illegal := by decide
    simp [isForeign, (isRun_of_reserved hmem).2 c hc, hall _ hmem]
  | integer hrun => simp [isForeign, hrun.2 c hc]
  | operator hmem =>
    have hkind : ∀ entry ∈ Kind.operators, entry.2 ≠ .illegal := by decide
    have hsymbol : ∀ entry ∈ Kind.operators, entry.1.all isSymbol = true := by decide
    simp [isForeign, hkind _ hmem, List.all_eq_true.1 (hsymbol _ hmem) c hc]
  | illegal hforeign =>
    rw [List.mem_singleton.1 hc]
    simp [hforeign]

end Lexeme

end Lexis
