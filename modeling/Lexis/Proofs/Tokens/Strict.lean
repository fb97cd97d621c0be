import Lexis.Proofs.Tokens.Seam

/-!
# Strict — strict reading decided by the characters

A foreign character is a token by itself wherever it stands: it joins neither what comes before it
nor what comes after it (`tokens_append_foreign`).  A token is illegal exactly if it is one of those
(`Lexeme.kind_eq_illegal_iff`).

So strict reading can be told from the characters alone: it accepts the texts without foreign
characters, and of every other text it answers the first of them, with the number of tokens of the
text before it (`strictTokens_eq`).
-/

namespace Lexis

/-! ## Illegal tokens -/

theorem Token.isIllegal_iff (t : Token) : t.isIllegal = true ↔ t.kind = .illegal :=
  beq_iff_eq

/-- The token of a foreign character. -/
def Token.foreign (c : Char) : Token :=
  ⟨.illegal, [c]⟩

/-- The characters of a token are characters of the text. -/
theorem Reads.mem_of_mem_literal {s : Text} {ts : List Token} (h : Reads s ts) :
    ∀ t ∈ ts, ∀ c ∈ t.literal, c ∈ s := by
  induction h with
  | gap _ => simp
  | token hgap ht hrest _ ih =>
    intro u hu c hc
    rcases List.mem_cons.1 hu with rfl | hlater
    · simp [hc]
    · simp [ih u hlater c hc]

/-- A text without foreign characters is read without illegal tokens. -/
theorem Reads.isIllegal_eq_false {s : Text} {ts : List Token} (h : Reads s ts)
    (hs : ∀ c ∈ s, isForeign c = false) : ∀ t ∈ ts, t.isIllegal = false := by
  intro t ht
  rw [Bool.eq_false_iff, Ne, Token.isIllegal_iff]
  intro hillegal
  have hlexeme := h.lexeme_of_mem t ht
  -- an illegal token would have a foreign character, which the text would have too
  rcases List.exists_mem_of_ne_nil t.literal hlexeme.ne_nil with ⟨c, hc⟩
  have hforeign := (hlexeme.kind_eq_illegal_iff hc).1 hillegal
  simp [hs c (h.mem_of_mem_literal t ht c hc)] at hforeign

theorem isIllegal_eq_false_of_alphabet {s : Text} (hs : ∀ c ∈ s, isForeign c = false) :
    ∀ t ∈ tokens s, t.isIllegal = false := by
  rw [(reads_tokens s).tokens_eq, List.forall_mem_append]
  exact ⟨(reads_tokens s).isIllegal_eq_false hs, by simp [Token.isIllegal, Token.endOfInput]⟩

/-! ## Foreign characters -/

/-- A foreign character is read by itself, whatever follows it. -/
theorem tokens_cons_foreign {c : Char} (hc : isForeign c = true) (s : Text) :
    tokens (c :: s) = Token.foreign c :: tokens s := by
  have hlexeme : Lexeme (Token.foreign c).kind (Token.foreign c).literal := .illegal hc
  have hapart : ∀ d ∈ s.head?, ¬ (Token.foreign c).ExtendedBy d := by
    intro d _
    rw [hlexeme.extendedBy_iff List.mem_cons_self]
    rcases (isForeign_iff c).1 hc with ⟨hletter, hdigit, -, -⟩
    simp [Token.foreign, hletter, hdigit]
  exact hlexeme.tokens_append hapart

/-- No text goes on in a foreign character. -/
theorem not_joins_foreign {c : Char} (hc : isForeign c = true) (a b : Text) : ¬ Joins a (c :: b) := by
  rcases (isForeign_iff c).1 hc with ⟨hletter, hdigit, -, hsymbol⟩
  have hequals : c ≠ '=' := by
    rintro rfl
    revert hsymbol
    decide
  simp [Joins, hletter, hdigit, hequals]

/-- What comes before a foreign character and what comes after it are read apart. -/
theorem tokens_append_foreign {c : Char} (hc : isForeign c = true) (a b : Text) :
    tokens (a ++ c :: b) = (tokens a).dropLast ++ Token.foreign c :: tokens b := by
  rw [tokens_append_of_not_joins (not_joins_foreign hc a b), tokens_cons_foreign hc b]

/-! ## The search for an illegal token -/

section Search

variable {ts : List Token} (hts : ∀ t ∈ ts, t.isIllegal = false)

include hts

theorem find?_zipIdx_eq_none (n : Nat) :
    ((ts.zipIdx n).find? fun (t, _) => t.isIllegal) = none := by
  rw [List.find?_eq_none]
  intro entry hentry
  simp [hts entry.1 (List.fst_mem_of_mem_zipIdx hentry)]

theorem requireLegal_of_legal : requireLegal ts = .ok ts := by
  simp [requireLegal, find?_zipIdx_eq_none hts 0]

/-- Of the illegal tokens the first is answered, with the number of tokens before it. -/
theorem requireLegal_append {t : Token} (ht : t.isIllegal = true) (us : List Token) :
    requireLegal (ts ++ t :: us) = .error (.illegalToken t.literal ts.length) := by
  have hfind : ((ts ++ t :: us).zipIdx.find? fun (t, _) => t.isIllegal) = some (t, ts.length) := by
    rw [List.zipIdx_append, List.find?_append, find?_zipIdx_eq_none hts 0]
    simp [ht]
  simp [requireLegal, hfind]

end Search

/-- A list with an illegal token is refused, wherever the token stands. -/
theorem exists_requireLegal_eq_error {ts : List Token} {t : Token} (ht : t ∈ ts)
    (hillegal : t.isIllegal = true) : ∃ fault, requireLegal ts = .error fault := by
  rcases List.getElem?_of_mem ht with ⟨index, hindex⟩
  have hentry : (t, index) ∈ ts.zipIdx := List.mk_mem_zipIdx_iff_getElem?.2 hindex
  cases hfind : ts.zipIdx.find? fun (t, _) => t.isIllegal with
  | none => exact absurd hillegal (List.find?_eq_none.1 hfind _ hentry)
  | some first =>
    refine ⟨.illegalToken first.1.literal first.2, ?_⟩
    simp only [requireLegal, hfind]

/-! ## Strict reading -/

/-- A text without foreign characters is accepted, with the tokens that it has anyway. -/
theorem strictTokens_of_alphabet {s : Text} (hs : ∀ c ∈ s, isForeign c = false) :
    strictTokens s = .ok (tokens s) :=
  requireLegal_of_legal (isIllegal_eq_false_of_alphabet hs)

/-- A text with a foreign character is refused, wherever the character stands. -/
theorem exists_strictTokens_eq_error {s : Text} {c : Char} (hc : c ∈ s) (hforeign : isForeign c = true) :
    ∃ fault, strictTokens s = .error fault := by
  rcases List.append_of_mem hc with ⟨before, after, rfl⟩
  have hmem : Token.foreign c ∈ tokens (before ++ c :: after) := by
    simp [tokens_append_foreign hforeign]
  exact exists_requireLegal_eq_error hmem rfl

/-- The first foreign character of a text is answered, with the number of tokens before it. -/
theorem strictTokens_append_foreign {before : Text} {c : Char}
    (hbefore : ∀ d ∈ before, isForeign d = false) (hc : isForeign c = true) (rest : Text) :
    strictTokens (before ++ c :: rest) =
      .error (.illegalToken [c] (tokens before).dropLast.length) := by
  have hlegal := (reads_tokens before).isIllegal_eq_false hbefore
  calc
    strictTokens (before ++ c :: rest) = requireLegal (tokens (before ++ c :: rest)) := rfl
    _ = requireLegal ((tokens before).dropLast ++ Token.foreign c :: tokens rest) :=
          congrArg requireLegal (tokens_append_foreign hc before rest)
    _ = .error (.illegalToken [c] (tokens before).dropLast.length) :=
          requireLegal_append hlegal rfl (tokens rest)

/-- A foreign character that only spaces come before is refused as the first token. -/
theorem strictTokens_gap_append_foreign {gap : Text} {c : Char} (hgap : IsGap gap)
    (hc : isForeign c = true) (rest : Text) :
    strictTokens (gap ++ c :: rest) = .error (.illegalToken [c] 0) := by
  have hbefore : ∀ d ∈ gap, isForeign d = false := by
    intro d hd
    simp [isForeign, hgap d hd]
  have hnone : (tokens gap).dropLast = [] := by simp [(Reads.gap hgap).tokens_eq]
  simpa [hnone] using strictTokens_append_foreign hbefore hc rest

/-- What strict reading accepts has no foreign characters, and has the tokens that it has anyway. -/
theorem alphabet_of_strictTokens_eq_ok {s : Text} {ts : List Token} (h : strictTokens s = .ok ts) :
    (∀ c ∈ s, isForeign c = false) ∧ ts = tokens s := by
  have hs : ∀ c ∈ s, isForeign c = false := by
    intro c hc
    rw [Bool.eq_false_iff]
    intro hforeign
    rcases exists_strictTokens_eq_error hc hforeign with ⟨fault, hfault⟩
    simp [hfault] at h
  have hok := strictTokens_of_alphabet hs
  rw [h] at hok
  exact ⟨hs, Except.ok.inj hok⟩

/-- A text without foreign characters is read as it is without strictness; of any other the first
foreign character is answered, and how many tokens the text before it has. -/
theorem strictTokens_eq (s : Text) :
    strictTokens s =
      match s.find? isForeign with
      | none => .ok (tokens s)
      | some c =>
        .error (.illegalToken [c] (tokens (s.takeWhile fun d => !isForeign d)).dropLast.length) := by
  have hstrict : strictTokens s = requireLegal (tokens s) := rfl
  rw [hstrict]
  cases hfind : s.find? isForeign with
  | none =>
    have hclean : ∀ c ∈ s, isForeign c = false := by simpa using List.find?_eq_none.1 hfind
    have hlegal := (reads_tokens s).isIllegal_eq_false hclean
    apply requireLegal_of_legal
    rw [(reads_tokens s).tokens_eq]
    intro t ht
    rcases List.mem_append.1 ht with hbefore | hend
    · exact hlegal t hbefore
    · rw [List.mem_singleton.1 hend]
      rfl
  | some c =>
    rcases List.find?_eq_some_iff_append.1 hfind with ⟨hc, before, after, rfl, hbefore⟩
    have hclean : ∀ d ∈ before, isForeign d = false := by simpa using hbefore
    have htake : (before ++ c :: after).takeWhile (fun d => !isForeign d) = before := by
      rw [List.takeWhile_append_of_pos hbefore]
      simp [hc]
    have hlegal := (reads_tokens before).isIllegal_eq_false hclean
    rw [htake, tokens_append_foreign hc]
    exact requireLegal_append hlegal rfl (tokens after)

end Lexis
