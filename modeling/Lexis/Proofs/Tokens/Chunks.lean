import Lexis.Proofs.Tokens.Strict
import Lexis.Text.Blank

/-!
# Chunks — spaces only separate

A chunk of a text is a run of characters that are no spaces, as long as it can be.  `IsChunked s cs`
says that a text is cut into chunks, with gaps of spaces before, between and after them, and `chunks`
finds them; there is one way only (`isChunked_iff`).

* Every chunk is read by itself, so the tokens of a text are those of its chunks, whatever the gaps
  are (`IsChunked.reads`).
* Spaces are all that is left out of the tokens (`Reads.flatMap_literal`); white space of other kinds
  is foreign to the language (`isForeign_of_isBlank`).
-/

namespace Lexis

/-- The characters that are no spaces. -/
def isInk (c : Char) : Bool :=
  !isSpace c

theorem isInk_iff (c : Char) : isInk c = true ↔ isSpace c = false := by
  simp [isInk]

theorem IsGap.filter_isInk {gap : Text} (h : IsGap gap) : gap.filter isInk = [] := by
  rw [List.filter_eq_nil_iff]
  intro c hc
  simp [isInk, h c hc]

/-- What is left when the spaces are skipped begins with another character. -/
theorem isInk_of_dropWhile_eq_cons {s rest : Text} {c : Char}
    (h : s.dropWhile isSpace = c :: rest) : isInk c = true := by
  have hhead := List.head?_dropWhile_not isSpace s
  simpa [isInk, h] using hhead

/-! ## Chunks of a text -/

/-- A text is cut into chunks: a gap, a run without spaces that ends before a space or at the end of
the text, and so on up to a last gap. -/
inductive IsChunked : Text → List Text → Prop where
  | gap {s : Text} : IsGap s → IsChunked s []
  | chunk {gap w rest : Text} {cs : List Text} :
    IsGap gap → IsRun isInk w → (∀ c ∈ rest.head?, isSpace c = true) → IsChunked rest cs →
      IsChunked (gap ++ (w ++ rest)) (w :: cs)

theorem length_dropWhile_isInk_lt {s rest : Text} {c : Char} (h : s.dropWhile isSpace = c :: rest) :
    ((c :: rest).dropWhile isInk).length < s.length := by
  have hc : isInk c = true := isInk_of_dropWhile_eq_cons h
  have hle : (rest.dropWhile isInk).length ≤ rest.length :=
    (List.dropWhile_sublist isInk).length_le
  have hskip : (s.dropWhile isSpace).length ≤ s.length := (List.dropWhile_sublist isSpace).length_le
  rw [h, List.length_cons] at hskip
  rw [List.dropWhile_cons_of_pos hc]
  omega

/-- The chunks of a text, in order. -/
def chunks (s : Text) : List Text :=
  match _h : s.dropWhile isSpace with
  | [] => []
  | c :: rest => (c :: rest).takeWhile isInk :: chunks ((c :: rest).dropWhile isInk)
termination_by s.length
decreasing_by exact length_dropWhile_isInk_lt _h

theorem chunks_of_nil {s : Text} (h : s.dropWhile isSpace = []) : chunks s = [] := by
  rw [chunks]
  split
  · rfl
  · next heq => simp [h] at heq

theorem chunks_of_cons {s rest : Text} {c : Char} (h : s.dropWhile isSpace = c :: rest) :
    chunks s = (c :: rest).takeWhile isInk :: chunks ((c :: rest).dropWhile isInk) := by
  rw [chunks]
  split
  · next heq => simp [h] at heq
  · next heq =>
    rw [h] at heq
    cases heq
    rfl

theorem isChunked_chunks (s : Text) : IsChunked s (chunks s) := by
  have hgap := isGap_takeWhile s
  have hcut : s.takeWhile isSpace ++ s.dropWhile isSpace = s := List.takeWhile_append_dropWhile
  -- what is skipped is a gap; what is taken behind it goes up to a space or to the end
  cases hs : s.dropWhile isSpace with
  | nil =>
    rw [hs, List.append_nil] at hcut
    rw [chunks_of_nil hs]
    exact .gap (hcut ▸ hgap)
  | cons c rest =>
    have hc : isInk c = true := isInk_of_dropWhile_eq_cons hs
    have hend : ∀ d ∈ ((c :: rest).dropWhile isInk).head?, isSpace d = true := by
      intro d hd
      have hhead := List.head?_dropWhile_not isInk (c :: rest)
      rw [Option.mem_def.1 hd] at hhead
      simpa [isInk] using hhead
    have hlt := length_dropWhile_isInk_lt hs
    have hchunked := IsChunked.chunk hgap (isRun_takeWhile hc rest) hend
      (isChunked_chunks ((c :: rest).dropWhile isInk))
    rw [List.takeWhile_append_dropWhile, ← hs, hcut, hs] at hchunked
    rwa [chunks_of_cons hs]
termination_by s.length

/-- What follows a run that is all taken is what is left of the text. -/
theorem dropWhile_run_append {p : Char → Bool} {w rest : Text} (hw : ∀ c ∈ w, p c = true)
    (hrest : ∀ c ∈ rest.head?, p c = false) : (w ++ rest).dropWhile p = rest := by
  have htake := (takeWhile_run_append_iff hw rest).2 hrest
  rw [← Text.drop_length_takeWhile, htake, List.drop_left]

theorem IsChunked.chunks_eq {s : Text} {cs : List Text} (h : IsChunked s cs) : chunks s = cs := by
  induction h with
  | gap hgap => exact chunks_of_nil (List.dropWhile_eq_nil_iff.2 hgap)
  | @chunk gap w rest cs hgap hrun hend _ ih =>
    rcases List.exists_cons_of_ne_nil hrun.1 with ⟨c, more, hw⟩
    have hc : isSpace c = false := (isInk_iff c).1 (hrun.2 c (by simp [hw]))
    have hend' : ∀ d ∈ rest.head?, isInk d = false := by
      intro d hd
      simp [isInk, hend d hd]
    -- the run begins with no space, so the gap before it is skipped and no more
    have hskip : (gap ++ (w ++ rest)).dropWhile isSpace = c :: (more ++ rest) := by
      rw [List.dropWhile_append_of_pos hgap, hw]
      simp [hc]
    have hwhole : c :: (more ++ rest) = w ++ rest := by simp [hw]
    rw [chunks_of_cons hskip, hwhole, (takeWhile_run_append_iff hrun.2 rest).2 hend',
      dropWhile_run_append hrun.2 hend', ih]

/-- A text is cut into its chunks and in no other way. -/
theorem isChunked_iff {s : Text} {cs : List Text} : IsChunked s cs ↔ chunks s = cs := by
  constructor
  · exact IsChunked.chunks_eq
  · rintro rfl
    exact isChunked_chunks s

/-! ## Reading chunk by chunk -/

/-- The tokens of the chunks, one chunk after the other. -/
theorem IsChunked.reads {s : Text} {cs : List Text} (h : IsChunked s cs) :
    Reads s (cs.flatMap fun w => (tokens w).dropLast) := by
  induction h with
  | gap hgap => exact .gap hgap
  | @chunk gap w rest cs hgap hrun hend _ ih =>
    -- the character after the chunk is a space, which extends no token
    have hseam : ∀ t ∈ (tokens w).dropLast.getLast?, ∀ c ∈ rest.head?,
        ¬ Reads.EndsInSpace w → ¬ t.ExtendedBy c := by
      intro t _ c hc _
      exact t.not_extendedBy_space (hend c hc)
    have hboth := (reads_tokens w).append ih hseam
    exact Reads.gap_append hgap hboth

/-- All characters but the spaces are found in the tokens, in order. -/
theorem Reads.flatMap_literal {s : Text} {ts : List Token} (h : Reads s ts) :
    ts.flatMap Token.literal = s.filter isInk := by
  induction h with
  | gap hgap => exact hgap.filter_isInk.symm
  | @token gap rest t ts hgap ht _ _ ih =>
    have hall : t.literal.filter isInk = t.literal := by
      rw [List.filter_eq_self]
      intro c hc
      exact (isInk_iff c).2 (ht.isSpace_eq_false c hc)
    rw [List.flatMap_cons, ih, List.filter_append, List.filter_append, hgap.filter_isInk, hall,
      List.nil_append]

theorem flatMap_literal_tokens (s : Text) : (tokens s).flatMap Token.literal = s.filter isInk := by
  have hliterals := (reads_tokens s).flatMap_literal
  rw [(reads_tokens s).tokens_eq, List.flatMap_append, hliterals]
  simp [Token.endOfInput]

/-! ## White space that is no space -/

/-- The language has ASCII characters only. -/
theorem isForeign_of_le {c : Char} (h : 128 ≤ c.toNat) : isForeign c = true := by
  have hval : 128 ≤ c.val.toNat := h
  have hspace : isSpace c = false := by
    rw [Bool.eq_false_iff]
    intro hc
    rcases (isSpace_iff c).1 hc with rfl | rfl | rfl | rfl <;> revert h <;> decide
  have hsymbol : isSymbol c = false := by
    have hall : symbols.all (fun d => decide (d.toNat < 128)) = true := by decide
    rw [Bool.eq_false_iff]
    intro hc
    have hlt : c.toNat < 128 := by
      simpa using List.all_eq_true.1 hall c (List.contains_iff_mem.1 hc)
    omega
  have hdigit : isDigit c = false := by
    rw [Bool.eq_false_iff]
    intro hc
    have hrange : 48 ≤ c.val.toNat ∧ c.val.toNat ≤ 57 := by
      simpa [isDigit, Char.isDigit, UInt32.le_iff_toNat_le] using hc
    omega
  have hletter : isLetter c = false := by
    rw [Bool.eq_false_iff]
    intro hc
    change (decide (c.val ≥ 65 ∧ c.val ≤ 90) || (c.val ≥ 97 && c.val ≤ 122) || c == '_') = true at hc
    have hrange : ((65 ≤ c.val.toNat ∧ c.val.toNat ≤ 90) ∨ 97 ≤ c.val.toNat ∧ c.val.toNat ≤ 122) ∨
        c = '_' := by
      simpa [UInt32.le_iff_toNat_le] using hc
    rcases hrange with (hupper | hlower) | rfl
    · omega
    · omega
    · revert h
      decide
  exact (isForeign_iff c).2 ⟨hletter, hdigit, hspace, hsymbol⟩

/-- White space that the language does not know as a space: the vertical tab, the form feed, and all
beyond ASCII. -/
theorem isForeign_of_isBlank {c : Char} (hblank : Text.isBlank c = true)
    (hspace : isSpace c = false) : isForeign c = true := by
  by_cases hascii : 128 ≤ c.toNat
  · exact isForeign_of_le hascii
  · have hrange : 9 ≤ c.toNat ∧ c.toNat ≤ 13 ∨ c.toNat = 32 := by
      simp only [Text.isBlank, Text.blankRanges, List.any_cons, List.any_nil, Bool.or_false,
        Bool.or_eq_true, Bool.and_eq_true, decide_eq_true_eq] at hblank
      omega
    -- of these characters four are spaces, and the other two are foreign
    have hmem : c ∈ ['\t', '\n', '\x0b', '\x0c', '\r', ' '] := by
      simp only [List.mem_cons, List.not_mem_nil, or_false, ← Char.toNat_inj, Char.reduceToNat]
      omega
    have hall : ['\t', '\n', '\x0b', '\x0c', '\r', ' '].all (fun d => isSpace d || isForeign d) =
        true := by decide
    simpa [hspace] using List.all_eq_true.1 hall c hmem

/-- White space before a foreign character: either it is all spaces, or some of it is foreign. -/
theorem exists_gap_append_foreign {lead : Text} {c : Char}
    (hlead : ∀ d ∈ lead, Text.isBlank d = true) (hc : isForeign c = true) (rest : Text) :
    ∃ gap d after, IsGap gap ∧ isForeign d = true ∧ lead ++ c :: rest = gap ++ d :: after := by
  have hgap : IsGap (lead.takeWhile isSpace) := isGap_takeWhile lead
  have hcut : lead.takeWhile isSpace ++ lead.dropWhile isSpace = lead :=
    List.takeWhile_append_dropWhile
  cases hskip : lead.dropWhile isSpace with
  | nil =>
    have hspaces : IsGap lead := List.dropWhile_eq_nil_iff.1 hskip
    exact ⟨lead, c, rest, hspaces, hc, rfl⟩
  | cons d more =>
    -- what the spaces end at is white space of another kind, and so foreign itself
    have hmem : d ∈ lead := (List.dropWhile_sublist isSpace).subset (by simp [hskip])
    have hblank : Text.isBlank d = true := hlead d hmem
    have hink : isSpace d = false := (isInk_iff d).1 (isInk_of_dropWhile_eq_cons hskip)
    have hforeign : isForeign d = true := isForeign_of_isBlank hblank hink
    refine ⟨lead.takeWhile isSpace, d, more ++ c :: rest, hgap, hforeign, ?_⟩
    calc
      lead ++ c :: rest = lead.takeWhile isSpace ++ d :: more ++ c :: rest :=
            congrArg (· ++ c :: rest) (hskip ▸ hcut).symm
      _ = lead.takeWhile isSpace ++ d :: (more ++ c :: rest) := by simp

/-! ## Spaces only separate -/

/-- A text has one list of chunks, and its tokens are those of its chunks; so all texts that are cut
into the same chunks have the same tokens, whatever the gaps are.  The spaces are all that is left out
of the tokens.  No other white space separates: each is an illegal token between what is read before
it and behind it. -/
theorem tokens_eq_flatMap_chunks :
    (∀ s, (∀ cs, IsChunked s cs ↔ chunks s = cs) ∧
      tokens s = (chunks s).flatMap (fun w => (tokens w).dropLast) ++ [Token.endOfInput] ∧
      (∀ s', IsChunked s' (chunks s) → tokens s' = tokens s) ∧
      (tokens s).flatMap Token.literal = s.filter isInk) ∧
    ∀ c, Text.isBlank c = true → isSpace c = false → ∀ a b,
      tokens (a ++ c :: b) = (tokens a).dropLast ++ ⟨.illegal, [c]⟩ :: tokens b := by
  refine ⟨fun s => ?_, ?_⟩
  · have hchunked := isChunked_chunks s
    refine ⟨fun cs => isChunked_iff, hchunked.reads.tokens_eq, ?_, flatMap_literal_tokens s⟩
    intro s' hs'
    rw [hs'.reads.tokens_eq, hchunked.reads.tokens_eq]
  · intro c hblank hspace a b
    exact tokens_append_foreign (isForeign_of_isBlank hblank hspace) a b

end Lexis
