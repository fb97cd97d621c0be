import Lexis.Proofs.Console.Perform
import Lexis.Proofs.Text.Quoted

/-!
# Prompts — where the prompts stand in an output

A prompt ends in a space, and nothing else that a session writes holds one
(`space_not_mem_listing`).  So the prompts can be found in the output again: every flush of a session
is made at the end of a prompt, and at the end of every prompt in the output a flush is made
(`flushEnds_sessionOn`).
-/

namespace Lexis

namespace Console

open CommandLine (listing)

/-! ## Spaces in a listing -/

theorem space_not_mem_display {t : Token} (h : ' ' ∉ t.literal) : ' ' ∉ t.display := by
  have hname : ∀ k ∈ Kind.all, ' ' ∉ k.name := by decide
  simp [Token.display_eq, Text.space_mem_quoted_iff, hname t.kind (Kind.mem_all t.kind), h]

theorem space_not_mem_listing (source : Text) : ' ' ∉ listing (tokens source).dropLast := by
  intro hspace
  rw [CommandLine.listing_eq_flatMap] at hspace
  rcases List.mem_flatMap.1 hspace with ⟨t, ht, hline⟩
  have hlexeme := (reads_tokens source).lexeme_of_mem t ht
  have hliteral : ' ' ∉ t.literal := fun hmem => by
    have hfalse := hlexeme.isSpace_eq_false ' ' hmem
    revert hfalse
    decide
  simp [Text.line, space_not_mem_display hliteral] at hline

/-! ## Prompts in an output -/

/-- The last byte of a prompt. -/
def spaceByte : UInt8 := 32

/-- The lengths of the parts of an output that end in a prompt, in order. -/
def promptEnds (output : Bytes) : List Nat :=
  (List.range (output.length + 1)).filter fun n => Text.utf8 promptText <:+ output.take n

theorem utf8_promptText : Text.utf8 promptText = [62, 62, spaceByte] := by
  decide

theorem promptEnds_prompt : promptEnds (Text.utf8 promptText) = [3] := by
  decide

/-- A part that ends in a prompt ends in a space. -/
theorem getLast?_of_prompt_suffix {bytes : Bytes} (h : Text.utf8 promptText <:+ bytes) :
    bytes.getLast? = some spaceByte := by
  rcases h with ⟨before, rfl⟩
  simp [utf8_promptText]

theorem promptEnds_eq_nil {bytes : Bytes} (h : spaceByte ∉ bytes) : promptEnds bytes = [] := by
  rw [promptEnds, List.filter_eq_nil_iff]
  intro n _ hprompt
  have hlast := getLast?_of_prompt_suffix (of_decide_eq_true hprompt)
  exact h (List.mem_of_mem_take (List.mem_of_getLast? hlast))

/-- Behind a seam within two bytes of which no prompt ends, prompts stand as they do without what
comes before. -/
theorem prompt_suffix_append_iff {after : Bytes} (hafter : spaceByte ∉ after.take 2) (before : Bytes)
    {n : Nat} (hn : 0 < n) (hle : n ≤ after.length) :
    Text.utf8 promptText <:+ before ++ after.take n ↔ Text.utf8 promptText <:+ after.take n := by
  constructor
  · intro h
    have hlength : (after.take n).length = n := List.length_take_of_le hle
    have hthree : 3 ≤ n := by
      -- a shorter part would end in a space within two bytes of the seam
      by_contra hlt
      have hne : after.take n ≠ [] := List.length_pos_iff.1 (by omega)
      have hlast := getLast?_of_prompt_suffix h
      rw [List.getLast?_append_of_ne_nil _ hne] at hlast
      have hmem := List.mem_of_getLast? hlast
      exact hafter ((List.take_subset_take_left after (by omega)) hmem)
    refine List.suffix_of_suffix_length_le h (List.suffix_append before _) ?_
    rw [hlength, utf8_promptText]
    exact hthree
  · intro h
    exact h.trans (List.suffix_append before _)

/-- Across such a seam, the prompts are those before it and those behind it. -/
theorem promptEnds_append {after : Bytes} (hafter : spaceByte ∉ after.take 2) (before : Bytes) :
    promptEnds (before ++ after) =
      promptEnds before ++ (promptEnds after).map (before.length + ·) := by
  have hrange : List.range ((before ++ after).length + 1) =
      List.range (before.length + 1) ++
        (List.range after.length).map (before.length + 1 + ·) := by
    rw [← List.range_add, List.length_append, Nat.add_right_comm]
  have hnil : ¬ Text.utf8 promptText <:+ after.take 0 := by
    rw [List.take_zero]
    decide
  rw [promptEnds, hrange, List.filter_append]
  congr 1
  · -- up to the seam the parts are those of what comes before
    refine List.filter_congr fun n hn => ?_
    have hle : n ≤ before.length := Nat.le_of_lt_succ (List.mem_range.1 hn)
    simp [List.take_append_of_le_length hle]
  · -- behind it they are those of what comes after, each longer by what comes before
    rw [promptEnds, List.range_succ_eq_map, List.filter_cons_of_neg (by simpa using hnil),
      List.filter_map, List.filter_map, List.map_map]
    have hfilter : (List.range after.length).filter
          ((fun n => decide (Text.utf8 promptText <:+ (before ++ after).take n)) ∘
            (before.length + 1 + ·)) =
        (List.range after.length).filter
          ((fun n => decide (Text.utf8 promptText <:+ after.take n)) ∘ Nat.succ) := by
      refine List.filter_congr fun n hn => ?_
      have hle : n + 1 ≤ after.length := List.mem_range.1 hn
      have htake : (before ++ after).take (before.length + 1 + n) = before ++ after.take (n + 1) := by
        rw [Nat.add_assoc, Nat.add_comm 1 n, List.take_length_add_append]
      have hiff := prompt_suffix_append_iff hafter before (Nat.succ_pos n) hle
      simp [htake, hiff]
    rw [hfilter]
    refine List.map_congr_left fun n _ => ?_
    simp only [Function.comp_apply]
    omega

example : promptEnds (Text.utf8 ">> >>>> ".toList) = [3, 8] := by
  decide

/-- A prompt and bytes without a space are one prompt, whatever follows with a prompt of its own. -/
theorem promptEnds_prompt_append {bytes after : Bytes} (hbytes : spaceByte ∉ bytes)
    (hafter : Text.utf8 promptText <+: after) :
    promptEnds (Text.utf8 promptText ++ bytes ++ after) =
      3 :: (promptEnds after).map (3 + bytes.length + ·) := by
  have hseam : spaceByte ∉ after.take 2 := by
    rcases hafter with ⟨more, rfl⟩
    simp [utf8_promptText, spaceByte]
  have hbefore : promptEnds (Text.utf8 promptText ++ bytes) = [3] := by
    have hstart : spaceByte ∉ bytes.take 2 := fun hmem => hbytes (List.mem_of_mem_take hmem)
    rw [promptEnds_append hstart, promptEnds_prompt, promptEnds_eq_nil hbytes]
    rfl
  have hlength : (Text.utf8 promptText ++ bytes).length = 3 + bytes.length := by
    rw [List.length_append, utf8_promptText]
    rfl
  calc
    promptEnds (Text.utf8 promptText ++ bytes ++ after)
        = promptEnds (Text.utf8 promptText ++ bytes)
            ++ (promptEnds after).map ((Text.utf8 promptText ++ bytes).length + ·) :=
          promptEnds_append hseam _
    _ = 3 :: (promptEnds after).map (3 + bytes.length + ·) := by
          rw [hbefore, hlength, List.singleton_append]

/-! ## Flushes -/

/-- How many bytes are written before each flush. -/
def flushEnds : List Effect → List Nat
  | [] => []
  | .write text :: es => (flushEnds es).map ((Text.utf8 text).length + ·)
  | .flush :: es => 0 :: flushEnds es
  | .read _ :: es => flushEnds es
  | .log _ :: es => flushEnds es

theorem flushEnds_append (es fs : List Effect) :
    flushEnds (es ++ fs) = flushEnds es ++ (flushEnds fs).map ((written es).length + ·) := by
  induction es with
  | nil => simp [flushEnds]
  | cons e es ih =>
    cases e with
    | write text => simp [flushEnds, ih, Effect.written, Nat.add_assoc]
    | flush => simp [flushEnds, ih, Effect.written]
    | read bytes => simp [flushEnds, ih, Effect.written]
    | log record => simp [flushEnds, ih, Effect.written]

theorem flushEnds_of_quiet {es : List Effect} (h : ∀ e ∈ es, e.IsQuiet) : flushEnds es = [] := by
  induction es with
  | nil => rfl
  | cons e es ih =>
    rcases List.forall_mem_cons.1 h with ⟨he, hes⟩
    cases e with
    | write text => simp [flushEnds, ih hes]
    | log record => exact ih hes
    | flush | read _ => exact absurd he id

theorem flushEnds_prompt : flushEnds prompt = [3] := by
  decide

/-- A round flushes once, behind its prompt. -/
theorem flushEnds_round (line : Text) : flushEnds (round line) = [3] := by
  have hquiet : flushEnds (handle (content line)) = [] :=
    flushEnds_of_quiet fun _ h => isQuiet_of_mem_handle h
  simp [round, flushEnds_append, flushEnds_prompt, flushEnds, hquiet]

/-! ## Sessions -/

/-- The bytes printed for a line hold no space. -/
theorem spaceByte_not_mem_listing (source : Text) :
    spaceByte ∉ Text.utf8 (listing (tokens source).dropLast) := by
  have hascii : (' ').toNat < 128 := by decide
  intro hmem
  exact space_not_mem_listing source ((Text.asciiByte_mem_utf8_iff hascii _).1 hmem)

/-- A session begins with a prompt, and its flushes are made at the ends of the prompts in its
output. -/
theorem flushEnds_sessionOn (failure? : Option IoFault) (lines : List Bytes) :
    Text.utf8 promptText <+: written (sessionOn failure? lines).effects ∧
      flushEnds (sessionOn failure? lines).effects =
        promptEnds (written (sessionOn failure? lines).effects) := by
  refine sessionOn_induction
    (motive := fun _ t => Text.utf8 promptText <+: written t.effects ∧
      flushEnds t.effects = promptEnds (written t.effects)) failure? ?_ ?_ ?_ lines
  · exact ⟨List.prefix_rfl, promptEnds_prompt.symm⟩
  · intro line after end? _
    have hwritten : written (prompt ++ [.read line]) = Text.utf8 promptText := by
      simp [Effect.written]
    rw [hwritten]
    exact ⟨List.prefix_rfl, promptEnds_prompt.symm⟩
  · intro line after t ht
    rcases ht with ⟨hstart, hends⟩
    -- the prompt of the round, the tokens of its line, and the prompt that the rest begins with
    have hwritten : written (t.after (round line)).effects =
        Text.utf8 promptText ++ Text.utf8 (listing (tokens line).dropLast) ++ written t.effects := by
      simp [Transcript.after, written_append, written_round, Text.utf8_append]
    have hflushes : flushEnds (t.after (round line)).effects =
        3 :: (flushEnds t.effects).map ((written (round line)).length + ·) := by
      rw [Transcript.after, flushEnds_append, flushEnds_round, List.singleton_append]
    have hround : (written (round line)).length =
        3 + (Text.utf8 (listing (tokens line).dropLast)).length := by
      rw [written_round, Text.utf8_append, List.length_append, utf8_promptText]
      rfl
    refine ⟨?_, ?_⟩
    · rw [hwritten, List.append_assoc]
      exact List.prefix_append _ _
    · calc
        flushEnds (t.after (round line)).effects
            = 3 :: (flushEnds t.effects).map ((written (round line)).length + ·) := hflushes
        _ = 3 :: (promptEnds (written t.effects)).map
              (3 + (Text.utf8 (listing (tokens line).dropLast)).length + ·) := by simp [hround, hends]
        _ = promptEnds (Text.utf8 promptText ++ Text.utf8 (listing (tokens line).dropLast)
              ++ written t.effects) :=
            (promptEnds_prompt_append (spaceByte_not_mem_listing line) hstart).symm
        _ = promptEnds (written (t.after (round line)).effects) := by simp [hwritten]

end Console

end Lexis
