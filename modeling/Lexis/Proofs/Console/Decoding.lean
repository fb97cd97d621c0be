import Lexis.Proofs.Console.Agreement
import Lexis.Proofs.Tokens.Listing

/-!
# Decoding — an output tells which tokens were printed

A session prints a prompt and the tokens of a line, over and over, and a last prompt.  No line of a
listing begins as a prompt does, so the output can be cut into its rounds again, and each round into
its tokens.

* `handledTokens` are the tokens that a session prints, line by line; what reaches the output is
  made of them and of prompts alone (`filter_isOutput_sessionOn`).
* Two sessions with the same output have printed the same tokens for the same number of lines
  (`printed_determines_tokens`).
-/

namespace Lexis

namespace Console

open CommandLine (listing)

/-! ## The tokens of a session -/

/-- The lines before the first that ends the session. -/
def handledLines (failure? : Option IoFault) (lines : List Bytes) : List Text :=
  (lines.takeWhile fun line => (ending? failure? line).isNone).filterMap Text.ofUtf8?

/-- The tokens that are printed for each line that a session handles. -/
def handledTokens (input : Input) : List (List Token) :=
  (handledLines input.failure? input.bytes.lines).map fun line => (tokens line).dropLast

/-- A session does the round of each line that it handles and prompts once more; after that it reads
at most the line that ends it. -/
theorem exists_effects_sessionOn (failure? : Option IoFault) (lines : List Bytes) :
    ∃ last, (last = [] ∨ ∃ line, last = [Effect.read line]) ∧
      (sessionOn failure? lines).effects =
        (handledLines failure? lines).flatMap round ++ prompt ++ last := by
  induction lines with
  | nil => exact ⟨[], .inl rfl, rfl⟩
  | cons line after ih =>
    cases hend : ending? failure? line with
    | some end? =>
      refine ⟨[.read line], .inr ⟨line, rfl⟩, ?_⟩
      simp [sessionOn_cons_of_ending hend, handledLines, hend]
    | none =>
      rcases ih with ⟨last, hlast, heffects⟩
      rcases exists_handled_of_ending_eq_none hend with ⟨text, rfl, htext⟩
      have hlines : handledLines failure? (Text.utf8 text :: after) =
          text :: handledLines failure? after := by
        simp [handledLines, hend]
      refine ⟨last, hlast, ?_⟩
      simp [sessionOn_cons_of_handled htext, Transcript.after, hlines, heffects]

/-- What reaches the output are the prompts and the tokens of the lines that are handled. -/
theorem filter_isOutput_sessionOn (failure? : Option IoFault) (lines : List Bytes) :
    (sessionOn failure? lines).effects.filter Effect.isOutput =
      (handledLines failure? lines).flatMap
        (fun line => prompt ++ (tokens line).dropLast.map printToken) ++ prompt := by
  rcases exists_effects_sessionOn failure? lines with ⟨last, hlast, heffects⟩
  have hprompt : prompt.filter Effect.isOutput = prompt := rfl
  have hread : last.filter Effect.isOutput = [] := by
    rcases hlast with rfl | ⟨line, rfl⟩ <;> rfl
  simp [heffects, List.filter_flatMap, filter_isOutput_round, hprompt, hread]

theorem filter_isOutput_session (input : Input) :
    (session input).effects.filter Effect.isOutput =
      (handledTokens input).flatMap (fun ts => prompt ++ ts.map printToken) ++ prompt := by
  rw [session, filter_isOutput_sessionOn, handledTokens, List.flatMap_map]

/-! ## What is written -/

/-- Only the effects on the output write. -/
theorem written_filter_isOutput (es : List Effect) :
    written (es.filter Effect.isOutput) = written es := by
  induction es with
  | nil => rfl
  | cons e es ih =>
    cases e with
    | write text => simpa [List.filter_cons, Effect.isOutput] using ih
    | flush => simpa [List.filter_cons, Effect.isOutput] using ih
    | read bytes => simpa [List.filter_cons, Effect.isOutput, Effect.written] using ih
    | log record => simpa [List.filter_cons, Effect.isOutput, Effect.written] using ih

theorem written_map_printToken (ts : List Token) :
    written (ts.map printToken) = Text.utf8 (listing ts) := by
  induction ts with
  | nil => rfl
  | cons t ts ih => simp [printToken, Effect.written, ih]

/-- What a session prints, given the tokens of each line that it handles, if the characters of
`table` are written by number. -/
def printedWith (table : Char → Bool) (rounds : List (List Token)) : Text :=
  rounds.flatMap (fun ts => promptText ++ listingWith table ts) ++ promptText

theorem written_flatMap_printToken (rounds : List (List Token)) :
    written (rounds.flatMap fun ts => prompt ++ ts.map printToken) =
      Text.utf8 (rounds.flatMap fun ts => promptText ++ listing ts) := by
  induction rounds with
  | nil => rfl
  | cons ts rounds ih => simp [written_map_printToken, ih]

/-- The output of a session is made of the tokens of the lines that it handles. -/
theorem output_run_faultless (input : Input) :
    (run input .faultless).output =
      Text.utf8 (printedWith Text.isEscaped (handledTokens input)) := by
  calc
    (run input .faultless).output
        = written ((session input).effects.filter Effect.isOutput) := by
          rw [written_filter_isOutput, run, play_faultless]
    _ = Text.utf8 (printedWith Text.isEscaped (handledTokens input)) := by
          rw [filter_isOutput_session, written_append, written_flatMap_printToken, written_prompt,
            ← Text.utf8_append]
          rfl

/-! ## Reading an output back -/

/-- Each line that is handled ends its tokens with the next prompt. -/
theorem printedWith_eq (table : Char → Bool) (rounds : List (List Token)) :
    printedWith table rounds =
      promptText ++ rounds.flatMap fun ts => listingWith table ts ++ promptText := by
  induction rounds with
  | nil => rfl
  | cons ts rounds ih => simp_all [printedWith]

theorem printedWith_injective (table : Char → Bool) : Function.Injective (printedWith table) := by
  -- a prompt begins with no letter, so it ends the lines of a listing
  have hround : IsSelfDelimiting fun ts => listingWith table ts ++ promptText :=
    (isSelfDelimiting_line table).sequence (head?_line_ne table (by decide)) ">> ".toList.tail
  intro rounds rounds' h
  rw [printedWith_eq, printedWith_eq] at h
  exact hround.flatMap_injective (List.append_cancel_left h)

/-- A printed token determines the token and holds no line feed, a listing determines its tokens,
and the output of a session the tokens printed for each line, whichever characters are written by
number.  A run on a file prints a listing, and a session prints its prompts and the tokens of the
lines that it handles; so two sessions with the same output have printed the same. -/
theorem printed_determines_tokens :
    (∀ table : Char → Bool,
      Function.Injective (Token.displayWith table) ∧
      (∀ t : Token, '\n' ∉ t.displayWith table) ∧
      (Function.Injective fun ts : List Token => Text.utf8 (listingWith table ts)) ∧
      Function.Injective fun rounds => Text.utf8 (printedWith table rounds)) ∧
    (∀ t : Token, t.displayWith Text.isEscaped = t.display) ∧
    (∀ strict path source ts, CommandLine.tokensOf strict source = .ok ts →
      CommandLine.fileAnswer strict path (.ok (Text.utf8 source)) =
        .success (Text.utf8 (listingWith Text.isEscaped ts))) ∧
    (∀ input,
      (session input).effects.filter Effect.isOutput =
        (handledTokens input).flatMap (fun ts => prompt ++ ts.map printToken) ++ prompt ∧
      (run input .faultless).output = Text.utf8 (printedWith Text.isEscaped (handledTokens input))) ∧
    ∀ a b, (run a .faultless).output = (run b .faultless).output →
      handledTokens a = handledTokens b := by
  have hprinted : ∀ table, Function.Injective fun rounds => Text.utf8 (printedWith table rounds) :=
    fun table => Text.utf8_injective.comp (printedWith_injective table)
  refine ⟨fun table => ⟨?_, ?_, ?_, hprinted table⟩, ?_, ?_, ?_, ?_⟩
  · exact (Token.isSelfDelimiting_displayWith table).injective
  · exact Token.lineFeed_not_mem_displayWith table
  · exact Text.utf8_injective.comp (listingWith_injective table)
  · exact fun _ => rfl
  · intro strict path source ts hts
    simp only [CommandLine.fileAnswer, CommandLine.sourceOf, Text.ofUtf8?_utf8, hts]
    rfl
  · exact fun input => ⟨filter_isOutput_session input, output_run_faultless input⟩
  · intro a b h
    rw [output_run_faultless, output_run_faultless] at h
    exact hprinted Text.isEscaped h

end Console

end Lexis
