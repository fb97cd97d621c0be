import Lexis.Proofs.Console.Records
import Lexis.Proofs.Console.Stops
import Lexis.Proofs.Tokens.Chunks

/-!
# Quitting — the quit command and the programs of the language

Three kinds of white space meet at the console: the line feeds and carriage returns that are cut off
a line, the Unicode white space around the quit command, and the four spaces of the language.

* A line ends the session exactly if it is the quit command with Unicode white space around it
  (`isQuitLine_iff`).
* Strict reading refuses such a line at its first token, which is the dot of the command or white
  space that is no space (`exists_strictTokens_of_isPadded`).
* So a text that strict reading accepts has no quit line, and all of it is read
  (`run_of_alphabet`).
-/

namespace Lexis

namespace Console

open CommandLine (listing)
open Text (isBlank IsPadded)

variable {line : Text}

/-! ## Quit lines -/

theorem isQuitLine_iff : isQuitLine line = true ↔ IsPadded isBlank quitCommand line := by
  have hdot : quitCommand.head? = some '.' ∧ isBlank '.' = false := by decide
  have ht : quitCommand.getLast? = some 't' ∧ isBlank 't' = false := by decide
  have hfirst : ∀ c ∈ quitCommand.head?, isBlank c = false := by simp [hdot]
  have hlast : ∀ c ∈ quitCommand.getLast?, isBlank c = false := by simp [ht]
  rw [isQuitLine, beq_iff_eq]
  exact Text.trim_eq_iff hfirst hlast

theorem isQuitLine_eq_false_iff :
    isQuitLine line = false ↔ ¬ IsPadded isBlank quitCommand line := by
  rw [← isQuitLine_iff, Bool.not_eq_true]

/-- The quit command is no program, and neither is it with white space around it. -/
theorem exists_strictTokens_of_isPadded (h : IsPadded isBlank quitCommand line) :
    ∃ literal, strictTokens line = .error (.illegalToken literal 0) := by
  rcases h with ⟨lead, tail, hlead, -, rfl⟩
  have hdot : isForeign '.' = true := by decide
  rcases exists_gap_append_foreign hlead hdot ("quit".toList ++ tail) with
    ⟨gap, d, after, hgap, hd, heq⟩
  have hline : lead ++ quitCommand ++ tail = gap ++ d :: after := by
    simpa [quitCommand] using heq
  exact ⟨[d], hline ▸ strictTokens_gap_append_foreign hgap hd after⟩

/-- No line of a text without foreign characters is a quit line. -/
theorem isQuitLine_eq_false_of_alphabet {s : Text} (hs : ∀ c ∈ s, isForeign c = false) :
    ∀ line ∈ Text.lines s, isQuitLine line = false := by
  intro line hline
  rw [isQuitLine_eq_false_iff]
  rintro ⟨lead, tail, -, -, rfl⟩
  have hdot : '.' ∈ s := by
    rw [← Text.flatten_lines s]
    exact List.mem_flatten_of_mem hline (by simp [quitCommand])
  have hforeign := hs '.' hdot
  revert hforeign
  decide

/-! ## Where a session stops -/

/-- Every session begins with a prompt. -/
theorem prompt_prefix_sessionOn (failure? : Option IoFault) (lines : List Bytes) :
    prompt <+: (sessionOn failure? lines).effects := by
  refine sessionOn_induction (motive := fun _ t => prompt <+: t.effects) failure? ?_ ?_ ?_ lines
  · exact List.prefix_rfl
  · intro line after end? _
    exact List.prefix_append prompt _
  · intro line after t _
    exact ⟨.read (Text.utf8 line) :: handle (content line) ++ t.effects, by
      simp [round, Transcript.after]⟩

section Stopping

variable {input : Input} {before : List Text} {after : List Bytes}
  (hlines : input.bytes.lines = before.map Text.utf8 ++ Text.utf8 line :: after)
  (hbefore : ∀ other ∈ before, isQuitLine other = false)
  (hwhole : IsWhole input.failure? (Text.utf8 line))

include hlines hbefore

/-- The lines before another one are read to their ends, so they are handled. -/
theorem session_eq_after :
    session input =
      (sessionOn input.failure? (Text.utf8 line :: after)).after (before.flatMap round) := by
  have hhandled : ∀ other ∈ before, Handled input.failure? other := by
    intro other hother
    have hended := isTerminated_of_append hlines (List.cons_ne_nil _ after)
    exact ⟨hbefore other hother, Or.inr (hended _ (List.mem_map_of_mem hother))⟩
  rw [session, hlines]
  exact sessionOn_append hhandled _

include hwhole

/-- A session ends well as soon as it has read a quit line. -/
theorem session_of_quit (h : isQuitLine line = true) :
    session input = ⟨before.flatMap round ++ (prompt ++ [.read (Text.utf8 line)]), none⟩ := by
  simp [session_eq_after hlines hbefore, sessionOn_cons_of_ending (ending?_of_isQuitLine hwhole h),
    Transcript.after]

/-- After any other line a session prints the tokens of the line, and prompts again. -/
theorem round_prompt_prefix_session (h : isQuitLine line = false) :
    before.flatMap round ++ (round line ++ prompt) <+: (session input).effects := by
  rcases prompt_prefix_sessionOn input.failure? after with ⟨more, hmore⟩
  refine ⟨more, ?_⟩
  simp [session_eq_after hlines hbefore, sessionOn_cons_of_handled ⟨h, hwhole⟩, Transcript.after,
    ← hmore]

/-- A session stops at a line exactly if this is a quit line. -/
theorem session_eq_stopped_iff :
    session input = ⟨before.flatMap round ++ (prompt ++ [.read (Text.utf8 line)]), none⟩ ↔
      isQuitLine line = true := by
  constructor
  · intro hstopped
    by_contra hgoes
    -- the round of the line alone does more than a session that stops at it
    have hprefix := round_prompt_prefix_session hlines hbefore hwhole (Bool.not_eq_true _ ▸ hgoes)
    rw [hstopped] at hprefix
    have hlength := hprefix.length_le
    simp only [round, prompt, List.length_append, List.length_cons, List.length_nil] at hlength
    omega
  · exact session_of_quit hlines hbefore hwhole

end Stopping

/-! ## Texts that strict reading accepts -/

section Accepted

variable {s : Text} (hs : ∀ c ∈ s, isForeign c = false)

include hs

theorem handled_of_alphabet : ∀ line ∈ Text.lines s, Handled none line :=
  fun line hline => ⟨isQuitLine_eq_false_of_alphabet hs line hline, isWhole_none _⟩

/-- A run on such a text reads all of it, and does a round for each of its lines. -/
theorem run_of_alphabet :
    run ⟨Text.utf8 s, none⟩ .faultless =
      ⟨Text.utf8 (printed (Text.lines s) ++ promptText), (Text.utf8 s).length,
        (Text.lines s).length + 1, none⟩ :=
  run_of_handled ⟨Text.utf8 s, none⟩ (Text.lines_utf8 s) (handled_of_alphabet hs)

/-- The lines that are printed are those of the tokens of the text. -/
theorem printedLines_of_alphabet :
    printedLines (session ⟨Text.utf8 s, none⟩).effects =
      (tokens s).dropLast.map fun t => Text.line t.display := by
  have hsession := sessionOn_append (handled_of_alphabet hs) []
  rw [List.append_nil, ← Text.lines_utf8] at hsession
  have heffects : (session ⟨Text.utf8 s, none⟩).effects =
      (Text.lines s).flatMap round ++ prompt := by
    simp [session, hsession, Transcript.after, sessionOn]
  have hprompt : printedLines prompt = [] := rfl
  calc
    printedLines (session ⟨Text.utf8 s, none⟩).effects
        = printedLines ((Text.lines s).flatMap round) ++ printedLines prompt := by
          simp [heffects, printedLines]
    _ = (tokens s).dropLast.map fun t => Text.line t.display := by
          simp [hprompt, printedLines_flatMap_round, tokens_content, dropLast_tokens_lines s,
            List.map_flatMap]

end Accepted

/-- A session stops at a line, once it comes to it and reads it to its end, exactly if the line is
the quit command with Unicode white space around it; after any other line it prints the tokens of
the line and prompts again.  Strict reading refuses every quit line, and always at its first token.
So the quit command is in the way of no program: typed at the console, a text that strict reading
accepts is read to its end, and what is printed between the prompts are the lines of its tokens,
without the end of input. -/
theorem quit_lines_are_no_programs :
    (∀ (input : Input) (before : List Text) line (after : List Bytes),
      input.bytes.lines = before.map Text.utf8 ++ Text.utf8 line :: after →
      (∀ other ∈ before, ¬ IsPadded isBlank quitCommand other) →
      IsWhole input.failure? (Text.utf8 line) →
      (session input = ⟨before.flatMap round ++ (prompt ++ [.read (Text.utf8 line)]), none⟩ ↔
        IsPadded isBlank quitCommand line) ∧
      (¬ IsPadded isBlank quitCommand line →
        before.flatMap round ++ (round line ++ prompt) <+: (session input).effects)) ∧
    (∀ line, IsPadded isBlank quitCommand line →
      ∃ literal, strictTokens line = .error (.illegalToken literal 0)) ∧
    ∀ s ts, strictTokens s = .ok ts →
      let report := run ⟨Text.utf8 s, none⟩ .faultless
      ∃ us, ts = us ++ [Token.endOfInput] ∧
        report.failure? = none ∧ report.consumed = (Text.utf8 s).length ∧
        printedLines (session ⟨Text.utf8 s, none⟩).effects =
          us.map (fun t => Text.line t.display) ∧
        ∃ rounds : List (List Token), rounds.flatten = us ∧ rounds.length = (Text.lines s).length ∧
          report.output =
            Text.utf8 (rounds.flatMap (fun ts => promptText ++ listing ts) ++ promptText) := by
  refine ⟨?_, fun line => exists_strictTokens_of_isPadded, ?_⟩
  · intro input before line after hlines hbefore hwhole
    simp only [← isQuitLine_eq_false_iff] at hbefore
    rw [← isQuitLine_iff, Bool.not_eq_true]
    exact ⟨session_eq_stopped_iff hlines hbefore hwhole,
      round_prompt_prefix_session hlines hbefore hwhole⟩
  · intro s ts h report
    rcases alphabet_of_strictTokens_eq_ok h with ⟨hs, rfl⟩
    have hreport : report = ⟨_, _, _, _⟩ := run_of_alphabet hs
    refine ⟨(tokens s).dropLast, (reads_tokens s).tokens_eq, ?_, ?_, printedLines_of_alphabet hs,
      (Text.lines s).map fun line => (tokens line).dropLast, ?_, ?_, ?_⟩
    · simp [hreport]
    · simp [hreport]
    · simp [dropLast_tokens_lines s, List.flatMap_def]
    · simp
    · simp [hreport, printed, List.flatMap_map]

/-- A quit line in an ideographic space and a carriage return, before bytes that are not UTF-8 and
an input that fails, and a program of two lines. -/
theorem quit_lines_are_no_programs_ideographic :
    let line := "\u3000.quit \r\n".toList
    let input : Input := ⟨Text.utf8 ("x\n".toList ++ line) ++ [0xff], some .other⟩
    IsPadded isBlank quitCommand line ∧ (session input).failure? = none ∧
      (∃ literal, strictTokens line = .error (.illegalToken literal 0)) ∧
      strictTokens "x;\ny".toList = .ok (tokens "x;\ny".toList) ∧
      (run ⟨Text.utf8 "x;\ny".toList, none⟩ .faultless).consumed = 4 := by
  intro line input
  have hpadded : IsPadded isBlank quitCommand line :=
    ⟨['\u3000'], " \r\n".toList, List.all_eq_true.1 (by decide), List.all_eq_true.1 (by decide),
      by decide⟩
  have hlines : input.bytes.lines =
      ["x\n".toList].map Text.utf8 ++ Text.utf8 line :: [[0xff]] := by decide +kernel
  have hbefore : ∀ other ∈ ["x\n".toList], ¬ IsPadded isBlank quitCommand other := by
    intro other hother
    rw [← isQuitLine_eq_false_iff]
    revert other
    decide
  have hwhole : IsWhole input.failure? (Text.utf8 line) := Or.inr (by decide +kernel)
  have hok : strictTokens "x;\ny".toList = .ok (tokens "x;\ny".toList) := by decide +kernel
  rcases quit_lines_are_no_programs with ⟨hstops, hrefused, haccepted⟩
  rcases haccepted _ _ hok with ⟨-, -, -, hconsumed, -⟩
  have hsession := (hstops input _ line _ hlines hbefore hwhole).1.2 hpadded
  exact ⟨hpadded, by simp [hsession], hrefused line hpadded, hok,
    hconsumed.trans (by decide +kernel)⟩

end Console

end Lexis
