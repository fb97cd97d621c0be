import Lexis.Proofs.Console.Perform
import Lexis.Proofs.Tokens.Lines

/-!
# Agreement — the console prints what a file run prints

Typed at the console, a text is handled up to its first quit line.  The tokens printed for the lines
of that part are the tokens that a run on a file with the same text prints before the end of input
(`run_agrees_with_file`).
-/

namespace Lexis

namespace Console

open CommandLine (listing)

/-! ## The part before the first quit line -/

/-- The lines of a text before the first quit line. -/
def linesBeforeQuit (s : Text) : List Text :=
  (Text.lines s).takeWhile fun line => !isQuitLine line

/-- The part of a text before its first quit line. -/
def beforeQuit (s : Text) : Text :=
  (linesBeforeQuit s).flatten

/-- The first quit line of a text, if it has one. -/
def firstQuitLine? (s : Text) : Option Text :=
  (Text.lines s).find? isQuitLine

/-- Cut where a quit line begins, the text before has the lines before. -/
theorem lines_beforeQuit (s : Text) : Text.lines (beforeQuit s) = linesBeforeQuit s :=
  cutAfter_flatten_of_prefix (List.takeWhile_prefix _)

theorem isQuitLine_of_mem_linesBeforeQuit {s line : Text} (h : line ∈ linesBeforeQuit s) :
    isQuitLine line = false := by
  simpa using List.mem_takeWhile_imp h

/-- All lines come before a quit line, or the first quit line is next. -/
theorem linesBeforeQuit_cases (s : Text) :
    (firstQuitLine? s = none ∧ Text.lines s = linesBeforeQuit s) ∨
      ∃ quit after, firstQuitLine? s = some quit ∧ isQuitLine quit = true ∧
        Text.lines s = linesBeforeQuit s ++ quit :: after := by
  cases hfind : firstQuitLine? s with
  | none =>
    have hnone : ∀ line ∈ Text.lines s, isQuitLine line = false := by
      simpa using List.find?_eq_none.1 hfind
    refine Or.inl ⟨rfl, (List.takeWhile_eq_self_iff.2 fun line hline => ?_).symm⟩
    simp [hnone line hline]
  | some quit =>
    rcases List.find?_eq_some_iff_append.1 hfind with ⟨hquit, lines, after, heq, hlines⟩
    have hbefore : linesBeforeQuit s = lines := by
      calc
        linesBeforeQuit s = (lines ++ quit :: after).takeWhile (fun line => !isQuitLine line) := by
              simp [linesBeforeQuit, heq]
        _ = lines ++ (quit :: after).takeWhile (fun line => !isQuitLine line) :=
              List.takeWhile_append_of_pos hlines
        _ = lines := by simp [hquit]
    exact Or.inr ⟨quit, after, rfl, hquit, hbefore ▸ heq⟩

/-- The text begins with what comes before its first quit line, and that line. -/
theorem beforeQuit_append_prefix (s : Text) :
    beforeQuit s ++ (firstQuitLine? s).getD [] <+: s := by
  have hflatten : (Text.lines s).flatten = s := Text.flatten_lines s
  rcases linesBeforeQuit_cases s with ⟨hfirst, hlines⟩ | ⟨quit, after, hfirst, -, hlines⟩
  · refine ⟨[], ?_⟩
    simp [hfirst, beforeQuit, ← hlines, hflatten]
  · refine ⟨after.flatten, ?_⟩
    rw [hlines] at hflatten
    simpa [hfirst, beforeQuit] using hflatten

/-! ## The session on a text -/

theorem ending?_of_isQuitLine {failure? : Option IoFault} {line : Text}
    (hwhole : IsWhole failure? (Text.utf8 line)) (h : isQuitLine line = true) :
    ending? failure? (Text.utf8 line) = some none := by
  have hvalid : (Text.utf8 line).isUtf8 = true := Bytes.isUtf8_iff.2 ⟨line, rfl⟩
  simp [ending?, isWhole_iff.1 hwhole, hvalid, h]

/-- A text typed at the console is handled up to its first quit line, which is read as well. -/
theorem session_utf8 (s : Text) :
    session ⟨Text.utf8 s, none⟩ =
      ⟨(linesBeforeQuit s).flatMap round ++ prompt
        ++ (firstQuitLine? s).toList.map fun line => .read (Text.utf8 line), none⟩ := by
  have hhandled : ∀ line ∈ linesBeforeQuit s, Handled none line :=
    fun line hline => ⟨isQuitLine_of_mem_linesBeforeQuit hline, Or.inl rfl⟩
  rw [session, Text.lines_utf8]
  rcases linesBeforeQuit_cases s with ⟨hfirst, hlines⟩ | ⟨quit, after, hfirst, hquit, hlines⟩
  · have hsession := sessionOn_append hhandled []
    rw [List.append_nil, ← hlines] at hsession
    simp [hsession, hfirst, sessionOn, Transcript.after, ← hlines]
  · have hsession := sessionOn_append hhandled (Text.utf8 quit :: after.map Text.utf8)
    rw [sessionOn_cons_of_ending (ending?_of_isQuitLine (isWhole_none _) hquit)] at hsession
    rw [hlines, List.map_append, List.map_cons, hsession, hfirst]
    simp [Transcript.after]

/-! ## What reaches the output -/

/-- Whether the effect is one on the output. -/
def Effect.isOutput : Effect → Bool
  | write _ => true
  | flush => true
  | _ => false

/-- A token is printed on a line of its own. -/
def printToken (t : Token) : Effect :=
  .write (Text.line t.display)

theorem filter_isOutput_handle (source : Text) :
    (handle source).filter Effect.isOutput = (tokens source).dropLast.map printToken := by
  have hecho : ∀ ts : List Token, (ts.flatMap echo).filter Effect.isOutput = ts.map printToken := by
    intro ts
    induction ts with
    | nil => rfl
    | cons t ts ih =>
      rw [List.flatMap_cons, List.filter_append, ih]
      rfl
  rw [handle_eq]
  simp [hecho, Effect.isOutput]

theorem filter_isOutput_round (line : Text) :
    (round line).filter Effect.isOutput = prompt ++ (tokens line).dropLast.map printToken := by
  have hprompt : prompt.filter Effect.isOutput = prompt := rfl
  simp [round, hprompt, Effect.isOutput, filter_isOutput_handle, tokens_content]

/-! ## The console and a file -/

/-- A run on a file lists the tokens of its lines, and the end of input. -/
theorem fileAnswer_utf8 (s path : Text) :
    CommandLine.fileAnswer false path (.ok (Text.utf8 s)) =
      .success (Text.utf8 ((Text.lines s).flatMap (fun line => listing (tokens line).dropLast)
        ++ Text.line Token.endOfInput.display)) := by
  have htokens : listing (tokens s) =
      listing (tokens s).dropLast ++ Text.line Token.endOfInput.display := by
    conv_lhs => rw [(reads_tokens s).tokens_eq]
    simp
  have hlines : listing (tokens s).dropLast =
      (Text.lines s).flatMap fun line => listing (tokens line).dropLast := by
    rw [dropLast_tokens_lines, CommandLine.listing_eq_flatMap, List.flatMap_assoc]
    rfl
  simp [CommandLine.fileAnswer, CommandLine.sourceOf, CommandLine.tokensOf, htokens, hlines]

/-- The console, fed a text, handles the lines before the first quit line: its output is the prompt
and the tokens of each, and a last prompt.  The tokens printed are those that a run on a file with
that part of the text prints before the end of input. -/
theorem run_agrees_with_file (s path : Text) :
    let lines := Text.lines (beforeQuit s)
    let report := run ⟨Text.utf8 s, none⟩ .faultless
    report.failure? = none ∧
    report.output = Text.utf8
      (lines.flatMap (fun line => promptText ++ listing (tokens line).dropLast) ++ promptText) ∧
    lines.flatMap (fun line => (tokens line).dropLast.map Token.display)
      = (tokens (beforeQuit s)).dropLast.map Token.display ∧
    CommandLine.fileAnswer false path (.ok (Text.utf8 (beforeQuit s))) =
      .success (Text.utf8 (lines.flatMap (fun line => listing (tokens line).dropLast)
        ++ Text.line Token.endOfInput.display)) ∧
    (session ⟨Text.utf8 s, none⟩).effects.filter Effect.isOutput =
      lines.flatMap (fun line => prompt ++ (tokens line).dropLast.map printToken) ++ prompt ∧
    report.flushes = lines.length + 1 ∧
    report.consumed = (Text.utf8 (beforeQuit s ++ (firstQuitLine? s).getD [])).length ∧
    beforeQuit s ++ (firstQuitLine? s).getD [] <+: s := by
  intro lines report
  have hlines : lines = linesBeforeQuit s := lines_beforeQuit s
  have hreport : report = ⟨_, _, _, _⟩ := play_faultless (session ⟨Text.utf8 s, none⟩)
  rw [session_utf8] at hreport
  have hread : readBytes ((firstQuitLine? s).toList.map fun line => .read (Text.utf8 line))
      = Text.utf8 ((firstQuitLine? s).getD []) := by
    cases firstQuitLine? s <;> simp [Effect.readBytes]
  have hquiet : written ((firstQuitLine? s).toList.map fun line => .read (Text.utf8 line)) = []
      ∧ flushCount ((firstQuitLine? s).toList.map fun line => .read (Text.utf8 line)) = 0 := by
    cases firstQuitLine? s <;> simp [Effect.written]
  refine ⟨?_, ?_, ?_, ?_, ?_, ?_, ?_, ?_⟩
  · simp [hreport]
  · -- what is written: a round for each line, and the last prompt
    rw [hreport, hlines]
    simp [written_rounds, printed, hquiet]
  · -- no token crosses a line feed
    rw [← List.map_flatMap, ← dropLast_tokens_lines]
  · exact fileAnswer_utf8 (beforeQuit s) path
  · -- what reaches the output, in order
    rw [session_utf8, hlines]
    have hrest : ((firstQuitLine? s).toList.map fun line => Effect.read (Text.utf8 line)).filter
        Effect.isOutput = [] := by
      cases firstQuitLine? s <;> rfl
    have hprompt : prompt.filter Effect.isOutput = prompt := rfl
    simp [List.filter_flatMap, filter_isOutput_round, hrest, hprompt]
  · rw [hreport, hlines]
    simp [flushCount_rounds, hquiet]
  · rw [hreport]
    simp [readBytes_rounds, hread, beforeQuit]
  · exact beforeQuit_append_prefix s

end Console

end Lexis
