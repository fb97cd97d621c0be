import Lexis.Proofs.Console.Decoding

/-!
# Records — the log tells what was done

* A scan records every token that it gives, the end of input included, and then how many characters
  and tokens there were; strict reading records the same (`records_scanSource`).
* A session records every line that it handles, and after each the tokens of the line
  (`records_session`).  It records nothing else, and so it prints exactly the tokens that it
  records, but for the ends of input (`printedLines_session`).
* All records are of level `trace` or `debug`, so a log keeps all of them, those of level `debug`, or
  none (`IsFine.isSortedByLevel`).
-/

namespace Lexis

/-! ## Levels -/

/-- Records of the levels `trace` and `debug` only. -/
def IsFine (records : List LogRecord) : Prop :=
  ∀ record ∈ records, record.level ≠ .info

/-- Records of which a log keeps all at level `trace`, those of level `debug` at level `debug`, and
none at level `info`. -/
structure IsSortedByLevel (records : List LogRecord) : Prop where
  trace : records.filter (LogRecord.isKept .trace) = records
  debug : records.filter (LogRecord.isKept .debug) = records.filter (·.level == .debug)
  info : records.filter (LogRecord.isKept .info) = []

theorem IsFine.isSortedByLevel {records : List LogRecord} (h : IsFine records) :
    IsSortedByLevel records where
  trace := by
    rw [List.filter_eq_self]
    rintro ⟨level, text⟩ _
    cases level <;> rfl
  debug := by
    refine List.filter_congr fun record hrecord => ?_
    rcases record with ⟨level, text⟩
    cases level with
    | info => exact absurd rfl (h _ hrecord)
    | debug => rfl
    | trace => rfl
  info := by
    rw [List.filter_eq_nil_iff]
    rintro ⟨level, text⟩ hrecord
    cases level with
    | info => exact absurd rfl (h _ hrecord)
    | debug => simp [LogRecord.isKept, Level.rank]
    | trace => simp [LogRecord.isKept, Level.rank]

/-! ## Scans -/

/-- A scan records its tokens, and then how many characters and tokens there were. -/
theorem records_scanSource (source : Text) :
    (scanSource source).records =
      (tokens source).map .scanned ++ [.tokenized source.length (tokens source).length] := by
  have hscan := (reads_tokens source).scan_eq (.ofText source) rfl
  rw [← (reads_tokens source).tokens_eq] at hscan
  simp only [scanSource, hscan]

theorem level_of_mem_map_scanned {ts : List Token} {record : LogRecord}
    (h : record ∈ ts.map .scanned) : record.level = .trace := by
  rcases List.mem_map.1 h with ⟨t, -, rfl⟩
  rfl

/-- The records of level `trace` are those of the tokens. -/
theorem filter_trace_scanSource (source : Text) :
    (scanSource source).records.filter (·.level == .trace) = (tokens source).map .scanned := by
  have hscanned : ((tokens source).map LogRecord.scanned).filter (·.level == .trace) =
      (tokens source).map .scanned :=
    List.filter_eq_self.2 fun record hrecord => by simp [level_of_mem_map_scanned hrecord]
  rw [records_scanSource, List.filter_append, hscanned]
  exact List.append_nil _

theorem isFine_map_scanned (ts : List Token) : IsFine (ts.map .scanned) := by
  intro record hrecord
  rw [level_of_mem_map_scanned hrecord]
  decide

theorem isFine_scanSource (source : Text) : IsFine (scanSource source).records := by
  rw [records_scanSource]
  intro record hrecord
  rcases List.mem_append.1 hrecord with hscanned | hlast
  · exact isFine_map_scanned _ record hscanned
  · rw [List.mem_singleton.1 hlast]
    exact (by decide : Level.debug ≠ .info)

namespace Console

/-! ## Rounds -/

/-- What is recorded for a line that a session handles. -/
def lineRecords (line : Text) : List LogRecord :=
  .consoleLine (content line) :: (tokens (content line)).map .scanned

theorem filterMap_record?_round (line : Text) :
    (round line).filterMap Effect.record? = lineRecords line := by
  have hprompt : prompt.filterMap Effect.record? = [] := rfl
  have hecho : ∀ ts : List Token, (ts.flatMap echo).filterMap Effect.record? =
      ts.map .scanned := by
    intro ts
    induction ts with
    | nil => rfl
    | cons t ts ih => simpa [echo, List.filterMap_cons, Effect.record?] using ih
  rw [lineRecords, (reads_tokens (content line)).tokens_eq]
  simp [round, hprompt, handle_eq, hecho, List.filterMap_cons, Effect.record?]

/-- The line that an effect prints.  A prompt is none. -/
def Effect.printedLine? : Effect → Option Text
  | write text => if text = promptText then none else some text
  | _ => none

/-- The lines that are printed, without the prompts. -/
def printedLines (es : List Effect) : List Text :=
  es.filterMap Effect.printedLine?

/-- A prompt is no line. -/
theorem line_ne_promptText (s : Text) : Text.line s ≠ promptText := by
  intro h
  have hlast := congrArg List.getLast? h
  rw [Text.line, List.getLast?_concat] at hlast
  revert hlast
  decide

theorem printedLines_round (line : Text) :
    printedLines (round line) =
      (tokens (content line)).dropLast.map fun t => Text.line t.display := by
  have hecho : ∀ ts : List Token, (ts.flatMap echo).filterMap Effect.printedLine? =
      ts.map fun t => Text.line t.display := by
    intro ts
    induction ts with
    | nil => rfl
    | cons t ts ih =>
      simpa [echo, List.filterMap_cons, Effect.printedLine?, line_ne_promptText] using ih
  have hprompt : prompt.filterMap Effect.printedLine? = [] := rfl
  simp [printedLines, round, hprompt, handle_eq, hecho, List.filterMap_cons, Effect.printedLine?]

theorem count_prompt_round (line : Text) : (round line).count (.write promptText) = 1 := by
  have hecho : ∀ ts : List Token, (ts.flatMap echo).count (.write promptText) = 0 := by
    intro ts
    rw [List.count_eq_zero]
    intro hmem
    rcases List.mem_flatMap.1 hmem with ⟨t, -, ht⟩
    have hline := line_ne_promptText t.display
    simp [echo, hline.symm] at ht
  have hprompt : prompt.count (.write promptText) = 1 := by decide
  simp [round, handle_eq, hprompt, hecho]

/-! ## Sessions -/

/-- A session records the lines that it handles, and their tokens. -/
theorem records_session (input : Input) :
    (session input).records =
      (handledLines input.failure? input.bytes.lines).flatMap lineRecords := by
  rcases exists_effects_sessionOn input.failure? input.bytes.lines with ⟨last, hlast, heffects⟩
  have hprompt : prompt.filterMap Effect.record? = [] := rfl
  have hread : last.filterMap Effect.record? = [] := by
    rcases hlast with rfl | ⟨line, rfl⟩ <;> rfl
  simp [Transcript.records, session, heffects, List.filterMap_flatMap, filterMap_record?_round,
    hprompt, hread]

theorem isFine_session (input : Input) : IsFine (session input).records := by
  rw [records_session]
  intro record hrecord
  rcases List.mem_flatMap.1 hrecord with ⟨line, -, hline⟩
  rcases List.mem_cons.1 hline with rfl | hscanned
  · exact (by decide : Level.debug ≠ .info)
  · exact isFine_map_scanned _ record hscanned

/-- Only a quit line ends a session well. -/
theorem quits_of_ending?_eq_some_none {failure? : Option IoFault} {line : Bytes}
    (h : ending? failure? line = some none) : quits line = true := by
  unfold ending? at h
  split at h
  · next hopen => simp [Option.some.inj h] at hopen
  · split at h
    · simp at h
    · split at h
      · next hquits => exact hquits
      · cases h

/-- A session that does not fail handles the lines before the first quit line. -/
theorem map_utf8_handledLines {input : Input} (h : (run input .faultless).failure? = none) :
    (handledLines input.failure? input.bytes.lines).map Text.utf8 =
      input.bytes.lines.takeWhile fun line => !quits line := by
  rw [run, play_faultless, session] at h
  generalize input.bytes.lines = lines at h
  induction lines with
  | nil => rfl
  | cons line after ih =>
    cases hend : ending? input.failure? line with
    | some end? =>
      have hquits : quits line = true := by
        rw [sessionOn_cons_of_ending hend] at h
        exact quits_of_ending?_eq_some_none (hend.trans (congrArg some h))
      simp [handledLines, hend, hquits]
    | none =>
      rcases exists_handled_of_ending_eq_none hend with ⟨text, rfl, htext⟩
      rw [sessionOn_cons_of_handled htext] at h
      have hrest := ih h
      have hgoes : quits (Text.utf8 text) = false := by simpa using htext.1
      simpa [handledLines, hend, hgoes] using hrest

/-! ## What is printed -/

/-- The texts of the tokens that are recorded. -/
def scannedTexts (records : List LogRecord) : List Text :=
  (records.filter (·.level == .trace)).map fun record => record.text.drop "scanned ".toList.length

theorem scannedTexts_lineRecords (line : Text) :
    scannedTexts (lineRecords line) = (tokens (content line)).map Token.display := by
  have hscanned : ∀ ts : List Token, scannedTexts (ts.map .scanned) = ts.map Token.display := by
    intro ts
    induction ts with
    | nil => rfl
    | cons t ts ih => exact congrArg (t.display :: ·) ih
  exact hscanned _

/-- The tokens of a source without the end of input are those that do not look like it. -/
theorem filter_display_ne (source : Text) :
    ((tokens source).map Token.display).filter (· ≠ Token.endOfInput.display) =
      (tokens source).dropLast.map Token.display := by
  have hne : ∀ t ∈ (tokens source).dropLast, t.display ≠ Token.endOfInput.display := by
    intro t ht h
    have hlexeme := (reads_tokens source).lexeme_of_mem t ht
    exact hlexeme.kind_ne_endOfInput (congrArg Token.kind (Token.display_injective h))
  have hkept : ((tokens source).dropLast.map Token.display).filter
      (· ≠ Token.endOfInput.display) = (tokens source).dropLast.map Token.display := by
    rw [List.filter_eq_self]
    intro text htext
    rcases List.mem_map.1 htext with ⟨t, ht, rfl⟩
    simpa using hne t ht
  rw [(reads_tokens source).tokens_eq, List.dropLast_concat, List.map_append, List.filter_append,
    hkept]
  simp

theorem printedLines_flatMap_round (lines : List Text) :
    printedLines (lines.flatMap round) =
      lines.flatMap fun line => (tokens (content line)).dropLast.map fun t =>
        Text.line t.display := by
  simp only [printedLines, List.filterMap_flatMap]
  exact List.flatMap_congr fun line _ => printedLines_round line

theorem scannedTexts_flatMap_lineRecords (lines : List Text) :
    scannedTexts (lines.flatMap lineRecords) =
      lines.flatMap fun line => (tokens (content line)).map Token.display := by
  simp only [scannedTexts, List.filter_flatMap, List.map_flatMap]
  exact List.flatMap_congr fun line _ => scannedTexts_lineRecords line

/-- A session prints the tokens that it records, but for the ends of input. -/
theorem printedLines_session (input : Input) :
    printedLines (session input).effects =
      ((scannedTexts (session input).records).filter (· ≠ Token.endOfInput.display)).map
        Text.line := by
  rcases exists_effects_sessionOn input.failure? input.bytes.lines with ⟨last, hlast, heffects⟩
  have hquiet : printedLines (prompt ++ last) = [] := by
    rcases hlast with rfl | ⟨line, rfl⟩ <;> rfl
  have hrounds : printedLines (session input).effects =
      printedLines ((handledLines input.failure? input.bytes.lines).flatMap round) := by
    rw [session, heffects, List.append_assoc, printedLines, List.filterMap_append]
    exact (congrArg (_ ++ ·) hquiet).trans (List.append_nil _)
  rw [hrounds, printedLines_flatMap_round, records_session, scannedTexts_flatMap_lineRecords,
    List.filter_flatMap, List.map_flatMap]
  refine List.flatMap_congr fun line _ => ?_
  rw [filter_display_ne, List.map_map]
  rfl

/-! ## How many lines were handled -/

theorem length_filter_debug_session (input : Input) :
    ((session input).records.filter (·.level == .debug)).length =
      (handledLines input.failure? input.bytes.lines).length := by
  have hscanned : ∀ ts : List Token,
      (ts.map LogRecord.scanned).filter (·.level == .debug) = [] := fun ts =>
    List.filter_eq_nil_iff.2 fun record hrecord => by simp [level_of_mem_map_scanned hrecord]
  rw [records_session]
  induction handledLines input.failure? input.bytes.lines with
  | nil => rfl
  | cons line lines ih =>
    rw [List.flatMap_cons, List.filter_append, List.length_append, ih, lineRecords,
      List.filter_cons_of_pos rfl, hscanned, List.length_cons]
    exact Nat.add_comm 1 lines.length

theorem count_prompt_session (input : Input) :
    (session input).effects.count (.write promptText) =
      (handledLines input.failure? input.bytes.lines).length + 1 := by
  rcases exists_effects_sessionOn input.failure? input.bytes.lines with ⟨last, hlast, heffects⟩
  have hlast : (prompt ++ last).count (.write promptText) = 1 := by
    rcases hlast with rfl | ⟨line, rfl⟩ <;> simp [prompt]
  have hrounds : ∀ lines : List Text,
      (lines.flatMap round).count (.write promptText) = lines.length := by
    intro lines
    induction lines with
    | nil => rfl
    | cons line lines ih =>
      rw [List.flatMap_cons, List.count_append, count_prompt_round, ih, List.length_cons]
      exact Nat.add_comm 1 lines.length
  rw [session, heffects, List.append_assoc, List.count_append, hrounds, hlast]

/-! ## The log -/

/-- The records tell what was done.  A scan records each token that it gives, in order, the end of
input included, and then the numbers of characters and tokens; strict reading records the same
whether or not it refuses the source.  A session records each line that it handles, which are those
before the first quit line if it does not fail, and after each the tokens of the line; it records
nothing else.  So it prints the tokens recorded, but for the ends of input, and it prompts once more
than there are records of level `debug`.  All these records are kept at level `trace`, those of
level `debug` at level `debug`, and none at level `info`. -/
theorem records_mirror_work :
    (∀ source,
      let records := (scanSource source).records
      records =
        (tokens source).map (fun t => ⟨.trace, "scanned ".toList ++ t.display⟩) ++
          [⟨.debug, "tokenized ".toList ++ Text.decimal source.length ++ " chars into ".toList
            ++ Text.decimal (records.filter (·.level == .trace)).length ++ " tokens".toList⟩] ∧
      (scanStrict source).records = records ∧
      IsSortedByLevel records) ∧
    ∀ input : Input,
      let lines := handledLines input.failure? input.bytes.lines
      let records := (session input).records
      ((run input .faultless).failure? = none →
        lines.map Text.utf8 = input.bytes.lines.takeWhile fun line => !quits line) ∧
      (records = lines.flatMap fun line =>
        ⟨.debug, "repl line: ".toList ++ Text.quoted (content line)⟩ ::
          (tokens (content line)).map fun t => ⟨.trace, "scanned ".toList ++ t.display⟩) ∧
      printedLines (session input).effects =
        ((scannedTexts records).filter (· ≠ Token.endOfInput.display)).map Text.line ∧
      (records.filter (·.level == .debug)).length + 1 =
        (session input).effects.count (.write promptText) ∧
      IsSortedByLevel records := by
  constructor
  · intro source records
    refine ⟨?_, rfl, (isFine_scanSource source).isSortedByLevel⟩
    rw [filter_trace_scanSource, List.length_map]
    exact records_scanSource source
  · intro input lines records
    refine ⟨map_utf8_handledLines, records_session input, printedLines_session input, ?_,
      (isFine_session input).isSortedByLevel⟩
    rw [length_filter_debug_session, count_prompt_session]

/-- A session that quits at its second line, and so records the first only. -/
theorem records_mirror_work_until_quit :
    let input : Input := ⟨Text.utf8 "x\r\n.quit\ny\n".toList, none⟩
    (run input .faultless).failure? = none ∧
    (handledLines input.failure? input.bytes.lines).map Text.utf8 = [Text.utf8 "x\r\n".toList] ∧
    (session input).effects.count (.write promptText) = 2 := by
  intro input
  have hend : (run input .faultless).failure? = none := by decide +kernel
  rcases records_mirror_work.2 input with ⟨hlines, -, -, hprompts, -⟩
  exact ⟨hend, (hlines hend).trans (by decide +kernel), hprompts.symm.trans (by decide +kernel)⟩

end Console

end Lexis
