import Lexis.Proofs.Console.Stops

/-!
# InputFaults — bytes that are not UTF-8, and inputs that fail

A session sees its input line by line.  A fault of a line, or of the input itself, is met only after
everything before it has been handled, and nothing after the line that ends the session matters
(`run_on_faulty_input`).

* On an input that does not fail, a run is cut off at the first line that stops it (`run_of_stops`),
  and fails if that line is not UTF-8 (`failure?_ne_none_iff`).
* What follows a quit line does not matter (`session_of_quits`).
* An input that fails is handled as far as its lines are terminated (`run_of_terminated_stops`,
  `run_of_terminated_not_stops`).
-/

namespace Lexis

namespace Console

variable {bytes line : Bytes} {before after : List Bytes}

/-! ## Invalid lines and quit lines -/

/-- Whether a quit line comes after nothing but valid lines. -/
def MeetsQuit (lines : List Bytes) : Prop :=
  ∃ before line after, lines = before ++ line :: after ∧ (∀ other ∈ before, other.isUtf8 = true) ∧
    quits line = true

/-- Lines of which one that is not UTF-8 is the first to stop the session never meet a quit line. -/
theorem not_meetsQuit (hbefore : ∀ other ∈ before, stops other = false)
    (hline : line.isUtf8 = false) : ¬ MeetsQuit (before ++ line :: after) := by
  rintro ⟨valid, quit, more, heq, hvalid, hquit⟩
  have hne : quit ≠ line := by
    intro hsame
    have hutf8 := isUtf8_of_quits hquit
    simp [hsame, hline] at hutf8
  -- the quit line stands in the place of the invalid one, before it, or after it
  rcases List.append_eq_append_iff.1 heq with ⟨between, rfl, hrest⟩ | ⟨between, rfl, hrest⟩
  · cases between with
    | nil => exact hne (List.cons.inj hrest).1.symm
    | cons other between =>
      have hsame : line = other := (List.cons.inj hrest).1
      have hmem := hvalid other (by simp)
      simp [← hsame, hline] at hmem
  · cases between with
    | nil => exact hne (List.cons.inj hrest).1
    | cons other between =>
      have hsame : quit = other := (List.cons.inj hrest).1
      have hgoes := hbefore other (by simp)
      simp [← hsame, stops_of_quits hquit] at hgoes

/-! ## Runs on inputs that do not fail -/

/-- A run that nothing stops ends well, with all of its input. -/
theorem run_of_not_stops (h : ∀ line ∈ bytes.lines, stops line = false) :
    let report := run ⟨bytes, none⟩ .faultless
    report.failure? = none ∧ report.consumed = bytes.length := by
  intro report
  have hwhole : ∀ line ∈ bytes.lines, IsWhole none line := by
    intro line _
    exact isWhole_none line
  rcases exists_handled_of_not_stops hwhole h with ⟨handled, hlines, hhandled⟩
  have hreport : report = ⟨_, _, _, _⟩ := run_of_handled ⟨bytes, none⟩ hlines hhandled
  rw [hreport]
  exact ⟨rfl, rfl⟩

/-- The first line that stops a run is read, and the run ends as if its input had ended before that
line, but in a failure if the line is not UTF-8. -/
theorem run_of_stops (hlines : bytes.lines = before ++ line :: after)
    (hbefore : ∀ other ∈ before, stops other = false) (hline : stops line = true) :
    run ⟨bytes, none⟩ .faultless =
      { run ⟨before.flatten, none⟩ .faultless with
        consumed := (before.flatten ++ line).length
        failure? := if line.isUtf8 then none else some .notUtf8 } := by
  have hwhole : ∀ other ∈ before, IsWhole none other := by
    intro other _
    exact isWhole_none other
  rcases exists_handled_of_not_stops hwhole hbefore with ⟨handled, rfl, hhandled⟩
  have hprior := run_of_handled ⟨_, none⟩ (lines_flatten_of_append hlines) hhandled
  have hend := ending?_of_stops (isWhole_none line) hline
  have hrun := run_of_ending ⟨bytes, none⟩ hlines hhandled hend
  rw [hprior, hrun]
  simp [Text.utf8_flatten]

/-- A run that fails does so at the first line that is not UTF-8. -/
theorem exists_invalid_of_failure (h : (run ⟨bytes, none⟩ .faultless).failure? ≠ none) :
    ∃ before line after, bytes.lines = before ++ line :: after ∧
      (∀ other ∈ before, stops other = false) ∧ line.isUtf8 = false := by
  rcases stops_cases bytes.lines with hnone | ⟨before, line, after, hlines, hbefore, hline⟩
  · exact absurd (run_of_not_stops hnone).1 h
  · refine ⟨before, line, after, hlines, hbefore, ?_⟩
    by_contra hvalid
    rw [run_of_stops hlines hbefore hline] at h
    simp [hvalid] at h

/-- A run fails on bytes that are not UTF-8 as a whole, unless it meets a quit line first. -/
theorem failure?_ne_none_iff (bytes : Bytes) :
    (run ⟨bytes, none⟩ .faultless).failure? ≠ none ↔
      bytes.isUtf8 = false ∧ ¬ MeetsQuit bytes.lines := by
  constructor
  · intro hfails
    rcases exists_invalid_of_failure hfails with ⟨before, line, after, hlines, hbefore, hline⟩
    refine ⟨?_, ?_⟩
    · rw [Bool.eq_false_iff]
      intro hvalid
      have hmem := (Bytes.isUtf8_iff_lines bytes).1 hvalid line (by simp [hlines])
      simp [hline] at hmem
    · rw [hlines]
      exact not_meetsQuit hbefore hline
  · rintro ⟨hinvalid, hquit⟩
    -- valid lines would make valid bytes, so there is a line that stops the run
    rcases stops_cases bytes.lines with hnone | ⟨before, line, after, hlines, hbefore, hline⟩
    · have hvalid := (Bytes.isUtf8_iff_lines bytes).2 fun line hmem =>
        isUtf8_of_not_stops (hnone line hmem)
      simp [hinvalid] at hvalid
    · cases hutf8 : line.isUtf8 with
      | true =>
        have hquits : quits line = true := by simpa [stops, hutf8] using hline
        have hvalid : ∀ other ∈ before, other.isUtf8 = true := by
          intro other hother
          exact isUtf8_of_not_stops (hbefore other hother)
        exact absurd ⟨before, line, after, hlines, hvalid, hquits⟩ hquit
      | false => simp [run_of_stops hlines hbefore hline, hutf8]

/-! ## What follows a quit line -/

/-- Nothing after a quit line matters, nor how the input ends. -/
theorem session_of_quits {failure? : Option IoFault}
    (hlines : bytes.lines = before ++ line :: after) (hquits : quits line = true)
    (hwhole : IsWhole failure? line) :
    Bytes.lines (before.flatten ++ line) = before ++ [line] ∧
      session ⟨bytes, failure?⟩ = session ⟨before.flatten ++ line, none⟩ := by
  have hsplit : bytes.lines = (before ++ [line]) ++ after := by simp [hlines]
  have hstart : Bytes.lines (before.flatten ++ line) = before ++ [line] := by
    simpa using lines_flatten_of_append hsplit
  have hwholeAll : ∀ other ∈ before ++ [line], IsWhole failure? other := by
    intro other hother
    rcases List.mem_append.1 hother with hbefore | hlast
    · exact Or.inr (isTerminated_of_append hlines (by simp) other hbefore)
    · rw [List.mem_singleton.1 hlast]
      exact hwhole
  have hstops : ∃ other ∈ before ++ [line], stops other = true :=
    ⟨line, by simp, stops_of_quits hquits⟩
  refine ⟨hstart, ?_⟩
  calc
    sessionOn failure? bytes.lines
        = sessionOn failure? ((before ++ [line]) ++ after) := by simp [hsplit]
    _ = sessionOn none (before ++ [line]) := sessionOn_append_of_stops hwholeAll hstops after
    _ = sessionOn none (Bytes.lines (before.flatten ++ line)) := by simp [hstart]

/-- A run does not read more than there is. -/
theorem consumed_le (bytes : Bytes) :
    (run ⟨bytes, none⟩ .faultless).consumed ≤ bytes.length := by
  rcases stops_cases bytes.lines with hnone | ⟨before, line, after, hlines, hbefore, hline⟩
  · exact Nat.le_of_eq (run_of_not_stops hnone).2
  · have hbytes : bytes = before.flatten ++ line ++ after.flatten := by
      rw [← bytes.flatten_lines, hlines]
      simp
    have hconsumed : (run ⟨bytes, none⟩ .faultless).consumed = (before.flatten ++ line).length := by
      simp [run_of_stops hlines hbefore hline]
    rw [hconsumed, hbytes]
    exact (List.prefix_append _ _).length_le

/-! ## Inputs that fail -/

/-- The lines of an input that end in a line feed. -/
def terminatedLines (bytes : Bytes) : List Bytes :=
  bytes.lines.filter isTerminated

/-- After the terminated lines comes at most one that is not terminated. -/
theorem lines_cases (bytes : Bytes) :
    bytes.lines = terminatedLines bytes ∨
      ∃ line, isTerminated line = false ∧ bytes.lines = terminatedLines bytes ++ [line] := by
  rcases exists_isCut (· == lineFeed) bytes with ⟨closed, rest, hcut⟩
  have hlines : bytes.lines = closed ++ if rest = [] then [] else [rest] := hcut.cutAfter_eq
  have hclosed : closed.filter isTerminated = closed :=
    List.filter_eq_self.2 fun line hline => isTerminated_of_isClosed (hcut.closed line hline)
  have hrest := isTerminated_of_isOpen hcut.isOpen
  by_cases hnil : rest = []
  · rw [if_pos hnil, List.append_nil] at hlines
    exact Or.inl (by rw [terminatedLines, hlines, hclosed])
  · rw [if_neg hnil] at hlines
    refine Or.inr ⟨rest, hrest, ?_⟩
    rw [terminatedLines, hlines, List.filter_append, hclosed]
    simp [hrest]

/-- The terminated lines of an input are a start of it. -/
theorem exists_lines_eq_append (bytes : Bytes) :
    ∃ after, bytes.lines = terminatedLines bytes ++ after := by
  rcases lines_cases bytes with hlines | ⟨line, -, hlines⟩
  · exact ⟨[], by rw [List.append_nil, ← hlines]⟩
  · exact ⟨[line], hlines⟩

theorem isWhole_of_mem_terminatedLines (failure? : Option IoFault)
    (h : line ∈ terminatedLines bytes) : IsWhole failure? line :=
  Or.inr (List.mem_filter.1 h).2

/-- Where a terminated line stops the run, it is the run on the terminated lines. -/
theorem run_of_terminated_stops (failure : IoFault)
    (h : ∃ line ∈ terminatedLines bytes, stops line = true) :
    run ⟨bytes, some failure⟩ .faultless =
      run ⟨(terminatedLines bytes).flatten, none⟩ .faultless := by
  rcases exists_lines_eq_append bytes with ⟨after, hlines⟩
  have hwhole : ∀ line ∈ terminatedLines bytes, IsWhole (some failure) line := by
    intro line hline
    exact isWhole_of_mem_terminatedLines (some failure) hline
  have hsession : session ⟨bytes, some failure⟩ =
      session ⟨(terminatedLines bytes).flatten, none⟩ := by
    calc
      sessionOn (some failure) bytes.lines
          = sessionOn (some failure) (terminatedLines bytes ++ after) := by simp [hlines]
      _ = sessionOn none (terminatedLines bytes) := sessionOn_append_of_stops hwhole h after
      _ = sessionOn none (Bytes.lines (terminatedLines bytes).flatten) := by
            simp [lines_flatten_of_append hlines]
  simp [run, hsession]

/-- Where none does, the run goes on to the failure of the input. -/
theorem run_of_terminated_not_stops (failure : IoFault)
    (h : ∀ line ∈ terminatedLines bytes, stops line = false) :
    let prior := run ⟨(terminatedLines bytes).flatten, none⟩ .faultless
    prior.failure? = none ∧
      run ⟨bytes, some failure⟩ .faultless =
        { prior with consumed := bytes.length, failure? := some failure } := by
  intro prior
  rcases exists_lines_eq_append bytes with ⟨after, hafter⟩
  have hwhole : ∀ line ∈ terminatedLines bytes, IsWhole (some failure) line := by
    intro line hline
    exact isWhole_of_mem_terminatedLines (some failure) hline
  rcases exists_handled_of_not_stops hwhole h with ⟨handled, hhandled, hall⟩
  have hstart : Bytes.lines (terminatedLines bytes).flatten = handled.map Text.utf8 :=
    (lines_flatten_of_append hafter).trans hhandled
  have hprior : prior = ⟨_, _, _, _⟩ :=
    run_of_handled ⟨_, none⟩ hstart fun line hline => ⟨(hall line hline).1, isWhole_none _⟩
  rw [hprior]
  refine ⟨rfl, ?_⟩
  rcases lines_cases bytes with hlines | ⟨line, hopen, hlines⟩
  · simp [run_of_handled ⟨bytes, some failure⟩ (hlines.trans hhandled) hall]
  · -- the rest is read, and the failure met in looking for its line feed
    rw [hhandled] at hlines
    have hend : ending? (some failure) line = some (some failure) := by simp [ending?, hopen]
    have hbytes : bytes = Text.utf8 handled.flatten ++ line := by
      rw [← bytes.flatten_lines, hlines, Text.utf8_flatten]
      simp
    rw [run_of_ending ⟨bytes, some failure⟩ hlines hall hend, ← hbytes]

/-! ## Faulty inputs -/

/-- Faults of an input lose nothing that came before.  A run fails at the first line that is not
UTF-8, unless a quit line comes first, as if the input had ended before that line; what follows a
quit line does not matter.  An input that fails is handled up to its last line feed. -/
theorem run_on_faulty_input (bytes : Bytes) :
    let report := run ⟨bytes, none⟩ .faultless
    (report.failure? ≠ none ↔ bytes.isUtf8 = false ∧ ¬ MeetsQuit bytes.lines) ∧
    (report.failure? ≠ none → ∃ before line after, bytes.lines = before ++ line :: after ∧
      (∀ other ∈ before, other.isUtf8 = true) ∧ line.isUtf8 = false ∧
      let prior := run ⟨before.flatten, none⟩ .faultless
      prior.failure? = none ∧
      report.failure?.map IoFault.message = some "stream did not contain valid UTF-8".toList ∧
      report.output = prior.output ∧ report.flushes = prior.flushes ∧
      report.consumed = (before.flatten ++ line).length) ∧
    (∀ (failure? : Option IoFault) (before : List Bytes) (line : Bytes) (after : List Bytes),
      bytes.lines = before ++ line :: after → (∀ other ∈ before, other.isUtf8 = true) →
      quits line = true → IsWhole failure? line →
      session ⟨bytes, failure?⟩ = session ⟨before.flatten ++ line, none⟩ ∧
      (run ⟨bytes, failure?⟩ .faultless).failure? = none ∧
      (run ⟨bytes, failure?⟩ .faultless).consumed ≤ (before.flatten ++ line).length) ∧
    (∀ failure : IoFault,
      let prior := run ⟨(terminatedLines bytes).flatten, none⟩ .faultless
      let failed := run ⟨bytes, some failure⟩ .faultless
      ((∃ line ∈ terminatedLines bytes, stops line = true) → failed = prior) ∧
      ((∀ line ∈ terminatedLines bytes, stops line = false) → prior.failure? = none ∧
        failed = { prior with consumed := bytes.length, failure? := some failure })) := by
  intro report
  refine ⟨failure?_ne_none_iff bytes, ?_, ?_, ?_⟩
  · intro hfails
    rcases exists_invalid_of_failure hfails with ⟨before, line, after, hlines, hbefore, hline⟩
    have hvalid : ∀ other ∈ before, other.isUtf8 = true := by
      intro other hother
      exact isUtf8_of_not_stops (hbefore other hother)
    -- the lines before the invalid one are an input that nothing stops
    have hstart : ∀ other ∈ Bytes.lines before.flatten, stops other = false := by
      rw [lines_flatten_of_append hlines]
      exact hbefore
    have hreport : report = { run ⟨before.flatten, none⟩ .faultless with
        consumed := (before.flatten ++ line).length, failure? := some .notUtf8 } := by
      simpa [hline] using run_of_stops hlines hbefore (stops_of_not_isUtf8 hline)
    refine ⟨before, line, after, hlines, hvalid, hline, (run_of_not_stops hstart).1, ?_⟩
    rw [hreport]
    exact ⟨rfl, rfl, rfl, rfl⟩
  · -- cut off after the quit line, the input still meets it, and so does not fail
    intro failure? before line after hlines hbefore hquits hwhole
    rcases session_of_quits hlines hquits hwhole with ⟨hstart, hsession⟩
    have hrun : run ⟨bytes, failure?⟩ .faultless =
        run ⟨before.flatten ++ line, none⟩ .faultless := by simp [run, hsession]
    have hmeets : MeetsQuit (Bytes.lines (before.flatten ++ line)) :=
      ⟨before, line, [], hstart, hbefore, hquits⟩
    refine ⟨hsession, ?_, ?_⟩
    · by_contra hfails
      rw [hrun] at hfails
      exact ((failure?_ne_none_iff _).1 hfails).2 hmeets
    · rw [hrun]
      exact consumed_le _
  · intro failure prior failed
    exact ⟨run_of_terminated_stops failure, run_of_terminated_not_stops failure⟩

end Console

end Lexis
