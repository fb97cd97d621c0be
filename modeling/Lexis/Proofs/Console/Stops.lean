import Lexis.Proofs.Console.Perform

/-!
# Stops — the first line that stops a session

A line stops a session if it is a quit line or not UTF-8.

* Read to its end, a line ends the session exactly if it stops it (`ending?_of_stops`,
  `ending?_of_not_stops`).
* What follows a line that stops the session does not matter (`sessionOn_append_of_stops`).
* Without such a line, lines are the encoded lines of a text, all of them handled
  (`exists_handled_of_not_stops`).
-/

namespace Lexis

namespace Console

variable {failure? : Option IoFault} {lines : List Bytes} {line : Bytes}

/-! ## Lines with and without a line feed -/

theorem isTerminated_of_isClosed (h : IsClosed (· == lineFeed) line) : isTerminated line = true := by
  rcases h with ⟨body, x, rfl, -, hx⟩
  have hfeed : x = lineFeed := beq_iff_eq.1 hx
  simp [isTerminated, hfeed]

theorem isTerminated_of_isOpen (h : IsOpen (· == lineFeed) line) : isTerminated line = false := by
  rw [isTerminated, beq_eq_false_iff_ne]
  intro hlast
  have hfeed := h lineFeed (List.mem_of_getLast? hlast)
  simp at hfeed

/-- Only the last line of an input can lack its line feed. -/
theorem isTerminated_of_append {bytes : Bytes} {before after : List Bytes}
    (h : bytes.lines = before ++ after) (hafter : after ≠ []) :
    ∀ line ∈ before, isTerminated line = true := by
  intro line hline
  exact isTerminated_of_isClosed ((IsClosed.of_cutAfter_eq_append h hafter).1 line hline)

/-- The first lines of an input are the lines of what they hold. -/
theorem lines_flatten_of_append {bytes : Bytes} {before after : List Bytes}
    (h : bytes.lines = before ++ after) : Bytes.lines before.flatten = before :=
  cutAfter_flatten_of_prefix ⟨after, h.symm⟩

/-! ## Lines that stop a session -/

/-- Whether a session does not go on after a line that it has read to its end. -/
def stops (line : Bytes) : Bool :=
  !line.isUtf8 || quits line

theorem isUtf8_of_quits (h : quits line = true) : line.isUtf8 = true := by
  rcases (Option.any_eq_true _ _).1 h with ⟨text, htext, -⟩
  simp [Bytes.isUtf8, htext]

theorem stops_of_quits (h : quits line = true) : stops line = true := by
  simp [stops, h]

theorem stops_of_not_isUtf8 (h : line.isUtf8 = false) : stops line = true := by
  simp [stops, h]

/-- A line that does not stop a session is valid. -/
theorem isUtf8_of_not_stops (h : stops line = false) : line.isUtf8 = true := by
  rcases Bool.or_eq_false_iff.1 h with ⟨hutf8, -⟩
  simpa using hutf8

theorem ending?_of_stops (hwhole : IsWhole failure? line) (h : stops line = true) :
    ending? failure? line = some (if line.isUtf8 then none else some .notUtf8) := by
  have hopen := isWhole_iff.1 hwhole
  cases hutf8 : line.isUtf8 with
  | true =>
    have hquits : quits line = true := by simpa [stops, hutf8] using h
    simp [ending?, hopen, hutf8, hquits]
  | false => simp [ending?, hopen, hutf8]

theorem ending?_of_not_stops (hwhole : IsWhole failure? line) (h : stops line = false) :
    ending? failure? line = none := by
  have hopen := isWhole_iff.1 hwhole
  have hutf8 := isUtf8_of_not_stops h
  have hquits : quits line = false := by simpa [stops, hutf8] using h
  simp [ending?, hopen, hutf8, hquits]

/-! ## Lists of lines -/

/-- A list of lines none of which stops the session, or the part before the first that does. -/
theorem stops_cases (lines : List Bytes) :
    (∀ line ∈ lines, stops line = false) ∨
      ∃ before line after, lines = before ++ line :: after ∧
        (∀ other ∈ before, stops other = false) ∧ stops line = true := by
  cases hfind : lines.find? stops with
  | none => exact Or.inl (by simpa using List.find?_eq_none.1 hfind)
  | some line =>
    rcases List.find?_eq_some_iff_append.1 hfind with ⟨hline, before, after, heq, hbefore⟩
    exact Or.inr ⟨before, line, after, heq, by simpa using hbefore, hline⟩

/-- Lines of which none stops the session are the encoded lines of a text, all of them handled. -/
theorem exists_handled_of_not_stops (hwhole : ∀ line ∈ lines, IsWhole failure? line)
    (h : ∀ line ∈ lines, stops line = false) :
    ∃ handled : List Text, lines = handled.map Text.utf8 ∧
      ∀ line ∈ handled, Handled failure? line := by
  induction lines with
  | nil => exact ⟨[], rfl, by simp⟩
  | cons line lines ih =>
    rcases List.forall_mem_cons.1 hwhole with ⟨hline, hlines⟩
    rcases List.forall_mem_cons.1 h with ⟨hgoes, hgo⟩
    rcases exists_handled_of_ending_eq_none (ending?_of_not_stops hline hgoes) with
      ⟨text, rfl, htext⟩
    rcases ih hlines hgo with ⟨handled, rfl, hhandled⟩
    exact ⟨text :: handled, rfl, List.forall_mem_cons.2 ⟨htext, hhandled⟩⟩

/-- What follows a line that stops the session does not matter, and neither does how the input
ends. -/
theorem sessionOn_append_of_stops (hwhole : ∀ line ∈ lines, IsWhole failure? line)
    (hstops : ∃ line ∈ lines, stops line = true) (rest : List Bytes) :
    sessionOn failure? (lines ++ rest) = sessionOn none lines := by
  induction lines with
  | nil => simp at hstops
  | cons line lines ih =>
    rcases List.forall_mem_cons.1 hwhole with ⟨hline, hlines⟩
    cases hstop : stops line with
    | true =>
      -- both sessions end here, and in the same way
      have hend := ending?_of_stops hline hstop
      have hend' := ending?_of_stops (isWhole_none line) hstop
      simp [sessionOn_cons_of_ending hend, sessionOn_cons_of_ending hend']
    | false =>
      have hlater : ∃ line ∈ lines, stops line = true := by
        rcases hstops with ⟨other, hother, hother'⟩
        rcases List.mem_cons.1 hother with rfl | hmem
        · simp [hstop] at hother'
        · exact ⟨other, hmem, hother'⟩
      rcases exists_handled_of_ending_eq_none (ending?_of_not_stops hline hstop) with
        ⟨text, rfl, htext⟩
      have htext' : Handled none text := ⟨htext.1, isWhole_none _⟩
      calc
        sessionOn failure? (Text.utf8 text :: (lines ++ rest))
            = (sessionOn failure? (lines ++ rest)).after (round text) :=
              sessionOn_cons_of_handled htext _
        _ = (sessionOn none lines).after (round text) := by simp [ih hlines hlater]
        _ = sessionOn none (Text.utf8 text :: lines) := (sessionOn_cons_of_handled htext' _).symm

end Console

end Lexis
