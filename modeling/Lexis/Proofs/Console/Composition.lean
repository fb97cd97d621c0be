import Lexis.Proofs.Console.Stops

/-!
# Composition — one session after another

A session keeps nothing from one line to the next.  So a text of whole lines that does not end the
session can be typed in front of any other input: the session on both does what it does for those
lines, and then what the session on the other input does (`session_append`).  The reports of the two
runs add up (`run_append`), but for the last prompt of the first, in whose place the second goes on.
-/

namespace Lexis

namespace Console

/-! ## Texts of whole lines -/

section WholeLines

variable {a : Text} (hend : a = [] ∨ a.getLast? = some '\n')
include hend

/-- The bytes of a text of whole lines end in a line feed, if there are any. -/
theorem isLineFeed_of_mem_getLast? : ∀ x ∈ (Text.utf8 a).getLast?, (x == lineFeed) = true := by
  rcases hend with rfl | hlast
  · simp
  · rcases List.getLast?_eq_some_iff.1 hlast with ⟨body, rfl⟩
    have hfeed : Text.utf8 ['\n'] = [lineFeed] := Text.utf8_ascii (by decide)
    simp [hfeed]

/-- Whole lines are read before what follows them. -/
theorem lines_utf8_append (b : Bytes) :
    Bytes.lines (Text.utf8 a ++ b) = (Text.lines a).map Text.utf8 ++ b.lines := by
  rw [← Text.lines_utf8]
  exact cutAfter_append (isLineFeed_of_mem_getLast? hend) b

variable (hquit : ∀ line ∈ Text.lines a, isQuitLine line = false)
include hquit

/-- Whole lines are handled even if the input fails after them. -/
theorem handled_of_mem_lines (failure? : Option IoFault) :
    ∀ line ∈ Text.lines a, Handled failure? line := by
  intro line hline
  have hmem : Text.utf8 line ∈ Bytes.lines (Text.utf8 a) := by
    rw [Text.lines_utf8]
    exact List.mem_map_of_mem hline
  have hclosed := isClosed_of_mem_cutAfter (isLineFeed_of_mem_getLast? hend) _ hmem
  exact ⟨hquit line hline, Or.inr (isTerminated_of_isClosed hclosed)⟩

/-- Lines that do not end a session leave nothing behind for what follows them. -/
theorem session_append (b : Bytes) (failure? : Option IoFault) :
    session ⟨Text.utf8 a ++ b, failure?⟩ =
      (session ⟨b, failure?⟩).after ((Text.lines a).flatMap round) := by
  rw [session, lines_utf8_append hend]
  exact sessionOn_append (handled_of_mem_lines hend hquit failure?) b.lines

/-- Alone, such lines are followed by a last prompt. -/
theorem session_of_lines :
    session ⟨Text.utf8 a, none⟩ = ⟨(Text.lines a).flatMap round ++ prompt, none⟩ := by
  have hnothing := session_append hend hquit [] none
  rwa [List.append_nil] at hnothing

end WholeLines

/-! ## Two sessions in one -/

/-- A session on a text of whole lines without a quit line, followed by any bytes, does what the
session on the text does before its last prompt, and then what the session on those bytes does.  So
it ends as that one, whether well, in a fault of the bytes or in one of the input.  Its output is
that of the session on the text, without the last prompt, and then that of the session on the bytes;
flushes and bytes read add up in the same way. -/
theorem run_append (a : Text) (b : Bytes) (failure? : Option IoFault)
    (hend : a = [] ∨ a.getLast? = some '\n')
    (hquit : ∀ line ∈ Text.lines a, isQuitLine line = false) :
    let first := run ⟨Text.utf8 a, none⟩ .faultless
    let second := run ⟨b, failure?⟩ .faultless
    let both := run ⟨Text.utf8 a ++ b, failure?⟩ .faultless
    (∃ rounds, session ⟨Text.utf8 a, none⟩ = ⟨rounds ++ prompt, none⟩ ∧
      session ⟨Text.utf8 a ++ b, failure?⟩ = (session ⟨b, failure?⟩).after rounds) ∧
    first.failure? = none ∧ both.failure? = second.failure? ∧
    (∃ before, first.output = before ++ Text.utf8 promptText ∧
      both.output = before ++ second.output) ∧
    1 ≤ first.flushes ∧ both.flushes = first.flushes - 1 + second.flushes ∧
    both.consumed = (Text.utf8 a).length + second.consumed := by
  intro first second both
  have halone := session_of_lines hend hquit
  have hjoined := session_append hend hquit b failure?
  have hfirst : first = ⟨_, _, _, _⟩ := play_faultless (session ⟨Text.utf8 a, none⟩)
  have hsecond : second = ⟨_, _, _, _⟩ := play_faultless (session ⟨b, failure?⟩)
  have hboth : both = ⟨_, _, _, _⟩ := play_faultless (session ⟨Text.utf8 a ++ b, failure?⟩)
  rw [halone] at hfirst
  rw [hjoined] at hboth
  rw [hfirst, hsecond, hboth]
  refine ⟨⟨_, halone, hjoined⟩, rfl, rfl, ⟨written ((Text.lines a).flatMap round), ?_, ?_⟩,
    ?_, ?_, ?_⟩
  · simp
  · simp [Transcript.after]
  · simp
  · simp [Transcript.after]
  · -- the lines of the text are all of it
    simp [Transcript.after, readBytes_rounds]

/-- An empty line and one that ends in a carriage return as well, before a line that is not UTF-8
and an input that fails. -/
theorem run_append_before_invalid_line :
    let a := "\nlet x\r\n".toList
    let b : Bytes := [0x31, 0xff, lineFeed]
    let first := run ⟨Text.utf8 a, none⟩ .faultless
    let second := run ⟨b, some .other⟩ .faultless
    let both := run ⟨Text.utf8 a ++ b, some .other⟩ .faultless
    (a = [] ∨ a.getLast? = some '\n') ∧ (∀ line ∈ Text.lines a, isQuitLine line = false) ∧
    both.failure? = second.failure? ∧ both.flushes = first.flushes - 1 + second.flushes ∧
    both.consumed = 8 + second.consumed := by
  have hend : "\nlet x\r\n".toList = [] ∨ "\nlet x\r\n".toList.getLast? = some '\n' := by decide
  have hquit : ∀ line ∈ Text.lines "\nlet x\r\n".toList, isQuitLine line = false := by decide
  rcases run_append _ [0x31, 0xff, lineFeed] (some .other) hend hquit with
    ⟨-, -, hfailure, -, -, hflushes, hconsumed⟩
  exact ⟨hend, hquit, hfailure, hflushes, hconsumed⟩

end Console

end Lexis
