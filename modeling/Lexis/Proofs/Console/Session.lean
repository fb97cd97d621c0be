import Lexis.Console.Session
import Lexis.Proofs.Console.Line

/-!
# Session — rounds, and the line that ends a session

A session is a sequence of rounds: a prompt, a line read, and its tokens printed.

* `Handled failure? line` says when a line is followed by another round.
* The step on a line is known from that (`step_of_handled`, `step_of_ending`), so handled lines are
  handled whatever follows them (`sessionOn_append`).
* Every other line ends the session (`sessionOn_cons_of_ending`), so a property of sessions is proved
  round by round (`sessionOn_induction`).
* What is done for a source are its tokens, one after the other (`handle_eq`).
-/

namespace Lexis

namespace Console

/-! ## Printing the tokens of a line -/

/-- A token is logged and printed on a line of its own. -/
def echo (t : Token) : List Effect :=
  [.log (.scanned t), .write (Text.line t.display)]

theorem echoTokens_eq {s : Text} {ts : List Token} (h : Reads s ts) :
    ∀ c : Cursor, c.ahead = s →
      echoTokens c = ts.flatMap echo ++ [.log (.scanned .endOfInput)] := by
  -- one call of `nextToken` for each token, as the reading goes on behind it
  induction h with
  | gap hgap =>
    rintro c rfl
    have htoken := Cursor.nextToken_of_gap hgap
    have hend : c.nextToken.1.isEndOfInput = true := by
      rw [htoken]
      rfl
    rw [echoTokens, dif_pos hend, htoken]
    rfl
  | token hgap ht hrest _ ih =>
    intro c hc
    rcases Cursor.nextToken_of_token hc hgap ht hrest with ⟨htoken, hahead⟩
    have hend : ¬ c.nextToken.1.isEndOfInput = true := by
      rw [htoken, ht.isEndOfInput_eq_false]
      simp
    rw [echoTokens, dif_neg hend, ih _ hahead, htoken]
    rfl

theorem handle_eq (source : Text) :
    handle source =
      .log (.consoleLine source) :: ((tokens source).dropLast.flatMap echo
        ++ [.log (.scanned .endOfInput)]) := by
  simp [handle, echoTokens_eq (reads_tokens source) (.ofText source) rfl]

/-! ## Rounds -/

/-- What a session does with a line that it handles. -/
def round (line : Text) : List Effect :=
  prompt ++ .read (Text.utf8 line) :: handle (content line)

/-- Whether a line is read to its end.  Where the input fails, it needs its line feed for that. -/
def IsWhole (failure? : Option IoFault) (line : Bytes) : Prop :=
  failure? = none ∨ isTerminated line = true

/-- Whether the session goes on after a line. -/
def Handled (failure? : Option IoFault) (line : Text) : Prop :=
  isQuitLine line = false ∧ IsWhole failure? (Text.utf8 line)

/-- How a line ends the session, if it does. -/
def ending? (failure? : Option IoFault) (line : Bytes) : Option (Option IoFault) :=
  if failure?.isSome && !isTerminated line then some failure?
  else if !line.isUtf8 then some (some .notUtf8)
  else if quits line then some none
  else none

namespace Transcript

@[simp] theorem after_nil (t : Transcript) : t.after [] = t :=
  rfl

theorem after_after (es fs : List Effect) (t : Transcript) :
    (t.after fs).after es = t.after (es ++ fs) := by
  simp [after]

end Transcript

variable {failure? : Option IoFault}

theorem isWhole_none (line : Bytes) : IsWhole none line :=
  Or.inl rfl

theorem isWhole_iff {line : Bytes} :
    IsWhole failure? line ↔ (failure?.isSome && !isTerminated line) = false := by
  cases failure? <;> simp [IsWhole]

/-- A line that ends the session is read, and nothing is done for it. -/
theorem step_of_ending {line : Bytes} {end? : Option IoFault}
    (h : ending? failure? line = some end?) : step failure? line = ⟨[.read line], some end?⟩ := by
  unfold ending? at h
  unfold step
  -- the cases of `ending?` are the tests of a step, in the same order
  split at h
  · next hopen =>
    cases h
    rw [if_pos hopen]
  · next hopen =>
    rw [if_neg hopen]
    split at h
    · next hinvalid =>
      cases h
      simp [Request.ofLine_of_not_isUtf8 (by simpa using hinvalid)]
    · next hvalid =>
      split at h
      · next hquits =>
        cases h
        rcases Bytes.isUtf8_iff.1 (by simpa using hvalid) with ⟨text, rfl⟩
        rw [quits_utf8] at hquits
        simp [Request.ofLine_utf8, if_pos hquits]
      · cases h

theorem step_of_handled {line : Text} (h : Handled failure? line) :
    step failure? (Text.utf8 line) =
      ⟨.read (Text.utf8 line) :: handle (content line), none⟩ := by
  rcases h with ⟨hquit, hwhole⟩
  rw [step, isWhole_iff.1 hwhole, Request.ofLine_utf8, hquit]
  rfl

theorem sessionOn_cons_of_ending {line : Bytes} {end? : Option IoFault}
    (h : ending? failure? line = some end?) (rest : List Bytes) :
    sessionOn failure? (line :: rest) = ⟨prompt ++ [.read line], end?⟩ := by
  rw [sessionOn, step_of_ending h]

theorem sessionOn_cons_of_handled {line : Text} (h : Handled failure? line) (rest : List Bytes) :
    sessionOn failure? (Text.utf8 line :: rest) = (sessionOn failure? rest).after (round line) := by
  rw [sessionOn, step_of_handled h]
  rfl

/-- Handled lines are handled whatever follows them. -/
theorem sessionOn_append {lines : List Text} (h : ∀ line ∈ lines, Handled failure? line)
    (rest : List Bytes) :
    sessionOn failure? (lines.map Text.utf8 ++ rest) =
      (sessionOn failure? rest).after (lines.flatMap round) := by
  induction lines with
  | nil => rfl
  | cons line lines ih =>
    rcases List.forall_mem_cons.1 h with ⟨hline, hlines⟩
    have hfirst := sessionOn_cons_of_handled hline (lines.map Text.utf8 ++ rest)
    calc
      sessionOn failure? ((line :: lines).map Text.utf8 ++ rest)
          = (sessionOn failure? (lines.map Text.utf8 ++ rest)).after (round line) := hfirst
      _ = ((sessionOn failure? rest).after (lines.flatMap round)).after (round line) := by
            simp [ih hlines]
      _ = (sessionOn failure? rest).after ((line :: lines).flatMap round) := by
            simp [Transcript.after_after]

/-! ## Lines sorted by what they do -/

/-- A line that does not end the session is handled. -/
theorem exists_handled_of_ending_eq_none {line : Bytes} (h : ending? failure? line = none) :
    ∃ text, line = Text.utf8 text ∧ Handled failure? text := by
  unfold ending? at h
  split at h
  · cases h
  · next hopen =>
    split at h
    · cases h
    · next hvalid =>
      split at h
      · cases h
      · next hquits =>
        rcases Bytes.isUtf8_iff.1 (by simpa using hvalid) with ⟨text, rfl⟩
        exact ⟨text, rfl, by simpa using hquits, isWhole_iff.2 (by simpa using hopen)⟩

/-- What holds of a last prompt, of a line that ends a session, and of a round before a session of
which it holds, holds of every session. -/
theorem sessionOn_induction {motive : List Bytes → Transcript → Prop} (failure? : Option IoFault)
    (nil : motive [] ⟨prompt, failure?⟩)
    (ending : ∀ line after end?, ending? failure? line = some end? →
      motive (line :: after) ⟨prompt ++ [.read line], end?⟩)
    (handled : ∀ line after t, motive after t → motive (Text.utf8 line :: after) (t.after (round line)))
    (lines : List Bytes) : motive lines (sessionOn failure? lines) := by
  induction lines with
  | nil => exact nil
  | cons line after ih =>
    cases hend : ending? failure? line with
    | some end? =>
      rw [sessionOn_cons_of_ending hend]
      exact ending line after end? hend
    | none =>
      rcases exists_handled_of_ending_eq_none hend with ⟨text, rfl, htext⟩
      rw [sessionOn_cons_of_handled htext]
      exact handled text after _ ih

end Console

end Lexis
