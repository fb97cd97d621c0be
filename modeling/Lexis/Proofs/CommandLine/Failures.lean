import Lexis.Proofs.CommandLine.Answers
import Lexis.Proofs.Fault.Report

/-!
# Failures — what the report of a failed run tells

Whatever goes wrong in a run is a fault that the library raises: a failure of reading, or a foreign
character that strict reading refuses.  This is so for every parser, and for whatever reading gives.

* A run on options succeeds, or it reports such a fault in its source (`answer_cases`).
* So the standard error of a failed run tells the name of the source, whatever this name holds
  (`sourceName_eq_of_stderr_eq`).
-/

namespace Lexis

namespace CommandLine

/-! ## Faults of a run -/

theorem isRaised_of_sourceOf_eq_error {contents : Except IoFault Bytes} {fault : Fault}
    (h : sourceOf contents = .error fault) : fault.IsRaised := by
  by_cases htext : ∃ s, contents = .ok (Text.utf8 s)
  · rcases htext with ⟨s, rfl⟩
    rw [sourceOf_utf8] at h
    cases h
  · rcases exists_sourceOf_eq_error fun s hs => htext ⟨s, hs⟩ with ⟨cause, hcause⟩
    obtain rfl : Fault.ofIo cause = fault := Except.error.inj (hcause.symm.trans h)
    exact .io _

theorem isRaised_of_tokensOf_eq_error {strict : Bool} {s : Text} {fault : Fault}
    (h : tokensOf strict s = .error fault) : fault.IsRaised := by
  cases strict with
  | false => cases h
  | true => exact .strict h

/-! ## Answers -/

/-- A file is printed, or a raised fault is reported that names its path. -/
theorem fileAnswer_cases (strict : Bool) (path : Text) (contents : Except IoFault Bytes) :
    (∃ stdout, fileAnswer strict path contents = .success stdout) ∨
      ∃ fault : Fault, fault.IsRaised ∧
        fileAnswer strict path contents = .failure [] fault path := by
  cases hsource : sourceOf contents with
  | error fault =>
    exact .inr ⟨fault, isRaised_of_sourceOf_eq_error hsource, by simp [fileAnswer, hsource]⟩
  | ok s =>
    cases htokens : tokensOf strict s with
    | error fault =>
      have hanswer : fileAnswer strict path contents = .failure [] fault path := by
        simp [fileAnswer, hsource, htokens]
      exact .inr ⟨fault, isRaised_of_tokensOf_eq_error htokens, hanswer⟩
    | ok ts => exact .inl ⟨Text.utf8 (listing ts), by simp [fileAnswer, hsource, htokens]⟩

/-- The console ends well, or a failure of reading is reported. -/
theorem consoleAnswer_cases (output : Bytes) (failure? : Option IoFault) :
    (∃ stdout, consoleAnswer output failure? = .success stdout) ∨
      ∃ fault : Fault, fault.IsRaised ∧
        consoleAnswer output failure? = .failure output fault consoleName := by
  cases failure? with
  | none => exact .inl ⟨output, rfl⟩
  | some cause => exact .inr ⟨.ofIo cause, .io cause.message, rfl⟩

/-- The name that a report gives to what a run reads. -/
def Options.sourceName (options : Options) : Text :=
  options.path?.getD consoleName

section Runs

variable {parse parse' : Parser} {arguments arguments' : List Text} {options options' : Options}

/-- A run on options succeeds, or it reports a raised fault in its source. -/
theorem answer_cases (h : parse arguments = .ok options) (around : Surroundings) :
    (∃ stdout, answer parse around arguments = .success stdout) ∨
      ∃ (stdout : Bytes) (fault : Fault), fault.IsRaised ∧
        answer parse around arguments = .failure stdout fault options.sourceName := by
  obtain ⟨path?, strict⟩ := options
  cases path? with
  | some path =>
    rw [answer_of_path around h]
    rcases fileAnswer_cases strict path (around.read path) with hok | ⟨fault, hraised, heq⟩
    · exact .inl hok
    · exact .inr ⟨[], fault, hraised, heq⟩
  | none =>
    rw [answer_of_no_path around h]
    rcases consoleAnswer_cases _ _ with hok | ⟨fault, hraised, heq⟩
    · exact .inl hok
    · exact .inr ⟨_, fault, hraised, heq⟩

/-! ## The standard error -/

/-- Of two runs with the same standard error, if one failed, the sources have the same name. -/
theorem sourceName_eq_of_stderr_eq (h : parse arguments = .ok options)
    (h' : parse' arguments' = .ok options') {around around' : Surroundings}
    (hfailed : (answer parse around arguments).exitCode = 1)
    (hstderr : (answer parse around arguments).stderr =
      (answer parse' around' arguments').stderr) :
    options.sourceName = options'.sourceName := by
  rcases answer_cases h around with ⟨_, hok⟩ | ⟨_, fault, hraised, hrun⟩
  · rw [hok] at hfailed
    cases hfailed
  rcases answer_cases h' around' with ⟨_, hok⟩ | ⟨_, fault', hraised', hrun'⟩
  · -- a run that succeeds leaves the standard error empty
    rw [hrun, hok] at hstderr
    exact absurd hstderr (List.append_ne_nil_of_right_ne_nil _ (List.cons_ne_nil _ []))
  · rw [hrun, hrun'] at hstderr
    have hreports : fault.report options.sourceName = fault'.report options'.sourceName :=
      List.append_cancel_right hstderr
    exact ((hraised.report_eq_iff hraised').1 hreports).2

end Runs

end CommandLine

end Lexis
