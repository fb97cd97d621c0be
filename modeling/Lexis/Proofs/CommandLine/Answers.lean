import Lexis.CommandLine.Arguments
import Lexis.Proofs.Text.Utf8
import Lexis.Proofs.Tokens.Strict

/-!
# Answers — what a run prints, and when it prints nothing

A run on a file prints all tokens or none: what can go wrong with a file is found before the first
token is printed.  A run of the console has printed what it has printed when something goes wrong.
This is so however arguments are understood and files are read.

* What a run answers depends on the options that its arguments stand for (`answer_of_path`,
  `answer_of_no_path`).
* Runs on a file: `fileAnswer_plain`, `fileAnswer_of_alphabet`, `fileAnswer_of_foreign` and
  `fileAnswer_unreadable`.
* Runs of the console: `consoleAnswer_eq`.
-/

namespace Lexis

namespace CommandLine

/-! ## Options -/

section Options

variable {parse : Parser} {arguments : List Text} {strict : Bool} (around : Surroundings)

theorem answer_of_path {path : Text} (h : parse arguments = .ok ⟨some path, strict⟩) :
    answer parse around arguments = fileAnswer strict path (around.read path) := by
  rw [answer, runIn, h]
  rfl

theorem answer_of_no_path (h : parse arguments = .ok ⟨none, strict⟩) :
    answer parse around arguments =
      let report := Console.run around.input .faultless
      consoleAnswer (Text.utf8 (greeting around.user?) ++ report.output) report.failure? := by
  rw [answer, runIn, h]
  rfl

end Options

/-! ## Reports -/

/-- Of a failure of reading or writing the report tells that there was one, and where. -/
theorem report_ofIo (cause : IoFault) (sourceName : Text) :
    (Fault.ofIo cause).report sourceName = "Error: Io\n-> ".toList ++ sourceName := by
  have hheader : (Fault.ofIo cause).header ++ "\n-> ".toList = "Error: Io\n-> ".toList := rfl
  rw [Fault.report, hheader]

/-! ## Runs on a file -/

section File

variable (path : Text)

theorem sourceOf_utf8 (s : Text) : sourceOf (.ok (Text.utf8 s)) = .ok s := by
  simp [sourceOf]

/-- The answer with which a file is printed. -/
theorem fileAnswer_plain (s : Text) :
    fileAnswer false path (.ok (Text.utf8 s)) = ⟨0, Text.utf8 (listing (tokens s)), []⟩ := by
  simp [fileAnswer, sourceOf_utf8, tokensOf, Answer.success]

theorem fileAnswer_of_alphabet {s : Text} (hs : ∀ c ∈ s, isForeign c = false) :
    fileAnswer true path (.ok (Text.utf8 s)) = ⟨0, Text.utf8 (listing (tokens s)), []⟩ := by
  simp [fileAnswer, sourceOf_utf8, tokensOf, strictTokens_of_alphabet hs, Answer.success]

/-- Nothing is printed of a file that is refused. -/
theorem fileAnswer_of_foreign {s : Text} (hs : ∃ c ∈ s, isForeign c = true) :
    ∃ fault, strictTokens s = .error fault ∧
      fileAnswer true path (.ok (Text.utf8 s)) = ⟨1, [], Text.line (fault.report path)⟩ := by
  rcases hs with ⟨c, hc, hforeign⟩
  -- the fault takes the place of the token list, so there is nothing to print
  rcases exists_strictTokens_eq_error hc hforeign with ⟨fault, hfault⟩
  refine ⟨fault, hfault, ?_⟩
  simp [fileAnswer, sourceOf_utf8, tokensOf, hfault, Answer.failure]

/-- A file that holds no text is a failure of reading, whether or not it could be read. -/
theorem exists_sourceOf_eq_error {contents : Except IoFault Bytes}
    (h : ∀ s, contents ≠ .ok (Text.utf8 s)) : ∃ cause, sourceOf contents = .error (.ofIo cause) := by
  cases contents with
  | error cause => exact ⟨cause, rfl⟩
  | ok bytes =>
    cases hs : Text.ofUtf8? bytes with
    | none => exact ⟨.notUtf8, by simp [sourceOf, hs]⟩
    | some s => exact absurd (congrArg Except.ok (Text.ofUtf8?_eq_some_iff.1 hs).symm) (h s)

theorem fileAnswer_unreadable {contents : Except IoFault Bytes}
    (h : ∀ s, contents ≠ .ok (Text.utf8 s)) (strict : Bool) :
    fileAnswer strict path contents = ⟨1, [], Text.line ("Error: Io\n-> ".toList ++ path)⟩ := by
  rcases exists_sourceOf_eq_error h with ⟨cause, hcause⟩
  simp [fileAnswer, hcause, Answer.failure, report_ofIo]

end File

/-! ## Runs of the console -/

theorem consoleAnswer_eq (output : Bytes) (failure? : Option IoFault) :
    consoleAnswer output failure? =
      if failure?.isSome then ⟨1, output, Text.line "Error: Io\n-> stdin".toList⟩
      else ⟨0, output, []⟩ := by
  cases failure? with
  | none => rfl
  | some cause =>
    have hreport : (Fault.ofIo cause).report consoleName = "Error: Io\n-> stdin".toList := by
      rw [report_ofIo]
      rfl
    simp [consoleAnswer, Answer.failure, hreport]

/-! ## All or nothing -/

/-- However arguments are understood, and whatever reading gives at each path: a run on a file that
holds a text prints all its tokens and succeeds; with strictness it does the same if all characters
are in the alphabet of the language, and else prints nothing and reports the character.  A file that
cannot be read or holds no text is reported, with strictness or without.  A run without a path greets
and is the console on the input, with strictness or without; what it has printed stays if it
fails. -/
theorem run_prints_all_or_nothing (parse : Parser) (around : Surroundings) :
    (∀ path s, around.read path = .ok (Text.utf8 s) →
      (∀ arguments, parse arguments = .ok ⟨some path, false⟩ →
        answer parse around arguments = ⟨0, Text.utf8 (listing (tokens s)), []⟩) ∧
      (∀ arguments, parse arguments = .ok ⟨some path, true⟩ →
        ((∀ c ∈ s, isForeign c = false) →
          answer parse around arguments = ⟨0, Text.utf8 (listing (tokens s)), []⟩) ∧
        ((∃ c ∈ s, isForeign c = true) → ∃ fault, strictTokens s = .error fault ∧
          answer parse around arguments = ⟨1, [], Text.line (fault.report path)⟩))) ∧
    (∀ path, (∀ s, around.read path ≠ .ok (Text.utf8 s)) →
      ∀ arguments strict, parse arguments = .ok ⟨some path, strict⟩ →
        answer parse around arguments = ⟨1, [], Text.line ("Error: Io\n-> ".toList ++ path)⟩) ∧
    ∀ arguments strict, parse arguments = .ok ⟨none, strict⟩ →
      let report := Console.run around.input .faultless
      let output := Text.utf8 (greeting around.user?) ++ report.output
      answer parse around arguments =
        if report.failure?.isSome then ⟨1, output, Text.line "Error: Io\n-> stdin".toList⟩
        else ⟨0, output, []⟩ := by
  refine ⟨?_, ?_, ?_⟩
  · -- a file that holds a text
    intro path s hread
    refine ⟨?_, ?_⟩
    · intro arguments hparse
      rw [answer_of_path around hparse, hread]
      exact fileAnswer_plain path s
    · intro arguments hparse
      rw [answer_of_path around hparse, hread]
      exact ⟨fileAnswer_of_alphabet path, fileAnswer_of_foreign path⟩
  · -- a file that cannot be read, or holds no text
    intro path hread arguments strict hparse
    rw [answer_of_path around hparse]
    exact fileAnswer_unreadable path hread strict
  · -- the console, which is not told about strictness
    intro arguments strict hparse
    rw [answer_of_no_path around hparse]
    exact consoleAnswer_eq _ _

/-- Of two files that can be read, one holds a foreign character and is printed without strictness
and refused with it, and the other is printed either way.  What is at a third path cannot be read.
The console fails at its second line, and keeps what it has printed for the first. -/
theorem run_prints_all_or_nothing_absolute_paths :
    let refused := "/tmp/a.mk".toList
    let accepted := "/tmp/b.mk".toList
    let missing := "/tmp/c.mk".toList
    let read : Text → Except IoFault Bytes := fun path =>
      if path = refused then .ok (Text.utf8 "let @".toList)
      else if path = accepted then .ok (Text.utf8 "x;".toList)
      else .error .notFound
    let around : Surroundings := ⟨read, ⟨Text.utf8 "y\n".toList ++ [0xFF], none⟩, none⟩
    let printed : Answer :=
      ⟨0, Text.utf8 "Identifier(\"x\")\nSemicolon(\";\")\nEndOfInput(\"\")\n".toList, []⟩
    answer parseArguments around [refused] =
      ⟨0, Text.utf8 "Let(\"let\")\nIllegal(\"@\")\nEndOfInput(\"\")\n".toList, []⟩ ∧
    answer parseArguments around ["--strict".toList, refused] =
      ⟨1, [], "Error: IllegalToken (\x60@\x60 (token #1) is not part of the language)\n".toList
        ++ "-> /tmp/a.mk\n".toList⟩ ∧
    answer parseArguments around [accepted] = printed ∧
    answer parseArguments around [accepted, "--strict".toList] = printed ∧
    answer parseArguments around ["--strict".toList, missing] =
      ⟨1, [], "Error: Io\n-> /tmp/c.mk\n".toList⟩ ∧
    answer parseArguments around ["--strict".toList] =
      ⟨1, Text.utf8 (greeting none ++ ">> Identifier(\"y\")\n>> ".toList),
        "Error: Io\n-> stdin\n".toList⟩ := by
  intro refused accepted missing read around printed
  rcases run_prints_all_or_nothing parseArguments around with ⟨hfile, hunreadable, hconsole⟩
  have hrefused : around.read refused = .ok (Text.utf8 "let @".toList) := by
    simp only [around, read, if_true]
  have haccepted : around.read accepted = .ok (Text.utf8 "x;".toList) := by
    have hne : accepted ≠ refused := by decide
    simp only [around, read, hne, if_true, if_false]
  have hmissing : around.read missing = .error .notFound := by
    have hne : missing ≠ refused ∧ missing ≠ accepted := by decide
    simp only [around, read, hne, if_false]
  have htokens : listing (tokens "let @".toList) =
      "Let(\"let\")\nIllegal(\"@\")\nEndOfInput(\"\")\n".toList := by decide +kernel
  have hillegal : strictTokens "let @".toList = .error (.illegalToken ['@'] 1) := by decide +kernel
  have htokens' : listing (tokens "x;".toList) =
      "Identifier(\"x\")\nSemicolon(\";\")\nEndOfInput(\"\")\n".toList := by decide +kernel
  have halphabet : ("x;".toList.all fun c => isForeign c = false) = true := by decide
  refine ⟨?_, ?_, ?_, ?_, ?_, ?_⟩
  · rw [(hfile refused _ hrefused).1 [refused] rfl, htokens]
  · rcases ((hfile refused _ hrefused).2 ["--strict".toList, refused] rfl).2
      ⟨'@', by decide, by decide⟩ with ⟨fault, hfault, hanswer⟩
    obtain rfl : fault = .illegalToken ['@'] 1 := Except.error.inj (hfault.symm.trans hillegal)
    rw [hanswer]
    decide +kernel
  · rw [(hfile accepted _ haccepted).1 [accepted] rfl, htokens']
  · rw [((hfile accepted _ haccepted).2 [accepted, "--strict".toList] rfl).1
      (by simpa using halphabet), htokens']
  · rw [hunreadable missing (by simp [hmissing]) ["--strict".toList, missing] true rfl]
    decide
  · rw [hconsole ["--strict".toList] true rfl]
    decide +kernel

end CommandLine

end Lexis
