import Lexis.Proofs.Fault.Texts
import Lexis.Proofs.Text.Lines
import Lexis.Proofs.Tokens.Foreign
import Lexis.Proofs.Tokens.Signs

/-!
# Report — the report of a fault, and what can be read from it

A report is a header, which tells the fault, and a line with the name of the source.  Neither the
literal of an illegal token nor the name is quoted, so the report of just any fault may be read in
several ways (`Fault.report_illegalToken_append`).  Those that are raised (`Fault.IsRaised`) are of
a single foreign character, or they are failures of reading and writing, and then the header is the
first line.

* `Fault.isRaised_illegalToken_iff` says which faults of illegal tokens are raised.
* A header tells everything about a fault but the message of a failure (`Fault.header_eq_iff`).
* A report is read by cutting it at its first line feed (`Fault.IsRaised.report_eq_iff`,
  `Fault.IsRaised.lines_report`).
-/

namespace Lexis

/-! ## What strict reading can answer -/

/-- In place of tokens strict reading answers a foreign character. -/
theorem exists_foreign_of_strictTokens_eq_error {s : Text} {fault : Fault}
    (h : strictTokens s = .error fault) :
    ∃ c index, isForeign c = true ∧ fault = .illegalToken [c] index := by
  induction s using inductionOnForeign with
  | clean s hs =>
    rw [strictTokens_of_alphabet hs] at h
    cases h
  | foreign before c rest hbefore hc _ =>
    rw [strictTokens_append_foreign hbefore hc] at h
    exact ⟨c, _, hc, (Except.error.inj h).symm⟩

/-- Of commas each is a token. -/
theorem length_tokens_commas (n : Nat) : (tokens (List.replicate n ',')).dropLast.length = n := by
  have hnil : (tokens []).dropLast = [] := by simp [(Reads.gap isGap_nil).tokens_eq]
  induction n with
  | zero => simp [hnil]
  | succ n ih =>
    have hcomma := tokens_operator_append (k := .comma) (w := [','])
      (s := List.replicate n ',') (by decide) (by simp)
    have hne : tokens (List.replicate n ',') ≠ [] := by
      rw [(reads_tokens _).tokens_eq]
      exact List.append_ne_nil_of_right_ne_nil _ (List.cons_ne_nil _ [])
    rw [List.replicate_succ, ← List.singleton_append, hcomma, List.dropLast_cons_of_ne_nil hne,
      List.length_cons, ih]

namespace Fault

/-! ## Faults that are raised -/

/-- The faults that the library raises: the failures of reading and writing, and what strict reading
answers in place of the tokens of some source. -/
inductive IsRaised : Fault → Prop where
  | io (message : Text) : IsRaised (io message)
  | strict {source : Text} {fault : Fault} : strictTokens source = .error fault → IsRaised fault

/-- Every foreign character is raised with every index, and no other literal is. -/
theorem isRaised_illegalToken_iff {literal : Text} {index : Nat} :
    (illegalToken literal index).IsRaised ↔ ∃ c, isForeign c = true ∧ literal = [c] := by
  constructor
  · intro h
    cases h with
    | strict hstrict =>
      rcases exists_foreign_of_strictTokens_eq_error hstrict with ⟨c, index', hc, heq⟩
      exact ⟨c, hc, (illegalToken.inj heq).1⟩
  · rintro ⟨c, hc, rfl⟩
    have hcommas : ∀ d ∈ List.replicate index ',', isForeign d = false := by
      intro d hd
      rw [List.eq_of_mem_replicate hd]
      decide
    have hstrict := strictTokens_append_foreign hcommas hc []
    rw [length_tokens_commas] at hstrict
    exact .strict hstrict

/-! ## Headers -/

/-- The faults are the same, unless they are failures: then their messages may differ. -/
inductive SameButMessage : Fault → Fault → Prop where
  | illegalToken (literal : Text) (index : Nat) :
    SameButMessage (illegalToken literal index) (illegalToken literal index)
  | io (message message' : Text) : SameButMessage (io message) (io message')

theorem SameButMessage.name_eq {e f : Fault} (h : e.SameButMessage f) : e.name = f.name := by
  cases h <;> rfl

theorem header_illegalToken (literal : Text) (index : Nat) :
    (illegalToken literal index).header =
      "Error: IllegalToken (".toList ++ ((illegalToken literal index).tip ++ [')']) := by
  have hopening : "Error: ".toList ++ "IllegalToken".toList ++ [' ', '('] =
      "Error: IllegalToken (".toList := by decide
  calc
    (illegalToken literal index).header =
        "Error: ".toList ++ "IllegalToken".toList ++
          ([' ', '('] ++ (illegalToken literal index).tip ++ [')']) := rfl
    _ = "Error: ".toList ++ "IllegalToken".toList ++ [' ', '('] ++
          ((illegalToken literal index).tip ++ [')']) := by simp only [List.append_assoc]
    _ = "Error: IllegalToken (".toList ++ ((illegalToken literal index).tip ++ [')']) := by
          rw [hopening]

theorem header_io (message : Text) : (io message).header = "Error: Io".toList :=
  rfl

/-- The two sorts of headers begin differently. -/
theorem header_illegalToken_ne (literal : Text) (index : Nat) (message : Text) :
    (illegalToken literal index).header ≠ (io message).header := by
  have hapart : Apart "Error: IllegalToken (".toList "Error: Io".toList := by decide
  rw [header_illegalToken, header_io, ← List.append_nil "Error: Io".toList]
  exact hapart.append_ne _ []

/-- A header tells everything about a fault but the message of a failure. -/
theorem header_eq_iff {e f : Fault} : e.header = f.header ↔ e.SameButMessage f := by
  constructor
  · intro h
    cases e with
    | illegalToken literal index =>
      cases f with
      | illegalToken literal' index' =>
        rw [header_illegalToken, header_illegalToken] at h
        have htip := List.append_cancel_right (List.append_cancel_left h)
        rcases tip?_illegalToken_inj (congrArg some htip) with ⟨rfl, rfl⟩
        exact .illegalToken literal index
      | io message => exact absurd h (header_illegalToken_ne literal index message)
    | io message =>
      cases f with
      | illegalToken literal index =>
        exact absurd h.symm (header_illegalToken_ne literal index message)
      | io message' => exact .io message message'
  · intro h
    cases h with
    | illegalToken literal index => rfl
    | io message message' => rfl

/-- The line feeds of a header are those of the literal that it shows. -/
theorem lineFeed_mem_header_illegalToken_iff (literal : Text) (index : Nat) :
    '\n' ∈ (illegalToken literal index).header ↔ '\n' ∈ literal := by
  have hindex : '\n' ∉ Text.decimal index := Text.not_mem_decimal (by decide) index
  simp [header_illegalToken, tip, tip?, hindex]

theorem IsRaised.lineFeed_not_mem_header {fault : Fault} (h : fault.IsRaised) :
    '\n' ∉ fault.header := by
  cases fault with
  | illegalToken literal index =>
    rcases isRaised_illegalToken_iff.1 h with ⟨c, hc, rfl⟩
    rw [lineFeed_mem_header_illegalToken_iff, List.mem_singleton]
    -- a line feed is a space of the language
    rintro rfl
    revert hc
    decide
  | io message =>
    rw [header_io]
    decide

/-! ## Reports -/

theorem report_eq (fault : Fault) (sourceName : Text) :
    fault.report sourceName = fault.header ++ '\n' :: ("-> ".toList ++ sourceName) := by
  simp [report]

namespace IsRaised

variable {e f fault : Fault}

/-- Reports are equal exactly if the names of the sources are, and the faults but for the message of
a failure. -/
theorem report_eq_iff (he : e.IsRaised) (hf : f.IsRaised) {a b : Text} :
    e.report a = f.report b ↔ e.SameButMessage f ∧ a = b := by
  constructor
  · intro h
    rw [report_eq, report_eq] at h
    rcases append_cons_inj_of_not_mem he.lineFeed_not_mem_header hf.lineFeed_not_mem_header h with
      ⟨hheader, hname⟩
    exact ⟨header_eq_iff.1 hheader, List.append_cancel_left hname⟩
  · rintro ⟨hsame, rfl⟩
    rw [report_eq, report_eq, header_eq_iff.2 hsame]

theorem count_lineFeed_report (h : fault.IsRaised) (sourceName : Text) :
    (fault.report sourceName).count '\n' = sourceName.count '\n' + 1 := by
  have hheader := List.count_eq_zero_of_not_mem h.lineFeed_not_mem_header
  have harrow : "-> ".toList.count '\n' = 0 := by decide
  rw [report_eq, List.count_append, List.count_cons_self, List.count_append, hheader, harrow]
  omega

/-- The header is the first line of a report, and the name of the source begins on the second. -/
theorem lines_report (h : fault.IsRaised) (sourceName : Text) :
    Text.lines (fault.report sourceName) =
      Text.line fault.header :: Text.lines ("-> ".toList ++ sourceName) := by
  have hclosed := Text.isClosed_line h.lineFeed_not_mem_header
  have hcut := hclosed.cutAfter_append ("-> ".toList ++ sourceName)
  simpa [Text.lines, Text.line, report_eq] using hcut

/-- A report is two lines if the name of the source is part of one. -/
theorem lines_report_of_not_mem (h : fault.IsRaised) {sourceName : Text}
    (hname : '\n' ∉ sourceName) :
    Text.lines (fault.report sourceName) =
      [Text.line fault.header, "-> ".toList ++ sourceName] := by
  have hsecond : '\n' ∉ "-> ".toList ++ sourceName := by simp [hname]
  rw [h.lines_report, Text.lines, cutAfter_of_isOpen (Text.isOpen_of_not_mem hsecond)]
  simp

end IsRaised

/-! ## Reports of faults that are not raised -/

/-- What stands in a report between the literal of an illegal token and the name of the source. -/
def afterLiteral (index : Nat) : Text :=
  ['\x60'] ++ " (token #".toList ++ Text.decimal index ++ ") is not part of the language".toList
    ++ [')'] ++ "\n-> ".toList

theorem report_illegalToken (literal : Text) (index : Nat) (sourceName : Text) :
    (illegalToken literal index).report sourceName =
      "Error: IllegalToken (".toList ++ ['\x60'] ++ literal ++ afterLiteral index
        ++ sourceName := by
  simp only [report, header_illegalToken, tip, tip?, Option.getD_some, afterLiteral,
    List.append_assoc]

/-- What stands between a literal and a name may as well be a part of either, so that two faults
with different literals have the same report. -/
theorem report_illegalToken_append (literal more sourceName : Text) (index index' : Nat) :
    (illegalToken literal index).report (more ++ afterLiteral index' ++ sourceName) =
      (illegalToken (literal ++ afterLiteral index ++ more) index').report sourceName := by
  simp only [report_illegalToken, List.append_assoc]

/-! ## Reports identify what was raised -/

/-- Whatever the names of the sources hold, raised faults have the same report exactly if they have
the same name, if the sources have, and if the faults are the same but for the message of a failure:
of an illegal token the report shows the literal and the index.  A report holds one line feed more
than the name of the source, so it is two lines if the name holds none. -/
theorem report_identifies_raised_fault :
    (∀ (e f : Fault) (a b : Text), e.IsRaised → f.IsRaised →
      (e.report a = f.report b ↔ e.name = f.name ∧ a = b ∧ e.SameButMessage f)) ∧
    ∀ (fault : Fault) (sourceName : Text), fault.IsRaised →
      (fault.report sourceName).count '\n' = sourceName.count '\n' + 1 ∧
      ('\n' ∉ sourceName → Text.lines (fault.report sourceName) =
        [Text.line fault.header, "-> ".toList ++ sourceName]) := by
  constructor
  · intro e f a b he hf
    rw [he.report_eq_iff hf]
    constructor
    · rintro ⟨hsame, hnames⟩
      exact ⟨hsame.name_eq, hnames, hsame⟩
    · rintro ⟨-, hnames, hsame⟩
      exact ⟨hsame, hnames⟩
  · intro fault sourceName h
    exact ⟨h.count_lineFeed_report sourceName, h.lines_report_of_not_mem⟩

/-- A back quote that is refused in a source whose name looks like the end of a report. -/
theorem report_identifies_raised_fault_back_quote :
    let fault := illegalToken ['\x60'] 1
    let other := illegalToken ['\x60'] 2
    let sourceName := "\x60 (token #2) is not part of the language)\n-> main.mk".toList
    strictTokens "let \x60".toList = .error fault ∧ strictTokens "let x\x60".toList = .error other ∧
      fault.report sourceName ≠ other.report "main.mk".toList ∧
      (io "denied".toList).report sourceName = (io "not found".toList).report sourceName ∧
      (fault.report sourceName).count '\n' = 2 ∧
      Text.lines (fault.report "main.mk".toList) =
        [Text.line fault.header, "-> main.mk".toList] := by
  intro fault other sourceName
  have hfault : strictTokens "let \x60".toList = .error fault := by decide +kernel
  have hother : strictTokens "let x\x60".toList = .error other := by decide +kernel
  rcases report_identifies_raised_fault with ⟨hidentifies, hlines⟩
  refine ⟨hfault, hother, ?_, ?_, ?_, ?_⟩
  · intro h
    have hsame : SameButMessage (illegalToken ['\x60'] 1) (illegalToken ['\x60'] 2) :=
      ((hidentifies _ _ _ _ (.strict hfault) (.strict hother)).1 h).2.2
    cases hsame
  · exact (hidentifies _ _ _ _ (.io _) (.io _)).2 ⟨rfl, rfl, .io _ _⟩
  · exact (hlines _ sourceName (.strict hfault)).1
  · exact (hlines _ _ (.strict hfault)).2 (by decide)

end Fault

end Lexis
