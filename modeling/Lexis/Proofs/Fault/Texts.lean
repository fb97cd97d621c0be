import Mathlib.Tactic.TFAE
import Lexis.Fault
import Lexis.Proofs.Form.Legible

/-!
# Texts — a fault can be read back from its texts

The literal of an illegal token and the message of a failure are any texts, so they may look like
the text around them.

* In a message the literal is quoted and so can be told from what follows it, and the index is all
  that is left (`Fault.message_injective`).
* In a debug form every field ends where the next begins or the record closes, so the form is
  legible in both layouts (`Fault.isLegible_causeForm`, `Fault.isLegible_form`).
* In a tip the literal stands as it is, and a tip can be read from its end only: no digit is a
  number sign, so the last number sign is the one before the index (`Fault.tip?_illegalToken_inj`).
-/

namespace Lexis

/-! ## Numerals -/

namespace Text

/-- A numeral determines its number. -/
theorem decimal_injective : Function.Injective decimal := by
  intro m n h
  have hvalue := congrArg (fun digits => Nat.ofDigitChars 10 digits 0) h
  simpa [decimal] using hvalue

theorem not_mem_decimal {c : Char} (hc : c.isDigit = false) (n : Nat) : c ∉ decimal n := by
  intro hmem
  have hdigit := Nat.isDigit_of_mem_toDigits (by decide) (by decide) hmem
  simp [hc] at hdigit

/-- A number ends before anything that does not begin with a digit. -/
theorem isSelfDelimiting_decimal_append {stop : Char} (hstop : stop.isDigit = false) (more : Text) :
    IsSelfDelimiting fun n => decimal n ++ stop :: more := by
  have hended := (IsSelfDelimiting.of_terminator decimal_injective (not_mem_decimal hstop)).postpend
    more
  simpa using hended

end Text

namespace Fault

/-! ## Debug forms -/

/-- Every fault is of an illegal token or of a failure of reading or writing. -/
theorem illegalToken_or_io (fault : Fault) :
    (∃ p : Text × Nat, fault = illegalToken p.1 p.2) ∨ ∃ message, fault = io message := by
  cases fault with
  | illegalToken literal index => exact .inl ⟨(literal, index), rfl⟩
  | io message => exact .inr ⟨message, rfl⟩

theorem isLegible_illegalToken :
    Form.IsLegible fun p : Text × Nat => (illegalToken p.1 p.2).causeForm := by
  refine Form.isLegible_record (fun p => List.cons_ne_nil _ _) ?_ _
  intro layout
  -- the index is ended by what closes the record, which begins with a space or a comma
  have hindex : IsSelfDelimiting fun n => Text.decimal n ++ (layout.trail [' '] ++ ['}']) := by
    cases layout with
    | inline => exact Text.isSelfDelimiting_decimal_append (by decide) _
    | block depth => exact Text.isSelfDelimiting_decimal_append (by decide) _
  have hfields := (Form.isLegible_quoted.field "token".toList layout.inner).pair
    (hindex.prepend (layout.between ++ "index: ".toList))
  simpa [Form.joined_cons, Form.joined_singleton, Form.field, Form.text] using hfields

theorem isLegible_io : Form.IsLegible fun message => (io message).causeForm :=
  (Form.AreLegible.single Form.isLegible_quoted _).record _

theorem isLegible_causeForm : Form.IsLegible causeForm := by
  have hapart : ∀ (p : Text × Nat) message layout,
      Apart ((illegalToken p.1 p.2).causeForm layout) ((io message).causeForm layout) := by
    intro p message layout
    have hnames : Apart "Io".toList "IllegalToken".toList := by decide
    have hio : Apart ((io message).causeForm layout) "IllegalToken".toList :=
      Form.apart_record hnames (List.cons_ne_nil _ _) layout
    exact Form.apart_record hio.symm (List.cons_ne_nil _ _) layout
  exact .either illegalToken_or_io isLegible_illegalToken isLegible_io hapart

theorem isLegible_form : Form.IsLegible form :=
  (Form.AreLegible.single isLegible_causeForm _).record _

/-! ## Messages -/

theorem message_illegalToken (literal : Text) (index : Nat) :
    (illegalToken literal index).message =
      "illegal token ".toList ++ (Text.quoted literal ++
        (" at token index ".toList ++ Text.decimal index)) := by
  calc
    (illegalToken literal index).message =
        "illegal token ".toList ++ Text.quoted literal ++ " at token index ".toList
          ++ Text.decimal index := rfl
    _ = "illegal token ".toList ++ (Text.quoted literal ++
          (" at token index ".toList ++ Text.decimal index)) := by simp only [List.append_assoc]

theorem message_illegalToken_inj {literal literal' : Text} {index index' : Nat}
    (h : (illegalToken literal index).message = (illegalToken literal' index').message) :
    literal = literal' ∧ index = index' := by
  rw [message_illegalToken, message_illegalToken] at h
  have hquoted := List.append_cancel_left h
  rcases Text.isSelfDelimiting_quoted.unique hquoted with ⟨hliteral, hrest⟩
  have hindex := List.append_cancel_left hrest
  exact ⟨hliteral, Text.decimal_injective hindex⟩

/-- The two sorts of messages begin differently. -/
theorem message_illegalToken_ne (literal : Text) (index : Nat) (message : Text) :
    (illegalToken literal index).message ≠ (io message).message := by
  have hapart : Apart "illegal token ".toList "i/o error: ".toList := by decide
  rw [message_illegalToken]
  exact hapart.append_ne _ message

theorem message_injective : Function.Injective message := by
  intro e f h
  cases e with
  | illegalToken literal index =>
    cases f with
    | illegalToken literal' index' =>
      rcases message_illegalToken_inj h with ⟨rfl, rfl⟩
      rfl
    | io message => exact absurd h (message_illegalToken_ne literal index message)
  | io message =>
    cases f with
    | illegalToken literal index =>
      exact absurd h.symm (message_illegalToken_ne literal index message)
    | io message' => exact congrArg io (List.append_cancel_left h)

/-! ## Tips -/

/-- A tip is decoded from its end: behind its last number sign stands the index. -/
theorem tip?_illegalToken_inj {literal literal' : Text} {index index' : Nat}
    (h : (illegalToken literal index).tip? = (illegalToken literal' index').tip?) :
    literal = literal' ∧ index = index' := by
  have hsign : ∀ n, '#' ∉ Text.decimal n := Text.not_mem_decimal (by decide)
  have hcut : ∀ (s : Text) (n : Nat), (illegalToken s n).tip? =
      some (('\x60' :: (s ++ "\x60 (token ".toList) ++ '#' :: Text.decimal n)
        ++ ") is not part of the language".toList) := by
    intro s n
    simp [tip?]
  rw [hcut, hcut] at h
  have hfront := List.append_cancel_right (Option.some.inj h)
  rcases append_cons_inj_of_not_mem_right (hsign index) (hsign index') hfront with
    ⟨hbefore, hindex⟩
  have hliteral := List.append_cancel_right (List.tail_eq_of_cons_eq hbefore)
  exact ⟨hliteral, Text.decimal_injective hindex⟩

/-- The texts of a fault identify it.  Faults are equal exactly if their messages are, and in either
layout exactly if the debug forms of their causes are, or their own.  Faults of illegal tokens are
equal exactly if they have the same tip, even though the literal stands in it as it is. -/
theorem texts_identify_fault :
    (∀ (e f : Fault) (layout : Layout),
      [e = f, e.message = f.message, e.causeForm layout = f.causeForm layout,
        e.form layout = f.form layout].TFAE) ∧
    ∀ (literal literal' : Text) (index index' : Nat),
      [illegalToken literal index = illegalToken literal' index',
        (illegalToken literal index).tip? = (illegalToken literal' index').tip?,
        (illegalToken literal index).tip = (illegalToken literal' index').tip].TFAE := by
  constructor
  · intro e f layout
    tfae_have 1 → 2 := congrArg message
    tfae_have 1 → 3 := fun h => congrArg (causeForm · layout) h
    tfae_have 1 → 4 := fun h => congrArg (form · layout) h
    tfae_have 2 → 1 := fun h => message_injective h
    tfae_have 3 → 1 := isLegible_causeForm.eq_of_eq
    tfae_have 4 → 1 := isLegible_form.eq_of_eq
    tfae_finish
  · intro literal literal' index index'
    tfae_have 1 → 2 := congrArg tip?
    tfae_have 2 → 3 := fun h => congrArg (Option.getD · []) h
    tfae_have 3 → 1 := by
      intro h
      have htip : (illegalToken literal index).tip? = (illegalToken literal' index').tip? :=
        congrArg some h
      rcases tip?_illegalToken_inj htip with ⟨rfl, rfl⟩
      rfl
    tfae_finish

end Fault

end Lexis
