import Mathlib.Logic.Function.Iterate
import Lexis.Cursor.Registers

/-!
# Scanner — reading tokens one movement at a time

A `Scanner` keeps `Registers` and what it is about.  A step looks at the registers and moves them
over one character at most; a run of letters or digits is cut out of the source by its two ends, and
where there is no such part the scanner has failed.

* `Scanner.IsSound source` says that the registers agree on a place of the source, and that no part
  was or will be asked for that is not there.
* A scanner is sound at the start and stays so at every step (`Scanner.IsSound.step`), and so it is
  wherever some number of steps leads it, which is never back
  (`Scanner.LeadsTo.isSound_and_position_le`).
-/

namespace Lexis

/-! ## Scanners -/

/-- The part of a text between two indices, if both are in order and within the text. -/
def Text.slice? (s : Text) (start stop : Nat) : Option Text :=
  if start ≤ stop ∧ stop ≤ s.length then some ((s.take stop).drop start) else none

/-- What a scanner is about: passing the spaces before a token, passing a run that began at an index,
or passing the last character of a token that is known already.  A finished token is given back,
and with the next step the next call begins. -/
inductive Phase where
  | skipping
  | running (sort : RunSort) (start : Nat)
  | closing (t : Token)
  | finished (t : Token)
  | failed
  deriving DecidableEq, Repr

structure Scanner where
  phase : Phase
  registers : Registers
  deriving DecidableEq, Repr

namespace Scanner

/-- The scanner that makes its first call on a source. -/
def start (source : Text) : Scanner :=
  ⟨.skipping, .ofText source⟩

/-- The scanner that begins to read what is in sight; of two characters it has passed the first. -/
def dispatch (r : Registers) : Scanner :=
  match r.sight with
  | .run sort => ⟨.running sort r.position, r⟩
  | .single t => ⟨.closing t, r⟩
  | .double t => ⟨.closing t, r.advance⟩

/-- One step, which moves over one character at most. -/
def step : Scanner → Scanner
  | ⟨.skipping, r⟩ => if r.current?.any isSpace then ⟨.skipping, r.advance⟩ else dispatch r
  | ⟨.running sort first, r⟩ =>
    if r.current?.any sort.holds then ⟨.running sort first, r.advance⟩
    else
      -- the run is over, and the scanner is past its last character already
      match Text.slice? r.source first r.position with
      | some w => ⟨.finished (sort.token w), r⟩
      | none => ⟨.failed, r⟩
  | ⟨.closing t, r⟩ => ⟨.finished t, r.advance⟩
  | ⟨.finished _, r⟩ => ⟨.skipping, r⟩
  | ⟨.failed, r⟩ => ⟨.failed, r⟩

/-! ## One movement at most -/

theorem registers_dispatch (r : Registers) :
    (dispatch r).registers = r ∨ (dispatch r).registers = r.advance := by
  unfold dispatch
  cases r.sight with
  | run sort => exact Or.inl rfl
  | single t => exact Or.inl rfl
  | double t => exact Or.inr rfl

theorem registers_step (s : Scanner) :
    s.step.registers = s.registers ∨ s.step.registers = s.registers.advance := by
  obtain ⟨phase, r⟩ := s
  cases phase with
  | skipping =>
    simp only [step]
    split
    · exact Or.inr rfl
    · exact registers_dispatch r
  | running sort first =>
    simp only [step]
    split
    · exact Or.inr rfl
    · split <;> exact Or.inl rfl
  | closing t => exact Or.inr rfl
  | finished t => exact Or.inl rfl
  | failed => exact Or.inl rfl

/-! ## Sound scanners -/

/-- A run began at the index or before; a failed scanner fits nowhere. -/
def FitsAt (position : Nat) : Phase → Prop
  | .running _ first => first ≤ position
  | .failed => False
  | .skipping => True
  | .closing _ => True
  | .finished _ => True

/-- A scanner at a place of the source, in a phase that fits there. -/
structure IsSound (source : Text) (s : Scanner) : Prop where
  place : s.registers.IsPlaceOf source
  fits : FitsAt s.registers.position s.phase

theorem isSound_start (source : Text) : (start source).IsSound source where
  place := Registers.isPlaceOf_ofText source
  fits := trivial

section Step

variable {source : Text} {r : Registers}

theorem isSound_dispatch (h : r.IsPlaceOf source) : (dispatch r).IsSound source := by
  unfold dispatch
  cases r.sight with
  | run sort => exact ⟨h, Nat.le_refl _⟩
  | single t => exact ⟨h, trivial⟩
  | double t => exact ⟨h.advance, trivial⟩

/-- What a run has passed is a part of the source. -/
theorem IsSound.slice?_eq {s : Scanner} {sort : RunSort} {first : Nat} (h : s.IsSound source)
    (hphase : s.phase = .running sort first) :
    first ≤ s.registers.position ∧ s.registers.position ≤ source.length ∧
      source.slice? first s.registers.position =
        some ((source.take s.registers.position).drop first) := by
  have hfits := h.fits
  rw [hphase] at hfits
  have hle : first ≤ s.registers.position := hfits
  have hlength := h.place.position_le
  exact ⟨hle, hlength, by simp [Text.slice?, hle, hlength]⟩

end Step

theorem IsSound.step {source : Text} {s : Scanner} (h : s.IsSound source) :
    s.step.IsSound source := by
  obtain ⟨phase, r⟩ := s
  have hplace : r.IsPlaceOf source := h.place
  cases phase with
  | skipping =>
    simp only [Scanner.step]
    split
    · exact ⟨hplace.advance, trivial⟩
    · exact isSound_dispatch hplace
  | running sort first =>
    -- a run that goes on has begun where it did, and one that is over can be cut out
    rcases h.slice?_eq rfl with ⟨hle, -, hslice⟩
    simp only [Scanner.step, hplace.source_eq, hslice]
    split
    · exact ⟨hplace.advance, Nat.le_trans hle hplace.position_le_advance⟩
    · exact ⟨hplace, trivial⟩
  | closing t => exact ⟨hplace.advance, trivial⟩
  | finished t => exact ⟨hplace, trivial⟩
  | failed => exact absurd h.fits id

theorem IsSound.position_le_step {source : Text} {s : Scanner} (h : s.IsSound source) :
    s.registers.position ≤ s.step.registers.position := by
  rcases s.registers_step with hstay | hmove
  · simp [hstay]
  · simpa [hmove] using h.place.position_le_advance

/-! ## Any number of steps -/

/-- Some number of steps leads from one scanner to the other. -/
def LeadsTo (s s' : Scanner) : Prop :=
  ∃ n, step^[n] s = s'

namespace LeadsTo

variable {s s' s'' : Scanner}

theorem refl (s : Scanner) : s.LeadsTo s :=
  ⟨0, rfl⟩

theorem trans (h : s.LeadsTo s') (h' : s'.LeadsTo s'') : s.LeadsTo s'' := by
  rcases h with ⟨m, rfl⟩
  rcases h' with ⟨n, rfl⟩
  exact ⟨n + m, Function.iterate_add_apply step n m s⟩

theorem of_step (h : s.step.LeadsTo s') : s.LeadsTo s' := by
  rcases h with ⟨n, rfl⟩
  exact ⟨n + 1, rfl⟩

/-- Steps keep a scanner sound and never lead back. -/
theorem isSound_and_position_le {source : Text} (h : s.LeadsTo s') (hs : s.IsSound source) :
    s'.IsSound source ∧ s.registers.position ≤ s'.registers.position := by
  rcases h with ⟨n, rfl⟩
  induction n with
  | zero => exact ⟨hs, Nat.le_refl _⟩
  | succ n ih =>
    rw [Function.iterate_succ_apply']
    exact ⟨ih.1.step, Nat.le_trans ih.2 ih.1.position_le_step⟩

theorem isSound {source : Text} (h : s.LeadsTo s') (hs : s.IsSound source) : s'.IsSound source :=
  (h.isSound_and_position_le hs).1

/-- Of two numbers of steps the smaller one leads to where the greater one does. -/
theorem iterate_of_le {m n : Nat} (h : m ≤ n) (s : Scanner) : (step^[m] s).LeadsTo (step^[n] s) := by
  refine ⟨n - m, ?_⟩
  rw [← Function.iterate_add_apply, Nat.sub_add_cancel h]

end LeadsTo

theorem isSound_iterate (source : Text) (n : Nat) : (step^[n] (start source)).IsSound source :=
  LeadsTo.isSound ⟨n, rfl⟩ (isSound_start source)

end Scanner

end Lexis
