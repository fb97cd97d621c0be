import Lexis.Proofs.Console.Prompts

/-!
# OutputFaults — sinks that run full and flushes that fail

A faulty sink cuts a session off.  What it takes is the start of what a faultless one takes, up to
the first of three places: the end of the output, the end of the room, and the end of the prompt
whose flush fails (`Limits`).

* What is performed of any effects is cut in this way (`perform_eq`).
* A session reads one line after each flush that succeeds (`consumed_sessionOn`).
* Together they tell what a run leaves on any sink (`run_on_faulty_sink`).
-/

namespace Lexis

namespace Console

/-! ## Limits -/

/-- What bounds an output: how much there is to write, the room for it, and the place of the flush
that fails. -/
structure Limits where
  size : Nat
  room? : Option Nat
  flushEnd? : Option Nat
  deriving DecidableEq, Repr

namespace Limits

/-- How much is written where the room does not matter. -/
def reach (l : Limits) : Nat :=
  min l.size (l.flushEnd?.getD l.size)

/-- How much is written. -/
def accepted (l : Limits) : Nat :=
  min l.reach (l.room?.getD l.reach)

/-- Whether the room ends before all is written. -/
def writeFails (l : Limits) : Bool :=
  l.room?.any fun room => room < l.reach

/-- Whether the flush that fails is made, which it is if there is room for what comes before it. -/
def flushFails (l : Limits) : Bool :=
  l.flushEnd?.any fun flushEnd => l.room?.all fun room => flushEnd ≤ room

/-- How writing ends; `failure?` is how it ends without a fault of the sink. -/
def verdict (l : Limits) (failure? : Option IoFault) : Option IoFault :=
  if l.writeFails then some .sinkFull
  else if l.flushFails then some .flushFailed
  else failure?

/-- The limits with more to write before, for which there is room. -/
def shift (n : Nat) (l : Limits) : Limits :=
  ⟨n + l.size, l.room?.map (n + ·), l.flushEnd?.map (n + ·)⟩

variable (n : Nat) (l : Limits)

theorem reach_shift : (l.shift n).reach = n + l.reach := by
  rcases l with ⟨size, room?, _ | flushEnd⟩ <;> simp [shift, reach]

@[simp] theorem accepted_shift : (l.shift n).accepted = n + l.accepted := by
  have hreach := l.reach_shift n
  unfold accepted
  rw [hreach]
  rcases l with ⟨size, _ | room, flushEnd?⟩ <;> simp [shift]

@[simp] theorem writeFails_shift : (l.shift n).writeFails = l.writeFails := by
  have hreach := l.reach_shift n
  unfold writeFails
  rw [hreach]
  rcases l with ⟨size, _ | room, flushEnd?⟩ <;> simp [shift]

@[simp] theorem flushFails_shift : (l.shift n).flushFails = l.flushFails := by
  rcases l with ⟨size, _ | room, _ | flushEnd⟩ <;> simp [shift, flushFails]

@[simp] theorem verdict_shift (failure? : Option IoFault) :
    (l.shift n).verdict failure? = l.verdict failure? := by
  simp [verdict]

/-- A flush is only made after all before it is written. -/
theorem writeFails_eq_false_of_flushFails (h : l.flushFails = true) : l.writeFails = false := by
  rcases l with ⟨size, _ | room, _ | flushEnd⟩
  · rfl
  · rfl
  · cases h
  · have hle : flushEnd ≤ room := by simpa [flushFails] using h
    have hreach : ¬ room < min size flushEnd := by omega
    exact decide_eq_false hreach

end Limits

/-! ## Sinks -/

namespace Sink

/-- The place of the flush that fails, among the places of all flushes. -/
def flushEnd? (sink : Sink) (ends : List Nat) : Option Nat :=
  match sink.failingFlush? with
  | some (k + 1) => ends[k]?
  | _ => none

/-- The limits of a sink for an output of a size with flushes at the given places. -/
def limits (sink : Sink) (size : Nat) (ends : List Nat) : Limits :=
  ⟨size, sink.room?, sink.flushEnd? ends⟩

/-- How many of the flushes made have succeeded: all of them but the one that fails. -/
def flushesDone (sink : Sink) (made : Nat) : Nat :=
  if sink.failingFlush? = some made then made - 1 else made

variable {sink : Sink} (ends : List Nat)

theorem flushEnd?_map (f : Nat → Nat) :
    sink.flushEnd? (ends.map f) = (sink.flushEnd? ends).map f := by
  unfold flushEnd?
  split <;> simp

/-- Where the bytes fit, what follows has the limits of the filled sink. -/
theorem limits_filled {bytes : Bytes} (hfits : sink.fits bytes = true) (size : Nat) :
    sink.limits (bytes.length + size) (ends.map (bytes.length + ·)) =
      ((sink.filled bytes).limits size ends).shift bytes.length := by
  have hroom : sink.room? = (sink.filled bytes).room?.map (bytes.length + ·) := by
    unfold fits at hfits
    rcases sink with ⟨_ | room, failing?⟩
    · rfl
    · have hle : bytes.length ≤ room := by simpa using hfits
      simp [filled, hle]
  have hfailing : (sink.filled bytes).flushEnd? ends = sink.flushEnd? ends := rfl
  rw [limits, limits, Limits.shift, flushEnd?_map, hfailing, ← hroom]

/-- Where the bytes do not fit, the room ends in them, before any flush that follows. -/
theorem limits_of_not_fits {bytes : Bytes} (hfits : sink.fits bytes = false) (size : Nat) :
    let limits := sink.limits (bytes.length + size) (ends.map (bytes.length + ·))
    limits.writeFails = true ∧
      ∃ room, sink.room? = some room ∧ room < bytes.length ∧ limits.accepted = room := by
  intro limits
  cases hsink : sink.room? with
  | none => simp [fits, hsink] at hfits
  | some room =>
    have hlt : room < bytes.length := by simpa [fits, hsink] using hfits
    have hroom : limits.room? = some room := hsink
    have hreach : room < limits.reach := by
      simp only [limits, Sink.limits, flushEnd?_map, Limits.reach]
      cases sink.flushEnd? ends with
      | none => simp only [Option.map_none, Option.getD_none]; omega
      | some flushEnd => simp only [Option.map_some, Option.getD_some]; omega
    refine ⟨by simp [Limits.writeFails, hroom, hreach], room, rfl, hlt, ?_⟩
    rw [Limits.accepted, hroom, Option.getD_some]
    omega

/-- Where the next flush fails, nothing is written before it, and so writing cannot fail. -/
theorem limits_of_flush_fails (hfails : sink.failingFlush? = some 1) (size : Nat) :
    let limits := sink.limits size (0 :: ends)
    limits.writeFails = false ∧ limits.flushFails = true ∧ limits.accepted = 0 := by
  intro limits
  have hend : limits.flushEnd? = some 0 := by simp [limits, Sink.limits, flushEnd?, hfails]
  have hreach : limits.reach = 0 := by simp [Limits.reach, hend]
  refine ⟨?_, ?_, ?_⟩
  · simp [Limits.writeFails, hreach]
  · simp [Limits.flushFails, hend]
  · simp [Limits.accepted, hreach]

/-- After a flush that succeeds, the flushes that follow have the limits of the flushed sink. -/
theorem limits_flushed (hsucceeds : sink.failingFlush? ≠ some 1) (size : Nat) :
    sink.limits size (0 :: ends) = sink.flushed.limits size ends := by
  have hend : sink.flushEnd? (0 :: ends) = sink.flushed.flushEnd? ends := by
    unfold flushEnd? flushed
    rcases sink with ⟨room?, _ | _ | _ | k⟩
    · rfl
    · rfl
    · exact absurd rfl hsucceeds
    · rfl
  rw [limits, limits, hend]
  rfl

theorem flushesDone_flushed {sink : Sink} (hsucceeds : sink.failingFlush? ≠ some 1) (made : Nat) :
    sink.flushesDone (made + 1) = sink.flushed.flushesDone made + 1 := by
  rcases sink with ⟨room?, _ | _ | _ | k⟩
  · simp [flushesDone, flushed]
  · simp [flushesDone, flushed]
    omega
  · exact absurd rfl hsucceeds
  · simp [flushesDone, flushed]
    split
    · omega
    · rfl

end Sink

/-! ## What is performed of effects -/

/-- What a sink takes of effects is cut at the first of its limits, and the limits tell how
performing them ends. -/
theorem perform_eq (failure? : Option IoFault) (sink : Sink) (es : List Effect) :
    let limits := sink.limits (written es).length (flushEnds es)
    (perform failure? sink es).output = (written es).take limits.accepted ∧
      (perform failure? sink es).failure? = limits.verdict failure? := by
  -- one effect at a time: the limits of the rest are those of the sink that is left, shifted by what
  -- has been written
  induction es generalizing sink with
  | nil =>
    -- there is nothing to write and no flush to fail
    rcases sink with ⟨_ | room, _ | _ | k⟩ <;>
      simp [perform, Sink.limits, Sink.flushEnd?, flushEnds, Limits.verdict, Limits.writeFails,
        Limits.flushFails, Limits.reach]
  | cons e es ih =>
    cases e with
    | write text =>
      simp only [written_cons, Effect.written, flushEnds, List.length_append, perform]
      cases hfits : sink.fits (Text.utf8 text) with
      | true =>
        rcases ih (sink.filled (Text.utf8 text)) with ⟨houtput, hfailure⟩
        rw [Sink.limits_filled _ hfits, Limits.accepted_shift, Limits.verdict_shift,
          List.take_length_add_append, ← houtput]
        exact ⟨rfl, hfailure⟩
      | false =>
        rcases Sink.limits_of_not_fits (flushEnds es) hfits (written es).length with
          ⟨hfails, room, hroom, hlt, haccepted⟩
        rw [haccepted, Limits.verdict, hfails, List.take_append_of_le_length (Nat.le_of_lt hlt)]
        simp [Sink.stored, hroom]
    | flush =>
      simp only [written_cons, Effect.written, List.nil_append, flushEnds, perform]
      by_cases hfails : sink.failingFlush? = some 1
      · rcases Sink.limits_of_flush_fails (flushEnds es) hfails (written es).length with
          ⟨hwrite, hflush, haccepted⟩
        rw [if_pos hfails, haccepted, Limits.verdict, hwrite, hflush]
        exact ⟨rfl, rfl⟩
      · rw [Sink.limits_flushed _ hfails, if_neg hfails]
        exact ih sink.flushed
    | read bytes => exact ih sink
    | log record => exact ih sink

/-! ## What is read -/

/-- A prompt fails with nothing read and no flush that has succeeded, or one flush has succeeded and
the rest is performed on what is left of the sink. -/
theorem perform_prompt_cases (failure? : Option IoFault) (sink : Sink) (es : List Effect) :
    let report := perform failure? sink (prompt ++ es)
    (report.consumed = 0 ∧ sink.flushesDone report.flushes = 0) ∨
      ∃ left : Sink, report.consumed = (perform failure? left es).consumed ∧
        sink.flushesDone report.flushes =
          left.flushesDone (perform failure? left es).flushes + 1 := by
  have hnone : sink.flushesDone 0 = 0 := by simp [Sink.flushesDone]
  simp only [prompt, List.cons_append, List.nil_append, perform]
  cases sink.fits (Text.utf8 promptText) with
  | false => exact Or.inl ⟨rfl, hnone⟩
  | true =>
    by_cases hfails : sink.failingFlush? = some 1
    · -- the flush is made, but it is the one that fails
      refine Or.inl ?_
      simp [Sink.filled, hfails, Sink.flushesDone]
    · have hsucceeds : ¬ (sink.filled (Text.utf8 promptText)).failingFlush? = some 1 := hfails
      have hdone := Sink.flushesDone_flushed hsucceeds
      refine Or.inr ⟨(sink.filled (Text.utf8 promptText)).flushed, ?_⟩
      simp only [if_true, if_neg hsucceeds]
      exact ⟨trivial, hdone _⟩

/-- Effects that only write or log fail with nothing read or flushed, or the rest is performed on
what is left of the sink. -/
theorem perform_quiet_cases (failure? : Option IoFault) (sink : Sink) {es : List Effect}
    (hes : ∀ e ∈ es, e.IsQuiet) (fs : List Effect) :
    let report := perform failure? sink (es ++ fs)
    (report.consumed = 0 ∧ report.flushes = 0) ∨
      ∃ left : Sink, left.failingFlush? = sink.failingFlush? ∧
        report.consumed = (perform failure? left fs).consumed ∧
          report.flushes = (perform failure? left fs).flushes := by
  induction es generalizing sink with
  | nil => exact Or.inr ⟨sink, rfl, rfl, rfl⟩
  | cons e es ih =>
    rcases List.forall_mem_cons.1 hes with ⟨he, hrest⟩
    cases e with
    | write text =>
      simp only [List.cons_append, perform]
      cases sink.fits (Text.utf8 text) with
      | false => exact Or.inl ⟨rfl, rfl⟩
      | true => exact ih (sink.filled (Text.utf8 text)) hrest
    | log record => exact ih sink hrest
    | flush | read _ => exact absurd he id

/-- A session has read one line for each flush that has succeeded, as far as there are lines. -/
theorem consumed_sessionOn (failure? : Option IoFault) (lines : List Bytes) (sink : Sink) :
    let report := (sessionOn failure? lines).play sink
    report.consumed = ((lines.take (sink.flushesDone report.flushes)).flatten).length := by
  revert sink
  refine sessionOn_induction (motive := fun lines t => ∀ sink : Sink,
    (t.play sink).consumed =
      ((lines.take (sink.flushesDone (t.play sink).flushes)).flatten).length) failure? ?_ ?_ ?_ lines
  · intro sink
    rcases perform_prompt_cases failure? sink [] with ⟨hconsumed, -⟩ | ⟨left, hconsumed, -⟩
    · simpa [Transcript.play] using hconsumed
    · simpa [Transcript.play, perform] using hconsumed
  · intro line after end? _ sink
    unfold Transcript.play
    rcases perform_prompt_cases end? sink [.read line] with
      ⟨hconsumed, hdone⟩ | ⟨left, hconsumed, hdone⟩
    · rw [hconsumed, hdone]
      rfl
    · rw [hconsumed, hdone]
      simp [perform, Sink.flushesDone]
  · intro line after t ih sink
    have heffects : (t.after (round line)).effects =
        prompt ++ .read (Text.utf8 line) :: (handle (content line) ++ t.effects) := by
      simp [Transcript.after, round]
    have hfailure : (t.after (round line)).failure? = t.failure? := rfl
    unfold Transcript.play at ih ⊢
    rw [heffects]
    rcases perform_prompt_cases t.failure? sink _ with ⟨hconsumed, hdone⟩ | ⟨left, hconsumed, hdone⟩
    · rw [hfailure, hconsumed, hdone]
      rfl
    · -- the flush has succeeded and the line is read; the rest begins with the tokens of the line
      rw [hfailure, hconsumed, hdone]
      simp only [perform, List.take_succ_cons, List.flatten_cons, List.length_append,
        Nat.add_left_cancel_iff]
      rcases perform_quiet_cases t.failure? left (fun _ h => isQuiet_of_mem_handle h) t.effects with
        ⟨hread, hflushes⟩ | ⟨rest, hsame, hread, hflushes⟩
      · rw [hread, hflushes]
        simp [Sink.flushesDone]
      · have hsinks : left.flushesDone = rest.flushesDone := by
          funext made
          simp [Sink.flushesDone, hsame]
        simpa [hread, hflushes, hsinks] using ih rest

/-! ## Runs on any sink -/

/-- Without a fault of the sink, a run ends well, at a line that is not UTF-8, or as its input. -/
theorem failure?_faultless_cases (input : Input) :
    let report := run input .faultless
    report.failure? = none ∨ report.failure? = some .notUtf8 ∨
      report.failure? = input.failure? := by
  rw [run, play_faultless]
  refine sessionOn_induction (motive := fun _ t =>
    t.failure? = none ∨ t.failure? = some .notUtf8 ∨ t.failure? = input.failure?)
    input.failure? ?_ ?_ ?_ input.bytes.lines
  · exact Or.inr (Or.inr rfl)
  · -- the line is not read to its end, not UTF-8, or a quit line
    intro line after end? hend
    unfold ending? at hend
    split at hend
    · exact Or.inr (Or.inr (Option.some.inj hend).symm)
    split at hend
    · exact Or.inr (Or.inl (Option.some.inj hend).symm)
    split at hend
    · exact Or.inl (Option.some.inj hend).symm
    · cases hend
  · intro line after t ht
    exact ht

/-- On any sink a run is cut at the first of three places in the output of a run without faults: its
end, the end of the room, and the end of the prompt whose flush fails.  It has read one line for
each flush that has succeeded. -/
theorem run_on_faulty_sink (input : Input) (sink : Sink) :
    let full := run input .faultless
    let report := run input sink
    let limits := sink.limits full.output.length (promptEnds full.output)
    report.output = full.output.take limits.accepted ∧
    report.failure? =
      (if limits.writeFails then some .sinkFull
      else if limits.flushFails then some .flushFailed
      else full.failure?) ∧
    (input.failure? ≠ some .sinkFull → (report.failure? = some .sinkFull ↔ limits.writeFails)) ∧
    (input.failure? ≠ some .flushFailed →
      (report.failure? = some .flushFailed ↔ limits.flushFails)) ∧
    report.consumed =
      (input.bytes.lines.take (sink.flushesDone report.flushes)).flatten.length := by
  intro full report limits
  -- the places of the flushes are found in the output as the ends of its prompts
  have hfull : full = ⟨_, _, _, _⟩ := play_faultless (session input)
  have hlimits : limits =
      sink.limits (written (session input).effects).length (flushEnds (session input).effects) := by
    have hends := (flushEnds_sessionOn input.failure? input.bytes.lines).2
    have houtput : full.output = written (session input).effects := by simp [hfull]
    simp only [limits, houtput, session, hends]
  have hperform := perform_eq (session input).failure? sink (session input).effects
  rw [← hlimits] at hperform
  rcases hperform with ⟨houtput, hfailure⟩
  have hreport : report.failure? = limits.verdict full.failure? := by
    rw [hfull]
    exact hfailure
  -- the faults of the sink are told apart from that of the input unless it is one of them
  have hcases := failure?_faultless_cases input
  refine ⟨?_, hreport, ?_, ?_, consumed_sessionOn input.failure? input.bytes.lines sink⟩
  · rw [hfull]
    exact houtput
  · intro hinput
    have hother : full.failure? ≠ some .sinkFull := by
      rcases hcases with hend | hend | hend <;> simp [full, hend, hinput]
    rw [hreport, Limits.verdict]
    cases limits.writeFails <;> cases limits.flushFails <;> simp [hother]
  · intro hinput
    have hother : full.failure? ≠ some .flushFailed := by
      rcases hcases with hend | hend | hend <;> simp [full, hend, hinput]
    have hexclusive := limits.writeFails_eq_false_of_flushFails
    rw [hreport, Limits.verdict]
    cases hwrite : limits.writeFails <;> cases hflush : limits.flushFails <;> simp_all

end Console

end Lexis
