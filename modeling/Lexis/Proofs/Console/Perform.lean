import Lexis.CommandLine.Answer
import Lexis.Proofs.Console.Session

/-!
# Perform — what effects add up to

The texts written, the bytes read and the flushes made are added up over a list of effects
(`written`, `readBytes`, `flushCount`).  On a sink without faults a session does all of it
(`play_faultless`).
-/

namespace Lexis

namespace Console

open CommandLine (listing)

/-! ## Totals -/

/-- The bytes that an effect writes. -/
def Effect.written : Effect → Bytes
  | write text => Text.utf8 text
  | _ => []

/-- The bytes that an effect reads. -/
def Effect.readBytes : Effect → Bytes
  | read bytes => bytes
  | _ => []

/-- All that effects write. -/
def written (es : List Effect) : Bytes :=
  es.flatMap Effect.written

/-- All that effects read. -/
def readBytes (es : List Effect) : Bytes :=
  es.flatMap Effect.readBytes

/-- The number of flushes among effects. -/
def flushCount (es : List Effect) : Nat :=
  es.count .flush

section Totals

variable (e : Effect) (es fs : List Effect)

@[simp] theorem written_nil : written [] = [] :=
  rfl

@[simp] theorem written_cons : written (e :: es) = e.written ++ written es :=
  rfl

@[simp] theorem written_append : written (es ++ fs) = written es ++ written fs := by
  simp [written]

@[simp] theorem readBytes_nil : readBytes [] = [] :=
  rfl

@[simp] theorem readBytes_cons : readBytes (e :: es) = e.readBytes ++ readBytes es :=
  rfl

@[simp] theorem readBytes_append : readBytes (es ++ fs) = readBytes es ++ readBytes fs := by
  simp [readBytes]

@[simp] theorem flushCount_nil : flushCount [] = 0 :=
  rfl

@[simp] theorem flushCount_flush : flushCount (.flush :: es) = flushCount es + 1 := by
  simp [flushCount]

@[simp] theorem flushCount_read (bytes : Bytes) :
    flushCount (.read bytes :: es) = flushCount es := by
  simp [flushCount]

@[simp] theorem flushCount_append : flushCount (es ++ fs) = flushCount es + flushCount fs := by
  simp [flushCount]

end Totals

/-- An effect that writes or logs. -/
def Effect.IsQuiet : Effect → Prop
  | write _ => True
  | log _ => True
  | _ => False

theorem flushCount_of_quiet {es : List Effect} (h : ∀ e ∈ es, e.IsQuiet) : flushCount es = 0 := by
  rw [flushCount, List.count_eq_zero]
  intro hflush
  exact h .flush hflush

theorem readBytes_of_quiet {es : List Effect} (h : ∀ e ∈ es, e.IsQuiet) : readBytes es = [] := by
  rw [readBytes, List.flatMap_eq_nil_iff]
  intro e he
  have hquiet := h e he
  cases e with
  | read bytes => exact absurd hquiet id
  | write _ | log _ | flush => rfl

/-! ## Sinks without faults -/

theorem perform_faultless (failure? : Option IoFault) (es : List Effect) :
    perform failure? .faultless es =
      ⟨written es, (readBytes es).length, flushCount es, failure?⟩ := by
  -- the sink stays as it is, so the induction is on the effects alone
  induction es with
  | nil => rfl
  | cons e es ih =>
    cases e with
    | write text =>
      have hfilled : Sink.faultless.filled (Text.utf8 text) = .faultless := rfl
      have hfits : Sink.faultless.fits (Text.utf8 text) = true := rfl
      simp [perform, hfits, hfilled, ih, Effect.written, Effect.readBytes, flushCount]
    | flush =>
      have hflushed : Sink.faultless.flushed = .faultless := rfl
      have hfails : ¬ Sink.faultless.failingFlush? = some 1 := by decide
      simp [perform, hfails, hflushed, ih, Effect.written, Effect.readBytes]
    | read bytes => simp [perform, ih, Effect.written, Effect.readBytes, flushCount]
    | log record => simp [perform, ih, Effect.written, Effect.readBytes, flushCount]

theorem play_faultless (t : Transcript) :
    t.play .faultless =
      ⟨written t.effects, (readBytes t.effects).length, flushCount t.effects, t.failure?⟩ :=
  perform_faultless t.failure? t.effects

/-! ## Rounds -/

theorem isQuiet_of_mem_handle {source : Text} {e : Effect} (h : e ∈ handle source) :
    e.IsQuiet := by
  rw [handle_eq] at h
  simp only [List.mem_cons, List.mem_append, List.mem_flatMap, echo, List.not_mem_nil,
    or_false] at h
  rcases h with rfl | ⟨t, -, rfl | rfl⟩ | rfl <;> exact trivial

@[simp] theorem written_handle (source : Text) :
    written (handle source) = Text.utf8 (listing (tokens source).dropLast) := by
  have hecho : ∀ ts : List Token, written (ts.flatMap echo) = Text.utf8 (listing ts) := by
    intro ts
    induction ts with
    | nil => rfl
    | cons t ts ih => simp [echo, ih, Effect.written]
  rw [handle_eq]
  simp [hecho, Effect.written]

@[simp] theorem readBytes_handle (source : Text) : readBytes (handle source) = [] :=
  readBytes_of_quiet fun _ h => isQuiet_of_mem_handle h

@[simp] theorem flushCount_handle (source : Text) : flushCount (handle source) = 0 :=
  flushCount_of_quiet fun _ h => isQuiet_of_mem_handle h

@[simp] theorem written_prompt : written prompt = Text.utf8 promptText :=
  rfl

@[simp] theorem readBytes_prompt : readBytes prompt = [] :=
  rfl

@[simp] theorem flushCount_prompt : flushCount prompt = 1 :=
  rfl

/-- A round writes the prompt and the tokens of the line. -/
theorem written_round (line : Text) :
    written (round line) = Text.utf8 (promptText ++ listing (tokens line).dropLast) := by
  simp [round, Effect.written, tokens_content]

theorem readBytes_round (line : Text) : readBytes (round line) = Text.utf8 line := by
  simp [round, Effect.readBytes]

theorem flushCount_round (line : Text) : flushCount (round line) = 1 := by
  simp [round, flushCount_read]

/-- What a session prints for lines that it handles: before each the prompt, after each its
tokens. -/
def printed (lines : List Text) : Text :=
  lines.flatMap fun line => promptText ++ listing (tokens line).dropLast

section Rounds

variable (lines : List Text)

theorem written_rounds : written (lines.flatMap round) = Text.utf8 (printed lines) := by
  induction lines with
  | nil => rfl
  | cons line lines ih => simp [written_round, ih, printed]

theorem readBytes_rounds : readBytes (lines.flatMap round) = Text.utf8 lines.flatten := by
  induction lines with
  | nil => rfl
  | cons line lines ih => simp [readBytes_round, ih]

theorem flushCount_rounds : flushCount (lines.flatMap round) = lines.length := by
  induction lines with
  | nil => rfl
  | cons line lines ih =>
    simp only [List.flatMap_cons, flushCount_append, flushCount_round, ih, List.length_cons]
    omega

end Rounds

/-! ## Runs without faults of the sink -/

variable (input : Input) {handled : List Text}

/-- The run on lines that are all handled ends with the input. -/
theorem run_of_handled (hlines : input.bytes.lines = handled.map Text.utf8)
    (hhandled : ∀ line ∈ handled, Handled input.failure? line) :
    run input .faultless =
      ⟨Text.utf8 (printed handled ++ promptText), input.bytes.length, handled.length + 1,
        input.failure?⟩ := by
  have hsession := sessionOn_append hhandled []
  rw [List.append_nil, ← hlines] at hsession
  have hbytes : input.bytes = Text.utf8 handled.flatten := by
    rw [Text.utf8_flatten, ← hlines, Bytes.flatten_lines]
  rw [run, session, hsession, play_faultless]
  simp [Transcript.after, sessionOn, written_rounds, readBytes_rounds, flushCount_rounds, hbytes]

/-- The run on handled lines and one that ends the session. -/
theorem run_of_ending {line : Bytes} {after : List Bytes} {end? : Option IoFault}
    (hlines : input.bytes.lines = handled.map Text.utf8 ++ line :: after)
    (hhandled : ∀ line ∈ handled, Handled input.failure? line)
    (hend : ending? input.failure? line = some end?) :
    run input .faultless =
      ⟨Text.utf8 (printed handled ++ promptText), (Text.utf8 handled.flatten ++ line).length,
        handled.length + 1, end?⟩ := by
  have hsession := sessionOn_append hhandled (line :: after)
  rw [← hlines, sessionOn_cons_of_ending hend] at hsession
  rw [run, session, hsession, play_faultless]
  simp [Transcript.after, written_rounds, readBytes_rounds, flushCount_rounds, Effect.written,
    Effect.readBytes]

end Console

end Lexis
