import Lexis.Proofs.Cursor.Ledger
import Lexis.Proofs.Cursor.Scanner

/-!
# Calls — the steps of a scanner are the calls of a cursor

A cursor that reads its next token goes the way of a scanner, from passing the spaces to the finished
token (`Cursor.leadsTo_nextToken`); the form with indices stands between the two, as its loops are
those of the scanner.  Every other way of drawing makes such calls one after the other.

So all cursors that are ever used, copies among them, are found among the registers of scanners that
began on the sources given, and from one command to the next they move as scanners do
(`Scanner.isSound_throughout`).
-/

namespace Lexis

/-! ## Calls by indices -/

namespace Indexed

theorem any_current?_advanceWhile (p : Char → Bool) (i : Indexed) :
    (i.advanceWhile p).registers.current?.any p = false := by
  fun_induction advanceWhile p i with
  | case1 i _ ih => exact ih
  | case2 i hstop => simpa using hstop

open Scanner (LeadsTo dispatch)

/-- A phase that passes characters of `p` passes what the loop passes. -/
theorem leadsTo_advanceWhile {p : Char → Bool} {phase : Phase}
    (hstep : ∀ r : Registers, r.current?.any p = true →
      Scanner.step ⟨phase, r⟩ = ⟨phase, r.advance⟩) (i : Indexed) :
    LeadsTo ⟨phase, i.registers⟩ ⟨phase, (i.advanceWhile p).registers⟩ := by
  fun_induction advanceWhile p i with
  | case1 i hgo ih =>
    apply LeadsTo.of_step
    rw [hstep i.registers hgo]
    exact ih
  | case2 i _ => exact .refl _

/-- The last character of a token is passed. -/
theorem leadsTo_closing (t : Token) (i : Indexed) :
    LeadsTo ⟨.closing t, i.registers⟩ ⟨.finished t, i.advance.registers⟩ :=
  .of_step (.refl _)

/-- A run is passed, and is there to be cut out of the source. -/
theorem leadsTo_readWhile (sort : RunSort) (i : Indexed) :
    LeadsTo ⟨.running sort i.registers.position, i.registers⟩
      ⟨.finished (sort.token (i.readWhile sort.holds).1),
        (i.readWhile sort.holds).2.registers⟩ := by
  have hloop : LeadsTo ⟨.running sort i.registers.position, i.registers⟩
      ⟨.running sort i.registers.position, (i.advanceWhile sort.holds).registers⟩ := by
    apply leadsTo_advanceWhile
    intro r hr
    simp [Scanner.step, hr]
  have hsound : Scanner.IsSound i.registers.source
      ⟨.running sort i.registers.position, (i.advanceWhile sort.holds).registers⟩ :=
    hloop.isSound ⟨i.isPlace, Nat.le_refl _⟩
  have hstop : (i.advanceWhile sort.holds).registers.current?.any sort.holds = false :=
    any_current?_advanceWhile sort.holds i
  -- the loop has kept the scanner sound, so what it has passed is there
  have hslice : (i.advanceWhile sort.holds).registers.source.slice? i.registers.position
      (i.advanceWhile sort.holds).registers.position = some (i.readWhile sort.holds).1 := by
    rw [hsound.place.source_eq, (hsound.slice?_eq rfl).2.2, ← hsound.place.source_eq]
    rfl
  refine hloop.trans (.of_step ?_)
  simp only [Scanner.step, hstop, hslice]
  exact .refl _

theorem leadsTo_readToken (i : Indexed) :
    LeadsTo (dispatch i.registers) ⟨.finished i.readToken.1, i.readToken.2.registers⟩ := by
  -- both go by what is in sight
  unfold dispatch readToken
  cases i.registers.sight with
  | run sort => exact leadsTo_readWhile sort i
  | single t => exact leadsTo_closing t i
  | double t => exact leadsTo_closing t i.advance

/-- A whole call, from the spaces before the token on. -/
theorem leadsTo_nextToken (i : Indexed) :
    LeadsTo ⟨.skipping, i.registers⟩ ⟨.finished i.nextToken.1, i.nextToken.2.registers⟩ := by
  have hloop : LeadsTo ⟨.skipping, i.registers⟩
      ⟨.skipping, (i.advanceWhile isSpace).registers⟩ := by
    apply leadsTo_advanceWhile
    intro r hr
    simp [Scanner.step, hr]
  have hstop : (i.advanceWhile isSpace).registers.current?.any isSpace = false :=
    any_current?_advanceWhile isSpace i
  -- the next step tells the token by a character that is no space
  refine hloop.trans (.of_step ?_)
  simp only [Scanner.step, hstop]
  exact leadsTo_readToken (i.advanceWhile isSpace)

end Indexed

/-! ## Calls of cursors -/

namespace Cursor

/-- The next token of a cursor is read in steps of a scanner. -/
theorem leadsTo_nextToken (c : Cursor) :
    Scanner.LeadsTo ⟨.skipping, c.registers⟩
      ⟨.finished c.nextToken.1, c.nextToken.2.registers⟩ := by
  have hcall := Indexed.leadsTo_nextToken (.ofCursor c)
  rwa [Indexed.nextToken_ofCursor] at hcall

/-- Some steps of a scanner that is about to make a call lead from one cursor to the other. -/
def LeadsTo (c c' : Cursor) : Prop :=
  Scanner.LeadsTo ⟨.skipping, c.registers⟩ ⟨.skipping, c'.registers⟩

/-- The source stays, and no cursor is led back. -/
theorem LeadsTo.text_eq_and_position_le {c c' : Cursor} (h : c.LeadsTo c') :
    c'.text = c.text ∧ c.position ≤ c'.position := by
  have hsound : Scanner.IsSound c.text ⟨.skipping, c.registers⟩ := ⟨c.isPlaceOf_registers, trivial⟩
  rcases h.isSound_and_position_le hsound with ⟨hsound', hle⟩
  exact ⟨hsound'.place.source_eq, hle⟩

/-- Before the next call the scanner is where the last one has brought it. -/
theorem leadsTo_afterTokens (n : Nat) (c : Cursor) : c.LeadsTo (c.afterTokens n) := by
  induction n generalizing c with
  | zero => exact .refl _
  | succ n ih =>
    -- one step is between two calls, from the finished token to the spaces before the next one
    exact c.leadsTo_nextToken.trans (.of_step (ih c.nextToken.2))

/-- Every way of drawing makes some number of calls. -/
theorem exists_draw_eq_afterTokens (c : Cursor) (d : Draw) :
    ∃ n, (c.draw d).2 = c.afterTokens n := by
  cases d with
  | nextToken => exact ⟨1, rfl⟩
  | next => exact ⟨1, congrArg Prod.snd c.next?_eq⟩
  | nth n => exact ⟨n + 1, congrArg Prod.snd (c.nth?_eq n)⟩
  | take n => exact ⟨n, congrArg Prod.snd (c.take_eq n)⟩
  | collect => exact ⟨c.left.length + 1, congrArg Prod.snd c.collect_eq⟩

theorem leadsTo_draw (c : Cursor) (d : Draw) : c.LeadsTo (c.draw d).2 := by
  rcases c.exists_draw_eq_afterTokens d with ⟨n, hn⟩
  rw [hn]
  exact c.leadsTo_afterTokens n

end Cursor

/-! ## Calls in a pool -/

namespace Pool

/-- Every cursor of the first pool stands in the second one under the same number, where some steps of
a scanner have brought it. -/
def LeadsTo (pool pool' : Pool) : Prop :=
  ∀ (index : Nat) (c : Cursor), pool[index]? = some c →
    ∃ c', pool'[index]? = some c' ∧ c.LeadsTo c'

theorem LeadsTo.trans {pool pool' pool'' : Pool} (h : pool.LeadsTo pool')
    (h' : pool'.LeadsTo pool'') : pool.LeadsTo pool'' := by
  intro index c hc
  rcases h index c hc with ⟨c', hc', hsteps⟩
  rcases h' index c' hc' with ⟨c'', hc'', hsteps'⟩
  exact ⟨c'', hc'', hsteps.trans hsteps'⟩

theorem leadsTo_append (pool more : Pool) : pool.LeadsTo (pool ++ more) := by
  intro index c hc
  have hlt : index < pool.length := (List.getElem?_eq_some_iff.1 hc).1
  exact ⟨c, by rw [List.getElem?_append_left hlt, hc], .refl _⟩

/-- A draw moves the cursor that it names and no other. -/
theorem leadsTo_set_draw {pool : Pool} {index : Nat} {c : Cursor} (hc : pool[index]? = some c)
    (d : Draw) : pool.LeadsTo (pool.set index (c.draw d).2) := by
  intro index' c' hc'
  by_cases heq : index = index'
  · subst heq
    have hlt : index < pool.length := (List.getElem?_eq_some_iff.1 hc).1
    obtain rfl : c = c' := Option.some.inj (hc.symm.trans hc')
    exact ⟨(c.draw d).2, by simp [hlt], c.leadsTo_draw d⟩
  · exact ⟨c', by rw [List.getElem?_set_ne heq, hc'], .refl _⟩

theorem leadsTo_of_step? {pool : Pool} {command : Command} {step : Step}
    (h : pool.step? command = some step) : pool.LeadsTo step.pool := by
  cases command with
  | draw index d =>
    rcases Option.map_eq_some_iff.1 h with ⟨c, hc, rfl⟩
    exact leadsTo_set_draw hc d
  | look index =>
    rcases Option.map_eq_some_iff.1 h with ⟨c, -, rfl⟩
    simpa using leadsTo_append pool []
  | copy index =>
    rcases Option.map_eq_some_iff.1 h with ⟨c, -, rfl⟩
    exact leadsTo_append pool [c]
  | start source =>
    rcases Option.some.inj h with rfl
    exact leadsTo_append pool [.ofText source]

/-- The first step of a run, and the steps after it. -/
theorem exists_of_run?_cons {pool : Pool} {command : Command} {rest : List Command}
    {steps : List Step} (h : pool.run? (command :: rest) = some steps) :
    ∃ step more, pool.step? command = some step ∧ step.pool.run? rest = some more ∧
      steps = step :: more := by
  rw [run?] at h
  cases hstep : pool.step? command with
  | none => simp [hstep] at h
  | some step =>
    rw [hstep] at h
    rcases Option.map_eq_some_iff.1 h with ⟨more, hmore, rfl⟩
    exact ⟨step, more, rfl, hmore, rfl⟩

/-- Every pool of a run leads to all pools after it. -/
theorem pairwise_leadsTo_of_run? {commands : List Command} {pool : Pool} {steps : List Step}
    (h : pool.run? commands = some steps) :
    (pool :: steps.map Step.pool).Pairwise LeadsTo := by
  induction commands generalizing pool steps with
  | nil =>
    obtain rfl : [] = steps := Option.some.inj h
    simp
  | cons command rest ih =>
    rcases exists_of_run?_cons h with ⟨step, more, hstep, hmore, rfl⟩
    -- the pool after the first step leads on to all pools after it, and is led to by the one before
    have hfirst := leadsTo_of_step? hstep
    have hlater := ih hmore
    refine List.pairwise_cons.2 ⟨List.forall_mem_cons.2 ⟨hfirst, fun later hmem => ?_⟩, hlater⟩
    exact hfirst.trans ((List.pairwise_cons.1 hlater).1 later hmem)

/-! ### What is true of all cursors -/

section Invariant

variable {P : Cursor → Prop} (hdraw : ∀ c d, P c → P (c.draw d).2)

include hdraw

/-- What is true of a cursor that starts, and stays true when it is drawn from, is true of the cursor
that a command uses and of all that are there after it. -/
theorem forall_mem_of_step? {pool : Pool} {command : Command} {step : Step}
    (h : pool.step? command = some step) (hpool : ∀ c ∈ pool, P c)
    (hstart : ∀ source, command = .start source → P (.ofText source)) :
    ∀ c ∈ step.cursor :: step.pool, P c := by
  -- copies and new cursors join in the same way
  have hjoin : ∀ c, P c → ∀ c' ∈ (pool.join c).cursor :: (pool.join c).pool, P c' := by
    intro c hc c' hmem
    simp only [join, List.mem_cons, List.mem_append, List.not_mem_nil, or_false] at hmem
    rcases hmem with rfl | hmem | rfl
    · exact hc
    · exact hpool c' hmem
    · exact hc
  cases command with
  | draw index d =>
    rcases Option.map_eq_some_iff.1 h with ⟨c, hc, rfl⟩
    have hdrawn : P (c.draw d).2 := hdraw c d (hpool c (List.mem_of_getElem? hc))
    intro c' hmem
    rcases List.mem_cons.1 hmem with rfl | hmem
    · exact hdrawn
    · rcases List.mem_or_eq_of_mem_set hmem with hold | rfl
      · exact hpool c' hold
      · exact hdrawn
  | look index =>
    rcases Option.map_eq_some_iff.1 h with ⟨c, hc, rfl⟩
    exact List.forall_mem_cons.2 ⟨hpool c (List.mem_of_getElem? hc), hpool⟩
  | copy index =>
    rcases Option.map_eq_some_iff.1 h with ⟨c, hc, rfl⟩
    exact hjoin c (hpool c (List.mem_of_getElem? hc))
  | start source =>
    rcases Option.some.inj h with rfl
    exact hjoin _ (hstart source rfl)

theorem forall_mem_of_run? {commands : List Command} {pool : Pool} {steps : List Step}
    (h : pool.run? commands = some steps) (hpool : ∀ c ∈ pool, P c)
    (hstart : ∀ source, .start source ∈ commands → P (.ofText source)) :
    ∀ step ∈ steps, ∀ c ∈ step.cursor :: step.pool, P c := by
  induction commands generalizing pool steps with
  | nil =>
    obtain rfl : [] = steps := Option.some.inj h
    simp
  | cons command rest ih =>
    rcases exists_of_run?_cons h with ⟨step, more, hstep, hmore, rfl⟩
    have hfirst := forall_mem_of_step? hdraw hstep hpool fun source heq =>
      hstart source (heq ▸ List.mem_cons_self)
    have hlater := ih hmore (List.forall_mem_cons.1 hfirst).2 fun source hmem =>
      hstart source (List.mem_cons_of_mem command hmem)
    exact List.forall_mem_cons.2 ⟨hfirst, hlater⟩

end Invariant

/-- Every cursor of a run is where a scanner on one of the sources given has been. -/
theorem exists_leadsTo_of_run? {commands : List Command} {steps : List Step}
    (h : run? [] commands = some steps) :
    ∀ step ∈ steps, ∀ c ∈ step.cursor :: step.pool, ∃ source, .start source ∈ commands ∧
      Scanner.LeadsTo (.start source) ⟨.skipping, c.registers⟩ := by
  refine forall_mem_of_run? ?_ h (by simp) ?_
  · rintro c d ⟨source, hmem, hsteps⟩
    exact ⟨source, hmem, hsteps.trans (c.leadsTo_draw d)⟩
  · intro source hmem
    refine ⟨source, hmem, ?_⟩
    rw [Cursor.registers_ofText]
    exact .refl _

end Pool

/-! ## Scanners and cursors -/

/-- At every step of a scanner its registers agree on a place of its source, which is never behind a
place that it has been at; a step moves over one character at most; the ends of a run are in order
and within the source, so that the run can be cut out of it; and no scanner fails.  The calls of a
cursor are made of such steps, and the cursors of a pool, on whatever sources they start and however
they are copied and drawn from, are at places where the scanners on these sources have been, and are
never led back. -/
theorem Scanner.isSound_throughout :
    (∀ source n,
      let s := step^[n] (start source)
      let r := s.registers
      s.IsSound source ∧
      (r.current? = none ↔ r.position = source.length) ∧ r.readPosition ≤ source.length + 1 ∧
      (∀ m ≤ n, (step^[m] (start source)).registers.position ≤ r.position) ∧
      (s.step.registers = r ∨ s.step.registers = r.advance) ∧
      s.phase ≠ .failed ∧
      ∀ sort first, s.phase = .running sort first →
        first ≤ r.position ∧ r.position ≤ source.length ∧
          source.slice? first r.position = some ((source.take r.position).drop first)) ∧
    (∀ c : Cursor,
      LeadsTo ⟨.skipping, c.registers⟩ ⟨.finished c.nextToken.1, c.nextToken.2.registers⟩) ∧
    (∀ c c' : Cursor, c.LeadsTo c' → c'.text = c.text ∧ c.position ≤ c'.position) ∧
    ∀ commands steps, Pool.run? [] commands = some steps →
      (∀ step ∈ steps, ∀ c ∈ step.cursor :: step.pool, ∃ source, .start source ∈ commands ∧
        LeadsTo (start source) ⟨.skipping, c.registers⟩) ∧
      (steps.map Pool.Step.pool).Pairwise Pool.LeadsTo := by
  refine ⟨?_, Cursor.leadsTo_nextToken, fun _ _ h => h.text_eq_and_position_le, ?_⟩
  · intro source n s r
    have hsound : s.IsSound source := isSound_iterate source n
    refine ⟨hsound, hsound.place.current?_eq_none_iff, hsound.place.readPosition_le,
      ?_, s.registers_step, ?_, ?_⟩
    · intro m hm
      exact ((LeadsTo.iterate_of_le hm _).isSound_and_position_le (isSound_iterate source m)).2
    · intro hfailed
      have hfits := hsound.fits
      rwa [hfailed] at hfits
    · intro sort first hphase
      exact hsound.slice?_eq hphase
  · intro commands steps hrun
    exact ⟨Pool.exists_leadsTo_of_run? hrun, (Pool.pairwise_leadsTo_of_run? hrun).tail⟩

end Lexis
