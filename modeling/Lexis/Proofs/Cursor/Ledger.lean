import Lexis.Cursor.Pool
import Lexis.Proofs.Cursor.Drawing

/-!
# Ledger — cursors told by what has been asked of them

An account is what is known of a cursor without looking at it: its source, and how many tokens have
been asked of it.

* The account tells what is drawn, in whatever way, and the cursor after it (`Account.draw_cursor`).
* A ledger holds the accounts of a pool of cursors.  Whatever is done with the cursors, the ledger
  tells all replies and all states (`Pool.run?_eq_ledger`): one command does what is entered for it
  (`Ledger.step?_pool`), and so do all commands one after the other (`Ledger.run?_pool`).
-/

namespace Lexis

/-- What a draw gives where there is no token to give. -/
def Draw.nothing : Draw → Drawn
  | .nextToken => .token .endOfInput
  | .next => .token? none
  | .nth _ => .token? none
  | .take _ => .tokens []
  | .collect => .tokens []

/-! ## Accounts -/

/-- A source, and how many tokens have been asked of a cursor on it. -/
structure Account where
  source : Text
  asked : Nat
  deriving DecidableEq, Repr

namespace Account

/-- The cursor on the source from which so many tokens have been taken one by one. -/
def cursor (a : Account) : Cursor :=
  (Cursor.ofText a.source).afterTokens a.asked

/-- The tokens of the source that have not been asked for, without the end of input. -/
def left (a : Account) : List Token :=
  (tokens a.source).dropLast.drop a.asked

/-- How many tokens a draw asks for, whether or not it gets them. -/
def cost (a : Account) : Draw → Nat
  | .nextToken => 1
  | .next => 1
  | .nth n => n + 1
  | .take n => n
  | .collect => a.left.length + 1

/-- What a draw gives: the tokens of the source from the first on that has not been asked for. -/
def drawn (a : Account) : Draw → Drawn
  | .nextToken => .token ((tokens a.source)[a.asked]?.getD .endOfInput)
  | .next => .token? a.left.head?
  | .nth n => .token? a.left[n]?
  | .take n => .tokens (a.left.take n)
  | .collect => .tokens a.left

def after (a : Account) (d : Draw) : Account :=
  { a with asked := a.asked + a.cost d }

/-- Whether all tokens have been asked for that come before the end of input. -/
def IsSpent (a : Account) : Prop :=
  (tokens a.source).dropLast.length ≤ a.asked

theorem left_cursor (a : Account) : a.cursor.left = a.left := by
  rw [cursor, Cursor.left_afterTokens]
  rfl

theorem cursor_after (a : Account) (d : Draw) :
    (a.after d).cursor = a.cursor.afterTokens (a.cost d) := by
  simp [after, cursor, Cursor.afterTokens_add]

/-- Past the last token the list is continued by the end of input. -/
theorem getElem?_tokens_getD (a : Account) :
    (tokens a.source)[a.asked]?.getD .endOfInput = a.left.head?.getD .endOfInput := by
  rw [(reads_tokens a.source).tokens_eq, left, List.head?_drop]
  -- behind the last token there is the end of input at its place in the list, and then nothing
  by_cases hspent : (tokens a.source).dropLast.length ≤ a.asked
  · rw [List.getElem?_append_right hspent, List.getElem?_eq_none hspent]
    cases a.asked - (tokens a.source).dropLast.length <;> rfl
  · rw [List.getElem?_append_left (Nat.lt_of_not_le hspent)]

/-- What is drawn from a cursor, and the cursor after it, are told by its account. -/
theorem draw_cursor (a : Account) (d : Draw) :
    a.cursor.draw d = (a.drawn d, (a.after d).cursor) := by
  rw [cursor_after]
  cases d with
  | nextToken => simp [Cursor.draw, drawn, cost, Cursor.nextToken_eq a.cursor, left_cursor,
      getElem?_tokens_getD]
  | next => simp [Cursor.draw, drawn, cost, Cursor.next?_eq, left_cursor]
  | nth n => simp [Cursor.draw, drawn, cost, Cursor.nth?_eq, left_cursor]
  | take n => simp [Cursor.draw, drawn, cost, Cursor.take_eq, left_cursor]
  | collect => simp [Cursor.draw, drawn, cost, Cursor.collect_eq, left_cursor]

/-! ## Past the last token -/

theorem left_eq_nil_iff (a : Account) : a.left = [] ↔ a.IsSpent := by
  simp [left, IsSpent, List.drop_eq_nil_iff]

theorem IsSpent.after {a : Account} (h : a.IsSpent) (d : Draw) : (a.after d).IsSpent :=
  Nat.le_trans h (Nat.le_add_right a.asked (a.cost d))

/-- Past the last token only the end of input is drawn. -/
theorem IsSpent.drawn_eq {a : Account} (h : a.IsSpent) (d : Draw) : a.drawn d = d.nothing := by
  have hleft : a.left = [] := a.left_eq_nil_iff.2 h
  cases d with
  | nextToken => simp [drawn, Draw.nothing, getElem?_tokens_getD, hleft]
  | next | nth n | take n | collect => simp [drawn, Draw.nothing, hleft]

/-- No token that is left is the end of input. -/
theorem isEndOfInput_of_mem_left {a : Account} {t : Token} (h : t ∈ a.left) :
    t.isEndOfInput = false :=
  ((reads_tokens a.source).lexeme_of_mem t (List.mem_of_mem_drop h)).isEndOfInput_eq_false

/-- After all tokens have been drawn the cursor is past the last character. -/
theorem position_after_collect (a : Account) :
    (a.after .collect).cursor.position = a.source.length := by
  have hahead : (a.after .collect).cursor.ahead = [] := by
    rw [cursor_after]
    apply Cursor.ahead_afterTokens_of_lt
    rw [left_cursor]
    exact Nat.lt_succ_self a.left.length
  have htext : (a.after .collect).cursor.text = a.source := by simp [cursor, after]
  simpa [Cursor.text, Cursor.position, hahead] using congrArg List.length htext

end Account

/-! ## Pools -/

namespace Pool

/-- Performs commands one after the other, as long as each names a cursor of the pool. -/
def run? (pool : Pool) : List Command → Option (List Step)
  | [] => some []
  | command :: rest =>
    match pool.step? command with
    | none => none
    | some step => (step.pool.run? rest).map (step :: ·)

/-- The place of the cursor that a command names, if it names one. -/
def Command.index? : Command → Option Nat
  | .draw index _ => some index
  | .look index => some index
  | .copy index => some index
  | .start _ => none

/-- How many cursors join the pool. -/
def Command.joins : Command → Nat
  | .draw _ _ => 0
  | .look _ => 0
  | .copy _ => 1
  | .start _ => 1

/-- Whether all commands name cursors that are there, if `n` are there before the first of them. -/
def NamesOnly : Nat → List Command → Prop
  | _, [] => True
  | n, command :: rest => (∀ i ∈ command.index?, i < n) ∧ NamesOnly (n + command.joins) rest

end Pool

/-- What is known of the cursors of a pool. -/
abbrev Ledger := List Account

namespace Ledger

open Pool (Command Reply Step)

/-- The pool whose cursors have these accounts. -/
def pool (ledger : Ledger) : Pool :=
  ledger.map Account.cursor

/-- What is known of a command: its reply, the account of the cursor that it used, and the accounts
of all cursors after it. -/
structure Entry where
  reply : Reply
  account : Account
  ledger : Ledger
  deriving DecidableEq, Repr

def Entry.step (e : Entry) : Step :=
  ⟨e.reply, e.account.cursor, e.ledger.pool⟩

def join (ledger : Ledger) (a : Account) : Entry :=
  ⟨.joined ledger.length, a, ledger ++ [a]⟩

/-- Enters a command.  A copy has the account of its original, a new cursor has been asked for no
token yet, and a draw is charged to the cursor that it names and to no other. -/
def enter? (ledger : Ledger) : Command → Option Entry
  | .draw index draw =>
    ledger[index]?.map fun a =>
      ⟨.drawn (a.drawn draw), a.after draw, ledger.set index (a.after draw)⟩
  | .look index => ledger[index]?.map fun a => ⟨.nothing, a, ledger⟩
  | .copy index => ledger[index]?.map ledger.join
  | .start source => some (ledger.join ⟨source, 0⟩)

/-- Enters commands one after the other. -/
def run? (ledger : Ledger) : List Command → Option (List Entry)
  | [] => some []
  | command :: rest =>
    match ledger.enter? command with
    | none => none
    | some entry => (entry.ledger.run? rest).map (entry :: ·)

section

variable (ledger : Ledger) (i : Nat) (a : Account)

theorem getElem?_pool : ledger.pool[i]? = ledger[i]?.map Account.cursor :=
  List.getElem?_map

theorem set_pool : ledger.pool.set i a.cursor = pool (ledger.set i a) :=
  List.map_set.symm

theorem step_join : (ledger.join a).step = ledger.pool.join a.cursor := by
  simp [join, Entry.step, Pool.join, pool]

end

/-- A command does what is entered for it. -/
theorem step?_pool (ledger : Ledger) (command : Command) :
    ledger.pool.step? command = (ledger.enter? command).map Entry.step := by
  cases command with
  | draw i draw =>
    rw [Pool.step?, enter?, getElem?_pool]
    cases ledger[i]? with
    | none => rfl
    | some a => simp [Account.draw_cursor, Entry.step, set_pool]
  | look i =>
    rw [Pool.step?, enter?, getElem?_pool]
    cases ledger[i]? with
    | none => rfl
    | some a => rfl
  | copy i =>
    rw [Pool.step?, enter?, getElem?_pool]
    cases ledger[i]? with
    | none => rfl
    | some a => exact congrArg some (step_join ledger a).symm
  | start source => exact congrArg some (step_join ledger ⟨source, 0⟩).symm

/-- Commands do what is entered for them, one after the other. -/
theorem run?_pool (ledger : Ledger) (commands : List Command) :
    ledger.pool.run? commands = (ledger.run? commands).map (List.map Entry.step) := by
  -- the pool after a command is that of the ledger after it, so the statement is about every ledger
  induction commands generalizing ledger with
  | nil => rfl
  | cons command rest ih =>
    rw [Pool.run?, run?, step?_pool]
    cases ledger.enter? command with
    | none => rfl
    | some entry =>
      have hrest := ih entry.ledger
      simp only [Option.map_some, Entry.step] at hrest ⊢
      rw [hrest]
      cases entry.ledger.run? rest <;> rfl

/-! ## Which commands can be entered -/

theorem isSome_enter?_iff (ledger : Ledger) (command : Command) :
    (ledger.enter? command).isSome = true ↔ ∀ i ∈ command.index?, i < ledger.length := by
  cases command with
  | draw i _ | look i | copy i => simp [enter?, Command.index?]
  | start _ => simp [enter?, Command.index?]

theorem length_of_enter? {ledger : Ledger} {command : Command} {entry : Entry}
    (h : ledger.enter? command = some entry) :
    entry.ledger.length = ledger.length + command.joins := by
  cases command with
  | draw i _ | look i | copy i =>
    rcases Option.map_eq_some_iff.1 h with ⟨a, -, rfl⟩
    simp [Command.joins, join]
  | start _ =>
    rcases Option.some.inj h with rfl
    simp [Command.joins, join]

/-- Commands can be entered exactly if they name cursors that are there. -/
theorem isSome_run?_iff (ledger : Ledger) (commands : List Command) :
    (ledger.run? commands).isSome = true ↔ Pool.NamesOnly ledger.length commands := by
  induction commands generalizing ledger with
  | nil => simp [run?, Pool.NamesOnly]
  | cons command rest ih =>
    rw [run?, Pool.NamesOnly, ← isSome_enter?_iff]
    -- the commands that follow are entered in a ledger that is longer by the cursors that joined
    cases h : ledger.enter? command with
    | none => simp
    | some entry => simp [← length_of_enter? h, ← ih]

end Ledger

/-- Whatever is done with cursors that are opened, copied and drawn from in any order, the ledger
tells: each is where so many calls of `Cursor.nextToken` bring a cursor on its source as tokens have
been asked of it, and each reply is the part of the token list that comes next.  Past the last token
a cursor gives nothing any more, however it is drawn from; only `Cursor.nextToken` ever gives the end
of input; and drawing all tokens leads to the end of the source. -/
theorem Pool.run?_eq_ledger (commands : List Pool.Command) :
    Pool.run? [] commands = (Ledger.run? [] commands).map (List.map Ledger.Entry.step) ∧
      ((Ledger.run? [] commands).isSome = true ↔ Pool.NamesOnly 0 commands) ∧
      ∀ a : Account,
        (a.IsSpent → ∀ d, a.drawn d = d.nothing ∧ (a.after d).IsSpent) ∧
        (∀ t ∈ a.left, t.isEndOfInput = false) ∧
        (∀ n, ∃ ts, a.drawn (.take n) = .tokens ts ∧ ts.length ≤ n) ∧
        (a.after .collect).cursor.position = a.source.length := by
  refine ⟨Ledger.run?_pool [] commands, Ledger.isSome_run?_iff [] commands, fun a => ?_⟩
  refine ⟨fun hspent d => ⟨hspent.drawn_eq d, hspent.after d⟩, ?_, ?_, a.position_after_collect⟩
  · intro t ht
    exact Account.isEndOfInput_of_mem_left ht
  · intro n
    exact ⟨a.left.take n, rfl, List.length_take_le n a.left⟩

end Lexis
