import Mathlib.Data.List.Basic
import Mathlib.Tactic.Common

/-!
Programs of durable statements. A program passes one state after each statement and ends
with a value or an error; an interruption leaves the last state it passed, whatever was
still to come. What is read of a state between two statements is read of the state then.
-/
namespace SocTriage.Durable
variable {σ ε α β : Type}

/-- The states passed from a state on, one after each statement, and the result. -/
structure Program (σ ε α : Type) where
  run : σ → List σ × Except ε α

/-- The state after the passed ones. -/
def after (s : σ) (passed : List σ) : σ := passed.getLast?.getD s

namespace Program

protected def pure (a : α) : Program σ ε α := ⟨fun _ => ([], .ok a)⟩

protected def bind (first : Program σ ε α) (rest : α → Program σ ε β) : Program σ ε β := ⟨fun s =>
  match (first.run s).2 with
  | .error e => ((first.run s).1, .error e)
  | .ok a =>
    let later := (rest a).run (after s (first.run s).1)
    ((first.run s).1 ++ later.1, later.2)⟩

instance : Monad (Program σ ε) where
  pure := Program.pure
  bind := Program.bind

/-- What there is to read of the state. -/
def inspect (read : σ → α) : Program σ ε α := ⟨fun s => ([], .ok (read s))⟩

def raise (e : ε) : Program σ ε α := ⟨fun _ => ([], .error e)⟩

/-- One statement. It has no effect where it fails. -/
def statement (execute : σ → Except ε σ) : Program σ ε Unit := ⟨fun s =>
  match execute s with
  | .error e => ([], .error e)
  | .ok s' => ([s'], .ok ())⟩

/-- A loop. -/
def each (body : β → Program σ ε Unit) : List β → Program σ ε Unit
  | [] => pure ()
  | x :: rest => do
    body x
    each body rest

/-- `try: body finally: last`. -/
def always (body last : Program σ ε Unit) : Program σ ε Unit := ⟨fun s =>
  let ended := last.run (after s (body.run s).1)
  ((body.run s).1 ++ ended.1, match ended.2 with
    | .error e => .error e
    | .ok _ => (body.run s).2)⟩

/-- `try: body except BaseException: handler; raise`, with what the handler raises suppressed. -/
def on_error (body handler : Program σ ε Unit) : Program σ ε Unit := ⟨fun s =>
  match (body.run s).2 with
  | .ok _ => body.run s
  | .error e => ((body.run s).1 ++ (handler.run (after s (body.run s).1)).1, .error e)⟩

/-- The state that an interruption after some statements leaves. -/
def interrupted (program : Program σ ε α) (s : σ) (statements : Nat) : σ := after s ((program.run s).1.take statements)

/-- The state that is left at the end. -/
def final (program : Program σ ε α) (s : σ) : σ := after s (program.run s).1

end Program
open Program

/-! ### The states that are passed -/

@[simp] theorem after_nil (s : σ) : after s [] = s := rfl

@[simp] theorem after_singleton (s t : σ) : after s [t] = t := rfl

@[simp] theorem after_append_cons (s t : σ) (passed later : List σ) : after s (passed ++ t :: later) = after t later := by
  unfold after
  rw [List.getLast?_append, List.getLast?_cons]
  rfl

theorem after_cons (s t : σ) (later : List σ) : after s (t :: later) = after t later := after_append_cons s t [] later

theorem bind_of_error {first : Program σ ε α} {rest : α → Program σ ε β} {s : σ} {passed : List σ} {e : ε}
    (failed : first.run s = (passed, .error e)) : (first >>= rest).run s = (passed, .error e) := by
  show (Program.bind first rest).run s = _
  unfold Program.bind
  dsimp only
  rw [failed]

/-- Two programs one after the other pass the states of both. -/
theorem bind_passes {first : Program σ ε α} {rest : α → Program σ ε β} {s t : σ} {passed later : List σ} {a : α}
    {result : Except ε β} (done : first.run s = (passed, .ok a)) (there : after s passed = t)
    (goes_on : (rest a).run t = (later, result)) : (first >>= rest).run s = (passed ++ later, result) := by
  show (Program.bind first rest).run s = _
  unfold Program.bind
  dsimp only
  rw [done]
  dsimp only
  rw [there, goes_on]

/-- What passes no state leaves the rest as it is. -/
theorem bind_silent {first : Program σ ε α} {rest : α → Program σ ε β} {s : σ} {a : α} (done : first.run s = ([], .ok a)) :
    (first >>= rest).run s = (rest a).run s :=
  bind_passes done rfl rfl

theorem inspect_bind (read : σ → α) (rest : α → Program σ ε β) (s : σ) :
    ((inspect read : Program σ ε α) >>= rest).run s = (rest (read s)).run s := rfl

theorem pure_bind (a : α) (rest : α → Program σ ε β) (s : σ) :
    ((pure a : Program σ ε α) >>= rest).run s = (rest a).run s := rfl

theorem statement_ok {execute : σ → Except ε σ} {s t : σ} (done : execute s = .ok t) :
    (statement execute : Program σ ε Unit).run s = ([t], .ok ()) := by
  unfold statement
  dsimp only
  rw [done]

/-- The first of some statements takes its step. -/
theorem statement_bind {execute : σ → Except ε σ} {rest : Unit → Program σ ε α} {s t : σ} {later : List σ}
    {result : Except ε α} (done : execute s = .ok t) (goes_on : (rest ()).run t = (later, result)) :
    (statement execute >>= rest).run s = (t :: later, result) :=
  bind_passes (statement_ok done) (after_singleton s t) goes_on

theorem always_passes {body last : Program σ ε Unit} {s t : σ} {passed later : List σ} {result : Except ε Unit}
    (done : body.run s = (passed, result)) (there : after s passed = t) (ends : last.run t = (later, .ok ())) :
    (always body last).run s = (passed ++ later, result) := by
  unfold always
  dsimp only
  rw [done]
  dsimp only
  rw [there, ends]

/-- What does not raise is not handled. -/
theorem on_error_passes {body handler : Program σ ε Unit} {s : σ} {passed : List σ} (done : body.run s = (passed, .ok ())) :
    (on_error body handler).run s = (passed, .ok ()) := by
  unfold on_error
  dsimp only
  rw [done]

/-- A loop over what is chosen of a list. -/
theorem each_filter (body : β → Program σ ε Unit) (chosen : β → Bool) (xs : List β) (s : σ) :
    (each (fun x => if chosen x then body x else pure ()) xs).run s = (each body (xs.filter chosen)).run s := by
  induction xs generalizing s with
  | nil => rfl
  | cons x rest ih =>
    rw [each, List.filter_cons]
    by_cases here : chosen x = true
    · rw [if_pos here, if_pos here, each]
      show (Program.bind (body x) _).run s = (Program.bind (body x) _).run s
      unfold Program.bind
      dsimp only
      rw [ih]
    · rw [if_neg here, if_neg here]
      rw [pure_bind]
      exact ih s

/-- A loop of one statement for each element passes the states of a sequence in which each statement takes the next step. -/
theorem each_passes {execute : β → σ → Except ε σ} {xs : List β} (states : Nat → σ)
    (steps : ∀ n x, xs[n]? = some x → execute x (states n) = .ok (states (n + 1))) :
    (each (fun x => statement (execute x)) xs).run (states 0) =
      ((List.range xs.length).map (fun n => states (n + 1)), .ok ()) := by
  induction xs generalizing states with
  | nil => rfl
  | cons x rest ih =>
    have later := ih (fun n => states (n + 1)) (fun n y found => steps (n + 1) y found)
    rw [each]
    refine (statement_bind (steps 0 x rfl) later).trans ?_
    rw [List.length_cons, List.range_succ_eq_map, List.map_cons, List.map_map]
    rfl

theorem after_states (states : Nat → σ) (n : Nat) :
    after (states 0) ((List.range n).map (fun k => states (k + 1))) = states n := by
  cases n with
  | zero => rfl
  | succ n =>
    rw [List.range_succ, List.map_append]
    exact after_append_cons ..

/-- An interruption leaves the state it starts from or one that is passed. -/
theorem after_take_mem (s : σ) (passed : List σ) (statements : Nat) : after s (passed.take statements) ∈ s :: passed := by
  unfold after
  cases found : (passed.take statements).getLast? with
  | none => exact List.mem_cons_self
  | some t => exact List.mem_cons_of_mem s (List.mem_of_mem_take (List.mem_of_getLast? found))

/-- An interruption leaves the state it starts from, the state of the last statement that came to pass, or the last of all. -/
theorem after_take_cases (s : σ) (passed : List σ) (statements : Nat) :
    after s (passed.take statements) = s ∧ (statements = 0 ∨ passed = []) ∨
    ∃ last, passed[last]? = some (after s (passed.take statements)) ∧
      (statements = last + 1 ∨ passed.length = last + 1 ∧ passed.length ≤ statements) := by
  cases found : (passed.take statements).getLast? with
  | none =>
    have empty := List.getLast?_eq_none_iff.mp found
    refine .inl ⟨by rw [empty, after_nil], ?_⟩
    rcases List.take_eq_nil_iff.mp empty with none | none
    · exact .inl none
    · exact .inr none
  | some t =>
    have left : after s (passed.take statements) = t := by rw [after, found, Option.getD_some]
    rw [List.getLast?_eq_getElem?, List.length_take, List.getElem?_take] at found
    refine .inr ⟨min statements passed.length - 1, ?_⟩
    rw [left]
    split at found
    · refine ⟨found, ?_⟩
      have := (List.getElem?_eq_some_iff.mp found).1
      omega
    · cases found

end SocTriage.Durable
