import Mathlib.Data.List.Basic

/-!
Runs of a total step function over a list of events, with an optional output at each
step. A step that is not enabled, or that is rolled back, leaves the state as it is.
A statement about every run is a statement about every reachable state, since each
prefix of a run is a run.
-/
namespace SocTriage.Runs
variable {σ τ ε ο ο' : Type}

/-- The state a run ends in. -/
def run (step : σ → ε → σ) : σ → List ε → σ
  | s, [] => s
  | s, e :: rest => run step (step s e) rest

/-- `ok` of every state the run passes and the event it takes there. -/
def Along (step : σ → ε → σ) (ok : σ → ε → Prop) : σ → List ε → Prop
  | _, [] => True
  | s, e :: rest => ok s e ∧ Along step ok (step s e) rest

def decideAlong (step : σ → ε → σ) (ok : σ → ε → Prop) [∀ s e, Decidable (ok s e)] :
    ∀ s events, Decidable (Along step ok s events)
  | _, [] => isTrue trivial
  | s, e :: rest => @instDecidableAnd _ _ _ (decideAlong step ok (step s e) rest)

instance (step : σ → ε → σ) (ok : σ → ε → Prop) [∀ s e, Decidable (ok s e)] (s : σ) (events : List ε) :
    Decidable (Along step ok s events) := decideAlong step ok s events

/-- The outputs of a run, oldest first, and the state it ends in. -/
def trace (step : σ → ε → ο × σ) : σ → List ε → List ο × σ
  | s, [] => ([], s)
  | s, e :: rest =>
    let (output, next) := step s e
    let (outputs, last) := trace step next rest
    (output :: outputs, last)

theorem run_append (step : σ → ε → σ) (s : σ) (first second : List ε) :
    run step s (first ++ second) = run step (run step s first) second := by
  induction first generalizing s with
  | nil => rfl
  | cons e rest ih => exact ih (step s e)

/-- The condition holds along every prefix of a run it holds along. -/
theorem along_append {step : σ → ε → σ} {ok : σ → ε → Prop} {s : σ} {first second : List ε} :
    Along step ok s (first ++ second) ↔ Along step ok s first ∧ Along step ok (run step s first) second := by
  induction first generalizing s with
  | nil => simp [Along, run]
  | cons e rest ih => simp only [List.cons_append, Along, run, ih, and_assoc]

/-- The condition holds along a run exactly when it holds at each of its steps. -/
theorem along_iff {step : σ → ε → σ} {ok : σ → ε → Prop} {s : σ} {events : List ε} :
    Along step ok s events ↔ ∀ first e rest, events = first ++ e :: rest → ok (run step s first) e := by
  constructor
  · rintro permitted first e rest rfl
    exact (along_append.mp permitted).2.1
  · intro each
    induction events generalizing s with
    | nil => trivial
    | cons e rest ih =>
      refine ⟨each [] e rest rfl, ih ?_⟩
      intro first e' rest' split
      exact each (e :: first) e' rest' (congrArg (e :: ·) split)

theorem along_of_forall {step : σ → ε → σ} {ok : σ → ε → Prop} (always : ∀ s e, ok s e) :
    ∀ (s : σ) (events : List ε), Along step ok s events
  | _, [] => trivial
  | s, e :: rest => ⟨always s e, along_of_forall always (step s e) rest⟩

theorem along_imp {step : σ → ε → σ} {ok ok' : σ → ε → Prop} (weaker : ∀ s e, ok s e → ok' s e) :
    ∀ {s : σ} {events : List ε}, Along step ok s events → Along step ok' s events
  | _, [], _ => trivial
  | s, e :: _, permitted => ⟨weaker s e permitted.1, along_imp weaker permitted.2⟩

/-- Two conditions that agree at each state of an invariant they keep hold along the same runs. -/
theorem along_congr {step : σ → ε → σ} {ok ok' : σ → ε → Prop} {Inv : σ → Prop}
    (same : ∀ s e, Inv s → (ok s e ↔ ok' s e)) (keeps : ∀ s e, Inv s → ok s e → Inv (step s e))
    {s : σ} {events : List ε} (init : Inv s) : Along step ok s events ↔ Along step ok' s events := by
  induction events generalizing s with
  | nil => exact Iff.rfl
  | cons e rest ih =>
    constructor
    · rintro ⟨now, later⟩
      exact ⟨(same s e init).mp now, (ih (keeps s e init now)).mp later⟩
    · rintro ⟨now, later⟩
      have first := (same s e init).mpr now
      exact ⟨first, (ih (keeps s e init first)).mpr later⟩

/-- What every permitted step keeps holds at the end of a permitted run. -/
theorem invariant_along {step : σ → ε → σ} {ok : σ → ε → Prop} {Inv : σ → Prop}
    (keeps : ∀ s e, Inv s → ok s e → Inv (step s e)) {s : σ} {events : List ε} (init : Inv s)
    (permitted : Along step ok s events) : Inv (run step s events) := by
  induction events generalizing s with
  | nil => exact init
  | cons e rest ih => exact ih (keeps s e init permitted.1) permitted.2

/-- What every step keeps holds at the end of every run. -/
theorem invariant {step : σ → ε → σ} {Inv : σ → Prop} (keeps : ∀ s e, Inv s → Inv (step s e))
    {s : σ} (init : Inv s) (events : List ε) : Inv (run step s events) := by
  have permitted : Along step (fun _ _ => True) s events := along_of_forall (fun _ _ => trivial) s events
  exact invariant_along (fun s e holds _ => keeps s e holds) init permitted

/-- What a step can only lose, and loses exactly when it is not permitted, is left exactly by the permitted runs. -/
theorem run_iff_along {step : σ → ε → σ} {ok : σ → ε → Prop} {Inv Holds : σ → Prop}
    (keeps : ∀ s e, Inv s → Inv (step s e)) (loses : ∀ s e, Inv s → (Holds (step s e) ↔ Holds s ∧ ok s e))
    {s : σ} {events : List ε} (init : Inv s) : Holds (run step s events) ↔ Holds s ∧ Along step ok s events := by
  induction events generalizing s with
  | nil => exact iff_of_eq (and_true (Holds s)).symm
  | cons e rest ih =>
    show Holds (run step (step s e) rest) ↔ Holds s ∧ ok s e ∧ Along step ok (step s e) rest
    rw [ih (keeps s e init), loses s e init, and_assoc]

/-- A reflexive and transitive relation that every permitted step from a state of the
    invariant respects holds between the ends of a permitted run. -/
theorem related_along {step : σ → ε → σ} {ok : σ → ε → Prop} {Inv : σ → Prop} {Rel : σ → σ → Prop}
    (refl : ∀ s, Rel s s) (compose : ∀ {a b c}, Rel a b → Rel b c → Rel a c)
    (keeps : ∀ s e, Inv s → ok s e → Inv (step s e)) (respects : ∀ s e, Inv s → ok s e → Rel s (step s e))
    {s : σ} {events : List ε} (init : Inv s) (permitted : Along step ok s events) :
    Rel s (run step s events) := by
  induction events generalizing s with
  | nil => exact refl s
  | cons e rest ih =>
    exact compose (respects s e init permitted.1) (ih (keeps s e init permitted.1) permitted.2)

/-- A reflexive and transitive relation that each event of a run respects in every state holds between its ends. -/
theorem related {step : σ → ε → σ} {Rel : σ → σ → Prop} (refl : ∀ s, Rel s s)
    (compose : ∀ {a b c}, Rel a b → Rel b c → Rel a c) {events : List ε} (respects : ∀ e ∈ events, ∀ s, Rel s (step s e))
    (s : σ) : Rel s (run step s events) := by
  induction events generalizing s with
  | nil => exact refl s
  | cons e rest ih =>
    rw [List.forall_mem_cons] at respects
    exact compose (respects.1 s) (ih respects.2 (step s e))

/-- Two machines in lockstep: a relation that also sees the events still to come, kept
    by every step with related outputs, relates the ends of the runs and their outputs. -/
theorem lockstep {step : σ → ε → ο × σ} {step' : τ → ε → ο' × τ} {Out : ο → ο' → Prop}
    {Rel : List ε → σ → τ → Prop}
    (keeps : ∀ e rest s t, Rel (e :: rest) s t →
      Out (step s e).1 (step' t e).1 ∧ Rel rest (step s e).2 (step' t e).2)
    {s : σ} {t : τ} {events : List ε} (init : Rel events s t) :
    List.Forall₂ Out (trace step s events).1 (trace step' t events).1 ∧
      Rel [] (trace step s events).2 (trace step' t events).2 := by
  induction events generalizing s t with
  | nil => exact ⟨.nil, init⟩
  | cons e rest ih =>
    obtain ⟨output, related⟩ := keeps e rest s t init
    obtain ⟨outputs, last⟩ := ih related
    exact ⟨.cons output outputs, last⟩

end SocTriage.Runs
