import Mathlib.Logic.Function.Basic
import SocTriage.Runs

/-!
Interleavings of operations on a shared state. An operation advances by one atomic
statement at a time and keeps what its reads answered to itself, so between two of its
statements any others may run. An outline gives an invariant of the shared state, what
each operation in progress knows of it, and what every step guarantees to the others.
-/
namespace SocTriage.Interleaving
variable {σ ω ρ μ : Type}

/-- What runs at once, how a request starts, and the next statement of an operation in
    progress; the flag is a failure of the storage at that statement. -/
structure Machine (σ ω ρ μ : Type) where
  alone : ω → σ → σ
  launch : ρ → μ
  advance : Bool → μ → σ → σ × Option μ

inductive Event (ω ρ : Type) where
  | alone (whole : ω)
  | launch (op : Nat) (request : ρ)
  | advance (op : Nat) (fault : Bool)

/-- The committed state, and the operations in progress. -/
structure Config (σ μ : Type) where
  shared : σ
  progress : Nat → Option μ := fun _ => none

def step (machine : Machine σ ω ρ μ) (config : Config σ μ) : Event ω ρ → Config σ μ
  | .alone whole => { config with shared := machine.alone whole config.shared }
  | .launch op request =>
    match config.progress op with
    | some _ => config
    | none => { config with progress := Function.update config.progress op (some (machine.launch request)) }
  | .advance op fault =>
    match config.progress op with
    | none => config
    | some at_point =>
      { shared := (machine.advance fault at_point config.shared).1
        progress := Function.update config.progress op (machine.advance fault at_point config.shared).2 }

/-- The proof obligations of an interleaving: what holds between statements, what an operation in progress
    relies on, and what each permitted step guarantees. -/
structure Outline (machine : Machine σ ω ρ μ) (permitted : Config σ μ → Event ω ρ → Prop) where
  Inv : σ → Prop
  Relies : σ → μ → Prop
  Guarantees : σ → σ → Prop
  refl : ∀ s, Guarantees s s
  trans : ∀ {s t u}, Guarantees s t → Guarantees t u → Guarantees s u
  stable : ∀ {s t at_point}, Guarantees s t → Relies s at_point → Relies t at_point
  launch : ∀ s request, Inv s → Relies s (machine.launch request)
  alone : ∀ config whole, permitted config (.alone whole) → Inv config.shared →
    Guarantees config.shared (machine.alone whole config.shared) ∧ Inv (machine.alone whole config.shared)
  advance : ∀ config op fault at_point, config.progress op = some at_point → permitted config (.advance op fault) →
    Inv config.shared → Relies config.shared at_point →
    Guarantees config.shared (machine.advance fault at_point config.shared).1 ∧
    Inv (machine.advance fault at_point config.shared).1 ∧
    ∀ next, (machine.advance fault at_point config.shared).2 = some next →
      Relies (machine.advance fault at_point config.shared).1 next

namespace Outline
variable {machine : Machine σ ω ρ μ} {permitted : Config σ μ → Event ω ρ → Prop}

/-- The invariant, and what every operation in progress relies on. -/
def Holds (outline : Outline machine permitted) (config : Config σ μ) : Prop :=
  outline.Inv config.shared ∧ ∀ op at_point, config.progress op = some at_point → outline.Relies config.shared at_point

/-- The operation that moved relies on what it says, every other one on what it did before. -/
private theorem relies_update (outline : Outline machine permitted) {s t : σ} {progress : Nat → Option μ} {op : Nat}
    {rest : Option μ} (guaranteed : outline.Guarantees s t)
    (relies : ∀ other at_point, progress other = some at_point → outline.Relies s at_point)
    (next : ∀ at_point, rest = some at_point → outline.Relies t at_point) :
    ∀ other at_point, Function.update progress op rest other = some at_point → outline.Relies t at_point := by
  intro other at_point running
  by_cases mine : other = op
  · subst mine
    rw [Function.update_self] at running
    exact next at_point running
  · rw [Function.update_of_ne mine] at running
    exact outline.stable guaranteed (relies other at_point running)

theorem step_holds (outline : Outline machine permitted) (config : Config σ μ) (event : Event ω ρ)
    (holds : outline.Holds config) (allowed : permitted config event) :
    outline.Guarantees config.shared (step machine config event).shared ∧ outline.Holds (step machine config event) := by
  obtain ⟨inv, relies⟩ := holds
  cases event with
  | alone whole =>
    obtain ⟨guaranteed, after⟩ := outline.alone config whole allowed inv
    exact ⟨guaranteed, after, fun op at_point running => outline.stable guaranteed (relies op at_point running)⟩
  | launch op request =>
    rw [step]
    split
    · exact ⟨outline.refl _, inv, relies⟩
    · refine ⟨outline.refl _, inv, outline.relies_update (outline.refl _) relies ?_⟩
      intro at_point started
      cases started
      exact outline.launch _ request inv
  | advance op fault =>
    rw [step]
    split
    · exact ⟨outline.refl _, inv, relies⟩
    · rename_i at_point running
      obtain ⟨guaranteed, after, next⟩ :=
        outline.advance config op fault at_point running allowed inv (relies op at_point running)
      exact ⟨guaranteed, after, outline.relies_update guaranteed relies next⟩

/-- A permitted run keeps the invariant, and its ends are related by the guarantee. -/
theorem sound (outline : Outline machine permitted) {config : Config σ μ} {events : List (Event ω ρ)}
    (holds : outline.Holds config) (allowed : Runs.Along (step machine) permitted config events) :
    outline.Guarantees config.shared (Runs.run (step machine) config events).shared ∧
      outline.Holds (Runs.run (step machine) config events) := by
  have keeps : ∀ config event, outline.Holds config → permitted config event → outline.Holds (step machine config event) :=
    fun config event holds allowed => (outline.step_holds config event holds allowed).2
  have respects : ∀ config event, outline.Holds config → permitted config event →
      outline.Guarantees config.shared (step machine config event).shared :=
    fun config event holds allowed => (outline.step_holds config event holds allowed).1
  refine ⟨?_, Runs.invariant_along keeps holds allowed⟩
  exact @Runs.related_along _ _ _ _ _ (fun a b => outline.Guarantees a.shared b.shared)
    (fun config => outline.refl config.shared) outline.trans keeps respects config events holds allowed

end Outline

end SocTriage.Interleaving
