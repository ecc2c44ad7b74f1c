import SocTriage.Canonical

/-!
The incident lifecycle: the statuses, the explicit table of transitions, the incident
record, and the exceptions the components raise.
-/
namespace SocTriage

inductive IncidentStatus where
  | OPEN | INVESTIGATING | ACKNOWLEDGED | RESOLVED | FALSE_POSITIVE | ESCALATED
deriving DecidableEq, Repr

namespace IncidentStatus

def value : IncidentStatus → String
  | .OPEN => "open"
  | .INVESTIGATING => "investigating"
  | .ACKNOWLEDGED => "acknowledged"
  | .RESOLVED => "resolved"
  | .FALSE_POSITIVE => "false_positive"
  | .ESCALATED => "escalated"

/-- `IncidentStatus(value)`. -/
def of_value : String → Option IncidentStatus
  | "open" => some .OPEN
  | "investigating" => some .INVESTIGATING
  | "acknowledged" => some .ACKNOWLEDGED
  | "resolved" => some .RESOLVED
  | "false_positive" => some .FALSE_POSITIVE
  | "escalated" => some .ESCALATED
  | _ => none

/-- A status is read back from its text. -/
theorem of_value_value (status : IncidentStatus) : of_value status.value = some status := by
  cases status <;> rfl

end IncidentStatus

/-- The targets of each status. -/
def VALID_TRANSITIONS : IncidentStatus → List IncidentStatus
  | .OPEN => [.INVESTIGATING, .ACKNOWLEDGED, .FALSE_POSITIVE, .ESCALATED]
  | .INVESTIGATING => [.ACKNOWLEDGED, .RESOLVED, .ESCALATED, .FALSE_POSITIVE]
  | .ACKNOWLEDGED => [.INVESTIGATING, .RESOLVED, .ESCALATED]
  | .ESCALATED => [.INVESTIGATING, .ACKNOWLEDGED, .RESOLVED, .FALSE_POSITIVE]
  | .RESOLVED => []
  | .FALSE_POSITIVE => []

def TERMINAL_STATUSES : List IncidentStatus := [.RESOLVED, .FALSE_POSITIVE]

/-- `status in TERMINAL_STATUSES`. -/
def terminal (status : IncidentStatus) : Bool := TERMINAL_STATUSES.contains status

def can_transition (current target : IncidentStatus) : Bool := (VALID_TRANSITIONS current).contains target

/-- A status is terminal exactly when it has no outgoing transition. -/
theorem terminal_iff_stuck (status : IncidentStatus) : terminal status = true ↔ VALID_TRANSITIONS status = [] := by
  cases status <;> decide

theorem not_terminal_of_can_transition {current target : IncidentStatus}
    (allowed : can_transition current target = true) : terminal current = false := by
  rw [Bool.eq_false_iff]
  intro closed
  rw [can_transition, (terminal_iff_stuck current).mp closed] at allowed
  cases allowed

/-- No transition leads back to `open`: an incident is open only until its first step. -/
theorem can_transition_not_open {current target : IncidentStatus}
    (allowed : can_transition current target = true) : target ≠ .OPEN := by
  cases current <;> cases target <;> simp_all [can_transition, VALID_TRANSITIONS]

/-- One incident: the row and the domain record alike. The timestamps are UTC. -/
structure Incident where
  incident_id : String
  status : IncidentStatus
  severity : DecisionSeverity
  primary_alert_id : UUID
  dedupe_group_key : String
  created_at : Int
  updated_at : Int
  acknowledged_at : Option Int := none
  resolved_at : Option Int := none
deriving DecidableEq, Repr

/-- The exceptions: `InvalidDedupeInputError`, `LookupError`, `ValueError`,
    `InvalidIncidentTransitionError`, any `SQLAlchemyError`, and `StorageError`. -/
inductive Error where
  | invalid_input (message : String)
  | lookup (message : String)
  | value (message : String)
  | invalid_transition (current target : IncidentStatus)
  | database
  | storage (message : String)
deriving DecidableEq, Repr

/-- `IntegrityError` from a refused insert. -/
def Table.insertOrFail {ρ κ : Type} [DecidableEq κ] {key : ρ → κ} (t : Table key) (r : ρ) :
    Except Error (Table key) :=
  match t.insert r with
  | none => .error .database
  | some t' => .ok t'

theorem Table.insertOrFail_ok {ρ κ : Type} [DecidableEq κ] {key : ρ → κ} {t t' : Table key} {r : ρ} :
    t.insertOrFail r = .ok t' ↔ t.insert r = some t' := by
  rw [Table.insertOrFail]
  cases t.insert r <;> simp

/-- What a successful sequence of two steps did. -/
theorem bind_ok {ε α β : Type} {x : Except ε α} {f : α → Except ε β} {b : β} :
    (x >>= f) = .ok b ↔ ∃ a, x = .ok a ∧ f a = .ok b := by
  cases x with
  | error e => simp [bind, Except.bind]
  | ok a => simp [bind, Except.bind]

/-- A computation whose exceptions all satisfy `p`. -/
def Raises {α : Type} (p : Error → Prop) (x : Except Error α) : Prop := ∀ e, x = .error e → p e

theorem raises_ok {α : Type} {p : Error → Prop} (a : α) : Raises p (.ok a) := by
  intro e same; contradiction

theorem raises_bind {α β : Type} {p : Error → Prop} {x : Except Error α} {f : α → Except Error β}
    (first : Raises p x) (second : ∀ a, x = .ok a → Raises p (f a)) : Raises p (x >>= f) := by
  intro e failed
  cases x with
  | error e' => cases failed; exact first _ rfl
  | ok a => exact second a rfl e failed

theorem raises_insertOrFail {ρ κ : Type} [DecidableEq κ] {key : ρ → κ} (t : Table key) (r : ρ) :
    Raises (· = .database) (t.insertOrFail r) := by
  intro e failed
  rw [Table.insertOrFail] at failed
  split at failed
  · cases failed; rfl
  · contradiction

end SocTriage
