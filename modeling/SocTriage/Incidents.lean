import Mathlib.Data.List.Sort
import SocTriage.Database

/-!
The incident repository: the open incident of a group, creation and attachment, the
lifecycle step of an analyst, and the conditional close of the sweeper. Each write runs
in the caller's unit of work.
-/
namespace SocTriage.Incidents

/-! ### Reads -/

/-- `ORDER BY created_at, incident_id`. -/
def by_created (a b : Incident) : Prop :=
  a.created_at < b.created_at ∨ (a.created_at = b.created_at ∧ a.incident_id ≤ b.incident_id)

/-- `ORDER BY updated_at, incident_id`. -/
def by_updated (a b : Incident) : Prop :=
  a.updated_at < b.updated_at ∨ (a.updated_at = b.updated_at ∧ a.incident_id ≤ b.incident_id)

instance : DecidableRel by_created := fun _ _ => inferInstanceAs (Decidable (_ ∨ _))
instance : DecidableRel by_updated := fun _ _ => inferInstanceAs (Decidable (_ ∨ _))

/-- The oldest open incident of a group. -/
def open_for_group (db : Database) (group_key : String) : Option Incident :=
  ((db.incidents.rows.filter (fun row => row.dedupe_group_key = group_key ∧ row.status = .OPEN)).insertionSort
    by_created).head?

/-- The incident an alert is attached to. -/
def for_alert (db : Database) (alert_id : UUID) : Option Incident :=
  (db.alerts.get alert_id).bind (fun alert => alert.incident_id.bind db.incidents.get)

def list_incidents_eligible_for_auto_close (db : Database) (ttl_seconds : Nat) (as_of : Int) (limit : Nat := 500) :
    List Incident :=
  let cutoff := as_of - seconds ttl_seconds
  ((db.incidents.rows.filter (fun row => !terminal row.status ∧ row.updated_at ≤ cutoff)).insertionSort
    by_updated).take limit

/-! ### Writes -/

/-- The row after a close. -/
def closed (as_of : Int) (row : Incident) : Incident :=
  { row with status := .RESOLVED, updated_at := as_of, resolved_at := some as_of }

/-- One conditional `UPDATE`: the row is closed only in the status and at the activity the caller read. -/
def auto_close_if_stale (db : Database) (incident_id : String) (ttl_seconds : Nat) (as_of : Int)
    (expected_previous_updated_at : Int) (expected_previous_status : IncidentStatus) : Option Incident × Database :=
  let cutoff := as_of - seconds ttl_seconds
  match db.incidents.get incident_id with
  | none => (none, db)
  | some row =>
    if row.status = expected_previous_status ∧ row.updated_at = expected_previous_updated_at ∧
        row.updated_at ≤ cutoff then
      (some (closed as_of row), { db with incidents := db.incidents.modify incident_id (closed as_of) })
    else (none, db)

def linked (incident_id : String) (row : Alert) : Alert := { row with incident_id := some incident_id }

def link_alert (db : Database) (alert_id : UUID) (incident_id : String) : Except Error Database :=
  match db.alerts.get alert_id with
  | none => .error (.lookup ("alert " ++ alert_id ++ " not found"))
  | some _ => .ok { db with alerts := db.alerts.modify alert_id (linked incident_id) }

/-- The row of a new incident. -/
def opened (incident_id : String) (alert_id : UUID) (severity : DecisionSeverity) (dedupe_group_key : String)
    (occurred_at : Int) : Incident where
  incident_id := incident_id
  status := .OPEN
  severity := severity
  primary_alert_id := alert_id
  dedupe_group_key := dedupe_group_key
  created_at := occurred_at
  updated_at := occurred_at

/-- A new open incident for its primary alert, linked to it. -/
def create (db : Database) (alert_id : UUID) (severity : DecisionSeverity) (dedupe_group_key : String)
    (occurred_at : Int) : Except Error (Incident × Database) := do
  match db.alerts.get alert_id with
  | none => .error (.lookup ("alert " ++ alert_id ++ " not found"))
  | some _ =>
    let incident_id ← next_sequence_id "INC" (db.incidents.rows.map Incident.incident_id) occurred_at
    match db.incidents.insertUnique Incident.primary_alert_id
        (opened incident_id alert_id severity dedupe_group_key occurred_at) with
    | none => .error .database
    | some incidents =>
      let db ← link_alert { db with incidents } alert_id incident_id
      return (opened incident_id alert_id severity dedupe_group_key occurred_at, db)

def attach (db : Database) (alert_id : UUID) (incident_id : String) : Except Error Database :=
  match db.incidents.get incident_id with
  | none => .error (.lookup ("incident '" ++ incident_id ++ "' not found"))
  | some _ => link_alert db alert_id incident_id

/-- The row after a step to `target`. -/
def stepped (row : Incident) (target : IncidentStatus) (timestamp : Int) : Incident :=
  { row with
    status := target
    updated_at := timestamp
    acknowledged_at := if target = .ACKNOWLEDGED then some timestamp else row.acknowledged_at
    resolved_at := if target = .RESOLVED ∨ target = .FALSE_POSITIVE then some timestamp else row.resolved_at }

def update_status (db : Database) (incident_id : String) (target : IncidentStatus) (occurred_at : Int) :
    Except Error (Incident × Database) :=
  match db.incidents.get incident_id with
  | none => .error (.lookup ("incident '" ++ incident_id ++ "' not found"))
  | some row =>
    if can_transition row.status target then
      .ok (stepped row target occurred_at,
        { db with incidents := db.incidents.modify incident_id (fun row => stepped row target occurred_at) })
    else .error (.invalid_transition row.status target)

/-! ### What the reads and writes do -/

theorem open_for_group_some {db : Database} {group_key : String} {row : Incident}
    (found : open_for_group db group_key = some row) :
    row ∈ db.incidents.rows ∧ row.dedupe_group_key = group_key ∧ row.status = .OPEN := by
  have member := List.mem_of_head? found
  rw [List.mem_insertionSort, List.mem_filter] at member
  simpa using member

theorem open_for_group_none {db : Database} {group_key : String} :
    open_for_group db group_key = none ↔
      ∀ row ∈ db.incidents.rows, row.dedupe_group_key = group_key → row.status ≠ .OPEN := by
  rw [open_for_group, List.head?_eq_none_iff, ← List.length_eq_zero_iff, List.length_insertionSort,
    List.length_eq_zero_iff, List.filter_eq_nil_iff]
  simp

/-- A conditional close either finds the row as it was read and closes it, or leaves the database as it is. -/
theorem auto_close_cases (db : Database) (incident_id : String) (ttl_seconds : Nat) (as_of previous : Int)
    (status : IncidentStatus) :
    (auto_close_if_stale db incident_id ttl_seconds as_of previous status = (none, db)) ∨
    (∃ row, db.incidents.get incident_id = some row ∧ row.status = status ∧ row.updated_at = previous ∧
      row.updated_at ≤ as_of - seconds ttl_seconds ∧
      auto_close_if_stale db incident_id ttl_seconds as_of previous status =
        (some (closed as_of row), { db with incidents := db.incidents.modify incident_id (closed as_of) })) := by
  rw [auto_close_if_stale]
  cases found : db.incidents.get incident_id with
  | none => exact .inl rfl
  | some row =>
    by_cases stale : row.status = status ∧ row.updated_at = previous ∧ row.updated_at ≤ as_of - seconds ttl_seconds
    · exact .inr ⟨row, rfl, stale.1, stale.2.1, stale.2.2, by simp only [if_pos stale]⟩
    · exact .inl (by simp only [if_neg stale])

theorem link_alert_ok {db db' : Database} {alert_id : UUID} {incident_id : String}
    (done : link_alert db alert_id incident_id = .ok db') :
    (∃ alert, db.alerts.get alert_id = some alert) ∧
      db' = { db with alerts := db.alerts.modify alert_id (linked incident_id) } := by
  rw [link_alert] at done
  cases found : db.alerts.get alert_id with
  | none => simp [found] at done
  | some alert => exact ⟨⟨alert, rfl⟩, by simpa [found] using done.symm⟩

/-- A created incident is new by its id and by its primary alert, and the alert is linked to it. -/
theorem create_ok {db db' : Database} {alert_id : UUID} {severity : DecisionSeverity} {group_key : String}
    {occurred_at : Int} {row : Incident} (created : create db alert_id severity group_key occurred_at = .ok (row, db')) :
    ∃ incident_id alert incidents,
      row = opened incident_id alert_id severity group_key occurred_at ∧
      db.alerts.get alert_id = some alert ∧
      next_sequence_id "INC" (db.incidents.rows.map Incident.incident_id) occurred_at = .ok incident_id ∧
      (∀ old ∈ db.incidents.rows, old.primary_alert_id ≠ alert_id) ∧ db.incidents.insert row = some incidents ∧
      db' = { db with incidents, alerts := db.alerts.modify alert_id (linked incident_id) } := by
  rw [create] at created
  cases found : db.alerts.get alert_id with
  | none => simp [found] at created
  | some alert =>
    rw [found] at created
    obtain ⟨incident_id, numbered, created⟩ := bind_ok.mp created
    split at created
    · contradiction
    · rename_i incidents inserted
      obtain ⟨db'', joined, done⟩ := bind_ok.mp created
      obtain ⟨free, inserted⟩ := Table.insertUnique_eq_some.mp inserted
      obtain ⟨-, rfl⟩ := link_alert_ok joined
      cases done
      exact ⟨incident_id, alert, incidents, rfl, rfl, numbered, free, inserted, rfl⟩

theorem attach_ok {db db' : Database} {alert_id : UUID} {incident_id : String}
    (attached : attach db alert_id incident_id = .ok db') :
    (∃ incident, db.incidents.get incident_id = some incident) ∧
    (∃ alert, db.alerts.get alert_id = some alert) ∧
      db' = { db with alerts := db.alerts.modify alert_id (linked incident_id) } := by
  rw [attach] at attached
  cases found : db.incidents.get incident_id with
  | none => simp [found] at attached
  | some incident => exact ⟨⟨incident, rfl⟩, link_alert_ok (by simpa [found] using attached)⟩

theorem update_status_ok {db db' : Database} {incident_id : String} {target : IncidentStatus} {occurred_at : Int}
    {after : Incident} (updated : update_status db incident_id target occurred_at = .ok (after, db')) :
    ∃ row, db.incidents.get incident_id = some row ∧ can_transition row.status target = true ∧
      after = stepped row target occurred_at ∧
      db' = { db with incidents := db.incidents.modify incident_id (fun row => stepped row target occurred_at) } := by
  rw [update_status] at updated
  cases found : db.incidents.get incident_id with
  | none => simp [found] at updated
  | some row =>
    by_cases allowed : can_transition row.status target = true
    · simp only [found, allowed, ↓reduceIte, Except.ok.injEq, Prod.mk.injEq] at updated
      exact ⟨row, rfl, allowed, updated.1.symm, updated.2.symm⟩
    · simp [found, allowed] at updated

/-! ### When an incident can be created -/

/-- Every incident has a number of the sequence. -/
def Numbered (db : Database) : Prop := ∀ incident ∈ db.incidents.rows, Sequenced "INC" incident.incident_id

/-- The number that follows the day's incidents is not taken. -/
def NextFree (db : Database) (occurred_at : Int) : Prop :=
  ∀ id, next_sequence_id "INC" (db.incidents.rows.map Incident.incident_id) occurred_at = .ok id →
    ∀ incident ∈ db.incidents.rows, incident.incident_id ≠ id

/-- A new incident for an alert is possible. -/
structure Creatable (db : Database) (alert_id : UUID) (occurred_at : Int) : Prop where
  first : ∀ incident ∈ db.incidents.rows, incident.primary_alert_id ≠ alert_id
  numbered : NextFree db occurred_at

section
variable {db : Database} {alert_id : UUID} {alert : Alert}

theorem link_ok (stored : db.alerts.get alert_id = some alert) (incident_id : String) :
    ∃ db', link_alert db alert_id incident_id = .ok db' := by
  rw [link_alert, stored]
  exact ⟨_, rfl⟩

/-- An incident of a stored alert is created exactly when it can be. -/
theorem create_iff (numbered : Numbered db) (stored : db.alerts.get alert_id = some alert)
    (severity : DecisionSeverity) (group_key : String) (occurred_at : Int) :
    (∃ value, create db alert_id severity group_key occurred_at = .ok value) ↔ Creatable db alert_id occurred_at := by
  have sequenced : ∀ id ∈ db.incidents.rows.map Incident.incident_id, Sequenced "INC" id := by
    intro id inside
    obtain ⟨incident, member, rfl⟩ := List.mem_map.mp inside
    exact numbered incident member
  obtain ⟨id, next⟩ := next_sequence_id_ok sequenced occurred_at
  constructor
  · rintro ⟨⟨row, db'⟩, created⟩
    obtain ⟨id', _, incidents, rfl, _, next', first, inserted, _⟩ := create_ok created
    refine ⟨first, ?_⟩
    intro id'' given incident inside same
    rw [next'] at given
    cases given
    have free := Table.insert_fresh inserted
    exact Table.get_eq_none.mp free incident inside same
  · rintro ⟨first, free⟩
    have fresh : db.incidents.get (opened id alert_id severity group_key occurred_at).incident_id = none :=
      Table.get_eq_none.mpr (free id next)
    obtain ⟨incidents, inserted⟩ := Table.insert_of_fresh fresh
    have unique : db.incidents.insertUnique Incident.primary_alert_id (opened id alert_id severity group_key occurred_at) =
        some incidents := Table.insertUnique_eq_some.mpr ⟨first, inserted⟩
    obtain ⟨db', linked⟩ := @link_ok { db with incidents } alert_id alert stored id
    refine ⟨(opened id alert_id severity group_key occurred_at, db'), ?_⟩
    rw [create, stored]
    simp only [next, bind, Except.bind, unique, linked]
    rfl
end

end SocTriage.Incidents
