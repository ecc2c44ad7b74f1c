import SocTriage.Incidents

/-!
Persistence of an assessment: the payload of the alert of record, the audit rows of the
score and the decision, and the incident the alert opens or joins, in one unit of work.
`fault` is a failure of the storage at any statement of it or at its commit.
-/
namespace SocTriage.Assessment
open Audit Incidents

/-- The arguments of one `persist_assessment` call. -/
structure Request where
  alert_id : UUID
  canonical : CanonicalAlert
  risk : RiskAssessment
  decision : Decision
  dedupe_group_key : String
  occurred_at : Int
  previous_risk : Option RiskAssessment := none
  previous_decision : Option Decision := none

structure AssessmentPersistResult where
  incident_id : Option String
  persisted : Bool
deriving DecidableEq, Repr

/-- The alert row with another payload. -/
def rewritten (canonical : CanonicalAlert) (row : Alert) : Alert := { row with normalized_payload := canonical }

def update_normalized_payload (db : Database) (alert_id : UUID) (canonical : CanonicalAlert) : Except Error Database :=
  match db.alerts.get alert_id with
  | none => .error (.lookup ("alert " ++ alert_id ++ " not found"))
  | some _ => .ok { db with alerts := db.alerts.modify alert_id (rewritten canonical) }

/-- The incident part of the unit of work: create when the group has no open incident, else attach. -/
def open_or_attach (request : Request) (db : Database) : Except Error (Option String × Database) :=
  match open_for_group db request.dedupe_group_key with
  | none =>
    match request.decision.severity with
    | none => .error (.value "open_incident decision is missing a severity")
    | some severity => do
      let (incident, db) ← create db request.alert_id severity request.dedupe_group_key request.occurred_at
      return (some incident.incident_id, db.append (audit_entries_for_incident incident) request.occurred_at)
  | some existing => do
    let db ← attach db request.alert_id existing.incident_id
    return (some existing.incident_id, db)

/-- The unit of work. -/
def assess (request : Request) (db : Database) : Except Error (Option String × Database) := do
  let db ← update_normalized_payload db request.alert_id request.canonical
  let db := db.append (audit_entries_for_assessment request.alert_id request.risk request.decision
    request.previous_risk request.previous_decision) request.occurred_at
  if request.decision.action = .OPEN_INCIDENT then open_or_attach request db else return (none, db)

def persist_assessment (request : Request) (fault : Bool) (db : Database) :
    Except Error AssessmentPersistResult × Database :=
  match db.session_scope (fun db => if fault then .error .database else assess request db) with
  | (.ok incident_id, db) => (.ok ⟨incident_id, true⟩, db)
  | (.error .database, db) => (.ok ⟨none, false⟩, db)
  | (.error e, db) => (.error e, db)

/-! ### What a call does -/

/-- The database after the payload and the audit rows of the assessment are written. -/
def scored (request : Request) (db : Database) : Database :=
  { db with alerts := db.alerts.modify request.alert_id (rewritten request.canonical) }.append
    (audit_entries_for_assessment request.alert_id request.risk request.decision request.previous_risk
      request.previous_decision) request.occurred_at

/-- The three ways a unit of work commits: no incident asked for, a new incident, or the open one of the group. -/
inductive Committed (request : Request) (db : Database) : Option String → Database → Prop
  | routed (other : request.decision.action ≠ .OPEN_INCIDENT) : Committed request db none (scored request db)
  | created (asked : request.decision.action = .OPEN_INCIDENT) {severity : DecisionSeverity} {incident : Incident}
      {db' : Database} (none_open : open_for_group (scored request db) request.dedupe_group_key = none)
      (new : create (scored request db) request.alert_id severity request.dedupe_group_key request.occurred_at =
        .ok (incident, db')) :
      Committed request db (some incident.incident_id) (db'.append (audit_entries_for_incident incident) request.occurred_at)
  | attached (asked : request.decision.action = .OPEN_INCIDENT) {existing : Incident} {db' : Database}
      (oldest : open_for_group (scored request db) request.dedupe_group_key = some existing)
      (joined : attach (scored request db) request.alert_id existing.incident_id = .ok db') :
      Committed request db (some existing.incident_id) db'

theorem assess_ok {request : Request} {db db' : Database} {incident_id : Option String}
    (executed : assess request db = .ok (incident_id, db')) :
    (∃ alert, db.alerts.get request.alert_id = some alert) ∧ Committed request db incident_id db' := by
  obtain ⟨updated, written, executed⟩ := bind_ok.mp executed
  rw [update_normalized_payload] at written
  cases found : db.alerts.get request.alert_id with
  | none => simp [found] at written
  | some alert =>
    simp only [found, Except.ok.injEq] at written
    subst written
    refine ⟨⟨alert, rfl⟩, ?_⟩
    by_cases asked : request.decision.action = .OPEN_INCIDENT
    · rw [if_pos asked, open_or_attach] at executed
      split at executed
      · rename_i none_open
        split at executed
        · contradiction
        · obtain ⟨⟨incident, after⟩, new, done⟩ := bind_ok.mp executed
          cases done
          exact .created asked none_open new
      · rename_i existing oldest
        obtain ⟨after, joined, done⟩ := bind_ok.mp executed
        cases done
        exact .attached asked oldest joined
    · rw [if_neg asked] at executed
      cases executed
      exact .routed asked

/-- A call commits its whole unit of work and says so, or leaves the database as it was. -/
theorem persist_assessment_cases (request : Request) (fault : Bool) (db : Database) :
    (∃ incident_id db', persist_assessment request fault db = (.ok ⟨incident_id, true⟩, db') ∧ fault = false ∧
      assess request db = .ok (incident_id, db')) ∨
    (∃ result, persist_assessment request fault db = (result, db) ∧ ∀ id, result ≠ .ok ⟨id, true⟩) := by
  cases fault with
  | true => exact .inr ⟨.ok ⟨none, false⟩, rfl, by intro id same; simp at same⟩
  | false =>
    rw [persist_assessment]
    simp only [Bool.false_eq_true, ↓reduceIte]
    cases executed : assess request db with
    | ok value =>
      obtain ⟨incident_id, db'⟩ := value
      rw [Database.session_scope_ok executed]
      exact .inl ⟨incident_id, db', rfl, trivial, rfl⟩
    | error e =>
      rw [Database.session_scope_error executed]
      right
      cases e with
      | database => exact ⟨_, rfl, by intro id same; simp at same⟩
      | invalid_input | lookup | value | invalid_transition | storage => exact ⟨_, rfl, by simp⟩

/-- What a call leaves when the storage works. -/
theorem persist_assessment_database (request : Request) (db : Database) :
    (persist_assessment request false db).2 =
      match assess request db with
      | .ok (_, after) => after
      | .error _ => db := by
  rw [persist_assessment]
  simp only [Bool.false_eq_true, ↓reduceIte]
  cases executed : assess request db with
  | ok value => rw [Database.session_scope_ok executed]
  | error e => rw [Database.session_scope_error executed]; cases e <;> rfl

/-! ### Frames -/

/-- The alert row after an assessment that ended on `incident_id`. -/
def assessed_row (request : Request) (incident_id : Option String) (row : Alert) : Alert :=
  { row with normalized_payload := request.canonical, incident_id := incident_id.or row.incident_id }

/-- An assessment changes the payload and the link of its own alert row, and no other alert. -/
theorem Committed.alerts {request : Request} {db db' : Database} {incident_id : Option String}
    (committed : Committed request db incident_id db') (alert_id : UUID) :
    db'.alerts.get alert_id = if alert_id = request.alert_id then
      (db.alerts.get request.alert_id).map (assessed_row request incident_id) else db.alerts.get alert_id := by
  have written : (scored request db).alerts.get alert_id = if alert_id = request.alert_id then
      (db.alerts.get request.alert_id).map (rewritten request.canonical) else db.alerts.get alert_id :=
    Table.get_modify db.alerts request.alert_id (rewritten request.canonical) (fun _ => Eq.trans rfl rfl) alert_id
  have relinked : ∀ id, ((scored request db).alerts.modify request.alert_id (linked id)).get alert_id =
      if alert_id = request.alert_id then (db.alerts.get request.alert_id).map (assessed_row request (some id))
      else db.alerts.get alert_id := by
    intro id
    rw [Table.get_modify, written]
    by_cases mine : alert_id = request.alert_id
    · subst mine
      rw [if_pos rfl, if_pos rfl, written, if_pos rfl, Option.map_map]
      rfl
    · rw [if_neg mine, if_neg mine, if_neg mine]
  cases committed with
  | routed other =>
    rw [written]
    split
    · cases db.alerts.get request.alert_id with
      | none => rfl
      | some row => rfl
    · rfl
  | created asked none_open new =>
    obtain ⟨id, _, _, rfl, _, _, _, _, rfl⟩ := create_ok new
    exact relinked id
  | attached asked oldest joined =>
    obtain ⟨_, _, rfl⟩ := attach_ok joined
    exact relinked _

/-- An assessment appends its two rows, and the row of an incident it creates. -/
theorem Committed.audit_log {request : Request} {db db' : Database} {incident_id : Option String}
    (committed : Committed request db incident_id db') :
    ∃ opened, db'.audit_log = db.audit_log ++ (audit_entries_for_assessment request.alert_id request.risk request.decision
        request.previous_risk request.previous_decision).map (Database.audit_row request.occurred_at) ++ opened ∧
      ∀ row ∈ opened, row.action = ACTION_INCIDENT_CREATED := by
  cases committed with
  | routed other => exact ⟨[], (List.append_nil _).symm, fun _ none => absurd none List.not_mem_nil⟩
  | created asked none_open new =>
    obtain ⟨id, _, _, rfl, _, _, _, _, rfl⟩ := create_ok new
    refine ⟨_, rfl, fun row inside => ?_⟩
    obtain ⟨entry, listed, rfl⟩ := List.mem_map.mp inside
    rw [List.mem_singleton.mp listed]
    rfl
  | attached asked oldest joined =>
    obtain ⟨_, _, rfl⟩ := attach_ok joined
    exact ⟨[], (List.append_nil _).symm, fun _ none => absurd none List.not_mem_nil⟩

/-- What the incident link and the payload of an alert have no part in stays, row by row. -/
theorem Committed.alert_rows {α : Type} {view : Alert → α} {request : Request} {db db' : Database}
    {incident_id : Option String}
    (payload : ∀ row ∈ db.alerts.rows, row.alert_id = request.alert_id → view (rewritten request.canonical row) = view row)
    (link : ∀ id row, view (linked id row) = view row)
    (committed : Committed request db incident_id db') : db'.alerts.rows.map view = db.alerts.rows.map view := by
  have written : (scored request db).alerts.rows.map view = db.alerts.rows.map view :=
    Table.map_modify db.alerts request.alert_id (rewritten request.canonical) (fun _ => rfl) payload
  have relinked : ∀ id, ((scored request db).alerts.modify request.alert_id (linked id)).rows.map view =
      db.alerts.rows.map view := by
    intro id
    rw [← written]
    exact Table.map_modify (scored request db).alerts request.alert_id (linked id) (fun _ => rfl) (fun row _ _ => link id row)
  cases committed with
  | routed other => exact written
  | created asked none_open new =>
    obtain ⟨id, _, _, rfl, _, _, _, _, rfl⟩ := create_ok new
    exact relinked id
  | attached asked oldest joined =>
    obtain ⟨_, _, rfl⟩ := attach_ok joined
    exact relinked _

/-- An assessment leaves the recurrence state and the correlation contexts alone. -/
theorem Committed.frame {request : Request} {db db' : Database} {incident_id : Option String}
    (committed : Committed request db incident_id db') :
    db'.alert_events = db.alert_events ∧ db'.alert_dedupe_groups = db.alert_dedupe_groups ∧
      db'.correlation_contexts = db.correlation_contexts ∧ db'.correlation_members = db.correlation_members := by
  cases committed with
  | routed other => exact ⟨rfl, rfl, rfl, rfl⟩
  | created asked none_open new =>
    obtain ⟨_, _, _, rfl, _, _, _, _, rfl⟩ := create_ok new
    exact ⟨rfl, rfl, rfl, rfl⟩
  | attached asked oldest joined =>
    obtain ⟨_, _, rfl⟩ := attach_ok joined
    exact ⟨rfl, rfl, rfl, rfl⟩

/-! ### When a unit of work commits -/

/-- The decision opens no incident, or the group has an open one, or the alert can have a new one. -/
def Admits (db : Database) (alert_id : UUID) (group_key : String) (decision : Decision) (occurred_at : Int) : Prop :=
  decision.action = .OPEN_INCIDENT →
    (∃ incident ∈ db.incidents.rows, incident.dedupe_group_key = group_key ∧ incident.status = .OPEN) ∨
    (decision.severity ≠ none ∧ Creatable db alert_id occurred_at)

section
variable {db : Database} {alert : Alert}

private theorem open_or_attach_iff {request : Request} (numbered : Numbered db)
    (stored : db.alerts.get request.alert_id = some alert) :
    (∃ value, open_or_attach request db = .ok value) ↔
      (∃ incident ∈ db.incidents.rows, incident.dedupe_group_key = request.dedupe_group_key ∧ incident.status = .OPEN) ∨
      (request.decision.severity ≠ none ∧ Creatable db request.alert_id request.occurred_at) := by
  rw [open_or_attach]
  cases oldest : open_for_group db request.dedupe_group_key with
  | some existing =>
    obtain ⟨member, group, status⟩ := open_for_group_some oldest
    obtain ⟨db', linked⟩ := link_ok stored existing.incident_id
    refine iff_of_true ⟨(some existing.incident_id, db'), ?_⟩ (.inl ⟨existing, member, group, status⟩)
    dsimp only
    rw [attach, Table.get_of_mem member]
    simp only [linked, bind, Except.bind]
    rfl
  | none =>
    have none_open : ¬ ∃ incident ∈ db.incidents.rows,
        incident.dedupe_group_key = request.dedupe_group_key ∧ incident.status = .OPEN := by
      rintro ⟨incident, member, group, status⟩
      exact open_for_group_none.mp oldest incident member group status
    rw [or_iff_right none_open]
    dsimp only
    cases request.decision.severity with
    | none =>
      refine iff_of_false (fun opened => ?_) (fun both => both.1 rfl)
      obtain ⟨_, done⟩ := opened
      cases done
    | some severity =>
      rw [and_iff_right (Option.some_ne_none severity),
        ← create_iff numbered stored severity request.dedupe_group_key request.occurred_at]
      constructor
      · rintro ⟨value, done⟩
        obtain ⟨created, executed, _⟩ := bind_ok.mp done
        exact ⟨created, executed⟩
      · rintro ⟨⟨incident, after⟩, executed⟩
        refine ⟨_, bind_ok.mpr ⟨(incident, after), executed, rfl⟩⟩

private theorem assess_scored {request : Request} (stored : db.alerts.get request.alert_id = some alert) :
    assess request db =
      if request.decision.action = .OPEN_INCIDENT then open_or_attach request (scored request db)
      else .ok (none, scored request db) := by
  rw [assess, update_normalized_payload, stored]
  rfl

/-- The unit of work of a stored alert succeeds exactly when its decision can be carried out. -/
theorem assess_iff {request : Request} (numbered : Numbered db)
    (stored : db.alerts.get request.alert_id = some alert) :
    (∃ value, assess request db = .ok value) ↔
      Admits db request.alert_id request.dedupe_group_key request.decision request.occurred_at := by
  rw [assess_scored stored, Admits]
  by_cases asked : request.decision.action = .OPEN_INCIDENT
  · have written : (scored request db).alerts.get request.alert_id = some (rewritten request.canonical alert) :=
      @Table.get_modify_self _ _ _ _ db.alerts request.alert_id (rewritten request.canonical) (fun _ => rfl) alert stored
    have same : Creatable (scored request db) request.alert_id request.occurred_at ↔
        Creatable db request.alert_id request.occurred_at := ⟨fun c => ⟨c.first, c.numbered⟩, fun c => ⟨c.first, c.numbered⟩⟩
    rw [if_pos asked, @open_or_attach_iff (scored request db) _ request numbered written, same]
    exact ⟨fun opens _ => opens, fun opens => opens asked⟩
  · rw [if_neg asked]
    exact iff_of_true ⟨_, rfl⟩ (fun opens => absurd opens asked)

/-- A call commits exactly when the storage works and the decision can be carried out. -/
theorem persist_assessment_iff {request : Request} {fault : Bool} (numbered : Numbered db)
    (stored : db.alerts.get request.alert_id = some alert) :
    (∃ incident_id, (persist_assessment request fault db).1 = .ok ⟨incident_id, true⟩) ↔
      fault = false ∧ Admits db request.alert_id request.dedupe_group_key request.decision request.occurred_at := by
  rw [← assess_iff numbered stored]
  constructor
  · rintro ⟨incident_id, done⟩
    rcases persist_assessment_cases request fault db with ⟨_, _, _, working, executed⟩ | ⟨result, same, never⟩
    · exact ⟨working, _, executed⟩
    · rw [same] at done
      exact absurd done (never incident_id)
  · rintro ⟨rfl, ⟨incident_id, db'⟩, executed⟩
    refine ⟨incident_id, ?_⟩
    have committed : db.session_scope (fun db => if false then .error .database else assess request db) =
        (.ok incident_id, db') := Database.session_scope_ok executed
    rw [persist_assessment, committed]
end

/-- A new incident gets the next number. -/
theorem Committed.numbered {request : Request} {db db' : Database} {incident_id : Option String}
    (committed : Committed request db incident_id db') (numbered : Numbered db) : Numbered db' := by
  cases committed with
  | routed other => exact numbered
  | created asked none_open new =>
    obtain ⟨id, _, incidents, rfl, _, next, _, inserted, rfl⟩ := create_ok new
    intro incident inside
    rcases (Table.mem_insert inserted).mp inside with old | rfl
    · exact numbered incident old
    · exact next_sequence_id_sequenced next
  | attached asked oldest joined =>
    obtain ⟨_, _, rfl⟩ := attach_ok joined
    exact numbered

end SocTriage.Assessment
