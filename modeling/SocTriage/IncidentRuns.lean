import Mathlib.Logic.Relation
import SocTriage.Assessment
import SocTriage.EventIdentity
import SocTriage.IncidentCallers
import SocTriage.PersistentDeduplication
import SocTriage.Runs

/-!
Sequential runs of everything that writes incidents: assessments of recorded alerts,
status updates, feedback and sweeps. Whatever the caller, an incident and its lifecycle
rows of the audit log move in one of three ways: created, stepped by an analyst, or
closed by the sweeper.
-/
namespace SocTriage.IncidentRuns
open Audit Incidents IncidentCallers Assessment

/-- One operation; an alert is recorded by its first delivery. -/
inductive Event where
  | record (group : Deduplication.GroupState) (record : Deduplication.EventRecord)
  | assess (request : Request) (fault : Bool)
  | update (request : StatusRequest) (fault : Bool)
  | feedback (request : FeedbackRequest) (fault : Bool)
  | sweep (ttl_seconds : Nat) (as_of : Int) (fault : String → Bool)

def step (db : Database) : Event → Database
  | .record group record =>
    match db.alerts.insert (PersistentDeduplication.alert_row group record) with
    | none => db
    | some alerts => { db with alerts }
  | .assess request fault => (persist_assessment request fault db).2
  | .update request fault => (update_incident_status request fault db).2
  | .feedback request fault => (submit_feedback request fault db).2
  | .sweep ttl_seconds as_of fault =>
    match sweep_once ttl_seconds as_of fault db with
    | .error _ => db
    | .ok (_, db) => db

/-! ### Lifecycle rows -/

/-- The actions that make up the lifecycle of an incident. -/
def lifecycle (row : AuditEvent) : Bool :=
  [ACTION_INCIDENT_CREATED, ACTION_INCIDENT_STATUS_UPDATED, ACTION_INCIDENT_AUTO_CLOSED].contains row.action

/-- The lifecycle rows of the audit log, in row order. -/
def history (db : Database) : List AuditEvent := db.audit_log.filter lifecycle

/-- The audit row of a creation. -/
def created_row (incident : Incident) (occurred_at : Int) : AuditEvent where
  occurred_at := occurred_at
  actor := "decisions"
  action := ACTION_INCIDENT_CREATED
  entity_type := ENTITY_INCIDENT
  entity_id := incident.incident_id
  before := none
  after := some [("incident_id", .str incident.incident_id), ("alert_id", .str incident.primary_alert_id),
    ("severity", .str incident.severity.value), ("status", .str incident.status.value),
    ("dedupe_group_key", .str incident.dedupe_group_key)]

/-- The audit row of an analyst's step. -/
def step_row (incident : Incident) (previous : IncidentStatus) (actor : String) (notes : Option String)
    (occurred_at : Int) : AuditEvent where
  occurred_at := occurred_at
  actor := actor
  action := ACTION_INCIDENT_STATUS_UPDATED
  entity_type := ENTITY_INCIDENT
  entity_id := incident.incident_id
  before := some [("status", .str previous.value)]
  after := some (with_notes (incident_status_snapshot incident) notes)

/-- The audit row of a close by the sweeper. -/
def close_row (incident : Incident) (previous : IncidentStatus) (ttl_seconds : Nat) (idle occurred_at : Int) :
    AuditEvent where
  occurred_at := occurred_at
  actor := ACTOR_SWEEPER
  action := ACTION_INCIDENT_AUTO_CLOSED
  entity_type := ENTITY_INCIDENT
  entity_id := incident.incident_id
  before := some [("status", .str previous.value)]
  after := some [("incident_id", .str incident.incident_id), ("status", .str incident.status.value),
    ("previous_status", .str previous.value), ("acknowledged_at", optional_instant incident.acknowledged_at),
    ("resolved_at", optional_instant incident.resolved_at), ("ttl_seconds", .int ttl_seconds),
    ("idle_seconds", .int (round_seconds idle)), ("reason", .str "ttl_expired"), ("actor", .str ACTOR_SWEEPER)]

theorem history_append (db : Database) (entries : List AuditEntry) (occurred_at : Int) :
    history (db.append entries occurred_at) =
      history db ++ (entries.map (Database.audit_row occurred_at)).filter lifecycle := by
  rw [history, Database.append_audit_log, List.filter_append, history]

section
variable (occurred_at : Int)

private theorem assessment_rows (alert_id : UUID) (risk : RiskAssessment) (decision : Decision)
    (previous_risk : Option RiskAssessment) (previous_decision : Option Decision) :
    ((audit_entries_for_assessment alert_id risk decision previous_risk previous_decision).map
      (Database.audit_row occurred_at)).filter lifecycle = [] := rfl

private theorem feedback_rows (alert_id : UUID) (verdict actor : String) :
    ((audit_entries_for_feedback alert_id verdict actor).map (Database.audit_row occurred_at)).filter lifecycle = [] := rfl

private theorem containment_rows (incident_id : String) (alert_id : UUID) (actor : String) :
    ((audit_entries_for_incident_containment_request incident_id alert_id actor).map
      (Database.audit_row occurred_at)).filter lifecycle = [] := rfl

private theorem creation_rows (incident : Incident) :
    ((audit_entries_for_incident incident).map (Database.audit_row occurred_at)).filter lifecycle =
      [created_row incident occurred_at] := rfl

/-- An escalation is audited twice, and once as a lifecycle step. -/
private theorem status_rows (incident : Incident) (previous : IncidentStatus) (actor : String) (notes : Option String) :
    ((audit_entries_for_incident_status incident previous actor notes).map
      (Database.audit_row occurred_at)).filter lifecycle = [step_row incident previous actor notes occurred_at] := by
  rw [audit_entries_for_incident_status]
  by_cases escalated : incident.status = .ESCALATED
  · rw [if_pos escalated]; rfl
  · rw [if_neg escalated]; rfl

private theorem auto_closed_rows (incident : Incident) (previous : IncidentStatus) (ttl_seconds : Nat) (idle : Int) :
    ((audit_entries_for_incident_auto_closed incident previous ttl_seconds idle).map
      (Database.audit_row occurred_at)).filter lifecycle =
      [close_row incident previous ttl_seconds idle occurred_at] := rfl
end

/-! ### The moves -/

/-- What one unit of work does to the incidents and their lifecycle rows. -/
inductive Moved (db db' : Database) : Prop
  | quiet (incidents : db'.incidents = db.incidents) (rows : history db' = history db)
  | created (incident_id : String) (alert_id : UUID) (severity : DecisionSeverity) (group_key : String) (occurred_at : Int)
      (none_open : open_for_group db group_key = none)
      (inserted : db.incidents.insert (opened incident_id alert_id severity group_key occurred_at) = some db'.incidents)
      (rows : history db' =
        history db ++ [created_row (opened incident_id alert_id severity group_key occurred_at) occurred_at])
  | stepped (row : Incident) (target : IncidentStatus) (actor : String) (notes : Option String) (occurred_at : Int)
      (found : db.incidents.get row.incident_id = some row) (allowed : can_transition row.status target = true)
      (incidents : db'.incidents = db.incidents.modify row.incident_id (fun row => stepped row target occurred_at))
      (rows : history db' = history db ++ [step_row (stepped row target occurred_at) row.status actor notes occurred_at])
  | closed (row : Incident) (ttl_seconds : Nat) (idle as_of : Int)
      (found : db.incidents.get row.incident_id = some row) (active : terminal row.status = false)
      (incidents : db'.incidents = db.incidents.modify row.incident_id (closed as_of))
      (rows : history db' = history db ++ [close_row (closed as_of row) row.status ttl_seconds idle as_of])

/-- What never changes of an incident. -/
def identity (incident : Incident) : String × UUID × String :=
  (incident.incident_id, incident.primary_alert_id, incident.dedupe_group_key)

/-- No alert and no incident is added, and no link is written. -/
structure SameLinks (db db' : Database) : Prop where
  alerts : db'.alerts = db.alerts
  incidents : db'.incidents.rows.map identity = db.incidents.rows.map identity

section
variable {db db' : Database}

theorem SameLinks.trans {mid : Database} (first : SameLinks db mid) (second : SameLinks mid db') : SameLinks db db' :=
  ⟨second.alerts.trans first.alerts, second.incidents.trans first.incidents⟩

/-- What changes neither incidents nor lifecycle rows may come before a move. -/
private theorem Moved.after_quiet {mid : Database} (incidents : mid.incidents = db.incidents)
    (rows : history mid = history db) (moved : Moved mid db') : Moved db db' := by
  cases moved with
  | quiet same still => exact .quiet (same.trans incidents) (still.trans rows)
  | created incident_id alert_id severity group_key occurred_at none_open inserted more =>
    rw [open_for_group, incidents] at none_open
    exact .created incident_id alert_id severity group_key occurred_at none_open (incidents ▸ inserted) (rows ▸ more)
  | stepped row target actor notes occurred_at found allowed changed more =>
    exact .stepped row target actor notes occurred_at (incidents ▸ found) allowed (incidents ▸ changed) (rows ▸ more)
  | closed row ttl_seconds idle as_of found active changed more =>
    exact .closed row ttl_seconds idle as_of (incidents ▸ found) active (incidents ▸ changed) (rows ▸ more)

private theorem history_scored (request : Request) (db : Database) : history (scored request db) = history db := by
  rw [scored, history_append, assessment_rows, List.append_nil]
  rfl

private theorem committed_moved {request : Request} {incident_id : Option String}
    (committed : Committed request db incident_id db') : Moved db db' := by
  cases committed with
  | routed other => exact .quiet rfl (history_scored request db)
  | @created asked severity incident after none_open new =>
    obtain ⟨id, alert, incidents, rfl, _, _, _, inserted, rfl⟩ := create_ok new
    refine .created id request.alert_id severity request.dedupe_group_key request.occurred_at none_open inserted ?_
    rw [history_append, creation_rows]
    exact congrArg (· ++ _) (history_scored request db)
  | attached asked oldest joined =>
    obtain ⟨_, _, rfl⟩ := attach_ok joined
    exact .quiet rfl (history_scored request db)

private theorem assess_moved (request : Request) (fault : Bool) (db : Database) :
    Moved db (persist_assessment request fault db).2 := by
  rcases persist_assessment_cases request fault db with ⟨incident_id, db', same, _, executed⟩ | ⟨result, same, _⟩
  · rw [same]; exact committed_moved (assess_ok executed).2
  · rw [same]; exact .quiet rfl rfl

/-- A step of the repository with its audit rows. -/
private theorem update_status_moved {row updated : Incident} {incident_id : String} {target : IncidentStatus}
    {occurred_at : Int} (found : db.incidents.get incident_id = some row)
    (executed : update_status db incident_id target occurred_at = .ok (updated, db')) (actor : String)
    (notes : Option String) :
    Moved db (db'.append (audit_entries_for_incident_status updated row.status actor notes) occurred_at) ∧
      SameLinks db (db'.append (audit_entries_for_incident_status updated row.status actor notes) occurred_at) := by
  obtain ⟨row', found', allowed, rfl, rfl⟩ := update_status_ok executed
  rw [found] at found'
  cases found'
  have key : row.incident_id = incident_id := Table.get_key found
  subst key
  refine ⟨.stepped row target actor notes occurred_at found allowed rfl ?_,
    ⟨rfl, Table.map_modify _ _ (fun row => stepped row target occurred_at) (fun _ => rfl) (fun _ _ _ => rfl)⟩⟩
  rw [history_append, status_rows]
  rfl

/-- A status update, whatever it answers. -/
theorem update_moved (request : StatusRequest) (fault : Bool) (db : Database) :
    Moved db (update_incident_status request fault db).2 ∧ SameLinks db (update_incident_status request fault db).2 := by
  have still : Moved db db ∧ SameLinks db db := ⟨.quiet rfl rfl, rfl, rfl⟩
  rw [update_incident_status]
  cases fault with
  | true => exact still
  | false =>
    have work : db.session_scope (fun db => if false then .error .database else status_work request db) =
        db.session_scope (status_work request) := rfl
    rw [work, Database.session_scope, status_work]
    cases found : db.incidents.get request.incident_id with
    | none => exact still
    | some current =>
      dsimp only
      cases executed : update_status db request.incident_id request.status request.occurred_at with
      | error e => cases e <;> exact still
      | ok value => exact update_status_moved found executed _ _

theorem for_alert_get {alert_id : UUID} {incident : Incident} (linked : for_alert db alert_id = some incident) :
    db.incidents.get incident.incident_id = some incident := by
  obtain ⟨alert, _, linked⟩ := Option.bind_eq_some_iff.mp linked
  obtain ⟨incident_id, _, found⟩ := Option.bind_eq_some_iff.mp linked
  have key : incident.incident_id = incident_id := Table.get_key found
  rw [key]; exact found

private theorem sync_moved {request : FeedbackRequest} {incident : Incident}
    (linked : for_alert db request.alert_id = some incident)
    (synced : sync_incident_with_feedback db incident request = .ok db') : Moved db db' ∧ SameLinks db db' := by
  rw [sync_incident_with_feedback] at synced
  split at synced
  · cases synced
    refine ⟨.quiet rfl ?_, rfl, rfl⟩
    rw [history_append, containment_rows, List.append_nil]
  · split at synced
    · cases synced; exact ⟨.quiet rfl rfl, rfl, rfl⟩
    · obtain ⟨⟨updated, after⟩, executed, done⟩ := bind_ok.mp synced
      cases done
      exact update_status_moved (for_alert_get linked) executed _ _

/-- A feedback submission, whatever it answers. -/
theorem feedback_moved (request : FeedbackRequest) (fault : Bool) (db : Database) :
    Moved db (submit_feedback request fault db).2 ∧ SameLinks db (submit_feedback request fault db).2 := by
  have still : Moved db db ∧ SameLinks db db := ⟨.quiet rfl rfl, rfl, rfl⟩
  have written : history (recorded request db) = history db := by
    rw [recorded, history_append, feedback_rows, List.append_nil]; rfl
  rw [submit_feedback]
  cases fault with
  | true => exact still
  | false =>
    have work : db.session_scope (fun db => if false then .error .database else feedback_work request db) =
        db.session_scope (feedback_work request) := rfl
    rw [work, Database.session_scope, feedback_work]
    cases found : db.alerts.get request.alert_id with
    | none => exact still
    | some alert =>
      dsimp only
      cases linked : for_alert (recorded request db) request.alert_id with
      | none => exact ⟨.quiet rfl written, rfl, rfl⟩
      | some incident =>
        dsimp only [bind, Except.bind]
        cases synced : sync_incident_with_feedback (recorded request db) incident request with
        | error e => exact still
        | ok after =>
          obtain ⟨moved, links⟩ := sync_moved linked synced
          exact ⟨@Moved.after_quiet db after (recorded request db) rfl written moved, ⟨links.alerts, links.incidents⟩⟩

private theorem close_work_moved {ttl_seconds : Nat} {as_of : Int} {candidate : Incident} {matched : Bool}
    (active : terminal candidate.status = false)
    (executed : close_work ttl_seconds as_of candidate db = .ok (matched, db')) : Moved db db' ∧ SameLinks db db' := by
  rw [close_work] at executed
  rcases auto_close_cases db candidate.incident_id ttl_seconds as_of candidate.updated_at candidate.status with
    skipped | ⟨row, found, status, _, _, matched⟩
  · rw [skipped] at executed
    cases executed
    exact ⟨.quiet rfl rfl, rfl, rfl⟩
  · rw [matched] at executed
    cases executed
    have key : row.incident_id = candidate.incident_id := Table.get_key found
    rw [← status] at active ⊢
    rw [← key] at found ⊢
    refine ⟨.closed row ttl_seconds (max 0 (as_of - candidate.updated_at)) as_of found active rfl ?_,
      ⟨rfl, Table.map_modify _ _ (closed as_of) (fun _ => rfl) (fun _ _ _ => rfl)⟩⟩
    rw [history_append, auto_closed_rows]
    rfl

theorem close_moved (ttl_seconds : Nat) (as_of : Int) (fault : String → Bool) (stats : SweepStats)
    (db : Database) {candidate : Incident} (active : terminal candidate.status = false) :
    Moved db (close_candidate ttl_seconds as_of fault (stats, db) candidate).2 ∧
      SameLinks db (close_candidate ttl_seconds as_of fault (stats, db) candidate).2 := by
  rw [close_candidate]
  cases failing : fault candidate.incident_id with
  | true => exact ⟨.quiet rfl rfl, rfl, rfl⟩
  | false =>
    have work : db.session_scope (fun db => if false then .error .database else close_work ttl_seconds as_of candidate db) =
        db.session_scope (close_work ttl_seconds as_of candidate) := rfl
    rw [work, Database.session_scope]
    cases executed : close_work ttl_seconds as_of candidate db with
    | error e => exact ⟨.quiet rfl rfl, rfl, rfl⟩
    | ok value =>
      obtain ⟨matched, after⟩ := value
      have moved := close_work_moved active executed
      cases matched <;> exact moved

/-- The candidates of a sweep are not terminal. -/
theorem eligible_active {ttl_seconds : Nat} {as_of : Int} :
    ∀ candidate ∈ list_incidents_eligible_for_auto_close db ttl_seconds as_of, terminal candidate.status = false := by
  intro candidate inside
  have member := List.mem_of_mem_take inside
  rw [List.mem_insertionSort, List.mem_filter] at member
  simpa using (decide_eq_true_eq.mp member.2).1

/-- What the close of one candidate keeps, a sweep keeps. -/
theorem sweep_keeps {Keeps : Database → Database → Prop} {ttl_seconds : Nat} {as_of : Int} {fault : String → Bool}
    {stats : SweepStats} (refl : ∀ db, Keeps db db) (trans : ∀ {a b c}, Keeps a b → Keeps b c → Keeps a c)
    (keeps : ∀ stats db candidate, terminal candidate.status = false →
      Keeps db (close_candidate ttl_seconds as_of fault (stats, db) candidate).2)
    (swept : sweep_once ttl_seconds as_of fault db = .ok (stats, db')) : Keeps db db' := by
  rw [sweep_once] at swept
  split at swept
  · contradiction
  · have active := @eligible_active db ttl_seconds as_of
    generalize list_incidents_eligible_for_auto_close db ttl_seconds as_of = candidates at swept active
    have fold : ∀ (rest : List Incident) (state : SweepStats × Database),
        (∀ candidate ∈ rest, terminal candidate.status = false) →
        Keeps state.2 (rest.foldl (close_candidate ttl_seconds as_of fault) state).2 := by
      intro rest
      induction rest with
      | nil => exact fun state _ => refl state.2
      | cons candidate rest ih =>
        intro state active
        have first := keeps state.1 state.2 candidate (active candidate List.mem_cons_self)
        exact trans first (ih _ (fun other inside => active other (List.mem_cons_of_mem _ inside)))
    have whole := fold candidates ({ candidates := candidates.length }, db) active
    rw [Except.ok.inj swept] at whole
    exact whole

/-- A sweep moves its candidates one after the other. -/
theorem sweep_moved {ttl_seconds : Nat} {as_of : Int} {fault : String → Bool} {stats : SweepStats}
    (swept : sweep_once ttl_seconds as_of fault db = .ok (stats, db')) :
    Relation.ReflTransGen Moved db db' ∧ SameLinks db db' := by
  refine @sweep_keeps db db' (fun a b => Relation.ReflTransGen Moved a b ∧ SameLinks a b) ttl_seconds as_of fault stats
    (fun _ => ⟨.refl, rfl, rfl⟩) (fun first second => ⟨first.1.trans second.1, first.2.trans second.2⟩) ?_ swept
  intro stats db candidate active
  obtain ⟨moved, links⟩ := close_moved ttl_seconds as_of fault stats db active
  exact ⟨.single moved, links⟩

/-- Every operation is a sequence of moves. -/
theorem step_moved (db : Database) (event : Event) : Relation.ReflTransGen Moved db (step db event) := by
  cases event with
  | record group record =>
    rw [step]
    split
    · exact .refl
    · exact .single (.quiet rfl rfl)
  | assess request fault => exact .single (assess_moved request fault db)
  | update request fault => exact .single (update_moved request fault db).1
  | feedback request fault => exact .single (feedback_moved request fault db).1
  | sweep ttl_seconds as_of fault =>
    rw [step]
    cases swept : sweep_once ttl_seconds as_of fault db with
    | error e => exact .refl
    | ok value => exact (sweep_moved swept).1
end

/-- The first delivery of a failed login, in a group of its own choice. -/
def login_recorded (alert_id : UUID) (group_key : String) (received_at : Int) : Event :=
  .record { group_key } {
    event_identity := alert_id
    alert_id
    payload_fingerprint := alert_id
    canonical_alert := Deduplication.failed_login_alert alert_id (Datetime.of_instant received_at)
    first_delivered_at := Datetime.of_instant received_at
    last_delivered_at := Datetime.of_instant received_at }

/-- Its assessment, when the score asks for an incident. -/
def login_assessed (alert_id : UUID) (group_key : String) (occurred_at : Int) : Request where
  alert_id := alert_id
  canonical := Deduplication.failed_login_alert alert_id (Datetime.of_instant occurred_at)
  risk := { score := 85, tier := .CRITICAL, engine_version := "1.0", factors := [], summary := "" }
  decision := { action := .OPEN_INCIDENT, severity := some .SEV1, decided_at := Datetime.of_instant occurred_at }
  dedupe_group_key := group_key
  occurred_at := occurred_at

end SocTriage.IncidentRuns
