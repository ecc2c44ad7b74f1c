import SocTriage.Incidents

/-!
The callers of the incident repository: the status endpoint, the feedback endpoint with
its synchronization of the linked incident, the notes endpoint, and one pass of the auto-close sweeper.
Each request is one unit of work, and so is each close of a sweep; `fault` is a failure
of the storage anywhere in it.
-/
namespace SocTriage.IncidentCallers
open Audit Incidents

/-! ### Responses -/

/-- A JSON response. -/
structure Response where
  status_code : Nat
  content : JsonObject
deriving DecidableEq

/-- The error envelope. -/
def error_response (status_code : Nat) (code message : String) (details : Option JsonObject := none) : Response where
  status_code := status_code
  content := [("error", .obj ([("code", .str code), ("message", .str message)] ++
    (match details with | none => [] | some details => [("details", .obj details)])))]

/-- `(actor or "analyst").strip() or "analyst"`. -/
def actor_name (actor : Option String) : String :=
  let name := actor.getD ""
  let stripped := Text.strip (if name = "" then "analyst" else name)
  if stripped = "" then "analyst" else stripped

/-- Notes stripped, and cut to 2000 characters. -/
def bounded_notes (notes : Option String) : Option String :=
  match notes with
  | none => none
  | some text =>
    if text = "" then none else some (String.ofList ((Text.strip text).toList.take 2000))

/-! ### The status endpoint -/

def allowed_transitions (current : IncidentStatus) : List String :=
  ((VALID_TRANSITIONS current).map IncidentStatus.value).insertionSort (· ≤ ·)

/-- The text of an `InvalidIncidentTransitionError`. -/
def transition_message (current target : IncidentStatus) : String :=
  let allowed := allowed_transitions current
  "invalid incident status transition: " ++ current.value ++ " -> " ++ target.value ++ " (allowed from " ++
    current.value ++ ": " ++
    (if allowed.isEmpty then "none — terminal state"
      else "[" ++ ", ".intercalate (allowed.map (fun value => "'" ++ value ++ "'")) ++ "]") ++ ")"

def conflict (incident_id : String) (current target : IncidentStatus) : Response :=
  error_response 409 "conflict" (transition_message current target) (some
    [("incident_id", .str incident_id), ("current_status", .str current.value),
      ("requested_status", .str target.value), ("allowed_transitions", .arr ((allowed_transitions current).map Json.str))])

def status_content (updated : Incident) (previous : IncidentStatus) : JsonObject :=
  [("incident_id", .str updated.incident_id), ("previous_status", .str previous.value),
    ("status", .str updated.status.value),
    ("updated_at", .str (Datetime.of_instant updated.updated_at).isoformat),
    ("acknowledged_at", optional_instant updated.acknowledged_at),
    ("resolved_at", optional_instant updated.resolved_at)]

/-- The body of a status update, and the time it is handled at. -/
structure StatusRequest where
  incident_id : String
  status : IncidentStatus
  notes : Option String := none
  actor : Option String := none
  occurred_at : Int

/-- The unit of work of a status update. -/
def status_work (request : StatusRequest) (db : Database) : Except Error (Response × Database) :=
  match db.incidents.get request.incident_id with
  | none => .ok (error_response 404 "not_found" ("incident " ++ request.incident_id ++ " not found"), db)
  | some current =>
    match update_status db request.incident_id request.status request.occurred_at with
    | .error (.invalid_transition current target) => .ok (conflict request.incident_id current target, db)
    | .error e => .error e
    | .ok (updated, db) =>
      .ok (⟨200, status_content updated current.status⟩,
        db.append (audit_entries_for_incident_status updated current.status (actor_name request.actor)
          (bounded_notes request.notes)) request.occurred_at)

def update_incident_status (request : StatusRequest) (fault : Bool) (db : Database) : Response × Database :=
  match db.session_scope (fun db => if fault then .error .database else status_work request db) with
  | (.ok response, db) => (response, db)
  | (.error _, db) => (error_response 500 "internal_error" "failed to update incident status", db)

/-! ### The feedback endpoint -/

inductive FeedbackVerdict where
  | TRUE_POSITIVE | FALSE_POSITIVE | BENIGN | ESCALATE | ACKNOWLEDGED | RESOLVED | CONTAIN_REQUESTED
deriving DecidableEq, Repr

def FeedbackVerdict.value : FeedbackVerdict → String
  | .TRUE_POSITIVE => "true_positive"
  | .FALSE_POSITIVE => "false_positive"
  | .BENIGN => "benign"
  | .ESCALATE => "escalate"
  | .ACKNOWLEDGED => "acknowledged"
  | .RESOLVED => "resolved"
  | .CONTAIN_REQUESTED => "contain_requested"

/-- The status a verdict asks for; a containment request has none. -/
def FEEDBACK_INCIDENT_STATUS_TARGETS : FeedbackVerdict → Option IncidentStatus
  | .TRUE_POSITIVE => some .ACKNOWLEDGED
  | .ACKNOWLEDGED => some .ACKNOWLEDGED
  | .RESOLVED => some .RESOLVED
  | .FALSE_POSITIVE => some .FALSE_POSITIVE
  | .ESCALATE => some .ESCALATED
  | .BENIGN => some .FALSE_POSITIVE
  | .CONTAIN_REQUESTED => none

def plan_incident_sync (incident : Incident) (verdict : FeedbackVerdict) : Option IncidentStatus :=
  if verdict = .CONTAIN_REQUESTED then none
  else
    match FEEDBACK_INCIDENT_STATUS_TARGETS verdict with
    | none => none
    | some target => if can_transition incident.status target then some target else none

theorem plan_incident_sync_allowed {incident : Incident} {verdict : FeedbackVerdict} {target : IncidentStatus}
    (planned : plan_incident_sync incident verdict = some target) : can_transition incident.status target = true := by
  unfold plan_incident_sync at planned
  split at planned
  · contradiction
  · split at planned
    · contradiction
    · split at planned
      · rename_i allowed
        cases planned
        exact allowed
      · contradiction

/-- The body of a feedback submission, and the time it is handled at. -/
structure FeedbackRequest where
  alert_id : UUID
  verdict : FeedbackVerdict
  notes : Option String := none
  actor : Option String := none
  received_at : Int

def sync_incident_with_feedback (db : Database) (incident : Incident) (request : FeedbackRequest) :
    Except Error Database :=
  if request.verdict = .CONTAIN_REQUESTED then
    .ok (db.append (audit_entries_for_incident_containment_request incident.incident_id request.alert_id
      (actor_name request.actor)) request.received_at)
  else
    match plan_incident_sync incident request.verdict with
    | none => .ok db
    | some target => do
      let (updated, db) ← update_status db incident.incident_id target request.received_at
      return db.append (audit_entries_for_incident_status updated incident.status (actor_name request.actor) none)
        request.received_at

def feedback_row (request : FeedbackRequest) : AnalystFeedback where
  alert_id := request.alert_id
  received_at := request.received_at
  actor := actor_name request.actor
  verdict := request.verdict.value
  notes := bounded_notes request.notes

/-- The feedback row and its audit row. -/
def recorded (request : FeedbackRequest) (db : Database) : Database :=
  { db with analyst_feedback := db.analyst_feedback ++ [feedback_row request] }.append
    (audit_entries_for_feedback request.alert_id request.verdict.value (actor_name request.actor)) request.received_at

/-- The unit of work of a feedback submission. -/
def feedback_work (request : FeedbackRequest) (db : Database) : Except Error (Response × Database) :=
  match db.alerts.get request.alert_id with
  | none => .ok (error_response 404 "not_found" ("alert " ++ request.alert_id ++ " not found"), db)
  | some _ =>
    let accepted : Response := ⟨200, [("status", .str "accepted"), ("alert_id", .str request.alert_id),
      ("verdict", .str request.verdict.value), ("received_at", .str (Datetime.of_instant request.received_at).isoformat)]⟩
    match for_alert (recorded request db) request.alert_id with
    | none => .ok (accepted, recorded request db)
    | some incident => do
      let db ← sync_incident_with_feedback (recorded request db) incident request
      return (accepted, db)

def submit_feedback (request : FeedbackRequest) (fault : Bool) (db : Database) : Response × Database :=
  match db.session_scope (fun db => if fault then .error .database else feedback_work request db) with
  | (.ok response, db) => (response, db)
  | (.error _, db) => (error_response 500 "internal_error" "failed to store feedback", db)

/-! ### The notes endpoint -/

/-- The body of a new note, and the time it is handled at. -/
structure NoteRequest where
  incident_id : String
  note : String
  actor : Option String := none
  occurred_at : Int

def note_entry (request : NoteRequest) : AuditEntry where
  actor := actor_name request.actor
  action := ACTION_INCIDENT_NOTE_ADDED
  entity_type := ENTITY_INCIDENT
  entity_id := request.incident_id
  after := some [("note", .str (Text.strip request.note))]

/-- The unit of work of a note. -/
def note_work (request : NoteRequest) (db : Database) : Except Error (Response × Database) :=
  match db.incidents.get request.incident_id with
  | none => .ok (error_response 404 "not_found" ("incident " ++ request.incident_id ++ " not found"), db)
  | some _ =>
    .ok (⟨201, [("incident_id", .str request.incident_id), ("actor", .str (actor_name request.actor)),
      ("note", .str (Text.strip request.note)), ("created_at", .str (Datetime.of_instant request.occurred_at).isoformat)]⟩,
      db.append [note_entry request] request.occurred_at)

def add_incident_note (request : NoteRequest) (fault : Bool) (db : Database) : Response × Database :=
  if Text.strip request.note = "" then (error_response 422 "validation_error" "note must not be empty", db)
  else
    match db.session_scope (fun db => if fault then .error .database else note_work request db) with
    | (.ok response, db) => (response, db)
    | (.error _, db) => (error_response 500 "internal_error" "failed to add incident note", db)

/-! ### The sweeper -/

structure SweepStats where
  candidates : Nat := 0
  closed : Nat := 0
  skipped : Nat := 0
  errors : Nat := 0
deriving DecidableEq, Repr

/-- The unit of work of one close: the conditional update, and one audit row when it matched. -/
def close_work (ttl_seconds : Nat) (as_of : Int) (candidate : Incident) (db : Database) :
    Except Error (Bool × Database) :=
  let idle := max 0 (as_of - candidate.updated_at)
  match auto_close_if_stale db candidate.incident_id ttl_seconds as_of candidate.updated_at candidate.status with
  | (none, db) => .ok (false, db)
  | (some closed, db) =>
    .ok (true, db.append (audit_entries_for_incident_auto_closed closed candidate.status ttl_seconds idle) as_of)

/-- One candidate of a sweep; a failure is counted and the next candidate is tried. -/
def close_candidate (ttl_seconds : Nat) (as_of : Int) (fault : String → Bool) (state : SweepStats × Database)
    (candidate : Incident) : SweepStats × Database :=
  let (stats, db) := state
  match db.session_scope (fun db =>
      if fault candidate.incident_id then .error .database else close_work ttl_seconds as_of candidate db) with
  | (.ok true, db) => ({ stats with closed := stats.closed + 1 }, db)
  | (.ok false, db) => ({ stats with skipped := stats.skipped + 1 }, db)
  | (.error _, db) => ({ stats with errors := stats.errors + 1 }, db)

/-- One sweep, of a whole number of seconds at least one. -/
def sweep_once (ttl_seconds : Nat) (as_of : Int) (fault : String → Bool) (db : Database) :
    Except Error (SweepStats × Database) :=
  if ttl_seconds < 1 then .error (.value "ttl_seconds must be >= 1")
  else
    let incidents := list_incidents_eligible_for_auto_close db ttl_seconds as_of
    .ok (incidents.foldl (close_candidate ttl_seconds as_of fault) ({ candidates := incidents.length }, db))

end SocTriage.IncidentCallers
