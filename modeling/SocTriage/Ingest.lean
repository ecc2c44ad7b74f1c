import SocTriage.Assessment
import SocTriage.Correlation
import SocTriage.EventIdentity
import SocTriage.IncidentCallers
import SocTriage.PersistentDeduplication
import SocTriage.Runs

/-!
The ingest handler, from a validated alert to its answer. Deduplication and assessment
are two units of work. The second fails open: when it is rolled back the alert of record
stays without risk and decision, the delivery is still answered with success, and an
exact duplicate never scores again.
-/
namespace SocTriage.Ingest
open Deduplication (Window DedupeOutcome DedupeStatus)
open PersistentDeduplication (process process_cases process_new_named process_records deliver_recorded)
open IncidentCallers (Response error_response)
open Correlation (correlate correlate_untouched context_for_alert)
open Assessment Incidents

/-- The configured pipeline: the digest, the windows, the scorer and the decision engine. -/
structure Pipeline where
  sha256 : Json → String
  window : Window
  correlation_window : Window
  score : CanonicalAlert → RiskAssessment
  decide : RiskAssessment → CanonicalAlert → Datetime → Decision

/-- A validated alert, with what normalization, the asset inventory, extraction and enrichment make of it. -/
structure Delivery where
  alert : WazuhAlert
  alert_id : UUID
  received_at : Datetime
  source_event : CanonicalSourceEvent
  asset : Option CanonicalAsset := none
  iocs : List IOC := []
  enrichment_status : String := "skipped"

def Delivery.canonical (delivery : Delivery) : CanonicalAlert where
  alert_id := delivery.alert_id
  received_at := delivery.received_at
  source_event := delivery.source_event
  asset := delivery.asset
  iocs := delivery.iocs
  enrichment_status := some delivery.enrichment_status

/-- Between which steps the process stops. -/
inductive Stop where
  | before_assessment | after_assessment | before_answer
deriving DecidableEq

/-- Where the storage fails or the process stops while one delivery is handled. -/
structure Faults where
  dedupe : Bool := false
  assessment : Bool := false
  correlation : Bool := false
  incident_lookup : Bool := false
  context_lookup : Bool := false
  stop : Option Stop := none

/-- The answer to an accepted delivery or an exact duplicate. -/
structure Success where
  status_code : Nat
  status : String
  duplicate : Bool
  dedupe_status : DedupeStatus
  alert_id : UUID
  received_at : String
  dedupe : CanonicalDedupe
  iocs : List IOC
  enrichment_status : String
  risk : Option RiskAssessment
  decision : Option Decision
  incident_id : Option String
  correlation_context_id : Option String
  normalized : CanonicalAlert
deriving DecidableEq

inductive Answer where
  | success (content : Success)
  | refused (response : Response)
deriving DecidableEq

def success (delivery : Delivery) (outcome : DedupeOutcome) (assessed : CanonicalAlert)
    (incident_id correlation_context_id : Option String) : Answer :=
  let is_duplicate := outcome.status == .EXACT_DUPLICATE
  .success {
    status_code := if is_duplicate then 200 else 202
    status := if is_duplicate then "duplicate" else "accepted"
    duplicate := is_duplicate
    dedupe_status := outcome.status
    alert_id := outcome.alert_id
    received_at := delivery.received_at.isoformat
    dedupe := outcome.dedupe
    iocs := outcome.canonical_alert.iocs
    enrichment_status := delivery.enrichment_status
    risk := assessed.risk
    decision := assessed.decision
    incident_id
    correlation_context_id
    normalized := assessed }

/-- The answer to an unhandled exception. -/
def internal_error : Answer := .refused (error_response 500 "internal_error" "internal server error")

/-- The answer to an exception of the deduplicator. -/
def refusal : Error → Answer
  | .invalid_input message =>
    .refused (error_response 422 "validation_error" "alert identity validation failed" (some [("reason", .str message)]))
  | .storage _ => .refused (error_response 503 "service_unavailable" "ingest temporarily unavailable; retry")
  | _ => internal_error

/-- The assessment of a newly recorded alert. -/
def assessment (pipeline : Pipeline) (delivery : Delivery) (outcome : DedupeOutcome) : Request :=
  let risk := pipeline.score outcome.canonical_alert
  let decision := pipeline.decide risk outcome.canonical_alert delivery.received_at
  { alert_id := outcome.alert_id
    canonical := { outcome.canonical_alert with risk := some risk, decision := some decision }
    risk
    decision
    dedupe_group_key := outcome.group_key
    occurred_at := delivery.received_at.instant }

/-- `_correlate_alert`: any exception is swallowed. -/
def correlate_alert (pipeline : Pipeline) (delivery : Delivery) (alert_id : UUID) (fault : Bool) (db : Database) :
    Option String × Database :=
  match correlate pipeline.correlation_window alert_id delivery.received_at fault db with
  | (.ok (some result), db) => (some result.context_id, db)
  | (_, db) => (none, db)

/-- The echo of an exact duplicate; a failed lookup is answered with nothing. -/
def echo (delivery : Delivery) (outcome : DedupeOutcome) (faults : Faults) (db : Database) : Answer :=
  success delivery outcome outcome.canonical_alert
    (if faults.incident_lookup then none else (for_alert db outcome.alert_id).map Incident.incident_id)
    (if faults.context_lookup then none else (context_for_alert db outcome.alert_id).map CorrelationContext.context_id)

/-- What is left of the handler once the assessment of a new alert is tried. -/
def finish (pipeline : Pipeline) (delivery : Delivery) (outcome : DedupeOutcome) (faults : Faults)
    (result : AssessmentPersistResult) (db : Database) : Option Answer × Database :=
  if faults.stop = some .after_assessment then (none, db)
  else
    let (correlation_context_id, db) := correlate_alert pipeline delivery outcome.alert_id faults.correlation db
    if faults.stop = some .before_answer then (none, db)
    else (some (success delivery outcome (assessment pipeline delivery outcome).canonical result.incident_id
      correlation_context_id), db)

/-- `ingest_alert` after schema validation; a process that stops gives no answer. -/
def ingest_alert (pipeline : Pipeline) (delivery : Delivery) (faults : Faults) (db : Database) : Option Answer × Database :=
  match process pipeline.sha256 pipeline.window delivery.alert delivery.canonical delivery.received_at faults.dedupe db with
  | (.error e, db) => (some (refusal e), db)
  | (.ok outcome, db) =>
    if faults.stop = some .before_assessment then (none, db)
    else if outcome.status = .EXACT_DUPLICATE then (some (echo delivery outcome faults db), db)
    else
      match persist_assessment (assessment pipeline delivery outcome) faults.assessment db with
      | (.error _, db) => (some internal_error, db)
      | (.ok result, db) => finish pipeline delivery outcome faults result db

/-- The alert whose assessment a delivery commits. -/
def commits (pipeline : Pipeline) (delivery : Delivery) (faults : Faults) (db : Database) : Option UUID :=
  match process pipeline.sha256 pipeline.window delivery.alert delivery.canonical delivery.received_at faults.dedupe db with
  | (.error _, _) => none
  | (.ok outcome, db) =>
    if faults.stop = some .before_assessment ∨ outcome.status = .EXACT_DUPLICATE then none
    else
      match (persist_assessment (assessment pipeline delivery outcome) faults.assessment db).1 with
      | .ok ⟨_, true⟩ => some outcome.alert_id
      | _ => none

/-! ### Runs -/

/-- The database, and the alerts whose assessment has committed. -/
structure World where
  db : Database := {}
  assessed : List UUID := []

/-- One delivery or re-delivery. -/
abbrev Event := Delivery × Faults

def step (pipeline : Pipeline) (world : World) (event : Event) : World where
  db := (ingest_alert pipeline event.1 event.2 world.db).2
  assessed := world.assessed ++ (commits pipeline event.1 event.2 world.db).toList

/-- What a sequence of deliveries leaves, from an empty database. -/
def after (pipeline : Pipeline) (events : List Event) : World := Runs.run (step pipeline) {} events

/-- A stored risk and decision, and an incident the alert is linked to when the decision asks for one. -/
def Assessed (db : Database) (alert : Alert) : Prop :=
  alert.normalized_payload.risk ≠ none ∧ alert.normalized_payload.decision ≠ none ∧
    (alert.normalized_payload.decision.map Decision.action = some .OPEN_INCIDENT →
      ∃ incident ∈ db.incidents.rows, alert.incident_id = some incident.incident_id)

instance (db : Database) (alert : Alert) : Decidable (Assessed db alert) := inferInstanceAs (Decidable (_ ∧ _))

/-- No risk, no decision, and no incident. -/
def Unassessed (alert : Alert) : Prop :=
  alert.normalized_payload.risk = none ∧ alert.normalized_payload.decision = none ∧ alert.incident_id = none

/-- Nothing keeps the assessment of a newly recorded alert from being stored: the process goes on to it, the storage works,
    and a decision that opens an incident finds an open one of the group, or has a severity and a number that is free. -/
structure Undisturbed (pipeline : Pipeline) (delivery : Delivery) (faults : Faults) (outcome : DedupeOutcome)
    (recorded : Database) : Prop where
  going_on : faults.stop ≠ some .before_assessment
  working : faults.assessment = false
  opens : (assessment pipeline delivery outcome).decision.action = .OPEN_INCIDENT →
    (∃ incident ∈ recorded.incidents.rows, incident.dedupe_group_key = outcome.group_key ∧ incident.status = .OPEN) ∨
    ((assessment pipeline delivery outcome).decision.severity ≠ none ∧ NextFree recorded delivery.received_at.instant)

/-- A delivery of a run is the one that records an alert, with the answer of the deduplicator. -/
structure Records (pipeline : Pipeline) (before : List Event) (delivery : Delivery) (faults : Faults)
    (outcome : DedupeOutcome) (recorded : Database) : Prop where
  processed : process pipeline.sha256 pipeline.window delivery.alert delivery.canonical delivery.received_at faults.dedupe
    (after pipeline before).db = (.ok outcome, recorded)
  new : outcome.status ≠ .EXACT_DUPLICATE

/-- The alerts whose assessment has committed are assessed, and the others are not. Incidents are numbered, and the first
    alert of each is stored. -/
structure Consistent (world : World) : Prop where
  stored : ∀ alert_id ∈ world.assessed, ∃ alert, world.db.alerts.get alert_id = some alert
  assessed : ∀ alert ∈ world.db.alerts.rows, alert.alert_id ∈ world.assessed → Assessed world.db alert
  unassessed : ∀ alert ∈ world.db.alerts.rows, alert.alert_id ∉ world.assessed → Unassessed alert
  numbered : Numbered world.db
  primary : ∀ incident ∈ world.db.incidents.rows, ∃ alert, world.db.alerts.get incident.primary_alert_id = some alert

/-! ### One delivery -/

/-- How a delivery ends: without a success, as an exact duplicate, with an assessment that was rolled back, or with one
    that was committed. -/
private inductive Handled (pipeline : Pipeline) (delivery : Delivery) (fault : Bool) (db : Database) (answer : Option Answer)
    (db' : Database) (committed : Option UUID) : Prop
  | refused (result : Except Error DedupeOutcome)
      (processed : process pipeline.sha256 pipeline.window delivery.alert delivery.canonical delivery.received_at fault db =
        (result, db'))
      (failed : ∀ content, answer ≠ some (.success content)) (still : committed = none)
  | duplicate (outcome : DedupeOutcome) (faults : Faults)
      (processed : process pipeline.sha256 pipeline.window delivery.alert delivery.canonical delivery.received_at fault db =
        (.ok outcome, db'))
      (status : outcome.status = .EXACT_DUPLICATE) (echoed : answer = some (echo delivery outcome faults db'))
      (still : committed = none)
  | tried (outcome : DedupeOutcome) (recorded assessed : Database)
      (processed : process pipeline.sha256 pipeline.window delivery.alert delivery.canonical delivery.received_at fault db =
        (.ok outcome, recorded))
      (status : outcome.status ≠ .EXACT_DUPLICATE)
      (persisted : (assessed = recorded ∧ committed = none) ∨ ∃ incident_id, committed = some outcome.alert_id ∧
        assess (assessment pipeline delivery outcome) recorded = .ok (incident_id, assessed))
      (alerts : db'.alerts = assessed.alerts) (incidents : db'.incidents = assessed.incidents)
      (named : ∀ content, answer = some (.success content) →
        content.alert_id = outcome.alert_id ∧ content.status_code = 202 ∧
        content.normalized.alert_id = outcome.canonical_alert.alert_id)

private theorem correlate_alert_untouched (pipeline : Pipeline) (delivery : Delivery) (alert_id : UUID) (fault : Bool)
    (db : Database) : (correlate_alert pipeline delivery alert_id fault db).2.alerts = db.alerts ∧
      (correlate_alert pipeline delivery alert_id fault db).2.incidents = db.incidents := by
  have untouched := correlate_untouched pipeline.correlation_window alert_id delivery.received_at fault db
  unfold correlate_alert
  split <;> rename_i same <;> rw [same] at untouched <;> exact ⟨untouched.alerts, untouched.incidents⟩

private theorem finish_named {pipeline : Pipeline} {delivery : Delivery} {outcome : DedupeOutcome} {faults : Faults}
    {result : AssessmentPersistResult} {db : Database} (status : outcome.status ≠ .EXACT_DUPLICATE) :
    (finish pipeline delivery outcome faults result db).2.alerts = db.alerts ∧
    (finish pipeline delivery outcome faults result db).2.incidents = db.incidents ∧
    ∀ content, (finish pipeline delivery outcome faults result db).1 = some (.success content) →
      content.alert_id = outcome.alert_id ∧ content.status_code = 202 ∧
      content.normalized.alert_id = outcome.canonical_alert.alert_id := by
  obtain ⟨alerts, incidents⟩ := correlate_alert_untouched pipeline delivery outcome.alert_id faults.correlation db
  rw [finish]
  split
  · exact ⟨rfl, rfl, fun content same => by contradiction⟩
  · dsimp only
    split
    · exact ⟨alerts, incidents, fun content same => by contradiction⟩
    · refine ⟨alerts, incidents, ?_⟩
      intro content same
      have new : (outcome.status == .EXACT_DUPLICATE) = false := by simpa using status
      rw [success, new] at same
      cases same
      exact ⟨rfl, rfl, rfl⟩

private theorem refusal_fails (e : Error) (content : Success) : some (refusal e) ≠ some (.success content) := by
  cases e <;> simp [refusal, internal_error]

private theorem ingest_handled (pipeline : Pipeline) (delivery : Delivery) (faults : Faults) (db : Database) :
    Handled pipeline delivery faults.dedupe db (ingest_alert pipeline delivery faults db).1
      (ingest_alert pipeline delivery faults db).2 (commits pipeline delivery faults db) := by
  rw [ingest_alert, commits]
  rcases processed : process pipeline.sha256 pipeline.window delivery.alert delivery.canonical delivery.received_at
    faults.dedupe db with ⟨result, recorded⟩
  cases result with
  | error e => exact .refused (.error e) processed (refusal_fails e) rfl
  | ok outcome =>
    dsimp only
    by_cases stopped : faults.stop = some .before_assessment
    · rw [if_pos stopped, if_pos (.inl stopped)]
      exact .refused (.ok outcome) processed (fun content same => by contradiction) rfl
    · rw [if_neg stopped]
      by_cases status : outcome.status = .EXACT_DUPLICATE
      · rw [if_pos status, if_pos (.inr status)]
        exact .duplicate outcome faults processed status rfl rfl
      · rw [if_neg status, if_neg (fun either => either.elim stopped status)]
        rcases persist_assessment_cases (assessment pipeline delivery outcome) faults.assessment recorded with
          ⟨incident_id, assessed, same, _, executed⟩ | ⟨result, same, never⟩
        · rw [same]
          obtain ⟨alerts, incidents, named⟩ :=
            @finish_named pipeline delivery outcome faults ⟨incident_id, true⟩ assessed status
          exact .tried outcome recorded assessed processed status (.inr ⟨incident_id, rfl, executed⟩) alerts incidents named
        · rw [same]
          cases result with
          | error e =>
            have failed : ∀ content, some internal_error ≠ some (.success content) := by simp [internal_error]
            exact .tried outcome recorded recorded processed status (.inl ⟨rfl, rfl⟩) rfl rfl
              (fun content same => absurd same (failed content))
          | ok result =>
            obtain ⟨incident_id, persisted⟩ := result
            cases persisted with
            | true => exact absurd rfl (never incident_id)
            | false =>
              obtain ⟨alerts, incidents, named⟩ :=
                @finish_named pipeline delivery outcome faults ⟨incident_id, false⟩ recorded status
              exact .tried outcome recorded recorded processed status (.inl ⟨rfl, rfl⟩) alerts incidents named

/-! ### Assessed and unassessed alerts -/

section
variable {db db' : Database} {assessed : List UUID}

private theorem assessed_mono {alert : Alert} (kept : ∀ incident ∈ db.incidents.rows, incident ∈ db'.incidents.rows)
    (done : Assessed db alert) : Assessed db' alert := by
  refine ⟨done.1, done.2.1, ?_⟩
  intro asked
  obtain ⟨incident, inside, linked⟩ := done.2.2 asked
  exact ⟨incident, kept incident inside, linked⟩

private theorem consistent_same (consistent : Consistent ⟨db, assessed⟩) (alerts : db'.alerts = db.alerts)
    (incidents : db'.incidents = db.incidents) : Consistent ⟨db', assessed⟩ := by
  have kept : ∀ incident ∈ db.incidents.rows, incident ∈ db'.incidents.rows := by rw [incidents]; exact fun _ inside => inside
  constructor
  · intro alert_id done
    rw [alerts]
    exact consistent.stored alert_id done
  · intro alert inside done
    rw [alerts] at inside
    exact assessed_mono kept (consistent.assessed alert inside done)
  · intro alert inside open_end
    rw [alerts] at inside
    exact consistent.unassessed alert inside open_end
  · unfold Numbered
    rw [incidents]
    exact consistent.numbered
  · rw [incidents, alerts]
    exact consistent.primary

/-- A newly recorded alert is not assessed yet. -/
private theorem consistent_recorded {row : Alert} (consistent : Consistent ⟨db, assessed⟩)
    (inserted : db.alerts.insert row = some db'.alerts) (incidents : db'.incidents = db.incidents) (new : Unassessed row) :
    Consistent ⟨db', assessed⟩ := by
  have kept : ∀ incident ∈ db.incidents.rows, incident ∈ db'.incidents.rows := by rw [incidents]; exact fun _ inside => inside
  have stays : ∀ alert_id, (∃ alert, db.alerts.get alert_id = some alert) →
      ∃ alert, db'.alerts.get alert_id = some alert := by
    rintro alert_id ⟨alert, found⟩
    exact ⟨alert, Table.get_eq_some.mpr ⟨(Table.mem_insert inserted).mpr (.inl (Table.get_mem found)), Table.get_key found⟩⟩
  constructor
  · exact fun alert_id done => stays alert_id (consistent.stored alert_id done)
  · intro alert inside done
    rcases (Table.mem_insert inserted).mp inside with old | rfl
    · exact assessed_mono kept (consistent.assessed alert old done)
    · obtain ⟨other, found⟩ := consistent.stored alert.alert_id done
      rw [Table.insert_fresh inserted] at found
      contradiction
  · intro alert inside open_end
    rcases (Table.mem_insert inserted).mp inside with old | rfl
    · exact consistent.unassessed alert old open_end
    · exact new
  · unfold Numbered
    rw [incidents]
    exact consistent.numbered
  · rw [incidents]
    exact fun incident inside => stays _ (consistent.primary incident inside)

private theorem committed_incidents {request : Request} {incident_id : Option String}
    (committed : Committed request db incident_id db') :
    (∀ incident ∈ db.incidents.rows, incident ∈ db'.incidents.rows) ∧
      (∀ incident ∈ db'.incidents.rows, incident ∈ db.incidents.rows ∨ incident.primary_alert_id = request.alert_id) ∧
      (request.decision.action = .OPEN_INCIDENT →
        ∃ incident ∈ db'.incidents.rows, incident_id = some incident.incident_id) := by
  cases committed with
  | routed other => exact ⟨fun _ inside => inside, fun _ inside => .inl inside, fun asked => absurd asked other⟩
  | created asked none_open new =>
    obtain ⟨_, _, _, rfl, _, _, _, inserted, rfl⟩ := create_ok new
    refine ⟨fun _ inside => (Table.mem_insert inserted).mpr (.inl inside), fun incident inside => ?_, fun _ => ?_⟩
    · rcases (Table.mem_insert inserted).mp inside with old | rfl
      · exact .inl old
      · exact .inr rfl
    · exact ⟨_, (Table.mem_insert inserted).mpr (.inr rfl), rfl⟩
  | attached asked oldest joined =>
    obtain ⟨_, _, rfl⟩ := attach_ok joined
    exact ⟨fun _ inside => inside, fun _ inside => .inl inside, fun _ => ⟨_, (open_for_group_some oldest).1, rfl⟩⟩

/-- A committed assessment that stores the risk and the decision it was called with. -/
private theorem consistent_committed {request : Request} {incident_id : Option String} {alert : Alert}
    (consistent : Consistent ⟨db, assessed⟩) (found : db.alerts.get request.alert_id = some alert)
    (risk : request.canonical.risk ≠ none) (decision : request.canonical.decision = some request.decision)
    (committed : Committed request db incident_id db') : Consistent ⟨db', assessed ++ [request.alert_id]⟩ := by
  obtain ⟨kept, known, opened⟩ := committed_incidents committed
  have alerts := committed.alerts
  rw [found, Option.map_some] at alerts
  have member : ∀ row, row ∈ db'.alerts.rows → row = assessed_row request incident_id alert ∨
      (row ∈ db.alerts.rows ∧ row.alert_id ≠ request.alert_id) := by
    intro row inside
    have here := alerts row.alert_id
    rw [Table.get_of_mem inside] at here
    by_cases mine : row.alert_id = request.alert_id
    · rw [if_pos mine] at here
      exact .inl (Option.some.inj here)
    · rw [if_neg mine] at here
      exact .inr ⟨Table.get_mem here.symm, mine⟩
  have stays : ∀ alert_id, (∃ alert, db.alerts.get alert_id = some alert) →
      ∃ alert, db'.alerts.get alert_id = some alert := by
    intro alert_id stored
    rw [alerts]
    by_cases mine : alert_id = request.alert_id
    · rw [if_pos mine]; exact ⟨_, rfl⟩
    · rw [if_neg mine]; exact stored
  constructor
  · intro alert_id done
    rcases List.mem_append.mp done with earlier | last
    · exact stays alert_id (consistent.stored alert_id earlier)
    · rw [List.mem_singleton.mp last]
      exact stays _ ⟨alert, found⟩
  · intro row inside done
    rcases member row inside with rfl | ⟨old, other⟩
    · simp only [Assessed, assessed_row, decision, Option.map_some, Option.some.injEq]
      refine ⟨risk, Option.some_ne_none _, ?_⟩
      intro asked
      obtain ⟨incident, there, same⟩ := opened asked
      exact ⟨incident, there, by rw [same]; rfl⟩
    · rcases List.mem_append.mp done with earlier | last
      · exact assessed_mono kept (consistent.assessed row old earlier)
      · exact absurd (List.mem_singleton.mp last) other
  · intro row inside open_end
    rcases member row inside with rfl | ⟨old, _⟩
    · have key : alert.alert_id = request.alert_id := Table.get_key found
      exact absurd (List.mem_append.mpr (.inr (List.mem_singleton.mpr key))) open_end
    · exact consistent.unassessed row old (fun earlier => open_end (List.mem_append.mpr (.inl earlier)))
  · exact committed.numbered consistent.numbered
  · intro incident inside
    rcases known incident inside with old | mine
    · exact stays _ (consistent.primary incident old)
    · rw [mine]
      exact stays _ ⟨alert, found⟩

/-- Deduplication records unassessed alerts, and its answer names a stored one, for an exact duplicate one that was there. -/
private theorem processed_consistent {pipeline : Pipeline} {delivery : Delivery} {fault : Bool}
    {result : Except Error DedupeOutcome} (consistent : Consistent ⟨db, assessed⟩)
    (processed : process pipeline.sha256 pipeline.window delivery.alert delivery.canonical delivery.received_at fault db =
      (result, db')) :
    Consistent ⟨db', assessed⟩ ∧ ∀ outcome, result = .ok outcome →
      (∃ alert, db'.alerts.get outcome.alert_id = some alert) ∧
      (outcome.status = .EXACT_DUPLICATE → db'.alerts = db.alerts) := by
  rcases process_cases pipeline.sha256 pipeline.window delivery.alert delivery.canonical delivery.received_at fault db with
    ⟨e, same⟩ | ⟨result', after, group_key, identity, fingerprint, decision, same, executed, answered⟩
  · rw [same] at processed
    cases processed
    exact ⟨consistent, fun outcome ok => by contradiction⟩
  · rw [same] at processed
    cases processed
    obtain ⟨incidents, ⟨duplicate, alerts, alert, found⟩ | ⟨new, row, dedupe, inserted, key, unlinked, payload, _⟩⟩ :=
      deliver_recorded executed
    · refine ⟨consistent_same consistent alerts incidents, ?_⟩
      intro outcome ok
      obtain ⟨dedupe, rfl⟩ := answered outcome ok
      exact ⟨⟨alert, by rw [alerts]; exact found⟩, fun _ => alerts⟩
    · have unassessed : Unassessed row := by rw [Unassessed, payload]; exact ⟨rfl, rfl, unlinked⟩
      refine ⟨consistent_recorded consistent inserted incidents unassessed, ?_⟩
      intro outcome ok
      obtain ⟨dedupe, rfl⟩ := answered outcome ok
      refine ⟨⟨row, ?_⟩, fun duplicate => absurd duplicate new⟩
      exact Table.get_eq_some.mpr ⟨(Table.mem_insert inserted).mpr (.inr rfl), key⟩

end

/-- What one delivery does: the world stays consistent, a success names a stored alert, and an exact duplicate changes
    no alert and no assessment. -/
private theorem step_consistent (pipeline : Pipeline) {world : World} (consistent : Consistent world) (event : Event) :
    Consistent (step pipeline world event) ∧
    ∀ content, (ingest_alert pipeline event.1 event.2 world.db).1 = some (.success content) →
      (∃ alert, (step pipeline world event).db.alerts.get content.alert_id = some alert) ∧
      (content.status_code = 200 → (step pipeline world event).db.alerts = world.db.alerts ∧
        (step pipeline world event).assessed = world.assessed) := by
  obtain ⟨delivery, faults⟩ := event
  obtain ⟨db, assessed⟩ := world
  have handled := ingest_handled pipeline delivery faults db
  rw [step]
  dsimp only
  generalize (ingest_alert pipeline delivery faults db).1 = answer at handled
  generalize (ingest_alert pipeline delivery faults db).2 = db' at handled
  generalize commits pipeline delivery faults db = committed at handled
  cases handled with
  | refused result processed failed still =>
    subst still
    rw [Option.toList_none, List.append_nil]
    exact ⟨(processed_consistent consistent processed).1, fun content answered => absurd answered (failed content)⟩
  | duplicate outcome faults processed status echoed still =>
    subst still
    rw [Option.toList_none, List.append_nil]
    obtain ⟨consistent, named⟩ := processed_consistent consistent processed
    refine ⟨consistent, ?_⟩
    intro content answered
    rw [echoed] at answered
    cases answered
    exact ⟨(named outcome rfl).1, fun _ => ⟨(named outcome rfl).2 status, rfl⟩⟩
  | tried outcome recorded assessed' processed status persisted alerts incidents named =>
    obtain ⟨consistent, stored⟩ := processed_consistent consistent processed
    have done : Consistent ⟨assessed', assessed ++ committed.toList⟩ ∧
        ∃ alert, assessed'.alerts.get outcome.alert_id = some alert := by
      rcases persisted with ⟨rfl, rfl⟩ | ⟨incident_id, rfl, executed⟩
      · rw [Option.toList_none, List.append_nil]
        exact ⟨consistent, (stored outcome rfl).1⟩
      · obtain ⟨⟨alert, found⟩, committed⟩ := assess_ok executed
        have risk : (assessment pipeline delivery outcome).canonical.risk ≠ none := Option.some_ne_none _
        have decision : (assessment pipeline delivery outcome).canonical.decision =
            some (assessment pipeline delivery outcome).decision := rfl
        have after := consistent_committed consistent found risk decision committed
        refine ⟨after, after.stored outcome.alert_id ?_⟩
        exact List.mem_append.mpr (.inr (List.mem_singleton.mpr rfl))
    refine ⟨consistent_same done.1 alerts incidents, ?_⟩
    intro content answered
    obtain ⟨id, code, _⟩ := named content answered
    refine ⟨?_, fun ok => ?_⟩
    · rw [id, alerts]; exact done.2
    · rw [code] at ok; contradiction

/-! ### Stored payloads -/

/-- The payload of an alert of record once its assessment is stored. -/
def scored_payload (pipeline : Pipeline) (canonical : CanonicalAlert) (decided_at : Datetime) : CanonicalAlert :=
  let risk := pipeline.score canonical
  { canonical with risk := some risk, decision := some (pipeline.decide risk canonical decided_at) }

/-- What one delivery makes of a payload: the recorded alert, with or without its assessment. -/
def PayloadOf (pipeline : Pipeline) (delivery : Delivery) (payload : CanonicalAlert) : Prop :=
  ∃ dedupe, payload = { delivery.canonical with dedupe := some dedupe } ∨
    payload = scored_payload pipeline { delivery.canonical with dedupe := some dedupe } delivery.received_at

private theorem processed_payloads {pipeline : Pipeline} {delivery : Delivery} {fault : Bool} {db db' : Database}
    {result : Except Error DedupeOutcome}
    (processed : process pipeline.sha256 pipeline.window delivery.alert delivery.canonical delivery.received_at fault db =
      (result, db')) :
    (∀ row ∈ db'.alerts.rows, row ∈ db.alerts.rows ∨ PayloadOf pipeline delivery row.normalized_payload) ∧
    ∀ outcome, result = .ok outcome → outcome.status ≠ .EXACT_DUPLICATE →
      ∃ dedupe, outcome.canonical_alert = { delivery.canonical with dedupe := some dedupe } := by
  rcases process_cases pipeline.sha256 pipeline.window delivery.alert delivery.canonical delivery.received_at fault db with
    ⟨e, same⟩ | ⟨result', after, group_key, identity, fingerprint, decision, same, executed, answered⟩
  · rw [same] at processed
    cases processed
    exact ⟨fun row inside => .inl inside, fun outcome ok => by contradiction⟩
  · rw [same] at processed
    cases processed
    obtain ⟨_, ⟨duplicate, alerts, _⟩ | ⟨_, row, dedupe, inserted, _, _, payload, recorded⟩⟩ := deliver_recorded executed
    · refine ⟨fun row inside => .inl (alerts ▸ inside), ?_⟩
      intro outcome ok new
      obtain ⟨dedupe, rfl⟩ := answered outcome ok
      exact absurd duplicate new
    · refine ⟨?_, ?_⟩
      · intro other inside
        rcases (Table.mem_insert inserted).mp inside with old | rfl
        · exact .inl old
        · exact .inr ⟨dedupe, .inl payload⟩
      · intro outcome ok _
        obtain ⟨_, rfl⟩ := answered outcome ok
        exact ⟨dedupe, recorded⟩

/-- A delivery leaves every stored payload as it was, but for the one it records. -/
theorem ingest_payloads (pipeline : Pipeline) (delivery : Delivery) (faults : Faults) (db : Database) :
    ∀ row ∈ (ingest_alert pipeline delivery faults db).2.alerts.rows,
      (∃ old ∈ db.alerts.rows, old.alert_id = row.alert_id ∧ row.normalized_payload = old.normalized_payload) ∨
      PayloadOf pipeline delivery row.normalized_payload := by
  have handled := ingest_handled pipeline delivery faults db
  generalize (ingest_alert pipeline delivery faults db).1 = answer at handled
  generalize (ingest_alert pipeline delivery faults db).2 = db' at handled ⊢
  have recorded : ∀ {row : Alert}, row ∈ db.alerts.rows ∨ PayloadOf pipeline delivery row.normalized_payload →
      (∃ old ∈ db.alerts.rows, old.alert_id = row.alert_id ∧ row.normalized_payload = old.normalized_payload) ∨
      PayloadOf pipeline delivery row.normalized_payload :=
    fun either => either.imp (fun old => ⟨_, old, rfl, rfl⟩) id
  intro row inside
  cases handled with
  | refused result processed _ _ => exact recorded ((processed_payloads processed).1 row inside)
  | duplicate outcome faults processed _ _ _ => exact recorded ((processed_payloads processed).1 row inside)
  | tried outcome written assessed processed status persisted alerts _ _ =>
    obtain ⟨old, fresh⟩ := processed_payloads processed
    rw [alerts] at inside
    rcases persisted with ⟨rfl, _⟩ | ⟨incident_id, _, executed⟩
    · exact recorded (old row inside)
    · have got := (assess_ok executed).2.alerts row.alert_id
      rw [Table.get_of_mem inside] at got
      by_cases mine : row.alert_id = outcome.alert_id
      · obtain ⟨dedupe, canonical⟩ := fresh outcome rfl status
        have own : row.alert_id = (assessment pipeline delivery outcome).alert_id := mine
        rw [if_pos own] at got
        obtain ⟨before, _, rfl⟩ := Option.map_eq_some_iff.mp got.symm
        refine .inr ⟨dedupe, .inr ?_⟩
        rw [← canonical]
        rfl
      · have other : row.alert_id ≠ (assessment pipeline delivery outcome).alert_id := mine
        rw [if_neg other] at got
        exact recorded (old row (Table.get_mem got.symm))

/-- After every run, each alert is assessed exactly when its assessment has committed. -/
theorem run_consistent (pipeline : Pipeline) (events : List Event) : Consistent (after pipeline events) := by
  have empty : Consistent {} := by
    constructor
    · intro alert_id none; exact absurd none List.not_mem_nil
    · intro alert none; exact absurd none List.not_mem_nil
    · intro alert none; exact absurd none List.not_mem_nil
    · intro incident none; exact absurd none List.not_mem_nil
    · intro incident none; exact absurd none List.not_mem_nil
  have keeps : ∀ world event, Consistent world → Consistent (step pipeline world event) :=
    fun world event consistent => (step_consistent pipeline consistent event).1
  exact Runs.invariant keeps empty events

/-! ### The delivery that records an alert -/

section
variable {pipeline : Pipeline} {delivery : Delivery} {faults : Faults} {db recorded : Database} {outcome : DedupeOutcome}
  {assessed : List UUID}

/-- Only a newly recorded alert has its assessment committed. -/
private theorem commits_some {alert_id : UUID} (committed : commits pipeline delivery faults db = some alert_id) :
    ∃ outcome recorded, process pipeline.sha256 pipeline.window delivery.alert delivery.canonical delivery.received_at
      faults.dedupe db = (.ok outcome, recorded) ∧ outcome.status ≠ .EXACT_DUPLICATE ∧ outcome.alert_id = alert_id := by
  rw [commits] at committed
  rcases processed : process pipeline.sha256 pipeline.window delivery.alert delivery.canonical delivery.received_at
    faults.dedupe db with ⟨result, recorded⟩
  rw [processed] at committed
  cases result with
  | error e => cases committed
  | ok outcome =>
    dsimp only at committed
    by_cases kept : faults.stop = some .before_assessment ∨ outcome.status = .EXACT_DUPLICATE
    · rw [if_pos kept] at committed
      cases committed
    · rw [if_neg kept] at committed
      refine ⟨outcome, recorded, rfl, fun duplicate => kept (.inr duplicate), ?_⟩
      split at committed
      · exact Option.some_inj.mp committed
      · cases committed

/-- A delivery that records an alert records one that was not there, and leaves the incidents. -/
private theorem recorded_fresh
    (processed : process pipeline.sha256 pipeline.window delivery.alert delivery.canonical delivery.received_at
      faults.dedupe db = (.ok outcome, recorded)) (new : outcome.status ≠ .EXACT_DUPLICATE) :
    db.alerts.get outcome.alert_id = none ∧ recorded.incidents = db.incidents ∧
    ∃ alert, recorded.alerts.get outcome.alert_id = some alert := by
  have incidents : recorded.incidents = db.incidents := by
    rcases process_cases pipeline.sha256 pipeline.window delivery.alert delivery.canonical delivery.received_at
      faults.dedupe db with ⟨e, same⟩ | ⟨_, _, _, _, _, _, same, executed, _⟩
    · rw [processed] at same
      cases same
    · rw [processed] at same
      cases same
      exact (deliver_recorded executed).1
  rcases process_records pipeline.sha256 pipeline.window delivery.alert delivery.canonical delivery.received_at
    faults.dedupe db with ⟨_, duplicates⟩ | ⟨_, _, row, same, _, key, inserted⟩
  · rw [processed] at duplicates
    exact absurd (duplicates outcome rfl) new
  · rw [processed] at same
    cases same
    rw [← key]
    refine ⟨Table.insert_fresh inserted, incidents, row, ?_⟩
    exact Table.get_of_mem ((Table.mem_insert inserted).mpr (.inr rfl))

/-- Its assessment commits exactly when nothing keeps it from being stored. -/
private theorem commits_iff (consistent : Consistent ⟨db, assessed⟩)
    (processed : process pipeline.sha256 pipeline.window delivery.alert delivery.canonical delivery.received_at
      faults.dedupe db = (.ok outcome, recorded)) (new : outcome.status ≠ .EXACT_DUPLICATE) :
    commits pipeline delivery faults db = some outcome.alert_id ↔
      Undisturbed pipeline delivery faults outcome recorded := by
  obtain ⟨fresh, incidents, alert, found⟩ := recorded_fresh processed new
  have numbered : Numbered recorded := by
    unfold Numbered
    rw [incidents]
    exact consistent.numbered
  have first : ∀ incident ∈ recorded.incidents.rows, incident.primary_alert_id ≠ outcome.alert_id := by
    intro incident inside same
    rw [incidents] at inside
    obtain ⟨_, stored⟩ := consistent.primary incident inside
    rw [same, fresh] at stored
    cases stored
  have persists := @persist_assessment_iff recorded alert (assessment pipeline delivery outcome) faults.assessment numbered
    found
  have reported : commits pipeline delivery faults db = some outcome.alert_id ↔
      faults.stop ≠ some .before_assessment ∧ ∃ incident_id,
        (persist_assessment (assessment pipeline delivery outcome) faults.assessment recorded).1 =
          .ok ⟨incident_id, true⟩ := by
    rw [commits, processed]
    dsimp only
    by_cases stopped : faults.stop = some .before_assessment
    · rw [if_pos (.inl stopped)]
      exact iff_of_false (fun none => by cases none) (fun both => both.1 stopped)
    · rw [if_neg (fun either => either.elim stopped new), and_iff_right stopped]
      cases (persist_assessment (assessment pipeline delivery outcome) faults.assessment recorded).1 with
      | error e => exact iff_of_false (fun none => by cases none) (fun ⟨_, done⟩ => by cases done)
      | ok result =>
        obtain ⟨incident_id, persisted⟩ := result
        cases persisted with
        | false => exact iff_of_false (fun none => by cases none) (fun ⟨_, done⟩ => by cases done)
        | true => exact iff_of_true rfl ⟨incident_id, rfl⟩
  rw [reported, persists]
  constructor
  · rintro ⟨going_on, working, admitted⟩
    exact ⟨going_on, working, fun asked => (admitted asked).imp id (And.imp id Creatable.numbered)⟩
  · rintro ⟨going_on, working, opens⟩
    exact ⟨going_on, working, fun asked => (opens asked).imp id (And.imp id (fun free => ⟨first, free⟩))⟩

/-- After a delivery the same alerts are stored as after its deduplication. -/
private theorem ingest_stored (alert_id : UUID) :
    (∃ alert, (ingest_alert pipeline delivery faults db).2.alerts.get alert_id = some alert) ↔
    ∃ alert, (process pipeline.sha256 pipeline.window delivery.alert delivery.canonical delivery.received_at faults.dedupe
      db).2.alerts.get alert_id = some alert := by
  have handled := ingest_handled pipeline delivery faults db
  generalize (ingest_alert pipeline delivery faults db).1 = answer at handled
  generalize (ingest_alert pipeline delivery faults db).2 = db' at handled ⊢
  cases handled with
  | refused result processed _ _ => rw [processed]
  | duplicate outcome faults processed _ _ _ => rw [processed]
  | tried outcome recorded assessed processed status persisted alerts _ _ =>
    rw [processed, alerts]
    rcases persisted with ⟨rfl, _⟩ | ⟨incident_id, _, executed⟩
    · exact Iff.rfl
    · obtain ⟨⟨alert, found⟩, committed⟩ := assess_ok executed
      rw [committed.alerts]
      by_cases mine : alert_id = (assessment pipeline delivery outcome).alert_id
      · rw [if_pos mine, mine, found]
        exact iff_of_true ⟨_, rfl⟩ ⟨_, rfl⟩
      · rw [if_neg mine]

/-- What is answered as new is stored. -/
theorem new_stored {content : Success}
    (answered : (ingest_alert pipeline delivery faults db).1 = some (.success content)) (new : content.duplicate = false) :
    ∃ alert, (ingest_alert pipeline delivery faults db).2.alerts.get content.normalized.alert_id = some alert := by
  rw [ingest_stored]
  have handled := ingest_handled pipeline delivery faults db
  rw [answered] at handled
  cases handled with
  | refused result _ failed _ => exact absurd rfl (failed content)
  | duplicate outcome faults _ status echoed _ =>
    cases echoed
    rw [status] at new
    cases new
  | tried outcome recorded assessed processed status _ _ _ named =>
    rw [(named content rfl).2.2, process_new_named processed status]
    rcases process_records pipeline.sha256 pipeline.window delivery.alert delivery.canonical delivery.received_at
      faults.dedupe db with ⟨_, duplicates⟩ | ⟨_, _, row, same, _, key, inserted⟩
    · rw [processed] at duplicates
      exact absurd (duplicates outcome rfl) status
    · rw [processed] at same
      cases same
      rw [processed, ← key]
      exact ⟨row, Table.get_of_mem ((Table.mem_insert inserted).mpr (.inr rfl))⟩
end

/-- Each stored alert was recorded by a delivery of the run, and its assessment is stored exactly when nothing kept it from
    it then: no later delivery assesses it, or undoes that. -/
private theorem recorded_by (pipeline : Pipeline) (events : List Event) : ∀ alert_id,
    (∃ alert, (after pipeline events).db.alerts.get alert_id = some alert) →
    ∃ before delivery faults rest outcome recorded, events = before ++ (delivery, faults) :: rest ∧
      Records pipeline before delivery faults outcome recorded ∧ outcome.alert_id = alert_id ∧
      (alert_id ∈ (after pipeline events).assessed ↔ Undisturbed pipeline delivery faults outcome recorded) := by
  induction events using List.reverseRecOn with
  | nil =>
    rintro alert_id ⟨alert, none⟩
    cases none
  | append_singleton events event ih =>
    obtain ⟨delivery, faults⟩ := event
    intro alert_id stored
    have consistent := run_consistent pipeline events
    have last : after pipeline (events ++ [(delivery, faults)]) = step pipeline (after pipeline events) (delivery, faults) :=
      Runs.run_append _ _ _ _
    rw [last] at stored ⊢
    have processed_stored := ingest_stored alert_id |>.mp stored
    by_cases old : ∃ alert, (after pipeline events).db.alerts.get alert_id = some alert
    · -- What is stored already is not recorded again, so its assessment does not commit now.
      obtain ⟨before, first, known_faults, rest, outcome, recorded, rfl, records, key, assessed⟩ := ih alert_id old
      refine ⟨before, first, known_faults, rest ++ [(delivery, faults)], outcome, recorded, ?_, records, key, ?_⟩
      · rw [List.append_assoc, List.cons_append]
      · rw [← assessed]
        unfold step
        dsimp only
        rw [List.mem_append, or_iff_left]
        intro committed
        obtain ⟨_, _, processed, new, same⟩ := commits_some (Option.mem_toList.mp committed)
        obtain ⟨alert, found⟩ := old
        rw [← same, (recorded_fresh processed new).1] at found
        cases found
    · -- What is stored now for the first time is what this delivery records.
      have absent : alert_id ∉ (after pipeline events).assessed := fun done => old (consistent.stored alert_id done)
      rcases process_records pipeline.sha256 pipeline.window delivery.alert delivery.canonical delivery.received_at
        faults.dedupe (after pipeline events).db with ⟨same, _⟩ | ⟨outcome, recorded, row, processed, new, key, inserted⟩
      · rw [same] at processed_stored
        exact absurd processed_stored old
      · rw [processed] at processed_stored
        obtain ⟨alert, found⟩ := processed_stored
        have mine : outcome.alert_id = alert_id := by
          rw [← key]
          rcases (Table.mem_insert inserted).mp (Table.get_mem found) with earlier | rfl
          · exact absurd ⟨alert, Table.get_eq_some.mpr ⟨earlier, Table.get_key found⟩⟩ old
          · exact Table.get_key found
        refine ⟨events, delivery, faults, [], outcome, recorded, rfl, ⟨processed, new⟩, mine, ?_⟩
        rw [← commits_iff consistent processed new, mine]
        unfold step
        dsimp only
        rw [List.mem_append, or_iff_right absent, Option.mem_toList]
        rfl

/-- A success names a stored alert. Where nothing kept the delivery that recorded it from storing its assessment, its risk and
    decision are stored, and it is linked when the decision opens an incident; where something did, it has none of them. An
    exact duplicate leaves that as it was. -/
theorem success_names_alert (pipeline : Pipeline) (earlier : List Event) (delivery : Delivery) (faults : Faults)
    (content : Success)
    (answered : (ingest_alert pipeline delivery faults (after pipeline earlier).db).1 = some (.success content)) :
    let world := after pipeline (earlier ++ [(delivery, faults)])
    (∃ alert, world.db.alerts.get content.alert_id = some alert ∧
      ∃ before first first_faults rest outcome recorded,
        earlier ++ [(delivery, faults)] = before ++ (first, first_faults) :: rest ∧
        Records pipeline before first first_faults outcome recorded ∧ outcome.alert_id = content.alert_id ∧
        (Undisturbed pipeline first first_faults outcome recorded → Assessed world.db alert) ∧
        (¬ Undisturbed pipeline first first_faults outcome recorded → Unassessed alert)) ∧
    (content.status_code = 200 → world.db.alerts = (after pipeline earlier).db.alerts ∧
      world.assessed = (after pipeline earlier).assessed) := by
  intro world
  have last : world = step pipeline (after pipeline earlier) (delivery, faults) := Runs.run_append _ _ _ _
  obtain ⟨consistent, named⟩ := step_consistent pipeline (run_consistent pipeline earlier) (delivery, faults)
  rw [← last] at consistent named
  obtain ⟨⟨alert, found⟩, kept⟩ := named content answered
  obtain ⟨before, first, first_faults, rest, outcome, recorded, split, records, key, assessed⟩ :=
    recorded_by pipeline (earlier ++ [(delivery, faults)]) content.alert_id ⟨alert, found⟩
  have own : alert.alert_id = content.alert_id := Table.get_key found
  refine ⟨⟨alert, found, before, first, first_faults, rest, outcome, recorded, split, records, key, ?_, ?_⟩, kept⟩
  · intro undisturbed
    exact consistent.assessed alert (Table.get_mem found) (own ▸ assessed.mpr undisturbed)
  · intro disturbed
    exact consistent.unassessed alert (Table.get_mem found) (fun done => disturbed (assessed.mp (own ▸ done)))

/-- A pipeline that opens an incident for every alert. -/
def alarming : Pipeline where
  sha256 := Deduplication.failed_login_digest
  window := ⟨900, by decide⟩
  correlation_window := ⟨900, by decide⟩
  score _ := { score := 85, tier := .CRITICAL, engine_version := "1.0", factors := [], summary := "" }
  decide _ _ decided_at := { action := .OPEN_INCIDENT, severity := some .SEV1, decided_at }

/-- The delivery of a failed login, under the id it would be recorded with. -/
def failed_login_delivery (alert_id : UUID) (received_at : Int) : Delivery where
  alert := Deduplication.failed_login 3
  alert_id := alert_id
  received_at := Datetime.of_instant received_at
  source_event := {
    rule := { id := "5710", level := 5, description := "sshd: invalid user" }
    agent := { id := "001", name := "web-1" } }

theorem failed_login_names_alert : ∃ content,
    (ingest_alert alarming (failed_login_delivery "a1" 0) {} {}).1 = some (.success content) ∧
    let world := after alarming [(failed_login_delivery "a1" 0, {})]
    (∃ alert, world.db.alerts.get content.alert_id = some alert ∧
      ∃ before first first_faults rest outcome recorded,
        [(failed_login_delivery "a1" 0, {})] = before ++ (first, first_faults) :: rest ∧
        Records alarming before first first_faults outcome recorded ∧ outcome.alert_id = content.alert_id ∧
        (Undisturbed alarming first first_faults outcome recorded → Assessed world.db alert) ∧
        (¬ Undisturbed alarming first first_faults outcome recorded → Unassessed alert)) ∧
    (content.status_code = 200 → world.db.alerts = (after alarming []).db.alerts ∧
      world.assessed = (after alarming []).assessed) :=
  ⟨_, rfl, success_names_alert alarming [] (failed_login_delivery "a1" 0) {} _ rfl⟩

/-- A first delivery whose assessment is not stored, and its retry: both are answered with success, and the alert is
    never assessed. -/
theorem retry_leaves_unassessed : ¬ ∀ (pipeline : Pipeline) (earlier : List Event) (delivery : Delivery) (faults : Faults)
    (content : Success),
    (ingest_alert pipeline delivery faults (after pipeline earlier).db).1 = some (.success content) →
    let world := after pipeline (earlier ++ [(delivery, faults)])
    ∃ alert, world.db.alerts.get content.alert_id = some alert ∧ Assessed world.db alert := by
  intro always
  obtain ⟨alert, found, assessed⟩ := always alarming [(failed_login_delivery "a1" 0, { assessment := true })]
    (failed_login_delivery "a2" 1000000) {} _ rfl
  have never : ∀ alert ∈ (after alarming [(failed_login_delivery "a1" 0, { assessment := true }),
      (failed_login_delivery "a2" 1000000, {})]).db.alerts.rows, ¬ Assessed (after alarming
        [(failed_login_delivery "a1" 0, { assessment := true }), (failed_login_delivery "a2" 1000000, {})]).db alert := by
    decide
  exact never alert (Table.get_mem found) assessed

end SocTriage.Ingest
