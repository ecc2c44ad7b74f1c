import SocTriage.Service

/-!
A rule for the runs of the service. Whatever the operation and wherever it fails, what it
commits is a sequence of a few units of work, all at the time the operation read its clock; a
reflexive and transitive relation that each of them respects at such times holds between the
databases of every run.
-/
namespace SocTriage.UnitsOfWork
open Assessment Audit Incidents IncidentCallers
open Ingest (Pipeline Delivery correlate_alert)
open Notifications (N8N World)
open Deduplication (Window DeliveryDecision)

/-! ### The logs -/

/-- An entry that an operation adds beside what its unit of work stores. -/
inductive Remark : AuditEntry → Prop
  | status (incident : Incident) (previous_status : IncidentStatus) (actor : String) (notes : Option String)
    {entry : AuditEntry}
    (listed : entry ∈ audit_entries_for_incident_status incident previous_status actor notes) : Remark entry
  | containment (incident_id : String) (alert_id : UUID) (actor : String) {entry : AuditEntry}
    (listed : entry ∈ audit_entries_for_incident_containment_request incident_id alert_id actor) : Remark entry
  | auto_closed (incident : Incident) (previous_status : IncidentStatus) (ttl_seconds : Nat) (idle : Int) {entry : AuditEntry}
    (listed : entry ∈ audit_entries_for_incident_auto_closed incident previous_status ttl_seconds idle) : Remark entry
  | notification (alert_id : UUID) (status : String) (http_status : Option Int) (error_type : Option String) (attempts : Nat)
    (payload_hash webhook_host : Option String) (duration_ms : Nat) (duplicate_suppressed : Bool) {entry : AuditEntry}
    (listed : entry ∈ Notifications.audit_entries_for_notification alert_id status http_status error_type attempts
      payload_hash webhook_host duration_ms duplicate_suppressed) : Remark entry

/-- An entry of the correlation. -/
inductive Correlating : AuditEntry → Prop
  | created (context_id : String) (member_alert_ids : List UUID) (evidence_reasons : List String) :
    Correlating (audit_entry_for_correlation_context_created context_id member_alert_ids evidence_reasons)
  | linked (context_id : String) (alert_id : UUID) (evidence : List CorrelationEvidenceItem) :
    Correlating (audit_entry_for_correlation_alert_linked context_id alert_id evidence)
  | merged (kept_context_id merged_context_id : String) (bridge_alert_id : UUID) :
    Correlating (audit_entry_for_correlation_contexts_merged kept_context_id merged_context_id bridge_alert_id)

def REMARK_ACTIONS : List String :=
  [ACTION_INCIDENT_STATUS_UPDATED, ACTION_INCIDENT_ESCALATED, ACTION_INCIDENT_CONTAINMENT_REQUESTED,
    ACTION_INCIDENT_AUTO_CLOSED, "notification.attempt", "notification.duplicate_suppressed", "notification.delivered",
    "notification.failed", "notification.skipped"]

theorem Remark.action {entry : AuditEntry} (remark : Remark entry) : entry.action ∈ REMARK_ACTIONS := by
  have one : ∀ {one : AuditEntry}, one.action ∈ REMARK_ACTIONS → entry ∈ [one] → entry.action ∈ REMARK_ACTIONS :=
    fun known listed => List.mem_singleton.mp listed ▸ known
  cases remark with
  | status incident previous_status actor notes listed =>
    rcases List.mem_cons.mp listed with rfl | listed
    · exact (by decide : ACTION_INCIDENT_STATUS_UPDATED ∈ REMARK_ACTIONS)
    · split at listed
      · exact one (by decide : ACTION_INCIDENT_ESCALATED ∈ REMARK_ACTIONS) listed
      · exact absurd listed List.not_mem_nil
  | containment incident_id alert_id actor listed =>
    exact one (by decide : ACTION_INCIDENT_CONTAINMENT_REQUESTED ∈ REMARK_ACTIONS) listed
  | auto_closed incident previous_status ttl_seconds idle listed =>
    exact one (by decide : ACTION_INCIDENT_AUTO_CLOSED ∈ REMARK_ACTIONS) listed
  | notification alert_id status http_status error_type attempts payload_hash webhook_host duration_ms suppressed listed =>
    rcases List.mem_cons.mp listed with rfl | listed
    · exact (by decide : "notification.attempt" ∈ REMARK_ACTIONS)
    · split at listed
      · exact one (by decide : "notification.duplicate_suppressed" ∈ REMARK_ACTIONS) listed
      · split at listed
        · exact one (by decide : "notification.delivered" ∈ REMARK_ACTIONS) listed
        · split at listed
          · exact one (by decide : "notification.failed" ∈ REMARK_ACTIONS) listed
          · split at listed
            · exact one (by decide : "notification.skipped" ∈ REMARK_ACTIONS) listed
            · exact absurd listed List.not_mem_nil

def CORRELATION_ACTIONS : List String :=
  [ACTION_CORRELATION_CONTEXT_CREATED, ACTION_CORRELATION_ALERT_LINKED, ACTION_CORRELATION_CONTEXTS_MERGED]

theorem Correlating.action {entry : AuditEntry} (correlating : Correlating entry) : entry.action ∈ CORRELATION_ACTIONS := by
  cases correlating with
  | created => exact (by decide : ACTION_CORRELATION_CONTEXT_CREATED ∈ CORRELATION_ACTIONS)
  | linked => exact (by decide : ACTION_CORRELATION_ALERT_LINKED ∈ CORRELATION_ACTIONS)
  | merged => exact (by decide : ACTION_CORRELATION_CONTEXTS_MERGED ∈ CORRELATION_ACTIONS)

/-- The rows that are only ever appended: the feedback and the audit log. -/
def logs (db : Database) : List AnalystFeedback × List AuditEvent := (db.analyst_feedback, db.audit_log)

private theorem open_target_logs {db opened : Database} {alert_id : UUID} {peers : List Correlation.Qualified}
    {received : Int} {target_id : String} {merged_from : List String} {entries : List Audit.AuditEntry}
    (executed : Correlation.open_target db alert_id peers received = .ok (target_id, merged_from, entries, opened)) :
    logs opened = logs db := by
  unfold Correlation.open_target at executed
  dsimp only at executed
  split at executed
  · obtain ⟨⟨context_id, created⟩, numbered, done⟩ := bind_ok.mp executed
    obtain ⟨_, _, numbered⟩ := bind_ok.mp numbered
    obtain ⟨_, _, new⟩ := bind_ok.mp numbered
    cases new
    cases done
    rfl
  · cases executed
    have merged : ∀ (others : List String) (db : Database),
        logs (others.foldl (fun db other => Correlation.move_members db other target_id) db) = logs db := by
      intro others
      induction others with
      | nil => exact fun db => rfl
      | cons other rest ih => exact fun db => ih (Correlation.move_members db other target_id)
    exact merged merged_from db

private theorem open_target_entries {db opened : Database} {alert_id : UUID} {peers : List Correlation.Qualified}
    {received : Int} {target_id : String} {merged_from : List String} {entries : List AuditEntry}
    (executed : Correlation.open_target db alert_id peers received = .ok (target_id, merged_from, entries, opened)) :
    ∀ entry ∈ entries, Correlating entry := by
  unfold Correlation.open_target at executed
  dsimp only at executed
  split at executed
  · obtain ⟨⟨context_id, created⟩, numbered, done⟩ := bind_ok.mp executed
    cases done
    intro entry inside
    rw [List.mem_singleton.mp inside]
    exact .created _ _ _
  · cases executed
    intro entry inside
    obtain ⟨_, _, rfl⟩ := List.mem_map.mp inside
    exact .merged _ _ _

private theorem linked_entries (target_id : String) (members : List CorrelationMember) :
    ∀ entry ∈ Correlation.linked_entries target_id members, Correlating entry := by
  intro entry inside
  obtain ⟨_, _, rfl⟩ := List.mem_map.mp inside
  exact .linked _ _ _

private theorem add_members_logs {members : List CorrelationMember} {db joined : Database}
    (added : members.foldlM Correlation.add_member db = .ok joined) : logs joined = logs db := by
  induction members generalizing db with
  | nil => cases added; rfl
  | cons member rest ih =>
    rw [List.foldlM_cons] at added
    obtain ⟨next, first, added⟩ := bind_ok.mp added
    obtain ⟨_, _, done⟩ := bind_ok.mp first
    cases done
    exact (ih added).trans rfl

/-- Correlation writes no feedback, and appends to the audit log. -/
theorem correlation_logs {window : Window} {alert_id : UUID} {received : Int} {db db' : Database}
    {result : Option Correlation.CorrelationResult}
    (executed : Correlation.decide_and_apply window alert_id received db = .ok (result, db')) :
    db'.analyst_feedback = db.analyst_feedback ∧
      ∃ entries : List AuditEntry, (∀ entry ∈ entries, Correlating entry) ∧
        db'.audit_log = db.audit_log ++ entries.map (Database.audit_row received) := by
  have nothing : ∃ entries : List AuditEntry, (∀ entry ∈ entries, Correlating entry) ∧
      db.audit_log = db.audit_log ++ entries.map (Database.audit_row received) :=
    ⟨[], fun _ none => absurd none List.not_mem_nil, (List.append_nil _).symm⟩
  unfold Correlation.decide_and_apply at executed
  split at executed
  · cases executed; exact ⟨rfl, nothing⟩
  · split at executed
    · cases executed; exact ⟨rfl, nothing⟩
    · dsimp only at executed
      split at executed
      · cases executed; exact ⟨rfl, nothing⟩
      · obtain ⟨⟨linked, after⟩, linking, done⟩ := bind_ok.mp executed
        cases done
        obtain ⟨⟨target_id, merged_from, entries, opened⟩, chosen, linking⟩ := bind_ok.mp linking
        obtain ⟨joined, added, linking⟩ := bind_ok.mp linking
        obtain ⟨bounded, bounds, done⟩ := bind_ok.mp linking
        have refreshed : logs bounded = logs joined := by
          unfold Correlation.refresh_bounds at bounds
          split at bounds
          · contradiction
          · cases bounds; rfl
        have same : logs bounded = logs db := (refreshed.trans (add_members_logs added)).trans (open_target_logs chosen)
        obtain ⟨feedback, log⟩ := Prod.mk.inj same
        cases done
        exact ⟨feedback, _, List.forall_mem_append.mpr ⟨open_target_entries chosen, linked_entries _ _⟩,
          (Database.append_audit_log _ _ _).trans (congrArg (· ++ _) log)⟩

/-- An assessment writes no feedback. -/
theorem assessment_feedback {request : Request} {db db' : Database} {incident_id : Option String}
    (committed : Committed request db incident_id db') : db'.analyst_feedback = db.analyst_feedback := by
  cases committed with
  | routed other => rfl
  | created asked none_open new => obtain ⟨_, _, _, rfl, _, _, _, _, rfl⟩ := create_ok new; rfl
  | attached asked oldest joined => obtain ⟨_, _, rfl⟩ := attach_ok joined; rfl

/-! ### The time of an operation -/

/-- The notification only appends audit rows to what ingest leaves. -/
private theorem handle_appends (pipeline : Pipeline) (n8n : N8N) (delivery : Delivery) (faults : Ingest.Faults)
    (step_faults : Notifications.StepFaults) (world : World) :
    ∃ entries, (∀ entry ∈ entries, Remark entry) ∧
      (Notifications.handle pipeline n8n delivery faults step_faults world).2.db =
      (Ingest.ingest_alert pipeline delivery faults world.db).2.append entries delivery.received_at.instant := by
  have nothing : ∀ db : Database, db = db.append [] delivery.received_at.instant := by
    intro db
    rw [Database.append, List.map_nil, List.append_nil]
  have nobody : ∀ entry ∈ ([] : List AuditEntry), Remark entry := fun _ none => absurd none List.not_mem_nil
  unfold Notifications.handle
  rcases Ingest.ingest_alert pipeline delivery faults world.db with ⟨_ | ⟨_ | response⟩, db⟩
  · exact ⟨[], nobody, nothing db⟩
  · dsimp only
    split
    · exact ⟨[], nobody, nothing db⟩
    · unfold Notifications.notify_n8n
      split
      · exact ⟨_, fun _ listed => .notification _ _ _ _ _ _ _ _ _ listed, rfl⟩
      · split
        · exact ⟨[], nobody, nothing db⟩
        · unfold Notifications.persist_attempt
          dsimp only
          split
          · exact ⟨[], nobody, nothing db⟩
          · exact ⟨_, fun _ listed => .notification _ _ _ _ _ _ _ _ _ listed, rfl⟩
  · exact ⟨[], nobody, nothing db⟩

/-! ### The engines -/

abbrev Scorer := CanonicalAlert → RiskAssessment

abbrev Decider := RiskAssessment → CanonicalAlert → Datetime → Decision

/-- The payloads of one event: they differ at most in what enrichment and the engines write. -/
def SameEvent (payload payload' : CanonicalAlert) : Prop :=
  { payload with
    iocs := payload'.iocs, enrichment_status := payload'.enrichment_status, risk := payload'.risk
    decision := payload'.decision } = payload'

theorem SameEvent.refl (payload : CanonicalAlert) : SameEvent payload payload := rfl

theorem SameEvent.trans {a b c : CanonicalAlert} (first : SameEvent a b) (second : SameEvent b c) : SameEvent a c := by
  unfold SameEvent at *
  rw [← second, ← first]

theorem SameEvent.dedupe {payload payload' : CanonicalAlert} (same : SameEvent payload payload') :
    payload.dedupe = payload'.dedupe := by
  rw [← same]

/-- An assessment that the engines make of the event of a row, and that names what stood in the row before it or nothing. -/
structure Computed (scorer : Scorer) (decider : Decider) (alert : Alert) (request : Request) : Prop where
  made : ∃ payload decided_at, request.risk = scorer payload ∧ request.decision = decider request.risk payload decided_at ∧
    request.canonical = { payload with risk := some request.risk, decision := some request.decision }
  previous : request.previous_risk = none ∨ request.previous_risk = alert.normalized_payload.risk
  event : SameEvent request.canonical alert.normalized_payload

private theorem changed_computed {self : LateEnrichment.LateEnrichmentService} {row : Alert} {request : Request}
    {decided_at : Datetime} (differs : LateEnrichment.changed self row (some decided_at) = some request) :
    request.occurred_at = decided_at.instant ∧ Computed self.scorer self.decider row request := by
  rw [LateEnrichment.changed] at differs
  dsimp only at differs
  split at differs
  · contradiction
  · cases differs
    exact ⟨rfl, ⟨_, decided_at, rfl, rfl, rfl⟩, .inr rfl, rfl⟩

/-- A newly recorded event is answered with the payload of its row. -/
private theorem recorded_payload {pipeline : Pipeline} {delivery : Delivery} {fault : Bool} {db after : Database}
    {outcome : Deduplication.DedupeOutcome} {alert : Alert}
    (processed : PersistentDeduplication.process pipeline.sha256 pipeline.window delivery.alert delivery.canonical
      delivery.received_at fault db = (.ok outcome, after)) (distinct : outcome.status ≠ .EXACT_DUPLICATE)
    (found : after.alerts.get outcome.alert_id = some alert) : alert.normalized_payload = outcome.canonical_alert := by
  rcases PersistentDeduplication.process_cases pipeline.sha256 pipeline.window delivery.alert delivery.canonical
    delivery.received_at fault db with ⟨e, refused⟩ | ⟨result, db', _, identity, _, decision, same, executed, answered⟩
  · rw [processed] at refused
    cases refused
  · rw [processed] at same
    cases same
    obtain ⟨dedupe, rfl⟩ := answered outcome rfl
    obtain ⟨_, ⟨duplicate, _⟩ | ⟨_, alerts, _, inserted, _, rfl⟩⟩ := PersistentDeduplication.deliver_cases executed
    · exact absurd duplicate distinct
    · have row := Table.get_of_mem ((Table.mem_insert inserted).mpr (.inr rfl))
      have same := Option.some.inj (row.symm.trans found)
      rw [← same]
      rfl

private theorem assessment_computed {pipeline : Pipeline} {delivery : Delivery} {outcome : Deduplication.DedupeOutcome}
    {alert : Alert} (recorded : alert.normalized_payload = outcome.canonical_alert) :
    Computed pipeline.score pipeline.decide alert (Ingest.assessment pipeline delivery outcome) :=
  ⟨⟨outcome.canonical_alert, delivery.received_at, rfl, rfl, rfl⟩, .inl rfl, by rw [recorded]; rfl⟩

/-! ### The rule -/

/-- The time an operation takes place at. -/
def clock : Service.Event → Int
  | .ingest delivery _ _ _ => delivery.received_at.instant
  | .reassess pass => pass.as_of.instant
  | .update request _ => request.occurred_at
  | .feedback request _ => request.received_at
  | .note request _ => request.occurred_at
  | .sweep _ as_of _ => as_of

/-- The engines an operation assesses with; those of the pipeline aside. -/
def Engaged (Engines : Scorer → Decider → Prop) : Service.Event → Prop
  | .reassess pass => ∀ alert_id, Engines (pass.service alert_id).scorer (pass.service alert_id).decider
  | _ => True

/-- What every unit of work but a note's respects that takes place at a time allowed and assesses with certain engines. -/
structure KeptUnnoted (Allowed : Int → Prop) (Engines : Scorer → Decider → Prop) (Keeps : Database → Database → Prop) :
    Prop where
  refl : ∀ db, Keeps db db
  trans : ∀ {a b c}, Keeps a b → Keeps b c → Keeps a c
  appended : ∀ db entries occurred_at, (∀ entry ∈ entries, Remark entry) → Allowed occurred_at →
    Keeps db (db.append entries occurred_at)
  delivered : ∀ {window : Window} {group_key identity fingerprint : String} {delivery : Delivery} {db db' : Database}
    {decision : DeliveryDecision}, Allowed delivery.received_at.instant →
    PersistentDeduplication.deliver window group_key identity fingerprint delivery.received_at delivery.canonical db =
      .ok (decision, db') → Keeps db db'
  assessed : ∀ {scorer decider} {request : Request} {db db' : Database} {incident_id : Option String} {alert : Alert},
    Allowed request.occurred_at → Engines scorer decider → db.alerts.get request.alert_id = some alert →
    Computed scorer decider alert request → Committed request db incident_id db' → Keeps db db'
  correlated : ∀ {window : Window} {alert_id : UUID} {received : Int} {db db' : Database}
    {result : Option Correlation.CorrelationResult}, Allowed received →
    Correlation.decide_and_apply window alert_id received db = .ok (result, db') → Keeps db db'
  updated : ∀ {db db' : Database} {incident_id : String} {target : IncidentStatus} {occurred_at : Int} {row : Incident},
    Allowed occurred_at → update_status db incident_id target occurred_at = .ok (row, db') → Keeps db db'
  recorded : ∀ {request : FeedbackRequest} {db : Database} {alert : Alert}, Allowed request.received_at →
    db.alerts.get request.alert_id = some alert → Keeps db (recorded request db)
  closed : ∀ {db : Database} {incident_id : String} {as_of : Int} {row : Incident}, Allowed as_of →
    db.incidents.get incident_id = some row → terminal row.status = false →
    Keeps db { db with incidents := db.incidents.modify incident_id (closed as_of) }

/-- What every unit of work respects. -/
structure Kept (Allowed : Int → Prop) (Engines : Scorer → Decider → Prop) (Keeps : Database → Database → Prop) : Prop
    extends KeptUnnoted Allowed Engines Keeps where
  noted : ∀ (request : NoteRequest) db, Allowed request.occurred_at →
    Keeps db (db.append [note_entry request] request.occurred_at)

namespace KeptUnnoted
variable {Allowed : Int → Prop} {Engines : Scorer → Decider → Prop} {Keeps : Database → Database → Prop}
  (kept : KeptUnnoted Allowed Engines Keeps)
include kept

private theorem processed (pipeline : Pipeline) {delivery : Delivery} (timely : Allowed delivery.received_at.instant)
    (fault : Bool) (db : Database) :
    Keeps db (PersistentDeduplication.process pipeline.sha256 pipeline.window delivery.alert delivery.canonical
      delivery.received_at fault db).2 := by
  rcases PersistentDeduplication.process_cases pipeline.sha256 pipeline.window delivery.alert delivery.canonical
    delivery.received_at fault db with ⟨e, same⟩ | ⟨_, _, _, _, _, _, same, executed, _⟩
  · rw [same]; exact kept.refl db
  · rw [same]; exact kept.delivered timely executed

private theorem persisted {scorer : Scorer} {decider : Decider} {request : Request} (timely : Allowed request.occurred_at)
    (engines : Engines scorer decider) (fault : Bool) {db : Database}
    (computed : ∀ alert, db.alerts.get request.alert_id = some alert → Computed scorer decider alert request) :
    Keeps db (persist_assessment request fault db).2 := by
  rcases persist_assessment_cases request fault db with ⟨incident_id, db', same, _, executed⟩ | ⟨result, same, _⟩
  · obtain ⟨⟨alert, found⟩, committed⟩ := assess_ok executed
    rw [same]; exact kept.assessed timely engines found (computed alert found) committed
  · rw [same]; exact kept.refl db

private theorem correlates (pipeline : Pipeline) {delivery : Delivery} (timely : Allowed delivery.received_at.instant)
    (alert_id : UUID) (fault : Bool) (db : Database) :
    Keeps db (correlate_alert pipeline delivery alert_id fault db).2 := by
  have first : Keeps db (Correlation.correlate pipeline.correlation_window alert_id delivery.received_at fault db).2 := by
    rcases Correlation.correlate_cases pipeline.correlation_window alert_id delivery.received_at fault db with
      same | ⟨result, db', same, executed⟩
    · rw [same]; exact kept.refl db
    · rw [same]; exact kept.correlated timely executed
  unfold correlate_alert
  split <;> (rename_i same; rw [same] at first; exact first)

private theorem ingested {pipeline : Pipeline} (engines : Engines pipeline.score pipeline.decide) (n8n : N8N)
    {delivery : Delivery} (timely : Allowed delivery.received_at.instant) (faults : Ingest.Faults)
    (step_faults : Notifications.StepFaults) (world : World) :
    Keeps world.db (Notifications.handle pipeline n8n delivery faults step_faults world).2.db := by
  obtain ⟨entries, remarks, same⟩ := handle_appends pipeline n8n delivery faults step_faults world
  have follows := @Service.ingest_follows Keeps world.db pipeline delivery faults kept.refl kept.trans
    (fun outcome recorded processed distinct => kept.persisted timely engines faults.assessment
      (fun alert found => assessment_computed (recorded_payload processed distinct found)))
    (fun alert_id fault db => kept.correlates pipeline timely alert_id fault db)
  rw [same]
  exact kept.trans (kept.trans (kept.processed pipeline timely faults.dedupe world.db) follows)
    (kept.appended _ entries _ remarks timely)

private theorem candidate_reassessed {pass : LateEnrichment.Pass} (timely : Allowed pass.as_of.instant)
    (engines : ∀ alert_id, Engines (pass.service alert_id).scorer (pass.service alert_id).decider)
    (state : LateEnrichment.SweepStats × Database) (candidate : Alert) :
    Keeps state.2 (LateEnrichment.sweep_candidate pass state candidate).2 := by
  rw [LateEnrichment.sweep_candidate_database]
  rcases LateEnrichment.reassess_cases (pass.service candidate.alert_id) candidate.alert_id (some pass.as_of)
    (pass.faults candidate.alert_id) state.2 with same | ⟨row, request, _, _, _, found, differs, committed⟩
  · rw [same]; exact kept.refl state.2
  · have key : row.alert_id = candidate.alert_id := Table.get_key found
    rw [← key, ← (LateEnrichment.changed_some differs).2.1] at found
    obtain ⟨now, computed⟩ := changed_computed differs
    exact kept.assessed (now.symm ▸ timely) (engines candidate.alert_id) found computed committed

private theorem reassessed {pass : LateEnrichment.Pass} (timely : Allowed pass.as_of.instant)
    (engines : ∀ alert_id, Engines (pass.service alert_id).scorer (pass.service alert_id).decider) (db : Database) :
    Keeps db (LateEnrichment.sweep_once pass db).2 := by
  unfold LateEnrichment.sweep_once
  split
  · exact kept.refl db
  · split
    · exact kept.refl db
    · exact @Runs.related _ _ (LateEnrichment.sweep_candidate pass) (fun a b => Keeps a.2 b.2)
        (fun state => kept.refl state.2)
        kept.trans (pass.candidates db) (fun candidate _ state => kept.candidate_reassessed timely engines state candidate)
        ({ candidates := (pass.candidates db).length }, db)

private theorem status_updated {request : StatusRequest} (timely : Allowed request.occurred_at) (fault : Bool)
    (db : Database) :
    Keeps db (update_incident_status request fault db).2 := by
  have scope := @Service.faulty_scope_keeps _ Keeps db (status_work request) fault (kept.refl db) ?_
  · unfold update_incident_status
    split <;> (rename_i same; rw [same] at scope; exact scope)
  · intro response after executed
    unfold status_work at executed
    split at executed
    · cases executed; exact kept.refl db
    · split at executed
      · cases executed; exact kept.refl db
      · cases executed
      · rename_i done
        cases executed
        exact kept.trans (kept.updated timely done) (kept.appended _ _ _ (fun _ listed => .status _ _ _ _ listed) timely)

private theorem synced {db db' : Database} {incident : Incident} {request : FeedbackRequest}
    (timely : Allowed request.received_at) (done : sync_incident_with_feedback db incident request = .ok db') :
    Keeps db db' := by
  unfold sync_incident_with_feedback at done
  split at done
  · cases done
    exact kept.appended _ _ _ (fun _ listed => .containment _ _ _ listed) timely
  · split at done
    · cases done; exact kept.refl db
    · obtain ⟨⟨updated, after⟩, executed, done⟩ := bind_ok.mp done
      cases done
      exact kept.trans (kept.updated timely executed) (kept.appended _ _ _ (fun _ listed => .status _ _ _ _ listed) timely)

private theorem feedback_submitted {request : FeedbackRequest} (timely : Allowed request.received_at) (fault : Bool)
    (db : Database) :
    Keeps db (submit_feedback request fault db).2 := by
  have scope := @Service.faulty_scope_keeps _ Keeps db (feedback_work request) fault (kept.refl db) ?_
  · unfold submit_feedback
    split <;> (rename_i same; rw [same] at scope; exact scope)
  · intro response after executed
    unfold feedback_work at executed
    split at executed
    · cases executed; exact kept.refl db
    · rename_i found
      dsimp only at executed
      split at executed
      · cases executed; exact kept.recorded timely found
      · obtain ⟨synced, done, same⟩ := bind_ok.mp executed
        cases same
        exact kept.trans (kept.recorded timely found) (kept.synced timely done)

private theorem candidate_closed (ttl_seconds : Nat) {as_of : Int} (timely : Allowed as_of) (fault : String → Bool)
    (stats : SweepStats) (db : Database) {candidate : Incident} (active : terminal candidate.status = false) :
    Keeps db (close_candidate ttl_seconds as_of fault (stats, db) candidate).2 := by
  have scope := @Service.faulty_scope_keeps _ Keeps db (close_work ttl_seconds as_of candidate)
    (fault candidate.incident_id) (kept.refl db) ?_
  · unfold close_candidate
    dsimp only
    split <;> (rename_i same; rw [same] at scope; exact scope)
  · intro matched after executed
    unfold close_work at executed
    rcases auto_close_cases db candidate.incident_id ttl_seconds as_of candidate.updated_at candidate.status with
      skipped | ⟨row, found, status, _, _, closed⟩
    · rw [skipped] at executed; cases executed; exact kept.refl db
    · rw [closed] at executed
      cases executed
      exact kept.trans (kept.closed timely found (by rw [status]; exact active)) (kept.appended _ _ _
        (fun _ listed => .auto_closed _ _ _ _ listed) timely)

private theorem swept (ttl_seconds : Nat) {as_of : Int} (timely : Allowed as_of) (fault : String → Bool) (db : Database) :
    Keeps db (IncidentRuns.step db (.sweep ttl_seconds as_of fault)) := by
  rw [IncidentRuns.step]
  cases done : IncidentCallers.sweep_once ttl_seconds as_of fault db with
  | error e => exact kept.refl db
  | ok value =>
    exact @IncidentRuns.sweep_keeps db value.2 Keeps ttl_seconds as_of fault value.1 kept.refl kept.trans
      (fun stats db candidate active => kept.candidate_closed ttl_seconds timely fault stats db active) done

/-- One operation other than a note, whatever it is and wherever it fails or stops. -/
theorem step {pipeline : Pipeline} (engines : Engines pipeline.score pipeline.decide) (n8n : N8N) (world : World)
    {event : Service.Event} (unnoted : ∀ request fault, event ≠ .note request fault) (timely : Allowed (clock event))
    (engaged : Engaged Engines event) :
    Keeps world.db (Service.step pipeline n8n world event).db := by
  cases event with
  | ingest delivery providers faults step_faults =>
    rw [Service.step]
    exact @ingested _ _ _ kept pipeline engines n8n (LateEnrichment.enriched_delivery delivery providers) timely faults
      step_faults world
  | reassess pass => exact kept.reassessed timely engaged world.db
  | update request fault => exact kept.status_updated timely fault world.db
  | feedback request fault => exact kept.feedback_submitted timely fault world.db
  | note request fault => exact absurd rfl (unnoted request fault)
  | sweep ttl_seconds as_of fault => exact kept.swept ttl_seconds timely fault world.db
end KeptUnnoted

namespace Kept
variable {Allowed : Int → Prop} {Engines : Scorer → Decider → Prop} {Keeps : Database → Database → Prop}
  (kept : Kept Allowed Engines Keeps)
include kept

private theorem note_added {request : NoteRequest} (timely : Allowed request.occurred_at) (fault : Bool)
    (db : Database) :
    Keeps db (add_incident_note request fault db).2 := by
  unfold add_incident_note
  split
  · exact kept.refl db
  · have scope := @Service.faulty_scope_keeps _ Keeps db (note_work request) fault (kept.refl db) ?_
    · split <;> (rename_i same; rw [same] at scope; exact scope)
    · intro response after executed
      unfold note_work at executed
      split at executed
      · cases executed; exact kept.refl db
      · cases executed; exact kept.noted request db timely

/-- One operation, whatever it is and wherever it fails or stops. -/
theorem step {pipeline : Pipeline} (engines : Engines pipeline.score pipeline.decide) (n8n : N8N) (world : World)
    {event : Service.Event} (timely : Allowed (clock event)) (engaged : Engaged Engines event) :
    Keeps world.db (Service.step pipeline n8n world event).db := by
  by_cases noting : ∃ request fault, event = .note request fault
  · obtain ⟨request, fault, rfl⟩ := noting
    exact kept.note_added timely fault world.db
  · exact kept.toKeptUnnoted.step engines n8n world (fun request fault note => noting ⟨request, fault, note⟩) timely engaged

/-- Every run, from any database. -/
theorem run {pipeline : Pipeline} (engines : Engines pipeline.score pipeline.decide) (n8n : N8N) (world : World)
    {events : List Service.Event} (timely : ∀ event ∈ events, Allowed (clock event))
    (engaged : ∀ event ∈ events, Engaged Engines event) :
    Keeps world.db (Runs.run (Service.step pipeline n8n) world events).db :=
  @Runs.related _ _ (Service.step pipeline n8n) (fun a b => Keeps a.db b.db) (fun world => kept.refl world.db) kept.trans
    events (fun event inside world => kept.step engines n8n world (timely event inside) (engaged event inside)) world

/-- What every unit of work respects relates each database of a run to the later ones. -/
theorem related {pipeline : Pipeline} (engines : Engines pipeline.score pipeline.decide) (n8n : N8N)
    (first : List Service.Event) {rest : List Service.Event} (timely : ∀ event ∈ rest, Allowed (clock event))
    (engaged : ∀ event ∈ rest, Engaged Engines event) :
    Keeps (Service.after pipeline n8n first).db (Service.after pipeline n8n (first ++ rest)).db := by
  have later : Service.after pipeline n8n (first ++ rest) =
      Runs.run (Service.step pipeline n8n) (Service.after pipeline n8n first) rest :=
    Runs.run_append (Service.step pipeline n8n) {} first rest
  rw [later]
  exact kept.run engines n8n (Service.after pipeline n8n first) timely engaged
end Kept

/-- Any engines. -/
abbrev Any : Scorer → Decider → Prop := fun _ _ => True

theorem engaged_any (event : Service.Event) : Engaged Any event := by
  cases event with
  | reassess pass => exact fun _ => trivial
  | _ => trivial

/-- What every unit of work keeps of a database, whatever the time and the engines, is kept in every run from an empty one. -/
theorem invariant {Inv : Database → Prop} (kept : Kept (fun _ => True) Any (fun db db' => Inv db → Inv db')) (start : Inv {})
    (pipeline : Pipeline) (n8n : N8N) (events : List Service.Event) : Inv (Service.after pipeline n8n events).db :=
  kept.run trivial n8n {} (fun _ _ => trivial) (fun event _ => engaged_any event) start

/-- A failed login that has an event id. -/
def login (alert_id : UUID) (received_at : Int) : Service.Event :=
  .ingest { Ingest.failed_login_delivery alert_id received_at with
    alert := { Deduplication.failed_login 3 with id := some alert_id } } [] {} {}

end SocTriage.UnitsOfWork
