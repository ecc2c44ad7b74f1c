import Mathlib.Logic.Relation
import SocTriage.UnitsOfWork

/-!
What a run never takes back. The audit log and the feedback only grow at their ends, no alert,
incident or membership is ever removed, and of each only a few columns can change; a closed
incident does not change at all. The contexts are merged and never split.
-/
namespace SocTriage.Permanence
open Assessment Incidents IncidentCallers PersistentDeduplication
open Correlation (relabelled moved)
open Deduplication (Window DeliveryDecision)
open Ingest (Pipeline)
open Notifications (N8N)
open UnitsOfWork (Any Kept SameEvent engaged_any)

/-! ### What stays of a row -/

/-- What an alert of record is recorded with: all of its columns but the payload and the link. -/
def recorded_columns (alert : Alert) : UUID × String × Int × String × String × String × Int × String × String × Int :=
  (alert.alert_id, alert.source, alert.received_at, alert.dedupe_group_key, alert.event_identity, alert.rule_id,
    alert.rule_level, alert.agent_id, alert.agent_name, alert.created_at)

/-- What an incident is created with. -/
def created_columns (incident : Incident) : String × DecisionSeverity × UUID × String × Int :=
  (incident.incident_id, incident.severity, incident.primary_alert_id, incident.dedupe_group_key, incident.created_at)

/-- One step of a lifecycle: an analyst's, or the sweeper's. -/
def Step (status status' : IncidentStatus) : Prop :=
  can_transition status status' = true ∨ (terminal status = false ∧ status' = .RESOLVED)

/-- A later row of the same alert, with the same event in its payload: it may be assessed again and linked again, and it is
    never unlinked. -/
structure LaterAlert (alert alert' : Alert) : Prop where
  columns : recorded_columns alert' = recorded_columns alert
  event : SameEvent alert'.normalized_payload alert.normalized_payload
  linked : alert.incident_id ≠ none → alert'.incident_id ≠ none

/-- A later row of the same incident: it is where steps of the lifecycle lead, and a closed one is as it was. -/
structure LaterIncident (incident incident' : Incident) : Prop where
  columns : created_columns incident' = created_columns incident
  reached : Relation.ReflTransGen Step incident.status incident'.status
  settled : terminal incident.status = true → incident' = incident
  acknowledged : incident.acknowledged_at ≠ none → incident'.acknowledged_at ≠ none

/-- What an earlier database of a run leaves in a later one. -/
structure Lasts (db db' : Database) : Prop where
  audit_log : db.audit_log <+: db'.audit_log
  analyst_feedback : db.analyst_feedback <+: db'.analyst_feedback
  alerts : ∀ alert ∈ db.alerts.rows, ∃ alert' ∈ db'.alerts.rows, LaterAlert alert alert'
  incidents : ∀ incident ∈ db.incidents.rows, ∃ incident' ∈ db'.incidents.rows, LaterIncident incident incident'

theorem LaterAlert.refl (alert : Alert) : LaterAlert alert alert := ⟨rfl, .refl _, id⟩

theorem LaterIncident.refl (incident : Incident) : LaterIncident incident incident := ⟨rfl, .refl, fun _ => rfl, id⟩

theorem LaterIncident.trans {a b c : Incident} (first : LaterIncident a b) (second : LaterIncident b c) :
    LaterIncident a c := by
  refine ⟨second.columns.trans first.columns, first.reached.trans second.reached, ?_,
    fun some => second.acknowledged (first.acknowledged some)⟩
  intro closed
  have same := first.settled closed
  subst same
  exact second.settled closed

namespace Lasts
variable {db db' : Database}

private theorem same {log : List AuditEvent} {feedback : List AnalystFeedback} (audit_log : db.audit_log <+: log)
    (analyst_feedback : db.analyst_feedback <+: feedback) (alerts : db'.alerts = db.alerts)
    (incidents : db'.incidents = db.incidents) (log_same : db'.audit_log = log)
    (feedback_same : db'.analyst_feedback = feedback) :
    Lasts db db' := by
  refine ⟨log_same ▸ audit_log, feedback_same ▸ analyst_feedback, ?_, ?_⟩
  · intro alert inside
    exact ⟨alert, by rw [alerts]; exact inside, .refl alert⟩
  · intro incident inside
    exact ⟨incident, by rw [incidents]; exact inside, .refl incident⟩

theorem refl (db : Database) : Lasts db db := same (List.prefix_refl _) (List.prefix_refl _) rfl rfl rfl rfl

theorem append (db : Database) (entries : List Audit.AuditEntry) (occurred_at : Int) :
    Lasts db (db.append entries occurred_at) :=
  same (List.prefix_append _ _) (List.prefix_refl _) rfl rfl rfl rfl

theorem trans {a b c : Database} (first : Lasts a b) (second : Lasts b c) : Lasts a c := by
  refine ⟨first.audit_log.trans second.audit_log, first.analyst_feedback.trans second.analyst_feedback, ?_, ?_⟩
  · intro alert inside
    obtain ⟨mid, stored, earlier⟩ := first.alerts alert inside
    obtain ⟨last, stored, later⟩ := second.alerts mid stored
    exact ⟨last, stored, later.columns.trans earlier.columns, later.event.trans earlier.event,
      fun some => later.linked (earlier.linked some)⟩
  · intro incident inside
    obtain ⟨mid, stored, earlier⟩ := first.incidents incident inside
    obtain ⟨last, stored, later⟩ := second.incidents mid stored
    exact ⟨last, stored, earlier.trans later⟩
end Lasts

/-! ### Each unit of work -/

section
variable {db db' : Database}

private theorem delivered {window : Window} {group_key identity fingerprint : String} {received : Datetime}
    {canonical : CanonicalAlert} {decision : DeliveryDecision}
    (executed : deliver window group_key identity fingerprint received canonical db = .ok (decision, db')) :
    Lasts db db' := by
  have log : db.audit_log <+: db'.audit_log := ⟨_, (deliver_audit_log executed).symm⟩
  obtain ⟨_, ⟨_, rfl⟩ | ⟨_, alerts, alert_events, inserted, _, rfl⟩⟩ := deliver_cases executed
  · exact .same log (List.prefix_refl _) rfl rfl rfl rfl
  · refine ⟨log, List.prefix_refl _, ?_, fun incident inside => ⟨incident, inside, .refl incident⟩⟩
    intro alert inside
    exact ⟨alert, (Table.mem_insert inserted).mpr (.inl inside), .refl alert⟩

private theorem assessed {request : Request} {incident_id : Option String} {row : Alert}
    (found : db.alerts.get request.alert_id = some row) (event : SameEvent request.canonical row.normalized_payload)
    (committed : Committed request db incident_id db') : Lasts db db' := by
  refine ⟨?_, ?_, ?_, ?_⟩
  · obtain ⟨opened, log, -⟩ := committed.audit_log
    rw [log, List.append_assoc]
    exact List.prefix_append _ _
  · exact UnitsOfWork.assessment_feedback committed ▸ List.prefix_refl _
  · intro alert inside
    have stored := committed.alerts alert.alert_id
    split at stored
    · rename_i mine
      rw [← mine, Table.get_of_mem inside] at found
      cases found
      rw [← mine, Table.get_of_mem inside, Option.map_some] at stored
      refine ⟨assessed_row request incident_id row, Table.get_mem stored, rfl, event, ?_⟩
      intro some none
      rw [assessed_row, Option.or_eq_none_iff] at none
      exact some none.2
    · rw [Table.get_of_mem inside] at stored
      exact ⟨alert, Table.get_mem stored, .refl alert⟩
  · intro incident inside
    cases committed with
    | routed other => exact ⟨incident, inside, .refl incident⟩
    | created asked none_open new =>
      obtain ⟨_, _, _, rfl, _, _, _, inserted, rfl⟩ := create_ok new
      exact ⟨incident, (Table.mem_insert inserted).mpr (.inl inside), .refl incident⟩
    | attached asked oldest joined =>
      obtain ⟨_, _, rfl⟩ := attach_ok joined
      exact ⟨incident, inside, .refl incident⟩

/-- A change of one incident that is not closed. -/
private theorem incident_moved {incident_id : String} {f : Incident → Incident}
    {keeps : ∀ row, (f row).incident_id = row.incident_id}
    (later : ∀ row, db.incidents.get incident_id = some row → LaterIncident row (f row)) :
    Lasts db { db with incidents := db.incidents.modify incident_id f keeps } := by
  refine ⟨List.prefix_refl _, List.prefix_refl _, fun alert inside => ⟨alert, inside, .refl alert⟩, ?_⟩
  intro incident inside
  have stored := Table.get_of_mem inside
  by_cases mine : incident.incident_id = incident_id
  · rw [mine] at stored
    exact ⟨f incident, (@Table.mem_modify _ _ _ _ _ _ _ keeps _).mpr (.inl ⟨incident, inside, mine, rfl⟩),
      later incident stored⟩
  · exact ⟨incident, (@Table.mem_modify _ _ _ _ _ _ _ keeps _).mpr (.inr ⟨inside, mine⟩), .refl incident⟩

private theorem later_stepped {row : Incident} {target : IncidentStatus} {occurred_at : Int}
    (allowed : can_transition row.status target = true) : LaterIncident row (stepped row target occurred_at) := by
  refine ⟨rfl, .single (.inl allowed), ?_, ?_⟩
  · intro closed
    rw [not_terminal_of_can_transition allowed] at closed
    contradiction
  · intro some
    rw [stepped]
    split
    · exact Option.some_ne_none _
    · exact some

private theorem later_closed {row : Incident} {as_of : Int} (active : terminal row.status = false) :
    LaterIncident row (closed as_of row) := by
  refine ⟨rfl, .single (.inr ⟨active, rfl⟩), ?_, id⟩
  intro done
  rw [active] at done
  contradiction
end

theorem lasts_kept : Kept (fun _ => True) Any Lasts where
  refl := Lasts.refl
  trans := Lasts.trans
  appended db entries occurred_at _ _ := .append db entries occurred_at
  delivered _ := delivered
  assessed _ _ found computed committed := assessed found computed.event committed
  correlated {_ _ _ db db' _} _ executed := by
    obtain ⟨feedback, _, _, appended⟩ := UnitsOfWork.correlation_logs executed
    have log : db.audit_log <+: db'.audit_log := ⟨_, appended.symm⟩
    rcases Correlation.decide_and_apply_cases executed with ⟨rfl, _⟩ | ⟨_, _, _, _, _, _, _, joined⟩
    · exact Lasts.refl _
    · exact .same log (List.prefix_refl _) joined.untouched.alerts joined.untouched.incidents rfl feedback
  updated _ updated := by
    obtain ⟨row, found, allowed, _, rfl⟩ := update_status_ok updated
    refine incident_moved (fun row' found' => ?_)
    rw [found] at found'
    cases found'
    exact later_stepped allowed
  recorded _ _ := .same (List.prefix_append _ _) (List.prefix_append _ _) rfl rfl rfl rfl
  closed _ found active := by
    refine incident_moved (fun row' found' => ?_)
    rw [found] at found'
    cases found'
    exact later_closed active
  noted request db _ := .append db [note_entry request] request.occurred_at

/-- Every membership is still there with its evidence, in the context that its old one has become. -/
def Coarser (db db' : Database) : Prop :=
  ∃ became : String → String, ∀ member ∈ db.correlation_members.rows,
    { member with context_id := became member.context_id } ∈ db'.correlation_members.rows

private theorem coarser_same {db db' : Database} (members : db'.correlation_members = db.correlation_members) :
    Coarser db db' := by
  refine ⟨id, ?_⟩
  rw [members]
  exact fun _ inside => inside

private theorem coarser_linked {db db' : Database} {alert_id : UUID} {peers : List Correlation.Qualified} {received : Int}
    {target_id : String} (joined : Correlation.Linked db alert_id peers received target_id db') : Coarser db db' := by
  let involved := Correlation.involved_contexts db (peers.map (fun peer => peer.1.alert_id))
  refine ⟨fun context_id => if context_id ∈ involved then target_id else context_id, ?_⟩
  intro member inside
  refine (joined.members _).mpr (.inl ⟨member, inside, ?_⟩)
  by_cases here : member.context_id ∈ involved
  · rw [relabelled, if_pos here]
    exact congrArg (fun context_id => { member with context_id }) (if_pos here)
  · rw [relabelled, if_neg here]
    exact congrArg (fun context_id => { member with context_id }) (if_neg here)

private theorem coarser_kept : Kept (fun _ => True) Any Coarser where
  refl _ := coarser_same rfl
  trans first second := by
    obtain ⟨became, moved⟩ := first
    obtain ⟨became', moved'⟩ := second
    exact ⟨became' ∘ became, fun member inside => moved' _ (moved member inside)⟩
  appended _ _ _ _ _ := coarser_same rfl
  delivered _ executed := by
    obtain ⟨_, ⟨_, rfl⟩ | ⟨_, _, _, _, _, rfl⟩⟩ := deliver_cases executed
    · exact coarser_same rfl
    · exact coarser_same rfl
  assessed _ _ _ _ committed := coarser_same committed.frame.2.2.2
  correlated _ executed := by
    rcases Correlation.decide_and_apply_cases executed with ⟨rfl, _⟩ | ⟨_, _, _, _, _, _, _, joined⟩
    · exact coarser_same rfl
    · exact coarser_linked joined
  updated _ updated := by
    obtain ⟨_, _, _, _, rfl⟩ := update_status_ok updated
    exact coarser_same rfl
  recorded _ _ := coarser_same rfl
  closed _ _ _ := coarser_same rfl
  noted _ _ _ := coarser_same rfl

/-- Alerts that share a context share one ever after, each with the evidence it joined with. -/
theorem contexts_coarsen (pipeline : Pipeline) (n8n : N8N) (first rest : List Service.Event) :
    Coarser (Service.after pipeline n8n first).db (Service.after pipeline n8n (first ++ rest)).db :=
  coarser_kept.related trivial n8n first (fun _ _ => trivial) (fun event _ => engaged_any event)

end SocTriage.Permanence
