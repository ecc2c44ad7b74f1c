import SocTriage.DeliveryLog
import SocTriage.UnitsOfWork

/-!
What operations add that take place at some time or later. In the order of the rows, the tables and
the logs keep what they were listed with and get other rows at their ends, of that time or later.
-/
namespace SocTriage.Growth
open Assessment Incidents IncidentCallers PersistentDeduplication
open Deduplication (Window DeliveryDecision)
open Ingest (Pipeline)
open Notifications (N8N)
open UnitsOfWork (Any Kept)

/-- The rows there were, then others of the time or later. -/
def Grown {ρ : Type} (time : ρ → Int) (since : Int) (rows rows' : List ρ) : Prop :=
  ∃ added, rows' = rows ++ added ∧ ∀ row ∈ added, since ≤ time row

section
variable {ρ : Type} {time : ρ → Int} {since : Int}

theorem Grown.same {rows rows' : List ρ} (same : rows' = rows) : Grown time since rows rows' :=
  ⟨[], by rw [same, List.append_nil], fun _ none => absurd none List.not_mem_nil⟩

theorem Grown.trans {a b c : List ρ} (first : Grown time since a b) (second : Grown time since b c) :
    Grown time since a c := by
  obtain ⟨added, rfl, later⟩ := first
  obtain ⟨added', rfl, later'⟩ := second
  exact ⟨added ++ added', List.append_assoc _ _ _,
    fun row inside => (List.mem_append.mp inside).elim (later row) (later' row)⟩

theorem Grown.append {rows added : List ρ} (later : ∀ row ∈ added, since ≤ time row) :
    Grown time since rows (rows ++ added) := ⟨added, rfl, later⟩

/-- Nothing is added of a time before. -/
theorem Grown.filter {rows rows' : List ρ} (grown : Grown time since rows rows') {p : ρ → Bool}
    (early : ∀ row, p row = true → time row < since) : rows'.filter p = rows.filter p := by
  obtain ⟨added, rfl, later⟩ := grown
  have none : added.filter p = [] := List.filter_eq_nil_iff.mpr (fun row inside chosen =>
    absurd (later row inside) (Int.not_le.mpr (early row chosen)))
  rw [List.filter_append, none, List.append_nil]
end

/-- What an alert is counted by. -/
structure AlertColumns where
  alert_id : UUID
  received_at : Int
  rule_id : String
  agent_id : String
deriving DecidableEq

def columns (alert : Alert) : AlertColumns where
  alert_id := alert.alert_id
  received_at := alert.received_at
  rule_id := alert.rule_id
  agent_id := alert.agent_id

/-- What is there of a database later on, after operations at some time or later. -/
structure Later (since : Int) (db db' : Database) : Prop where
  alerts : Grown AlertColumns.received_at since (db.alerts.rows.map columns) (db'.alerts.rows.map columns)
  incidents : Grown id since (db.incidents.rows.map Incident.created_at) (db'.incidents.rows.map Incident.created_at)
  feedback : Grown AnalystFeedback.received_at since db.analyst_feedback db'.analyst_feedback
  audit_log : Grown AuditEvent.occurred_at since db.audit_log db'.audit_log

section
variable {since : Int} {db db' : Database}

private theorem entries_grown {entries : List Audit.AuditEntry} {occurred_at : Int} {log log' : List AuditEvent}
    (late : since ≤ occurred_at) (appended : log' = log ++ entries.map (Database.audit_row occurred_at)) :
    Grown AuditEvent.occurred_at since log log' := by
  rw [appended]
  refine .append (fun row inside => ?_)
  obtain ⟨_, _, rfl⟩ := List.mem_map.mp inside
  exact late

private theorem delivered {window : Window} {group_key identity fingerprint : String} {received : Datetime}
    {canonical : CanonicalAlert} {decision : DeliveryDecision} (late : since ≤ received.instant)
    (own : canonical.received_at = received)
    (executed : deliver window group_key identity fingerprint received canonical db = .ok (decision, db')) :
    Later since db db' := by
  have log := entries_grown late (deliver_audit_log executed)
  by_cases duplicate : decision.status = .EXACT_DUPLICATE
  · obtain ⟨_, ⟨_, rfl⟩ | ⟨distinct, _⟩⟩ := deliver_cases executed
    · exact ⟨.same rfl, .same rfl, .same rfl, log⟩
    · exact absurd duplicate distinct
  · obtain ⟨dedupe, _, record, inserted, _, _⟩ := DeliveryLog.deliver_new executed duplicate
    obtain ⟨_, ⟨again, _⟩ | ⟨_, _, _, _, _, rfl⟩⟩ := deliver_cases executed
    · exact absurd again duplicate
    · refine ⟨?_, .same rfl, .same rfl, log⟩
      rw [Table.insert_rows inserted, List.map_append]
      refine .append (fun row inside => ?_)
      obtain rfl := List.mem_singleton.mp inside
      rw [record]
      exact own ▸ late

private theorem assessed {request : Request} {incident_id : Option String} (late : since ≤ request.occurred_at)
    (committed : Committed request db incident_id db') : Later since db db' := by
  have alerts : db'.alerts.rows.map columns = db.alerts.rows.map columns :=
    committed.alert_rows (fun _ _ _ => rfl) (fun _ _ => rfl)
  have scored_log := @entries_grown since _ _ db.audit_log (scored request db).audit_log late rfl
  cases committed with
  | routed other => exact ⟨.same alerts, .same rfl, .same rfl, scored_log⟩
  | created asked none_open new =>
    obtain ⟨incident_id, _, _, rfl, _, _, _, inserted, rfl⟩ := create_ok new
    refine ⟨.same alerts, ?_, .same rfl, scored_log.trans (entries_grown late rfl)⟩
    change Grown id since ((scored request db).incidents.rows.map Incident.created_at) _
    dsimp only [Database.append_incidents]
    rw [Table.insert_rows inserted, List.map_append]
    refine .append (fun row inside => ?_)
    obtain rfl := List.mem_singleton.mp inside
    exact late
  | attached asked oldest joined =>
    obtain ⟨_, _, rfl⟩ := attach_ok joined
    exact ⟨.same alerts, .same rfl, .same rfl, scored_log⟩

private theorem moved {incident_id : String} {f : Incident → Incident} {keeps : ∀ row, (f row).incident_id = row.incident_id}
    (created : ∀ row, (f row).created_at = row.created_at) :
    Later since db { db with incidents := db.incidents.modify incident_id f keeps } :=
  ⟨.same rfl, .same (Table.map_modify _ _ _ keeps (fun row _ _ => created row)), .same rfl, .same rfl⟩

theorem later_kept (since : Int) : Kept (since ≤ ·) Any (Later since) where
  refl _ := ⟨.same rfl, .same rfl, .same rfl, .same rfl⟩
  trans first second := ⟨first.alerts.trans second.alerts, first.incidents.trans second.incidents,
    first.feedback.trans second.feedback, first.audit_log.trans second.audit_log⟩
  appended _ _ _ _ late := ⟨.same rfl, .same rfl, .same rfl, entries_grown late rfl⟩
  delivered late executed := delivered late rfl executed
  assessed late _ _ _ committed := assessed late committed
  correlated {_ _ _ db db' _} late executed := by
    obtain ⟨feedback, _, _, log⟩ := UnitsOfWork.correlation_logs executed
    rcases Correlation.decide_and_apply_cases executed with ⟨rfl, _⟩ | ⟨_, _, _, _, _, _, _, joined⟩
    · exact ⟨.same rfl, .same rfl, .same rfl, .same rfl⟩
    · exact ⟨.same (by rw [joined.untouched.alerts]), .same (by rw [joined.untouched.incidents]), .same feedback,
        entries_grown late log⟩
  updated _ updated := by
    obtain ⟨_, _, _, _, rfl⟩ := update_status_ok updated
    exact moved (fun _ => rfl)
  recorded late _ := ⟨.same rfl, .same rfl, .append (fun row inside => List.mem_singleton.mp inside ▸ late),
    entries_grown late rfl⟩
  closed _ _ _ := moved (fun _ => rfl)
  noted _ _ late := ⟨.same rfl, .same rfl, .same rfl, entries_grown late rfl⟩
end

end SocTriage.Growth
