import SocTriage.CaseExport
import SocTriage.UnitsOfWork

/-!
The audit log as a book of entries. What an operation writes in it has the time of the operation,
so that under a clock that does not step back the order of the rows is the order of their times,
and a reader that sorts finds the rows as they were written.
-/
namespace SocTriage.Logbook
open Assessment Audit CaseExport Incidents PersistentDeduplication
open Deduplication (Window DeliveryDecision)
open UnitsOfWork (Any KeptUnnoted Remark Correlating REMARK_ACTIONS CORRELATION_ACTIONS)

/-! ### The order of the rows -/

/-- Rows in the order of their times, none of them after `now`. -/
structure Chronological (now : Int) (db : Database) : Prop where
  sorted : db.audit_log.Pairwise by_occurred
  reached : ∀ row ∈ db.audit_log, row.occurred_at ≤ now

theorem Chronological.start (now : Int) : Chronological now {} :=
  ⟨List.Pairwise.nil, fun _ none => absurd none List.not_mem_nil⟩

theorem Chronological.later {now now' : Int} {db : Database} (chronological : Chronological now db) (later : now ≤ now') :
    Chronological now' db :=
  ⟨chronological.sorted, fun row inside => (chronological.reached row inside).trans later⟩

/-- What is written at the time keeps the order. -/
theorem Chronological.appended {now : Int} {db db' : Database} {entries : List AuditEntry}
    (chronological : Chronological now db)
    (log : db'.audit_log = db.audit_log ++ entries.map (Database.audit_row now)) : Chronological now db' := by
  have new : ∀ row ∈ entries.map (Database.audit_row now), row.occurred_at = now := by
    intro row inside
    obtain ⟨_, _, rfl⟩ := List.mem_map.mp inside
    rfl
  constructor
  · rw [log]
    refine List.pairwise_append.mpr ⟨chronological.sorted, ?_, ?_⟩
    · exact List.pairwise_of_forall_mem_list (fun row inside row' inside' => (new row inside).trans_le (new row' inside').ge)
    · intro row inside row' inside'
      exact (chronological.reached row inside).trans_eq (new row' inside').symm
  · rw [log]
    intro row inside
    rcases List.mem_append.mp inside with before | added
    · exact chronological.reached row before
    · exact (new row added).le

/-- A reader of the rows of some entities finds them as they stand in the log. -/
theorem Chronological.read {now : Int} {db : Database} (chronological : Chronological now db) (entity_ids : List String) :
    for_entity_ids db entity_ids = db.audit_log.filter (fun row => entity_ids.contains row.entity_id) :=
  List.Pairwise.insertionSort_eq (chronological.sorted.filter _)

/-! ### What operations other than notes write -/

/-- Neither a note nor an assignment. -/
def Unasked (action : String) : Prop := action ≠ ACTION_INCIDENT_NOTE_ADDED ∧ action ≠ ACTION_INCIDENT_ASSIGNED

instance : DecidablePred Unasked := fun _ => inferInstanceAs (Decidable (_ ∧ _))

/-- Entries of the operations themselves: no notes and no assignments. -/
def Routine (entries : List AuditEntry) : Prop := ∀ entry ∈ entries, Unasked entry.action

private theorem routine_nil : Routine [] := fun _ none => absurd none List.not_mem_nil

private theorem routine_cons {entry : AuditEntry} {entries : List AuditEntry} :
    Routine (entry :: entries) ↔ Unasked entry.action ∧ Routine entries := List.forall_mem_cons

private theorem routine_append {entries entries' : List AuditEntry} :
    Routine (entries ++ entries') ↔ Routine entries ∧ Routine entries' := List.forall_mem_append

private theorem routine_one {entry : AuditEntry} (unasked : Unasked entry.action) : Routine [entry] :=
  routine_cons.mpr ⟨unasked, routine_nil⟩

private theorem remark_unasked {entry : AuditEntry} (remark : Remark entry) : Unasked entry.action :=
  (by decide : ∀ action ∈ REMARK_ACTIONS, Unasked action) entry.action remark.action

private theorem correlating_unasked {entry : AuditEntry} (correlating : Correlating entry) : Unasked entry.action :=
  (by decide : ∀ action ∈ CORRELATION_ACTIONS, Unasked action) entry.action correlating.action

/-- Only entries of the operations themselves are written, at one time. -/
def RoutinelyLogged (now : Int) (db db' : Database) : Prop :=
  ∃ entries, Routine entries ∧ db'.audit_log = db.audit_log ++ entries.map (Database.audit_row now)

section
variable {now : Int} {db db' : Database}

private theorem nothing (same : db'.audit_log = db.audit_log) : RoutinelyLogged now db db' :=
  ⟨[], routine_nil, by rw [same, List.map_nil, List.append_nil]⟩

private theorem decision_routine (decision : DeliveryDecision) : Routine (audit_entries_for_decision decision) := by
  refine routine_append.mpr ⟨routine_append.mpr ⟨?_, ?_⟩, ?_⟩
  · split
    · exact routine_one (by decide : Unasked ACTION_GENERATION_STARTED)
    · exact routine_nil
  · split
    · exact routine_one (by decide : Unasked ACTION_ALERT_CREATED)
    · exact routine_one (by decide : Unasked ACTION_DUPLICATE_ABSORBED)
  · split
    · exact routine_one (by decide : Unasked ACTION_CONTENT_DIVERGENCE)
    · exact routine_nil

private theorem assessment_routine (alert_id : UUID) (risk : RiskAssessment) (decision : Decision)
    (previous_risk : Option RiskAssessment) (previous_decision : Option Decision) :
    Routine (audit_entries_for_assessment alert_id risk decision previous_risk previous_decision) :=
  routine_cons.mpr ⟨(by decide : Unasked ACTION_ALERT_SCORED), routine_one (by decide : Unasked ACTION_ALERT_DECIDED)⟩

private theorem incident_routine (incident : Incident) : Routine (audit_entries_for_incident incident) :=
  routine_one (by decide : Unasked ACTION_INCIDENT_CREATED)

private theorem assessed {request : Request} {incident_id : Option String}
    (committed : Committed request db incident_id db') : RoutinelyLogged request.occurred_at db db' := by
  have own := assessment_routine request.alert_id request.risk request.decision request.previous_risk
    request.previous_decision
  cases committed with
  | routed other => exact ⟨_, own, rfl⟩
  | created asked none_open new =>
    obtain ⟨_, _, _, rfl, _, _, _, _, rfl⟩ := create_ok new
    exact ⟨_, routine_append.mpr ⟨own, incident_routine _⟩, by
      rw [List.map_append, ← List.append_assoc]
      rfl⟩
  | attached asked oldest joined =>
    obtain ⟨_, _, rfl⟩ := attach_ok joined
    exact ⟨_, own, rfl⟩
end

theorem routinely_logged (now : Int) : KeptUnnoted (· = now) Any (RoutinelyLogged now) where
  refl _ := nothing rfl
  trans := by
    rintro a b c ⟨entries, routine, first⟩ ⟨entries', routine', second⟩
    exact ⟨entries ++ entries', routine_append.mpr ⟨routine, routine'⟩, by
      rw [second, first, List.map_append, List.append_assoc]⟩
  appended _ entries _ remarks timely :=
    ⟨entries, fun entry listed => remark_unasked (remarks entry listed), by rw [← timely]; rfl⟩
  delivered timely executed := ⟨_, decision_routine _, by rw [← timely]; exact deliver_audit_log executed⟩
  assessed timely _ _ _ committed := timely ▸ assessed committed
  correlated timely executed := by
    obtain ⟨_, entries, correlating, log⟩ := UnitsOfWork.correlation_logs executed
    exact ⟨entries, fun entry listed => correlating_unasked (correlating entry listed), timely ▸ log⟩
  updated _ updated := by
    obtain ⟨_, _, _, _, rfl⟩ := update_status_ok updated
    exact nothing rfl
  recorded {request _ _} timely _ := ⟨audit_entries_for_feedback request.alert_id request.verdict.value
    (IncidentCallers.actor_name request.actor),
    routine_one (by decide : Unasked ACTION_FEEDBACK_RECEIVED), by rw [← timely]; rfl⟩
  closed _ _ _ := nothing rfl

end SocTriage.Logbook
