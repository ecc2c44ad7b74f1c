import Mathlib.Data.List.Sort
import SocTriage.CaseExport
import SocTriage.Permanence
import SocTriage.Redaction

/-!
The timeline of an incident: the audit rows of the incident and of the alerts that are linked to it,
in the order of their times and, at one time, in the order of the log, with the secrets left out of
the snapshots. What a reader was told is told again for as long as it concerns the incident.
-/
namespace SocTriage.Timelines
open CaseExport (by_occurred for_entity_ids for_incident)
open Ingest (Pipeline)
open Notifications (N8N)
open Permanence (Lasts lasts_kept)
open Redaction (HasKey Sensitive redact_fields redact_mapping value_clean)

/-! ### Stable sorting -/

section
variable {α : Type} {r : α → α → Prop} [DecidableRel r] [Std.Total r] [IsTrans α r]

/-- Sorting keeps rows of a part in the order they have in the sorted whole. -/
theorem insertionSort_sublist {rows whole : List α} (part : rows.Sublist whole) :
    (rows.insertionSort r).Sublist (whole.insertionSort r) := by
  induction part with
  | slnil => exact .refl _
  | cons row _ ih => exact ih.trans (List.sublist_orderedInsert row _)
  | cons_cons row _ ih => exact List.Sublist.orderedInsert_sublist row ih (List.pairwise_insertionSort r _)

theorem filter_insertionSort (p : α → Bool) (rows : List α) :
    (rows.insertionSort r).filter p = (rows.filter p).insertionSort r := by
  have part : ((rows.filter p).insertionSort r).Sublist ((rows.insertionSort r).filter p) := by
    have all : ((rows.filter p).insertionSort r).filter p = (rows.filter p).insertionSort r := by
      refine List.filter_eq_self.mpr (fun row inside => ?_)
      exact (List.mem_filter.mp ((List.mem_insertionSort r).mp inside)).2
    rw [← all]
    exact (insertionSort_sublist List.filter_sublist).filter p
  have same : ((rows.filter p).insertionSort r).Perm ((rows.insertionSort r).filter p) :=
    (List.perm_insertionSort r _).trans ((List.perm_insertionSort r rows).symm.filter p)
  exact (part.eq_of_length same.length_eq).symm
end

/-! ### The route -/

structure TimelineEvent where
  timestamp : Int
  action : String
  entity_type : String
  entity_id : String
  actor : String
  before : Option JsonObject := none
  after : Option JsonObject := none
  metadata : JsonObject := []
deriving DecidableEq

/-- The field of a snapshot under another name, when the snapshot has it. -/
def carried (key name : String) (snapshot : JsonObject) : JsonObject :=
  ((Json.lookup key snapshot).map (fun value => (name, value))).toList

def status_metadata (record : AuditEvent) : JsonObject :=
  let before := record.before.getD []
  let after := record.after.getD []
  carried "status" "before_status" before ++ carried "status" "after_status" after ++
    carried "verdict" "verdict" after ++ carried "severity" "severity" after

def timeline_event (record : AuditEvent) : TimelineEvent where
  timestamp := record.occurred_at
  action := record.action
  entity_type := record.entity_type
  entity_id := record.entity_id
  actor := record.actor
  before := record.before
  after := record.after
  metadata := status_metadata record

def build_timeline (records : List AuditEvent) : List TimelineEvent :=
  (CaseExport.build_timeline records).map timeline_event

def entity_ids (db : Database) (incident_id : String) : List String :=
  incident_id :: (for_incident db incident_id).map Alert.alert_id

section
variable (lower : String → String)

def sanitized (event : TimelineEvent) : TimelineEvent :=
  { event with
    before := event.before.map (redact_fields lower)
    after := event.after.map (redact_fields lower)
    metadata := redact_fields lower event.metadata }

/-- The events of an incident; an unknown one is answered with a 404. -/
def get_incident_timeline (db : Database) (incident_id : String) : Option (List TimelineEvent) :=
  (db.incidents.get incident_id).map (fun _ =>
    (build_timeline (for_entity_ids db (entity_ids db incident_id))).map (sanitized lower))
end

/-! ### What a reader is told -/

/-- The incident itself, or an alert that is linked to it. -/
def Concerns (db : Database) (incident_id entity_id : String) : Prop :=
  entity_id = incident_id ∨ ∃ alert ∈ db.alerts.rows, alert.alert_id = entity_id ∧ alert.incident_id = some incident_id

instance (db : Database) (incident_id entity_id : String) : Decidable (Concerns db incident_id entity_id) :=
  inferInstanceAs (Decidable (_ ∨ ∃ alert ∈ db.alerts.rows, _ ∧ _))

section
variable (lower : String → String)

/-- What is told of a row. -/
def told (row : AuditEvent) : TimelineEvent := sanitized lower (timeline_event row)

/-- No key of a secret is left in the event, at any depth. -/
def Clean (event : TimelineEvent) : Prop :=
  ∀ fields, event.before = some fields ∨ event.after = some fields ∨ event.metadata = fields →
    ∀ key, HasKey (.obj fields) key → ¬ Sensitive lower key

/-- The events are in the order of their times; those of one time are the rows of that time that concern the incident, in the
    order of the log. -/
structure Told (db : Database) (incident_id : String) (events : List TimelineEvent) : Prop where
  ordered : events.Pairwise (fun a b => a.timestamp ≤ b.timestamp)
  exact : ∀ time, events.filter (fun event => event.timestamp = time) =
    (db.audit_log.filter (fun row => Concerns db incident_id row.entity_id ∧ row.occurred_at = time)).map (told lower)
  clean : ∀ event ∈ events, Clean lower event
end

section
variable {db : Database} {incident_id : String}

private instance : Std.Total by_occurred := ⟨fun a b => le_total a.occurred_at b.occurred_at⟩

private instance : IsTrans AuditEvent by_occurred := ⟨fun _ _ _ => le_trans⟩

/-- The rows that concern the incident, in the order they are told in. -/
private def history (db : Database) (incident_id : String) : List AuditEvent :=
  (db.audit_log.filter (fun row => Concerns db incident_id row.entity_id)).insertionSort by_occurred

private theorem contains_entity_ids (entity_id : String) :
    (entity_ids db incident_id).contains entity_id = decide (Concerns db incident_id entity_id) := by
  rw [Bool.eq_iff_iff, List.contains_iff_mem, decide_eq_true_eq, entity_ids, List.mem_cons, Concerns, List.mem_map]
  refine or_congr_right (exists_congr (fun alert => ?_))
  rw [for_incident, List.mem_insertionSort, List.mem_filter, decide_eq_true_eq]
  exact ⟨fun ⟨⟨stored, linked⟩, key⟩ => ⟨stored, key, linked⟩, fun ⟨stored, key, linked⟩ => ⟨⟨stored, linked⟩, key⟩⟩

private theorem timeline_history (lower : String → String) {incident : Incident}
    (found : db.incidents.get incident_id = some incident) :
    get_incident_timeline lower db incident_id = some ((history db incident_id).map (told lower)) := by
  have sorted : (for_entity_ids db (entity_ids db incident_id)).insertionSort by_occurred = history db incident_id := by
    rw [for_entity_ids, (List.pairwise_insertionSort by_occurred _).insertionSort_eq, history]
    simp only [contains_entity_ids]
  rw [get_incident_timeline, found, Option.map_some, build_timeline, CaseExport.build_timeline, sorted, List.map_map]
  rfl

private theorem redacted_clean (lower : String → String) (fields : JsonObject) (key : String)
    (found : HasKey (.obj (redact_fields lower fields)) key) : ¬ Sensitive lower key :=
  value_clean lower (.obj fields) key (by rw [redact_mapping]; exact found)

private theorem told_clean (lower : String → String) (row : AuditEvent) : Clean lower (told lower row) := by
  rintro fields (before | after | metadata) key found
  · obtain ⟨_, -, rfl⟩ := Option.map_eq_some_iff.mp before
    exact redacted_clean lower _ key found
  · obtain ⟨_, -, rfl⟩ := Option.map_eq_some_iff.mp after
    exact redacted_clean lower _ key found
  · rw [← metadata] at found
    exact redacted_clean lower _ key found

private theorem history_told (lower : String → String) (db : Database) (incident_id : String) :
    Told lower db incident_id ((history db incident_id).map (told lower)) where
  ordered := List.pairwise_map.mpr (List.pairwise_insertionSort by_occurred _)
  exact time := by
    -- rows of one time are in any order of their times, so sorting leaves them as they are
    have level : ((db.audit_log.filter (fun row => Concerns db incident_id row.entity_id)).filter
        (fun row => row.occurred_at = time)).Pairwise by_occurred := by
      refine List.pairwise_of_forall_mem_list (fun row inside row' inside' => ?_)
      have here := of_decide_eq_true (List.mem_filter.mp inside).2
      have here' := of_decide_eq_true (List.mem_filter.mp inside').2
      exact (here.trans here'.symm).le
    rw [List.filter_map]
    show ((history db incident_id).filter (fun row => row.occurred_at = time)).map (told lower) = _
    rw [history, filter_insertionSort, level.insertionSort_eq, List.filter_filter]
    simp only [Bool.decide_and, Bool.and_comm]
  clean event listed := by
    obtain ⟨row, -, rfl⟩ := List.mem_map.mp listed
    exact told_clean lower row

/-- While the log grows, the rows of a history that still concern the incident keep their order in the later one. -/
private theorem history_grows {db' : Database} (lasts : Lasts db db') :
    ((history db incident_id).filter (fun row => Concerns db' incident_id row.entity_id)).Sublist
      (history db' incident_id) := by
  rw [history, history, filter_insertionSort, List.filter_filter]
  refine insertionSort_sublist ?_
  refine List.Sublist.trans ?_ (lasts.audit_log.sublist.filter _)
  exact List.monotone_filter_right _ (fun row both => (Bool.and_eq_true_iff.mp both).1)
end

/-- At each moment of every run an incident's timeline is told so, and what was told before and still concerns the incident
    is told again, in the order it was told in. -/
theorem timelines_told (lower : String → String) (pipeline : Pipeline) (n8n : N8N) (first rest : List Service.Event) :
    let db := (Service.after pipeline n8n first).db
    let later := (Service.after pipeline n8n (first ++ rest)).db
    (∀ incident ∈ db.incidents.rows, ∃ events events', get_incident_timeline lower db incident.incident_id = some events ∧
      get_incident_timeline lower later incident.incident_id = some events' ∧ Told lower db incident.incident_id events ∧
      (events.filter (fun event => Concerns later incident.incident_id event.entity_id)).Sublist events') ∧
    ∀ incident_id, db.incidents.has incident_id = false → get_incident_timeline lower db incident_id = none := by
  intro db later
  have lasts : Lasts db later := lasts_kept.related trivial n8n first (fun _ _ => trivial)
    (fun event _ => UnitsOfWork.engaged_any event)
  constructor
  · intro incident inside
    obtain ⟨incident', inside', same⟩ := lasts.incidents incident inside
    have key : incident'.incident_id = incident.incident_id := congrArg Prod.fst same.columns
    have found' : later.incidents.get incident.incident_id = some incident' := key ▸ Table.get_of_mem inside'
    refine ⟨_, _, timeline_history lower (Table.get_of_mem inside), timeline_history lower found',
      history_told lower db incident.incident_id, ?_⟩
    rw [List.filter_map]
    exact (history_grows lasts).map (told lower)
  · intro incident_id unknown
    rw [get_incident_timeline, Table.has_eq_false.mp unknown, Option.map_none]

end SocTriage.Timelines
