import SocTriage.Correlation
import SocTriage.TheHive

/-!
The TheHive export of an incident: what the route reads of the incident, its alerts and
its audit rows, and the bounded title, description and observables made of that. The
types of indicators and the severities are in the case of the tables already.
-/
namespace SocTriage.CaseExport
open Audit Correlation TheHive

/-! ### Building an export -/

structure TheHiveCaseExport where
  incident_id : String
  title : String
  description : String
  severity : Nat
  tlp : Nat
  pap : Nat
  observables : List TheHiveObservable
deriving DecidableEq, Repr

/-- `text[:n]`. -/
def cut (n : Nat) (text : String) : String := String.ofList (text.toList.take n)

def severity_to_thehive (severity : String) : Nat :=
  (List.lookup (Text.strip severity) [("SEV1", 4), ("SEV2", 3), ("SEV3", 2), ("SEV4", 1)]).getD 1

def safe_value (value : String) : Option String :=
  let text := Text.strip value
  if text = "" then none else some (cut 1000 text)

def allowed_types : List (String × String) :=
  [("ip", "ip"), ("ipv4", "ip"), ("ipv6", "ip"), ("domain", "domain"), ("hostname", "hostname"), ("fqdn", "domain"),
    ("url", "url"), ("hash", "hash"), ("md5", "hash"), ("sha1", "hash"), ("sha256", "hash"), ("email", "mail")]

/-- The summary of an indicator as the route passes it on: it names no source. -/
def ioc_observable (ioc : String × String) : Option TheHiveObservable := do
  let raw_type ← safe_value ioc.1
  let value ← safe_value ioc.2
  let normalized_type ← allowed_types.lookup raw_type
  return { data_type := normalized_type, data := value }

def extract_ioc_observables (iocs : List (String × String)) : List TheHiveObservable := iocs.filterMap ioc_observable

/-- What the route has gathered on an incident. -/
structure Gathered where
  alerts : List UUID
  iocs : List (String × String)
  assignee : Option String
  notes : List (String × String)
  timeline : List (String × String)

/-- A line of the description that is there when it has a value. -/
def optional_line (label : String) (value : Option String) : List String := (value.map (label ++ ·)).toList

/-- A list of the description under its heading, when it has items. -/
def optional_items (heading : String) (limit : Nat) (items : List String) : List String :=
  if items.isEmpty then [] else heading :: (items.take limit).map ("- " ++ ·)

/-- `"left<between>right"`, or the right part alone. -/
def labelled (between : String) (left : Option String) (right : String) : String :=
  match left with
  | none => right
  | some left => left ++ between ++ right

def description_lines (incident_id : String) (incident : Incident) (gathered : Gathered) : List String :=
  let linked_alert_ids := gathered.alerts.filterMap safe_value
  let safe_notes := gathered.notes.filterMap (fun (actor, note) => (safe_value note).map (labelled ": " (safe_value actor)))
  let timeline_summary := gathered.timeline.filterMap (fun (event, timestamp) =>
    (safe_value event).map (labelled " - " (safe_value timestamp)))
  ["Incident ID: " ++ incident_id, "Status: " ++ (safe_value incident.status.value).getD "unknown"] ++
    optional_line "Dedupe Group: " (safe_value incident.dedupe_group_key) ++
    optional_line "Primary Alert ID: " (safe_value incident.primary_alert_id) ++
    optional_line "Assignee: " (gathered.assignee.bind safe_value) ++
    (if linked_alert_ids.isEmpty then [] else ["Linked Alerts: " ++ ", ".intercalate (linked_alert_ids.take 50)]) ++
    optional_items "Investigation Notes:" 50 safe_notes ++
    optional_items "Timeline Summary:" 100 timeline_summary

/-- Absent when the incident id is blank. -/
def build_thehive_case_export (incident : Incident) (gathered : Gathered) : Option TheHiveCaseExport := do
  let incident_id ← safe_value incident.incident_id
  return {
    incident_id
    title := cut 250 ("SOC Incident " ++ incident_id ++ " [" ++ incident.severity.value ++ "]")
    description := cut 12000 ("\n".intercalate (description_lines incident_id incident gathered))
    severity := severity_to_thehive incident.severity.value
    tlp := 2
    pap := 2
    observables := extract_ioc_observables gathered.iocs }

private theorem begins_append {c : Char} {s : String} (begins : s.toList.head? = some c) (t : String) :
    (s ++ t).toList.head? = some c := by
  rw [String.toList_append, List.head?_append, begins, Option.some_or]

private theorem begins_intercalate {c : Char} {line : String} (between : String) (rest : List String)
    (begins : line.toList.head? = some c) : (between.intercalate (line :: rest)).toList.head? = some c := by
  cases rest with
  | nil => rw [String.intercalate_singleton]; exact begins
  | cons next rest =>
    rw [String.intercalate_cons_cons]
    exact begins_append (begins_append begins between) _

private theorem begins_cut {c : Char} {s : String} (begins : s.toList.head? = some c) {n : Nat} (some_left : 0 < n) :
    c ∈ (cut n s).toList := by
  rw [cut, String.toList_ofList]
  exact List.mem_of_head? (by rw [List.head?_take, if_neg (by omega), begins])

/-- The export of an incident with an id passes the checks of the client. -/
theorem build_thehive_case_export_ok {incident : Incident} (gathered : Gathered)
    (named : Text.strip incident.incident_id ≠ "") :
    ∃ case_export, build_thehive_case_export incident gathered = some case_export ∧
      Text.strip case_export.title ≠ "" ∧ Text.strip case_export.description ≠ "" := by
  have safe : safe_value incident.incident_id = some (cut 1000 (Text.strip incident.incident_id)) := by
    rw [safe_value, if_neg named]
  rw [build_thehive_case_export, safe]
  refine ⟨_, rfl, ?_, ?_⟩
  · have begins : "SOC Incident ".toList.head? = some 'S' := by decide
    exact Text.strip_ne_empty (begins_cut (begins_append (begins_append (begins_append (begins_append begins _) _) _) _)
      (by decide)) (by decide)
  · have begins : "Incident ID: ".toList.head? = some 'I' := by decide
    exact Text.strip_ne_empty (begins_cut (begins_intercalate _ _ (begins_append begins _)) (by decide)) (by decide)

/-! ### What the route reads -/

/-- `ORDER BY occurred_at, id`: rows of one time stay in the order of the log. -/
def by_occurred (a b : AuditEvent) : Prop := a.occurred_at ≤ b.occurred_at

instance : DecidableRel by_occurred := fun _ _ => inferInstanceAs (Decidable (_ ≤ _))

def for_entity_ids (db : Database) (entity_ids : List String) : List AuditEvent :=
  (db.audit_log.filter (fun row => entity_ids.contains row.entity_id)).insertionSort by_occurred

def build_timeline (records : List AuditEvent) : List AuditEvent := records.insertionSort by_occurred

/-- Alerts attached to an incident, oldest first. -/
def for_incident (db : Database) (incident_id : String) : List Alert :=
  (db.alerts.rows.filter (fun row => row.incident_id = some incident_id)).insertionSort by_received

def ACTION_INCIDENT_ASSIGNED := "incident.assigned"
def ACTION_INCIDENT_THEHIVE_EXPORTED := "incident.thehive_exported"

/-- A field of the snapshot of a row that the application writes as text, or as null. -/
def text_field (key : String) (record : AuditEvent) : Option String :=
  match Json.lookup key (record.after.getD []) with
  | some (.str text) => some text
  | _ => none

/-- The case of an exported row. -/
def mapped_case (record : AuditEvent) : Option String :=
  ((text_field "case_id" record).map Text.strip).filter (· ≠ "")

def existing_case_mapping (records : List AuditEvent) (incident_id : String) : Option String :=
  (records.reverse.filter (fun record =>
    record.action = ACTION_INCIDENT_THEHIVE_EXPORTED ∧ record.entity_id = incident_id)).findSome? mapped_case

/-- The order of `sorted` on pairs of strings. -/
def by_key (a b : String × String) : Prop := a.1 < b.1 ∨ (a.1 = b.1 ∧ a.2 ≤ b.2)

instance : DecidableRel by_key := fun _ _ => inferInstanceAs (Decidable (_ ∨ _))

/-- The indicators of the alerts, each type and value once, sorted. -/
def ioc_keys (alerts : List Alert) : List (String × String) :=
  ((alerts.flatMap (fun row => row.normalized_payload.iocs)).map
    (fun ioc => (ioc.type.value, ioc.value))).eraseDups.insertionSort
    by_key

def current_assignee (records : List AuditEvent) : Option String :=
  (records.reverse.find? (fun record => record.action = ACTION_INCIDENT_ASSIGNED)).bind (text_field "assignee")

/-- Actor and text of each note that has one. -/
def investigation_notes (records : List AuditEvent) : List (String × String) :=
  ((records.filter (fun record => record.action = ACTION_INCIDENT_NOTE_ADDED)).map (fun record =>
    (record.actor, Text.strip ((text_field "note" record).getD "")))).filter (fun note => note.2 ≠ "")

def gather (db : Database) (incident_id : String) : Gathered :=
  let audit_records := for_entity_ids db [incident_id]
  let linked_records := for_incident db incident_id
  let timeline_records := for_entity_ids db (incident_id :: linked_records.map Alert.alert_id)
  { alerts := linked_records.map Alert.alert_id
    iocs := ioc_keys linked_records
    assignee := current_assignee audit_records
    notes := investigation_notes audit_records
    timeline := (build_timeline timeline_records).map (fun record =>
      (record.action, (Datetime.of_instant record.occurred_at).isoformat)) }

theorem mem_for_entity_ids {db : Database} {entity_ids : List String} {row : AuditEvent} :
    row ∈ for_entity_ids db entity_ids ↔ row ∈ db.audit_log ∧ row.entity_id ∈ entity_ids := by
  rw [for_entity_ids, List.mem_insertionSort, List.mem_filter, List.contains_iff_mem]

/-- The mapping of an incident is that of one of its exported rows. -/
theorem existing_case_mapping_some {db : Database} {incident_id case_id : String}
    (mapped : existing_case_mapping (for_entity_ids db [incident_id]) incident_id = some case_id) :
    ∃ row ∈ db.audit_log, row.action = ACTION_INCIDENT_THEHIVE_EXPORTED ∧ row.entity_id = incident_id ∧
      mapped_case row = some case_id := by
  obtain ⟨row, inside, mapped⟩ := List.exists_of_findSome?_eq_some mapped
  obtain ⟨listed, kind⟩ := List.mem_filter.mp inside
  rw [decide_eq_true_eq] at kind
  exact ⟨row, (mem_for_entity_ids.mp (List.mem_reverse.mp listed)).1, kind.1, kind.2, mapped⟩

end SocTriage.CaseExport
