import SocTriage.CaseExport
import SocTriage.DeliveryLog

/-!
The dedupe section of an alert's explanation. Its counters are looked up in the alert's group by the
identity of the event, and the identity of an expired event is recorded again for a later alert: the
explanation of the first one then tells of the deliveries of the other.
-/
namespace SocTriage.Explanation
open Deduplication PersistentDeduplication
open Audit (ACTION_ALERT_CREATED)
open Ingest (Pipeline)
open Notifications (N8N)
open DeliveryLog

/-! ### The section -/

structure ExplanationDedupeRead where
  group_key : String
  event_identity : Option String := none
  dedupe_status : Option String := none
  is_exact_duplicate : Option Bool := none
  delivery_count : Option Nat := none
  content_variants : Option Nat := none
  duplicate_deliveries : Option Nat := none
  occurrences : Option Nat := none
  generation : Option Nat := none
  first_seen : Option String := none
  last_seen : Option String := none
deriving DecidableEq

/-- One more audit record against the status that is known so far. -/
def audited_status (alert_id : String) (status : Option String) (record : AuditEvent) : Option String :=
  if record.action ≠ ACTION_ALERT_CREATED ∨ record.entity_id ≠ alert_id then status
  else
    match Json.lookup "dedupe_status" (record.after.getD []) with
    | some (.str candidate) => some candidate
    | _ => status

/-- The status in the last `alert.created` entry of the alert. -/
def dedupe_status_from_audit (audit_records : List AuditEvent) (alert_id : String) : Option String :=
  audit_records.foldl (audited_status alert_id) none

/-- The identity the counters are looked up by: that of the stored snapshot, else that of the row. -/
def explained_identity (record : Alert) : String :=
  match record.normalized_payload.dedupe.bind CanonicalDedupe.event_identity with
  | none => record.event_identity
  | some identity => if identity = "" then record.event_identity else identity

def dedupe_section (record : Alert) (group_state : Option GroupState) (audit_records : List AuditEvent) :
    ExplanationDedupeRead :=
  let dedupe := record.normalized_payload.dedupe
  let event_identity := explained_identity record
  let event := group_state.bind (fun state => state.events.get event_identity)
  let dedupe_status := dedupe_status_from_audit audit_records record.alert_id
  { group_key := record.dedupe_group_key
    event_identity := some event_identity
    dedupe_status
    is_exact_duplicate := dedupe_status.map (fun status => status = "exact_duplicate")
    delivery_count := event.map EventRecord.delivery_count
    content_variants := event.map EventRecord.content_variants
    duplicate_deliveries := match group_state with
      | some state => some state.duplicate_deliveries
      | none => dedupe.map CanonicalDedupe.duplicate_deliveries
    occurrences := dedupe.map CanonicalDedupe.occurrences
    generation := dedupe.map CanonicalDedupe.generation
    first_seen := dedupe.map (fun dedupe => dedupe.first_seen.isoformat)
    last_seen := dedupe.map (fun dedupe => dedupe.last_seen.isoformat) }

/-- The entities whose audit rows the route reads. -/
def entity_ids (db : Database) (record : Alert) : List String :=
  [record.alert_id, record.dedupe_group_key] ++ ((Incidents.for_alert db record.alert_id).map Incident.incident_id).toList

/-- The dedupe section that the route answers with; an unknown alert is answered with a 404. -/
def explained_dedupe (db : Database) (alert_id : UUID) : Option ExplanationDedupeRead :=
  (db.alerts.get alert_id).map (fun record =>
    dedupe_section record (group_state db record.dedupe_group_key) (CaseExport.for_entity_ids db (entity_ids db record)))

/-! ### What the counters should tell -/

/-- The counters are those of the deliveries that were answered with the alert while its record is there, and absent once
    it is gone. -/
structure OwnCounters (db : Database) (log : List Entry) (alert_id : UUID) (read : ExplanationDedupeRead) : Prop where
  live : ∀ event ∈ db.alert_events.rows, event.alert_id = alert_id →
    read.delivery_count = some (into log alert_id).length ∧
      read.content_variants = some (variants ((into log alert_id).map Entry.fingerprint))
  pruned : (∀ event ∈ db.alert_events.rows, event.alert_id ≠ alert_id) →
    read.delivery_count = none ∧ read.content_variants = none

/-- The identity of the alert's event has a record in the group that is another alert's. -/
def Reused (db : Database) (alert : Alert) : Prop := ∃ event ∈ db.alert_events.rows,
  event.event_identity = alert.event_identity ∧ event.group_key = alert.dedupe_group_key ∧ event.alert_id ≠ alert.alert_id

section
variable {db : Database} {log : List Entry} {alert : Alert}

/-- An alert is looked up under its own identity. -/
private theorem identity_own (records : Records db log) (stored : alert ∈ db.alerts.rows) :
    explained_identity alert = alert.event_identity := by
  unfold explained_identity
  cases snapshot : alert.normalized_payload.dedupe with
  | none => rfl
  | some dedupe =>
    rw [Option.bind_some, records.signed alert stored dedupe snapshot]
    dsimp only
    split <;> rfl

/-- The record the counters are read from: the one under the alert's identity, if it is of the alert's group. -/
private theorem event_found (records : Records db log) (stored : alert ∈ db.alerts.rows) {α : Type}
    (field : EventRecord → α) (column : AlertEvent → α)
    (same : ∀ event alert, field (event_to_record event alert) = column event) :
    ((group_state db alert.dedupe_group_key).bind (fun state => state.events.get (explained_identity alert))).map field =
      ((db.alert_events.get alert.event_identity).filter (fun event => event.group_key = alert.dedupe_group_key)).map
        column := by
  rw [identity_own records stored]
  cases found : (db.alert_events.get alert.event_identity).filter (fun event => event.group_key = alert.dedupe_group_key) with
  | none =>
    cases loaded : group_state db alert.dedupe_group_key with
    | none => rfl
    | some state =>
      obtain ⟨row, tracked, rfl⟩ := Option.map_eq_some_iff.mp loaded
      show ((events_for_group db alert.dedupe_group_key).get alert.event_identity).map field = none
      rw [DedupeRefinement.events_get, found]
      rfl
  | some event =>
    obtain ⟨listed, mine⟩ := Option.filter_eq_some_iff.mp found
    have inside := Table.get_mem listed
    have tracked := records.tracked event inside
    rw [of_decide_eq_true mine] at tracked
    obtain ⟨row, known⟩ := Option.isSome_iff_exists.mp tracked
    obtain ⟨owner, owned, own, -⟩ := records.owned event inside
    have its_alert : db.alerts.get event.alert_id = some owner := by
      rw [← own]
      exact Table.get_of_mem owned
    rw [group_state, known]
    show ((events_for_group db alert.dedupe_group_key).get alert.event_identity).map field = some (column event)
    rw [DedupeRefinement.events_get, found, Option.bind_some, joined, its_alert, Option.map_some, Option.map_some, same]

/-- The counters of a section tell of the alert itself exactly when its identity is not another alert's by now. -/
private theorem section_own_iff (records : Records db log) (stored : alert ∈ db.alerts.rows)
    (audit_records : List AuditEvent) :
    OwnCounters db log alert.alert_id (dedupe_section alert (group_state db alert.dedupe_group_key) audit_records) ↔
      ¬ Reused db alert := by
  have count : (dedupe_section alert (group_state db alert.dedupe_group_key) audit_records).delivery_count =
      ((db.alert_events.get alert.event_identity).filter (fun event => event.group_key = alert.dedupe_group_key)).map
        AlertEvent.delivery_count :=
    event_found records stored EventRecord.delivery_count AlertEvent.delivery_count (fun _ _ => rfl)
  have variant : (dedupe_section alert (group_state db alert.dedupe_group_key) audit_records).content_variants =
      ((db.alert_events.get alert.event_identity).filter (fun event => event.group_key = alert.dedupe_group_key)).map
        AlertEvent.content_variants :=
    event_found records stored EventRecord.content_variants AlertEvent.content_variants (fun _ _ => rfl)
  have under {event : AlertEvent} (inside : event ∈ db.alert_events.rows)
    (identity : event.event_identity = alert.event_identity)
      (group : event.group_key = alert.dedupe_group_key) :
      (db.alert_events.get alert.event_identity).filter (fun event => event.group_key = alert.dedupe_group_key) =
        some event := by
    rw [← identity, Table.get_of_mem inside]
    exact Option.filter_eq_some_iff.mpr ⟨rfl, decide_eq_true group⟩
  constructor
  · rintro own ⟨event, inside, identity, group, other⟩
    rw [under inside identity group] at count
    -- the alert's own record would stand under the same identity
    have gone : ∀ mine ∈ db.alert_events.rows, mine.alert_id ≠ alert.alert_id := by
      intro mine listed same
      obtain ⟨owner, owned, id, its_identity, -⟩ := records.owned mine listed
      have the_alert : owner = alert := Table.eq_of_key owned stored (id.trans same)
      subst the_alert
      have one : mine = event := Table.eq_of_key listed inside (its_identity.symm.trans identity.symm)
      subst one
      exact other same
    rw [(own.pruned gone).1] at count
    cases count
  · intro free
    constructor
    · intro event inside mine
      obtain ⟨owner, owned, id, identity, group⟩ := records.owned event inside
      have the_alert : owner = alert := Table.eq_of_key owned stored (id.trans mine)
      subst the_alert
      obtain ⟨-, -, delivered, -, contents⟩ := records.told event inside
      rw [count, variant, under inside identity.symm group.symm, Option.map_some, Option.map_some, delivered, contents, id]
      exact ⟨rfl, rfl⟩
    · intro gone
      have none : (db.alert_events.get alert.event_identity).filter (fun event => event.group_key = alert.dedupe_group_key) =
          none := by
        refine Option.filter_eq_none_iff.mpr (fun event listed mine => ?_)
        refine free ⟨event, Table.get_mem listed, Table.get_key listed, of_decide_eq_true mine, ?_⟩
        exact gone event (Table.get_mem listed)
      rw [count, variant, none]
      exact ⟨rfl, rfl⟩
end

/-- In every state the service reaches, the counters in the explanation of a stored alert are those of the deliveries
    answered with it, or absent once its record is gone, exactly when the record under its identity is not another
    alert's. -/
theorem explained_counters_iff (pipeline : Pipeline) (n8n : N8N) (events : List Service.Event) (alert : Alert)
    (stored : alert ∈ (after pipeline n8n events).service.db.alerts.rows) :
    ∃ read, explained_dedupe (after pipeline n8n events).service.db alert.alert_id = some read ∧
      (OwnCounters (after pipeline n8n events).service.db (after pipeline n8n events).log alert.alert_id read ↔
        ¬ Reused (after pipeline n8n events).service.db alert) := by
  have records := after_records pipeline n8n events
  refine ⟨_, ?_, section_own_iff records stored
    (CaseExport.for_entity_ids (after pipeline n8n events).service.db
      (entity_ids (after pipeline n8n events).service.db alert))⟩
  rw [explained_dedupe, Table.get_of_mem stored]
  rfl

/-- A failed login, and the same event twice more once its window has passed. -/
def login_again : List Service.Event :=
  [("a1", 0), ("a2", 2000000000), ("a3", 2001000000)].map (fun (alert_id, received_at) =>
    .ingest (Ingest.failed_login_delivery alert_id received_at) [] {} {})

private theorem first_stored :
    ((after Ingest.alarming DuplicateDelivery.accepting login_again).service.db.alerts.get "a1").isSome := by
  decide +kernel

/-- The alert of the first failed login. -/
def first_login : Alert :=
  ((after Ingest.alarming DuplicateDelivery.accepting login_again).service.db.alerts.get "a1").get first_stored

private theorem first_login_row :
    first_login ∈ (after Ingest.alarming DuplicateDelivery.accepting login_again).service.db.alerts.rows :=
  Table.get_mem (Option.some_get first_stored).symm

theorem first_login_explained : ∃ read,
    explained_dedupe (after Ingest.alarming DuplicateDelivery.accepting login_again).service.db first_login.alert_id =
      some read ∧
    (OwnCounters (after Ingest.alarming DuplicateDelivery.accepting login_again).service.db
        (after Ingest.alarming DuplicateDelivery.accepting login_again).log first_login.alert_id read ↔
      ¬ Reused (after Ingest.alarming DuplicateDelivery.accepting login_again).service.db first_login) :=
  explained_counters_iff Ingest.alarming DuplicateDelivery.accepting login_again first_login first_login_row

/-- The explanation of the first alert reports the two deliveries of the second. -/
theorem later_alert_explained : ¬ ∀ (pipeline : Pipeline) (n8n : N8N) (events : List Service.Event) (alert : Alert),
    alert ∈ (after pipeline n8n events).service.db.alerts.rows →
    ∃ read, explained_dedupe (after pipeline n8n events).service.db alert.alert_id = some read ∧
      OwnCounters (after pipeline n8n events).service.db (after pipeline n8n events).log alert.alert_id read := by
  intro always
  obtain ⟨read, given, own⟩ := always Ingest.alarming DuplicateDelivery.accepting login_again first_login first_login_row
  have id : first_login.alert_id = "a1" := Table.get_key (Option.some_get first_stored).symm
  have reported : (explained_dedupe (after Ingest.alarming DuplicateDelivery.accepting login_again).service.db "a1").map
      ExplanationDedupeRead.delivery_count = some (some 2) := by decide +kernel
  have gone : ∀ event ∈ (after Ingest.alarming DuplicateDelivery.accepting login_again).service.db.alert_events.rows,
      event.alert_id ≠ "a1" := by decide +kernel
  rw [id] at given own
  rw [given, Option.map_some, (own.pruned gone).1] at reported
  cases reported

end SocTriage.Explanation
