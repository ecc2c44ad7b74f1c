import SocTriage.CorrelationInvariants
import SocTriage.DuplicateDelivery
import SocTriage.N8NClient
import SocTriage.Permanence

/-!
The references between the rows. Every foreign key of the schema resolves in every world the
service reaches, that of the notification attempts too, as the client reports about the alert it
was given; and so does what no key enforces: the peers that the evidence of a membership names
are members of the same context. So leaving foreign keys out of the writes loses nothing.
-/
namespace SocTriage.References
open Assessment Incidents IncidentCallers
open CorrelationInvariants (Coherent group_of span linked_coherent insert_coherent coherent_empty)
open Deduplication (Window DeliveryDecision)
open PersistentDeduplication
open Ingest (Pipeline)
open N8NClient (N8NWebhookClient)
open Notifications (N8N World)
open Permanence (Lasts)
open UnitsOfWork (Any Kept)

/-- The foreign keys and the unique columns of the tables of the database, and the coherence of the contexts. -/
structure Referenced (db : Database) : Prop where
  linked : ∀ alert ∈ db.alerts.rows, ∀ incident_id, alert.incident_id = some incident_id →
    db.incidents.has incident_id = true
  primary : ∀ incident ∈ db.incidents.rows, db.alerts.has incident.primary_alert_id = true
  primary_unique : ∀ incident ∈ db.incidents.rows, ∀ other ∈ db.incidents.rows,
    incident.primary_alert_id = other.primary_alert_id → incident = other
  recorded : ∀ event ∈ db.alert_events.rows, db.alerts.has event.alert_id = true ∧
    db.alert_dedupe_groups.has event.group_key = true
  recorded_unique : ∀ event ∈ db.alert_events.rows, ∀ other ∈ db.alert_events.rows,
    event.alert_id = other.alert_id → event = other
  commented : ∀ feedback ∈ db.analyst_feedback, db.alerts.has feedback.alert_id = true
  contexts : Coherent db

/-! ### Tables that lose no key -/

section
variable {ρ κ κ' : Type} [DecidableEq κ] {key : ρ → κ} {other : ρ → κ'} {t t' : Table key} {r : ρ}

private theorem has_inserted (inserted : t.insert r = some t') {k : κ} (taken : t.has k = true) : t'.has k = true := by
  obtain ⟨row, inside, same⟩ := Table.has_iff.mp taken
  exact Table.has_iff.mpr ⟨row, (Table.mem_insert inserted).mpr (.inl inside), same⟩

private theorem has_put (k : κ) : (t.put r).has k = true ↔ key r = k ∨ t.has k = true := by
  rw [Table.has, Table.get_put]
  split
  · rename_i same
    exact iff_of_true rfl (.inl same)
  · rename_i different
    exact (or_iff_right different).symm

/-- A row that is new in a unique column keeps the column unique. -/
private theorem unique_inserted (unique : ∀ row ∈ t.rows, ∀ old ∈ t.rows, other row = other old → row = old)
    (fresh : ∀ old ∈ t.rows, other old ≠ other r) (inserted : t.insert r = some t') :
    ∀ row ∈ t'.rows, ∀ old ∈ t'.rows, other row = other old → row = old := by
  intro row inside old inside' same
  rcases (Table.mem_insert inserted).mp inside with before | rfl
  · rcases (Table.mem_insert inserted).mp inside' with before' | rfl
    · exact unique row before old before' same
    · exact absurd same (fresh row before)
  · rcases (Table.mem_insert inserted).mp inside' with before' | rfl
    · exact absurd same.symm (fresh old before')
    · rfl

/-- A change of one row that keeps a unique column keeps it unique. -/
private theorem unique_modified {k : κ} {f : ρ → ρ} (keeps : ∀ r, key (f r) = key r)
    (same : ∀ r, other (f r) = other r)
    (unique : ∀ row ∈ t.rows, ∀ old ∈ t.rows, other row = other old → row = old) :
    ∀ row ∈ (t.modify k f keeps).rows, ∀ old ∈ (t.modify k f keeps).rows, other row = other old → row = old := by
  intro row inside old inside' equal
  rcases Table.mem_modify.mp inside with ⟨source, stored, mine, rfl⟩ | ⟨stored, apart⟩
  · rcases Table.mem_modify.mp inside' with ⟨source', stored', mine', rfl⟩ | ⟨stored', apart'⟩
    · rw [same, same] at equal
      rw [unique source stored source' stored' equal]
    · rw [same] at equal
      rw [← unique source stored old stored' equal] at apart'
      exact absurd mine apart'
  · rcases Table.mem_modify.mp inside' with ⟨source', stored', mine', rfl⟩ | ⟨stored', apart'⟩
    · rw [same] at equal
      rw [unique row stored source' stored' equal] at apart
      exact absurd mine' apart
    · exact unique row stored old stored' equal
end

/-! ### Each unit of work -/

section
variable {db db' : Database}

/-- Coherence is about the memberships, the contexts, and when the alerts were received in which group. -/
private theorem coherent_same (coherent : Coherent db) (members : db'.correlation_members = db.correlation_members)
    (contexts : db'.correlation_contexts = db.correlation_contexts)
    (seen : ∀ alert_id, (db'.alerts.get alert_id).map (fun row => (row.received_at, row.dedupe_group_key)) =
      (db.alerts.get alert_id).map (fun row => (row.received_at, row.dedupe_group_key))) : Coherent db' := by
  have groups : ∀ alert_id, group_of db' alert_id = group_of db alert_id := by
    intro alert_id
    have same := congrArg (Option.map Prod.snd) (seen alert_id)
    rw [Option.map_map, Option.map_map] at same
    exact same
  have times : ∀ alert_id,
      (db'.alerts.get alert_id).map Alert.received_at = (db.alerts.get alert_id).map Alert.received_at := by
    intro alert_id
    have same := congrArg (Option.map Prod.fst) (seen alert_id)
    rw [Option.map_map, Option.map_map] at same
    exact same
  have spans : ∀ context_id, span db' context_id = span db context_id := by
    intro context_id
    ext t
    simp only [span, Set.mem_ofPred_eq, ← Option.map_eq_some_iff, times, members]
  refine ⟨?_, ?_, ?_, ?_, ?_, ?_⟩
  · intro member inside
    rw [members] at inside
    obtain ⟨alert, found⟩ := coherent.stored member inside
    have same := seen member.alert_id
    rw [found, Option.map_some] at same
    obtain ⟨alert', found', -⟩ := Option.map_eq_some_iff.mp same
    exact ⟨alert', found'⟩
  · rw [members]; exact coherent.single
  · rw [members, contexts]; exact coherent.sized
  · simp only [groups, members]; exact coherent.evidenced
  · simp only [spans, contexts]; exact coherent.bounded
  · rw [members, contexts]; exact coherent.known

private theorem delivered {window : Window} {group_key identity fingerprint : String} {received : Datetime}
    {canonical : CanonicalAlert} {decision : DeliveryDecision}
    (executed : deliver window group_key identity fingerprint received canonical db = .ok (decision, db'))
    (referenced : Referenced db) : Referenced db' := by
  have left : ∀ event ∈ (prune_events db group_key received window).alert_events.rows, event ∈ db.alert_events.rows :=
    fun event inside => (List.mem_filter.mp inside).1
  obtain ⟨_, ⟨_, rfl⟩ | ⟨_, alerts, alert_events, inserted, inserted_event, rfl⟩⟩ := deliver_cases executed
  · refine ⟨referenced.linked, referenced.primary, referenced.primary_unique, ?_, ?_, referenced.commented, ?_⟩
    · intro event inside
      change event ∈ ((prune_events db group_key received window).alert_events.modify decision.record.event_identity
        (absorbed decision.record)).rows at inside
      have old : ∃ before ∈ db.alert_events.rows, event.alert_id = before.alert_id ∧ event.group_key = before.group_key := by
        rcases Table.mem_modify.mp inside with ⟨before, stored, _, rfl⟩ | ⟨stored, _⟩
        · exact ⟨before, left before stored, rfl, rfl⟩
        · exact ⟨event, left event stored, rfl, rfl⟩
      obtain ⟨before, stored, alert, group⟩ := old
      rw [alert, group]
      obtain ⟨has_alert, has_group⟩ := referenced.recorded before stored
      exact ⟨has_alert, (has_put before.group_key).mpr (.inr has_group)⟩
    · have unique := unique_modified (k := decision.record.event_identity) (f := absorbed decision.record) (fun _ => rfl)
        (fun _ => rfl) (fun row inside old inside' same =>
          referenced.recorded_unique row (left row inside) old (left old inside') same)
      exact unique
    · exact coherent_same referenced.contexts rfl rfl (fun _ => rfl)
  · obtain ⟨fresh, inserted_row⟩ := Table.insertUnique_eq_some.mp inserted_event
    refine ⟨?_, ?_, referenced.primary_unique, ?_, ?_, ?_, ?_⟩
    · intro alert inside incident_id link
      rcases (Table.mem_insert inserted).mp inside with stored | rfl
      · exact referenced.linked alert stored incident_id link
      · cases link
    · exact fun incident inside => has_inserted inserted (referenced.primary incident inside)
    · intro event inside
      rcases (Table.mem_insert inserted_row).mp inside with before | rfl
      · obtain ⟨has_alert, has_group⟩ := referenced.recorded event (left event before)
        exact ⟨has_inserted inserted has_alert, (has_put event.group_key).mpr (.inr has_group)⟩
      · exact ⟨Table.has_iff.mpr ⟨_, (Table.mem_insert inserted).mpr (.inr rfl), rfl⟩, (has_put _).mpr (.inl rfl)⟩
    · refine unique_inserted ?_ fresh inserted_row
      intro row inside old inside' same
      exact referenced.recorded_unique row (left row inside) old (left old inside') same
    · exact fun feedback inside => has_inserted inserted (referenced.commented feedback inside)
    · exact coherent_same (insert_coherent referenced.contexts inserted) rfl rfl (fun _ => rfl)

/-- The incidents after an assessment, and that the incident it names is one of them. -/
private theorem committed_incidents {request : Request} {incident_id : Option String} {alert : Alert}
    (found : db.alerts.get request.alert_id = some alert)
    (committed : Committed request db incident_id db') (referenced : Referenced db) :
    (∀ id, db.incidents.has id = true → db'.incidents.has id = true) ∧
    (∀ id, incident_id = some id → db'.incidents.has id = true) ∧
    (∀ incident ∈ db'.incidents.rows, db.alerts.has incident.primary_alert_id = true) ∧
    (∀ incident ∈ db'.incidents.rows, ∀ other ∈ db'.incidents.rows,
      incident.primary_alert_id = other.primary_alert_id → incident = other) := by
  cases committed with
  | routed other =>
    refine ⟨fun _ taken => taken, ?_, referenced.primary, referenced.primary_unique⟩
    intro id none
    cases none
  | created asked none_open new =>
    obtain ⟨id, _, incidents, rfl, _, _, fresh, inserted, rfl⟩ := create_ok new
    have unique := unique_inserted (r := opened id request.alert_id _ request.dedupe_group_key request.occurred_at)
      referenced.primary_unique fresh inserted
    refine ⟨fun _ => has_inserted inserted, ?_, ?_, unique⟩
    · rintro _ ⟨⟩
      exact Table.has_iff.mpr ⟨_, (Table.mem_insert inserted).mpr (.inr rfl), rfl⟩
    · intro incident inside
      rcases (Table.mem_insert inserted).mp inside with before | rfl
      · exact referenced.primary incident before
      · rw [opened, Table.has, found]; rfl
  | attached asked oldest joined =>
    obtain ⟨⟨existing, stored⟩, _, rfl⟩ := attach_ok joined
    refine ⟨fun _ => id, ?_, referenced.primary, referenced.primary_unique⟩
    rintro _ ⟨⟩
    exact Option.isSome_iff_exists.mpr ⟨existing, stored⟩

private theorem assessed {request : Request} {incident_id : Option String} {alert : Alert}
    (found : db.alerts.get request.alert_id = some alert)
    (committed : Committed request db incident_id db') (referenced : Referenced db) : Referenced db' := by
  obtain ⟨events, groups, contexts, members⟩ := committed.frame
  obtain ⟨kept, named, primary, unique⟩ := committed_incidents found committed referenced
  have still : ∀ alert_id, db'.alerts.has alert_id = db.alerts.has alert_id := by
    intro alert_id
    rw [Table.has, committed.alerts]
    split
    · rename_i mine
      rw [Option.isSome_map, mine, Table.has]
    · rfl
  refine ⟨?_, ?_, unique, ?_, ?_, ?_, ?_⟩
  · intro row inside id link
    have stored := Table.get_of_mem inside
    rw [committed.alerts] at stored
    split at stored
    · obtain ⟨old, before, rfl⟩ := Option.map_eq_some_iff.mp stored
      rcases Option.or_eq_some_iff.mp link with new | ⟨_, link⟩
      · exact named id new
      · exact kept id (referenced.linked old (Table.get_mem before) id link)
    · exact kept id (referenced.linked row (Table.get_mem stored) id link)
  · intro incident inside
    rw [still]
    exact primary incident inside
  · simp only [events, groups, still]
    exact referenced.recorded
  · rw [events]
    exact referenced.recorded_unique
  · simp only [UnitsOfWork.assessment_feedback committed, still]
    exact referenced.commented
  · refine coherent_same referenced.contexts members contexts (fun alert_id => ?_)
    rw [committed.alerts]
    split
    · rename_i mine
      rw [Option.map_map, mine]
      rfl
    · rfl

private theorem correlated {window : Window} {alert_id : UUID} {received : Int}
    {result : Option Correlation.CorrelationResult}
    (executed : Correlation.decide_and_apply window alert_id received db = .ok (result, db'))
    (referenced : Referenced db) : Referenced db' := by
  obtain ⟨feedback, -⟩ := UnitsOfWork.correlation_logs executed
  rcases Correlation.decide_and_apply_cases executed with
    ⟨rfl, _⟩ | ⟨alert, peers, target_id, found, _, qualified, filled, joined⟩
  · exact referenced
  · obtain ⟨alerts, groups, events, incidents⟩ := joined.untouched
    refine ⟨?_, ?_, ?_, ?_, ?_, ?_, linked_coherent referenced.contexts found qualified filled joined⟩
    · rw [alerts, incidents]; exact referenced.linked
    · rw [alerts, incidents]; exact referenced.primary
    · rw [incidents]; exact referenced.primary_unique
    · rw [alerts, groups, events]; exact referenced.recorded
    · rw [events]; exact referenced.recorded_unique
    · rw [alerts, feedback]; exact referenced.commented

/-- A step of an incident that keeps its primary alert. -/
private theorem moved {incident_id : String} {f : Incident → Incident} {keeps : ∀ row, (f row).incident_id = row.incident_id}
    (same : ∀ row, (f row).primary_alert_id = row.primary_alert_id) (referenced : Referenced db) :
    Referenced { db with incidents := db.incidents.modify incident_id f keeps } := by
  refine ⟨?_, ?_, unique_modified keeps same referenced.primary_unique, referenced.recorded, referenced.recorded_unique,
    referenced.commented, coherent_same referenced.contexts rfl rfl (fun _ => rfl)⟩
  · intro alert inside id link
    rw [Table.has_modify]
    exact referenced.linked alert inside id link
  · intro incident inside
    rcases (@Table.mem_modify _ _ _ _ _ _ _ keeps _).mp inside with ⟨old, stored, _, rfl⟩ | ⟨stored, _⟩
    · rw [same]; exact referenced.primary old stored
    · exact referenced.primary incident stored

private theorem commented {request : FeedbackRequest} {alert : Alert}
    (found : db.alerts.get request.alert_id = some alert) (referenced : Referenced db) :
    Referenced (IncidentCallers.recorded request db) := by
  refine ⟨referenced.linked, referenced.primary, referenced.primary_unique, referenced.recorded,
    referenced.recorded_unique, ?_, coherent_same referenced.contexts rfl rfl (fun _ => rfl)⟩
  intro feedback inside
  rcases List.mem_append.mp inside with before | new
  · exact referenced.commented feedback before
  · rw [List.mem_singleton.mp new]
    show db.alerts.has request.alert_id = true
    rw [Table.has, found]
    rfl
end

private theorem logged {db : Database} (entries : List Audit.AuditEntry) (occurred_at : Int) (referenced : Referenced db) :
    Referenced (db.append entries occurred_at) :=
  ⟨referenced.linked, referenced.primary, referenced.primary_unique, referenced.recorded, referenced.recorded_unique,
    referenced.commented, coherent_same referenced.contexts rfl rfl (fun _ => rfl)⟩

theorem referenced_kept : Kept (fun _ => True) Any (fun db db' => Referenced db → Referenced db') where
  refl _ := id
  trans first second referenced := second (first referenced)
  appended _ entries occurred_at _ _ := logged entries occurred_at
  delivered _ := delivered
  assessed _ _ found _ := assessed found
  correlated _ := correlated
  updated _ updated referenced := by
    obtain ⟨_, _, _, _, rfl⟩ := update_status_ok updated
    exact moved (fun _ => rfl) referenced
  recorded _ := commented
  closed _ _ _ := moved (fun _ => rfl)
  noted request _ _ := logged [note_entry request] request.occurred_at

theorem referenced_start : Referenced {} := by
  refine ⟨?_, ?_, ?_, ?_, ?_, ?_, coherent_empty⟩
  all_goals
    intro row inside
    exact absurd inside List.not_mem_nil

/-! ### The notification attempts -/

/-- The client reports about the alert whose payload it was given. -/
def Reporting (n8n : N8N) : Prop :=
  ∀ alert dedupe_status payload, n8n.build_n8n_payload alert dedupe_status = some payload →
    (n8n.send payload).alert_id = alert.alert_id

/-- The client is the webhook client: what it builds is the checked payload, and what it answers is what `send` returns of
    it, whatever the webhook does. -/
def IsWebhookClient (py : N8NPayload.Python) (lib : N8NClient.Library) (self : N8NWebhookClient)
    (investigation_base_url : Option String) (n8n : N8N) : Prop :=
  ∀ alert dedupe_status payload, n8n.build_n8n_payload alert dedupe_status = some payload →
    ∃ built webhook, N8NPayload.build_n8n_payload py alert dedupe_status investigation_base_url = .ok built ∧
      payload = .obj built.model_dump ∧ (N8NClient.send lib self built webhook).2 = .ok (n8n.send payload)

theorem webhook_reporting {py : N8NPayload.Python} {lib : N8NClient.Library} {self : N8NWebhookClient}
    {investigation_base_url : Option String} {n8n : N8N}
    (webhook_client : IsWebhookClient py lib self investigation_base_url n8n) : Reporting n8n := by
  intro alert dedupe_status payload given
  obtain ⟨built, webhook, checked, _, sent⟩ := webhook_client alert dedupe_status payload given
  rw [N8NClient.send_named sent, N8NPayload.build_named checked]

/-- The rows of the whole world: those of the database, and the notification attempts, each about a stored alert. -/
structure Resolved (world : World) : Prop where
  database : Referenced world.db
  notified : ∀ attempt ∈ world.notification_attempts, world.db.alerts.has attempt.alert_id = true

private theorem still_stored {db db' : Database} (lasts : Lasts db db') {alert_id : UUID}
    (stored : db.alerts.has alert_id = true) : db'.alerts.has alert_id = true := by
  obtain ⟨alert, inside, same⟩ := Table.has_iff.mp stored
  obtain ⟨alert', inside', later⟩ := lasts.alerts alert inside
  exact Table.has_iff.mpr ⟨alert', inside', (congrArg Prod.fst later.columns).trans same⟩

private theorem step_attempts {pipeline : Pipeline} {n8n : N8N} (reporting : Reporting n8n) (world : World)
    (event : Service.Event) :
    ∀ attempt ∈ (Service.step pipeline n8n world event).notification_attempts, attempt ∈ world.notification_attempts ∨
      (Service.step pipeline n8n world event).db.alerts.has attempt.alert_id = true := by
  cases event with
  | ingest delivery providers faults step_faults =>
    intro attempt inside
    rw [Service.step] at inside ⊢
    rcases Notifications.handle_attempts pipeline n8n (LateEnrichment.enriched_delivery delivery providers) faults
      step_faults world with same | ⟨content, payload, answered, fresh, built, appended⟩
    · exact .inl (same ▸ inside)
    · rw [appended] at inside
      rcases List.mem_append.mp inside with before | new
      · exact .inl before
      · -- the new attempt is about the alert of the answer, which ingest has stored
        obtain ⟨alert, found⟩ := Ingest.new_stored answered fresh
        obtain ⟨entries, occurred_at, audited⟩ := Notifications.handle_database pipeline n8n
          (LateEnrichment.enriched_delivery delivery providers) faults step_faults world
        have about : attempt.alert_id = content.normalized.alert_id := by
          rw [List.mem_singleton.mp new]
          exact reporting _ _ _ built
        have stored : (Ingest.ingest_alert pipeline (LateEnrichment.enriched_delivery delivery providers) faults
            world.db).2.alerts.has content.normalized.alert_id = true := by
          rw [Table.has, found]
          rfl
        rw [about, audited, Database.append_alerts]
        exact .inr stored
  | _ => exact fun attempt inside => .inl inside

private theorem step_resolved {pipeline : Pipeline} {n8n : N8N} (reporting : Reporting n8n) (world : World)
    (resolved : Resolved world) (event : Service.Event) : Resolved (Service.step pipeline n8n world event) := by
  have timely : (fun _ : Int => True) (UnitsOfWork.clock event) := trivial
  refine ⟨referenced_kept.step trivial n8n world timely (UnitsOfWork.engaged_any event) resolved.database, ?_⟩
  intro attempt inside
  rcases step_attempts reporting world event attempt inside with before | stored
  · exact still_stored (Permanence.lasts_kept.step trivial n8n world timely (UnitsOfWork.engaged_any event))
      (resolved.notified attempt before)
  · exact stored

/-- In every world the service reaches, whatever fails or stops on the way, every reference resolves. -/
theorem references_resolve (pipeline : Pipeline) (n8n : N8N) (reporting : Reporting n8n) (events : List Service.Event) :
    Resolved (Service.after pipeline n8n events) :=
  Runs.invariant (fun world event resolved => step_resolved reporting world resolved event)
    ⟨referenced_start, fun _ inside => absurd inside List.not_mem_nil⟩ events

/-- A failed login that is notified. -/
theorem login_resolves : Resolved (Service.after Ingest.alarming DuplicateDelivery.accepting [UnitsOfWork.login "a1" 0]) :=
  references_resolve Ingest.alarming DuplicateDelivery.accepting
    (by rintro alert dedupe_status _ ⟨⟩; rfl) [UnitsOfWork.login "a1" 0]

end SocTriage.References
