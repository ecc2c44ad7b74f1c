import SocTriage.DedupeRefinement
import SocTriage.Service
import SocTriage.UnchangedEnrichment

/-!
What an exact duplicate changes, and what it is answered. The indicators, risk and
decision of the answer are those of the alert of record; its enrichment status is the one
that the enrichment of this very delivery came to.
-/
namespace SocTriage.DuplicateDelivery
open Deduplication PersistentDeduplication
open Ingest (Pipeline Delivery Faults Success Answer echo)
open LateEnrichment (enriched_delivery)
open Notifications (N8N StepFaults World NotificationResult handle)
open Enrichment

/-! ### What may change -/

/-- The row of a group with one more duplicate. -/
def counted (row : AlertDedupeGroup) : AlertDedupeGroup := { row with duplicate_deliveries := row.duplicate_deliveries + 1 }

/-- The row of an event with one more delivery. -/
def redelivered_row (fingerprint : String) (received : Datetime) (row : AlertEvent) : AlertEvent :=
  { row with
    delivery_count := row.delivery_count + 1
    content_variants := if row.payload_fingerprint ≠ fingerprint then row.content_variants + 1 else row.content_variants
    payload_fingerprint := fingerprint
    last_delivered_at := received.instant }

/-- An event record of the group that the window has passed. -/
def expired (window : Window) (group_key : String) (received : Datetime) (row : AlertEvent) : Bool :=
  row.group_key = group_key ∧ row.last_delivered_at < received.instant - window.delta

/-- The counters of the event and of its group move, expired records go, audit rows come; the rest stays. -/
structure Absorbed (window : Window) (identity group_key fingerprint : String) (received : Datetime) (before after : World) :
    Prop where
  alerts : after.db.alerts = before.db.alerts
  incidents : after.db.incidents = before.db.incidents
  correlation_contexts : after.db.correlation_contexts = before.db.correlation_contexts
  correlation_members : after.db.correlation_members = before.db.correlation_members
  analyst_feedback : after.db.analyst_feedback = before.db.analyst_feedback
  notification_attempts : after.notification_attempts = before.notification_attempts
  audit_log : ∃ rows, after.db.audit_log = before.db.audit_log ++ rows
  groups : ∀ key, after.db.alert_dedupe_groups.get key =
    if key = group_key then (before.db.alert_dedupe_groups.get key).map counted else before.db.alert_dedupe_groups.get key
  events : ∀ other, after.db.alert_events.get other =
    if other = identity then (before.db.alert_events.get other).map (redelivered_row fingerprint received)
    else (before.db.alert_events.get other).filter (fun row => !expired window group_key received row)

/-- The alert that the record of an event belongs to. -/
def alert_of_record (db : Database) (identity : String) : Option Alert :=
  (db.alert_events.get identity).bind (fun event => db.alerts.get event.alert_id)

/-- The answer gives what is stored for an alert. -/
structure Echoes (db : Database) (alert : Alert) (content : Success) : Prop where
  alert_id : content.alert_id = alert.alert_id
  iocs : content.iocs = alert.normalized_payload.iocs
  enrichment_status : some content.enrichment_status = alert.normalized_payload.enrichment_status
  risk : content.risk = alert.normalized_payload.risk
  decision : content.decision = alert.normalized_payload.decision
  incident_id : content.incident_id = (Incidents.for_alert db alert.alert_id).map Incident.incident_id
  correlation_context_id : content.correlation_context_id =
    (Correlation.context_for_alert db alert.alert_id).map CorrelationContext.context_id

/-! ### The unit of work of a duplicate -/

section
variable {window : Window} {group_key identity fingerprint : String} {received : Datetime} {canonical : CanonicalAlert}
  {decision : DeliveryDecision}

private theorem decided_duplicate {group : Option GroupState}
    (decided : decide_delivery group group_key identity fingerprint received window canonical = .ok decision)
    (duplicate : decision.status = .EXACT_DUPLICATE) :
    ∃ state existing, group = some state ∧ (prune_expired state received window).events.get identity = some existing ∧
      decision = duplicate_decision (prune_expired state received window) existing fingerprint received := by
  cases group with
  | none =>
    rw [decide_delivery_none] at decided
    cases decided
    cases duplicate
  | some state =>
    cases known : (prune_expired state received window).events.get identity with
    | some existing =>
      have done := (classify_known known fingerprint received window canonical).symm.trans decided
      exact ⟨state, existing, rfl, known, (Except.ok.inj done).symm⟩
    | none =>
      rw [decide_delivery, classify, known] at decided
      obtain ⟨last_seen, _, decided⟩ := bind_ok.mp decided
      have distinct := recurred_status (prune_expired state received window) last_seen received window
      generalize recurred (prune_expired state received window) last_seen received window = moved at decided distinct
      obtain ⟨dedupe, _, done⟩ := bind_ok.mp decided
      cases done
      exact absurd duplicate distinct

/-- The record of a known event is that of its row and of its alert. -/
private theorem existing_rows {db : Database} {state : GroupState} {existing : EventRecord}
    (loaded : group_state (prune_events db group_key received window) group_key = some state)
    (known : (prune_expired state received window).events.get identity = some existing) :
    ∃ row event alert, db.alert_dedupe_groups.get group_key = some row ∧
      state = restored row (events_for_group (prune_events db group_key received window) group_key) ∧
      db.alert_events.get identity = some event ∧ expired window group_key received event = false ∧
      db.alerts.get event.alert_id = some alert ∧ existing = event_to_record event alert := by
  obtain ⟨row, tracked, rfl⟩ := Option.map_eq_some_iff.mp loaded
  rw [prune_expired_get] at known
  have stored : (events_for_group (prune_events db group_key received window) group_key).get identity = some existing :=
    (Option.filter_eq_some_iff.mp known).1
  rw [DedupeRefinement.events_get] at stored
  obtain ⟨event, kept, joins⟩ := Option.bind_eq_some_iff.mp stored
  obtain ⟨alert, found, same⟩ := Option.map_eq_some_iff.mp joins
  have pruned := (Option.filter_eq_some_iff.mp kept).1
  rw [prune_events, Table.get_filter] at pruned
  obtain ⟨event_row, unexpired⟩ := Option.filter_eq_some_iff.mp pruned
  exact ⟨row, event, alert, tracked, rfl, event_row, by rw [Bool.not_eq_true'] at unexpired; exact unexpired, found,
    same.symm⟩

private theorem restored_instant (time : Option Int) : (time.map Datetime.of_instant).map Datetime.instant = time := by
  cases time with
  | none => rfl
  | some t => rw [Option.map_some, Option.map_some, Datetime.instant_of_instant]

/-- The row that is written for a group with one more duplicate. -/
private theorem upsert_counted {db : Database} {row : AlertDedupeGroup} {events events' : Table EventRecord.event_identity}
    (tracked : db.alert_dedupe_groups.get row.group_key = some row)
    (updated : row.updated_at = (row.last_seen.or row.first_seen).getD 0) (key : String) :
    (upsert_group db { restored row events with
        events := events', duplicate_deliveries := row.duplicate_deliveries + 1 }).alert_dedupe_groups.get key =
      if key = row.group_key then (db.alert_dedupe_groups.get key).map counted else db.alert_dedupe_groups.get key := by
  unfold upsert_group restored
  rw [Table.get_put]
  dsimp only
  rw [Option.map_or, restored_instant, restored_instant, ← updated]
  by_cases mine : key = row.group_key
  · subst mine
    rw [if_pos rfl, if_pos rfl, tracked]
    rfl
  · rw [if_neg mine]
    exact if_neg (fun same => mine same.symm)

/-- The event rows that are left. -/
private theorem events_absorbed {db : Database} {event : AlertEvent} {alert : Alert}
    (stored : db.alert_events.get event.event_identity = some event)
    (unexpired : expired window group_key received event = false)
    (keeps : ∀ row : AlertEvent,
      (absorbed (redelivered (event_to_record event alert) fingerprint received) row).event_identity =
      row.event_identity) (other : String) :
    ((prune_events db group_key received window).alert_events.modify event.event_identity
        (absorbed (redelivered (event_to_record event alert) fingerprint received)) keeps).get other =
      if other = event.event_identity then (db.alert_events.get other).map (redelivered_row fingerprint received)
      else (db.alert_events.get other).filter (fun row => !expired window group_key received row) := by
  rw [Table.get_modify]
  have pruned (identity : String) : (prune_events db group_key received window).alert_events.get identity =
      (db.alert_events.get identity).filter (fun row => !expired window group_key received row) := Table.get_filter _ _ _
  by_cases mine : other = event.event_identity
  · subst mine
    rw [if_pos rfl, if_pos rfl, pruned, stored, Option.filter_some, if_pos (by rw [unexpired]; rfl)]
    rfl
  · rw [if_neg mine, if_neg mine, pruned]

/-- The alert of record of a duplicate, and the rows its unit of work leaves. -/
theorem deliver_duplicate {db db' : Database} (timed : Service.Timed db)
    (executed : deliver window group_key identity fingerprint received canonical db = .ok (decision, db'))
    (duplicate : decision.status = .EXACT_DUPLICATE) (notification_attempts : List Notifications.NotificationAttempt) :
    Absorbed window identity group_key fingerprint received ⟨db, notification_attempts⟩ ⟨db', notification_attempts⟩ ∧
    ∃ alert, alert_of_record db identity = some alert ∧ decision.record.alert_id = alert.alert_id ∧
      decision.record.canonical_alert = alert.normalized_payload := by
  obtain ⟨decided, ⟨_, rfl⟩ | ⟨distinct, _⟩⟩ := deliver_cases executed
  rotate_left
  · exact absurd duplicate distinct
  obtain ⟨state, existing, loaded, known, rfl⟩ := decided_duplicate decided duplicate
  obtain ⟨row, event, alert, tracked, rfl, event_row, unexpired, found, rfl⟩ := existing_rows loaded known
  have event_key : event.event_identity = identity := Table.get_key event_row
  have row_key : row.group_key = group_key := Table.get_key tracked
  have alert_key : alert.alert_id = event.alert_id := Table.get_key found
  subst event_key row_key
  refine ⟨⟨rfl, rfl, rfl, rfl, rfl, rfl, ⟨_, rfl⟩, ?_, ?_⟩, alert, ?_, alert_key.symm, rfl⟩
  · exact upsert_counted tracked (timed row (Table.get_mem tracked))
  · exact events_absorbed event_row unexpired (fun _ => rfl)
  · rw [alert_of_record, event_row]
    exact found
end

/-! ### The answer -/

section
variable {pipeline : Pipeline} {n8n : N8N} {delivery : Delivery} {faults : Faults} {step_faults : StepFaults} {world : World}
  {identity group_key fingerprint : String} {outcome : DedupeOutcome}

/-- A classified delivery is one committed unit of work. -/
private theorem process_classified
    (keys : delivery_keys pipeline.sha256 delivery.alert = .ok (identity, group_key, fingerprint))
    (classified : (process pipeline.sha256 pipeline.window delivery.alert delivery.canonical
      delivery.received_at faults.dedupe
      world.db).1 = .ok outcome) :
    ∃ decision dedupe db', deliver pipeline.window group_key identity fingerprint delivery.received_at delivery.canonical
        world.db = .ok (decision, db') ∧ outcome = answer decision identity dedupe ∧
      process pipeline.sha256 pipeline.window delivery.alert delivery.canonical delivery.received_at faults.dedupe world.db =
        (.ok outcome, db') := by
  cases zoned : delivery.received_at.aware with
  | false =>
    rw [PersistentDeduplication.process_naive keys zoned] at classified
    cases classified
  | true =>
    simp only [process, keys, PersistentDeduplication.require_aware, zoned, bind, Except.bind, pure, Except.pure,
      ↓reduceIte] at classified ⊢
    generalize faults.dedupe = fault at classified ⊢
    cases fault with
    | true => cases classified
    | false =>
      simp only [Bool.false_eq_true, ↓reduceIte, Database.session_scope] at classified ⊢
      cases executed : deliver pipeline.window group_key identity fingerprint delivery.received_at delivery.canonical
        world.db with
      | error e =>
        rw [executed] at classified
        cases classified
      | ok value =>
        obtain ⟨decision, db'⟩ := value
        rw [executed] at classified
        dsimp only at classified ⊢
        cases info : dedupe_info decision.group identity with
        | error e =>
          rw [info] at classified
          cases classified
        | ok dedupe =>
          rw [info] at classified
          cases classified
          exact ⟨decision, dedupe, db', rfl, rfl, rfl⟩

/-- What the answer takes from this delivery agrees with the alert of record, and the lookups find what there is. -/
structure Repeats (db : Database) (alert : Alert) (delivery : Delivery) (faults : Faults) : Prop where
  enrichment_status : alert.normalized_payload.enrichment_status = some delivery.enrichment_status
  incident_lookup : faults.incident_lookup = true → Incidents.for_alert db alert.alert_id = none
  context_lookup : faults.context_lookup = true → Correlation.context_for_alert db alert.alert_id = none

private theorem looked_up {α : Type} (fault : Bool) (found : Option α) :
    (if fault then none else found) = found ↔ (fault = true → found = none) := by
  cases fault with
  | true => exact ⟨fun same _ => same.symm, fun none_found => (none_found rfl).symm⟩
  | false => exact iff_of_true rfl (fun absent => by cases absent)

/-- The duplicate's answer echoes the alert of record when the delivery repeats what it says. -/
private theorem echoes_iff {db : Database} {alert : Alert} (own : outcome.alert_id = alert.alert_id)
    (recorded : outcome.canonical_alert = alert.normalized_payload) (content : Success)
    (echoed : echo delivery outcome faults db = .success content) :
    Echoes db alert content ↔ Repeats db alert delivery faults := by
  unfold echo Ingest.success at echoed
  cases echoed
  constructor
  · rintro ⟨_, _, status, _, _, incident, context⟩
    dsimp only at status incident context
    rw [own] at incident context
    refine ⟨status.symm, fun fault => ?_, fun fault => ?_⟩
    · exact Option.map_eq_none_iff.mp ((looked_up _ _).mp incident fault)
    · exact Option.map_eq_none_iff.mp ((looked_up _ _).mp context fault)
  · rintro ⟨status, incident, context⟩
    refine ⟨own, by dsimp only; rw [recorded], status.symm, by dsimp only; rw [recorded], by dsimp only; rw [recorded],
      ?_, ?_⟩
    · dsimp only
      rw [own]
      exact (looked_up _ _).mpr (fun fault => Option.map_eq_none_iff.mpr (incident fault))
    · dsimp only
      rw [own]
      exact (looked_up _ _).mpr (fun fault => Option.map_eq_none_iff.mpr (context fault))

/-- A duplicate is absorbed, and answered, unless the process stops before, with what is stored for the alert of record. -/
structure Idempotent (pipeline : Pipeline) (n8n : N8N) (delivery : Delivery) (faults : Faults) (step_faults : StepFaults)
    (identity group_key fingerprint : String) (world : World) : Prop where
  absorbed : Absorbed pipeline.window identity group_key fingerprint delivery.received_at world
    (handle pipeline n8n delivery faults step_faults world).2
  answered : faults.stop ≠ some .before_assessment → ∃ alert content, alert_of_record world.db identity = some alert ∧
    (handle pipeline n8n delivery faults step_faults world).1 = some (.success content, none) ∧
    Echoes (handle pipeline n8n delivery faults step_faults world).2.db alert content

/-- No answer is given, or the delivery repeats what is stored for the alert of record. -/
def Repeated (world : World) (delivery : Delivery) (faults : Faults) (identity : String) : Prop :=
  faults.stop = some .before_assessment ∨
    ∃ alert, alert_of_record world.db identity = some alert ∧ Repeats world.db alert delivery faults

private theorem handle_duplicate (timed : Service.Timed world.db)
    (keys : delivery_keys pipeline.sha256 delivery.alert = .ok (identity, group_key, fingerprint))
    (classified : (process pipeline.sha256 pipeline.window delivery.alert delivery.canonical
      delivery.received_at faults.dedupe
      world.db).1 = .ok outcome) (duplicate : outcome.status = .EXACT_DUPLICATE) :
    Idempotent pipeline n8n delivery faults step_faults identity group_key fingerprint world ↔
      Repeated world delivery faults identity := by
  obtain ⟨decision, dedupe, db', executed, rfl, processed⟩ := process_classified keys classified
  obtain ⟨absorbed, alert, record, own, payload⟩ := deliver_duplicate timed executed duplicate world.notification_attempts
  have incident : Incidents.for_alert db' alert.alert_id = Incidents.for_alert world.db alert.alert_id := by
    rw [Incidents.for_alert, absorbed.alerts, absorbed.incidents]
    rfl
  have context : Correlation.context_for_alert db' alert.alert_id =
    Correlation.context_for_alert world.db alert.alert_id := by
    rw [Correlation.context_for_alert, Correlation.membership_for_alert, absorbed.correlation_members,
      absorbed.correlation_contexts]
    rfl
  have repeats : Repeats db' alert delivery faults ↔ Repeats world.db alert delivery faults := by
    constructor
    · rintro ⟨status, incident_lookup, context_lookup⟩
      exact ⟨status, incident ▸ incident_lookup, context ▸ context_lookup⟩
    · rintro ⟨status, incident_lookup, context_lookup⟩
      exact ⟨status, incident ▸ incident_lookup, context ▸ context_lookup⟩
  by_cases stopped : faults.stop = some .before_assessment
  · have handled : (handle pipeline n8n delivery faults step_faults world) = (none, { world with db := db' }) := by
      unfold handle Ingest.ingest_alert
      rw [processed]
      simp only [if_pos stopped]
    refine iff_of_true ⟨?_, fun going => absurd stopped going⟩ (.inl stopped)
    rw [handled]
    exact absorbed
  · have handled : ∃ content, echo delivery (answer decision identity dedupe) faults db' = .success content ∧
        handle pipeline n8n delivery faults step_faults world =
          (some (.success content, none), { world with db := db' }) := by
      unfold handle Ingest.ingest_alert
      rw [processed]
      simp only [if_neg stopped, if_pos duplicate]
      refine ⟨_, rfl, ?_⟩
      have named : ((answer decision identity dedupe).status == DedupeStatus.EXACT_DUPLICATE) = true :=
        beq_iff_eq.mpr duplicate
      exact if_pos named
    obtain ⟨content, echoed, handled⟩ := handled
    have echoes := echoes_iff own payload content echoed
    constructor
    · rintro ⟨_, answered⟩
      obtain ⟨other, given, stored, same, echoes'⟩ := answered stopped
      rw [handled] at same echoes'
      cases same
      rw [record] at stored
      cases stored
      exact .inr ⟨alert, record, repeats.mp (echoes.mp echoes')⟩
    · intro repeated
      obtain ⟨other, stored, same⟩ := repeated.resolve_left stopped
      rw [record] at stored
      cases stored
      refine ⟨?_, fun _ => ⟨alert, content, record, ?_, ?_⟩⟩
      · rw [handled]; exact absorbed
      · rw [handled]
      · rw [handled]; exact echoes.mpr (repeats.mpr same)
end

/-- In every reachable state, an exact duplicate changes nothing but the counters, the expired records and the audit log,
    and is answered with what is stored for the alert of record, exactly when the status of its own enrichment is the
    stored one and no lookup fails for something there is. -/
theorem duplicate_idempotent_iff (pipeline : Pipeline) (n8n : N8N) (events : List Service.Event) (delivery : Delivery)
    (providers : List Provider) (faults : Faults) (step_faults : StepFaults) {identity group_key fingerprint : String}
    {outcome : DedupeOutcome}
    (keys : delivery_keys pipeline.sha256 delivery.alert = .ok (identity, group_key, fingerprint))
    (classified : (process pipeline.sha256 pipeline.window delivery.alert (enriched_delivery delivery providers).canonical
      delivery.received_at faults.dedupe (Service.after pipeline n8n events).db).1 = .ok outcome)
    (duplicate : outcome.status = .EXACT_DUPLICATE) :
    Idempotent pipeline n8n (enriched_delivery delivery providers) faults step_faults identity group_key fingerprint
        (Service.after pipeline n8n events) ↔
      Repeated (Service.after pipeline n8n events) (enriched_delivery delivery providers) faults identity :=
  @handle_duplicate pipeline n8n (enriched_delivery delivery providers) faults step_faults (Service.after pipeline n8n events)
    identity group_key fingerprint outcome (Service.after_steady pipeline n8n events).timed keys classified duplicate

/-- A webhook that accepts every alert. -/
def accepting : N8N where
  build_n8n_payload alert _ := some (.str alert.alert_id)
  send
    | .str alert_id => { Notifications.suppressed alert_id with
        attempted := true, delivered := true, skipped := false, status_code := some 200, attempts := 1
        webhook_host := some "n8n", payload_hash := "5f70bf18a0860070" }
    | _ => Notifications.suppressed ""

/-- A failed login from one address. -/
def login (alert_id : UUID) (received_at : Int) : Delivery :=
  { Ingest.failed_login_delivery alert_id received_at with iocs := [{ type := .IPV4, value := "203.0.113.7" }] }

/-- Its first delivery, while VirusTotal answers. -/
def first_login : Service.Event := .ingest (login "a1" 0) [UnchangedEnrichment.reporting] {} {}

/-- The same event again with the same providers. -/
theorem login_repeated :
    Idempotent Ingest.alarming accepting (enriched_delivery (login "a2" 1000000) [UnchangedEnrichment.reporting]) {} {}
      "wazuh-h1:9a4bb0250f5f6ee0a104ac05a59b6264c6675b392461db6233413fc122f9a125" "wazuh:5710:001"
      "9a4bb0250f5f6ee0a104ac05a59b6264c6675b392461db6233413fc122f9a125"
      (Service.after Ingest.alarming accepting [first_login]) := by
  refine (@duplicate_idempotent_iff Ingest.alarming accepting [first_login] (login "a2" 1000000)
    [UnchangedEnrichment.reporting] {} {} _ _ _ _ rfl rfl (by decide)).mpr (.inr ⟨_, rfl, ?_, ?_, ?_⟩)
  · decide
  · intro fault
    cases fault
  · intro fault
    cases fault

/-- The enrichment status an answer tells. -/
def answered_status : Option (Answer × Option NotificationResult) → Option String
  | some (.success content, _) => some content.enrichment_status
  | _ => none

/-- The same event again, with VirusTotal disabled since: the answer calls the enrichment skipped, and what is stored is
    complete. -/
theorem status_of_rerun : ¬ ∀ (pipeline : Pipeline) (n8n : N8N) (events : List Service.Event) (delivery : Delivery)
    (providers : List Provider) (identity group_key fingerprint : String) (outcome : DedupeOutcome),
    delivery_keys pipeline.sha256 delivery.alert = .ok (identity, group_key, fingerprint) →
    (process pipeline.sha256 pipeline.window delivery.alert (enriched_delivery delivery providers).canonical
      delivery.received_at false (Service.after pipeline n8n events).db).1 = .ok outcome →
    outcome.status = .EXACT_DUPLICATE →
    Idempotent pipeline n8n (enriched_delivery delivery providers) {} {} identity group_key fingerprint
      (Service.after pipeline n8n events) := by
  intro always
  obtain ⟨_, answered⟩ := always Ingest.alarming accepting [first_login] (login "a2" 1000000) []
    "wazuh-h1:9a4bb0250f5f6ee0a104ac05a59b6264c6675b392461db6233413fc122f9a125" "wazuh:5710:001"
    "9a4bb0250f5f6ee0a104ac05a59b6264c6675b392461db6233413fc122f9a125" _ (by decide) rfl (by decide)
  obtain ⟨alert, content, record, given, echoes⟩ := answered (by decide)
  have stored : (alert_of_record (Service.after Ingest.alarming accepting [first_login]).db
      "wazuh-h1:9a4bb0250f5f6ee0a104ac05a59b6264c6675b392461db6233413fc122f9a125").map (fun alert =>
        alert.normalized_payload.enrichment_status) = some (some "complete") := by decide
  have told : answered_status (handle Ingest.alarming accepting (enriched_delivery (login "a2" 1000000) []) {} {}
      (Service.after Ingest.alarming accepting [first_login])).1 = some "skipped" := by decide
  rw [given] at told
  rw [record, Option.map_some, ← echoes.enrichment_status] at stored
  have same : content.enrichment_status = "complete" := Option.some.inj (Option.some.inj stored)
  rw [answered_status, same] at told
  exact absurd told (by decide)

end SocTriage.DuplicateDelivery
