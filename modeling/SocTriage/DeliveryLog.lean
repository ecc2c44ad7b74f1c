import SocTriage.DuplicateDelivery

/-!
Runs of the service with the log of what its deduplicator accepted. The record of an event is
made with its alert and is gone once the window has passed; while it is there, its counters tell
of the deliveries that were answered with the alert.
-/
namespace SocTriage.DeliveryLog
open Deduplication PersistentDeduplication
open Ingest (Pipeline Delivery Faults ingest_alert)
open LateEnrichment (enriched_delivery)
open Notifications (N8N)
open DuplicateDelivery (expired redelivered_row)

/-! ### The log -/

/-- One accepted delivery: its event, the alert of record it was answered with, the fingerprint of its content, and
    whether that alert was recorded for it. -/
structure Entry where
  identity : String
  alert_id : UUID
  fingerprint : String
  recorded : Bool
deriving DecidableEq

/-- The deliveries of an event back to the one its latest record was made for, newest first. -/
def since_created (identity : String) : List Entry → List Entry
  | [] => []
  | entry :: earlier =>
    if entry.identity = identity then
      if entry.recorded then [entry] else entry :: since_created identity earlier
    else since_created identity earlier

/-- The deliveries answered with an alert, newest first. -/
def into (log : List Entry) (alert_id : UUID) : List Entry := log.filter (fun entry => entry.alert_id = alert_id)

/-- The number of times the content changed from one delivery to the next, and one for the first. -/
def variants : List String → Nat
  | [] => 0
  | [_] => 1
  | latest :: previous :: earlier => variants (previous :: earlier) + if previous ≠ latest then 1 else 0

/-- What the deduplicator accepts of a delivery. -/
def accepted (pipeline : Pipeline) (delivery : Delivery) (faults : Faults) (db : Database) : Option Entry :=
  match delivery_keys pipeline.sha256 delivery.alert with
  | .error _ => none
  | .ok (identity, group_key, fingerprint) =>
    if !delivery.received_at.aware || faults.dedupe then none
    else
      match deliver pipeline.window group_key identity fingerprint delivery.received_at delivery.canonical db with
      | .error _ => none
      | .ok (decision, _) =>
        some { identity, alert_id := decision.record.alert_id, fingerprint, recorded := decision.status != .EXACT_DUPLICATE }

structure World where
  service : Notifications.World := {}
  log : List Entry := []

def step (pipeline : Pipeline) (n8n : N8N) (world : World) (event : Service.Event) : World where
  service := Service.step pipeline n8n world.service event
  log := match event with
    | .ingest delivery providers faults _ =>
      (accepted pipeline (enriched_delivery delivery providers) faults world.service.db).toList ++ world.log
    | _ => world.log

/-- What a sequence of operations leaves, from an empty database. -/
def after (pipeline : Pipeline) (n8n : N8N) (events : List Service.Event) : World := Runs.run (step pipeline n8n) {} events

theorem step_ingest (pipeline : Pipeline) (n8n : N8N) (world : World) (delivery : Delivery)
    (providers : List Enrichment.Provider) (faults : Faults) (step_faults : Notifications.StepFaults) :
    step pipeline n8n world (.ingest delivery providers faults step_faults) =
      ⟨(Notifications.handle pipeline n8n (enriched_delivery delivery providers) faults step_faults world.service).2,
        (accepted pipeline (enriched_delivery delivery providers) faults world.service.db).toList ++ world.log⟩ := rfl

/-! ### What the deduplicator writes -/

section
variable {pipeline : Pipeline} {delivery : Delivery} {faults : Faults} {db : Database}

/-- A delivery that is not accepted leaves the database; one that is commits its decision. -/
theorem process_accepted (pipeline : Pipeline) (delivery : Delivery) (faults : Faults) (db : Database) :
    (accepted pipeline delivery faults db = none ∧
      (process pipeline.sha256 pipeline.window delivery.alert delivery.canonical delivery.received_at faults.dedupe db).2 =
        db) ∨
    ∃ identity group_key fingerprint decision db', delivery_keys pipeline.sha256 delivery.alert =
        .ok (identity, group_key, fingerprint) ∧
      deliver pipeline.window group_key identity fingerprint delivery.received_at delivery.canonical db =
        .ok (decision, db') ∧
      accepted pipeline delivery faults db =
        some ⟨identity, decision.record.alert_id, fingerprint, decision.status != .EXACT_DUPLICATE⟩ ∧
      (process pipeline.sha256 pipeline.window delivery.alert delivery.canonical delivery.received_at faults.dedupe db).2 =
        db' := by
  unfold accepted
  cases keys : delivery_keys pipeline.sha256 delivery.alert with
  | error e => exact .inl ⟨rfl, by rw [PersistentDeduplication.process_refused keys]⟩
  | ok value =>
    obtain ⟨identity, group_key, fingerprint⟩ := value
    cases zoned : delivery.received_at.aware with
    | false => exact .inl ⟨rfl, by rw [PersistentDeduplication.process_naive keys zoned]⟩
    | true =>
      simp only [process, keys, PersistentDeduplication.require_aware, zoned, bind, Except.bind, pure, Except.pure,
        ↓reduceIte]
      generalize faults.dedupe = fault
      cases fault with
      | true => exact .inl ⟨rfl, rfl⟩
      | false =>
        simp only [Bool.false_eq_true, ↓reduceIte, Database.session_scope, Bool.not_true, Bool.or_self]
        cases executed : deliver pipeline.window group_key identity fingerprint delivery.received_at delivery.canonical
          db with
        | error e => exact .inl ⟨rfl, rfl⟩
        | ok value => exact .inr ⟨identity, group_key, fingerprint, value.1, value.2, rfl, executed, rfl, rfl⟩
end

section
variable {window : Window} {group_key identity fingerprint : String} {received : Datetime} {canonical : CanonicalAlert}
  {decision : DeliveryDecision} {db db' : Database}

/-- The rows that a newly recorded event adds. -/
theorem deliver_new (executed : deliver window group_key identity fingerprint received canonical db = .ok (decision, db'))
    (distinct : decision.status ≠ .EXACT_DUPLICATE) :
    ∃ dedupe, dedupe.event_identity = some identity ∧
      decision.record = new_event_record canonical identity fingerprint dedupe received ∧
      db.alerts.insert (alert_row decision.group decision.record) = some db'.alerts ∧
      (prune_events db group_key received window).alert_events.insertUnique AlertEvent.alert_id
        (event_row decision.group decision.record) = some db'.alert_events ∧
      db'.alert_dedupe_groups = (upsert_group db decision.group).alert_dedupe_groups := by
  obtain ⟨decided, ⟨duplicate, _⟩ | ⟨_, alerts, alert_events, inserted, inserted_event, rfl⟩⟩ := deliver_cases executed
  · exact absurd duplicate distinct
  · rcases decide_delivery_cases decided with ⟨duplicate, -⟩ | ⟨-, dedupe, signed, record⟩
    · exact absurd duplicate distinct
    · exact ⟨dedupe, signed, record, inserted, inserted_event, rfl⟩

/-- The row that an absorbed delivery moves, once the expired ones are gone. -/
theorem deliver_absorbed
    (executed : deliver window group_key identity fingerprint received canonical db = .ok (decision, db'))
    (duplicate : decision.status = .EXACT_DUPLICATE) :
    db'.alerts = db.alerts ∧
    db'.alert_events = (prune_events db group_key received window).alert_events.modify decision.record.event_identity
      (absorbed decision.record) := by
  obtain ⟨-, ⟨_, rfl⟩ | ⟨distinct, _⟩⟩ := deliver_cases executed
  · exact ⟨rfl, rfl⟩
  · exact absurd duplicate distinct
end

/-! ### The records and the log -/

/-- The record of an event against the deliveries that were answered with its alert: they are those since it was made,
    and its counters tell of them. -/
structure Told (log : List Entry) (event : AlertEvent) : Prop where
  own : since_created event.event_identity log = into log event.alert_id
  created : ∃ repeats first, into log event.alert_id = repeats ++ [first] ∧ first.recorded = true ∧
    ∀ again ∈ repeats, again.recorded = false
  delivery_count : event.delivery_count = (into log event.alert_id).length
  latest : (into log event.alert_id).head?.map Entry.fingerprint = some event.payload_fingerprint
  content_variants : event.content_variants = variants ((into log event.alert_id).map Entry.fingerprint)

/-- The record of an event is that of the alert. -/
def Owns (alert : Alert) (event : AlertEvent) : Prop :=
  alert.alert_id = event.alert_id ∧ alert.event_identity = event.event_identity ∧ alert.dedupe_group_key = event.group_key

/-- Every record tells of its deliveries, is that of a stored alert and of no other record's, and its group is tracked;
    every delivery was answered with a stored alert; and no alert is stored with the identity of another event. -/
structure Records (db : Database) (log : List Entry) : Prop where
  told : ∀ event ∈ db.alert_events.rows, Told log event
  owned : ∀ event ∈ db.alert_events.rows, ∃ alert ∈ db.alerts.rows, Owns alert event
  unique : ∀ event ∈ db.alert_events.rows, ∀ other ∈ db.alert_events.rows, event.alert_id = other.alert_id → event = other
  tracked : ∀ event ∈ db.alert_events.rows, db.alert_dedupe_groups.has event.group_key = true
  answered : ∀ entry ∈ log, ∃ alert ∈ db.alerts.rows, alert.alert_id = entry.alert_id
  signed : ∀ alert ∈ db.alerts.rows, ∀ dedupe, alert.normalized_payload.dedupe = some dedupe →
    dedupe.event_identity = some alert.event_identity

section
variable {log : List Entry} {entry : Entry}

private theorem into_other {alert_id : UUID} (other : entry.alert_id ≠ alert_id) :
    into (entry :: log) alert_id = into log alert_id := List.filter_cons_of_neg (by simp [other])

private theorem into_own : into (entry :: log) entry.alert_id = entry :: into log entry.alert_id :=
  List.filter_cons_of_pos (by simp)

private theorem since_other {identity : String} (other : entry.identity ≠ identity) :
    since_created identity (entry :: log) = since_created identity log := by rw [since_created, if_neg other]

/-- Another event's record has nothing to tell of a delivery. -/
private theorem Told.other {event : AlertEvent} (told : Told log event) (identity : entry.identity ≠ event.event_identity)
    (alert_id : entry.alert_id ≠ event.alert_id) : Told (entry :: log) event := by
  obtain ⟨own, created, count, latest, contents⟩ := told
  refine ⟨?_, ?_, ?_, ?_, ?_⟩
  · rw [since_other identity, into_other alert_id, own]
  · rw [into_other alert_id]
    exact created
  · rw [into_other alert_id, count]
  · rw [into_other alert_id, latest]
  · rw [into_other alert_id, contents]

/-- One more delivery of the event. -/
private theorem Told.redelivered {event : AlertEvent} (told : Told log event) {fingerprint : String} (received : Datetime) :
    Told (⟨event.event_identity, event.alert_id, fingerprint, false⟩ :: log)
      (redelivered_row fingerprint received event) := by
  obtain ⟨own, ⟨repeats, made, all, recorded, again⟩, count, latest, contents⟩ := told
  have mine : into (⟨event.event_identity, event.alert_id, fingerprint, false⟩ :: log) event.alert_id =
      ⟨event.event_identity, event.alert_id, fingerprint, false⟩ :: into log event.alert_id := into_own
  obtain ⟨head, first, same⟩ := Option.map_eq_some_iff.mp latest
  obtain ⟨earlier, split⟩ : ∃ earlier, into log event.alert_id = head :: earlier := List.head?_eq_some_iff.mp first
  refine ⟨?_, ?_, ?_, ?_, ?_⟩
  · show since_created event.event_identity _ = into _ event.alert_id
    rw [mine, ← own, since_created, if_pos rfl, if_neg Bool.false_ne_true]
  · refine ⟨⟨event.event_identity, event.alert_id, fingerprint, false⟩ :: repeats, made, ?_, recorded, ?_⟩
    · show into _ event.alert_id = _
      rw [mine, all, List.cons_append]
    · intro entry listed
      rcases List.mem_cons.mp listed with rfl | earlier
      · rfl
      · exact again entry earlier
  · show event.delivery_count + 1 = (into _ event.alert_id).length
    rw [mine, List.length_cons, count]
  · show (into _ event.alert_id).head?.map _ = some fingerprint
    rw [mine]
    rfl
  · show (if event.payload_fingerprint ≠ fingerprint then event.content_variants + 1 else event.content_variants) =
      variants ((into _ event.alert_id).map _)
    rw [mine, contents, split]
    show _ = variants ((head :: earlier).map Entry.fingerprint) + if head.fingerprint ≠ fingerprint then 1 else 0
    rw [← same]
    split_ifs <;> rfl

/-- The first delivery of an event. -/
private theorem told_new {event : AlertEvent} {fingerprint : String} (unanswered : into log event.alert_id = [])
    (content : event.payload_fingerprint = fingerprint) (count : event.delivery_count = 1)
    (variant : event.content_variants = 1) :
    Told (⟨event.event_identity, event.alert_id, fingerprint, true⟩ :: log) event := by
  have only : into (⟨event.event_identity, event.alert_id, fingerprint, true⟩ :: log) event.alert_id =
      [⟨event.event_identity, event.alert_id, fingerprint, true⟩] := by rw [into_own, unanswered]
  refine ⟨?_, ?_, ?_, ?_, ?_⟩
  · rw [only, since_created, if_pos rfl, if_pos rfl]
  · exact ⟨[], _, only, rfl, fun _ none => absurd none List.not_mem_nil⟩
  · rw [only, count]; rfl
  · rw [only, content]; rfl
  · rw [only, variant]; rfl
end

/-! ### One step -/

/-- What of an alert its assessments and its incident have no part in. -/
def label (alert : Alert) : UUID × String × String × Option CanonicalDedupe :=
  (alert.alert_id, alert.event_identity, alert.dedupe_group_key, alert.normalized_payload.dedupe)

/-- The operations that leave the recurrence state and the labels of the alerts alone. -/
structure Apart (db db' : Database) : Prop where
  recurrence : Service.recurrence db' = Service.recurrence db
  labels : db'.alerts.rows.map label = db.alerts.rows.map label

theorem Apart.refl (db : Database) : Apart db db := ⟨rfl, rfl⟩

theorem Apart.trans {a b c : Database} (first : Apart a b) (second : Apart b c) : Apart a c :=
  ⟨second.recurrence.trans first.recurrence, second.labels.trans first.labels⟩

theorem Apart.symm {a b : Database} (apart : Apart a b) : Apart b a := ⟨apart.recurrence.symm, apart.labels.symm⟩

theorem Apart.kept {db db' : Database} (apart : Apart db db') {alert : Alert} (stored : alert ∈ db.alerts.rows) :
    ∃ alert' ∈ db'.alerts.rows, label alert' = label alert := by
  have listed : label alert ∈ db'.alerts.rows.map label := by
    rw [apart.labels]
    exact List.mem_map_of_mem stored
  exact List.mem_map.mp listed

theorem Apart.records {db db' : Database} {log : List Entry} (apart : Apart db db') (records : Records db log) :
    Records db' log := by
  obtain ⟨told, owned, unique, tracked, answered, signed⟩ := records
  have events : db'.alert_events = db.alert_events := congrArg Prod.snd apart.recurrence
  have groups : db'.alert_dedupe_groups = db.alert_dedupe_groups := congrArg Prod.fst apart.recurrence
  rw [← events] at told owned unique tracked
  rw [← groups] at tracked
  refine ⟨told, fun event inside => ?_, unique, tracked, fun entry inside => ?_, fun alert stored dedupe taken => ?_⟩
  · obtain ⟨alert, stored, id, identity, group⟩ := owned event inside
    obtain ⟨alert', stored', same⟩ := apart.kept stored
    simp only [label, Prod.mk.injEq] at same
    exact ⟨alert', stored', same.1.trans id, same.2.1.trans identity, same.2.2.1.trans group⟩
  · obtain ⟨alert, stored, id⟩ := answered entry inside
    obtain ⟨alert', stored', same⟩ := apart.kept stored
    exact ⟨alert', stored', (congrArg Prod.fst same).trans id⟩
  · obtain ⟨alert', stored', same⟩ := apart.symm.kept stored
    simp only [label, Prod.mk.injEq] at same
    rw [← same.2.1]
    exact signed alert' stored' dedupe (same.2.2.2.trans taken)

private theorem committed_apart {request : Assessment.Request} {db db' : Database} {incident_id : Option String}
    (own : ∀ row ∈ db.alerts.rows, row.alert_id = request.alert_id → request.canonical.dedupe = row.normalized_payload.dedupe)
    (committed : Assessment.Committed request db incident_id db') : Apart db db' := by
  obtain ⟨events, groups, -⟩ := committed.frame
  refine ⟨Prod.ext groups events, committed.alert_rows (fun row stored mine => ?_) (fun _ _ => rfl)⟩
  show (row.alert_id, row.event_identity, row.dedupe_group_key, request.canonical.dedupe) = label row
  rw [own row stored mine]
  rfl

private theorem persist_apart {request : Assessment.Request} {db : Database} (fault : Bool)
    (own : ∀ row ∈ db.alerts.rows, row.alert_id = request.alert_id →
      request.canonical.dedupe = row.normalized_payload.dedupe) :
    Apart db (Assessment.persist_assessment request fault db).2 := by
  rcases Assessment.persist_assessment_cases request fault db with ⟨incident_id, db', same, _, executed⟩ | ⟨result, same, _⟩
  · rw [same]; exact committed_apart own (Assessment.assess_ok executed).2
  · rw [same]; exact .refl db

private theorem reassess_apart (pass : LateEnrichment.Pass) (db : Database) :
    Apart db (LateEnrichment.sweep_once pass db).2 := by
  refine Service.reassess_sweep_keeps pass .refl Apart.trans ?_
  intro self alert_id decided_at faults db
  rcases LateEnrichment.reassess_cases self alert_id decided_at faults db with
    same | ⟨row, request, _, _, _, found, differs, committed⟩
  · rw [same]; exact .refl db
  · obtain ⟨-, id, -, canonical, -⟩ := LateEnrichment.changed_some differs
    refine committed_apart (fun other stored mine => ?_) committed
    rw [Table.eq_of_key stored (Table.get_mem found) (mine.trans id), canonical]
    rfl

private theorem correlate_apart (pipeline : Pipeline) (delivery : Delivery) (alert_id : UUID) (fault : Bool) (db : Database) :
    Apart db (Ingest.correlate_alert pipeline delivery alert_id fault db).2 := by
  have untouched := Correlation.correlate_untouched pipeline.correlation_window alert_id delivery.received_at fault db
  have apart : Apart db (Correlation.correlate pipeline.correlation_window alert_id delivery.received_at fault db).2 :=
    ⟨Prod.ext untouched.alert_dedupe_groups untouched.alert_events, by rw [untouched.alerts]⟩
  unfold Ingest.correlate_alert
  split <;> (rename_i same; rw [same] at apart; exact apart)

/-- What is not a delivery leaves the records alone. -/
theorem other_apart (pipeline : Pipeline) (n8n : N8N) (world : Notifications.World) (event : Service.Event)
    (other : ∀ delivery providers faults step_faults, event ≠ .ingest delivery providers faults step_faults) :
    Apart world.db (Service.step pipeline n8n world event).db := by
  have linked {db db' : Database} (links : IncidentRuns.SameLinks db db')
      (recurrence : Service.recurrence db' = Service.recurrence db) : Apart db db' :=
    ⟨recurrence, by rw [links.alerts]⟩
  cases event with
  | ingest delivery providers faults step_faults => exact absurd rfl (other delivery providers faults step_faults)
  | reassess pass => exact reassess_apart pass world.db
  | update request fault =>
    exact linked (IncidentRuns.update_moved request fault world.db).2 (Service.update_recurrence request fault world.db)
  | feedback request fault =>
    exact linked (IncidentRuns.feedback_moved request fault world.db).2 (Service.feedback_recurrence request fault world.db)
  | note request fault =>
    obtain ⟨rows, same⟩ := Service.note_appends request fault world.db
    dsimp only [Service.step]
    rw [same]
    exact ⟨rfl, rfl⟩
  | sweep ttl_seconds as_of fault =>
    refine ⟨Service.sweep_recurrence ttl_seconds as_of fault world.db, ?_⟩
    dsimp only [Service.step]
    rw [IncidentRuns.step]
    cases swept : IncidentCallers.sweep_once ttl_seconds as_of fault world.db with
    | error e => rfl
    | ok value => rw [(IncidentRuns.sweep_moved swept).2.alerts]

/-- The assessment of a newly recorded alert keeps the recurrence snapshot of its payload. -/
private theorem assessment_own {pipeline : Pipeline} {delivery : Delivery} {faults : Faults} {db recorded : Database}
    {outcome : DedupeOutcome} (processed : process pipeline.sha256 pipeline.window delivery.alert delivery.canonical
      delivery.received_at faults.dedupe db = (.ok outcome, recorded)) (distinct : outcome.status ≠ .EXACT_DUPLICATE) :
    ∀ row ∈ recorded.alerts.rows, row.alert_id = (Ingest.assessment pipeline delivery outcome).alert_id →
      (Ingest.assessment pipeline delivery outcome).canonical.dedupe = row.normalized_payload.dedupe := by
  rcases process_cases pipeline.sha256 pipeline.window delivery.alert delivery.canonical delivery.received_at faults.dedupe db
    with ⟨e, same⟩ | ⟨result, db', group_key, identity, fingerprint, decision, same, executed, outcomes⟩
  · cases processed.symm.trans same
  · cases processed.symm.trans same
    obtain ⟨dedupe, rfl⟩ := outcomes outcome rfl
    rcases (deliver_recorded executed).2 with ⟨duplicate, -⟩ | ⟨-, row, dedupe, inserted, id, -, payload, canonical⟩
    · exact absurd duplicate distinct
    · intro other stored mine
      have listed : row ∈ recorded.alerts.rows := (Table.mem_insert inserted).mpr (.inr rfl)
      rw [Table.eq_of_key stored listed (mine.trans id.symm), payload]
      show decision.record.canonical_alert.dedupe = _
      rw [canonical]

/-- What comes of a delivery after its dedupe unit of work leaves the records alone. -/
private theorem ingest_apart (pipeline : Pipeline) (delivery : Delivery) (faults : Faults) (db : Database) :
    Apart (process pipeline.sha256 pipeline.window delivery.alert delivery.canonical delivery.received_at faults.dedupe db).2
      (ingest_alert pipeline delivery faults db).2 :=
  Service.ingest_follows pipeline delivery faults .refl Apart.trans
    (fun _ _ processed distinct => persist_apart faults.assessment (assessment_own processed distinct))
    (fun alert_id fault db => correlate_apart pipeline delivery alert_id fault db)

section
variable {window : Window} {group_key identity fingerprint : String} {received : Datetime} {canonical : CanonicalAlert}
  {decision : DeliveryDecision} {db db' : Database} {log : List Entry}

/-- A delivery that is absorbed moves the counters of one record, and of no other. -/
private theorem absorbed_records (timed : Service.Timed db) (records : Records db log)
    (executed : deliver window group_key identity fingerprint received canonical db = .ok (decision, db'))
    (duplicate : decision.status = .EXACT_DUPLICATE) :
    Records db' (⟨identity, decision.record.alert_id, fingerprint, false⟩ :: log) := by
  obtain ⟨absorbed, alert, own, id, -⟩ := DuplicateDelivery.deliver_duplicate timed executed duplicate []
  obtain ⟨event, recorded, found⟩ := Option.bind_eq_some_iff.mp own
  have event_key : event.event_identity = identity := Table.get_key recorded
  have inside := Table.get_mem recorded
  rw [id, show alert.alert_id = event.alert_id from Table.get_key found]
  subst event_key
  -- a record that is left is the one that absorbed, or it was there before
  have cases_of : ∀ row ∈ db'.alert_events.rows, row = redelivered_row fingerprint received event ∨
      row.event_identity ≠ event.event_identity ∧ row ∈ db.alert_events.rows := by
    intro row listed
    have got := absorbed.events row.event_identity
    rw [show db'.alert_events.get row.event_identity = some row from Table.get_of_mem listed] at got
    by_cases mine : row.event_identity = event.event_identity
    · rw [if_pos mine, mine, recorded] at got
      exact .inl (Option.some.inj got)
    · rw [if_neg mine] at got
      exact .inr ⟨mine, Table.get_mem (Option.filter_eq_some_iff.mp got.symm).1⟩
  have alerts : db'.alerts = db.alerts := absorbed.alerts
  have still {key : String} (tracked : db.alert_dedupe_groups.has key = true) : db'.alert_dedupe_groups.has key = true := by
    have groups : db'.alert_dedupe_groups.get key = _ := absorbed.groups key
    rw [Table.has, groups]
    split
    · rw [Option.isSome_map]
      exact tracked
    · exact tracked
  refine ⟨fun row listed => ?_, fun row listed => ?_, fun row listed other listed' same => ?_, fun row listed => ?_,
    fun entry listed => ?_, ?_⟩
  · rcases cases_of row listed with rfl | ⟨mine, before⟩
    · exact (records.told event inside).redelivered received
    · refine (records.told row before).other (Ne.symm mine) (fun shared => mine ?_)
      rw [records.unique row before event inside shared.symm]
  · rw [alerts]
    rcases cases_of row listed with rfl | ⟨-, before⟩
    · exact records.owned event inside
    · exact records.owned row before
  · rcases cases_of row listed with rfl | ⟨mine, before⟩
    · rcases cases_of other listed' with rfl | ⟨mine', before'⟩
      · rfl
      · exact absurd (congrArg AlertEvent.event_identity (records.unique event inside other before' same)).symm mine'
    · rcases cases_of other listed' with rfl | ⟨mine', before'⟩
      · exact absurd (congrArg AlertEvent.event_identity (records.unique row before event inside same)) mine
      · exact records.unique row before other before' same
  · rcases cases_of row listed with rfl | ⟨-, before⟩
    · exact still (records.tracked event inside)
    · exact still (records.tracked row before)
  · rw [alerts]
    rcases List.mem_cons.mp listed with rfl | earlier
    · obtain ⟨alert, stored, id, -⟩ := records.owned event inside
      exact ⟨alert, stored, id⟩
    · exact records.answered entry earlier
  · rw [alerts]
    exact records.signed

/-- A newly recorded event has a record of its own, which nothing has been absorbed into. -/
private theorem new_records (records : Records db log)
    (executed : deliver window group_key identity fingerprint received canonical db = .ok (decision, db'))
    (distinct : decision.status ≠ .EXACT_DUPLICATE) :
    Records db' (⟨identity, decision.record.alert_id, fingerprint, true⟩ :: log) := by
  obtain ⟨dedupe, signed, record, inserted, inserted_event, groups⟩ := deliver_new executed distinct
  generalize decision.record = fresh at record inserted inserted_event
  subst record
  obtain ⟨unshared, inserted_row⟩ := Table.insertUnique_eq_some.mp inserted_event
  have unlisted := Table.get_eq_none.mp (Table.insert_fresh inserted_row)
  have unanswered : into log canonical.alert_id = [] := by
    refine List.filter_eq_nil_iff.mpr (fun entry listed mine => ?_)
    obtain ⟨alert, stored, same⟩ := records.answered entry listed
    exact Table.get_eq_none.mp (Table.insert_fresh inserted) alert stored (same.trans (of_decide_eq_true mine))
  have before {row : AlertEvent} (left : row ∈ (prune_events db group_key received window).alert_events.rows) :
      row ∈ db.alert_events.rows := (List.mem_filter.mp left).1
  have still {alert : Alert} (stored : alert ∈ db.alerts.rows) : alert ∈ db'.alerts.rows :=
    (Table.mem_insert inserted).mpr (.inl stored)
  have tracked (key : String) : db'.alert_dedupe_groups.has key = true ↔
      decision.group.group_key = key ∨ db.alert_dedupe_groups.has key = true := by
    rw [groups, upsert_group, Table.has, Table.get_put]
    split
    · rename_i mine; exact iff_of_true rfl (.inl mine)
    · rename_i other; exact ⟨.inr, fun either => either.resolve_left other⟩
  refine ⟨fun row listed => ?_, fun row listed => ?_, fun row listed other listed' same => ?_, fun row listed => ?_,
    fun entry listed => ?_, fun alert stored snapshot taken => ?_⟩
  · rcases (Table.mem_insert inserted_row).mp listed with left | rfl
    · exact (records.told row (before left)).other (unlisted row left).symm (unshared row left).symm
    · exact @told_new log (event_row decision.group (new_event_record canonical identity fingerprint dedupe received))
        fingerprint unanswered rfl rfl rfl
  · rcases (Table.mem_insert inserted_row).mp listed with left | rfl
    · obtain ⟨alert, stored, own⟩ := records.owned row (before left)
      exact ⟨alert, still stored, own⟩
    · exact ⟨_, (Table.mem_insert inserted).mpr (.inr rfl), rfl, rfl, rfl⟩
  · rcases (Table.mem_insert inserted_row).mp listed with left | rfl
    · rcases (Table.mem_insert inserted_row).mp listed' with left' | rfl
      · exact records.unique row (before left) other (before left') same
      · exact absurd same (unshared row left)
    · rcases (Table.mem_insert inserted_row).mp listed' with left' | rfl
      · exact absurd same.symm (unshared other left')
      · rfl
  · rcases (Table.mem_insert inserted_row).mp listed with left | rfl
    · exact (tracked _).mpr (.inr (records.tracked row (before left)))
    · exact (tracked _).mpr (.inl rfl)
  · rcases List.mem_cons.mp listed with rfl | earlier
    · exact ⟨_, (Table.mem_insert inserted).mpr (.inr rfl), rfl⟩
    · obtain ⟨alert, stored, same⟩ := records.answered entry earlier
      exact ⟨alert, still stored, same⟩
  · rcases (Table.mem_insert inserted).mp stored with earlier | rfl
    · exact records.signed alert earlier snapshot taken
    · cases taken
      exact signed
end

/-- The unit of work of a delivery, with the entry it is accepted as. -/
private theorem process_records {log : List Entry} (pipeline : Pipeline) (delivery : Delivery) (faults : Faults)
    (db : Database)
    (timed : Service.Timed db) (records : Records db log) :
    Records (process pipeline.sha256 pipeline.window delivery.alert delivery.canonical delivery.received_at faults.dedupe
      db).2
      ((accepted pipeline delivery faults db).toList ++ log) := by
  rcases process_accepted pipeline delivery faults db with
    ⟨refused, same⟩ | ⟨identity, group_key, fingerprint, decision, db', -, executed, taken, same⟩
  · rw [refused, same]
    exact records
  · rw [taken, same]
    by_cases duplicate : decision.status = .EXACT_DUPLICATE
    · rw [duplicate]
      exact absorbed_records timed records executed duplicate
    · rw [bne_iff_ne.mpr duplicate]
      exact new_records records executed duplicate

/-- What comes of a delivery after its dedupe unit of work leaves the records alone, its notification included. -/
theorem handled_apart (pipeline : Pipeline) (n8n : N8N) (delivery : Delivery) (faults : Faults)
    (step_faults : Notifications.StepFaults) (world : Notifications.World) :
    Apart (process pipeline.sha256 pipeline.window delivery.alert delivery.canonical delivery.received_at faults.dedupe
      world.db).2
      (Notifications.handle pipeline n8n delivery faults step_faults world).2.db := by
  have ingested := ingest_apart pipeline delivery faults world.db
  obtain ⟨entries, occurred_at, same⟩ := Notifications.handle_database pipeline n8n delivery faults step_faults world
  rw [same]
  generalize (ingest_alert pipeline delivery faults world.db).2 = db at ingested
  exact ingested.trans ⟨rfl, rfl⟩

theorem step_records (pipeline : Pipeline) (n8n : N8N) (world : World) (event : Service.Event)
    (timed : Service.Timed world.service.db) (records : Records world.service.db world.log) :
    Records (step pipeline n8n world event).service.db (step pipeline n8n world event).log := by
  by_cases delivery : ∃ delivery providers faults step_faults, event = .ingest delivery providers faults step_faults
  · obtain ⟨delivery, providers, faults, step_faults, rfl⟩ := delivery
    rw [step_ingest]
    generalize enriched_delivery delivery providers = delivery
    have recorded := process_records pipeline delivery faults world.service.db timed records
    dsimp only
    exact (handled_apart pipeline n8n delivery faults step_faults world.service).records recorded
  · have other : ∀ delivery providers faults step_faults, event ≠ .ingest delivery providers faults step_faults :=
      fun d p f s same => delivery ⟨d, p, f, s, same⟩
    have log : (step pipeline n8n world event).log = world.log := by
      cases event with
      | ingest d p f s => exact absurd rfl (other d p f s)
      | _ => rfl
    rw [log]
    exact (other_apart pipeline n8n world.service event other).records records

/-- The service of a run does not depend on its log. -/
theorem after_service (pipeline : Pipeline) (n8n : N8N) (events : List Service.Event) :
    (after pipeline n8n events).service = Service.after pipeline n8n events := by
  suffices same : ∀ (events : List Service.Event) (world : World),
      (Runs.run (step pipeline n8n) world events).service = Runs.run (Service.step pipeline n8n) world.service events from
    same events {}
  intro events
  induction events with
  | nil => exact fun _ => rfl
  | cons event rest ih => exact fun world => ih (step pipeline n8n world event)

/-- In every state the service reaches, every record tells of the deliveries that were answered with its alert. -/
theorem after_records (pipeline : Pipeline) (n8n : N8N) (events : List Service.Event) :
    Records (after pipeline n8n events).service.db (after pipeline n8n events).log := by
  refine (@Runs.invariant _ _ (step pipeline n8n)
    (fun world => Service.Steady world.service.db ∧ Records world.service.db world.log)
    (fun world event kept => ⟨Service.step_steady pipeline n8n world.service event kept.1,
      step_records pipeline n8n world event kept.1.timed kept.2⟩) {} ⟨Service.after_steady pipeline n8n [], ?_⟩ events).2
  refine ⟨?_, ?_, ?_, ?_, ?_, ?_⟩
  all_goals intro row none; exact absurd none List.not_mem_nil

end SocTriage.DeliveryLog
