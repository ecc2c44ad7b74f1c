import SocTriage.Database

/-!
Deduplication over the database: the repository of the recurrence state and the
deduplicator that makes each delivery one unit of work. `fault` is a failure of the
storage at any statement of the unit of work or at its commit.
-/
namespace SocTriage.PersistentDeduplication
open Deduplication Audit

/-! ### The state repository -/

def event_to_record (event : AlertEvent) (alert : Alert) : EventRecord where
  event_identity := event.event_identity
  alert_id := event.alert_id
  payload_fingerprint := event.payload_fingerprint
  canonical_alert := alert.normalized_payload
  delivery_count := event.delivery_count
  content_variants := event.content_variants
  first_delivered_at := Datetime.of_instant event.first_delivered_at
  last_delivered_at := Datetime.of_instant event.last_delivered_at

/-- The record of an event row joined with its alert row. -/
def joined (db : Database) (event : AlertEvent) : Option EventRecord :=
  (db.alerts.get event.alert_id).map (event_to_record event)

def events_for_group (db : Database) (group_key : String) : Table EventRecord.event_identity :=
  (db.alert_events.filter (fun event => event.group_key = group_key)).filterMap (joined db) (by
    intro event record found
    obtain ⟨alert, _, rfl⟩ := Option.map_eq_some_iff.mp found
    rfl)

/-- `_group_state`. -/
def restored (row : AlertDedupeGroup) (events : Table EventRecord.event_identity) : GroupState where
  group_key := row.group_key
  occurrences := row.occurrences
  first_seen := row.first_seen.map Datetime.of_instant
  last_seen := row.last_seen.map Datetime.of_instant
  generation := row.generation
  duplicate_deliveries := row.duplicate_deliveries
  events := events

/-- The stored state of a group, without pruning. -/
def group_state (db : Database) (group_key : String) : Option GroupState :=
  (db.alert_dedupe_groups.get group_key).map (fun row => restored row (events_for_group db group_key))

def group_count (db : Database) : Nat := db.alert_dedupe_groups.rows.length

/-- The `DELETE` that `load_state` starts with. -/
def prune_events (db : Database) (group_key : String) (received : Datetime) (window : Window) : Database :=
  { db with alert_events := db.alert_events.filter (fun event =>
      !(event.group_key = group_key ∧ event.last_delivered_at < received.instant - window.delta)) }

def load_state (db : Database) (group_key : String) (received : Datetime) (window : Window) :
    Database × Option GroupState :=
  let db := prune_events db group_key received window
  (db, group_state db group_key)

/-- The clock of the source is a fallback for a group without timestamps, which is never stored. -/
def upsert_group (db : Database) (group : GroupState) : Database :=
  { db with alert_dedupe_groups := db.alert_dedupe_groups.put {
      group_key := group.group_key
      occurrences := group.occurrences
      generation := group.generation
      first_seen := group.first_seen.map Datetime.instant
      last_seen := group.last_seen.map Datetime.instant
      duplicate_deliveries := group.duplicate_deliveries
      updated_at := ((group.last_seen.or group.first_seen).map Datetime.instant).getD 0 } }

/-- The alert row of a newly recorded event. -/
def alert_row (group : GroupState) (record : EventRecord) : Alert :=
  let canonical := record.canonical_alert
  { alert_id := record.alert_id
    source := canonical.source
    received_at := canonical.received_at.instant
    dedupe_group_key := group.group_key
    event_identity := record.event_identity
    rule_id := canonical.source_event.rule.id
    rule_level := canonical.source_event.rule.level
    agent_id := canonical.source_event.agent.id
    agent_name := canonical.source_event.agent.name
    normalized_payload := canonical
    created_at := record.first_delivered_at.instant }

/-- The idempotency row of a newly recorded event. -/
def event_row (group : GroupState) (record : EventRecord) : AlertEvent where
  event_identity := record.event_identity
  group_key := group.group_key
  alert_id := record.alert_id
  payload_fingerprint := record.payload_fingerprint
  delivery_count := record.delivery_count
  content_variants := record.content_variants
  first_delivered_at := record.first_delivered_at.instant
  last_delivered_at := record.last_delivered_at.instant

def record_event (db : Database) (group : GroupState) (record : EventRecord) : Except Error Database := do
  let alerts ← db.alerts.insertOrFail (alert_row group record)
  match db.alert_events.insertUnique AlertEvent.alert_id (event_row group record) with
  | none => .error .database
  | some alert_events => return upsert_group { db with alerts, alert_events } group

/-- The idempotency row after an absorbed delivery. -/
def absorbed (record : EventRecord) (row : AlertEvent) : AlertEvent :=
  { row with
    payload_fingerprint := record.payload_fingerprint
    delivery_count := record.delivery_count
    content_variants := record.content_variants
    last_delivered_at := record.last_delivered_at.instant }

def absorb_event (db : Database) (group : GroupState) (record : EventRecord) : Except Error Database :=
  match db.alert_events.get record.event_identity with
  | none => .error (.lookup ("event record '" ++ record.event_identity ++ "' is missing"))
  | some _ =>
    .ok (upsert_group
      { db with alert_events := db.alert_events.modify record.event_identity (absorbed record) } group)

/-! ### The deduplicator -/

/-- Naive timestamps are refused, the others kept as they are. -/
def require_aware (value : Datetime) (field : String) : Except Error Datetime :=
  if value.aware then .ok value
  else .error (.invalid_input (field ++ " must be timezone-aware, got naive datetime"))

/-- The unit of work of one delivery: read and prune, decide, write, audit. -/
def deliver (window : Window) (group_key identity fingerprint : String) (received : Datetime)
    (canonical : CanonicalAlert) (db : Database) : Except Error (DeliveryDecision × Database) := do
  let (db, group) := load_state db group_key received window
  let decision ← decide_delivery group group_key identity fingerprint received window canonical
  let db ← if decision.status = .EXACT_DUPLICATE then absorb_event db decision.group decision.record
    else record_event db decision.group decision.record
  return (decision, db.append (audit_entries_for_decision decision) received.instant)

/-- `StorageError` for a failure of the storage, any other exception as it is. -/
def surfaced : Error → Error
  | .database => .storage "persistent storage operation failed"
  | other => other

def process (sha256 : Json → String) (window : Window) (alert : WazuhAlert) (canonical : CanonicalAlert)
    (received_at : Datetime) (fault : Bool) (db : Database) : Except Error DedupeOutcome × Database :=
  let keys : Except Error (String × String × String × Datetime) := do
    let (identity, group_key, fingerprint) ← delivery_keys sha256 alert
    let received ← require_aware received_at "received_at"
    return (identity, group_key, fingerprint, received)
  match keys with
  | .error e => (.error e, db)
  | .ok (identity, group_key, fingerprint, received) =>
    match db.session_scope (fun db =>
        if fault then .error .database else deliver window group_key identity fingerprint received canonical db) with
    | (.error e, db) => (.error (surfaced e), db)
    | (.ok decision, db) =>
      (do
        let dedupe ← dedupe_info decision.group identity
        return answer decision identity dedupe, db)

/-! ### What a delivery does -/

section
variable {sha256 : Json → String} {window : Window} {alert : WazuhAlert} {canonical : CanonicalAlert}
  {received_at : Datetime} {fault : Bool} {db : Database}

/-- A committed delivery is answered when the counters of its group can be told. -/
theorem process_delivered {db' : Database} {identity group_key fingerprint : String} {decision : DeliveryDecision}
    (keys : delivery_keys sha256 alert = .ok (identity, group_key, fingerprint)) (zoned : received_at.aware = true)
    (executed : deliver window group_key identity fingerprint received_at canonical db = .ok (decision, db')) :
    process sha256 window alert canonical received_at false db =
      ((do
        let dedupe ← dedupe_info decision.group identity
        return answer decision identity dedupe), db') := by
  have committed : db.session_scope (fun db => if false then .error .database else
      deliver window group_key identity fingerprint received_at canonical db) = (.ok decision, db') :=
    Database.session_scope_ok executed
  simp only [process, keys, require_aware, zoned, bind, Except.bind, pure, Except.pure, ↓reduceIte, committed]

theorem process_committed {db' : Database} {identity group_key fingerprint : String} {decision : DeliveryDecision}
    {dedupe : CanonicalDedupe} (keys : delivery_keys sha256 alert = .ok (identity, group_key, fingerprint))
    (zoned : received_at.aware = true)
    (executed : deliver window group_key identity fingerprint received_at canonical db = .ok (decision, db'))
    (info : dedupe_info decision.group identity = .ok dedupe) :
    process sha256 window alert canonical received_at false db = (.ok (answer decision identity dedupe), db') := by
  rw [process_delivered keys zoned executed, info]
  rfl

theorem process_rolled_back {e : Error} {identity group_key fingerprint : String}
    (keys : delivery_keys sha256 alert = .ok (identity, group_key, fingerprint)) (zoned : received_at.aware = true)
    (failed : (if fault then .error .database else
      deliver window group_key identity fingerprint received_at canonical db) = .error e) :
    process sha256 window alert canonical received_at fault db = (.error (surfaced e), db) := by
  have rolled_back : db.session_scope (fun db => if fault then .error .database else
      deliver window group_key identity fingerprint received_at canonical db) = (.error e, db) :=
    Database.session_scope_error failed
  simp only [process, keys, require_aware, zoned, bind, Except.bind, pure, Except.pure, ↓reduceIte, rolled_back]

theorem process_refused {e : Error} (refused : delivery_keys sha256 alert = .error e) :
    process sha256 window alert canonical received_at fault db = (.error e, db) := by
  simp only [process, refused, bind, Except.bind]

theorem process_naive {value : String × String × String} (keys : delivery_keys sha256 alert = .ok value)
    (naive : received_at.aware = false) :
    process sha256 window alert canonical received_at fault db =
      (.error (.invalid_input "received_at must be timezone-aware, got naive datetime"), db) := by
  simp only [process, keys, require_aware, naive, bind, Except.bind, Bool.false_eq_true, ↓reduceIte]
  rfl
end

/-! ### The alert of record -/

private theorem recurred_distinct (group : GroupState) (last_seen received : Datetime) (window : Window) :
    (recurred group last_seen received window).1 ≠ .EXACT_DUPLICATE := by
  rw [recurred]
  split <;> (dsimp only; decide)

private theorem dedupe_info_identity {group : GroupState} {identity : String} {dedupe : CanonicalDedupe}
    (info : dedupe_info group identity = .ok dedupe) : dedupe.event_identity = some identity := by
  obtain ⟨first_seen, _, info⟩ := bind_ok.mp info
  obtain ⟨last_seen, _, done⟩ := bind_ok.mp info
  cases done
  rfl

/-- A delivery is a duplicate of a live record, or it is decided on with a record of its own. -/
theorem decide_delivery_cases {group : Option GroupState} {group_key identity fingerprint : String}
    {received : Datetime} {window : Window} {canonical : CanonicalAlert} {decision : DeliveryDecision}
    (decided : decide_delivery group group_key identity fingerprint received window canonical = .ok decision) :
    (decision.status = .EXACT_DUPLICATE ∧ ∃ state existing, group = some state ∧
      state.events.get identity = some existing ∧ decision.record = redelivered existing fingerprint received) ∨
    (decision.status ≠ .EXACT_DUPLICATE ∧ ∃ dedupe, dedupe.event_identity = some identity ∧
      decision.record = new_event_record canonical identity fingerprint dedupe received) := by
  cases group with
  | none =>
    obtain ⟨dedupe, info, done⟩ := bind_ok.mp decided
    cases done
    exact .inr ⟨by dsimp only; decide, dedupe, dedupe_info_identity info, rfl⟩
  | some state =>
    rw [decide_delivery, classify] at decided
    cases known : (prune_expired state received window).events.get identity with
    | some existing =>
      rw [known] at decided
      cases decided
      rw [prune_expired, Table.get_filter] at known
      exact .inl ⟨rfl, state, existing, rfl, (Option.filter_eq_some_iff.mp known).1, rfl⟩
    | none =>
      rw [known] at decided
      obtain ⟨last_seen, _, decided⟩ := bind_ok.mp decided
      have distinct := recurred_distinct (prune_expired state received window) last_seen received window
      generalize recurred (prune_expired state received window) last_seen received window = moved at decided distinct
      obtain ⟨dedupe, info, done⟩ := bind_ok.mp decided
      cases done
      exact .inr ⟨distinct, dedupe, dedupe_info_identity info, rfl⟩

/-- A decision to record an alert can be answered. -/
theorem decide_delivery_info {group : Option GroupState} {group_key identity fingerprint : String} {received : Datetime}
    {window : Window} {canonical : CanonicalAlert} {decision : DeliveryDecision}
    (decided : decide_delivery group group_key identity fingerprint received window canonical = .ok decision)
    (new : decision.status ≠ .EXACT_DUPLICATE) : ∃ dedupe, dedupe_info decision.group identity = .ok dedupe := by
  cases group with
  | none =>
    obtain ⟨dedupe, info, done⟩ := bind_ok.mp decided
    cases done
    exact ⟨dedupe, info⟩
  | some state =>
    rw [decide_delivery, classify] at decided
    cases known : (prune_expired state received window).events.get identity with
    | some existing =>
      rw [known] at decided
      cases decided
      exact absurd rfl new
    | none =>
      rw [known] at decided
      obtain ⟨last_seen, _, decided⟩ := bind_ok.mp decided
      generalize recurred (prune_expired state received window) last_seen received window = moved at decided
      obtain ⟨dedupe, info, done⟩ := bind_ok.mp decided
      cases done
      exact ⟨dedupe, info⟩

private theorem record_alert {db : Database} {group_key : String} {state : GroupState} {identity : String}
    {existing : EventRecord} (loaded : group_state db group_key = some state)
    (known : state.events.get identity = some existing) : ∃ alert, db.alerts.get existing.alert_id = some alert := by
  obtain ⟨row, _, rfl⟩ := Option.map_eq_some_iff.mp loaded
  have member := Table.get_mem known
  obtain ⟨event, _, joined⟩ := List.mem_filterMap.mp member
  obtain ⟨alert, found, rfl⟩ := Option.map_eq_some_iff.mp joined
  exact ⟨alert, found⟩

section
variable {window : Window} {group_key identity fingerprint : String} {received : Datetime} {canonical : CanonicalAlert}
  {db db' : Database} {decision : DeliveryDecision}

/-- The two ways a unit of work commits: a record is moved, or an alert and its record are added. -/
theorem deliver_cases
    (executed : deliver window group_key identity fingerprint received canonical db = .ok (decision, db')) :
    let pruned := prune_events db group_key received window
    decide_delivery (group_state pruned group_key) group_key identity fingerprint received window canonical = .ok decision ∧
    ((decision.status = .EXACT_DUPLICATE ∧ db' = (upsert_group { pruned with
          alert_events := pruned.alert_events.modify decision.record.event_identity (absorbed decision.record) }
        decision.group).append (audit_entries_for_decision decision) received.instant) ∨
      (decision.status ≠ .EXACT_DUPLICATE ∧ ∃ alerts alert_events,
        db.alerts.insert (alert_row decision.group decision.record) = some alerts ∧
        pruned.alert_events.insertUnique AlertEvent.alert_id (event_row decision.group decision.record) = some alert_events ∧
        db' = (upsert_group { pruned with alerts, alert_events } decision.group).append
          (audit_entries_for_decision decision) received.instant)) := by
  intro pruned
  obtain ⟨decided_on, decided, executed⟩ := bind_ok.mp executed
  dsimp only at executed
  by_cases duplicate : decided_on.status = .EXACT_DUPLICATE
  · rw [if_pos duplicate] at executed
    obtain ⟨written, stored, done⟩ := bind_ok.mp executed
    cases done
    rw [absorb_event] at stored
    split at stored
    · contradiction
    · cases stored
      exact ⟨decided, .inl ⟨duplicate, rfl⟩⟩
  · rw [if_neg duplicate] at executed
    obtain ⟨written, stored, done⟩ := bind_ok.mp executed
    cases done
    obtain ⟨alerts, inserted, stored⟩ := bind_ok.mp stored
    split at stored
    · contradiction
    · rename_i alert_events inserted_event
      cases stored
      exact ⟨decided, .inr ⟨duplicate, alerts, alert_events, Table.insertOrFail_ok.mp inserted, inserted_event, rfl⟩⟩

/-- What a committed delivery leaves of the alerts: an exact duplicate none, any other one row that is unassessed and
    unlinked. Either way the record decided on is the one of a stored alert. -/
theorem deliver_recorded
    (executed : deliver window group_key identity fingerprint received canonical db = .ok (decision, db')) :
    db'.incidents = db.incidents ∧
    ((decision.status = .EXACT_DUPLICATE ∧ db'.alerts = db.alerts ∧
        ∃ alert, db.alerts.get decision.record.alert_id = some alert) ∨
      (decision.status ≠ .EXACT_DUPLICATE ∧ ∃ row dedupe, db.alerts.insert row = some db'.alerts ∧
        row.alert_id = decision.record.alert_id ∧ row.incident_id = none ∧
        row.normalized_payload = { canonical with dedupe := some dedupe } ∧
        decision.record.canonical_alert = { canonical with dedupe := some dedupe })) := by
  obtain ⟨decided, ⟨duplicate, rfl⟩ | ⟨new, alerts, alert_events, inserted, _, rfl⟩⟩ := deliver_cases executed
  · rcases decide_delivery_cases decided with ⟨_, state, existing, loaded, known, record⟩ | ⟨new, _⟩
    · have found := record_alert loaded known
      refine ⟨rfl, .inl ⟨duplicate, rfl, ?_⟩⟩
      rw [record]
      exact found
    · exact absurd duplicate new
  · rcases decide_delivery_cases decided with ⟨duplicate, _⟩ | ⟨_, dedupe, -, record⟩
    · exact absurd duplicate new
    · refine ⟨rfl, .inr ⟨new, alert_row decision.group decision.record, dedupe, inserted, rfl, rfl, ?_, ?_⟩⟩
      · rw [alert_row, record]; rfl
      · rw [record]; rfl

/-- A committed delivery appends the rows of its decision. -/
theorem deliver_audit_log
    (executed : deliver window group_key identity fingerprint received canonical db = .ok (decision, db')) :
    db'.audit_log = db.audit_log ++ (audit_entries_for_decision decision).map (Database.audit_row received.instant) := by
  obtain ⟨_, ⟨_, rfl⟩ | ⟨_, _, _, _, _, rfl⟩⟩ := deliver_cases executed
  · rfl
  · rfl
end

/-- A call leaves the database as it was, or commits one delivery and answers with its record. -/
theorem process_cases (sha256 : Json → String) (window : Window) (alert : WazuhAlert) (canonical : CanonicalAlert)
    (received_at : Datetime) (fault : Bool) (db : Database) :
    (∃ e, process sha256 window alert canonical received_at fault db = (.error e, db)) ∨
    ∃ result db' group_key identity fingerprint decision,
      process sha256 window alert canonical received_at fault db = (result, db') ∧
      deliver window group_key identity fingerprint received_at canonical db = .ok (decision, db') ∧
      ∀ outcome, result = .ok outcome → ∃ dedupe, outcome = answer decision identity dedupe := by
  cases keys : delivery_keys sha256 alert with
  | error e => exact .inl ⟨e, process_refused keys⟩
  | ok value =>
    obtain ⟨identity, group_key, fingerprint⟩ := value
    cases zoned : received_at.aware with
    | false => exact .inl ⟨_, process_naive keys zoned⟩
    | true =>
      cases fault with
      | true => exact .inl ⟨_, @process_rolled_back _ _ _ _ _ true _ _ _ _ _ keys zoned rfl⟩
      | false =>
        cases executed : deliver window group_key identity fingerprint received_at canonical db with
        | error e => exact .inl ⟨_, @process_rolled_back _ _ _ _ _ false _ _ _ _ _ keys zoned executed⟩
        | ok value =>
          obtain ⟨decision, db'⟩ := value
          refine .inr ⟨_, db', group_key, identity, fingerprint, decision, process_delivered keys zoned executed, executed,
            ?_⟩
          intro outcome same
          obtain ⟨dedupe, _, done⟩ := bind_ok.mp same
          cases done
          exact ⟨dedupe, rfl⟩

/-- A call leaves the alerts as they are and answers with none that is new, or records one and answers with it. -/
theorem process_records (sha256 : Json → String) (window : Window) (alert : WazuhAlert) (canonical : CanonicalAlert)
    (received_at : Datetime) (fault : Bool) (db : Database) :
    ((process sha256 window alert canonical received_at fault db).2.alerts = db.alerts ∧
      ∀ outcome, (process sha256 window alert canonical received_at fault db).1 = .ok outcome →
        outcome.status = .EXACT_DUPLICATE) ∨
    ∃ outcome recorded row, process sha256 window alert canonical received_at fault db = (.ok outcome, recorded) ∧
      outcome.status ≠ .EXACT_DUPLICATE ∧ row.alert_id = outcome.alert_id ∧
      db.alerts.insert row = some recorded.alerts := by
  cases keys : delivery_keys sha256 alert with
  | error e =>
    rw [process_refused keys]
    exact .inl ⟨rfl, fun outcome ok => by contradiction⟩
  | ok value =>
    obtain ⟨identity, group_key, fingerprint⟩ := value
    cases zoned : received_at.aware with
    | false =>
      rw [process_naive keys zoned]
      exact .inl ⟨rfl, fun outcome ok => by contradiction⟩
    | true =>
      cases fault with
      | true =>
        rw [@process_rolled_back _ _ _ _ _ true _ _ _ _ _ keys zoned rfl]
        exact .inl ⟨rfl, fun outcome ok => by contradiction⟩
      | false =>
        cases executed : deliver window group_key identity fingerprint received_at canonical db with
        | error e =>
          rw [@process_rolled_back _ _ _ _ _ false _ _ _ _ _ keys zoned executed]
          exact .inl ⟨rfl, fun outcome ok => by contradiction⟩
        | ok value =>
          obtain ⟨decision, recorded⟩ := value
          rcases (deliver_recorded executed).2 with ⟨duplicate, same, _⟩ | ⟨new, row, _, inserted, key, _⟩
          · rw [process_delivered keys zoned executed]
            refine .inl ⟨same, fun outcome ok => ?_⟩
            obtain ⟨dedupe, _, done⟩ := bind_ok.mp ok
            cases done
            exact duplicate
          · obtain ⟨dedupe, info⟩ := decide_delivery_info (deliver_cases executed).1 new
            exact .inr ⟨_, recorded, row, process_committed keys zoned executed info, new, key, inserted⟩

/-- A new event is answered with an alert under the id of its record. -/
theorem process_new_named {sha256 : Json → String} {window : Window} {alert : WazuhAlert} {canonical : CanonicalAlert}
    {received_at : Datetime} {fault : Bool} {db db' : Database} {outcome : DedupeOutcome}
    (processed : process sha256 window alert canonical received_at fault db = (.ok outcome, db'))
    (new : outcome.status ≠ .EXACT_DUPLICATE) : outcome.canonical_alert.alert_id = outcome.alert_id := by
  rcases process_cases sha256 window alert canonical received_at fault db with
    ⟨e, refused⟩ | ⟨result, after, _, identity, _, decision, same, executed, answered⟩
  · rw [processed] at refused
    cases refused
  · rw [processed] at same
    cases same
    obtain ⟨_, rfl⟩ := answered outcome rfl
    rcases decide_delivery_cases (deliver_cases executed).1 with ⟨duplicate, _⟩ | ⟨_, _, -, record⟩
    · exact absurd duplicate new
    · show decision.record.canonical_alert.alert_id = decision.record.alert_id
      rw [record]
      rfl

end SocTriage.PersistentDeduplication
