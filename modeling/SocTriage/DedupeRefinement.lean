import SocTriage.Assessment
import SocTriage.EventIdentity
import SocTriage.PersistentDeduplication
import SocTriage.Runs

/-!
The persistent deduplicator simulates the one in memory. The two keep a group as a
dictionary and as rows of three tables; they agree when they show the same group state,
up to the offset a timestamp is written with and up to what an assessment writes on the
stored alert. Deliveries and assessments of stored alerts may come in any order.
-/
namespace SocTriage.DedupeRefinement
open Deduplication PersistentDeduplication

/-! ### What the two deduplicators are compared on -/

def utc (dedupe : CanonicalDedupe) : CanonicalDedupe :=
  { dedupe with first_seen := dedupe.first_seen.as_utc, last_seen := dedupe.last_seen.as_utc }

/-- A canonical alert without what an assessment writes on it. -/
def preserved (canonical : CanonicalAlert) : CanonicalAlert :=
  { canonical with
    dedupe := canonical.dedupe.map utc
    iocs := []
    enrichment_status := none
    risk := none
    decision := none }

/-- An event record up to offsets and assessment. -/
def view (record : EventRecord) : EventRecord :=
  { record with
    canonical_alert := preserved record.canonical_alert
    first_delivered_at := record.first_delivered_at.as_utc
    last_delivered_at := record.last_delivered_at.as_utc }

/-- Two timestamps of a group, both there and at one instant. -/
def SameTime (a b : Option Datetime) : Prop := ∃ s t : Datetime, a = some s ∧ b = some t ∧ s.instant = t.instant

structure GroupAgrees (g h : GroupState) : Prop where
  group_key : g.group_key = h.group_key
  occurrences : g.occurrences = h.occurrences
  generation : g.generation = h.generation
  duplicate_deliveries : g.duplicate_deliveries = h.duplicate_deliveries
  first_seen : SameTime g.first_seen h.first_seen
  last_seen : SameTime g.last_seen h.last_seen
  events : ∀ identity, (g.events.get identity).map view = (h.events.get identity).map view

structure OutcomeAgrees (o p : DedupeOutcome) : Prop where
  status : o.status = p.status
  alert_id : o.alert_id = p.alert_id
  group_key : o.group_key = p.group_key
  event_identity : o.event_identity = p.event_identity
  dedupe : utc o.dedupe = utc p.dedupe
  canonical_alert : preserved o.canonical_alert = preserved p.canonical_alert

/-- Both deliveries answer alike, or both refuse the input with one message. -/
def ResultAgrees : Except Error DedupeOutcome → Except Error DedupeOutcome → Prop
  | .ok o, .ok p => OutcomeAgrees o p
  | .error e, .error f => e = f ∧ ∃ message, e = .invalid_input message
  | _, _ => False

structure DecisionAgrees (d e : DeliveryDecision) : Prop where
  status : d.status = e.status
  group : GroupAgrees d.group e.group
  record : view d.record = view e.record

/-! ### The state machine respects agreement -/

theorem SameTime.trans {a b c : Option Datetime} : SameTime a b → SameTime b c → SameTime a c := by
  rintro ⟨s, t, left, middle, same⟩ ⟨t', u, middle', right, same'⟩
  rw [middle] at middle'
  cases middle'
  exact ⟨s, u, left, right, same.trans same'⟩

theorem GroupAgrees.trans {g h k : GroupState} (left : GroupAgrees g h) (right : GroupAgrees h k) :
    GroupAgrees g k where
  group_key := left.group_key.trans right.group_key
  occurrences := left.occurrences.trans right.occurrences
  generation := left.generation.trans right.generation
  duplicate_deliveries := left.duplicate_deliveries.trans right.duplicate_deliveries
  first_seen := left.first_seen.trans right.first_seen
  last_seen := left.last_seen.trans right.last_seen
  events := fun identity => (left.events identity).trans (right.events identity)

private theorem view_last {r s : EventRecord} (same : view r = view s) :
    r.last_delivered_at.instant = s.last_delivered_at.instant := by
  have := congrArg EventRecord.last_delivered_at same
  exact Datetime.as_utc_eq_iff.mp this

private theorem view_fields {r s : EventRecord} (same : view r = view s) :
    r.event_identity = s.event_identity ∧ r.alert_id = s.alert_id ∧ r.payload_fingerprint = s.payload_fingerprint ∧
      r.delivery_count = s.delivery_count ∧ r.content_variants = s.content_variants ∧
      r.first_delivered_at.instant = s.first_delivered_at.instant ∧
      preserved r.canonical_alert = preserved s.canonical_alert := by
  simp only [view, EventRecord.mk.injEq] at same
  obtain ⟨identity, alert, fingerprint, canonical, count, variants, first, _⟩ := same
  exact ⟨identity, alert, fingerprint, count, variants, Datetime.as_utc_eq_iff.mp first, canonical⟩

/-- A lookup agrees on both sides: absent, or records of one view. -/
private theorem found_agrees {a b : Option EventRecord} (same : a.map view = b.map view) :
    (a = none ∧ b = none) ∨ ∃ r s, a = some r ∧ b = some s ∧ view r = view s := by
  cases a with
  | none => cases b with
    | none => exact .inl ⟨rfl, rfl⟩
    | some s => simp at same
  | some r => cases b with
    | none => simp at same
    | some s => exact .inr ⟨r, s, rfl, rfl, by simpa using same⟩

theorem prune_agrees {g h : GroupState} (agrees : GroupAgrees g h) {now now' : Datetime}
    (same : now.instant = now'.instant) (window : Window) :
    GroupAgrees (prune_expired g now window) (prune_expired h now' window) where
  group_key := agrees.group_key
  occurrences := agrees.occurrences
  generation := agrees.generation
  duplicate_deliveries := agrees.duplicate_deliveries
  first_seen := agrees.first_seen
  last_seen := agrees.last_seen
  events := by
    intro identity
    rw [prune_expired_get, prune_expired_get, same]
    rcases found_agrees (agrees.events identity) with ⟨left, right⟩ | ⟨r, s, left, right, equal⟩
    · rw [left, right]
    · rw [left, right, Option.filter_some, Option.filter_some, view_last equal]
      split
      · simpa using equal
      · rfl

private theorem put_agrees {t u : Table EventRecord.event_identity} {r s : EventRecord}
    (agrees : ∀ identity, (t.get identity).map view = (u.get identity).map view) (same : view r = view s) :
    ∀ identity, ((t.put r).get identity).map view = ((u.put s).get identity).map view := by
  intro identity
  rw [Table.get_put, Table.get_put, (view_fields same).1]
  split
  · simpa using same
  · exact agrees identity

private theorem new_event_record_agrees (canonical : CanonicalAlert) (identity fingerprint : String)
    {dedupe dedupe' : CanonicalDedupe} (sameDedupe : utc dedupe = utc dedupe') {received received' : Datetime}
    (same : received.instant = received'.instant) :
    view (new_event_record canonical identity fingerprint dedupe received) =
      view (new_event_record canonical identity fingerprint dedupe' received') := by
  simp [view, new_event_record, preserved, sameDedupe, Datetime.as_utc, same]

private theorem snapshot_agrees {g h : GroupState} (agrees : GroupAgrees g h) {first first' last last' : Datetime}
    (sameFirst : first.instant = first'.instant) (sameLast : last.instant = last'.instant) (identity : String) :
    utc (snapshot g first last identity) = utc (snapshot h first' last' identity) := by
  simp [utc, snapshot, agrees.group_key, agrees.occurrences, agrees.generation, agrees.duplicate_deliveries,
    Datetime.as_utc, sameFirst, sameLast]

private theorem record_decision_agrees (status : DedupeStatus) {before before' : Option GroupState} {g h : GroupState}
    (agrees : GroupAgrees g h) {first first' received received' : Datetime} (sameFirst : first.instant = first'.instant)
    (same : received.instant = received'.instant) (identity fingerprint : String) (canonical : CanonicalAlert) :
    DecisionAgrees (record_decision status before g first identity fingerprint received canonical)
      (record_decision status before' h first' identity fingerprint received' canonical) := by
  have records := new_event_record_agrees canonical identity fingerprint
    (snapshot_agrees agrees sameFirst same identity) same
  exact ⟨rfl, { agrees with events := put_agrees agrees.events records }, records⟩

private theorem redelivered_agrees {r s : EventRecord} (equal : view r = view s) (fingerprint : String)
    {received received' : Datetime} (same : received.instant = received'.instant) :
    view (redelivered r fingerprint received) = view (redelivered s fingerprint received') := by
  obtain ⟨identity, alert, old, count, variants, first, canonical⟩ := view_fields equal
  simp [view, redelivered, identity, alert, old, count, variants, first, canonical, Datetime.as_utc, same]

private theorem recurred_agrees {g h : GroupState} (agrees : GroupAgrees g h) {last last' received received' : Datetime}
    (seen : g.last_seen = some last) (seen' : h.last_seen = some last') (same : received.instant = received'.instant)
    (window : Window) :
    (recurred g last received window).1 = (recurred h last' received' window).1 ∧
      GroupAgrees (recurred g last received window).2 (recurred h last' received' window).2 := by
  obtain ⟨t, t', found, found', sameLast⟩ := agrees.last_seen
  rw [seen] at found
  rw [seen'] at found'
  cases found; cases found'
  have now : SameTime (some received) (some received') := ⟨received, received', rfl, rfl, same⟩
  rw [recurred, recurred, sameLast, same]
  split
  · exact ⟨rfl, agrees.group_key, rfl, congrArg (· + 1) agrees.generation, rfl, now, now, agrees.events⟩
  · exact ⟨rfl, agrees.group_key, congrArg (· + 1) agrees.occurrences, agrees.generation, agrees.duplicate_deliveries,
      agrees.first_seen, now, agrees.events⟩

/-- The classification of agreeing groups at one instant gives agreeing decisions. -/
theorem classify_agrees {g h : GroupState} (agrees : GroupAgrees g h) (identity fingerprint : String)
    {received received' : Datetime} (same : received.instant = received'.instant) (window : Window)
    (canonical : CanonicalAlert) :
    ∃ d e, classify g identity fingerprint received window canonical = .ok d ∧
      classify h identity fingerprint received' window canonical = .ok e ∧ DecisionAgrees d e := by
  rcases found_agrees (agrees.events identity) with ⟨left, right⟩ | ⟨r, s, left, right, equal⟩
  · obtain ⟨first, first', begun, begun', sameFirst⟩ := agrees.first_seen
    obtain ⟨last, last', seen, seen', sameLast⟩ := agrees.last_seen
    refine ⟨_, _, classify_new left begun seen _ _ _ _, classify_new right begun' seen' _ _ _ _, ?_⟩
    obtain ⟨statuses, groups⟩ := recurred_agrees agrees seen seen' same window
    rw [← statuses, sameLast, same]
    exact record_decision_agrees _ groups (by split <;> assumption) same identity fingerprint canonical
  · refine ⟨_, _, classify_known left _ _ _ _, classify_known right _ _ _ _, ?_⟩
    have records := redelivered_agrees equal fingerprint same
    exact ⟨rfl, { agrees with
      duplicate_deliveries := by simp [duplicate_decision, agrees.duplicate_deliveries]
      events := put_agrees agrees.events records }, records⟩

/-! ### The rows of a group -/

/-- What the deduplicator keeps true of its tables, with the alert ids still to come. -/
structure Stored (sha256 : Json → String) (delivered : List WazuhAlert) (pending : List UUID) (db : Database) : Prop where
  joined : ∀ event ∈ db.alert_events.rows, ∃ alert, db.alerts.get event.alert_id = some alert
  grouped : ∀ event ∈ db.alert_events.rows, ∃ row, db.alert_dedupe_groups.get event.group_key = some row
  owned : ∀ event ∈ db.alert_events.rows, Owned sha256 delivered event.event_identity event.group_key
  unused : ∀ id ∈ pending, db.alerts.get id = none
  distinct : pending.Nodup

variable {sha256 : Json → String} {delivered : List WazuhAlert}

/-- Ids that are not used up stay unused. -/
private theorem Stored.tail {id : UUID} {pending : List UUID} {db : Database}
    (stored : Stored sha256 delivered (id :: pending) db) : Stored sha256 delivered pending db where
  joined := stored.joined
  grouped := stored.grouped
  owned := stored.owned
  unused := fun other later => stored.unused other (List.mem_cons_of_mem _ later)
  distinct := (List.nodup_cons.mp stored.distinct).2

theorem events_get (db : Database) (group_key identity : String) :
    (events_for_group db group_key).get identity =
      ((db.alert_events.get identity).filter (fun event => event.group_key = group_key)).bind (joined db) := by
  rw [events_for_group, Table.get_filterMap, Table.get_filter]

/-- A group keeps its agreement when its row and the view of its event records stay. -/
private theorem agrees_of_same {g : Option GroupState} {db db' : Database} {group_key : String}
    (agrees : Option.Rel GroupAgrees g (group_state db group_key))
    (row : db'.alert_dedupe_groups.get group_key = db.alert_dedupe_groups.get group_key)
    (events : ∀ identity, ((events_for_group db' group_key).get identity).map view =
      ((events_for_group db group_key).get identity).map view) :
    Option.Rel GroupAgrees g (group_state db' group_key) := by
  rw [group_state, row]
  rw [group_state] at agrees
  cases found : db.alert_dedupe_groups.get group_key with
  | none => simpa [found] using agrees
  | some stored =>
    rw [found] at agrees
    cases agrees with
    | some agrees =>
      exact .some ⟨agrees.group_key, agrees.occurrences, agrees.generation, agrees.duplicate_deliveries,
        agrees.first_seen, agrees.last_seen, fun identity => (agrees.events identity).trans (events identity).symm⟩

private theorem prune_stored {pending : List UUID} {db : Database}
    (stored : Stored sha256 delivered pending db) (group_key : String) (received : Datetime) (window : Window) :
    Stored sha256 delivered pending (prune_events db group_key received window) where
  joined := fun event inside => stored.joined event (List.mem_of_mem_filter inside)
  grouped := fun event inside => stored.grouped event (List.mem_of_mem_filter inside)
  owned := fun event inside => stored.owned event (List.mem_of_mem_filter inside)
  unused := stored.unused
  distinct := stored.distinct

/-- The `DELETE` keeps of the group's records what the state machine would not drop. -/
private theorem pruned_events (db : Database) (group_key identity : String) (received : Datetime) (window : Window) :
    (events_for_group (prune_events db group_key received window) group_key).get identity =
      ((events_for_group db group_key).get identity).filter (fun record =>
        !(received.instant - record.last_delivered_at.instant > window.delta)) := by
  have sameJoin : joined (prune_events db group_key received window) = joined db := rfl
  rw [events_get, events_get, sameJoin, prune_events, Table.get_filter]
  cases db.alert_events.get identity with
  | none => rfl
  | some event =>
    by_cases member : event.group_key = group_key
    · cases found : joined db event with
      | none =>
        by_cases old : event.last_delivered_at < received.instant - window.delta <;>
          simp [Option.filter_some, member, old, found]
      | some record =>
        obtain ⟨alert, _, rfl⟩ := Option.map_eq_some_iff.mp found
        have last : (event_to_record event alert).last_delivered_at.instant = event.last_delivered_at := by
          simp [event_to_record]
        by_cases old : event.last_delivered_at < received.instant - window.delta
        · have expired : received.instant - event.last_delivered_at > window.delta := by omega
          simp [Option.filter_some, member, old, found, last, expired]
        · have kept : ¬ received.instant - event.last_delivered_at > window.delta := by omega
          simp [Option.filter_some, member, old, found, last, kept]
    · simp [Option.filter_some, member]

private theorem pruned_other (db : Database) {group_key other : String} (different : other ≠ group_key)
    (identity : String) (received : Datetime) (window : Window) :
    (events_for_group (prune_events db group_key received window) other).get identity =
      (events_for_group db other).get identity := by
  have sameJoin : joined (prune_events db group_key received window) = joined db := rfl
  rw [events_get, events_get, sameJoin, prune_events, Table.get_filter]
  cases db.alert_events.get identity with
  | none => rfl
  | some event =>
    by_cases member : event.group_key = other
    · simp [Option.filter_some, member, different]
    · simp [Option.filter_some, member]

/-- An identity no record of its group shows is nowhere in the table. -/
private theorem identity_fresh (collision_free : CollisionFree sha256 delivered) {pending : List UUID}
    {db : Database} (stored : Stored sha256 delivered pending db) {identity group_key : String}
    (owned : Owned sha256 delivered identity group_key) (absent : (events_for_group db group_key).get identity = none) :
    db.alert_events.get identity = none := by
  cases found : db.alert_events.get identity with
  | none => rfl
  | some event =>
    obtain ⟨inside, same⟩ := Table.get_eq_some.mp found
    obtain ⟨alert, row⟩ := stored.joined event inside
    obtain ⟨mine, mineInside, mineIdentity, mineKey⟩ := owned
    obtain ⟨theirs, theirInside, theirIdentity, theirKey⟩ := stored.owned event inside
    rw [same] at theirIdentity
    have sameKey := identity_determines_group collision_free theirInside mineInside theirIdentity mineIdentity theirKey
      mineKey
    rw [events_get, found] at absent
    simp [Option.filter_some, sameKey, joined, row] at absent

/-! ### Writing the decision -/

private theorem view_event_row (group : GroupState) (record : EventRecord) :
    view (event_to_record (event_row group record) (alert_row group record)) = view record := by
  simp [view, event_to_record, event_row, alert_row, Datetime.as_utc]

private theorem upsert_get (db : Database) (group : GroupState) (key : String) :
    (upsert_group db group).alert_dedupe_groups.get key =
      if group.group_key = key then (upsert_group db group).alert_dedupe_groups.get group.group_key
      else db.alert_dedupe_groups.get key := by
  simp only [upsert_group, Table.get_put]
  split <;> simp

private theorem events_upsert (db : Database) (group : GroupState) (key : String) :
    events_for_group (upsert_group db group) key = events_for_group db key := rfl

/-- A written group reads back as itself, when its records do. -/
private theorem written_agrees {group : GroupState} {db : Database} {first last : Datetime}
    (begun : group.first_seen = some first) (seen : group.last_seen = some last)
    (events : ∀ identity, (group.events.get identity).map view =
      ((events_for_group db group.group_key).get identity).map view) :
    Option.Rel GroupAgrees (some group) (group_state (upsert_group db group) group.group_key) := by
  rw [group_state, events_upsert]
  simp only [upsert_group, Table.get_put, ↓reduceIte, Option.map_some, begun, seen]
  refine .some ⟨rfl, rfl, rfl, rfl, ⟨first, _, begun, rfl, by simp⟩, ⟨last, _, seen, rfl, by simp⟩, events⟩

/-- Recording a new event succeeds, adds its record to its group, and leaves the other groups as they were. -/
private theorem record_writes {id : UUID} {pending : List UUID} {db : Database}
    (stored : Stored sha256 delivered (id :: pending) db) {group : GroupState} {record : EventRecord}
    (fresh : db.alert_events.get record.event_identity = none) (sameId : record.alert_id = id)
    (owned : Owned sha256 delivered record.event_identity group.group_key) :
    ∃ db', record_event db group record = .ok (upsert_group db' group) ∧
      Stored sha256 delivered pending (upsert_group db' group) ∧
      db'.alert_dedupe_groups = db.alert_dedupe_groups ∧
      ∀ key identity, ((events_for_group db' key).get identity).map view =
        if record.event_identity = identity then (if group.group_key = key then some (view record) else none)
        else ((events_for_group db key).get identity).map view := by
  subst sameId
  have newAlert : db.alerts.get record.alert_id = none := stored.unused _ (List.mem_cons_self ..)
  obtain ⟨alerts, alertAdded⟩ := Table.insert_of_fresh (t := db.alerts) (r := alert_row group record) newAlert
  obtain ⟨events, eventAdded⟩ := Table.insert_of_fresh (t := db.alert_events) (r := event_row group record) fresh
  have oldAlerts : ∀ event ∈ db.alert_events.rows, event.alert_id ≠ record.alert_id := by
    intro event inside same
    obtain ⟨alert, found⟩ := stored.joined event inside
    rw [same, newAlert] at found
    contradiction
  have unique : db.alert_events.insertUnique AlertEvent.alert_id (event_row group record) = some events :=
    Table.insertUnique_eq_some.mpr ⟨oldAlerts, eventAdded⟩
  have getAlert : ∀ other, alerts.get other = if record.alert_id = other then some (alert_row group record)
      else db.alerts.get other := fun other => Table.get_insert alertAdded other
  have getEvent : ∀ identity, events.get identity = if record.event_identity = identity then some (event_row group record)
      else db.alert_events.get identity := fun identity => Table.get_insert eventAdded identity
  have membership : ∀ event, event ∈ events.rows ↔ event ∈ db.alert_events.rows ∨ event = event_row group record :=
    fun event => Table.mem_insert eventAdded
  refine ⟨{ db with alerts, alert_events := events }, ?_, ?_, rfl, ?_⟩
  · simp only [record_event, bind_ok]
    exact ⟨alerts, Table.insertOrFail_ok.mpr alertAdded, by rw [unique]; rfl⟩
  · obtain ⟨unusedId, distinct⟩ := List.nodup_cons.mp stored.distinct
    constructor
    · intro event inside
      simp only [upsert_group] at inside ⊢
      rw [getAlert]
      rcases (membership event).mp inside with old | rfl
      · rw [if_neg (fun same => oldAlerts event old same.symm)]
        exact stored.joined event old
      · exact ⟨_, if_pos rfl⟩
    · intro event inside
      rw [upsert_get]
      split
      · simp only [upsert_group, Table.get_put, ↓reduceIte]
        exact ⟨_, rfl⟩
      · rename_i different
        rcases (membership event).mp inside with old | rfl
        · exact stored.grouped event old
        · exact absurd rfl different
    · intro event inside
      rcases (membership event).mp inside with old | rfl
      · exact stored.owned event old
      · exact owned
    · intro other later
      simp only [upsert_group]
      have different : record.alert_id ≠ other := fun same => unusedId (same.symm ▸ later)
      rw [getAlert, if_neg different]
      exact stored.unused other (List.mem_cons_of_mem _ later)
    · exact distinct
  · intro key identity
    rw [events_get, events_get]
    simp only [getEvent]
    by_cases mine : record.event_identity = identity
    · rw [if_pos mine, if_pos mine]
      by_cases sameKey : group.group_key = key
      · have join : joined { db with alerts, alert_events := events } (event_row group record) =
            some (event_to_record (event_row group record) (alert_row group record)) := by
          simp [joined, getAlert, event_row]
        have kept : decide ((event_row group record).group_key = key) = true := by simp [event_row, sameKey]
        rw [Option.filter_some, if_pos kept, Option.bind_some, join, Option.map_some, view_event_row, if_pos sameKey]
      · simp [Option.filter_some, event_row, sameKey]
    · rw [if_neg mine, if_neg mine]
      cases found : db.alert_events.get identity with
      | none => rfl
      | some event =>
        have old := oldAlerts event (Table.get_mem found)
        have join : joined { db with alerts, alert_events := events } event = joined db event := by
          simp [joined, getAlert, Ne.symm old]
        by_cases sameKey : event.group_key = key
        · simp [Option.filter_some, sameKey, join]
        · simp [Option.filter_some, sameKey]

/-- The row and the alert behind a record of a group. -/
private theorem record_origin {db : Database} {group_key identity : String} {existing : EventRecord}
    (known : (events_for_group db group_key).get identity = some existing) :
    ∃ event alert, db.alert_events.get identity = some event ∧ event.group_key = group_key ∧
      db.alerts.get event.alert_id = some alert ∧ existing = event_to_record event alert := by
  rw [events_get, Option.bind_eq_some_iff] at known
  obtain ⟨event, filtered, found⟩ := known
  obtain ⟨row, member⟩ := Option.filter_eq_some_iff.mp filtered
  obtain ⟨alert, stored, rfl⟩ := Option.map_eq_some_iff.mp found
  exact ⟨event, alert, row, by simpa using member, stored, rfl⟩

/-- Absorbing a delivery succeeds, counts it in its record, and leaves everything else as it was. -/
private theorem absorb_writes {pending : List UUID} {db : Database}
    (stored : Stored sha256 delivered pending db) {group : GroupState} {identity : String} {existing : EventRecord}
    (known : (events_for_group db group.group_key).get identity = some existing) (fingerprint : String)
    (received : Datetime) :
    ∃ db', absorb_event db group (redelivered existing fingerprint received) = .ok (upsert_group db' group) ∧
      Stored sha256 delivered pending (upsert_group db' group) ∧
      db'.alert_dedupe_groups = db.alert_dedupe_groups ∧
      ∀ key other, ((events_for_group db' key).get other).map view =
        if identity = other then
          (if group.group_key = key then some (view (redelivered existing fingerprint received)) else none)
        else ((events_for_group db key).get other).map view := by
  obtain ⟨event, alert, row, member, alertRow, rfl⟩ := record_origin known
  have rowIdentity : event.event_identity = identity := Table.get_key row
  have sameIdentity : (redelivered (event_to_record event alert) fingerprint received).event_identity = identity :=
    rowIdentity
  generalize updated : redelivered (event_to_record event alert) fingerprint received = record at sameIdentity ⊢
  have kept : ∀ event', event' ∈ (db.alert_events.modify identity (absorbed record)).rows → ∃ old ∈ db.alert_events.rows,
      event'.alert_id = old.alert_id ∧ event'.group_key = old.group_key ∧ event'.event_identity = old.event_identity := by
    intro event' inside
    rcases Table.mem_modify.mp inside with ⟨old, oldInside, _, rfl⟩ | ⟨oldInside, _⟩
    · exact ⟨old, oldInside, rfl, rfl, rfl⟩
    · exact ⟨event', oldInside, rfl, rfl, rfl⟩
  refine ⟨{ db with alert_events := db.alert_events.modify identity (absorbed record) }, ?_, ?_, rfl, ?_⟩
  · rw [absorb_event, sameIdentity, row]
  · constructor
    · intro event' inside
      obtain ⟨old, oldInside, sameAlert, _, _⟩ := kept event' inside
      rw [sameAlert]
      exact stored.joined old oldInside
    · intro event' inside
      obtain ⟨old, oldInside, _, sameGroup, _⟩ := kept event' inside
      rw [sameGroup, upsert_get]
      split
      · simp only [upsert_group, Table.get_put, ↓reduceIte]
        exact ⟨_, rfl⟩
      · exact stored.grouped old oldInside
    · intro event' inside
      obtain ⟨old, oldInside, _, sameGroup, sameEvent⟩ := kept event' inside
      rw [sameGroup, sameEvent]
      exact stored.owned old oldInside
    · exact stored.unused
    · exact stored.distinct
  · intro key other
    have join : joined { db with alert_events := db.alert_events.modify identity (absorbed record) } = joined db := rfl
    rw [events_get, events_get, join]
    by_cases mine : identity = other
    · subst mine
      have modified : (db.alert_events.modify identity (absorbed record)).get identity = some (absorbed record event) :=
        Table.get_modify_self row
      rw [if_pos rfl, modified]
      by_cases sameKey : group.group_key = key
      · have counted : joined db (absorbed record event) = some (event_to_record (absorbed record event) alert) := by
          simp [joined, absorbed, alertRow]
        have shown : view (event_to_record (absorbed record event) alert) = view record := by
          simp [view, event_to_record, absorbed, ← updated, redelivered, Datetime.as_utc]
        have chosen : decide ((absorbed record event).group_key = key) = true := by simp [absorbed, member, sameKey]
        rw [Option.filter_some, if_pos chosen, Option.bind_some, counted, Option.map_some, shown, if_pos sameKey]
      · simp [Option.filter_some, absorbed, member, sameKey]
    · have untouched : (db.alert_events.modify identity (absorbed record)).get other = db.alert_events.get other :=
        Table.get_modify_ne (Ne.symm mine)
      rw [if_neg mine, untouched]

/-! ### One delivery -/

/-- The written group agrees with the decision that wrote it, the others as before. -/
private theorem writes_agree {g d : GroupState} {db db' : Database} {groups : Table GroupState.group_key}
    {record : EventRecord} {identity : String} (decided : GroupAgrees d g)
    (agrees : ∀ key, key ≠ g.group_key → Option.Rel GroupAgrees (groups.get key) (group_state db key))
    (base : ∀ other, (g.events.get other).map view =
      if identity = other then some (view record) else ((events_for_group db g.group_key).get other).map view)
    (rows : db'.alert_dedupe_groups = db.alert_dedupe_groups)
    (elsewhere : ∀ key, key ≠ g.group_key → (events_for_group db key).get identity = none)
    (written : ∀ key other, ((events_for_group db' key).get other).map view =
      if identity = other then (if g.group_key = key then some (view record) else none)
      else ((events_for_group db key).get other).map view) :
    ∀ key, Option.Rel GroupAgrees ((groups.put d).get key) (group_state (upsert_group db' g) key) := by
  intro key
  by_cases mine : key = g.group_key
  · subst mine
    obtain ⟨_, first, _, begun, _⟩ := decided.first_seen
    obtain ⟨_, last, _, seen, _⟩ := decided.last_seen
    have read : Option.Rel GroupAgrees (some g) (group_state (upsert_group db' g) g.group_key) :=
      written_agrees begun seen (fun other => by rw [base, written, if_pos rfl])
    rw [Table.get_put, if_pos decided.group_key]
    cases stored : group_state (upsert_group db' g) g.group_key with
    | none => rw [stored] at read; cases read
    | some h =>
      rw [stored] at read
      cases read with
      | some read => exact .some (decided.trans read)
  · rw [Table.get_put, if_neg (fun same => mine (same.symm.trans decided.group_key))]
    refine agrees_of_same (agrees key mine) ?_ ?_
    · rw [upsert_get, if_neg (fun same => mine same.symm), rows]
    · intro other
      rw [events_upsert, written]
      by_cases same : identity = other
      · subst same
        rw [if_pos rfl, if_neg (fun same => mine same.symm), elsewhere key mine]
        rfl
      · rw [if_neg same]

private theorem no_events {pending : List UUID} {db : Database}
    (stored : Stored sha256 delivered pending db) {group_key : String}
    (untracked : db.alert_dedupe_groups.get group_key = none)
    (identity : String) : (events_for_group db group_key).get identity = none := by
  cases found : (events_for_group db group_key).get identity with
  | none => rfl
  | some record =>
    obtain ⟨event, _, row, member, _, _⟩ := record_origin found
    obtain ⟨tracked, present⟩ := stored.grouped event (Table.get_mem row)
    rw [member, untracked] at present
    contradiction

private theorem elsewhere_none {db : Database} {identity group_key : String} {existing : EventRecord}
    (known : (events_for_group db group_key).get identity = some existing) {key : String} (different : key ≠ group_key) :
    (events_for_group db key).get identity = none := by
  obtain ⟨event, _, row, member, _, _⟩ := record_origin known
  rw [events_get, row, Option.filter_some, if_neg (by simpa [member] using Ne.symm different)]
  rfl

/-- What is left of a unit of work once the group is loaded and the decision written. -/
private theorem deliver_ok {db db' : Database} {group_key identity fingerprint : String} {received : Datetime}
    {window : Window} {canonical : CanonicalAlert} {e : DeliveryDecision}
    (decided : decide_delivery (group_state (prune_events db group_key received window) group_key) group_key identity
      fingerprint received window canonical = .ok e)
    (written : (if e.status = .EXACT_DUPLICATE then
        absorb_event (prune_events db group_key received window) e.group e.record
      else record_event (prune_events db group_key received window) e.group e.record) = .ok db') :
    deliver window group_key identity fingerprint received canonical db =
      .ok (e, db'.append (Audit.audit_entries_for_decision e) received.instant) := by
  by_cases duplicate : e.status = .EXACT_DUPLICATE
  · rw [if_pos duplicate] at written
    simp only [deliver, load_state, decided, duplicate, written, bind, Except.bind, ↓reduceIte]
    rfl
  · rw [if_neg duplicate] at written
    simp only [deliver, load_state, decided, duplicate, written, bind, Except.bind, ↓reduceIte]
    rfl

private theorem appended_stored {pending : List UUID} {db : Database}
    (stored : Stored sha256 delivered pending db) (entries : List Audit.AuditEntry) (occurred_at : Int) :
    Stored sha256 delivered pending (db.append entries occurred_at) :=
  ⟨stored.joined, stored.grouped, stored.owned, stored.unused, stored.distinct⟩

section
variable {groups : Table GroupState.group_key} {db : Database} {canonical : CanonicalAlert}
  {pending : List UUID} {identity group_key fingerprint : String} {received : Datetime} {window : Window}
  {d e : DeliveryDecision} {base : Table EventRecord.event_identity}

/-- A decision that records a new event commits and keeps the agreement of every group. -/
private theorem record_commits (collision_free : CollisionFree sha256 delivered)
    (pruned : Stored sha256 delivered (canonical.alert_id :: pending) (prune_events db group_key received window))
    (others : ∀ key, key ≠ group_key → Option.Rel GroupAgrees (groups.get key)
      (group_state (prune_events db group_key received window) key))
    (owned : Owned sha256 delivered identity group_key)
    (decided : decide_delivery (group_state (prune_events db group_key received window) group_key) group_key identity
      fingerprint received window canonical = .ok e)
    (decision : DecisionAgrees d e) (sameGroup : e.group.group_key = group_key)
    (sameIdentity : e.record.event_identity = identity) (sameId : e.record.alert_id = canonical.alert_id)
    (new : e.status ≠ .EXACT_DUPLICATE) (events : e.group.events = base.put e.record)
    (loaded : ∀ other, (base.get other).map view =
      ((events_for_group (prune_events db group_key received window) group_key).get other).map view)
    (absent : (events_for_group (prune_events db group_key received window) group_key).get identity = none) :
    ∃ db', deliver window group_key identity fingerprint received canonical db = .ok (e, db') ∧
      Stored sha256 delivered pending db' ∧
      ∀ key, Option.Rel GroupAgrees ((groups.put d.group).get key) (group_state db' key) := by
  have fresh := identity_fresh collision_free pruned owned absent
  subst sameGroup sameIdentity
  obtain ⟨after, written, kept, rows, views⟩ := record_writes pruned fresh sameId owned
  refine ⟨_, deliver_ok decided (by rw [if_neg new]; exact written), appended_stored kept _ _,
    writes_agree decision.group others ?_ rows ?_ views⟩
  · intro other
    rw [events, Table.get_put]
    split
    · rfl
    · exact loaded other
  · intro key _
    rw [events_get, fresh]
    rfl

/-- A decision that absorbs a delivery commits and keeps the agreement of every group. -/
private theorem absorb_commits {existing : EventRecord}
    (pruned : Stored sha256 delivered pending (prune_events db group_key received window))
    (others : ∀ key, key ≠ group_key → Option.Rel GroupAgrees (groups.get key)
      (group_state (prune_events db group_key received window) key))
    (decided : decide_delivery (group_state (prune_events db group_key received window) group_key) group_key identity
      fingerprint received window canonical = .ok e)
    (decision : DecisionAgrees d e) (sameGroup : e.group.group_key = group_key)
    (duplicate : e.status = .EXACT_DUPLICATE) (record : e.record = redelivered existing fingerprint received)
    (events : e.group.events = base.put e.record)
    (loaded : ∀ other, (base.get other).map view =
      ((events_for_group (prune_events db group_key received window) group_key).get other).map view)
    (known : (events_for_group (prune_events db group_key received window) group_key).get identity = some existing) :
    ∃ db', deliver window group_key identity fingerprint received canonical db = .ok (e, db') ∧
      Stored sha256 delivered pending db' ∧
      ∀ key, Option.Rel GroupAgrees ((groups.put d.group).get key) (group_state db' key) := by
  subst sameGroup
  have existingIdentity : existing.event_identity = identity := Table.get_key known
  have sameIdentity : e.record.event_identity = identity := by rw [record]; exact existingIdentity
  obtain ⟨after, written, kept, rows, views⟩ := absorb_writes pruned known fingerprint received
  rw [← record] at written views
  refine ⟨_, deliver_ok decided (by rw [if_pos duplicate]; exact written), appended_stored kept _ _,
    writes_agree decision.group others ?_ rows ?_ views⟩
  · intro other
    rw [events, Table.get_put, sameIdentity]
    split
    · rfl
    · exact loaded other
  · intro key different
    exact elsewhere_none known different

end

/-- One unit of work decides as the state machine does on an agreeing group, commits, and keeps the agreement. -/
private theorem deliver_simulates (collision_free : CollisionFree sha256 delivered)
    {groups : Table GroupState.group_key} {db : Database} {canonical : CanonicalAlert} {pending : List UUID}
    (stored : Stored sha256 delivered (canonical.alert_id :: pending) db)
    (agrees : ∀ key, Option.Rel GroupAgrees (groups.get key) (group_state db key)) {identity group_key : String}
    (owned : Owned sha256 delivered identity group_key) (fingerprint : String) {received received' : Datetime}
    (same : received.instant = received'.instant) (window : Window) :
    ∃ d e db', decide_delivery (groups.get group_key) group_key identity fingerprint received window canonical = .ok d ∧
      deliver window group_key identity fingerprint received' canonical db = .ok (e, db') ∧ DecisionAgrees d e ∧
      Stored sha256 delivered pending db' ∧
      ∀ key, Option.Rel GroupAgrees ((groups.put d.group).get key) (group_state db' key) := by
  have pruned := prune_stored stored group_key received' window
  have others : ∀ key, key ≠ group_key → Option.Rel GroupAgrees (groups.get key)
      (group_state (prune_events db group_key received' window) key) := fun key different =>
    agrees_of_same (agrees key) rfl (fun other => by rw [pruned_other db different])
  have mine := agrees group_key
  rw [group_state] at mine
  cases tracked : db.alert_dedupe_groups.get group_key with
  | none =>
    rw [tracked] at mine
    cases untracked : groups.get group_key with
    | some g => rw [untracked] at mine; cases mine
    | none =>
      have rowless : (prune_events db group_key received' window).alert_dedupe_groups.get group_key = none := tracked
      have unloaded : group_state (prune_events db group_key received' window) group_key = none := by
        rw [group_state, rowless]; rfl
      have empty := no_events pruned rowless
      have begun : GroupAgrees (started group_key received) (started group_key received') :=
        ⟨rfl, rfl, rfl, rfl, ⟨_, _, rfl, rfl, same⟩, ⟨_, _, rfl, rfl, same⟩, fun _ => rfl⟩
      have decision : DecisionAgrees
          (record_decision .NEW_GENERATION none (started group_key received) received identity fingerprint received canonical)
          (record_decision .NEW_GENERATION none (started group_key received') received' identity fingerprint received'
            canonical) := record_decision_agrees _ begun same same _ _ _
      have decided : decide_delivery (group_state (prune_events db group_key received' window) group_key) group_key
          identity fingerprint received' window canonical = .ok (record_decision .NEW_GENERATION none
            (started group_key received') received' identity fingerprint received' canonical) := by
        rw [unloaded]; exact decide_delivery_none _ _ _ _ _ _
      have nothing : ∀ other, ((Table.empty : Table EventRecord.event_identity).get other).map view =
          ((events_for_group (prune_events db group_key received' window) group_key).get other).map view :=
        fun other => by rw [empty other]; rfl
      obtain ⟨db', executed, storedAfter, agreesAfter⟩ := record_commits collision_free pruned others owned decided decision
        rfl rfl rfl (by simp [record_decision]) rfl nothing (empty identity)
      exact ⟨_, _, db', decide_delivery_none _ _ _ _ _ _, executed, decision, storedAfter, agreesAfter⟩
  | some row =>
    rw [tracked, Option.map_some] at mine
    cases known : groups.get group_key with
    | none => rw [known] at mine; cases mine
    | some g =>
      rw [known] at mine
      cases mine with
      | some mine =>
        have read : group_state (prune_events db group_key received' window) group_key =
            some (restored row (events_for_group (prune_events db group_key received' window) group_key)) := by
          rw [group_state]
          show (db.alert_dedupe_groups.get group_key).map _ = _
          rw [tracked, Option.map_some]
        -- pruning what the `DELETE` left drops nothing more
        have pruneAgain : ∀ other, (prune_expired (restored row
            (events_for_group (prune_events db group_key received' window) group_key)) received' window).events.get other =
              (events_for_group (prune_events db group_key received' window) group_key).get other := by
          intro other
          rw [prune_expired_get]
          simp only [restored, pruned_events, Option.filter_filter, Bool.and_self]
        have both : GroupAgrees (prune_expired g received window) (prune_expired (restored row
            (events_for_group (prune_events db group_key received' window) group_key)) received' window) := by
          have agreed := prune_agrees mine same window
          refine { agreed with events := fun other => (agreed.events other).trans ?_ }
          rw [pruneAgain, pruned_events, prune_expired_get]
          rfl
        obtain ⟨d, e, decided, decided', decision⟩ := classify_agrees both identity fingerprint same window canonical
        have loaded : decide_delivery (group_state (prune_events db group_key received' window) group_key) group_key
            identity fingerprint received' window canonical = .ok e := by rw [read]; exact decided'
        have sameKey : row.group_key = group_key := Table.get_key tracked
        have kept : ∀ other, ((prune_expired (restored row
            (events_for_group (prune_events db group_key received' window) group_key)) received' window).events.get
              other).map view =
            ((events_for_group (prune_events db group_key received' window) group_key).get other).map view :=
          fun other => by rw [pruneAgain]
        have done : ∃ db', deliver window group_key identity fingerprint received' canonical db = .ok (e, db') ∧
            Stored sha256 delivered pending db' ∧
            ∀ key, Option.Rel GroupAgrees ((groups.put d.group).get key) (group_state db' key) := by
          cases present : (events_for_group (prune_events db group_key received' window) group_key).get identity with
          | none =>
            obtain ⟨_, first, _, begun, _⟩ := both.first_seen
            obtain ⟨_, last, _, seen, _⟩ := both.last_seen
            rw [classify_new ((pruneAgain identity).trans present) begun seen] at decided'
            cases decided'
            have grouped : (recurred (prune_expired (restored row
                (events_for_group (prune_events db group_key received' window) group_key)) received' window) last
                received' window).2.group_key = group_key := by
              rw [recurred_group_key]; exact sameKey
            exact record_commits collision_free pruned others owned loaded decision grouped rfl rfl
              (recurred_status _ _ _ _) (by rw [record_decision, recurred_events]) kept present
          | some existing =>
            rw [classify_known ((pruneAgain identity).trans present)] at decided'
            cases decided'
            exact absorb_commits (Stored.tail pruned) others loaded decision sameKey rfl rfl rfl kept present
        obtain ⟨db', executed, storedAfter, agreesAfter⟩ := done
        exact ⟨d, e, db', decided, executed, decision, storedAfter, agreesAfter⟩

/-! ### Deliveries and assessments in any order -/

/-- A delivery, or an assessment of a stored alert: what it writes on the payload, and the
    arguments that are not read from the row. -/
inductive Event where
  | deliver (alert : WazuhAlert) (canonical : CanonicalAlert) (received_at : Datetime)
  | assess (alert_id : UUID) (iocs : List IOC) (enrichment_status : Option String) (risk : RiskAssessment)
      (decision : Decision) (dedupe_group_key : String) (occurred_at : Int) (previous_risk : Option RiskAssessment)
      (previous_decision : Option Decision)

/-- The alert ids the deliveries bring. -/
def alert_ids : List Event → List UUID
  | [] => []
  | .deliver _ canonical _ :: rest => canonical.alert_id :: alert_ids rest
  | .assess .. :: rest => alert_ids rest

/-- The alerts the deliveries bring. -/
def alerts_of : List Event → List WazuhAlert
  | [] => []
  | .deliver alert _ _ :: rest => alert :: alerts_of rest
  | .assess .. :: rest => alerts_of rest

def memory_step (sha256 : Json → String) (self : InMemoryDeduplicator) :
    Event → Option (Except Error DedupeOutcome) × InMemoryDeduplicator
  | .deliver alert canonical received_at =>
    match self.process sha256 alert canonical received_at with
    | .error e => (some (.error e), self)
    | .ok (outcome, self) => (some (.ok outcome), self)
  | .assess .. => (none, self)

/-- The payload an assessment writes over a stored one. -/
def assessed (canonical : CanonicalAlert) (iocs : List IOC) (enrichment_status : Option String) (risk : RiskAssessment)
    (decision : Decision) : CanonicalAlert :=
  { canonical with iocs, enrichment_status, risk := some risk, decision := some decision }

def stored_step (sha256 : Json → String) (window : Window) (db : Database) :
    Event → Option (Except Error DedupeOutcome) × Database
  | .deliver alert canonical received_at =>
    let (result, db) := process sha256 window alert canonical received_at false db
    (some result, db)
  | .assess alert_id iocs enrichment_status risk decision dedupe_group_key occurred_at previous_risk previous_decision =>
    match db.alerts.get alert_id with
    | none => (none, db)
    | some alert =>
      (none, (Assessment.persist_assessment {
        alert_id
        canonical := assessed alert.normalized_payload iocs enrichment_status risk decision
        risk, decision, dedupe_group_key, occurred_at, previous_risk, previous_decision } false db).2)

/-- The two deduplicators after the same events, with those still to come. -/
structure Simulates (sha256 : Json → String) (delivered : List WazuhAlert) (window : Window) (events : List Event)
    (memory : InMemoryDeduplicator) (db : Database) : Prop where
  window : memory.window = window
  coming : ∀ alert ∈ alerts_of events, alert ∈ delivered
  stored : Stored sha256 delivered (alert_ids events) db
  agrees : ∀ key, Option.Rel GroupAgrees (memory.groups.get key) (group_state db key)

private theorem dedupe_info_agrees {g h : GroupState} (agrees : GroupAgrees g h) (identity : String) :
    ∃ a b, dedupe_info g identity = .ok a ∧ dedupe_info h identity = .ok b ∧ utc a = utc b := by
  obtain ⟨first, first', begun, begun', sameFirst⟩ := agrees.first_seen
  obtain ⟨last, last', seen, seen', sameLast⟩ := agrees.last_seen
  exact ⟨_, _, dedupe_info_ok identity begun seen, dedupe_info_ok identity begun' seen',
    snapshot_agrees agrees sameFirst sameLast identity⟩

/-- A delivery is refused by both deduplicators, or by neither and with agreeing outcomes. -/
private theorem process_simulates (collision_free : CollisionFree sha256 delivered) {window : Window}
    {alert : WazuhAlert} {canonical : CanonicalAlert} {received_at : Datetime} {events : List Event}
    {memory : InMemoryDeduplicator} {db : Database}
    (related : Simulates sha256 delivered window (.deliver alert canonical received_at :: events) memory db) :
    Option.Rel ResultAgrees (memory_step sha256 memory (.deliver alert canonical received_at)).1
      (stored_step sha256 window db (.deliver alert canonical received_at)).1 ∧
    Simulates sha256 delivered window events (memory_step sha256 memory (.deliver alert canonical received_at)).2
      (stored_step sha256 window db (.deliver alert canonical received_at)).2 := by
  have coming : ∀ other ∈ alerts_of events, other ∈ delivered :=
    fun other later => related.coming other (List.mem_cons_of_mem _ later)
  have unchanged : Simulates sha256 delivered window events memory db :=
    ⟨related.window, coming, related.stored.tail, related.agrees⟩
  simp only [memory_step, stored_step]
  cases keys : delivery_keys sha256 alert with
  | error e =>
    obtain ⟨message, rfl⟩ := refuses_delivery_keys sha256 alert e keys
    rw [Deduplication.process_refused keys, PersistentDeduplication.process_refused keys]
    exact ⟨.some ⟨rfl, message, rfl⟩, unchanged⟩
  | ok value =>
    obtain ⟨identity, group_key, fingerprint⟩ := value
    cases zoned : received_at.aware with
    | false =>
      rw [Deduplication.process_naive keys zoned, PersistentDeduplication.process_naive keys zoned]
      exact ⟨.some ⟨rfl, _, rfl⟩, unchanged⟩
    | true =>
      have owned := delivery_keys_ok (related.coming alert (List.mem_cons_self ..)) keys
      obtain ⟨d, e, db', decided, executed, decision, stored, agrees⟩ := deliver_simulates collision_free related.stored
        related.agrees owned fingerprint (Datetime.instant_as_utc received_at) window
      obtain ⟨a, b, info, info', dedupe⟩ := dedupe_info_agrees decision.group identity
      rw [← related.window] at decided
      rw [Deduplication.process_ok keys zoned decided info, process_committed keys zoned executed info']
      obtain ⟨_, alert_ids, _, _, _, _, canonicals⟩ := view_fields decision.record
      exact ⟨.some ⟨decision.status, alert_ids, decision.group.group_key, rfl, dedupe, canonicals⟩,
        ⟨related.window, coming, stored, agrees⟩⟩

/-- What the deduplicator reads of an alert row does not change in an assessment. -/
private theorem assess_joined {db db' : Database} {request : Assessment.Request} {incident_id : Option String}
    (committed : Assessment.Committed request db incident_id db') {alert : Alert}
    (found : db.alerts.get request.alert_id = some alert)
    (same : preserved request.canonical = preserved alert.normalized_payload) (event : AlertEvent) :
    (joined db' event).map view = (joined db event).map view := by
  rw [joined, joined, committed.alerts]
  by_cases mine : event.alert_id = request.alert_id
  · rw [if_pos mine, mine, found]
    simp [view, event_to_record, Assessment.assessed_row, same]
  · rw [if_neg mine]

/-- An assessment of a stored alert keeps both deduplicators as they are. -/
private theorem assess_simulates {window : Window} {events : List Event}
    {memory : InMemoryDeduplicator} {db db' : Database} (related : Simulates sha256 delivered window events memory db)
    {request : Assessment.Request} {incident_id : Option String}
    (committed : Assessment.Committed request db incident_id db') {alert : Alert}
    (found : db.alerts.get request.alert_id = some alert)
    (same : preserved request.canonical = preserved alert.normalized_payload) :
    Simulates sha256 delivered window events memory db' := by
  obtain ⟨sameEvents, sameGroups, _, _⟩ := committed.frame
  refine ⟨related.window, related.coming, ?_, fun key => agrees_of_same (related.agrees key) (by rw [sameGroups]) ?_⟩
  · constructor
    · intro event inside
      rw [sameEvents] at inside
      obtain ⟨row, stored⟩ := related.stored.joined event inside
      rw [committed.alerts]
      split
      · rw [found]; exact ⟨_, rfl⟩
      · exact ⟨row, stored⟩
    · rw [sameEvents, sameGroups]; exact related.stored.grouped
    · rw [sameEvents]; exact related.stored.owned
    · intro id later
      have unused := related.stored.unused id later
      have other : id ≠ request.alert_id := by
        rintro rfl
        rw [found] at unused
        contradiction
      rw [committed.alerts, if_neg other]
      exact unused
    · exact related.stored.distinct
  · intro identity
    rw [events_get, events_get, sameEvents]
    cases (db.alert_events.get identity).filter (fun event => event.group_key = key) with
    | none => rfl
    | some event => exact assess_joined committed found same event

private theorem persist_simulates {window : Window} {events : List Event}
    {memory : InMemoryDeduplicator} {db : Database} (related : Simulates sha256 delivered window events memory db)
    {request : Assessment.Request} {alert : Alert} (found : db.alerts.get request.alert_id = some alert)
    (same : preserved request.canonical = preserved alert.normalized_payload) :
    Simulates sha256 delivered window events memory (Assessment.persist_assessment request false db).2 := by
  rcases Assessment.persist_assessment_cases request false db with ⟨_, db', executed, _, done⟩ | ⟨_, executed, _⟩
  · rw [executed]
    exact assess_simulates related (Assessment.assess_ok done).2 found same
  · rw [executed]
    exact related

private theorem step_simulates (collision_free : CollisionFree sha256 delivered) (window : Window)
    (event : Event) (events : List Event) (memory : InMemoryDeduplicator) (db : Database)
    (related : Simulates sha256 delivered window (event :: events) memory db) :
    Option.Rel ResultAgrees (memory_step sha256 memory event).1 (stored_step sha256 window db event).1 ∧
      Simulates sha256 delivered window events (memory_step sha256 memory event).2
        (stored_step sha256 window db event).2 := by
  cases event with
  | deliver alert canonical received_at => exact process_simulates collision_free related
  | assess alert_id iocs enrichment_status risk decision dedupe_group_key occurred_at previous_risk previous_decision =>
    have still : Simulates sha256 delivered window events memory db :=
      ⟨related.window, related.coming, related.stored, related.agrees⟩
    simp only [memory_step, stored_step]
    cases found : db.alerts.get alert_id with
    | none => exact ⟨.none, still⟩
    | some alert => exact ⟨.none, persist_simulates still found rfl⟩

/-- One event delivered, assessed, and delivered again from another offset. -/
def redelivery : List Event :=
  [.deliver (failed_login 1) (failed_login_alert "a1" ⟨0, some 0⟩) ⟨0, some 0⟩,
   .assess "a1" [] (some "skipped") { score := 20, tier := .LOW, engine_version := "1", factors := [], summary := "" }
     { action := .MONITOR, decided_at := ⟨0, some 0⟩ } "wazuh:5710:001" 0 none none,
   .deliver (failed_login 2) (failed_login_alert "a2" ⟨7260000000, some 7200000000⟩) ⟨7260000000, some 7200000000⟩]

example : ((Runs.trace (stored_step failed_login_digest ⟨900, by decide⟩) {} redelivery).1.map
    (fun result => result.map (fun result => result.toOption.map (fun o => (o.status, o.alert_id))))) =
    [some (some (.NEW_GENERATION, "a1")), none, some (some (.EXACT_DUPLICATE, "a1"))] := by decide

end SocTriage.DedupeRefinement
