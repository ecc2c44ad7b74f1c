import SocTriage.DeliveryLog

/-!
The list of the alerts. Its `duplicate` filter joins the event records, and a record is gone once
its window has passed: an alert whose record was pruned is neither among the duplicates nor among
the others, whatever was absorbed into it.
-/
namespace SocTriage.AlertListing
open PersistentDeduplication
open Ingest (Pipeline)
open Notifications (N8N)
open DuplicateDelivery (expired)
open DeliveryLog

/-! ### The query -/

def DEFAULT_PAGE_LIMIT : Int := 50
def MAX_PAGE_LIMIT : Int := 200

def clamp_page (limit offset : Int) : Nat × Nat := ((min (max limit 1) MAX_PAGE_LIMIT).toNat, (max offset 0).toNat)

/-- The filters on the alert of record. -/
structure Filters where
  source : Option String := none
  incident_id : Option String := none
  rule_id : Option String := none
  agent_id : Option String := none
  tier : Option String := none
  severity : Option String := none
  dedupe_group_key : Option String := none

/-- Equality with a column or a JSON path, which nothing equals where it is null. -/
def equals (wanted column : Option String) : Bool := wanted.all (fun value => column = some value)

/-- `$.risk.tier`. -/
def risk_tier (row : Alert) : Option String := row.normalized_payload.risk.map (fun risk => risk.tier.value)

/-- `$.decision.severity`. -/
def decision_severity (row : Alert) : Option String :=
  row.normalized_payload.decision.bind (fun decision => decision.severity.map DecisionSeverity.value)

def Filters.selects (filters : Filters) (row : Alert) : Bool :=
  equals filters.source (some row.source) && equals filters.incident_id row.incident_id &&
    equals filters.rule_id (some row.rule_id) && equals filters.agent_id (some row.agent_id) &&
    equals filters.dedupe_group_key (some row.dedupe_group_key) && equals filters.tier (risk_tier row) &&
    equals filters.severity (decision_severity row)

/-- `JOIN alert_events ON alert_events.alert_id = alerts.alert_id WHERE ...`: each row as often as a record of it matches. -/
def joined (db : Database) (matching : AlertEvent → Bool) (rows : List Alert) : List Alert :=
  rows.flatMap (fun row =>
    (db.alert_events.rows.filter (fun event => event.alert_id = row.alert_id ∧ matching event)).map (fun _ => row))

/-- `delivery_count > 1`. -/
def several (event : AlertEvent) : Bool := event.delivery_count > 1

/-- `delivery_count == 1`. -/
def single (event : AlertEvent) : Bool := event.delivery_count = 1

def filter_alerts (db : Database) (filters : Filters) (duplicate : Option Bool) : List Alert :=
  let rows := db.alerts.rows.filter filters.selects
  match duplicate with
  | none => rows
  | some true => joined db several rows
  | some false => joined db single rows

/-- `ORDER BY received_at DESC, alert_id DESC`. -/
def by_newest (a b : Alert) : Prop :=
  b.received_at < a.received_at ∨ (a.received_at = b.received_at ∧ b.alert_id ≤ a.alert_id)

instance : DecidableRel by_newest := fun _ _ => inferInstanceAs (Decidable (_ ∨ _))

/-- A page of the alerts, newest first, and the number of all that the filters select. -/
def list_alerts (db : Database) (filters : Filters) (duplicate : Option Bool) (limit : Int := DEFAULT_PAGE_LIMIT)
    (offset : Int := 0) : List Alert × Nat :=
  let (limit, offset) := clamp_page limit offset
  let selected := filter_alerts db filters duplicate
  (((selected.insertionSort by_newest).drop offset).take limit, selected.length)

/-! ### What the filters should select -/

/-- Some page lists the alert. -/
def Listed (db : Database) (filters : Filters) (duplicate : Option Bool) (alert : Alert) : Prop :=
  ∃ limit offset, alert ∈ (list_alerts db filters duplicate limit offset).1

/-- A delivery was absorbed into the alert. -/
def Redelivered (log : List Entry) (alert_id : UUID) : Prop :=
  ∃ entry ∈ log, entry.alert_id = alert_id ∧ entry.recorded = false

/-- The duplicates and the others are disjoint, their totals add up, and the duplicates are the alerts that a delivery was
    ever absorbed into. -/
structure Partitioned (db : Database) (log : List Entry) (filters : Filters) : Prop where
  disjoint : ∀ alert, Listed db filters (some true) alert → ¬ Listed db filters (some false) alert
  totals : ∀ limit offset,
    (list_alerts db filters (some true) limit offset).2 + (list_alerts db filters (some false) limit offset).2 =
      (list_alerts db filters none limit offset).2
  duplicate : ∀ alert, Listed db filters (some true) alert ↔
    Listed db filters none alert ∧ Redelivered log alert.alert_id

/-- Every alert has its record. -/
def Recorded (db : Database) : Prop :=
  ∀ alert ∈ db.alerts.rows, ∃ event ∈ db.alert_events.rows, event.alert_id = alert.alert_id

/-- No record is pruned: an accepted delivery comes within the window of the last delivery of every recorded event of its
    group. -/
def Unexpired (pipeline : Pipeline) (world : World) : Service.Event → Prop
  | .ingest delivery providers faults _ =>
    accepted pipeline (LateEnrichment.enriched_delivery delivery providers) faults world.service.db ≠ none →
      ∀ identity group_key fingerprint,
        Deduplication.delivery_keys pipeline.sha256 delivery.alert = .ok (identity, group_key, fingerprint) →
        ∀ event ∈ world.service.db.alert_events.rows, expired pipeline.window group_key delivery.received_at event = false
  | _ => True

/-! ### The lists of a state -/

section
variable {db : Database} {log : List Entry} {filters : Filters}

/-- What the pages list is what the filters select. -/
private theorem listed_iff {duplicate : Option Bool} {alert : Alert} :
    Listed db filters duplicate alert ↔ alert ∈ filter_alerts db filters duplicate := by
  rw [← List.mem_insertionSort by_newest]
  constructor
  · rintro ⟨limit, offset, listed⟩
    exact List.mem_of_mem_drop (List.mem_of_mem_take listed)
  · intro selected
    obtain ⟨place, inside, same⟩ := List.getElem_of_mem selected
    refine ⟨1, place, ?_⟩
    have page : clamp_page 1 place = (1, place) := by
      simp [clamp_page, MAX_PAGE_LIMIT]
    rw [list_alerts, page]
    dsimp only
    rw [List.drop_eq_getElem_cons inside, same]
    exact List.mem_cons_self

private theorem mem_joined {matching : AlertEvent → Bool} {rows : List Alert} {alert : Alert} :
    alert ∈ joined db matching rows ↔
      alert ∈ rows ∧ ∃ event ∈ db.alert_events.rows, event.alert_id = alert.alert_id ∧ matching event = true := by
  simp only [joined, List.mem_flatMap, List.mem_map, List.mem_filter, decide_eq_true_eq]
  constructor
  · rintro ⟨row, stored, event, ⟨inside, own⟩, rfl⟩
    exact ⟨stored, event, inside, own⟩
  · rintro ⟨stored, event, inside, own⟩
    exact ⟨alert, stored, event, ⟨inside, own⟩, rfl⟩

/-- An alert has no record but its own. -/
private theorem records_own (records : Records db log) {event : AlertEvent} (inside : event ∈ db.alert_events.rows) :
    db.alert_events.rows.filter (fun other => other.alert_id = event.alert_id) = [event] := by
  have distinct : (db.alert_events.rows.filter (fun other => other.alert_id = event.alert_id)).Nodup :=
    (List.Nodup.of_map _ db.alert_events.unique).filter _
  refine List.perm_singleton.mp ((List.perm_ext_iff_of_nodup distinct (List.nodup_singleton event)).mpr (fun other => ?_))
  rw [List.mem_filter, decide_eq_true_eq, List.mem_singleton]
  constructor
  · rintro ⟨listed, shared⟩
    exact records.unique other listed event inside shared
  · rintro rfl
    exact ⟨inside, rfl⟩

/-- A record counts one delivery at least, and more than one exactly when one was absorbed into its alert. -/
private theorem redelivered_iff (records : Records db log) {event : AlertEvent} (inside : event ∈ db.alert_events.rows) :
    (several event = true ↔ Redelivered log event.alert_id) ∧ (single event = true ↔ ¬ Redelivered log event.alert_id) := by
  obtain ⟨-, ⟨repeats, first, all, recorded, again⟩, count, -, -⟩ := records.told event inside
  have entries : Redelivered log event.alert_id ↔ repeats ≠ [] := by
    have listed : ∀ entry, entry ∈ log ∧ entry.alert_id = event.alert_id ↔ entry ∈ repeats ++ [first] := by
      intro entry
      rw [← all, into, List.mem_filter, decide_eq_true_eq]
    constructor
    · rintro ⟨entry, inside, mine, absorbed⟩ none
      have only := (listed entry).mp ⟨inside, mine⟩
      rw [none, List.nil_append, List.mem_singleton] at only
      rw [only, recorded] at absorbed
      cases absorbed
    · intro some
      obtain ⟨entry, repeated⟩ := List.exists_mem_of_ne_nil repeats some
      obtain ⟨inside, mine⟩ := (listed entry).mpr (List.mem_append_left _ repeated)
      exact ⟨entry, inside, mine, again entry repeated⟩
  rw [all, List.length_append, List.length_singleton] at count
  have many : repeats ≠ [] ↔ 0 < repeats.length := List.length_pos_iff.symm
  rw [entries, many, several, single, decide_eq_true_eq, decide_eq_true_eq, count]
  omega

/-- Whether an alert has a record. -/
def has_record (db : Database) (row : Alert) : Bool := db.alert_events.rows.any (fun event => event.alert_id = row.alert_id)

private theorem has_record_iff {row : Alert} :
    has_record db row = true ↔ ∃ event ∈ db.alert_events.rows, event.alert_id = row.alert_id := by
  simp only [has_record, List.any_eq_true, decide_eq_true_eq]

/-- A record counts for one of the two lists. -/
private theorem counted_once (records : Records db log) (row : Alert) :
    let own := db.alert_events.rows.filter (fun event => event.alert_id = row.alert_id)
    (own.filter several).length + (own.filter single).length = if has_record db row then 1 else 0 := by
  intro own
  by_cases recorded : has_record db row = true
  · obtain ⟨event, inside, same⟩ := has_record_iff.mp recorded
    have only : own = [event] := by
      dsimp only [own]
      rw [← same]
      exact records_own records inside
    obtain ⟨more, once⟩ := redelivered_iff records inside
    rw [if_pos recorded, only]
    by_cases absorbed : Redelivered log event.alert_id
    · rw [List.filter_cons_of_pos (more.mpr absorbed), List.filter_cons_of_neg (fun lone => once.mp lone absorbed)]
      rfl
    · rw [List.filter_cons_of_neg (fun many => absorbed (more.mp many)), List.filter_cons_of_pos (once.mpr absorbed)]
      rfl
  · have none : own = [] := List.filter_eq_nil_iff.mpr
      (fun event inside same => recorded (has_record_iff.mpr ⟨event, inside, of_decide_eq_true same⟩))
    rw [if_neg recorded, none]
    rfl

/-- The totals of the two lists count the alerts that have a record. -/
private theorem joined_total (records : Records db log) (rows : List Alert) :
    (joined db several rows).length + (joined db single rows).length = (rows.filter (has_record db)).length := by
  induction rows with
  | nil => rfl
  | cons row rest ih =>
    have first (matching : AlertEvent → Bool) : (joined db matching (row :: rest)).length =
        ((db.alert_events.rows.filter (fun event => event.alert_id = row.alert_id)).filter matching).length +
          (joined db matching rest).length := by
      rw [joined, List.flatMap_cons, List.length_append, List.length_map, List.filter_filter]
      congr 2
      refine List.filter_congr (fun event _ => ?_)
      rw [Bool.decide_and, Bool.decide_eq_true, Bool.and_comm]
    have once := counted_once records row
    dsimp only at once
    rw [first, first, List.filter_cons]
    split
    · rename_i recorded
      rw [if_pos recorded] at once
      rw [List.length_cons]
      omega
    · rename_i unrecorded
      rw [if_neg unrecorded] at once
      omega

/-- The filter does what it should exactly when every alert still has its record. -/
theorem partitioned_iff (records : Records db log) : (∀ filters, Partitioned db log filters) ↔ Recorded db := by
  constructor
  · intro partitioned alert stored
    have total := (partitioned {}).totals DEFAULT_PAGE_LIMIT 0
    have every : db.alerts.rows.filter ({} : Filters).selects = db.alerts.rows :=
      List.filter_eq_self.mpr (fun _ _ => rfl)
    change (joined db several (db.alerts.rows.filter _)).length + (joined db single (db.alerts.rows.filter _)).length =
      (db.alerts.rows.filter _).length at total
    rw [every, joined_total records, List.length_filter_eq_length_iff] at total
    exact has_record_iff.mp (total alert stored)
  · intro recorded filters
    refine ⟨fun alert => ?_, fun limit offset => ?_, fun alert => ?_⟩
    · rw [listed_iff, listed_iff, filter_alerts, filter_alerts, mem_joined, mem_joined]
      rintro ⟨-, event, inside, own, many⟩ ⟨-, event', inside', own', once⟩
      rw [← records.unique event inside event' inside' (own.trans own'.symm)] at once
      obtain ⟨more, only⟩ := redelivered_iff records inside
      exact only.mp once (more.mp many)
    · change (joined db several (db.alerts.rows.filter _)).length + (joined db single (db.alerts.rows.filter _)).length =
        (db.alerts.rows.filter _).length
      rw [joined_total records, List.length_filter_eq_length_iff]
      intro alert selected
      exact has_record_iff.mpr (recorded alert (List.mem_filter.mp selected).1)
    · rw [listed_iff, listed_iff, filter_alerts, filter_alerts, mem_joined]
      refine and_congr_right (fun selected => ?_)
      obtain ⟨event, inside, own⟩ := recorded alert (List.mem_filter.mp selected).1
      rw [← own, ← (redelivered_iff records inside).1]
      constructor
      · rintro ⟨other, listed, shared, many⟩
        rw [← records.unique other listed event inside shared]
        exact many
      · exact fun many => ⟨event, inside, rfl, many⟩
end

/-! ### Runs -/

section
variable {window : Deduplication.Window} {group_key identity fingerprint : String} {received : Datetime}
  {canonical : CanonicalAlert} {decision : Deduplication.DeliveryDecision} {db db' : Database} {log : List Entry}

private theorem Apart.recorded (apart : Apart db db') (recorded : Recorded db) : Recorded db' := by
  intro alert stored
  obtain ⟨old, before, same⟩ := apart.symm.kept stored
  obtain ⟨event, inside, own⟩ := recorded old before
  have events : db'.alert_events = db.alert_events := congrArg Prod.snd apart.recurrence
  rw [events]
  exact ⟨event, inside, own.trans (congrArg Prod.fst same)⟩

private theorem Apart.recorded_iff (apart : Apart db db') : Recorded db' ↔ Recorded db :=
  ⟨Apart.recorded apart.symm, Apart.recorded apart⟩

/-- Pruning leaves every alert its record exactly when it removes none. -/
private theorem pruned_iff (records : Records db log) (group_key : String) (received : Datetime)
    (window : Deduplication.Window) :
    (∀ alert ∈ db.alerts.rows, ∃ event ∈ (prune_events db group_key received window).alert_events.rows,
      event.alert_id = alert.alert_id) ↔
    Recorded db ∧ ∀ event ∈ db.alert_events.rows, expired window group_key received event = false := by
  have left {event : AlertEvent} : event ∈ (prune_events db group_key received window).alert_events.rows ↔
      event ∈ db.alert_events.rows ∧ expired window group_key received event = false := by
    rw [← Bool.not_eq_true']
    exact List.mem_filter
  constructor
  · intro recorded
    constructor
    · intro alert stored
      obtain ⟨event, kept, own⟩ := recorded alert stored
      exact ⟨event, (left.mp kept).1, own⟩
    · intro event inside
      obtain ⟨alert, stored, own, -⟩ := records.owned event inside
      obtain ⟨other, kept, same⟩ := recorded alert stored
      rw [← records.unique other (left.mp kept).1 event inside (same.trans own)]
      exact (left.mp kept).2
  · rintro ⟨recorded, unexpired⟩ alert stored
    obtain ⟨event, inside, own⟩ := recorded alert stored
    exact ⟨event, left.mpr ⟨inside, unexpired event inside⟩, own⟩

private theorem absorbed_recorded (records : Records db log)
    (executed : deliver window group_key identity fingerprint received canonical db = .ok (decision, db'))
    (duplicate : decision.status = .EXACT_DUPLICATE) :
    Recorded db' ↔ Recorded db ∧ ∀ event ∈ db.alert_events.rows, expired window group_key received event = false := by
  obtain ⟨alerts, events⟩ := deliver_absorbed executed duplicate
  have ids : db'.alert_events.rows.map AlertEvent.alert_id =
      (prune_events db group_key received window).alert_events.rows.map AlertEvent.alert_id := by
    rw [events]
    exact Table.map_modify _ _ _ _ (fun _ _ _ => rfl)
  rw [← pruned_iff records, Recorded, alerts]
  refine forall₂_congr (fun alert _ => ?_)
  rw [← List.mem_map, ← List.mem_map, ids]

private theorem new_recorded (records : Records db log)
    (executed : deliver window group_key identity fingerprint received canonical db = .ok (decision, db'))
    (distinct : decision.status ≠ .EXACT_DUPLICATE) :
    Recorded db' ↔ Recorded db ∧ ∀ event ∈ db.alert_events.rows, expired window group_key received event = false := by
  obtain ⟨_, -, -, inserted, inserted_event, -⟩ := deliver_new executed distinct
  obtain ⟨-, inserted_row⟩ := Table.insertUnique_eq_some.mp inserted_event
  rw [← pruned_iff records]
  constructor
  · intro recorded alert stored
    obtain ⟨event, listed, own⟩ := recorded alert ((Table.mem_insert inserted).mpr (.inl stored))
    rcases (Table.mem_insert inserted_row).mp listed with left | rfl
    · exact ⟨event, left, own⟩
    · exact absurd own.symm (Table.get_eq_none.mp (Table.insert_fresh inserted) alert stored)
  · intro recorded alert stored
    rcases (Table.mem_insert inserted).mp stored with before | rfl
    · obtain ⟨event, left, own⟩ := recorded alert before
      exact ⟨event, (Table.mem_insert inserted_row).mpr (.inl left), own⟩
    · exact ⟨_, (Table.mem_insert inserted_row).mpr (.inr rfl), rfl⟩
end

/-- A step leaves every alert its record exactly when each had one and none is pruned. -/
theorem step_recorded (pipeline : Pipeline) (n8n : N8N) (world : World) (event : Service.Event)
    (records : Records world.service.db world.log) :
    Recorded (step pipeline n8n world event).service.db ↔ Recorded world.service.db ∧ Unexpired pipeline world event := by
  by_cases delivery : ∃ delivery providers faults step_faults, event = .ingest delivery providers faults step_faults
  · obtain ⟨delivery, providers, faults, step_faults, rfl⟩ := delivery
    have apart := handled_apart pipeline n8n (LateEnrichment.enriched_delivery delivery providers) faults step_faults
      world.service
    rw [step_ingest]
    dsimp only
    rw [Apart.recorded_iff apart]
    rcases process_accepted pipeline (LateEnrichment.enriched_delivery delivery providers) faults world.service.db with
      ⟨refused, same⟩ | ⟨identity, group_key, fingerprint, decision, db', keys, executed, taken, same⟩
    · rw [same]
      exact (and_iff_left (fun accepted => absurd refused accepted)).symm
    · rw [same]
      have unexpired : Unexpired pipeline world (.ingest delivery providers faults step_faults) ↔
          ∀ event ∈ world.service.db.alert_events.rows,
            expired pipeline.window group_key delivery.received_at event = false := by
        constructor
        · intro none
          exact none (by rw [taken]; exact Option.some_ne_none _) identity group_key fingerprint keys
        · intro none _ identity' group_key' fingerprint' keys'
          cases keys.symm.trans keys'
          exact none
      rw [unexpired]
      by_cases duplicate : decision.status = .EXACT_DUPLICATE
      · exact absorbed_recorded records executed duplicate
      · exact new_recorded records executed duplicate
  · have other : ∀ delivery providers faults step_faults, event ≠ .ingest delivery providers faults step_faults :=
      fun d p f s same => delivery ⟨d, p, f, s, same⟩
    have apart := other_apart pipeline n8n world.service event other
    have permitted : Unexpired pipeline world event := by
      cases event with
      | ingest d p f s => exact absurd rfl (other d p f s)
      | _ => trivial
    exact (Apart.recorded_iff apart).trans (and_iff_left permitted).symm

/-- In every state the service reaches, the `duplicate` filter splits the alerts of the other filters into those that a
    delivery was absorbed into and those that none was, exactly when no delivery on the way pruned a record. -/
theorem duplicate_filter_iff (pipeline : Pipeline) (n8n : N8N) (events : List Service.Event) :
    (∀ filters, Partitioned (after pipeline n8n events).service.db (after pipeline n8n events).log filters) ↔
      Runs.Along (step pipeline n8n) (Unexpired pipeline) {} events := by
  rw [partitioned_iff (after_records pipeline n8n events)]
  have lost := @Runs.run_iff_along _ _ (step pipeline n8n) (Unexpired pipeline)
    (fun world => Service.Steady world.service.db ∧ Records world.service.db world.log)
    (fun world => Recorded world.service.db)
    (fun world event kept => ⟨Service.step_steady pipeline n8n world.service event kept.1,
      step_records pipeline n8n world event kept.1.timed kept.2⟩)
    (fun world event kept => step_recorded pipeline n8n world event kept.2) {} events
    ⟨Service.after_steady pipeline n8n [], after_records pipeline n8n []⟩
  exact lost.trans (and_iff_right (fun _ none => absurd none List.not_mem_nil))

/-- A failed login, its re-delivery a second later, and the same event again long after the window. -/
def login_returns : List Service.Event :=
  [("a1", 0), ("a2", 1000000), ("a3", 2000000000)].map (fun (alert_id, received_at) =>
    .ingest (Ingest.failed_login_delivery alert_id received_at) [] {} {})

/-- The first alert, which took the re-delivery, is then in neither list. -/
theorem pruned_alert_unlisted : ¬ ∀ (pipeline : Pipeline) (n8n : N8N) (events : List Service.Event) (filters : Filters),
    Partitioned (after pipeline n8n events).service.db (after pipeline n8n events).log filters := by
  intro always
  have totals := (always Ingest.alarming DuplicateDelivery.accepting login_returns {}).totals DEFAULT_PAGE_LIMIT 0
  revert totals
  decide +kernel

end SocTriage.AlertListing
