import SocTriage.DedupeHistory
import SocTriage.Scoring

/-!
Recurrence points over runs of deliveries. The deduplicator keeps of a generation how many events
it has and when the first and the last of them came; so a rule counts all of them or none, and a
burst is not rewarded any more once its generation has begun before the rule's window.
-/
namespace SocTriage.BurstScore
open Deduplication DedupeHistory Scoring Policies

/-! ### Runs with their log -/

/-- What an accepted delivery adds to the log. -/
def logged (delivery : Delivery) (outcome : DedupeOutcome) : Entry String String where
  identity := outcome.event_identity
  group := outcome.group_key
  time := delivery.received_at.instant
  status := outcome.status

/-- The deduplicator with the log of its answers, newest first. -/
structure World where
  memory : InMemoryDeduplicator
  log : List (Entry String String) := []

def step (sha256 : Json → String) (world : World) (delivery : Delivery) : World :=
  match world.memory.process sha256 delivery.alert delivery.canonical delivery.received_at with
  | .ok (outcome, memory) => { memory, log := logged delivery outcome :: world.log }
  | .error _ => world

/-- The distinct events of the current generation of a group that were recorded within so many seconds. -/
def recent (log : List (Entry String String)) (group : String) (now : Int) (within_seconds : Nat) :
    List (Entry String String) :=
  (distinctEvents log group).filter (fun entry => now - entry.time ≤ seconds within_seconds)

/-- Enough of them were, and with them all that the generation has. -/
def Burst (log : List (Entry String String)) (group : String) (now : Int) (rule : RecurrenceRule) : Prop :=
  rule.min_occurrences ≤ (recent log group now rule.max_window_seconds).length ∧
    ∀ entry ∈ distinctEvents log group, now - entry.time ≤ seconds rule.max_window_seconds

instance (log : List (Entry String String)) (group : String) (now : Int) (rule : RecurrenceRule) :
    Decidable (Burst log group now rule) := inferInstanceAs (Decidable (_ ∧ _))

/-! ### The counters of a group -/

/-- The counters of a group against the log. -/
def Counted (log : List (Entry String String)) (key : String) : Option GroupState → Prop
  | none => ∀ entry ∈ log, entry.group ≠ key
  | some group => group.occurrences = (distinctEvents log key).length ∧
      (∃ first, group.first_seen = some first ∧ first.aware = true ∧
        (distinctEvents log key).getLast?.map Entry.time = some first.instant) ∧
      ∃ last, group.last_seen = some last

/-- What a delivery does to its group and its log, and what its alert is scored by when it is recorded. -/
structure Delivered (log : List (Entry String String)) (key identity : String) (received : Datetime)
    (decision : DeliveryDecision) : Prop where
  group_key : decision.group.group_key = key
  counted : ∀ entry : Entry String String, entry.group = key → entry.time = received.instant →
    entry.status = decision.status → Counted (entry :: log) key (some decision.group)
  scored : decision.status ≠ .EXACT_DUPLICATE → ∃ first, decision.group.first_seen = some first ∧
    first.aware = true ∧ decision.record.canonical_alert.dedupe = some (snapshot decision.group first received identity)

private theorem Counted.other {log : List (Entry String String)} {key : String} {entry : Entry String String}
    {group : Option GroupState} (counted : Counted log key group) (other : entry.group ≠ key) :
    Counted (entry :: log) key group := by
  cases group with
  | none =>
    intro e inside
    rcases List.mem_cons.mp inside with rfl | earlier
    · exact other
    · exact counted e earlier
  | some group =>
    unfold Counted
    rw [distinctEvents_other log entry key other]
    exact counted

/-- One delivery with keys and an offset. -/
private theorem decide_delivery_delivers {log : List (Entry String String)} {group : Option GroupState} {key : String}
    (counted : Counted log key group) (own : ∀ g, group = some g → g.group_key = key) (identity fingerprint : String)
    (received : Datetime) (zoned : received.aware = true) (window : Window) (canonical : CanonicalAlert) :
    ∃ decision dedupe, decide_delivery group key identity fingerprint received window canonical = .ok decision ∧
      dedupe_info decision.group identity = .ok dedupe ∧ Delivered log key identity received decision := by
  cases group with
  | none =>
    refine ⟨_, _, decide_delivery_none key identity fingerprint received window canonical,
      dedupe_info_ok identity rfl rfl, rfl,
      ?_, fun _ => ⟨received, rfl, zoned, rfl⟩⟩
    intro entry mine now begins
    refine ⟨?_, ⟨received, rfl, zoned, ?_⟩, received, rfl⟩
    · rw [distinctEvents_started log entry key mine begins]; rfl
    · rw [distinctEvents_started log entry key mine begins, ← now]; rfl
  | some group =>
    obtain ⟨occurrences, ⟨first, begun, offset, oldest⟩, last, seen⟩ := counted
    cases known : (prune_expired group received window).events.get identity with
    | some existing =>
      refine ⟨_, _, classify_known known fingerprint received window canonical, dedupe_info_ok identity begun seen,
        own group rfl, ?_, fun distinct => absurd rfl distinct⟩
      intro entry mine now absorbed
      unfold Counted
      rw [distinctEvents_absorbed log entry key mine absorbed]
      exact ⟨occurrences, ⟨first, begun, offset, oldest⟩, last, seen⟩
    | none =>
      have decided := classify_new known begun seen fingerprint received window canonical
      by_cases expired : received.instant - last.instant > window.delta
      · rw [recurred_expired _ expired, if_pos expired] at decided
        refine ⟨_, _, decided, dedupe_info_ok identity rfl rfl, own group rfl, ?_, fun _ => ⟨received, rfl, zoned, rfl⟩⟩
        intro entry mine now begins
        refine ⟨?_, ⟨received, rfl, zoned, ?_⟩, received, rfl⟩
        · rw [distinctEvents_started log entry key mine begins]; rfl
        · rw [distinctEvents_started log entry key mine begins, ← now]; rfl
      · rw [recurred_within _ expired, if_neg expired] at decided
        refine ⟨_, _, decided, dedupe_info_ok identity begun rfl, own group rfl, ?_, fun _ => ⟨first, begun, offset, rfl⟩⟩
        intro entry mine now repeats
        have longer := distinctEvents_repeated log entry key mine repeats
        refine ⟨?_, ⟨first, begun, offset, ?_⟩, received, rfl⟩
        · rw [longer, List.length_cons, ← occurrences]; rfl
        · obtain ⟨start, found, same⟩ := Option.map_eq_some_iff.mp oldest
          rw [longer, List.getLast?_cons, found, ← same]
          rfl

/-! ### The rules of a generation -/

section
variable {log : List (Entry String String)} {key : String} {now : Int}

/-- The log is in order of reception, newest first. -/
def Ordered (log : List (Entry String String)) : Prop := log.Pairwise (fun entry earlier => earlier.time ≤ entry.time)

private theorem currentGeneration_sublist (log : List (Entry String String)) (key : String) :
    (currentGeneration key log).Sublist log := by
  induction log with
  | nil => exact List.Sublist.refl _
  | cons entry earlier ih =>
    rw [currentGeneration]
    split
    · split
      · exact List.Sublist.cons_cons _ (List.nil_sublist _)
      · exact List.Sublist.cons_cons _ ih
    · exact List.Sublist.cons _ ih

private theorem distinctEvents_ordered (ordered : Ordered log) : Ordered (distinctEvents log key) :=
  ordered.sublist (List.filter_sublist.trans (currentGeneration_sublist log key))

private theorem last_earliest {entries : List (Entry String String)} {last : Entry String String} (ordered : Ordered entries)
    (ends : entries.getLast? = some last) : ∀ entry ∈ entries, last.time ≤ entry.time := by
  obtain ⟨front, rfl⟩ := List.getLast?_eq_some_iff.mp ends
  intro entry inside
  rcases List.mem_append.mp inside with before | only
  · exact (List.pairwise_append.mp ordered).2.2 entry before last (List.mem_singleton_self last)
  · rw [List.mem_singleton.mp only]

/-- The counters say of a rule what the log does. -/
private theorem counters_burst {group : GroupState} {first : Datetime} (ordered : Ordered log)
    (counted : Counted log key (some group)) (begun : group.first_seen = some first) (rule : RecurrenceRule) :
    rule.min_occurrences ≤ group.occurrences ∧ max 0 (now - first.instant) ≤ seconds rule.max_window_seconds ↔
      Burst log key now rule := by
  obtain ⟨occurrences, ⟨first', begun', -, oldest⟩, -⟩ := counted
  cases begun.symm.trans begun'
  obtain ⟨start, ends, same⟩ := Option.map_eq_some_iff.mp oldest
  have earliest := last_earliest (distinctEvents_ordered ordered) ends
  have positive : 0 ≤ seconds rule.max_window_seconds := Int.mul_nonneg (Int.natCast_nonneg _) (by decide)
  have within : max 0 (now - first.instant) ≤ seconds rule.max_window_seconds ↔
      ∀ entry ∈ distinctEvents log key, now - entry.time ≤ seconds rule.max_window_seconds := by
    rw [max_le_iff, and_iff_right positive]
    constructor
    · intro began entry inside
      have later := earliest entry inside
      omega
    · intro each
      have began := each start (List.mem_of_getLast? ends)
      omega
  rw [within, Burst, occurrences]
  refine and_congr_left (fun each => ?_)
  have all : recent log key now rule.max_window_seconds = distinctEvents log key :=
    List.filter_eq_self.mpr (fun entry inside => decide_eq_true (each entry inside))
  rw [all]

end

/-! ### One delivery, and a run of them -/

/-- A newly recorded alert earns the points of the rules that its generation meets, up to the factor's maximum. -/
def Scored (sha256 : Json → String) (world : World) (delivery : Delivery) : Prop :=
  ∀ outcome memory, world.memory.process sha256 delivery.alert delivery.canonical delivery.received_at =
    .ok (outcome, memory) →
    outcome.status ≠ .EXACT_DUPLICATE → ∀ cfg : RecurrenceVelocityConfig,
      (recurrence_velocity_factor outcome.canonical_alert.dedupe cfg).map ScoreFactor.points =
        some ((min ((cfg.rules.filter (fun rule => Burst (logged delivery outcome :: world.log) outcome.group_key
          delivery.received_at.instant rule)).map RecurrenceRule.points).sum cfg.max : Nat) : Int)

/-- The counters of every group against the log, with the deliveries still to come. -/
structure Tracked (coming : List Delivery) (world : World) : Prop where
  counted : ∀ key, Counted world.log key (world.memory.groups.get key)
  later : ∀ time ∈ received coming, ∀ entry ∈ world.log, entry.time ≤ time
  ordered : (received coming).Pairwise (· ≤ ·)
  in_order : Ordered world.log

section
variable {sha256 : Json → String} {world : World} {delivery : Delivery} {coming : List Delivery}

/-- A refused delivery changes nothing. -/
private theorem Tracked.skip (tracked : Tracked (delivery :: coming) world) : Tracked coming world :=
  ⟨tracked.counted, fun time inside => tracked.later time (received_still inside), received_ordered tracked.ordered,
    tracked.in_order⟩

private theorem refused_scored (tracked : Tracked (delivery :: coming) world) {e : Error}
    (refused : world.memory.process sha256 delivery.alert delivery.canonical delivery.received_at = .error e) :
    Scored sha256 world delivery ∧ Tracked coming (step sha256 world delivery) := by
  constructor
  · intro outcome memory processed
    cases refused.symm.trans processed
  · rw [step, refused]
    exact tracked.skip

/-- A delivery is scored by its generation, and leaves the counters as the log has them. -/
private theorem step_scored (tracked : Tracked (delivery :: coming) world) :
    Scored sha256 world delivery ∧ Tracked coming (step sha256 world delivery) := by
  cases keys : delivery_keys sha256 delivery.alert with
  | error e => exact refused_scored tracked (process_refused keys)
  | ok value =>
    obtain ⟨identity, group_key, fingerprint⟩ := value
    cases zoned : delivery.received_at.aware with
    | false => exact refused_scored tracked (process_naive keys zoned)
    | true =>
      obtain ⟨decision, dedupe, decided, info, delivers⟩ := decide_delivery_delivers (tracked.counted group_key)
        (fun _ found => Table.get_key found) identity fingerprint delivery.received_at.as_utc rfl world.memory.window
          delivery.canonical
      have processed := process_ok keys zoned decided info
      have entry_group : (logged delivery (answer decision identity dedupe)).group = group_key := delivers.group_key
      have counted := delivers.counted (logged delivery (answer decision identity dedupe)) entry_group
        (Datetime.instant_as_utc _).symm rfl
      have mine : delivery.received_at.instant ∈ received (delivery :: coming) := by
        rw [received_cons, if_pos zoned]; exact List.mem_cons_self
      have in_order : Ordered (logged delivery (answer decision identity dedupe) :: world.log) :=
        List.pairwise_cons.mpr ⟨fun entry earlier => tracked.later _ mine entry earlier, tracked.in_order⟩
      constructor
      · intro outcome memory processed' distinct cfg
        cases processed.symm.trans processed'
        obtain ⟨first, begun, offset, dedupe_scored⟩ := delivers.scored distinct
        have rules : cfg.rules.filter (fun rule => rule.min_occurrences ≤ decision.group.occurrences ∧
            max 0 (delivery.received_at.as_utc.instant - first.instant) ≤ seconds rule.max_window_seconds) =
            cfg.rules.filter (fun rule => Burst (logged delivery (answer decision identity dedupe) :: world.log) group_key
              delivery.received_at.instant rule) := by
          refine List.filter_congr (fun rule _ => decide_eq_decide.mpr ?_)
          rw [Datetime.instant_as_utc]
          exact counters_burst in_order counted begun rule
        show (recurrence_velocity_factor decision.record.canonical_alert.dedupe cfg).map ScoreFactor.points = _
        have own : (answer decision identity dedupe).group_key = group_key := delivers.group_key
        rw [dedupe_scored, own, ← rules]
        exact recurrence_velocity_points cfg offset
      · rw [step, processed]
        refine ⟨fun key => ?_, ?_, received_ordered tracked.ordered, in_order⟩
        · show Counted _ key ((world.memory.groups.put decision.group).get key)
          rw [Table.get_put, delivers.group_key]
          by_cases same : group_key = key
          · subst same
            rw [if_pos rfl]
            exact counted
          · rw [if_neg same]
            exact (tracked.counted key).other (fun other => same (entry_group.symm.trans other))
        · intro time inside entry listed
          rcases List.mem_cons.mp listed with rfl | earlier
          · have ordered := tracked.ordered
            rw [received_cons, if_pos zoned] at ordered
            exact (List.pairwise_cons.mp ordered).1 time inside
          · exact tracked.later time (received_still inside) entry earlier

end

/-- In every run of deliveries in order of reception, every newly recorded alert earns exactly the points of the rules
    of which its generation has enough events within the rule's window, and none before it. -/
theorem bursts_scored (sha256 : Json → String) (window : Window) (deliveries : List Delivery)
    (ordered : (received deliveries).Pairwise (· ≤ ·)) :
    Runs.Along (step sha256) (Scored sha256) { memory := { window } } deliveries := by
  have each : ∀ (coming : List Delivery) (world : World), Tracked coming world →
      Runs.Along (step sha256) (Scored sha256) world coming := by
    intro coming
    induction coming with
    | nil => exact fun _ _ => trivial
    | cons delivery rest ih =>
      intro world tracked
      obtain ⟨scored, tracked'⟩ := @step_scored sha256 world delivery rest tracked
      exact ⟨scored, ih _ tracked'⟩
  exact each deliveries _ ⟨fun _ _ none => absurd none List.not_mem_nil, fun _ _ _ none => absurd none List.not_mem_nil,
    ordered, List.Pairwise.nil⟩

/-! ### A burst that goes on -/

/-- Four failed logins of an agent; the last three come within ten minutes. -/
def ongoing : List Delivery :=
  [("1", 0), ("2", 600), ("3", 1000), ("4", 1100)].map (fun (id, at_seconds) =>
    { alert := { failed_login 1 with id := some id }
      canonical := failed_login_alert id (Datetime.of_instant (seconds at_seconds))
      received_at := Datetime.of_instant (seconds at_seconds) })

theorem ongoing_scored : Runs.Along (step failed_login_digest) (Scored failed_login_digest)
    { memory := { window := ⟨900, by decide⟩ } } ongoing :=
  bursts_scored failed_login_digest ⟨900, by decide⟩ ongoing (by decide)

private theorem burst_named : "rapid_burst" ≠ "" := by decide

private theorem burst_recurs : 1 ≤ 3 := by decide

def rapid_burst : RecurrenceRule where
  name := "rapid_burst"
  min_occurrences := 3
  max_window_seconds := 900
  points := 12
  named := burst_named
  recurs := burst_recurs

private theorem burst_window : 1 ≤ 900 := by decide

def after_three : World :=
  Runs.run (step failed_login_digest) { memory := { window := ⟨900, burst_window⟩ } } (ongoing.take 3)

def fourth : Delivery := ongoing.get ⟨3, by decide⟩

/-- The fourth is the third within fifteen minutes, and earns nothing: its generation is eighteen minutes old. -/
theorem ongoing_burst_unpaid :
    ¬ ∀ (sha256 : Json → String) (window : Window) (deliveries : List Delivery), (received deliveries).Pairwise (· ≤ ·) →
      Runs.Along (step sha256) (fun world delivery => ∀ outcome memory,
        world.memory.process sha256 delivery.alert delivery.canonical delivery.received_at = .ok (outcome, memory) →
        outcome.status ≠ .EXACT_DUPLICATE → ∀ cfg : RecurrenceVelocityConfig, ∀ rule ∈ cfg.rules,
          rule.min_occurrences ≤ (recent (logged delivery outcome :: world.log) outcome.group_key
            delivery.received_at.instant rule.max_window_seconds).length →
          ∃ factor, recurrence_velocity_factor outcome.canonical_alert.dedupe cfg = some factor ∧
            ((min rule.points cfg.max : Nat) : Int) ≤ factor.points)
        { memory := { window } } deliveries := by
  intro always
  have each := Runs.along_iff.mp (always failed_login_digest ⟨900, by decide⟩ ongoing (by decide))
  have answered : (after_three.memory.process failed_login_digest fourth.alert fourth.canonical
    fourth.received_at).toOption.map
      (fun result => (result.1.status, (recent (logged fourth result.1 :: after_three.log) result.1.group_key
        fourth.received_at.instant 900).length,
        (recurrence_velocity_factor result.1.canonical_alert.dedupe { max := 20, rules := [rapid_burst] }).map
          ScoreFactor.points)) = some (.REPEATED, 3, some 0) := by decide +kernel
  obtain ⟨⟨outcome, memory⟩, processed, values⟩ := Option.map_eq_some_iff.mp answered
  obtain ⟨repeated, enough, points⟩ : outcome.status = .REPEATED ∧ _ = 3 ∧ _ = some 0 :=
    ⟨(Prod.mk.inj values).1, (Prod.mk.inj (Prod.mk.inj values).2).1, (Prod.mk.inj (Prod.mk.inj values).2).2⟩
  have accepted : after_three.memory.process failed_login_digest fourth.alert fourth.canonical fourth.received_at =
      .ok (outcome, memory) := by
    cases result : after_three.memory.process failed_login_digest fourth.alert fourth.canonical fourth.received_at with
    | error e => rw [result] at processed; cases processed
    | ok value => rw [result] at processed; cases processed; rfl
  have earned := each (ongoing.take 3) fourth [] rfl outcome memory accepted (by rw [repeated]; decide)
    { max := 20, rules := [rapid_burst] } rapid_burst (List.mem_singleton_self _) (Nat.le_of_eq enough.symm)
  obtain ⟨factor, given, earned⟩ := earned
  rw [given] at points
  rw [Option.some_inj.mp points] at earned
  exact absurd earned (by decide)

end SocTriage.BurstScore
