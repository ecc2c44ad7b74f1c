import SocTriage.EventIdentity
import SocTriage.Runs

/-!
Deduplication defined over the full history of deliveries, and the incremental state
machine's agreement with it. The history keeps every accepted delivery, newest first;
the machine keeps counters per group and the event records its window has not dropped.
-/
namespace SocTriage.DedupeHistory
open Deduplication

/-! ### The definition over the history -/

section
variable {ι γ : Type} [DecidableEq γ]

/-- One accepted delivery: its event, its group, its reception time and its class. -/
structure Entry (ι γ : Type) where
  identity : ι
  group : γ
  time : Int
  status : DedupeStatus

def Entry.distinct (entry : Entry ι γ) : Bool := entry.status != .EXACT_DUPLICATE

/-- The latest earlier delivery of an event. -/
def latest [DecidableEq ι] (history : List (Entry ι γ)) (identity : ι) : Option (Entry ι γ) :=
  history.find? (fun entry => entry.identity = identity)

/-- The latest earlier distinct event of a group. -/
def latestDistinct (history : List (Entry ι γ)) (group : γ) : Option (Entry ι γ) :=
  history.find? (fun entry => entry.group = group && entry.distinct)

/-- A duplicate when the event came at most one window ago, else a recurrence when a
    distinct event of the group did, else a new generation. -/
def classOf [DecidableEq ι] (window : Int) (history : List (Entry ι γ)) (identity : ι) (group : γ)
    (time : Int) : DedupeStatus :=
  if (latest history identity).any (fun entry => time - entry.time ≤ window) then .EXACT_DUPLICATE
  else if (latestDistinct history group).any (fun entry => time - entry.time ≤ window) then .REPEATED
  else .NEW_GENERATION

/-- The number of generations of a group. -/
def generations (history : List (Entry ι γ)) (group : γ) : Nat :=
  (history.filter (fun entry => entry.group = group && entry.status == .NEW_GENERATION)).length

/-- The deliveries of a group back to the one that started its current generation. -/
def currentGeneration (group : γ) : List (Entry ι γ) → List (Entry ι γ)
  | [] => []
  | entry :: earlier =>
    if entry.group = group then
      if entry.status = .NEW_GENERATION then [entry] else entry :: currentGeneration group earlier
    else currentGeneration group earlier

/-- The distinct events of the current generation, newest first. -/
def distinctEvents (history : List (Entry ι γ)) (group : γ) : List (Entry ι γ) :=
  (currentGeneration group history).filter Entry.distinct

/-- The exact duplicates since the current generation started. -/
def duplicates (history : List (Entry ι γ)) (group : γ) : Nat :=
  ((currentGeneration group history).filter (fun entry => !entry.distinct)).length

/-- The answer to the newest delivery of a history. -/
structure Answer (ι γ : Type) where
  status : DedupeStatus
  identity : ι
  group : γ
  generation : Nat
  occurrences : Nat
  duplicate_deliveries : Nat
  first_seen : Option Int
  last_seen : Option Int

def answerTo (history : List (Entry ι γ)) (entry : Entry ι γ) : Answer ι γ where
  status := entry.status
  identity := entry.identity
  group := entry.group
  generation := generations history entry.group
  occurrences := (distinctEvents history entry.group).length
  duplicate_deliveries := duplicates history entry.group
  first_seen := (distinctEvents history entry.group).getLast?.map Entry.time
  last_seen := (distinctEvents history entry.group).head?.map Entry.time

/-- The latest distinct event of a group is the latest of its current generation. -/
theorem latestDistinct_eq (history : List (Entry ι γ)) (group : γ) :
    latestDistinct history group = (distinctEvents history group).head? := by
  rw [distinctEvents, List.head?_filter]
  induction history with
  | nil => rfl
  | cons entry earlier ih =>
    rw [latestDistinct, List.find?_cons, currentGeneration]
    by_cases mine : entry.group = group
    · by_cases started : entry.status = .NEW_GENERATION
      · have distinct : entry.distinct = true := by simp [Entry.distinct, started]
        simp [mine, started, distinct]
      · cases distinct : entry.distinct with
        | true => simp [mine, started, distinct]
        | false =>
          simp only [mine, distinct, started, decide_true, Bool.and_false, ↓reduceIte, List.find?_cons]
          exact ih
    · simp only [mine, decide_false, Bool.false_and, ↓reduceIte]
      exact ih

section
variable (history : List (Entry ι γ)) (entry : Entry ι γ) (group : γ)

theorem currentGeneration_other (other : entry.group ≠ group) :
    currentGeneration group (entry :: history) = currentGeneration group history := by
  rw [currentGeneration, if_neg other]

theorem currentGeneration_started (mine : entry.group = group) (started : entry.status = .NEW_GENERATION) :
    currentGeneration group (entry :: history) = [entry] := by
  rw [currentGeneration, if_pos mine, if_pos started]

theorem currentGeneration_continued (mine : entry.group = group) (continued : entry.status ≠ .NEW_GENERATION) :
    currentGeneration group (entry :: history) = entry :: currentGeneration group history := by
  rw [currentGeneration, if_pos mine, if_neg continued]

theorem distinctEvents_other (other : entry.group ≠ group) :
    distinctEvents (entry :: history) group = distinctEvents history group := by
  rw [distinctEvents, currentGeneration_other history entry group other, distinctEvents]

theorem distinctEvents_started (mine : entry.group = group) (started : entry.status = .NEW_GENERATION) :
    distinctEvents (entry :: history) group = [entry] := by
  have distinct : entry.distinct = true := by simp [Entry.distinct, started]
  rw [distinctEvents, currentGeneration_started history entry group mine started, List.filter_cons_of_pos distinct,
    List.filter_nil]

theorem distinctEvents_repeated (mine : entry.group = group) (repeats : entry.status = .REPEATED) :
    distinctEvents (entry :: history) group = entry :: distinctEvents history group := by
  have distinct : entry.distinct = true := by simp [Entry.distinct, repeats]
  rw [distinctEvents, currentGeneration_continued history entry group mine (by simp [repeats]),
    List.filter_cons_of_pos distinct, distinctEvents]

theorem distinctEvents_absorbed (mine : entry.group = group) (known : entry.status = .EXACT_DUPLICATE) :
    distinctEvents (entry :: history) group = distinctEvents history group := by
  have absorbed : entry.distinct = false := by simp [Entry.distinct, known]
  rw [distinctEvents, currentGeneration_continued history entry group mine (by simp [known]),
    List.filter_cons_of_neg (by simp [absorbed]), distinctEvents]

theorem generations_cons :
    generations (entry :: history) group =
      generations history group + (if entry.group = group ∧ entry.status = .NEW_GENERATION then 1 else 0) := by
  rw [generations, List.filter_cons]
  by_cases mine : entry.group = group
  · by_cases started : entry.status = .NEW_GENERATION
    · simp [mine, started, generations]
    · simp [mine, started, generations]
  · simp [mine, generations]

theorem currentGeneration_untracked (untracked : ∀ entry ∈ history, entry.group ≠ group) :
    currentGeneration group history = [] := by
  induction history with
  | nil => rfl
  | cons entry earlier ih =>
    rw [currentGeneration, if_neg (untracked entry (List.mem_cons_self ..))]
    exact ih (fun other inside => untracked other (List.mem_cons_of_mem _ inside))
end
end

/-! ### The machine against the history -/

/-- An event record against the latest delivery of its event: it carries that delivery's
    time, and it is dropped only when the window has passed since. -/
def RecordTracks (window : Window) (history : List (Entry String String)) :
    Option (Entry String String) → Option EventRecord → Prop
  | none, record => record = none
  | some entry, some record => record.last_delivered_at.instant = entry.time
  | some entry, none => ∃ later ∈ history, later.time - entry.time > window.delta

/-- The event records of a group against a history. -/
def RecordsTrack (window : Window) (history : List (Entry String String)) (group_key : String)
    (group : GroupState) : Prop :=
  ∀ identity, (∀ e, latest history identity = some e → e.group = group_key) →
    RecordTracks window history (latest history identity) (group.events.get identity)

/-- A tracked group against the history: its counters are the history's, and so are its event records. -/
structure GroupTracks (window : Window) (history : List (Entry String String)) (group_key : String)
    (group : GroupState) : Prop where
  generation : group.generation = generations history group_key
  occurrences : group.occurrences = (distinctEvents history group_key).length
  duplicate_deliveries : group.duplicate_deliveries = duplicates history group_key
  first_seen : ∃ time : Datetime, group.first_seen = some time ∧
    (distinctEvents history group_key).getLast?.map Entry.time = some time.instant
  last_seen : ∃ time : Datetime, group.last_seen = some time ∧
    (distinctEvents history group_key).head?.map Entry.time = some time.instant
  records : RecordsTrack window history group_key group

/-- The state of one group key: untracked before its first delivery. -/
def KeyTracks (window : Window) (history : List (Entry String String)) (group_key : String) : Option GroupState → Prop
  | none => ∀ entry ∈ history, entry.group ≠ group_key
  | some group => GroupTracks window history group_key group

private theorem RecordTracks.extend {window : Window} {history : List (Entry String String)}
    {entry : Option (Entry String String)} {record : Option EventRecord} (tracks : RecordTracks window history entry record)
    (newest : Entry String String) : RecordTracks window (newest :: history) entry record := by
  cases entry with
  | none => exact tracks
  | some entry => cases record with
    | some record => exact tracks
    | none =>
      obtain ⟨later, inside, passed⟩ := tracks
      exact ⟨later, List.mem_cons_of_mem _ inside, passed⟩

private theorem latest_cons (entry : Entry String String) (history : List (Entry String String)) (identity : String) :
    latest (entry :: history) identity = if entry.identity = identity then some entry else latest history identity := by
  rw [latest, List.find?_cons]
  by_cases mine : entry.identity = identity <;> simp [mine, latest]

/-- A delivery to another group leaves a group's view of the history as it is. -/
private theorem KeyTracks.other {window : Window} {history : List (Entry String String)} {group_key : String}
    {group : Option GroupState} (tracks : KeyTracks window history group_key group) {entry : Entry String String}
    (other : entry.group ≠ group_key) : KeyTracks window (entry :: history) group_key group := by
  cases group with
  | none =>
    intro e inside
    rcases List.mem_cons.mp inside with rfl | earlier
    · exact other
    · exact tracks e earlier
  | some group =>
    have same := currentGeneration_other history entry group_key other
    constructor
    · rw [generations_cons, if_neg (fun both => other both.1)]
      exact tracks.generation
    · rw [distinctEvents, same]; exact tracks.occurrences
    · rw [duplicates, same]; exact tracks.duplicate_deliveries
    · rw [distinctEvents, same]; exact tracks.first_seen
    · rw [distinctEvents, same]; exact tracks.last_seen
    · intro identity mine
      rw [latest_cons] at mine ⊢
      by_cases newest : entry.identity = identity
      · rw [if_pos newest] at mine
        exact absurd (mine entry rfl) other
      · rw [if_neg newest] at mine ⊢
        exact (tracks.records identity mine).extend entry

/-- After a delivery the pruned records, with the delivered one put among them, track the longer history. -/
private theorem records_delivered {window : Window} {history : List (Entry String String)} {group_key : String}
    {group : GroupState} (records : RecordsTrack window history group_key group) {entry : Entry String String}
    {received : Datetime} (now : entry.time = received.instant) {record : EventRecord}
    (sameIdentity : record.event_identity = entry.identity) (delivered : record.last_delivered_at = received)
    (identity : String)
    (mine : ∀ e, latest (entry :: history) identity = some e → e.group = group_key) :
    RecordTracks window (entry :: history) (latest (entry :: history) identity)
      (((prune_expired group received window).events.put record).get identity) := by
  rw [Table.get_put, sameIdentity, latest_cons] at *
  by_cases newest : entry.identity = identity
  · rw [if_pos newest, if_pos newest]
    show record.last_delivered_at.instant = entry.time
    rw [delivered, now]
  · rw [if_neg newest] at mine ⊢
    rw [if_neg newest, prune_expired_get]
    have before := records identity mine
    cases earlier : latest history identity with
    | none =>
      rw [earlier] at before
      rw [show group.events.get identity = none from before]
      rfl
    | some e =>
      rw [earlier] at before
      cases kept : group.events.get identity with
      | none => rw [kept] at before; exact before.extend entry
      | some r =>
        rw [kept] at before
        have last : r.last_delivered_at.instant = e.time := before
        rw [Option.filter_some]
        split
        · exact last
        · rename_i expired
          refine ⟨entry, List.mem_cons_self .., ?_⟩
          simp only [last, gt_iff_lt, Bool.not_eq_true', decide_eq_false_iff_not, not_not] at expired
          rw [now]
          exact expired

/-! ### The classification -/

section
variable {window : Window} {history : List (Entry String String)} {group_key identity : String} {group : GroupState}
  {received : Datetime}

/-- A record survives the pruning exactly when the latest delivery of its event is at most
    one window old. -/
private theorem record_survives (tracks : GroupTracks window history group_key group)
    (past : ∀ e ∈ history, e.time ≤ received.instant)
    (mine : ∀ e, latest history identity = some e → e.group = group_key) :
    ((prune_expired group received window).events.get identity).isSome =
      (latest history identity).any (fun e => received.instant - e.time ≤ window.delta) := by
  have record := tracks.records identity mine
  rw [prune_expired_get]
  cases before : latest history identity with
  | none =>
    rw [before] at record
    rw [show group.events.get identity = none from record]
    rfl
  | some e =>
    rw [before] at record
    cases kept : group.events.get identity with
    | none =>
      rw [kept] at record
      obtain ⟨later, inside, passed⟩ := record
      have now := past later inside
      have expired : ¬ (received.instant - e.time ≤ window.delta) := by omega
      simp only [Option.filter_none, Option.isSome_none, Option.any_some, expired, decide_false]
    | some r =>
      rw [kept] at record
      have last : r.last_delivered_at.instant = e.time := record
      rw [Option.filter_some, last, Option.any_some]
      by_cases expired : received.instant - e.time > window.delta
      · have late : ¬ (received.instant - e.time ≤ window.delta) := by omega
        simp only [expired, late, decide_true, decide_false, Bool.not_true, Bool.false_eq_true, ↓reduceIte,
          Option.isSome_none]
      · have soon : received.instant - e.time ≤ window.delta := by omega
        simp only [expired, soon, decide_true, decide_false, Bool.not_false, ↓reduceIte, Option.isSome_some]

/-- The group window runs from the latest distinct event. -/
private theorem recurred_classifies (tracks : GroupTracks window history group_key group) {last : Datetime}
    (seen : group.last_seen = some last) (received : Datetime) :
    (recurred group last received window).1 =
      if (latestDistinct history group_key).any (fun e => received.instant - e.time ≤ window.delta) then .REPEATED
      else .NEW_GENERATION := by
  obtain ⟨time, stored, recorded⟩ := tracks.last_seen
  rw [seen] at stored
  cases stored
  rw [latestDistinct_eq]
  obtain ⟨e, newest, same⟩ := Option.map_eq_some_iff.mp recorded
  rw [newest, recurred, ← same]
  by_cases expired : received.instant - e.time > window.delta
  · have late : ¬ (received.instant - e.time ≤ window.delta) := by omega
    simp only [expired, late, Option.any_some, decide_false, Bool.false_eq_true, ↓reduceIte]
  · have soon : received.instant - e.time ≤ window.delta := by omega
    simp only [expired, soon, Option.any_some, decide_true, ↓reduceIte]

/-- Nothing of an untracked group is in the history, so its first delivery starts a generation. -/
private theorem classOf_untracked (untracked : ∀ e ∈ history, e.group ≠ group_key)
    (mine : ∀ e, latest history identity = some e → e.group = group_key) (time : Int) :
    classOf window.delta history identity group_key time = .NEW_GENERATION := by
  have noEvent : latest history identity = none := by
    cases before : latest history identity with
    | none => rfl
    | some e => exact absurd (mine e before) (untracked e (List.mem_of_find?_eq_some before))
  have noGroup : latestDistinct history group_key = none := by
    rw [latestDistinct_eq, distinctEvents, currentGeneration_untracked history group_key untracked]
    rfl
  rw [classOf, noEvent, noGroup]
  rfl
end

/-! ### The counters after a delivery -/

section
variable {window : Window} {history : List (Entry String String)} {entry : Entry String String}
  {before after : GroupState} {received : Datetime}

/-- A distinct event that starts a generation. -/
private theorem tracks_started (begins : entry.status = .NEW_GENERATION) (now : entry.time = received.instant)
    (generation : after.generation = generations history entry.group + 1) (occurrences : after.occurrences = 1)
    (duplicate_deliveries : after.duplicate_deliveries = 0) (first_seen : after.first_seen = some received)
    (last_seen : after.last_seen = some received) (records : RecordsTrack window (entry :: history) entry.group after) :
    GroupTracks window (entry :: history) entry.group after := by
  have current := currentGeneration_started history entry entry.group rfl begins
  have distinct : entry.distinct = true := by simp [Entry.distinct, begins]
  have only := distinctEvents_started history entry entry.group rfl begins
  refine ⟨?_, ?_, ?_, ?_, ?_, records⟩
  · rw [generation, generations_cons, if_pos ⟨rfl, begins⟩]
  · rw [occurrences, only]; rfl
  · rw [duplicate_deliveries, duplicates, current]; simp [distinct]
  · exact ⟨received, first_seen, by rw [only, ← now]; rfl⟩
  · exact ⟨received, last_seen, by rw [only, ← now]; rfl⟩

/-- A distinct event of the current generation. -/
private theorem tracks_repeated (tracks : GroupTracks window history entry.group before)
    (repeats : entry.status = .REPEATED) (now : entry.time = received.instant)
    (generation : after.generation = before.generation) (occurrences : after.occurrences = before.occurrences + 1)
    (duplicate_deliveries : after.duplicate_deliveries = before.duplicate_deliveries)
    (first_seen : after.first_seen = before.first_seen) (last_seen : after.last_seen = some received)
    (records : RecordsTrack window (entry :: history) entry.group after) :
    GroupTracks window (entry :: history) entry.group after := by
  have current := currentGeneration_continued history entry entry.group rfl (by simp [repeats])
  have distinct : entry.distinct = true := by simp [Entry.distinct, repeats]
  have longer := distinctEvents_repeated history entry entry.group rfl repeats
  obtain ⟨first, stored, recorded⟩ := tracks.first_seen
  refine ⟨?_, ?_, ?_, ⟨first, first_seen.trans stored, ?_⟩, ⟨received, last_seen, ?_⟩, records⟩
  · rw [generation, tracks.generation, generations_cons, if_neg (by simp [repeats]), Nat.add_zero]
  · rw [occurrences, tracks.occurrences, longer, List.length_cons]
  · rw [duplicate_deliveries, tracks.duplicate_deliveries, duplicates, duplicates, current]; simp [distinct]
  · obtain ⟨oldest, last, same⟩ := Option.map_eq_some_iff.mp recorded
    rw [longer, List.getLast?_cons, last, ← same]
    rfl
  · rw [longer, ← now]; rfl

/-- One more delivery of a known event. -/
private theorem tracks_duplicate (tracks : GroupTracks window history entry.group before)
    (known : entry.status = .EXACT_DUPLICATE) (generation : after.generation = before.generation)
    (occurrences : after.occurrences = before.occurrences)
    (duplicate_deliveries : after.duplicate_deliveries = before.duplicate_deliveries + 1)
    (first_seen : after.first_seen = before.first_seen) (last_seen : after.last_seen = before.last_seen)
    (records : RecordsTrack window (entry :: history) entry.group after) :
    GroupTracks window (entry :: history) entry.group after := by
  have current := currentGeneration_continued history entry entry.group rfl (by simp [known])
  have absorbed : entry.distinct = false := by simp [Entry.distinct, known]
  have same := distinctEvents_absorbed history entry entry.group rfl known
  refine ⟨?_, ?_, ?_, ?_, ?_, records⟩
  · rw [generation, tracks.generation, generations_cons, if_neg (by simp [known]), Nat.add_zero]
  · rw [occurrences, tracks.occurrences, same]
  · rw [duplicate_deliveries, tracks.duplicate_deliveries, duplicates, duplicates, current]; simp [absorbed]
  · rw [first_seen, same]; exact tracks.first_seen
  · rw [last_seen, same]; exact tracks.last_seen
end

/-! ### One delivery -/

section
variable {window : Window} {history : List (Entry String String)} {group_key identity fingerprint : String}
  {group : GroupState} {received : Datetime} {canonical : CanonicalAlert}

/-- The entry a delivery adds to the history. -/
def entryOf (window : Window) (history : List (Entry String String)) (identity group_key : String) (time : Int) :
    Entry String String where
  identity := identity
  group := group_key
  time := time
  status := classOf window.delta history identity group_key time

/-- What a decision must be for the history to agree with it. -/
structure Decides (window : Window) (history : List (Entry String String)) (entry : Entry String String)
    (decision : DeliveryDecision) : Prop where
  status : decision.status = entry.status
  group_key : decision.group.group_key = entry.group
  tracks : GroupTracks window (entry :: history) entry.group decision.group

private theorem decides_untracked (untracked : ∀ e ∈ history, e.group ≠ group_key)
    (mine : ∀ e, latest history identity = some e → e.group = group_key) :
    Decides window history (entryOf window history identity group_key received.instant)
      (record_decision .NEW_GENERATION none (started group_key received) received identity fingerprint received
        canonical) := by
  have begins : (entryOf window history identity group_key received.instant).status = .NEW_GENERATION :=
    classOf_untracked untracked mine _
  refine ⟨begins.symm, rfl, tracks_started begins rfl ?_ rfl rfl rfl rfl ?_⟩
  · have none_yet : generations history group_key = 0 := by
      rw [generations, List.length_eq_zero_iff, List.filter_eq_nil_iff]
      intro e inside
      simp [untracked e inside]
    show 1 = generations history group_key + 1
    rw [none_yet]
  · have none_recorded : RecordsTrack window history group_key (started group_key received) := by
      intro other ownedOther
      cases earlier : latest history other with
      | none => rfl
      | some e => exact absurd (ownedOther e earlier) (untracked e (List.mem_of_find?_eq_some earlier))
    exact records_delivered none_recorded rfl rfl rfl

private theorem decides_tracked (tracks : GroupTracks window history group_key group) (key : group.group_key = group_key)
    (past : ∀ e ∈ history, e.time ≤ received.instant)
    (mine : ∀ e, latest history identity = some e → e.group = group_key) (fingerprint : String)
    (canonical : CanonicalAlert) :
    ∃ decision, classify (prune_expired group received window) identity fingerprint received window canonical =
      .ok decision ∧ Decides window history (entryOf window history identity group_key received.instant) decision := by
  have survives := record_survives tracks past mine
  cases known : (prune_expired group received window).events.get identity with
  | some existing =>
    rw [known, Option.isSome_some] at survives
    have duplicate : (entryOf window history identity group_key received.instant).status = .EXACT_DUPLICATE := by
      rw [entryOf, classOf, if_pos survives.symm]
    refine ⟨_, classify_known known fingerprint received window canonical, duplicate.symm, key, ?_⟩
    have same : existing.event_identity = identity := Table.get_key known
    exact tracks_duplicate tracks duplicate rfl rfl rfl rfl rfl (records_delivered tracks.records rfl same rfl)
  | none =>
    rw [known, Option.isSome_none] at survives
    obtain ⟨first, begun, _⟩ := tracks.first_seen
    obtain ⟨last, seen, _⟩ := tracks.last_seen
    have status : (recurred (prune_expired group received window) last received window).1 =
        (entryOf window history identity group_key received.instant).status := by
      have classified := recurred_classifies tracks seen received
      rw [entryOf, classOf, if_neg (by rw [← survives]; exact Bool.false_ne_true), ← classified]
      simp only [recurred, prune_expired]
      split <;> rfl
    refine ⟨_, classify_new known begun seen fingerprint received window canonical, status, ?_, ?_⟩
    · exact (recurred_group_key _ _ _ _).trans key
    · by_cases expired : received.instant - last.instant > window.delta
      · have moved := recurred_expired (prune_expired group received window) expired
        rw [moved] at status ⊢
        refine tracks_started status.symm rfl ?_ rfl rfl rfl rfl (records_delivered tracks.records rfl rfl rfl)
        exact congrArg (· + 1) tracks.generation
      · have moved := recurred_within (prune_expired group received window) expired
        rw [moved] at status ⊢
        exact tracks_repeated tracks status.symm rfl rfl rfl rfl rfl rfl (records_delivered tracks.records rfl rfl rfl)

/-- A decision agrees with the history, whether the group is tracked or not. -/
private theorem decide_delivery_decides {groups : Table GroupState.group_key}
    (tracks : KeyTracks window history group_key (groups.get group_key))
    (past : ∀ e ∈ history, e.time ≤ received.instant)
    (mine : ∀ e, latest history identity = some e → e.group = group_key) (fingerprint : String)
    (canonical : CanonicalAlert) :
    ∃ decision, decide_delivery (groups.get group_key) group_key identity fingerprint received window canonical =
      .ok decision ∧ Decides window history (entryOf window history identity group_key received.instant) decision := by
  cases found : groups.get group_key with
  | none =>
    rw [found] at tracks
    exact ⟨_, decide_delivery_none group_key identity fingerprint received window canonical,
      decides_untracked tracks mine⟩
  | some group =>
    rw [found] at tracks
    exact decides_tracked tracks (Table.get_key found) past mine fingerprint canonical

/-- An event's earlier deliveries were to its group. -/
private theorem latest_owned {sha256 : Json → String} {delivered : List WazuhAlert}
    (collision_free : CollisionFree sha256 delivered) (owned : ∀ e ∈ history, Owned sha256 delivered e.identity e.group)
    (mine : Owned sha256 delivered identity group_key) :
    ∀ e, latest history identity = some e → e.group = group_key := by
  intro e found
  have same : e.identity = identity := by simpa using List.find?_some found
  obtain ⟨a, first, left, leftKey⟩ := owned e (List.mem_of_find?_eq_some found)
  obtain ⟨b, second, right, rightKey⟩ := mine
  rw [same] at left
  exact identity_determines_group collision_free first second left right leftKey rightKey
end

/-! ### Runs -/

structure Delivery where
  alert : WazuhAlert
  canonical : CanonicalAlert
  received_at : Datetime

/-- A delivery to the deduplicator; a refused one changes nothing. -/
def deliver (sha256 : Json → String) (self : InMemoryDeduplicator) (delivery : Delivery) :
    Except Error DedupeOutcome × InMemoryDeduplicator :=
  match self.process sha256 delivery.alert delivery.canonical delivery.received_at with
  | .ok (outcome, next) => (.ok outcome, next)
  | .error e => (.error e, self)

/-- What the answer to a delivery tells; a refusal tells nothing. -/
def observed : Except Error DedupeOutcome → Option (Answer String String)
  | .ok outcome => some {
      status := outcome.status
      identity := outcome.event_identity
      group := outcome.group_key
      generation := outcome.dedupe.generation
      occurrences := outcome.dedupe.occurrences
      duplicate_deliveries := outcome.dedupe.duplicate_deliveries
      first_seen := some outcome.dedupe.first_seen.instant
      last_seen := some outcome.dedupe.last_seen.instant }
  | .error _ => none

/-- A delivery put on the history, when it has keys and an offset. -/
def record (sha256 : Json → String) (window : Window) (history : List (Entry String String)) (delivery : Delivery) :
    Option (Answer String String) × List (Entry String String) :=
  match delivery_keys sha256 delivery.alert with
  | .ok (identity, group_key, _) =>
    if delivery.received_at.aware then
      let entry := entryOf window history identity group_key delivery.received_at.instant
      (some (answerTo (entry :: history) entry), entry :: history)
    else (none, history)
  | .error _ => (none, history)

/-- The times the deliveries came at, of those that say when. -/
def received (deliveries : List Delivery) : List Int :=
  (deliveries.filter (fun delivery => delivery.received_at.aware)).map (fun delivery => delivery.received_at.instant)

/-- The machine against the history, with the deliveries still to come. -/
structure Tracks (sha256 : Json → String) (delivered : List WazuhAlert) (window : Window) (coming : List Delivery)
    (memory : InMemoryDeduplicator) (history : List (Entry String String)) : Prop where
  same_window : memory.window = window
  known : ∀ delivery ∈ coming, delivery.alert ∈ delivered
  later : ∀ time ∈ received coming, ∀ e ∈ history, e.time ≤ time
  ordered : (received coming).Pairwise (· ≤ ·)
  owned : ∀ e ∈ history, Owned sha256 delivered e.identity e.group
  keys : ∀ key, KeyTracks window history key (memory.groups.get key)

section
variable {sha256 : Json → String} {delivered : List WazuhAlert} {window : Window} {coming : List Delivery}
  {memory : InMemoryDeduplicator} {history : List (Entry String String)} {delivery : Delivery}

theorem received_cons :
    received (delivery :: coming) =
      if delivery.received_at.aware then delivery.received_at.instant :: received coming else received coming := by
  rw [received, List.filter_cons]
  split <;> rfl

theorem received_still {time : Int} (inside : time ∈ received coming) : time ∈ received (delivery :: coming) := by
  rw [received_cons]
  split
  · exact List.mem_cons_of_mem _ inside
  · exact inside

theorem received_ordered (ordered : (received (delivery :: coming)).Pairwise (· ≤ ·)) :
    (received coming).Pairwise (· ≤ ·) := by
  rw [received_cons] at ordered
  split at ordered
  · exact (List.pairwise_cons.mp ordered).2
  · exact ordered

/-- A refused delivery leaves both sides as they are. -/
private theorem Tracks.skip (tracks : Tracks sha256 delivered window (delivery :: coming) memory history) :
    Tracks sha256 delivered window coming memory history := by
  exact ⟨tracks.same_window, fun d inside => tracks.known d (List.mem_cons_of_mem _ inside),
    fun time inside => tracks.later time (received_still inside), received_ordered tracks.ordered, tracks.owned, tracks.keys⟩

/-- The answer the machine gives on a decision the history agrees with. -/
private theorem Decides.answered {entry : Entry String String} {decision : DeliveryDecision}
    (decides : Decides window history entry decision) :
    ∃ dedupe, dedupe_info decision.group entry.identity = .ok dedupe ∧
      observed (.ok (answer decision entry.identity dedupe)) = some (answerTo (entry :: history) entry) := by
  obtain ⟨first, begun, firstRecorded⟩ := decides.tracks.first_seen
  obtain ⟨last, seen, lastRecorded⟩ := decides.tracks.last_seen
  refine ⟨_, dedupe_info_ok entry.identity begun seen, ?_⟩
  rw [observed, answerTo, firstRecorded, lastRecorded]
  simp only [answer, snapshot, decides.status, decides.group_key, decides.tracks.generation, decides.tracks.occurrences,
    decides.tracks.duplicate_deliveries]

private theorem deliver_tracks (collision_free : CollisionFree sha256 delivered)
    (tracks : Tracks sha256 delivered window (delivery :: coming) memory history) :
    observed (deliver sha256 memory delivery).1 = (record sha256 window history delivery).1 ∧
      Tracks sha256 delivered window coming (deliver sha256 memory delivery).2
        (record sha256 window history delivery).2 := by
  rw [deliver, record]
  cases keys : delivery_keys sha256 delivery.alert with
  | error e =>
    rw [process_refused keys]
    exact ⟨rfl, tracks.skip⟩
  | ok value =>
    obtain ⟨identity, group_key, fingerprint⟩ := value
    cases zoned : delivery.received_at.aware with
    | false =>
      rw [process_naive keys zoned]
      exact ⟨rfl, tracks.skip⟩
    | true =>
      have owned := delivery_keys_ok (tracks.known delivery (List.mem_cons_self ..)) keys
      have time : delivery.received_at.instant ∈ received (delivery :: coming) := by
        rw [received_cons, if_pos zoned]; exact List.mem_cons_self ..
      have past : ∀ e ∈ history, e.time ≤ delivery.received_at.as_utc.instant := by
        rw [Datetime.instant_as_utc]; exact tracks.later _ time
      obtain ⟨decision, decided, decides⟩ := decide_delivery_decides (tracks.keys group_key) past
        (latest_owned collision_free tracks.owned owned) fingerprint delivery.canonical
      rw [Datetime.instant_as_utc] at decides
      rw [← tracks.same_window] at decided
      obtain ⟨dedupe, info, agrees⟩ := decides.answered
      rw [process_ok keys zoned decided info]
      refine ⟨agrees, tracks.same_window, tracks.skip.known, ?_, tracks.skip.ordered, ?_, ?_⟩
      · intro t inside e earlier
        rcases List.mem_cons.mp earlier with rfl | earlier
        · have ordered := tracks.ordered
          rw [received_cons, if_pos zoned] at ordered
          exact (List.pairwise_cons.mp ordered).1 t inside
        · exact tracks.skip.later t inside e earlier
      · intro e inside
        rcases List.mem_cons.mp inside with rfl | earlier
        · exact owned
        · exact tracks.owned e earlier
      · intro key
        have put := Table.get_put memory.groups decision.group key
        rw [decides.group_key] at put
        by_cases mine : group_key = key
        · subst mine
          have stored : (memory.groups.put decision.group).get group_key = some decision.group := put.trans (if_pos rfl)
          exact stored ▸ decides.tracks
        · have kept : (memory.groups.put decision.group).get key = memory.groups.get key := put.trans (if_neg mine)
          exact kept ▸ (tracks.keys key).other mine
end

/-- Over every run of deliveries in order of reception, the deduplicator answers as the
    definition over the full history does. -/
theorem process_agrees_with_history (sha256 : Json → String) (window : Window) (deliveries : List Delivery)
    (collision_free : CollisionFree sha256 (deliveries.map Delivery.alert))
    (ordered : (received deliveries).Pairwise (· ≤ ·)) :
    (Runs.trace (deliver sha256) { window } deliveries).1.map observed =
      (Runs.trace (record sha256 window) [] deliveries).1 := by
  have start : Tracks sha256 (deliveries.map Delivery.alert) window deliveries { window } [] :=
    ⟨rfl, fun _ inside => List.mem_map_of_mem inside, fun _ _ _ none => absurd none List.not_mem_nil, ordered,
      fun _ none => absurd none List.not_mem_nil, fun _ _ none => absurd none List.not_mem_nil⟩
  obtain ⟨answers, _⟩ := @Runs.lockstep _ _ _ _ _ (deliver sha256) (record sha256 window) (fun o o' => observed o = o')
    (Tracks sha256 (deliveries.map Delivery.alert) window)
    (fun _ _ _ _ tracks => deliver_tracks collision_free tracks) _ _ _ start
  rw [← List.forall₂_eq_eq_eq]
  exact List.forall₂_map_left_iff.mpr answers

/-- One failed login delivered four times with a window of a minute: its event, the same
    event within the window and past it, and the event again two windows later. -/
def failed_logins : List Delivery :=
  [(1, 0), (2, 60), (3, 121), (4, 300)].map (fun (firedtimes, at_seconds) =>
    { alert := failed_login firedtimes
      canonical := failed_login_alert "a1" (Datetime.of_instant (seconds at_seconds))
      received_at := Datetime.of_instant (seconds at_seconds) })

theorem failed_logins_agree_with_history :
    CollisionFree failed_login_digest (failed_logins.map Delivery.alert) ∧ (received failed_logins).Pairwise (· ≤ ·) ∧
    (Runs.trace (deliver failed_login_digest) { window := ⟨60, by decide⟩ } failed_logins).1.map observed =
      (Runs.trace (record failed_login_digest ⟨60, by decide⟩) [] failed_logins).1 :=
  ⟨failed_login_collision_free [1, 2, 3, 4], by decide,
    process_agrees_with_history failed_login_digest ⟨60, by decide⟩ failed_logins
      (failed_login_collision_free [1, 2, 3, 4]) (by decide)⟩

example : (Runs.trace (record failed_login_digest ⟨60, by decide⟩) [] failed_logins).1.map
    (fun answer => answer.map (fun answer => (answer.status, answer.generation, answer.duplicate_deliveries))) =
    [some (.NEW_GENERATION, 1, 0), some (.EXACT_DUPLICATE, 1, 1), some (.NEW_GENERATION, 2, 0),
      some (.NEW_GENERATION, 3, 0)] := by decide

end SocTriage.DedupeHistory
