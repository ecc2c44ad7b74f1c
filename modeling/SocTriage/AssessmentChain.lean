import SocTriage.Interleaving
import SocTriage.FailedLookups

/-!
The audit trail of an alert's assessments under interleaved writers. An ingest records the
alert in one transaction and its assessment in a later one, a late-enrichment pass reads
the alert, asks its providers and writes afterwards; neither checks at its write that the
assessment it replaces is still the one it read.
-/
namespace SocTriage.AssessmentChain
open Audit Assessment Ingest
open LateEnrichment (LateEnrichmentService changed changed_some)
open PersistentDeduplication (process process_cases deliver deliver_recorded)

/-! ### Chains -/

section
variable {α : Type}

/-- Steps that lead from one value to another, each from where the one before it ended. -/
def Chain : α → List (α × α) → α → Prop
  | first, [], last => first = last
  | first, (before, after) :: rest, last => before = first ∧ Chain after rest last

def decideChain [DecidableEq α] : ∀ (first : α) (links : List (α × α)) (last : α), Decidable (Chain first links last)
  | first, [], last => inferInstanceAs (Decidable (first = last))
  | first, (before, after) :: rest, last =>
    @instDecidableAnd _ _ (inferInstanceAs (Decidable (before = first))) (decideChain after rest last)

instance [DecidableEq α] (first : α) (links : List (α × α)) (last : α) : Decidable (Chain first links last) :=
  decideChain first links last

theorem chain_append {first last before after : α} {links : List (α × α)} :
    Chain first (links ++ [(before, after)]) last ↔ Chain first links before ∧ after = last := by
  induction links generalizing first with
  | nil => simp only [List.nil_append, Chain, eq_comm]
  | cons link rest ih => simp only [List.cons_append, Chain, ih, and_assoc]

/-- The steps and where they start determine where they end. -/
theorem chain_unique {first last last' : α} {links : List (α × α)} (chain : Chain first links last)
    (chain' : Chain first links last') : last = last' := by
  induction links generalizing first with
  | nil => exact chain.symm.trans chain'
  | cons link rest ih => exact ih chain.2 chain'.2
end

/-! ### The trail of an alert -/

/-- The snapshots before and after of the rows of one action about one alert, in the order of their ids. -/
def links (action : String) (alert_id : UUID) (log : List AuditEvent) : List (Option JsonObject × Option JsonObject) :=
  (log.filter (fun row => row.action = action ∧ row.entity_id = alert_id)).map (fun row => (row.before, row.after))

/-- The rows about the score and about the decision of an alert lead from nothing to the stored assessment. -/
def Traced (db : Database) (row : Alert) : Prop :=
  Chain none (links ACTION_ALERT_SCORED row.alert_id db.audit_log) (row.normalized_payload.risk.map risk_snapshot) ∧
    Chain none (links ACTION_ALERT_DECIDED row.alert_id db.audit_log) (row.normalized_payload.decision.map decision_snapshot)

instance (db : Database) (row : Alert) : Decidable (Traced db row) := inferInstanceAs (Decidable (_ ∧ _))

/-! ### The writers -/

inductive Request where
  | ingest (delivery : Delivery)
  | late (service : LateEnrichmentService) (alert_id : UUID) (decided_at : Option Datetime)

/-- Which transaction of a writer comes next. -/
inductive Progress where
  | recording (delivery : Delivery)
  | reading (service : LateEnrichmentService) (alert_id : UUID) (decided_at : Option Datetime)
  | persisting (request : Assessment.Request)

def advance (pipeline : Pipeline) (fault : Bool) (progress : Progress) (db : Database) : Database × Option Progress :=
  match progress with
  | .recording delivery =>
    match process pipeline.sha256 pipeline.window delivery.alert delivery.canonical delivery.received_at fault db with
    | (.error _, db) => (db, none)
    | (.ok outcome, db) =>
      (db, if outcome.status = .EXACT_DUPLICATE then none else some (.persisting (assessment pipeline delivery outcome)))
  | .reading service alert_id decided_at =>
    (db, if fault then none
      else (db.alerts.get alert_id).bind (fun row => (changed service row decided_at).map .persisting))
  | .persisting request => ((persist_assessment request fault db).2, none)

def machine (pipeline : Pipeline) : Interleaving.Machine Database Empty Request Progress where
  alone := fun whole => whole.elim
  launch
    | .ingest delivery => .recording delivery
    | .late service alert_id decided_at => .reading service alert_id decided_at
  advance := advance pipeline

abbrev Config := Interleaving.Config Database Progress
abbrev Event := Interleaving.Event Empty Request

/-- What a run of the writers leaves, from an empty database. -/
def after (pipeline : Pipeline) (events : List Event) : Config :=
  Runs.run (Interleaving.step (machine pipeline)) { shared := {} } events

/-- The assessment that is replaced is, as a snapshot, the one the writer read. -/
def Unreplaced (request : Assessment.Request) (db : Database) : Prop :=
  ∀ row ∈ db.alerts.get request.alert_id,
    request.previous_risk.map risk_snapshot = row.normalized_payload.risk.map risk_snapshot ∧
      request.previous_decision.map decision_snapshot = row.normalized_payload.decision.map decision_snapshot

/-- An assessment that commits replaces the one its writer read. -/
def Current (config : Config) : Event → Prop
  | .advance op fault =>
    match config.progress op with
    | some (.persisting request) =>
      (assess request config.shared).isOk = true → fault = false → Unreplaced request config.shared
    | _ => True
  | _ => True

/-! ### What the transactions append -/

private theorem links_append (action : String) (alert_id : UUID) (log rows : List AuditEvent) :
    links action alert_id (log ++ rows) = links action alert_id log ++ links action alert_id rows := by
  rw [links, List.filter_append, List.map_append]
  rfl

private theorem links_none {action : String} {alert_id : UUID} {rows : List AuditEvent}
    (other : ∀ row ∈ rows, row.action = action → row.entity_id ≠ alert_id) : links action alert_id rows = [] := by
  rw [links, List.filter_eq_nil_iff.mpr, List.map_nil]
  intro row inside chosen
  obtain ⟨same, mine⟩ := of_decide_eq_true chosen
  exact other row inside same mine

/-- The actions whose rows make up the trail. -/
def Assesses (action : String) : Prop := action = ACTION_ALERT_SCORED ∨ action = ACTION_ALERT_DECIDED

private theorem incident_created_other : ¬Assesses ACTION_INCIDENT_CREATED := by rw [Assesses]; decide

private theorem decision_rows {decision : Deduplication.DeliveryDecision} {occurred_at : Int} {row : AuditEvent}
    (inside : row ∈ (audit_entries_for_decision decision).map (Database.audit_row occurred_at)) : ¬Assesses row.action := by
  obtain ⟨entry, listed, rfl⟩ := List.mem_map.mp inside
  have actions : entry.action ∈ [ACTION_GENERATION_STARTED, ACTION_ALERT_CREATED, ACTION_DUPLICATE_ABSORBED,
      ACTION_CONTENT_DIVERGENCE] := by
    rw [audit_entries_for_decision] at listed
    simp only [List.mem_append] at listed
    rcases listed with (listed | listed) | listed
    all_goals
      split at listed
      · rw [List.mem_singleton.mp listed]; simp
      · first
          | exact absurd listed List.not_mem_nil
          | (rw [List.mem_singleton.mp listed]; simp)
  intro assesses
  have disjoint : ∀ action ∈ [ACTION_GENERATION_STARTED, ACTION_ALERT_CREATED, ACTION_DUPLICATE_ABSORBED,
      ACTION_CONTENT_DIVERGENCE], ¬(action = ACTION_ALERT_SCORED ∨ action = ACTION_ALERT_DECIDED) := by decide
  exact disjoint _ actions assesses

/-- An assessment appends one step to each trail of its alert, and none to another's. -/
private theorem committed_links {request : Assessment.Request} {db db' : Database} {incident_id : Option String}
    (committed : Committed request db incident_id db') (alert_id : UUID) :
    links ACTION_ALERT_SCORED alert_id db'.audit_log = links ACTION_ALERT_SCORED alert_id db.audit_log ++
        (if alert_id = request.alert_id then
          [(request.previous_risk.map risk_snapshot, some (risk_snapshot request.risk))] else []) ∧
      links ACTION_ALERT_DECIDED alert_id db'.audit_log = links ACTION_ALERT_DECIDED alert_id db.audit_log ++
        (if alert_id = request.alert_id then
          [(request.previous_decision.map decision_snapshot, some (decision_snapshot request.decision))] else []) := by
  obtain ⟨opened, log, actions⟩ := committed.audit_log
  have silent : ∀ action, Assesses action → links action alert_id opened = [] := by
    intro action assesses
    refine links_none (fun row inside same => ?_)
    rw [← same, actions row inside] at assesses
    exact absurd assesses incident_created_other
  rw [log, links_append, links_append, links_append, links_append, silent _ (.inl rfl), silent _ (.inr rfl), List.append_nil,
    List.append_nil]
  by_cases mine : alert_id = request.alert_id
  · rw [if_pos mine, if_pos mine, mine]
    refine ⟨congrArg _ ?_, congrArg _ ?_⟩
    · simp [links, audit_entries_for_assessment, Database.audit_row, ACTION_ALERT_SCORED, ACTION_ALERT_DECIDED]
    · simp [links, audit_entries_for_assessment, Database.audit_row, ACTION_ALERT_SCORED, ACTION_ALERT_DECIDED]
  · rw [if_neg mine, if_neg mine, List.append_nil, List.append_nil]
    have other : ∀ action, links action alert_id ((audit_entries_for_assessment request.alert_id request.risk
        request.decision request.previous_risk request.previous_decision).map
        (Database.audit_row request.occurred_at)) = [] := by
      intro action
      refine links_none (fun row inside _ same => ?_)
      obtain ⟨entry, listed, rfl⟩ := List.mem_map.mp inside
      rcases List.mem_pair.mp listed with rfl | rfl
      · exact mine same.symm
      · exact mine same.symm
    rw [other, other, List.append_nil, List.append_nil]
    exact ⟨rfl, rfl⟩

/-! ### What a transaction keeps -/

/-- Every trail leads to its alert's stored assessment, and there is none without an alert. -/
structure Trailed (db : Database) : Prop where
  traced : ∀ row ∈ db.alerts.rows, Traced db row
  stored : ∀ entry ∈ db.audit_log, Assesses entry.action → db.alerts.has entry.entity_id = true

/-- The request writes the risk and the decision it is recorded with. -/
def WritesItsAssessment (request : Assessment.Request) : Prop :=
  request.canonical.risk = some request.risk ∧ request.canonical.decision = some request.decision

private theorem recorded_trailed {pipeline : Pipeline} {delivery : Delivery} {fault : Bool} {db : Database}
    (trailed : Trailed db) :
    Trailed (process pipeline.sha256 pipeline.window delivery.alert delivery.canonical delivery.received_at fault db).2 := by
  rcases process_cases pipeline.sha256 pipeline.window delivery.alert delivery.canonical delivery.received_at fault db with
    ⟨e, same⟩ | ⟨result, db', group_key, identity, fingerprint, decision, same, executed, _⟩
  · rw [same]; exact trailed
  rw [same]
  have log := PersistentDeduplication.deliver_audit_log executed
  have quiet : ∀ action, Assesses action →
    ∀ alert_id, links action alert_id db'.audit_log = links action alert_id db.audit_log := by
    intro action assesses alert_id
    rw [log, links_append, links_none (fun row inside equal => absurd (equal ▸ assesses) (decision_rows inside)),
      List.append_nil]
  have entries : ∀ entry ∈ db'.audit_log, Assesses entry.action → entry ∈ db.audit_log := by
    intro entry inside assesses
    rw [log, List.mem_append] at inside
    exact inside.resolve_right (fun new => decision_rows new assesses)
  obtain ⟨_, ⟨_, alerts, _⟩ | ⟨_, row, dedupe, inserted, _, _, payload, _⟩⟩ := deliver_recorded executed
  · refine ⟨fun row inside => ?_, fun entry inside assesses => ?_⟩
    · rw [alerts] at inside
      rw [Traced, quiet _ (.inl rfl), quiet _ (.inr rfl)]
      exact trailed.traced row inside
    · rw [alerts]
      exact trailed.stored entry (entries entry inside assesses) assesses
  · refine ⟨fun other inside => ?_, fun entry inside assesses => ?_⟩
    · rw [Traced, quiet _ (.inl rfl), quiet _ (.inr rfl)]
      rcases (Table.mem_insert inserted).mp inside with old | rfl
      · exact trailed.traced other old
      · have none_yet : ∀ action, Assesses action → links action other.alert_id db.audit_log = [] := by
          intro action assesses
          refine links_none (fun entry inside equal mine => ?_)
          have has := trailed.stored entry inside (equal ▸ assesses)
          rw [mine, Table.has, Table.insert_fresh inserted] at has
          contradiction
        rw [none_yet _ (.inl rfl), none_yet _ (.inr rfl), payload]
        exact ⟨rfl, rfl⟩
    · obtain ⟨old, stored, key⟩ := Table.has_iff.mp (trailed.stored entry (entries entry inside assesses) assesses)
      exact Table.has_iff.mpr ⟨old, (Table.mem_insert inserted).mpr (.inl stored), key⟩

private theorem persisted_trailed {request : Assessment.Request} {db db' : Database} {incident_id : Option String}
    (trailed : Trailed db) (writes : WritesItsAssessment request)
    (known : ∃ alert, db.alerts.get request.alert_id = some alert)
    (committed : Committed request db incident_id db') (unreplaced : Unreplaced request db) : Trailed db' := by
  obtain ⟨alert, found⟩ := known
  constructor
  · intro row inside
    have after := committed.alerts row.alert_id
    obtain ⟨scored, decided⟩ := committed_links committed row.alert_id
    rw [Table.get_of_mem inside] at after
    by_cases mine : row.alert_id = request.alert_id
    · rw [if_pos mine, found, Option.map_some, Option.some.injEq] at after
      have payload : row.normalized_payload = request.canonical := by rw [after]; rfl
      obtain ⟨same_risk, same_decision⟩ := unreplaced alert found
      obtain ⟨trail, trail'⟩ := trailed.traced alert (Table.get_mem found)
      have key : alert.alert_id = request.alert_id := Table.get_key found
      rw [if_pos mine] at scored decided
      rw [Traced, scored, decided, chain_append, chain_append, payload, writes.1, writes.2, same_risk, same_decision,
        mine, ← key]
      exact ⟨⟨trail, rfl⟩, trail', rfl⟩
    · rw [if_neg mine] at after
      rw [if_neg mine, List.append_nil] at scored decided
      rw [Traced, scored, decided]
      exact trailed.traced row (Table.get_mem after.symm)
  · have kept : ∀ id, db.alerts.has id = true → db'.alerts.has id = true := by
      intro id has
      rw [Table.has, committed.alerts]
      split
      · rw [found]; rfl
      · exact has
    obtain ⟨opened, log, actions⟩ := committed.audit_log
    intro entry inside assesses
    rw [log, List.mem_append, List.mem_append] at inside
    rcases inside with (old | new) | other
    · exact kept _ (trailed.stored entry old assesses)
    · have own : entry.entity_id = request.alert_id := by
        obtain ⟨written, listed, rfl⟩ := List.mem_map.mp new
        rcases List.mem_pair.mp listed with rfl | rfl <;> rfl
      rw [own]
      exact kept _ (by rw [Table.has, found]; rfl)
    · rw [actions entry other] at assesses
      exact absurd assesses incident_created_other

/-! ### Runs -/

/-- What a writer in progress is known to write. -/
def Relies : Progress → Prop
  | .persisting request => WritesItsAssessment request
  | _ => True

private theorem advance_relies {pipeline : Pipeline} {fault : Bool} {progress next : Progress} {db : Database}
    (goes_on : (advance pipeline fault progress db).2 = some next) : Relies next := by
  cases progress with
  | recording delivery =>
    rw [advance] at goes_on
    split at goes_on
    · contradiction
    · dsimp only at goes_on
      split at goes_on
      · contradiction
      · cases goes_on; exact ⟨rfl, rfl⟩
  | reading service alert_id decided_at =>
    rw [advance] at goes_on
    dsimp only at goes_on
    split at goes_on
    · contradiction
    · obtain ⟨row, _, mapped⟩ := Option.bind_eq_some_iff.mp goes_on
      obtain ⟨request, differs, rfl⟩ := Option.map_eq_some_iff.mp mapped
      obtain ⟨_, _, _, _, risk, decision, _⟩ := changed_some differs
      exact ⟨risk, decision⟩
  | persisting request => contradiction

/-- An unreplaced assessment keeps every trail. -/
private theorem persist_trailed {request : Assessment.Request} {fault : Bool} {db : Database} (trailed : Trailed db)
    (writes : WritesItsAssessment request)
    (current : (assess request db).isOk = true → fault = false → Unreplaced request db) :
    Trailed (persist_assessment request fault db).2 := by
  rcases persist_assessment_cases request fault db with ⟨incident_id, db', same, works, executed⟩ | ⟨result, same, _⟩
  · rw [same]
    have unreplaced := current (by rw [executed]; rfl) works
    obtain ⟨known, committed⟩ := assess_ok executed
    exact persisted_trailed trailed writes known committed unreplaced
  · rw [same]; exact trailed

def outline (pipeline : Pipeline) : Interleaving.Outline (machine pipeline) Current where
  Inv := Trailed
  Relies := fun _ progress => Relies progress
  Guarantees := fun _ _ => True
  refl := fun _ => trivial
  trans := fun _ _ => trivial
  stable := fun _ relies => relies
  launch := by
    intro db request _
    cases request <;> trivial
  alone := fun _ whole => whole.elim
  advance := by
    intro config op fault progress running current trailed relies
    refine ⟨trivial, ?_, fun next goes_on => advance_relies goes_on⟩
    cases progress with
    | recording delivery =>
      have recorded := @recorded_trailed pipeline delivery fault _ trailed
      show Trailed (advance pipeline fault (.recording delivery) config.shared).1
      rw [advance]
      split <;> (rename_i same; rw [same] at recorded; exact recorded)
    | reading service alert_id decided_at => exact trailed
    | persisting request =>
      rw [Current, running] at current
      exact persist_trailed trailed relies current

private theorem after_snoc (pipeline : Pipeline) (first : List Event) (event : Event) :
    after pipeline (first ++ [event]) = Interleaving.step (machine pipeline) (after pipeline first) event := by
  rw [after, Runs.run_append]
  rfl

/-- Where the trails are chains before and after an assessment commits, it replaces the one its writer read. -/
private theorem traced_unreplaced {request : Assessment.Request} {db db' : Database} {incident_id : Option String}
    (committed : Committed request db incident_id db') (traced : ∀ row ∈ db.alerts.rows, Traced db row)
    (traced' : ∀ row ∈ db'.alerts.rows, Traced db' row) : Unreplaced request db := by
  intro row found
  have key : row.alert_id = request.alert_id := Table.get_key found
  have found' : db'.alerts.get request.alert_id = some (assessed_row request incident_id row) := by
    rw [committed.alerts, if_pos rfl, found, Option.map_some]
  obtain ⟨scored, decided⟩ := committed_links committed request.alert_id
  rw [if_pos rfl] at scored decided
  obtain ⟨trail, trail'⟩ := traced row (Table.get_mem found)
  obtain ⟨longer, longer'⟩ := traced' _ (Table.get_mem found')
  have own : (assessed_row request incident_id row).alert_id = request.alert_id := key
  rw [key] at trail trail'
  rw [own, scored] at longer
  rw [own, decided] at longer'
  exact ⟨chain_unique (chain_append.mp longer).1 trail, chain_unique (chain_append.mp longer').1 trail'⟩

/-- In every interleaving of ingests and late enrichments the trails of all alerts are chains that end in the stored
    assessments, in every state, exactly when every assessment that commits replaces the one its writer read. -/
theorem trails_are_chains_iff (pipeline : Pipeline) (events : List Event) :
    (∀ first rest, events = first ++ rest →
      ∀ row ∈ (after pipeline first).shared.alerts.rows, Traced (after pipeline first).shared row) ↔
    Runs.Along (Interleaving.step (machine pipeline)) Current { shared := {} } events := by
  constructor
  · intro traced
    rw [Runs.along_iff]
    rintro first event rest rfl
    have before := traced first (event :: rest) rfl
    have later := traced (first ++ [event]) rest (by rw [List.append_assoc]; rfl)
    rw [after_snoc] at later
    show Current (after pipeline first) event
    cases event with
    | alone whole => trivial
    | launch op request => trivial
    | advance op fault =>
      rw [Current]
      split
      · rename_i request running
        intro executed works
        rw [Interleaving.step, running] at later
        have later : ∀ row ∈ (persist_assessment request fault (after pipeline first).shared).2.alerts.rows,
            Traced (persist_assessment request fault (after pipeline first).shared).2 row := later
        rcases persist_assessment_cases request fault (after pipeline first).shared with
          ⟨incident_id, db', same, _, assessed⟩ | ⟨result, same, failed⟩
        · rw [same] at later
          exact traced_unreplaced (assess_ok assessed).2 before later
        · cases assessed : assess request (after pipeline first).shared with
          | error e => rw [assessed] at executed; contradiction
          | ok value =>
            have done : persist_assessment request fault (after pipeline first).shared = (.ok ⟨value.1, true⟩, value.2) := by
              rw [persist_assessment, works]
              simp only [Bool.false_eq_true, ↓reduceIte, Database.session_scope_ok assessed]
            rw [done] at same
            exact absurd (Prod.mk.inj same).1.symm (failed value.1)
      · trivial
  · rintro current first rest rfl
    obtain ⟨allowed, _⟩ := Runs.along_append.mp current
    have start : (outline pipeline).Holds { shared := {} } :=
      ⟨⟨fun _ none => absurd none List.not_mem_nil, fun _ none => absurd none List.not_mem_nil⟩,
        fun _ _ none => by contradiction⟩
    exact ((outline pipeline).sound start allowed).2.1.traced

/-- The delivery of a failed login from one address whose lookup timed out. -/
def timed_out : Delivery :=
  LateEnrichment.enriched_delivery
    { failed_login_delivery "a1" 0 with iocs := [{ type := .IPV4, value := "203.0.113.7" }] }
    [FailedLookups.virustotal .timeout]

/-- A late enrichment that gets the verdict. -/
def verdict_service : LateEnrichmentService :=
  ⟨[FailedLookups.virustotal (.response 200 (some (.obj [])))], alarming.score, alarming.decide⟩

/-- The alert is recorded, and before its assessment is written, a pass reads it, gets the verdict and writes. -/
def overtaken : List Event :=
  [.launch 0 (.ingest timed_out), .advance 0 false, .launch 1 (.late verdict_service "a1" none), .advance 1 false,
    .advance 1 false, .advance 0 false]

/-- The ingest then writes the assessment without the verdict, as the first one. -/
theorem overtaken_trail_breaks : ¬ ∀ (pipeline : Pipeline) (events first rest : List Event), events = first ++ rest →
    ∀ row ∈ (after pipeline first).shared.alerts.rows, Traced (after pipeline first).shared row := by
  intro always
  have traced := always alarming overtaken overtaken [] (List.append_nil _).symm
  revert traced
  decide

example : (links ACTION_ALERT_SCORED "a1" (after alarming overtaken).shared.audit_log).map (fun link => link.1.isSome) =
    [false, false] := by decide

end SocTriage.AssessmentChain
