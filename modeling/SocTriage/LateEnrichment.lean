import SocTriage.Enrichment
import SocTriage.Ingest

/-!
Late enrichment: an alert of record is enriched again, and scored and decided on again
when the fingerprint of its enrichment has changed; a sweep does that to the oldest
alerts of its lookback window, one unit of work each. Runs mix deliveries and sweeps.
-/
namespace SocTriage.LateEnrichment
open Assessment Enrichment
open Ingest (Pipeline Delivery Faults ingest_alert)

/-! ### The service -/

structure LateEnrichmentService where
  enrichment_chain : List Provider
  scorer : CanonicalAlert → RiskAssessment
  decider : RiskAssessment → CanonicalAlert → Datetime → Decision

structure LateEnrichmentResult where
  canonical : CanonicalAlert
  previous_risk : Option RiskAssessment
  previous_decision : Option Decision
deriving DecidableEq

/-- The alert with an enrichment outcome. -/
def enriched (canonical : CanonicalAlert) (enrichment : EnrichmentOutcome) : CanonicalAlert :=
  { canonical with iocs := enrichment.iocs, enrichment_status := some enrichment.status.value }

/-- Score and decision of an alert under an enrichment outcome. -/
def reassessed (self : LateEnrichmentService) (canonical : CanonicalAlert) (enrichment : EnrichmentOutcome)
    (decided_at : Option Datetime) : RiskAssessment × Decision × LateEnrichmentResult :=
  let enriched := enriched canonical enrichment
  let risk := self.scorer enriched
  let decision := self.decider risk enriched (decided_at.getD enriched.received_at)
  (risk, decision, {
    canonical := { enriched with risk := some risk, decision := some decision }
    previous_risk := canonical.risk
    previous_decision := canonical.decision })

def reassess (self : LateEnrichmentService) (canonical : CanonicalAlert) (decided_at : Option Datetime) :
    LateEnrichmentResult :=
  (reassessed self canonical (enrich self.enrichment_chain canonical.iocs) decided_at).2.2

/-- The assessment of an alert row whose enrichment has changed, from the payload that was read. -/
def changed (self : LateEnrichmentService) (row : Alert) (decided_at : Option Datetime) : Option Request :=
  let canonical := row.normalized_payload
  let enrichment := enrich self.enrichment_chain canonical.iocs
  if enrichment_fingerprint enrichment.iocs = enrichment_fingerprint canonical.iocs then none
  else
    let (risk, decision, result) := reassessed self canonical enrichment decided_at
    some {
      alert_id := row.alert_id
      canonical := result.canonical
      risk
      decision
      dedupe_group_key := row.dedupe_group_key
      occurred_at := (decided_at.getD result.canonical.received_at).instant
      previous_risk := result.previous_risk
      previous_decision := result.previous_decision }

/-- Where the storage fails while one alert is reassessed. -/
structure AlertFaults where
  read : Bool := false
  persist : Bool := false

def reassess_persisted_if_changed (self : LateEnrichmentService) (alert_id : UUID) (decided_at : Option Datetime)
    (faults : AlertFaults) (db : Database) :
    Except Error (Option (LateEnrichmentResult × AssessmentPersistResult)) × Database :=
  if faults.read then (.error .database, db)
  else
    match db.alerts.get alert_id with
    | none => (.error (.lookup ("alert " ++ alert_id ++ " not found")), db)
    | some row =>
      match changed self row decided_at with
      | none => (.ok none, db)
      | some request =>
        match persist_assessment request faults.persist db with
        | (.error e, db) => (.error e, db)
        | (.ok persistence, db) =>
          (.ok (some (⟨request.canonical, request.previous_risk, request.previous_decision⟩, persistence)), db)

/-! ### The sweep -/

/-- `ORDER BY received_at, alert_id`. -/
def by_received (a b : Alert) : Prop :=
  a.received_at < b.received_at ∨ (a.received_at = b.received_at ∧ a.alert_id ≤ b.alert_id)

instance : DecidableRel by_received := fun _ _ => inferInstanceAs (Decidable (_ ∨ _))

def list_alerts_received_since (db : Database) (since : Int) (limit : Nat) : List Alert :=
  ((db.alerts.rows.filter (fun row => row.received_at ≥ since)).insertionSort by_received).take limit

def BATCH_LIMIT : Nat := 200

structure SweepStats where
  candidates : Nat := 0
  reassessed : Nat := 0
  unchanged : Nat := 0
  errors : Nat := 0
deriving DecidableEq, Repr

/-- One pass: its arguments, the service as each alert's lookups find the providers, and where the storage fails. -/
structure Pass where
  lookback_seconds : Int
  as_of : Datetime
  service : UUID → LateEnrichmentService
  list_fault : Bool := false
  faults : UUID → AlertFaults := fun _ => {}

/-- The lower bound of the window. -/
def Pass.since (pass : Pass) : Int := pass.as_of.instant - pass.lookback_seconds * 1000000

/-- The alerts one pass goes through. -/
def Pass.candidates (pass : Pass) (db : Database) : List Alert :=
  list_alerts_received_since db pass.since BATCH_LIMIT

/-- One candidate; an exception is counted and the next candidate is tried. -/
def sweep_candidate (pass : Pass) (state : SweepStats × Database) (candidate : Alert) : SweepStats × Database :=
  let (stats, db) := state
  match reassess_persisted_if_changed (pass.service candidate.alert_id) candidate.alert_id (some pass.as_of)
      (pass.faults candidate.alert_id) db with
  | (.ok none, db) => ({ stats with unchanged := stats.unchanged + 1 }, db)
  | (.ok (some _), db) => ({ stats with reassessed := stats.reassessed + 1 }, db)
  | (.error _, db) => ({ stats with errors := stats.errors + 1 }, db)

def sweep_once (pass : Pass) (db : Database) : Except Error SweepStats × Database :=
  if pass.lookback_seconds < 1 then (.error (.value "lookback_seconds must be >= 1"), db)
  else if pass.list_fault then (.error .database, db)
  else
    let candidates := pass.candidates db
    let (stats, db) := Runs.run (sweep_candidate pass) ({ candidates := candidates.length }, db) candidates
    (.ok stats, db)

/-! ### What one reassessment does -/

section
variable {self : LateEnrichmentService} {alert_id : UUID} {decided_at : Option Datetime} {faults : AlertFaults}
  {db : Database}

theorem changed_some {row : Alert} {request : Request} (differs : changed self row decided_at = some request) :
    enrichment_fingerprint (enrich self.enrichment_chain row.normalized_payload.iocs).iocs ≠
      enrichment_fingerprint row.normalized_payload.iocs ∧
    request.alert_id = row.alert_id ∧ request.dedupe_group_key = row.dedupe_group_key ∧
    request.canonical = (reassess self row.normalized_payload decided_at).canonical ∧
    request.canonical.risk = some request.risk ∧ request.canonical.decision = some request.decision ∧
    request.previous_risk = row.normalized_payload.risk ∧ request.previous_decision = row.normalized_payload.decision := by
  rw [changed] at differs
  dsimp only at differs
  split at differs
  · contradiction
  · rename_i different
    cases differs
    exact ⟨different, rfl, rfl, rfl, rfl, rfl, rfl, rfl⟩

theorem changed_none {row : Alert} : changed self row decided_at = none ↔
    enrichment_fingerprint (enrich self.enrichment_chain row.normalized_payload.iocs).iocs =
      enrichment_fingerprint row.normalized_payload.iocs := by
  rw [changed]
  dsimp only
  split
  · rename_i same; exact iff_of_true rfl same
  · rename_i different; exact iff_of_false (Option.some_ne_none _) different

/-- A reassessment leaves the database as it is, or commits the assessment of an alert whose enrichment changed. -/
theorem reassess_cases (self : LateEnrichmentService) (alert_id : UUID) (decided_at : Option Datetime)
    (faults : AlertFaults) (db : Database) :
    (reassess_persisted_if_changed self alert_id decided_at faults db).2 = db ∨
    ∃ row request incident_id, faults.read = false ∧ faults.persist = false ∧ db.alerts.get alert_id = some row ∧
      changed self row decided_at = some request ∧
      Committed request db incident_id (reassess_persisted_if_changed self alert_id decided_at faults db).2 := by
  rw [reassess_persisted_if_changed]
  cases readable : faults.read with
  | true => exact .inl rfl
  | false =>
    simp only [Bool.false_eq_true, ↓reduceIte]
    cases found : db.alerts.get alert_id with
    | none => exact .inl rfl
    | some row =>
      dsimp only
      cases differs : changed self row decided_at with
      | none => exact .inl rfl
      | some request =>
        dsimp only
        rcases persist_assessment_cases request faults.persist db with
          ⟨incident_id, after, same, works, executed⟩ | ⟨result, same, _⟩
        · rw [same]
          exact .inr ⟨row, request, incident_id, trivial, works, rfl, differs, (assess_ok executed).2⟩
        · rw [same]
          cases result <;> exact .inl rfl

/-- Another alert is left alone. -/
theorem reassess_other {other : UUID} (different : other ≠ alert_id) :
    (reassess_persisted_if_changed self alert_id decided_at faults db).2.alerts.get other = db.alerts.get other := by
  rcases reassess_cases self alert_id decided_at faults db with same | ⟨row, request, _, _, _, found, differs, committed⟩
  · rw [same]
  · have key : row.alert_id = alert_id := Table.get_key found
    rw [committed.alerts, if_neg]
    rw [(changed_some differs).2.1, key]
    exact different

/-- No alert is added, and none is lost. -/
theorem reassess_has (other : UUID) :
    (reassess_persisted_if_changed self alert_id decided_at faults db).2.alerts.has other = db.alerts.has other := by
  rcases reassess_cases self alert_id decided_at faults db with same | ⟨_, request, _, _, _, _, _, committed⟩
  · rw [same]
  · rw [Table.has, committed.alerts, Table.has]
    by_cases mine : other = request.alert_id
    · rw [if_pos mine, Option.isSome_map, mine]
    · rw [if_neg mine]
end

/-! ### What one pass does -/

/-- The candidates of a pass are pairwise different alerts. -/
theorem candidates_nodup (pass : Pass) (db : Database) : ((pass.candidates db).map Alert.alert_id).Nodup := by
  have sublist : ((pass.candidates db).map Alert.alert_id).Sublist
      (((db.alerts.rows.filter (fun row => row.received_at ≥ pass.since)).insertionSort by_received).map Alert.alert_id) :=
    (List.take_sublist _ _).map _
  have perm := (List.perm_insertionSort by_received (db.alerts.rows.filter (fun row => row.received_at ≥ pass.since))).map
    Alert.alert_id
  exact (perm.nodup_iff.mpr (db.alerts.unique.sublist (List.filter_sublist.map _))).sublist sublist

theorem candidates_mem {pass : Pass} {db : Database} {row : Alert} (inside : row ∈ pass.candidates db) :
    row ∈ db.alerts.rows := by
  have member := List.mem_of_mem_take inside
  rw [List.mem_insertionSort, List.mem_filter] at member
  exact member.1

theorem sweep_candidate_database (pass : Pass) (state : SweepStats × Database) (candidate : Alert) :
    (sweep_candidate pass state candidate).2 = (reassess_persisted_if_changed (pass.service candidate.alert_id)
      candidate.alert_id (some pass.as_of) (pass.faults candidate.alert_id) state.2).2 := by
  rw [sweep_candidate]
  split <;> (rename_i same; rw [same])

private theorem run_has {pass : Pass} (candidates : List Alert) (state : SweepStats × Database) (other : UUID) :
    (Runs.run (sweep_candidate pass) state candidates).2.alerts.has other = state.2.alerts.has other := by
  induction candidates generalizing state with
  | nil => rfl
  | cons candidate rest ih => rw [Runs.run, ih, sweep_candidate_database, reassess_has]

/-- An alert that is not among the candidates is left alone. -/
private theorem run_other {pass : Pass} {other : UUID} (candidates : List Alert)
    (absent : other ∉ candidates.map Alert.alert_id) (state : SweepStats × Database) :
    (Runs.run (sweep_candidate pass) state candidates).2.alerts.get other = state.2.alerts.get other := by
  induction candidates generalizing state with
  | nil => rfl
  | cons candidate rest ih =>
    rw [List.map_cons, List.mem_cons, not_or] at absent
    rw [Runs.run, ih absent.2, sweep_candidate_database]
    exact reassess_other absent.1

/-- A candidate is reassessed once, from the row the pass found. -/
theorem run_own {pass : Pass} {row : Alert} (candidates : List Alert)
    (distinct : (candidates.map Alert.alert_id).Nodup) (chosen : row.alert_id ∈ candidates.map Alert.alert_id)
    (state : SweepStats × Database) (found : state.2.alerts.get row.alert_id = some row) :
    ∃ first candidate rest, candidates = first ++ candidate :: rest ∧ candidate.alert_id = row.alert_id ∧
      (Runs.run (sweep_candidate pass) state first).2.alerts.get row.alert_id = some row ∧
      (Runs.run (sweep_candidate pass) state candidates).2.alerts.get row.alert_id =
        (reassess_persisted_if_changed (pass.service row.alert_id) row.alert_id (some pass.as_of)
          (pass.faults row.alert_id) (Runs.run (sweep_candidate pass) state first).2).2.alerts.get row.alert_id := by
  induction candidates generalizing state with
  | nil => exact absurd chosen List.not_mem_nil
  | cons candidate rest ih =>
    rw [List.map_cons, List.nodup_cons] at distinct
    by_cases mine : row.alert_id = candidate.alert_id
    · refine ⟨[], candidate, rest, rfl, mine.symm, found, ?_⟩
      have absent : row.alert_id ∉ rest.map Alert.alert_id := mine ▸ distinct.1
      show (Runs.run (sweep_candidate pass) (sweep_candidate pass state candidate) rest).2.alerts.get row.alert_id = _
      rw [run_other rest absent, sweep_candidate_database, mine]
      rfl
    · have later : row.alert_id ∈ rest.map Alert.alert_id := by
        rw [List.map_cons, List.mem_cons] at chosen
        exact chosen.resolve_left mine
      have still : (sweep_candidate pass state candidate).2.alerts.get row.alert_id = some row := by
        rw [sweep_candidate_database, reassess_other mine]
        exact found
      obtain ⟨first, own, others, split, key, here, result⟩ := ih distinct.2 later _ still
      exact ⟨candidate :: first, own, others, by rw [split]; rfl, key, here, result⟩

/-- What a pass leaves of a stored alert: the row it found, or the assessment of the alert with its changed enrichment. -/
theorem sweep_alert (pass : Pass) {db : Database} {row : Alert} (found : db.alerts.get row.alert_id = some row) :
    (sweep_once pass db).2.alerts.get row.alert_id = some row ∨
    ∃ request incident_id, row ∈ pass.candidates db ∧ (pass.faults row.alert_id).read = false ∧
      (pass.faults row.alert_id).persist = false ∧
      changed (pass.service row.alert_id) row (some pass.as_of) = some request ∧
      (sweep_once pass db).2.alerts.get row.alert_id = some (assessed_row request incident_id row) := by
  rw [sweep_once]
  split
  · exact .inl found
  · split
    · exact .inl found
    · dsimp only
      by_cases chosen : row.alert_id ∈ (pass.candidates db).map Alert.alert_id
      · obtain ⟨first, _, _, _, _, here, result⟩ := run_own (pass.candidates db) (candidates_nodup pass db) chosen
          ({ candidates := (pass.candidates db).length }, db) found
        rw [result]
        generalize (Runs.run (sweep_candidate pass) ({ candidates := (pass.candidates db).length }, db) first).2 = mid
          at here ⊢
        rcases reassess_cases (pass.service row.alert_id) row.alert_id (some pass.as_of) (pass.faults row.alert_id) mid with
          same | ⟨row', request, incident_id, readable, works, found', differs, committed⟩
        · rw [same]; exact .inl here
        · rw [here] at found'
          cases found'
          obtain ⟨candidate, inside, key⟩ := List.mem_map.mp chosen
          have equal : candidate = row := Table.eq_of_key (candidates_mem inside) (Table.get_mem found) key
          subst equal
          refine .inr ⟨request, incident_id, inside, readable, works, differs, ?_⟩
          have own : candidate.alert_id = request.alert_id := (changed_some differs).2.1.symm
          rw [committed.alerts, if_pos own, ← own, here, Option.map_some]
      · rw [run_other (pass.candidates db) chosen]
        exact .inl found

/-- Every alert a pass leaves was stored before. -/
theorem sweep_stored {pass : Pass} {db : Database} {row : Alert} (inside : row ∈ (sweep_once pass db).2.alerts.rows) :
    ∃ old, db.alerts.get row.alert_id = some old := by
  have has := Table.has_of_mem inside
  rw [← Option.isSome_iff_exists, ← Table.has]
  revert has
  rw [sweep_once]
  split
  · exact id
  · split
    · exact id
    · dsimp only
      rw [run_has]
      exact id

/-- A row that a pass leaves was there before, or is the assessment of one that was, with its enrichment changed. -/
theorem swept_row {pass : Pass} {db : Database} {row : Alert} (inside : row ∈ (sweep_once pass db).2.alerts.rows) :
    row ∈ db.alerts.rows ∨
    ∃ old ∈ db.alerts.rows, ∃ request incident_id,
      changed (pass.service row.alert_id) old (some pass.as_of) = some request ∧
      row = assessed_row request incident_id old := by
  obtain ⟨old, found⟩ := sweep_stored inside
  have key : old.alert_id = row.alert_id := Table.get_key found
  rw [← key] at found
  rcases sweep_alert pass found with same | ⟨request, incident_id, _, _, _, differs, same⟩
  · rw [key, Table.get_of_mem inside] at same
    cases same
    exact .inl (Table.get_mem found)
  · rw [key, Table.get_of_mem inside] at same
    rw [key] at differs
    exact .inr ⟨old, Table.get_mem found, request, incident_id, differs, Option.some.inj same⟩

/-! ### Runs -/

/-- A delivery with the providers that enrich its indicators, or a sweep. -/
inductive Event where
  | ingest (delivery : Delivery) (providers : List Provider) (faults : Faults)
  | sweep (pass : Pass)

/-- A delivery with its indicators enriched. -/
def enriched_delivery (delivery : Delivery) (providers : List Provider) : Delivery :=
  let enrichment := enrich providers delivery.iocs
  { delivery with iocs := enrichment.iocs, enrichment_status := enrichment.status.value }

def step (pipeline : Pipeline) (db : Database) : Event → Database
  | .ingest delivery providers faults => (ingest_alert pipeline (enriched_delivery delivery providers) faults db).2
  | .sweep pass => (sweep_once pass db).2

/-- What a sequence of deliveries and sweeps leaves, from an empty database. -/
def after (pipeline : Pipeline) (events : List Event) : Database := Runs.run (step pipeline) {} events

/-- The indicators of every stored alert are distinct. -/
def DistinctIndicators (db : Database) : Prop := ∀ row ∈ db.alerts.rows, Distinct row.normalized_payload.iocs

theorem step_distinct (pipeline : Pipeline) (db : Database) (event : Event) (distinct : DistinctIndicators db) :
    DistinctIndicators (step pipeline db event) := by
  intro row inside
  cases event with
  | ingest delivery providers faults =>
    rw [step] at inside
    rcases Ingest.ingest_payloads pipeline (enriched_delivery delivery providers) faults db row inside with
      ⟨old, member, _, same⟩ | ⟨dedupe, same | same⟩
    · rw [same]; exact distinct old member
    · rw [same]; exact enrich_distinct providers delivery.iocs
    · rw [same]; exact enrich_distinct providers delivery.iocs
  | sweep pass =>
    rw [step] at inside
    rcases swept_row inside with kept | ⟨old, _, request, incident_id, differs, same⟩
    · exact distinct row kept
    · obtain ⟨_, _, _, canonical, _⟩ := changed_some differs
      have payload : row.normalized_payload = request.canonical := by rw [same]; rfl
      rw [payload, canonical]
      exact enrich_distinct _ old.normalized_payload.iocs

theorem after_distinct (pipeline : Pipeline) (events : List Event) : DistinctIndicators (after pipeline events) :=
  Runs.invariant (fun db event distinct => step_distinct pipeline db event distinct)
    (fun _ none => absurd none List.not_mem_nil) events

end SocTriage.LateEnrichment
