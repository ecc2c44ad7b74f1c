import SocTriage.CorrelationComponents
import SocTriage.FailedLookups

/-!
The backlog of the late-enrichment sweep. Each pass lists the oldest alerts of the window
again, whether they have been enriched or not, so passes over one window all go through
the same batch, and what lies behind it waits until the window has moved on.
-/
namespace SocTriage.Backlog
open Enrichment LateEnrichment Assessment

def persisted : Except Error (Option (LateEnrichmentResult × AssessmentPersistResult)) → Bool
  | .error _ => false
  | .ok none => true
  | .ok (some (_, persistence)) => persistence.persisted

/-- The unit of work of one candidate, if it comes to one, is committed. -/
def Persisted (pass : Pass) (state : SweepStats × Database) (candidate : Alert) : Prop :=
  persisted (reassess_persisted_if_changed (pass.service candidate.alert_id) candidate.alert_id (some pass.as_of)
    (pass.faults candidate.alert_id) state.2).1 = true

instance (pass : Pass) (state : SweepStats × Database) (candidate : Alert) : Decidable (Persisted pass state candidate) :=
  inferInstanceAs (Decidable (_ = true))

/-- A pass that the storage fails nowhere. -/
def Undisturbed (db : Database) (pass : Pass) : Prop :=
  1 ≤ pass.lookback_seconds ∧ pass.list_fault = false ∧
    Runs.Along (sweep_candidate pass) (Persisted pass) ({ candidates := (pass.candidates db).length }, db)
      (pass.candidates db)

instance (db : Database) (pass : Pass) : Decidable (Undisturbed db pass) := inferInstanceAs (Decidable (_ ∧ _ ∧ _))

/-- The answers are the same in every pass, but for the times of the lookups. -/
def FixedAnswers (passes : List Pass) : Prop :=
  ∀ pass ∈ passes, ∀ other ∈ passes, ∀ alert_id (iocs iocs' : List IOC), iocs.map indicator = iocs'.map indicator →
    content (answers (pass.service alert_id).enrichment_chain iocs) =
      content (answers (other.service alert_id).enrichment_chain iocs')

def sweep (db : Database) (pass : Pass) : Database := (sweep_once pass db).2

def in_window (since : Int) (db : Database) : List Alert := db.alerts.rows.filter (fun row => row.received_at ≥ since)

/-- As many passes as batches that hold `n` alerts. -/
def passes_for (n : Nat) : Nat := (n + BATCH_LIMIT - 1) / BATCH_LIMIT

/-- The stored enrichment of an alert is what the chain answers now. -/
def Current (pass : Pass) (row : Alert) : Prop :=
  enrichment_fingerprint (enrich (pass.service row.alert_id).enrichment_chain row.normalized_payload.iocs).iocs =
    enrichment_fingerprint row.normalized_payload.iocs

/-- Every alert of the window has been enriched again by one of the passes, and is current at their end. -/
def Drained (since : Int) (db : Database) (passes : List Pass) : Prop :=
  ∀ row ∈ in_window since db,
    (∃ first pass rest, passes = first ++ pass :: rest ∧
      row.alert_id ∈ (pass.candidates (Runs.run sweep db first)).map Alert.alert_id) ∧
    ∃ after ∈ (Runs.run sweep db passes).alerts.get row.alert_id, ∀ pass ∈ passes, Current pass after

/-! ### The batch of a pass -/

/-- What the order of a batch depends on. -/
def arrival (row : Alert) : Int × UUID := (row.received_at, row.alert_id)

/-- The order of two arrivals. -/
def by_arrival (a b : Int × UUID) : Prop := a.1 < b.1 ∨ (a.1 = b.1 ∧ a.2 ≤ b.2)

instance : DecidableRel by_arrival := fun _ _ => inferInstanceAs (Decidable (_ ∨ _))

/-- The alerts of a window, oldest first. -/
def queue (since : Int) (db : Database) : List (Int × UUID) :=
  ((db.alerts.rows.map arrival).filter (fun a => a.1 ≥ since)).insertionSort by_arrival

theorem candidates_queue (pass : Pass) (db : Database) :
    (pass.candidates db).map Alert.alert_id = ((queue pass.since db).take BATCH_LIMIT).map Prod.snd := by
  have sorted : (queue pass.since db) =
      ((db.alerts.rows.filter (fun row => row.received_at ≥ pass.since)).insertionSort by_received).map arrival := by
    rw [queue, List.filter_map]
    exact (List.map_insertionSort by_received by_arrival arrival _ (fun _ _ _ _ => Iff.rfl)).symm
  rw [sorted, ← List.map_take, List.map_map]
  rfl

theorem length_queue (since : Int) (db : Database) : (queue since db).length = (in_window since db).length := by
  rw [queue, List.length_insertionSort, List.filter_map, List.length_map]
  rfl

theorem queue_nodup (since : Int) (db : Database) : ((queue since db).map Prod.snd).Nodup := by
  have perm := (List.perm_insertionSort by_arrival ((db.alerts.rows.map arrival).filter (fun a => a.1 ≥ since))).map Prod.snd
  rw [queue, perm.nodup_iff, List.filter_map, List.map_map]
  exact db.alerts.unique.sublist (List.filter_sublist.map _)

theorem mem_queue {since : Int} {db : Database} {id : UUID} :
    id ∈ (queue since db).map Prod.snd ↔ ∃ row ∈ in_window since db, row.alert_id = id := by
  simp only [queue, List.mem_map, List.mem_insertionSort, List.mem_filter, in_window, decide_eq_true_eq]
  constructor
  · rintro ⟨_, ⟨⟨row, stored, rfl⟩, recent⟩, rfl⟩
    exact ⟨row, ⟨stored, recent⟩, rfl⟩
  · rintro ⟨row, ⟨stored, recent⟩, rfl⟩
    exact ⟨arrival row, ⟨⟨row, stored, rfl⟩, recent⟩, rfl⟩

/-! ### Passes -/

private theorem reassess_arrivals (self : LateEnrichmentService) (alert_id : UUID) (decided_at : Option Datetime)
    (faults : AlertFaults) (db : Database) :
    (reassess_persisted_if_changed self alert_id decided_at faults db).2.alerts.rows.map arrival =
      db.alerts.rows.map arrival := by
  rcases reassess_cases self alert_id decided_at faults db with same | ⟨_, _, _, _, _, _, _, committed⟩
  · rw [same]
  · exact committed.alert_rows (fun _ _ _ => rfl) (fun _ _ => rfl)

private theorem candidates_arrivals {pass : Pass} (candidates : List Alert) (state : SweepStats × Database) :
    (Runs.run (sweep_candidate pass) state candidates).2.alerts.rows.map arrival = state.2.alerts.rows.map arrival := by
  induction candidates generalizing state with
  | nil => rfl
  | cons candidate rest ih => rw [Runs.run, ih, sweep_candidate_database, reassess_arrivals]

/-- A pass changes no arrival. -/
theorem sweep_arrivals (db : Database) (pass : Pass) :
    (sweep db pass).alerts.rows.map arrival = db.alerts.rows.map arrival := by
  rw [sweep, sweep_once]
  split
  · rfl
  split
  · rfl
  exact candidates_arrivals (pass.candidates db) ({ candidates := (pass.candidates db).length }, db)

/-- Passes leave the queue of a window as it is. -/
theorem run_queue (since : Int) (db : Database) (passes : List Pass) :
    queue since (Runs.run sweep db passes) = queue since db := by
  induction passes generalizing db with
  | nil => rfl
  | cons pass rest ih =>
    rw [Runs.run, ih, queue, sweep_arrivals, queue]

/-- A reassessment whose unit of work is committed leaves an unchanged alert alone and stores a changed one. -/
private theorem reassess_persisted {pass : Pass} {state : SweepStats × Database} {candidate row : Alert}
    (committed : Persisted pass state candidate) (found : state.2.alerts.get candidate.alert_id = some row) :
    (changed (pass.service candidate.alert_id) row (some pass.as_of) = none ∧
      (reassess_persisted_if_changed (pass.service candidate.alert_id) candidate.alert_id (some pass.as_of)
        (pass.faults candidate.alert_id) state.2).2 = state.2) ∨
    ∃ request incident_id, changed (pass.service candidate.alert_id) row (some pass.as_of) = some request ∧
      Committed request state.2 incident_id (reassess_persisted_if_changed (pass.service candidate.alert_id)
        candidate.alert_id (some pass.as_of) (pass.faults candidate.alert_id) state.2).2 := by
  rw [Persisted] at committed
  revert committed
  rw [reassess_persisted_if_changed]
  cases (pass.faults candidate.alert_id).read with
  | true => exact fun failed => absurd failed Bool.false_ne_true
  | false =>
    simp only [Bool.false_eq_true, ↓reduceIte, found]
    cases differs : changed (pass.service candidate.alert_id) row (some pass.as_of) with
    | none => exact fun _ => .inl ⟨rfl, rfl⟩
    | some request =>
      dsimp only
      rcases persist_assessment_cases request (pass.faults candidate.alert_id).persist state.2 with
        ⟨incident_id, after, same, _, executed⟩ | ⟨result, same, failed⟩
      · rw [same]
        exact fun _ => .inr ⟨request, incident_id, rfl, (assess_ok executed).2⟩
      · rw [same]
        cases result with
        | error e => exact fun failed => absurd failed Bool.false_ne_true
        | ok result =>
          intro done
          have done : result.persisted = true := done
          exact absurd (by rw [← done]) (failed result.incident_id)

/-- An alert of the batch of an undisturbed pass is current after it. -/
private theorem candidate_current {pass : Pass} {db : Database} {row : Alert} (undisturbed : Undisturbed db pass)
    (fixed : FixedAnswers [pass]) (distinct : Distinct row.normalized_payload.iocs)
    (found : db.alerts.get row.alert_id = some row) (chosen : row.alert_id ∈ (pass.candidates db).map Alert.alert_id) :
    ∃ after ∈ (sweep db pass).alerts.get row.alert_id, Current pass after := by
  obtain ⟨lookback, listed, committed⟩ := undisturbed
  obtain ⟨first, candidate, rest, split, key, here, result⟩ := run_own (pass.candidates db) (candidates_nodup pass db) chosen
    ({ candidates := (pass.candidates db).length }, db) found
  have swept : (sweep db pass).alerts.get row.alert_id = (Runs.run (sweep_candidate pass)
      ({ candidates := (pass.candidates db).length }, db) (pass.candidates db)).2.alerts.get row.alert_id := by
    rw [sweep, sweep_once, if_neg (by omega), listed]
    rfl
  have own := (Runs.along_iff.mp committed) first candidate rest split
  rw [swept, result]
  have found' := here
  rw [← key] at found'
  rcases reassess_persisted own found' with ⟨unchanged, same⟩ | ⟨request, incident_id, differs, committed⟩
  · rw [key] at unchanged same
    rw [same]
    exact ⟨row, here, changed_none.mp unchanged⟩
  · rw [key] at differs committed
    obtain ⟨_, own, _, canonical, _⟩ := changed_some differs
    refine ⟨assessed_row request incident_id row, ?_, ?_⟩
    · rw [committed.alerts, if_pos own.symm, own, here]
      rfl
    · have payload : (assessed_row request incident_id row).normalized_payload.iocs =
          (enrich (pass.service row.alert_id).enrichment_chain row.normalized_payload.iocs).iocs := by
        show request.canonical.iocs = _
        rw [canonical]
        rfl
      show enrichment_fingerprint (enrich (pass.service row.alert_id).enrichment_chain _).iocs = _
      rw [payload]
      refine enrich_again distinct ?_
      exact fixed pass List.mem_cons_self pass List.mem_cons_self row.alert_id _ _ (enrich_indicators _ distinct)

/-- What lies behind the batch of one pass lies behind the batch of every pass over the same window. -/
theorem behind_batch {since : Int} {db : Database} {passes : List Pass} (window : ∀ pass ∈ passes, pass.since = since)
    (more : BATCH_LIMIT < (in_window since db).length) : ¬Drained since db passes := by
  intro drained
  rw [← length_queue] at more
  obtain ⟨row, inside, key⟩ := mem_queue.mp (List.mem_map_of_mem (f := Prod.snd) (List.getElem_mem more))
  obtain ⟨⟨first, pass, rest, rfl, listed⟩, _⟩ := drained row inside
  rw [candidates_queue, window pass (by simp), run_queue, key, List.map_take] at listed
  have later : (queue since db)[BATCH_LIMIT].2 ∈ ((queue since db).map Prod.snd).drop BATCH_LIMIT := by
    rw [← List.map_drop]
    exact List.mem_map_of_mem (List.mem_drop_iff_getElem.mpr ⟨0, by omega, rfl⟩)
  exact List.disjoint_take_drop (queue_nodup since db) (Nat.le_refl _) listed later

/-- The indicator alone. -/
def bare (ioc : IOC) : IOC := { type := ioc.type, value := ioc.value }

/-- A provider whose lookups see nothing of an indicator but its type and value. -/
structure ByIndicator (provider : HTTPProvider) : Prop where
  cached : ∀ ioc, provider.cached (bare ioc) = provider.cached ioc
  lookup : ∀ ioc, lookup_one provider (bare ioc) = lookup_one provider ioc

/-- Such a provider answers for the same indicators in the same way. -/
theorem enrich_bare {self : HTTPProvider} (plain : ByIndicator self) (iocs : List IOC) :
    self.enrich (iocs.map bare) = self.enrich iocs := by
  have handled : (iocs.map bare).filter (fun ioc => self.handled_types.contains ioc.type) =
      (iocs.filter (fun ioc => self.handled_types.contains ioc.type)).map bare := by
    rw [List.filter_map]
    rfl
  have same : ∀ chosen : List IOC, records self (chosen.map bare) = records self chosen := by
    intro chosen
    rw [records, records, List.filter_map, List.map_map, List.filterMap_map]
    simp only [Function.comp_def, plain.cached, plain.lookup]
    rfl
  have hits : ∀ chosen : List IOC, ((chosen.map bare).filter (fun ioc => (self.cached ioc).isSome)).length =
      (chosen.filter (fun ioc => (self.cached ioc).isSome)).length := by
    intro chosen
    rw [List.filter_map, List.length_map]
    simp only [Function.comp_def, plain.cached]
  rw [HTTPProvider.enrich, HTTPProvider.enrich, handled]
  simp only [same, hits, List.isEmpty_map]

theorem fixed_answers {providers : List HTTPProvider} (plain : ∀ self ∈ providers, ByIndicator self) {iocs iocs' : List IOC}
    (same : iocs.map indicator = iocs'.map indicator) :
    answers (providers.map HTTPProvider.provider) iocs = answers (providers.map HTTPProvider.provider) iocs' := by
  have bared : ∀ given : List IOC, given.map bare = (given.map indicator).map (fun i => { type := i.1, value := i.2 }) := by
    intro given
    rw [List.map_map]
    rfl
  rw [answers, answers, List.flatMap_map, List.flatMap_map]
  apply List.flatMap_congr
  intro self inside
  have equal : self.enrich iocs = self.enrich iocs' := by
    rw [← enrich_bare (plain self inside) iocs, ← enrich_bare (plain self inside) iocs', bared, bared, same]
  have first : self.provider.enrich iocs = .ok (self.enrich iocs) := rfl
  have second : self.provider.enrich iocs' = .ok (self.enrich iocs') := rfl
  rw [answers_of, answers_of, first, second, equal]

/-- A VirusTotal that has a verdict on every address. -/
def verdicts : HTTPProvider where
  name := "virustotal"
  handled_types := [.IPV4, .DOMAIN, .URL, .MD5, .SHA1, .SHA256]
  sanitize := fun _ _ => .metadata [("malicious", .int 12)]
  upstream := fun _ => .response 200 (some (.obj []))
  now := fun _ => "1970-01-01T00:00:00+00:00"

/-- A pass over the alerts of the first day. -/
def daily : Pass where
  lookback_seconds := 86400
  as_of := Datetime.of_instant (seconds 86400)
  service := fun _ => ⟨[verdicts.provider], Ingest.alarming.score, Ingest.alarming.decide⟩

theorem daily_fixed (n : Nat) : FixedAnswers (List.replicate n daily) := by
  intro pass inside other inside' alert_id iocs iocs' same
  rw [List.eq_of_mem_replicate inside, List.eq_of_mem_replicate inside']
  have plain : ∀ self ∈ [verdicts], ByIndicator self := by
    intro self inside
    rw [List.mem_singleton.mp inside]
    exact ⟨fun _ => rfl, fun _ => rfl⟩
  exact congrArg content (fixed_answers plain same)

theorem daily_window (n : Nat) : ∀ pass ∈ List.replicate n daily, pass.since = 0 := by
  intro pass inside
  rw [List.eq_of_mem_replicate inside]
  decide

/-- The row of a failed login of a day: from the last of its hosts with an address. -/
def login_row (i : Nat) : Alert :=
  let alert_id := Text.zero_padded 4 i
  { CorrelationComponents.from_source alert_id ("wazuh:5710:" ++ alert_id) alert_id "203.0.113.7" (seconds i) with
    normalized_payload := {
      (CorrelationComponents.from_source alert_id ("wazuh:5710:" ++ alert_id) alert_id "203.0.113.7"
        (seconds i)).normalized_payload with
      iocs := if i = 200 then [{ type := .IPV4, value := "203.0.113.7" }] else [] } }

theorem login_rows_distinct (n : Nat) : (((List.range n).map login_row).map Alert.alert_id).Nodup := by
  rw [List.map_map]
  refine List.nodup_range.map (fun i j same => ?_)
  have same : Text.zero_padded 4 i = Text.zero_padded 4 j := same
  have read := Text.parse_decimal_zero_padded 4 i
  rw [same, Text.parse_decimal_zero_padded] at read
  exact (Option.some.inj read).symm

/-- 201 alerts of one window, the last of which waits for a verdict. -/
def two_batches : Database := { alerts := ⟨(List.range 201).map login_row, login_rows_distinct 201⟩ }

/-- A pass without news for its batch is undisturbed and leaves everything as it is. -/
theorem quiet_pass {pass : Pass} {db : Database} (lookback : 1 ≤ pass.lookback_seconds) (listed : pass.list_fault = false)
    (readable : ∀ alert_id, (pass.faults alert_id).read = false)
    (quiet : ∀ row ∈ pass.candidates db, changed (pass.service row.alert_id) row (some pass.as_of) = none) :
    Undisturbed db pass ∧ sweep db pass = db := by
  have each : ∀ candidates : List Alert, (∀ row ∈ candidates, row ∈ pass.candidates db) → ∀ state : SweepStats × Database,
      state.2 = db → Runs.Along (sweep_candidate pass) (Persisted pass) state candidates ∧
        (Runs.run (sweep_candidate pass) state candidates).2 = db := by
    intro candidates
    induction candidates with
    | nil => exact fun _ state here => ⟨trivial, here⟩
    | cons row rest ih =>
      intro among state here
      have inside := among row List.mem_cons_self
      have found : db.alerts.get row.alert_id = some row := Table.get_of_mem (candidates_mem inside)
      have unchanged : reassess_persisted_if_changed (pass.service row.alert_id) row.alert_id (some pass.as_of)
          (pass.faults row.alert_id) db = (.ok none, db) := by
        rw [reassess_persisted_if_changed, readable]
        simp only [Bool.false_eq_true, ↓reduceIte, found, quiet row inside]
      have own : Persisted pass state row := by rw [Persisted, here, unchanged]; rfl
      have next : (sweep_candidate pass state row).2 = db := by rw [sweep_candidate_database, here, unchanged]
      obtain ⟨along, ended⟩ := ih (fun row inside => among row (List.mem_cons_of_mem _ inside)) _ next
      exact ⟨⟨own, along⟩, ended⟩
  obtain ⟨along, ended⟩ := each (pass.candidates db) (fun _ inside => inside)
    ({ candidates := (pass.candidates db).length }, db) rfl
  refine ⟨⟨lookback, listed, along⟩, ?_⟩
  rw [sweep, sweep_once, if_neg (by omega), listed]
  exact ended

set_option maxRecDepth 10000 in
private theorem two_batches_quiet : ∀ row ∈ daily.candidates two_batches, row.normalized_payload.iocs.isEmpty = true := by
  decide +kernel

set_option maxRecDepth 10000 in
private theorem two_batches_many : (in_window 0 two_batches).length = 201 := by decide +kernel

end SocTriage.Backlog
