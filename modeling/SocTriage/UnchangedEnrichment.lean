import SocTriage.Decisions
import SocTriage.FailedLookups
import SocTriage.Scorability

/-!
Late enrichment that finds nothing new. The fingerprint it compares determines every
record that a scoring factor or the router reads of an indicator, short of the time of its
lookup, which neither reads. It leaves out the status of the enrichment as a whole, for
which the scoring policy gives credit: a provider that is disabled or raises leaves the
records as they are and changes the status.
-/
namespace SocTriage.UnchangedEnrichment
open Enrichment LateEnrichment Policies Scoring
open Scorability (Scorable scorable_iff scorable_assessed)
open Decisions (DecisionPolicy route route_decide is_allowlisted)
open Ingest (Pipeline)

/-! ### What is read of a record -/

/-- A record without its time, as the fingerprint spells it. -/
def recorded (payload : JsonObject) : JsonObject := Json.canonicalFields (Json.pop "timestamp" payload)

theorem timeless_recorded (payload : JsonObject) : timeless payload = .obj (recorded payload) := by
  rw [timeless, Json.canonical, recorded]

private theorem lookup_recorded {key : String} (read : key ≠ "timestamp") (payload : JsonObject) :
    Json.lookup key (recorded payload) = (Json.lookup key payload).map Json.canonical := by
  rw [recorded, Json.lookup_canonicalFields, Json.lookup_pop_ne read]

private theorem canonicalFields_isEmpty (fields : JsonObject) : (Json.canonicalFields fields).isEmpty = fields.isEmpty := by
  cases fields with
  | nil => rw [Json.canonicalFields]
  | cons first rest =>
    obtain ⟨key, value⟩ := first
    rw [Json.canonicalFields]
    cases Json.canonicalFields rest with
    | nil => rfl
    | cons other _ =>
      rw [Json.insertKey]
      split
      · rfl
      · split <;> rfl

private theorem truthy_canonical (value : Json) : (Json.canonical value).truthy = value.truthy := by
  cases value with
  | arr items => cases items <;> simp [Json.canonical, Json.canonicalItems, Json.truthy]
  | obj fields => simp [Json.canonical, Json.truthy, canonicalFields_isEmpty]
  | null | bool | int | float | str => simp [Json.canonical]

private theorem lookup_available_recorded (payload : JsonObject) :
    lookup_available (recorded payload) = lookup_available payload := by
  rw [lookup_available, lookup_recorded (by decide), lookup_available]
  cases Json.lookup "lookup_status" payload with
  | none => rfl
  | some value => cases value <;> simp [Json.canonical]

private theorem payload_result_recorded (payload : JsonObject) :
    payload_result (recorded payload) = Json.canonicalFields (payload_result payload) := by
  rw [payload_result, lookup_recorded (by decide), payload_result]
  cases Json.lookup "result" payload with
  | none => simp [Json.canonicalFields]
  | some value => cases value <;> simp [Json.canonical, Json.canonicalFields]

private theorem evidence_count_sorted (result : JsonObject) (key : String) :
    evidence_count (Json.canonicalFields result) key = evidence_count result key := by
  rw [evidence_count, Json.lookup_canonicalFields, evidence_count]
  cases Json.lookup key result with
  | none => rfl
  | some value => cases value <;> simp [Json.canonical]

private theorem item_text_canonical (value : Json) : item_text (Json.canonical value) = item_text value := by
  cases value <;> simp [Json.canonical, item_text]

private theorem item_texts_canonical (values : List Json) :
    (Json.canonicalItems values).filterMap item_text = values.filterMap item_text := by
  induction values with
  | nil => simp [Json.canonicalItems]
  | cons value rest ih => rw [Json.canonicalItems, List.filterMap_cons, List.filterMap_cons, item_text_canonical, ih]

private theorem string_list_sorted (result : JsonObject) (key : String) :
    string_list (Json.canonicalFields result) key = string_list result key := by
  rw [string_list, Json.lookup_canonicalFields, string_list]
  cases Json.lookup key result with
  | none => rfl
  | some value => cases value <;> simp [Json.canonical, item_texts_canonical]

private theorem integers_canonical (values : List Json) :
    (Json.canonicalItems values).filter is_integer = values.filter is_integer := by
  induction values with
  | nil => rw [Json.canonicalItems]
  | cons value rest ih => cases value <;> simp [Json.canonicalItems, Json.canonical, List.filter_cons, is_integer, ih]

private theorem integers_sorted (result : JsonObject) (key : String) :
    integers (Json.canonicalFields result) key = integers result key := by
  rw [integers, Json.lookup_canonicalFields, integers]
  cases Json.lookup key result with
  | none => rfl
  | some value => cases value <;> simp [Json.canonical, integers_canonical]

section
variable {result result' : JsonObject} (same : Json.canonicalFields result = Json.canonicalFields result')
include same

private theorem counts_alike (key : String) : evidence_count result key = evidence_count result' key := by
  rw [← evidence_count_sorted, same, evidence_count_sorted]

private theorem lists_alike (key : String) : string_list result key = string_list result' key := by
  rw [← string_list_sorted, same, string_list_sorted]

private theorem awards_alike (cfg : ThreatIntelConfig) : virustotal_award result cfg = virustotal_award result' cfg := by
  rw [virustotal_award, counts_alike same, counts_alike same, virustotal_award]

private theorem integers_alike (key : String) : integers result key = integers result' key := by
  rw [← integers_sorted, same, integers_sorted]
end

/-! ### Indicators with the same records -/

/-- One indicator with the same records but for their times. -/
structure Alike (first second : IOC) : Prop where
  type : first.type = second.type
  value : first.value = second.value
  records : ∀ provider, (first.enrichment.get provider).map (fun entry => timeless entry.2) =
    (second.enrichment.get provider).map (fun entry => timeless entry.2)

section
variable {first second : IOC}

/-- The payloads of one provider are both missing, or equal but for their times. -/
private theorem Alike.payload (alike : Alike first second) (provider : String) :
    (provider_payload first provider = none ∧ provider_payload second provider = none) ∨
    ∃ payload payload', provider_payload first provider = some payload ∧ provider_payload second provider = some payload' ∧
      recorded payload = recorded payload' := by
  have same := alike.records provider
  rw [provider_payload, provider_payload]
  cases mine : first.enrichment.get provider with
  | none =>
    rw [mine] at same
    rw [Option.map_eq_none_iff.mp same.symm]
    exact .inl ⟨rfl, rfl⟩
  | some entry =>
    rw [mine] at same
    obtain ⟨entry', theirs, equal⟩ := Option.map_eq_some_iff.mp same.symm
    have equal : timeless entry'.2 = timeless entry.2 := equal
    rw [timeless_recorded, timeless_recorded] at equal
    rw [theirs]
    exact .inr ⟨entry.2, entry'.2, rfl, rfl, (Json.obj.inj equal).symm⟩

theorem Alike.key (alike : Alike first second) : ioc_key first = ioc_key second := by
  rw [ioc_key, ioc_key, alike.type, alike.value]

/-- The results are both missing, or equal but for the order of their keys. -/
private theorem Alike.results (alike : Alike first second) (provider : String) (handled : List IOCType) :
    (answered first provider handled = none ∧ answered second provider handled = none) ∨
    ∃ result result', answered first provider handled = some result ∧ answered second provider handled = some result' ∧
      Json.canonicalFields result = Json.canonicalFields result' := by
  rw [answered, answered, alike.type]
  rcases alike.payload provider with ⟨mine, theirs⟩ | ⟨payload, payload', mine, theirs, same⟩
  · rw [mine, theirs]
    exact .inl ⟨rfl, rfl⟩
  · rw [mine, theirs]
    dsimp only
    rw [← lookup_available_recorded payload, same, lookup_available_recorded]
    split
    · refine .inr ⟨_, _, rfl, rfl, ?_⟩
      rw [← payload_result_recorded, same, payload_result_recorded]
    · exact .inl ⟨rfl, rfl⟩

private theorem Alike.virustotal_step (alike : Alike first second) (cfg : ThreatIntelConfig) (tally : IntelTally) :
    Scoring.virustotal_step cfg tally first = Scoring.virustotal_step cfg tally second := by
  rw [Scoring.virustotal_step, Scoring.virustotal_step, alike.key]
  rcases alike.results cfg.virustotal.provider VT_HANDLED_TYPES with
    ⟨mine, theirs⟩ | ⟨result, result', mine, theirs, same⟩
  · rw [mine, theirs]
  · rw [mine, theirs]
    dsimp only
    rw [awards_alike same, counts_alike same, counts_alike same]

private theorem Alike.misp_step (alike : Alike first second) (py : PyStr) (cfg : ThreatIntelConfig) (tally : IntelTally) :
    Scoring.misp_step py cfg tally first = Scoring.misp_step py cfg tally second := by
  rw [Scoring.misp_step, Scoring.misp_step, alike.key]
  rcases alike.results cfg.misp.provider MISP_HANDLED_TYPES with ⟨mine, theirs⟩ | ⟨result, result', mine, theirs, same⟩
  · rw [mine, theirs]
  · rw [mine, theirs]
    simp only [counts_alike same, lists_alike same]

private theorem Alike.intel_step (alike : Alike first second) (py : PyStr) (cfg : ThreatIntelConfig) (tally : IntelTally) :
    Scoring.intel_step py cfg tally first = Scoring.intel_step py cfg tally second := by
  rw [Scoring.intel_step, alike.type, alike.virustotal_step, alike.misp_step, Scoring.intel_step]

private theorem Alike.status_text (alike : Alike first second) (provider : String) :
    Scoring.status_text first provider = Scoring.status_text second provider := by
  rw [Scoring.status_text, Scoring.status_text]
  rcases alike.payload provider with ⟨mine, theirs⟩ | ⟨payload, payload', mine, theirs, same⟩
  · rw [mine, theirs]
  · rw [mine, theirs, Option.bind_some, Option.bind_some, ← lookup_recorded (by decide), same, lookup_recorded (by decide)]

/-- What `str` is given of two such indicators is the same. -/
private theorem Alike.read_texts (alike : Alike first second) (cfg : ThreatIntelConfig) :
    Scoring.read_texts cfg first = Scoring.read_texts cfg second := by
  rw [Scoring.read_texts, Scoring.read_texts, alike.type, alike.status_text, alike.status_text]
  rcases alike.results cfg.misp.provider MISP_HANDLED_TYPES with ⟨mine, theirs⟩ | ⟨result, result', mine, theirs, same⟩
  · rw [mine, theirs]
  · rw [mine, theirs]
    simp only [counts_alike same, lists_alike same, integers_alike same]

theorem Alike.allowlisted (alike : Alike first second) : ioc_is_allowlisted first = ioc_is_allowlisted second := by
  have read : ∀ ioc, ioc_is_allowlisted ioc = (((provider_payload ioc "allowlist").bind
      (fun payload => Json.lookup "matched" (recorded payload))).map Json.truthy).getD false := by
    intro ioc
    rw [ioc_is_allowlisted, provider_payload]
    cases ioc.enrichment.get "allowlist" with
    | none => rfl
    | some entry =>
      rw [Option.map_some, Option.bind_some, lookup_recorded (by decide), Option.map_map]
      rw [show Json.truthy ∘ Json.canonical = Json.truthy from funext truthy_canonical]
  rw [read, read]
  rcases alike.payload "allowlist" with ⟨mine, theirs⟩ | ⟨payload, payload', mine, theirs, same⟩
  · rw [mine, theirs]
  · rw [mine, theirs, Option.bind_some, Option.bind_some, same]
end

/-- Lists of such indicators, one for one. -/
def AllAlike (first second : List IOC) : Prop := List.Forall₂ Alike first second

section
variable {first second : List IOC}

/-- Whatever is read of the indicators without the times is the same. -/
private theorem AllAlike.map (alike : AllAlike first second) {β : Type} {read : IOC → β}
    (reads : ∀ {a b}, Alike a b → read a = read b) : first.map read = second.map read := by
  induction alike with
  | nil => rfl
  | cons one _ ih => rw [List.map_cons, List.map_cons, reads one, ih]

/-- The loop over the indicators gathers the same. -/
private theorem AllAlike.tally (alike : AllAlike first second) (py : PyStr) (cfg : ThreatIntelConfig) (tally : IntelTally) :
    first.foldl (intel_step py cfg) tally = second.foldl (intel_step py cfg) tally := by
  induction alike generalizing tally with
  | nil => rfl
  | cons one _ ih => rw [List.foldl_cons, List.foldl_cons, one.intel_step, ih]
end

/-- An enrichment with an unchanged fingerprint answers with the same indicators but for the times of their records. -/
theorem unchanged_alike {chain : List Provider} {iocs : List IOC} (distinct : Distinct iocs)
    (same : enrichment_fingerprint (enrich chain iocs).iocs = enrichment_fingerprint iocs) :
    AllAlike ((enrich chain iocs).iocs.insertionSort by_ioc_key) (iocs.insertionSort by_ioc_key) := by
  have keys : (iocs.map (merged (answers chain (iocs.insertionSort by_key)))).map ioc_key = iocs.map ioc_key := by
    rw [List.map_map]
    exact List.map_congr_left (fun ioc _ => ioc_key_merged _ ioc)
  have merges : (enrich chain iocs).iocs.insertionSort by_ioc_key =
      (iocs.insertionSort by_ioc_key).map (merged (answers chain (iocs.insertionSort by_key))) := by
    rw [enrich_iocs chain distinct, by_ioc_key_perm (by rw [keys]; exact distinct)
      ((List.perm_insertionSort by_key iocs).map _)]
    exact (List.map_insertionSort by_ioc_key by_ioc_key (merged (answers chain (iocs.insertionSort by_key))) iocs
      (fun _ _ _ _ => Iff.rfl)).symm
  rw [merges, AllAlike, List.forall₂_map_left_iff, List.forall₂_same]
  intro ioc inside
  have print := fingerprint_unchanged distinct same ((List.mem_insertionSort by_ioc_key).mp inside)
  exact ⟨rfl, rfl, records_of_fingerprint (ioc_key_merged _ ioc) print⟩

/-! ### Alerts with the same indicators -/

/-- One alert with the same indicators but for the times of their records; the enrichment status may differ. -/
structure SameEvidence (first second : CanonicalAlert) : Prop where
  source_event : first.source_event = second.source_event
  asset : first.asset = second.asset
  dedupe : first.dedupe = second.dedupe
  indicators : AllAlike (first.iocs.insertionSort by_ioc_key) (second.iocs.insertionSort by_ioc_key)

section
variable {first second : CanonicalAlert} (py : PyStr)

theorem SameEvidence.allowlisted (same : SameEvidence first second) : is_allowlisted first = is_allowlisted second := by
  have sorted : ∀ alert : CanonicalAlert, is_allowlisted alert =
      ((alert.iocs.insertionSort by_ioc_key).map ioc_is_allowlisted).any id := by
    intro alert
    rw [List.any_map, (List.perm_insertionSort by_ioc_key alert.iocs).any_eq]
    rfl
  rw [sorted, sorted, same.indicators.map Alike.allowlisted]

private theorem SameEvidence.intel_tally (same : SameEvidence first second) (cfg : ThreatIntelConfig) :
    Scoring.intel_tally py first.iocs cfg = Scoring.intel_tally py second.iocs cfg := by
  rw [Scoring.intel_tally, same.indicators.tally, Scoring.intel_tally]

/-- What the texts tell of two such alerts, and what `str` is given of their indicators, is the same. -/
private theorem SameEvidence.printed (same : SameEvidence first second) (policy : ScoringPolicy) :
    Scoring.printed py policy first = Scoring.printed py policy second := by
  have telling : told py policy first = told py policy second := by
    rw [told, told, same.source_event, same.dedupe]
    simp only [same.intel_tally]
  have reading : ∀ (cfg : ThreatIntelConfig) (alert : CanonicalAlert), (alert.iocs.insertionSort by_ioc_key).all (fun ioc =>
      (read_texts cfg ioc).all (shown py.recursion)) =
      ((alert.iocs.insertionSort by_ioc_key).map (read_texts cfg)).all (fun texts => texts.all (shown py.recursion)) := by
    intro cfg alert
    rw [List.all_map]
    rfl
  rw [Scoring.printed, Scoring.printed, telling]
  simp only [reading, same.indicators.map (fun alike => alike.read_texts _)]

/-- The points of two such alerts are the same when their enrichment statuses get the same credit. -/
private theorem SameEvidence.same_points (same : SameEvidence first second) (policy : ScoringPolicy)
    (credited : credit py policy.enrichment_status first.enrichment_status =
      credit py policy.enrichment_status second.enrichment_status) :
    (factors py policy first).map (List.map award) = (factors py policy second).map (List.map award) := by
  have count : first.iocs.length = second.iocs.length := by
    have sorted := List.Forall₂.length_eq same.indicators
    rw [List.length_insertionSort, List.length_insertionSort] at sorted
    exact sorted
  have intel : (fun cfg : ThreatIntelConfig =>
      ("threat_intel", ((min (first.iocs.map (intel_points py cfg)).sum cfg.max : Nat) : Int))) =
      fun cfg => ("threat_intel", ((min (second.iocs.map (intel_points py cfg)).sum cfg.max : Nat) : Int)) := by
    funext cfg
    rw [← award_threat_intel, ← award_threat_intel, threat_intel_factor, same.intel_tally, threat_intel_factor]
  have allowlisted : first.iocs.any ioc_is_allowlisted = second.iocs.any ioc_is_allowlisted := same.allowlisted
  rw [factors_award, factors_award, same.source_event, same.asset, same.dedupe, count, intel, allowlisted, credited]

/-- Scoring raises on an alert that is not scorable. -/
private theorem unscorable {policy : ScoringPolicy} {alert : CanonicalAlert} :
    score_alert py policy alert = none ↔ ¬ Scorable py policy alert := by
  rw [← scorable_iff, ← Option.isSome_iff_exists, Option.not_isSome_iff_eq_none]

/-- With the same credit, scoring raises on both of two such alerts or gives the same points for both. -/
private theorem SameEvidence.same_score (same : SameEvidence first second) (policy : ScoringPolicy)
    (credited : credit py policy.enrichment_status first.enrichment_status =
      credit py policy.enrichment_status second.enrichment_status) :
    (score_alert py policy first).map verdict = (score_alert py policy second).map verdict := by
  have points := same.same_points py policy credited
  rw [score_alert, score_alert, same.printed]
  cases mine : factors py policy first with
  | none =>
    rw [mine, Option.map_none] at points
    rw [Option.map_eq_none_iff.mp points.symm]
  | some listed =>
    rw [mine, Option.map_some] at points
    obtain ⟨listed', theirs, equal⟩ := Option.map_eq_some_iff.mp points.symm
    have numbers : listed'.map ScoreFactor.points = listed.map ScoreFactor.points := by
      have seconds := congrArg (List.map Prod.snd) equal
      rw [List.map_map, List.map_map] at seconds
      exact seconds
    have writes : written listed = written listed' := by rw [written_eq py mine, written_eq py theirs, numbers]
    rw [theirs, Option.filter_some, Option.filter_some, writes]
    split
    · exact congrArg some (verdict_assessment policy equal.symm)
    · rfl

/-- The credit of an alert can be read off its points, which the fallback leaves out. -/
private theorem credit_award (policy : ScoringPolicy) (alert : CanonicalAlert) :
    (verdict (score py policy alert)).2.2[5]? = (score_alert py policy alert).map (fun _ =>
      ("enrichment_status", credit py policy.enrichment_status alert.enrichment_status)) := by
  rw [score]
  cases scored : score_alert py policy alert with
  | none => rfl
  | some risk =>
    obtain ⟨listed, given, _, _, rfl⟩ := (score_alert_some py).mp scored
    obtain ⟨rule_groups_mitre, recurrence_velocity, _, _, rfl⟩ := (factors_some py).mp given
    rfl

/-- Two such alerts are scored alike exactly when neither is scorable, or their enrichment statuses get the same
    credit. -/
theorem SameEvidence.verdict_iff (same : SameEvidence first second) (policy : ScoringPolicy) :
    verdict (score py policy first) = verdict (score py policy second) ↔
      (¬ Scorable py policy first ∧ ¬ Scorable py policy second) ∨
      credit py policy.enrichment_status first.enrichment_status =
        credit py policy.enrichment_status second.enrichment_status := by
  have degraded : degraded_score policy first = degraded_score policy second := by
    rw [degraded_score, same.source_event, degraded_score]
  constructor
  · intro equal
    have sixth := credit_award py policy second
    rw [← equal, credit_award] at sixth
    cases theirs : score_alert py policy second with
    | none =>
      rw [theirs, Option.map_none, Option.map_eq_none_iff] at sixth
      exact .inl ⟨(unscorable py).mp sixth, (unscorable py).mp theirs⟩
    | some risk =>
      rw [theirs, Option.map_some] at sixth
      obtain ⟨_, _, credited⟩ := Option.map_eq_some_iff.mp sixth
      exact .inr (Prod.mk.inj credited).2
  · rintro (⟨mine, theirs⟩ | credited)
    · rw [score, score, (unscorable py).mpr mine, (unscorable py).mpr theirs, Option.getD_none, Option.getD_none, degraded]
    · rw [score, score, ← Option.getD_map verdict, ← Option.getD_map verdict, same.same_score py policy credited, degraded]
end

/-! ### Persisted assessments -/

/-- The assessment on the alert is the one a scorer and a decision engine gave it. -/
def AssessedBy (scorer : CanonicalAlert → RiskAssessment) (decider : RiskAssessment → CanonicalAlert → Datetime → Decision)
    (payload : CanonicalAlert) : Prop :=
  ∃ (alert : CanonicalAlert) (decided_at : Datetime),
    payload = { alert with risk := some (scorer alert), decision := some (decider (scorer alert) alert decided_at) }

/-- The assessment of every alert is the pipeline's, or that of the service of a sweep among the events. -/
def Assessments (pipeline : Pipeline) (events : List Event) (db : Database) : Prop :=
  ∀ row ∈ db.alerts.rows, row.normalized_payload.risk ≠ none →
    AssessedBy pipeline.score pipeline.decide row.normalized_payload ∨
    ∃ pass, .sweep pass ∈ events ∧
      AssessedBy (pass.service row.alert_id).scorer (pass.service row.alert_id).decider row.normalized_payload

private theorem step_assessments {pipeline : Pipeline} {events : List Event} (db : Database) (event : Event)
    (assessments : Assessments pipeline events db) (among : event ∈ events) :
    Assessments pipeline events (step pipeline db event) := by
  intro row inside scored
  cases event with
  | ingest delivery providers faults =>
    rw [step] at inside
    rcases Ingest.ingest_payloads pipeline (enriched_delivery delivery providers) faults db row inside with
      ⟨old, member, key, same⟩ | ⟨dedupe, same | same⟩
    · rw [same] at scored ⊢
      rw [← key]
      exact assessments old member scored
    · rw [same] at scored
      exact absurd rfl scored
    · exact .inl ⟨_, _, same⟩
  | sweep pass =>
    rw [step] at inside
    rcases swept_row inside with kept | ⟨old, _, request, incident_id, differs, same⟩
    · exact assessments row kept scored
    · obtain ⟨_, _, _, canonical, _⟩ := changed_some differs
      have payload : row.normalized_payload = request.canonical := by rw [same]; rfl
      exact .inr ⟨pass, among, _, _, payload.trans canonical⟩

/-- Every assessment that a run leaves was given by the policies of its time. -/
theorem after_assessments (pipeline : Pipeline) (events : List Event) :
    Assessments pipeline events (after pipeline events) := by
  have listed : Runs.Along (step pipeline) (fun _ event => event ∈ events) {} events := by
    rw [Runs.along_iff]
    intro first event rest split
    rw [split]
    exact List.mem_append_right _ List.mem_cons_self
  exact Runs.invariant_along (fun db event assessments among => step_assessments db event assessments among)
    (fun _ none => absurd none List.not_mem_nil) listed

/-! ### What a sweep without news leaves out -/

/-- The late enrichment service under two policies. -/
def service (py : PyStr) (scoring : ScoringPolicy) (decisions : DecisionPolicy) (chain : List Provider) :
    LateEnrichmentService :=
  ⟨chain, score py scoring, Decisions.decide decisions⟩

/-- A full reassessment gives the persisted score, tier, factor points, action and severity. -/
def Reproduced (self : LateEnrichmentService) (canonical : CanonicalAlert) (decided_at : Option Datetime) : Prop :=
  let result := (reassess self canonical decided_at).canonical
  result.risk.map verdict = canonical.risk.map verdict ∧ result.decision.map route = canonical.decision.map route

instance (self : LateEnrichmentService) (canonical : CanonicalAlert) (decided_at : Option Datetime) :
    Decidable (Reproduced self canonical decided_at) := inferInstanceAs (Decidable (_ ∧ _))

/-- The status of the fresh enrichment gets the credit of the persisted one. -/
def SameCredit (py : PyStr) (scoring : ScoringPolicy) (chain : List Provider) (canonical : CanonicalAlert) : Prop :=
  credit py scoring.enrichment_status (some (enrich chain canonical.iocs).status.value) =
    credit py scoring.enrichment_status canonical.enrichment_status

instance (py : PyStr) (scoring : ScoringPolicy) (chain : List Provider) (canonical : CanonicalAlert) :
    Decidable (SameCredit py scoring chain canonical) := inferInstanceAs (Decidable (_ = _))

private theorem noop_changed {self : LateEnrichmentService} {alert_id : UUID} {decided_at : Option Datetime}
    {faults : AlertFaults} {db : Database} {row : Alert} (stored : db.alerts.get alert_id = some row)
    (noop : (reassess_persisted_if_changed self alert_id decided_at faults db).1 = .ok none) :
    changed self row decided_at = none := by
  rw [reassess_persisted_if_changed, stored] at noop
  cases differs : changed self row decided_at with
  | none => rfl
  | some request =>
    dsimp only at noop
    rw [differs] at noop
    split at noop
    · cases noop
    · dsimp only at noop
      split at noop <;> cases noop

/-- When late enrichment returns nothing for an alert assessed under the current policies, a full reassessment with the
    same enrichment would give what is persisted exactly when the alert is scorable neither with the fresh enrichment nor
    with the persisted one, or their statuses get the same credit. -/
theorem noop_reproduces_iff {py : PyStr} {scoring : ScoringPolicy} {decisions : DecisionPolicy} {chain : List Provider}
    {pipeline : Pipeline} {events : List Event} {alert_id : UUID} {decided_at : Option Datetime} {faults : AlertFaults}
    {row : Alert} (stored : (after pipeline events).alerts.get alert_id = some row)
    (assessed : AssessedBy (score py scoring) (Decisions.decide decisions) row.normalized_payload)
    (noop : (reassess_persisted_if_changed (service py scoring decisions chain) alert_id decided_at faults
      (after pipeline events)).1 = .ok none) :
    Reproduced (service py scoring decisions chain) row.normalized_payload decided_at ↔
      (¬ Scorable py scoring (enriched row.normalized_payload (enrich chain row.normalized_payload.iocs)) ∧
        ¬ Scorable py scoring row.normalized_payload) ∨
      SameCredit py scoring chain row.normalized_payload := by
  have distinct := after_distinct pipeline events row (Table.get_mem stored)
  have print := changed_none.mp (noop_changed stored noop)
  obtain ⟨alert, at_first, payload⟩ := assessed
  rw [payload] at distinct print ⊢
  have same : SameEvidence (enriched alert (enrich chain alert.iocs)) alert :=
    ⟨rfl, rfl, rfl, unchanged_alike distinct print⟩
  have verdicts := same.verdict_iff py scoring
  have reproduced : Reproduced (service py scoring decisions chain)
      { alert with risk := some (score py scoring alert)
                   decision := some (Decisions.decide decisions (score py scoring alert) alert at_first) } decided_at ↔
      verdict (score py scoring (enriched alert (enrich chain alert.iocs))) = verdict (score py scoring alert) := by
    constructor
    · intro both
      exact Option.some.inj both.1
    · intro equal
      have tier : (score py scoring (enriched alert (enrich chain alert.iocs))).tier = (score py scoring alert).tier :=
        (Prod.mk.inj (Prod.mk.inj equal).2).1
      exact ⟨congrArg some equal, congrArg some (route_decide decisions tier same.allowlisted _ _)⟩
  have scorable : ∀ given : CanonicalAlert, Scorable py scoring
      { given with risk := some (score py scoring alert)
                   decision := some (Decisions.decide decisions (score py scoring alert) alert at_first) } ↔
      Scorable py scoring given := fun _ => scorable_assessed _ _
  rw [reproduced, verdicts]
  exact or_congr (and_congr (not_congr (scorable (enriched alert (enrich chain alert.iocs))).symm)
    (not_congr (scorable alert).symm)) Iff.rfl

/-- The lower case and the quotes of plain ASCII text. -/
def ascii : PyStr where
  lower s := String.ofList (s.toList.map Char.toLower)
  repr s := "'" ++ s ++ "'"

/-- The policy of `scoring.yaml`. -/
def scoring_yaml : ScoringPolicy where
  engine_version := "scoring.v2"
  rule_severity := {
    max := 40
    bands := [{ min := 0, max := 2, points := 0 }, { min := 3, max := 4, points := 6 }, { min := 5, max := 6, points := 14 },
      { min := 7, max := 8, points := 22 }, { min := 9, max := 10, points := 30 }, { min := 11, max := 15, points := 40 }]
    non_empty := List.cons_ne_nil _ _ }
  rule_groups_mitre := {
    max := 15, group_points := 4, mitre_points := 4, multi_tactic_points := 3, multi_tactic_threshold := 2
    group_keywords := ["authentication_failed", "malware", "attack", "account_management"] }
  asset_criticality := {
    max := 25, unknown_points := 8
    bands := ⟨[("critical", 25), ("high", 18), ("medium", 10), ("low", 5)], by decide⟩
    tier_aliases := ⟨[("critical", ["critical"]), ("high", ["high", "tier-1", "tier-0", "tier1", "tier0"]),
      ("medium", ["medium", "standard", "tier-2", "tier2"]), ("low", ["low", "tier-3", "tier3"])], by decide⟩ }
  recurrence_velocity := {
    max := 20
    rules := [{ name := "rapid_burst", min_occurrences := 3, max_window_seconds := 900, points := 12 },
      { name := "rising_burst", min_occurrences := 5, max_window_seconds := 900, points := 6 },
      { name := "sustained_volume", min_occurrences := 10, max_window_seconds := 86400, points := 8 }] }
  ioc_evidence := { max := 15, per_indicator := 3, max_counted := 5 }
  enrichment_status := {
    max := 5
    points := ⟨[("complete", 5), ("partial", 2), ("skipped", 0), ("failed", 0)], by decide⟩ }
  threat_intel := some { max := 25 }
  allowlist := { subtract := 20 }
  tiers := [⟨.INFORMATIONAL, 0, 24⟩, ⟨.LOW, 25, 44⟩, ⟨.MEDIUM, 45, 69⟩, ⟨.HIGH, 70, 84⟩, ⟨.CRITICAL, 85, 100⟩]
  tiers_cover_0_to_100 := by decide
  intel_weights_within_factor_max := by
    intro intel same
    cases same
    exact ⟨by decide, by decide⟩

/-- The policy of `decisions.yaml`. -/
def decisions_yaml : DecisionPolicy where
  tier_actions
    | .INFORMATIONAL | .LOW => { action := .MONITOR }
    | .MEDIUM => { action := .QUEUE_L1 }
    | .HIGH => { action := .OPEN_INCIDENT, severity := some .SEV2 }
    | .CRITICAL => { action := .OPEN_INCIDENT, severity := some .SEV1 }

def shipped : Pipeline :=
  { Ingest.alarming with score := score ascii scoring_yaml, decide := Decisions.decide decisions_yaml }

/-- VirusTotal reports every address. -/
def reporting : Provider := FailedLookups.virustotal (.response 200 (some (.obj [])))

/-- An attack on a critical asset from one address. -/
def attack : Event :=
  .ingest { Ingest.failed_login_delivery "a1" 0 with
    iocs := [{ type := .IPV4, value := "203.0.113.7" }]
    asset := some { tier := some "critical" }
    source_event := {
      rule := { id := "5710", level := 12, description := "sshd: invalid user" }
      agent := { id := "001", name := "web-1" } } } [reporting] {}

/-- The attack as it is stored. -/
def stored_attack : Alert := ((after shipped [attack]).alerts.get "a1").get (by decide)

private theorem attack_stored : (after shipped [attack]).alerts.get "a1" = some stored_attack := (Option.some_get _).symm

private theorem attack_assessed :
    AssessedBy (score ascii scoring_yaml) (Decisions.decide decisions_yaml) stored_attack.normalized_payload := by
  rcases after_assessments shipped [attack] stored_attack (Table.get_mem attack_stored) (by decide) with
    shipped | ⟨pass, among, _⟩
  · exact shipped
  · cases List.mem_singleton.mp among

/-- The same report again gives the same assessment. -/
theorem report_repeated :
    Reproduced (service ascii scoring_yaml decisions_yaml [reporting]) stored_attack.normalized_payload none :=
  (@noop_reproduces_iff ascii scoring_yaml decisions_yaml [reporting] shipped [attack] "a1" none {} stored_attack
    attack_stored attack_assessed (by decide)).mpr (.inr (by decide))

/-- With VirusTotal disabled since, nothing is reassessed, though the alert has lost the credit for a complete enrichment
    and the five points that made it critical. -/
theorem stale_credit : ¬ ∀ (py : PyStr) (scoring : ScoringPolicy) (decisions : DecisionPolicy) (chain : List Provider)
    (pipeline : Pipeline) (events : List Event) (alert_id : UUID) (decided_at : Option Datetime) (faults : AlertFaults)
    (row : Alert), (after pipeline events).alerts.get alert_id = some row →
    AssessedBy (score py scoring) (Decisions.decide decisions) row.normalized_payload →
    (reassess_persisted_if_changed (service py scoring decisions chain) alert_id decided_at faults
      (after pipeline events)).1 = .ok none →
    Reproduced (service py scoring decisions chain) row.normalized_payload decided_at := by
  intro always
  have reproduced := always ascii scoring_yaml decisions_yaml [{ reporting with enabled := false }] shipped [attack] "a1"
    none {} stored_attack attack_stored attack_assessed (by decide)
  revert reproduced
  decide

end SocTriage.UnchangedEnrichment
