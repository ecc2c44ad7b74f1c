import SocTriage.LateEnrichment

/-!
Failed lookups in late enrichment. The chain merges whatever record a provider answers,
so the record of a failed lookup takes the place of a verdict, and the fingerprint then
counts it as a change. Passes are without harm as long as lookups fail only where no
verdict is stored, and where they have failed before or an answer is new anyway.
-/
namespace SocTriage.FailedLookups
open Enrichment LateEnrichment Assessment
open Ingest (Pipeline Delivery)

/-- A lookup that was not a failure differs from the persisted record. -/
def News (chain : List Provider) (iocs : List IOC) : Prop :=
  ∃ lookup ∈ lookups chain iocs, failed lookup.2.2 = false ∧ repeats lookup = false

/-- A failed lookup of an indicator that the provider has a verdict for. -/
def Clash (chain : List Provider) (iocs : List IOC) : Prop :=
  ∃ lookup ∈ lookups chain iocs, failed lookup.2.2 = true ∧
    ∃ entry ∈ lookup.2.1.enrichment.get lookup.1, definitive entry.2 = true

instance (chain : List Provider) (iocs : List IOC) : Decidable (News chain iocs) := List.decidableBEx _ _
instance (chain : List Provider) (iocs : List IOC) : Decidable (Clash chain iocs) := List.decidableBEx _ _

/-- Failures replace no verdict, and without news the assessment stays. -/
def Unharmed (chain : List Provider) (before after : Alert) : Prop :=
  (∀ lookup ∈ lookups chain before.normalized_payload.iocs, failed lookup.2.2 = true →
    ∀ entry ∈ lookup.2.1.enrichment.get lookup.1, definitive entry.2 = true →
      ∃ ioc ∈ after.normalized_payload.iocs, ioc_key ioc = ioc_key lookup.2.1 ∧ ioc.enrichment.get lookup.1 = some entry) ∧
  (¬ News chain before.normalized_payload.iocs →
    after.normalized_payload.risk.map RiskAssessment.score = before.normalized_payload.risk.map RiskAssessment.score ∧
    after.normalized_payload.risk.map RiskAssessment.tier = before.normalized_payload.risk.map RiskAssessment.tier ∧
    after.normalized_payload.decision = before.normalized_payload.decision)

instance (chain : List Provider) (before after : Alert) : Decidable (Unharmed chain before after) :=
  inferInstanceAs (Decidable (_ ∧ _))

/-- Every stored alert is unharmed by a pass. -/
def UnharmedBy (db : Database) : Event → Prop
  | .ingest _ _ _ => True
  | .sweep pass => ∀ row ∈ db.alerts.rows, ∃ after ∈ (sweep_once pass db).2.alerts.get row.alert_id,
      Unharmed (pass.service row.alert_id).enrichment_chain row after

/-- The unit of work of the alert fails, or no failed lookup meets a verdict, and there is news or every failed lookup
    repeats the failure that is stored. -/
def Harmless (pass : Pass) (row : Alert) : Prop :=
  let chain := (pass.service row.alert_id).enrichment_chain
  let iocs := row.normalized_payload.iocs
  (pass.faults row.alert_id).read = true ∨ (pass.faults row.alert_id).persist = true ∨
    (¬ Clash chain iocs ∧
      (News chain iocs ∨ ∀ lookup ∈ lookups chain iocs, failed lookup.2.2 = true → repeats lookup = true))

instance (pass : Pass) (row : Alert) : Decidable (Harmless pass row) := inferInstanceAs (Decidable (_ ∨ _ ∨ _))

/-- A pass that cannot list its candidates, or is harmless for each of them. -/
def Permitted (db : Database) : Event → Prop
  | .ingest _ _ _ => True
  | .sweep pass => pass.lookback_seconds < 1 ∨ pass.list_fault = true ∨ ∀ row ∈ pass.candidates db, Harmless pass row

instance : ∀ (db : Database) (event : Event), Decidable (Permitted db event)
  | _, .ingest _ _ _ => isTrue trivial
  | db, .sweep pass => @instDecidableOr _ _ _ (@instDecidableOr _ _ _
      (List.decidableBAll (fun row => Harmless pass row) (pass.candidates db)))

instance : ∀ (db : Database) (event : Event), Decidable (UnharmedBy db event)
  | _, .ingest _ _ _ => isTrue trivial
  | db, .sweep pass => List.decidableBAll (fun row : Alert => ∃ after ∈ (sweep_once pass db).2.alerts.get row.alert_id,
      Unharmed (pass.service row.alert_id).enrichment_chain row after) db.alerts.rows

private theorem lookups_mem {chain : List Provider} {iocs : List IOC} {lookup : String × IOC × JsonObject}
    (inside : lookup ∈ lookups chain iocs) : lookup.2.1 ∈ iocs := by
  obtain ⟨answer, _, member⟩ := List.mem_flatMap.mp inside
  obtain ⟨ioc, chosen, rfl⟩ := List.mem_map.mp member
  exact (List.mem_filter.mp chosen).1

private theorem unharmed_refl (chain : List Provider) (row : Alert) : Unharmed chain row row :=
  ⟨fun lookup inside _ _ found _ => ⟨lookup.2.1, lookups_mem inside, rfl, found⟩, fun _ => ⟨rfl, rfl, rfl⟩⟩

/-- Without news and with every failure repeated, the fingerprint is the stored one. -/
private theorem no_news {chain : List Provider} {iocs : List IOC} (distinct : Distinct iocs) (quiet : ¬ News chain iocs)
    (repeated : ∀ lookup ∈ lookups chain iocs, failed lookup.2.2 = true → repeats lookup = true) :
    enrichment_fingerprint (enrich chain iocs).iocs = enrichment_fingerprint iocs := by
  refine enrich_repeats distinct ?_
  intro lookup inside
  cases ended : failed lookup.2.2 with
  | true => exact repeated lookup inside ended
  | false =>
    by_contra other
    exact quiet ⟨lookup, inside, ended, Bool.eq_false_iff.mpr other⟩

private theorem unlisted_pass {pass : Pass} {db : Database}
    (unlisted : pass.lookback_seconds < 1 ∨ pass.list_fault = true) : (sweep_once pass db).2 = db := by
  rw [sweep_once]
  split
  · rfl
  · rename_i enough
    rw [if_pos (unlisted.resolve_left enough)]

/-- One alert under one pass. -/
private theorem sweep_unharmed {pass : Pass} {db : Database} (distinct : DistinctIndicators db)
    (permitted : Permitted db (.sweep pass)) {row : Alert} (stored : row ∈ db.alerts.rows) :
    ∃ after ∈ (sweep_once pass db).2.alerts.get row.alert_id,
      Unharmed (pass.service row.alert_id).enrichment_chain row after := by
  rcases permitted with unlisted | unlisted | permitted
  · rw [unlisted_pass (.inl unlisted)]
    exact ⟨row, Table.get_of_mem stored, unharmed_refl _ row⟩
  · rw [unlisted_pass (.inr unlisted)]
    exact ⟨row, Table.get_of_mem stored, unharmed_refl _ row⟩
  rcases sweep_alert pass (Table.get_of_mem stored) with same |
    ⟨request, incident_id, chosen, readable, works, differs, written⟩
  · exact ⟨row, same, unharmed_refl _ row⟩
  · refine ⟨_, written, ?_⟩
    obtain ⟨different, _⟩ := changed_some differs
    rcases permitted row chosen with failing | failing | ⟨no_clash, informed⟩
    · rw [readable] at failing; contradiction
    · rw [works] at failing; contradiction
    · constructor
      · intro lookup inside ended entry found verdict
        exact absurd ⟨lookup, inside, ended, entry, found, verdict⟩ no_clash
      · intro quiet
        have repeated := informed.resolve_left quiet
        exact absurd (no_news (distinct row stored) quiet repeated) different

/-- In every run of deliveries and harmless passes, failures replace no verdict, and a pass without news leaves every
    score, tier and decision as it was. -/
theorem failures_are_no_news (pipeline : Pipeline) (events : List Event)
    (permitted : Runs.Along (step pipeline) Permitted {} events) :
    Runs.Along (step pipeline) UnharmedBy {} events := by
  rw [Runs.along_iff] at permitted ⊢
  intro earlier event later split
  cases event with
  | ingest delivery providers faults => trivial
  | sweep pass =>
    intro row stored
    exact sweep_unharmed (after_distinct pipeline earlier) (permitted earlier (.sweep pass) later split) stored

/-- A VirusTotal that answers every address in the same way. -/
def virustotal (upstream : Upstream) : Provider :=
  HTTPProvider.provider {
    name := "virustotal"
    handled_types := [.IPV4, .DOMAIN, .URL, .MD5, .SHA1, .SHA256]
    sanitize := fun _ _ => .metadata [("malicious", .int 12)]
    upstream := fun _ => upstream
    now := fun _ => "1970-01-01T00:00:00+00:00" }

/-- A sweep of the last hour at a number of seconds, with one provider. -/
def hourly (provider : Provider) (at_seconds : Nat) : Event :=
  .sweep {
    lookback_seconds := 3600
    as_of := Datetime.of_instant (seconds at_seconds)
    service := fun _ => ⟨[provider], Ingest.alarming.score, Ingest.alarming.decide⟩ }

/-- The delivery of a failed login from one address, with one provider. -/
def login_from_address (provider : Provider) : Event :=
  .ingest { Ingest.failed_login_delivery "a1" 0 with iocs := [{ type := .IPV4, value := "203.0.113.7" }] } [provider] {}

/-- A first lookup that times out, a second that times out again, and a verdict. -/
theorem late_verdict_is_news : Runs.Along (step Ingest.alarming) UnharmedBy {}
    [login_from_address (virustotal .timeout), hourly (virustotal .timeout) 600,
      hourly (virustotal (.response 200 (some (.obj [])))) 1200] :=
  failures_are_no_news Ingest.alarming _ (by decide)

/-- A time-out after the verdict takes its place. -/
theorem timeout_replaces_verdict : ¬ ∀ (pipeline : Pipeline) (events : List Event),
    Runs.Along (step pipeline) UnharmedBy {} events := by
  intro always
  have unharmed := always Ingest.alarming
    [login_from_address (virustotal (.response 200 (some (.obj [])))), hourly (virustotal .timeout) 600]
  revert unharmed
  decide

end SocTriage.FailedLookups
