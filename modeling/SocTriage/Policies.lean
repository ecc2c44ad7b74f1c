import SocTriage.Canonical

/-!
The scoring policy, as its validators leave it: what a validator rejects is excluded by a
field of the structure, so an invalid policy cannot be built. `PyStr` holds the two
functions of Python's strings that read the Unicode tables, and is arbitrary.
-/
namespace SocTriage.Policies

/-- `str.lower` and `repr` of text, and how many containers `str` goes into before it raises. -/
structure PyStr where
  lower : String → String
  repr : String → String
  recursion : Nat := 1000

/-! ### The factors -/

structure SeverityBand where
  min : Nat
  max : Nat
  points : Nat
  within : max ≤ 15 := by decide
  ordered : min ≤ max := by decide

structure RuleSeverityConfig where
  max : Nat
  bands : List SeverityBand
  non_empty : bands ≠ []

structure RuleGroupsMitreConfig where
  max : Nat
  group_keywords : List String := []
  group_points : Nat
  mitre_points : Nat
  multi_tactic_points : Nat
  multi_tactic_threshold : Nat
  several : 2 ≤ multi_tactic_threshold := by decide

def ASSET_BANDS : List String := ["critical", "high", "medium", "low"]

structure AssetCriticalityConfig where
  max : Nat
  unknown_points : Nat
  bands : Table (Prod.fst : String × Int → String) := Table.empty
  tier_aliases : Table (Prod.fst : String × List String → String) := Table.empty
  band_names : ∀ band ∈ bands.rows, band.1 ∈ ASSET_BANDS := by decide
  alias_targets : ∀ target ∈ tier_aliases.rows, target.1 ∈ ASSET_BANDS := by decide

/-- The band of a raw tier label. -/
def AssetCriticalityConfig.resolve (py : PyStr) (cfg : AssetCriticalityConfig) (tier : Option String) : Option String :=
  let label := py.lower (Text.strip (tier.getD ""))
  if label = "" then none
  else
    (cfg.tier_aliases.rows.find? (fun (band, aliases) =>
      label = band || (aliases.map (fun a => py.lower (Text.strip a))).contains label)).map Prod.fst

structure RecurrenceRule where
  name : String
  min_occurrences : Nat
  max_window_seconds : Nat
  points : Nat
  named : name ≠ "" := by decide
  recurs : 1 ≤ min_occurrences := by decide

structure RecurrenceVelocityConfig where
  max : Nat
  rules : List RecurrenceRule := []

structure IocEvidenceConfig where
  max : Nat
  per_indicator : Nat
  max_counted : Nat

def ENRICHMENT_STATUSES : List String := ["complete", "partial", "failed", "skipped"]

structure EnrichmentStatusConfig where
  max : Nat
  points : Table (Prod.fst : String × Int → String) := Table.empty
  known_statuses : ∀ entry ∈ points.rows, entry.1 ∈ ENRICHMENT_STATUSES := by decide

structure VirustotalIntelConfig where
  provider : String := "virustotal"
  malicious_high_min : Nat := 10
  malicious_high_points : Nat := 15
  malicious_low_points : Nat := 8
  suspicious_min : Nat := 1
  suspicious_only_points : Nat := 4
  positive : 1 ≤ malicious_high_min ∧ 1 ≤ suspicious_min := by decide
  bands_ordered : malicious_low_points ≤ malicious_high_points ∧ suspicious_only_points ≤ malicious_low_points := by decide

/-- The tags are normalized by the validator. -/
structure MispIntelConfig where
  provider : String := "misp"
  event_match_points : Nat := 10
  threat_actor_bonus_points : Nat := 5
  threat_actor_tags : List String := ["apt", "threat-actor", "intrusion-set"]
  normalized_tags : "" ∉ threat_actor_tags ∧ threat_actor_tags.Nodup := by decide

def MispIntelConfig.is_threat_actor_tag (py : PyStr) (misp : MispIntelConfig) (tag : String) : Bool :=
  let cleaned := py.lower (Text.strip tag)
  misp.threat_actor_tags.any (fun listed => cleaned = listed || Text.starts_with (listed ++ ":") cleaned)

def IOC_TYPE_NAMES : List String :=
  [IOCType.IPV4, .DOMAIN, .URL, .MD5, .SHA1, .SHA256, .EMAIL].map IOCType.value

structure ThreatIntelConfig where
  max : Nat
  detail_max_iocs : Nat := 3
  handled_types : List String := ["domain", "ipv4", "md5", "sha1", "sha256", "url"]
  virustotal : VirustotalIntelConfig := {}
  misp : MispIntelConfig := {}
  quoted : 1 ≤ detail_max_iocs := by decide
  known_types : handled_types ≠ [] ∧ ∀ name ∈ handled_types, name ∈ IOC_TYPE_NAMES := by decide
  sorted_types : handled_types.Pairwise (· < ·) := by decide

/-- No award of the factor is above its maximum. -/
def WithinMax (intel : ThreatIntelConfig) : Prop :=
  max intel.virustotal.malicious_high_points
      (max intel.virustotal.malicious_low_points intel.virustotal.suspicious_only_points) ≤ intel.max ∧
    intel.misp.event_match_points + intel.misp.threat_actor_bonus_points ≤ intel.max

structure AllowlistConfig where
  subtract : Nat

/-! ### The tiers -/

structure TierBand where
  name : RiskTier
  min : Nat
  max : Nat
deriving DecidableEq

/-- The bands follow each other from `expected` to 100 under different names. -/
def Cover (expected : Nat) (seen : List RiskTier) : List TierBand → Prop
  | [] => expected = 101
  | band :: rest => band.name ∉ seen ∧ band.min = expected ∧ band.min ≤ band.max ∧
      Cover (band.max + 1) (band.name :: seen) rest

def decideCover : ∀ (expected : Nat) (seen : List RiskTier) (bands : List TierBand), Decidable (Cover expected seen bands)
  | expected, _, [] => inferInstanceAs (Decidable (expected = 101))
  | _, seen, band :: rest =>
    @instDecidableAnd _ _ _ (@instDecidableAnd _ _ _
      (@instDecidableAnd _ _ _ (decideCover (band.max + 1) (band.name :: seen) rest)))

instance (expected : Nat) (seen : List RiskTier) (bands : List TierBand) : Decidable (Cover expected seen bands) :=
  decideCover expected seen bands

structure ScoringPolicy where
  engine_version : String
  rule_severity : RuleSeverityConfig
  rule_groups_mitre : RuleGroupsMitreConfig
  asset_criticality : AssetCriticalityConfig
  recurrence_velocity : RecurrenceVelocityConfig
  ioc_evidence : IocEvidenceConfig
  enrichment_status : EnrichmentStatusConfig
  threat_intel : Option ThreatIntelConfig := none
  allowlist : AllowlistConfig
  tiers : List TierBand
  versioned : engine_version ≠ "" := by decide
  tiers_cover_0_to_100 : Cover 0 [] tiers
  intel_weights_within_factor_max : ∀ intel, threat_intel = some intel → WithinMax intel

def ScoringPolicy.tier_for (policy : ScoringPolicy) (score : Nat) : RiskTier :=
  match policy.tiers.find? (fun band => band.min ≤ score ∧ score ≤ band.max) with
  | some band => band.name
  | none => if score > 100 then .CRITICAL else .INFORMATIONAL

private theorem cover_band {expected : Nat} {seen : List RiskTier} {bands : List TierBand} (cover : Cover expected seen bands)
    {score : Nat} (from_here : expected ≤ score) (clipped : score ≤ 100) :
    ∃ band ∈ bands, band.min ≤ score ∧ score ≤ band.max := by
  induction bands generalizing expected seen with
  | nil => rw [Cover] at cover; omega
  | cons band rest ih =>
    obtain ⟨_, start, _, later⟩ := cover
    by_cases inside : score ≤ band.max
    · exact ⟨band, List.mem_cons_self, by omega, inside⟩
    · obtain ⟨other, member, holds⟩ := ih later (by omega)
      exact ⟨other, List.mem_cons_of_mem _ member, holds⟩

/-- The tier of a clipped score is the name of a band the score lies in; the fallback is not reached. -/
theorem tier_for_band (policy : ScoringPolicy) {score : Nat} (clipped : score ≤ 100) :
    ∃ band ∈ policy.tiers, band.min ≤ score ∧ score ≤ band.max ∧ policy.tier_for score = band.name := by
  obtain ⟨band, member, low, high⟩ := cover_band policy.tiers_cover_0_to_100 (Nat.zero_le score) clipped
  rw [ScoringPolicy.tier_for]
  cases found : policy.tiers.find? (fun band => band.min ≤ score ∧ score ≤ band.max) with
  | none =>
    have missed := List.find?_eq_none.mp found band member
    exact absurd (decide_eq_true ⟨low, high⟩) missed
  | some first =>
    have holds : first.min ≤ score ∧ score ≤ first.max := of_decide_eq_true (List.find?_some (p := fun band : TierBand =>
      decide (band.min ≤ score ∧ score ≤ band.max)) found)
    exact ⟨first, List.mem_of_find?_eq_some found, holds.1, holds.2, rfl⟩

end SocTriage.Policies
