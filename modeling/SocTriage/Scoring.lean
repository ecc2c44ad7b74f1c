import Mathlib.Data.List.Dedup
import Mathlib.Data.List.Sort
import SocTriage.Audit
import SocTriage.Policies

/-!
The scoring engine: one factor for each weighted input, each with the text that explains
it, their clipped sum and its tier. Scoring raises where MITRE tactics are given as a
number, which has no length, where only one of the times a group was first and last seen
is naive, and where a text would hold a number with too many digits or a value nested too
deeply; the scorer then falls back on the rule severity alone.
-/
namespace SocTriage.Scoring
open Policies

/-- Clip a raw score to the 0-100 contract. -/
def clamp (score : Int) : Nat := (max 0 (min 100 score)).toNat

/-- `", ".join(items)`. -/
def comma_joined (items : List String) : String := ", ".intercalate items

/-- The share of a factor as its detail states it. -/
def share (points : Int) (most : Nat) : String := toString points ++ "/" ++ toString most

/-! ### The factors of the alert itself -/

def rule_severity_factor (rule : CanonicalRule) (cfg : RuleSeverityConfig) : ScoreFactor :=
  match cfg.bands.find? (fun band => (band.min : Int) ≤ rule.level ∧ rule.level ≤ band.max) with
  | some band =>
    { name := "rule_severity", points := band.points, max := cfg.max
      detail := "Wazuh rule level " ++ toString rule.level ++ " → severity band " ++ toString band.min ++ "-" ++
        toString band.max ++ " (" ++ share band.points cfg.max ++ ")" }
  | none =>
    { name := "rule_severity", points := 0, max := cfg.max
      detail := "Wazuh rule level " ++ toString rule.level ++ " is outside all configured severity bands (" ++
        share 0 cfg.max ++ ")" }

/-- `len(value or [])`, which a number does not have. -/
def length (value : Option Json) : Option Nat :=
  match value with
  | none => some 0
  | some value =>
    if !value.truthy then some 0
    else
      match value with
      | .str s => some s.length
      | .arr items => some items.length
      | .obj fields => some fields.length
      | _ => none

def rule_groups_mitre_factor (rule : CanonicalRule) (cfg : RuleGroupsMitreConfig) : Option ScoreFactor :=
  let matched_groups := rule.groups.filter (fun group => cfg.group_keywords.contains group)
  let given (key : String) : Bool := ((Json.lookup key rule.mitre).map Json.truthy).getD false
  let has_technique := given "id" || given "technique"
  (length (Json.lookup "tactic" rule.mitre)).map (fun tactics =>
    let several := cfg.multi_tactic_threshold ≤ tactics
    let points := min (cfg.group_points * matched_groups.length + (if has_technique then cfg.mitre_points else 0) +
      (if several then cfg.multi_tactic_points else 0)) cfg.max
    let notes := (if matched_groups.isEmpty then [] else ["groups " ++ comma_joined matched_groups]) ++
      (if has_technique then ["MITRE technique present"] else []) ++
      (if several then [toString tactics ++ " MITRE tactics"] else [])
    let notes := if notes.isEmpty then ["no suspicious groups or MITRE technique"] else notes
    { name := "rule_groups_mitre", points := points, max := cfg.max
      detail := "; ".intercalate notes ++ " (" ++ share points cfg.max ++ ")" })

def asset_criticality_factor (py : PyStr) (asset : Option CanonicalAsset) (cfg : AssetCriticalityConfig) : ScoreFactor :=
  let tier := asset.bind CanonicalAsset.tier
  match cfg.resolve py tier with
  | none =>
    let label := match tier with
      | none | some "" => "no tier label"
      | some tier => "tier " ++ py.repr tier
    { name := "asset_criticality", points := cfg.unknown_points, max := cfg.max
      detail := "asset " ++ label ++ " → unknown (" ++ share cfg.unknown_points cfg.max ++ ")" }
  | some band =>
    let points := ((cfg.bands.get band).map Prod.snd).getD 0
    { name := "asset_criticality", points, max := cfg.max
      detail := "asset tier " ++ py.repr (tier.getD "") ++ " → " ++ band ++ " (" ++ share points cfg.max ++ ")" }

/-- The factor of recurrence data whose times can be subtracted: a naive one from an aware one raises. -/
def recurrence_velocity_factor (dedupe : Option CanonicalDedupe) (cfg : RecurrenceVelocityConfig) : Option ScoreFactor :=
  match dedupe with
  | none =>
    some { name := "recurrence_velocity", points := 0, max := cfg.max
           detail := "no recurrence data (" ++ share 0 cfg.max ++ ")" }
  | some dedupe =>
    if dedupe.first_seen.aware ≠ dedupe.last_seen.aware then none else
    let span := max 0 (dedupe.last_seen.instant - dedupe.first_seen.instant)
    let matched := cfg.rules.filter (fun rule => rule.min_occurrences ≤ dedupe.occurrences ∧
      span ≤ seconds rule.max_window_seconds)
    let points := min (matched.map RecurrenceRule.points).sum cfg.max
    let seen := toString dedupe.occurrences ++ " occurrence(s) over " ++ toString (Audit.round_seconds span) ++ "s; "
    some { name := "recurrence_velocity", points := points, max := cfg.max
           detail := if matched.isEmpty then seen ++ "no recurrence threshold met (" ++ share 0 cfg.max ++ ")"
             else seen ++ "matched " ++ comma_joined (matched.map RecurrenceRule.name) ++ " (" ++ share points cfg.max ++
               ")" }

/-- The points of recurrence data whose times are both naive or both aware. -/
theorem recurrence_velocity_points {dedupe : CanonicalDedupe} (cfg : RecurrenceVelocityConfig)
    (comparable : dedupe.first_seen.aware = dedupe.last_seen.aware) :
    (recurrence_velocity_factor (some dedupe) cfg).map ScoreFactor.points =
      some ((min ((cfg.rules.filter (fun rule => rule.min_occurrences ≤ dedupe.occurrences ∧
        max 0 (dedupe.last_seen.instant - dedupe.first_seen.instant) ≤ seconds rule.max_window_seconds)).map
          RecurrenceRule.points).sum cfg.max : Nat) : Int) := by
  rw [recurrence_velocity_factor]
  dsimp only
  split
  · rename_i apart
    exact absurd comparable apart
  · rfl

def ioc_evidence_factor (iocs : List IOC) (cfg : IocEvidenceConfig) : ScoreFactor :=
  let count := iocs.length
  let points := min (min count cfg.max_counted * cfg.per_indicator) cfg.max
  let types := ((iocs.map (fun ioc => ioc.type.value)).dedup).insertionSort (· ≤ ·)
  { name := "ioc_evidence", points := points, max := cfg.max
    detail := if types.isEmpty then "no indicators extracted (" ++ share 0 cfg.max ++ ")"
      else toString count ++ " indicator(s) (" ++ comma_joined types ++ ") → " ++ share points cfg.max }

/-- The status a policy's points are looked up under. -/
def normalized (py : PyStr) (status : Option String) : String :=
  py.lower (Text.strip (match status with | none | some "" => "skipped" | some status => status))

/-- The points a policy gives for an enrichment status. -/
def credit (py : PyStr) (cfg : EnrichmentStatusConfig) (status : Option String) : Int :=
  ((cfg.points.get (normalized py status)).map Prod.snd).getD 0

def enrichment_status_factor (py : PyStr) (status : Option String) (cfg : EnrichmentStatusConfig) : ScoreFactor :=
  let normalized := normalized py status
  let points := credit py cfg status
  { name := "enrichment_status", points, max := cfg.max
    detail := if normalized = "failed" then
        "enrichment unavailable (" ++ normalized ++ ") → " ++ share 0 cfg.max ++ " (fail-safe)"
      else "enrichment " ++ normalized ++ " → " ++ share points cfg.max }

def allowlist_factor (iocs : List IOC) (cfg : AllowlistConfig) : ScoreFactor :=
  if iocs.any ioc_is_allowlisted then
    { name := "allowlist_modifier", points := -cfg.subtract, max := cfg.subtract
      detail := "allowlisted indicator present → -" ++ toString cfg.subtract }
  else { name := "allowlist_modifier", points := 0, max := cfg.subtract, detail := "no allowlisted indicators" }

/-! ### Threat intelligence -/

def INTEL_UNAVAILABLE_STATUSES : List String := ["error", "timeout", "rate_limited"]
def VT_HANDLED_TYPES : List IOCType := [.IPV4, .DOMAIN, .URL, .MD5, .SHA1, .SHA256]
def MISP_HANDLED_TYPES : List IOCType := [.IPV4, .DOMAIN, .URL, .MD5, .SHA1, .SHA256, .EMAIL]

/-- `_SAFE_TAG_RE.fullmatch`: a letter or digit, then at most 63 letters, digits or signs of a short list. -/
def safe_tag (tag : String) : Bool :=
  match tag.toList with
  | [] => false
  | first :: rest => first.isAlphanum && rest.length ≤ 63 && rest.all (fun c => c.isAlphanum || ":.+_@-/".toList.contains c)

def provider_payload (ioc : IOC) (provider : String) : Option JsonObject := (ioc.enrichment.get provider).map Prod.snd

/-- Only a text can read like one of the unavailable statuses. -/
def lookup_available (payload : JsonObject) : Bool :=
  match Json.lookup "lookup_status" payload with
  | some (.str status) => !(INTEL_UNAVAILABLE_STATUSES.contains status)
  | _ => true

def payload_result (payload : JsonObject) : JsonObject :=
  match Json.lookup "result" payload with
  | some (.obj result) => result
  | _ => []

def evidence_count (payload : JsonObject) (key : String) : Nat :=
  match Json.lookup key payload with
  | some (.int value) => value.toNat
  | _ => 0

/-- `str` of text, or of an integer, as which a boolean counts. -/
def item_text : Json → Option String
  | .str s => some s
  | .int n => some (toString n)
  | .bool b => some (if b then "True" else "False")
  | _ => none

def string_list (payload : JsonObject) (key : String) : List String :=
  match Json.lookup key payload with
  | some (.arr values) => values.filterMap item_text
  | _ => []

def virustotal_award (result : JsonObject) (cfg : ThreatIntelConfig) : Nat :=
  let vt := cfg.virustotal
  let malicious := evidence_count result "malicious"
  if vt.malicious_high_min ≤ malicious then vt.malicious_high_points
  else if 0 < malicious then vt.malicious_low_points
  else if vt.suspicious_min ≤ evidence_count result "suspicious" then vt.suspicious_only_points
  else 0

/-- The result a provider attached to an indicator of a type it handles, when its lookup was answered. -/
def answered (ioc : IOC) (provider : String) (handled : List IOCType) : Option JsonObject :=
  match provider_payload ioc provider with
  | none => none
  | some payload => if lookup_available payload && handled.contains ioc.type then some (payload_result payload) else none

/-- What the loop over the indicators has gathered. -/
structure IntelTally where
  total : Nat := 0
  vt_hits : List String := []
  vt_malicious : Table (Prod.fst : String × Nat → String) := Table.empty
  vt_suspicious_total : Nat := 0
  misp_hits : List String := []
  misp_actor_tags : List String := []

def virustotal_step (cfg : ThreatIntelConfig) (tally : IntelTally) (ioc : IOC) : IntelTally :=
  match answered ioc cfg.virustotal.provider VT_HANDLED_TYPES with
  | none => tally
  | some result =>
    let award := virustotal_award result cfg
    let tally := if award = 0 then tally else
      { tally with total := tally.total + award, vt_hits := tally.vt_hits ++ [ioc_key ioc]
                   vt_malicious := tally.vt_malicious.put (ioc_key ioc, evidence_count result "malicious") }
    { tally with vt_suspicious_total := tally.vt_suspicious_total + evidence_count result "suspicious" }

def misp_step (py : PyStr) (cfg : ThreatIntelConfig) (tally : IntelTally) (ioc : IOC) : IntelTally :=
  let misp := cfg.misp
  let narrate_misp := misp.event_match_points > 0 || misp.threat_actor_bonus_points > 0
  match answered ioc misp.provider MISP_HANDLED_TYPES with
  | none => tally
  | some result =>
    if evidence_count result "match_count" = 0 ∧ string_list result "event_ids" = [] then tally
    else
      let tally := { tally with total := tally.total + misp.event_match_points
                                misp_hits := tally.misp_hits ++ (if narrate_misp then [ioc_key ioc] else []) }
      match (string_list result "tags").find? (misp.is_threat_actor_tag py) with
      | none => tally
      | some tag =>
        { tally with total := tally.total + misp.threat_actor_bonus_points
                     misp_actor_tags := if safe_tag tag && narrate_misp && !(tally.misp_actor_tags.contains tag)
                       then tally.misp_actor_tags ++ [tag] else tally.misp_actor_tags }

def intel_step (py : PyStr) (cfg : ThreatIntelConfig) (tally : IntelTally) (ioc : IOC) : IntelTally :=
  if cfg.handled_types.contains ioc.type.value then misp_step py cfg (virustotal_step cfg tally ioc) ioc else tally

/-- The first few of a sorted list, and how many more there are. -/
def listed (limit : Nat) (hits : List String) : String :=
  comma_joined (hits.take limit) ++
    (if limit < hits.length then " (+" ++ toString (hits.length - limit) ++ " more)" else "")

def intel_detail (cfg : ThreatIntelConfig) (points : Nat) (vt_hits : List String)
    (vt_malicious : Table (Prod.fst : String × Nat → String)) (vt_suspicious_total : Nat)
    (misp_hits misp_actor_tags : List String) :
    String :=
  let limit := cfg.detail_max_iocs
  let parts :=
    (if vt_hits.isEmpty then [] else
      ["Virustotal: " ++ toString vt_hits.length ++ " indicator(s) with malicious verdicts [" ++ listed limit vt_hits ++
        "], max " ++ toString ((vt_malicious.rows.map Prod.snd).foldl max 0) ++ " engine(s) flagging"]) ++
    (if vt_suspicious_total = 0 then [] else
      ["Virustotal: " ++ (if vt_hits.isEmpty then "suspicious-only evidence" else "further suspicious hits") ++ ", " ++
        toString vt_suspicious_total ++ " suspicious engine hit(s)"]) ++
    (if misp_hits.isEmpty then [] else
      ["MISP: " ++ toString misp_hits.length ++ " indicator(s) matched events [" ++ listed limit misp_hits ++ "]" ++
        (if misp_actor_tags.isEmpty then "" else
          "; threat-actor tags " ++ comma_joined ((misp_actor_tags.insertionSort (· ≤ ·)).take limit))])
  if parts.isEmpty then "no corroborating threat-intel verdicts (" ++ share 0 cfg.max ++ ")"
  else "; ".intercalate parts ++ " → " ++ share points cfg.max

def by_ioc_key (a b : IOC) : Prop := ioc_key a ≤ ioc_key b

instance : DecidableRel by_ioc_key := fun _ _ => inferInstanceAs (Decidable (_ ≤ _))

/-- Indicators with distinct keys have one order by key. -/
theorem by_ioc_key_perm {iocs iocs' : List IOC} (distinct : (iocs.map ioc_key).Nodup) (perm : iocs'.Perm iocs) :
    iocs'.insertionSort by_ioc_key = iocs.insertionSort by_ioc_key := by
  have total : Std.Total by_ioc_key := ⟨fun a b => le_total (ioc_key a) (ioc_key b)⟩
  have trans : IsTrans IOC by_ioc_key := ⟨fun _ _ _ before after => le_trans before after⟩
  have sorted := (List.perm_insertionSort by_ioc_key iocs').trans (perm.trans (List.perm_insertionSort by_ioc_key iocs).symm)
  refine List.Perm.eq_of_pairwise ?_ (List.pairwise_insertionSort by_ioc_key iocs')
    (List.pairwise_insertionSort by_ioc_key iocs) sorted
  intro first second left right before after
  have inside : first ∈ iocs := perm.mem_iff.mp ((List.mem_insertionSort by_ioc_key).mp left)
  have inside' : second ∈ iocs := (List.mem_insertionSort by_ioc_key).mp right
  exact List.inj_on_of_nodup_map distinct inside inside' (le_antisymm before after)

/-- The loop over the indicators. -/
def intel_tally (py : PyStr) (iocs : List IOC) (cfg : ThreatIntelConfig) : IntelTally :=
  (iocs.insertionSort by_ioc_key).foldl (intel_step py cfg) {}

def threat_intel_factor (py : PyStr) (iocs : List IOC) (cfg : ThreatIntelConfig) : ScoreFactor :=
  let tally := intel_tally py iocs cfg
  let points := min tally.total cfg.max
  { name := "threat_intel", points := points, max := cfg.max
    detail := intel_detail cfg points (tally.vt_hits.insertionSort (· ≤ ·)) tally.vt_malicious tally.vt_suspicious_total
      (tally.misp_hits.insertionSort (· ≤ ·)) tally.misp_actor_tags }

/-! ### The score -/

/-- An integer with its sign. -/
def signed (n : Int) : String := if n < 0 then toString n else "+" ++ toString n

def summary (score : Nat) (tier : RiskTier) (factors : List ScoreFactor) : String :=
  "Score " ++ toString score ++ " (" ++ tier.value ++ "): " ++
    comma_joined (factors.map (fun f => f.name ++ " " ++ signed f.points ++ "/" ++ toString f.max)) ++ "."

/-- The factors in their declared order. -/
def factors (py : PyStr) (policy : ScoringPolicy) (alert : CanonicalAlert) : Option (List ScoreFactor) := do
  let rule := alert.source_event.rule
  let rule_groups_mitre ← rule_groups_mitre_factor rule policy.rule_groups_mitre
  let recurrence_velocity ← recurrence_velocity_factor alert.dedupe policy.recurrence_velocity
  return [rule_severity_factor rule policy.rule_severity, rule_groups_mitre,
      asset_criticality_factor py alert.asset policy.asset_criticality, recurrence_velocity,
      ioc_evidence_factor alert.iocs policy.ioc_evidence,
      enrichment_status_factor py alert.enrichment_status policy.enrichment_status] ++
    (policy.threat_intel.map (threat_intel_factor py alert.iocs)).toList ++
    [allowlist_factor alert.iocs policy.allowlist]

/-! ### What can be written -/

/-- `str` of an integer takes at most 4300 digits. -/
def writable (n : Int) : Bool := (Nat.toDigits 10 n.natAbs).length ≤ 4300

/-- A number no larger than one that can be written can be written. -/
theorem writable_le {n most : Int} (within : n.natAbs ≤ most.natAbs) (ok : writable most = true) : writable n = true := by
  rw [writable, decide_eq_true_eq, Nat.length_toDigits_le_iff (by decide) (by decide)] at ok ⊢
  exact lt_of_le_of_lt within ok

mutual
/-- `str` writes a value of so many containers inside one another at most, and with integers that it writes. -/
def shown (containers : Nat) : Json → Bool
  | .int n => writable n
  | .arr items => 0 < containers && shown_items (containers - 1) items
  | .obj fields => 0 < containers && shown_fields (containers - 1) fields
  | _ => true
def shown_items (containers : Nat) : List Json → Bool
  | [] => true
  | item :: rest => shown containers item && shown_items containers rest
def shown_fields (containers : Nat) : JsonObject → Bool
  | [] => true
  | (_, value) :: rest => shown containers value && shown_fields containers rest
end

/-- The status of a lookup as `str` is given it, its keys in whatever order. -/
def status_text (ioc : IOC) (provider : String) : List Json :=
  (((provider_payload ioc provider).bind (Json.lookup "lookup_status")).map Json.canonical).toList

def is_integer : Json → Bool
  | .int _ => true
  | _ => false

/-- The integers of a list, which `_string_list` gives to `str`. -/
def integers (payload : JsonObject) (key : String) : List Json :=
  match Json.lookup key payload with
  | some (.arr values) => values.filter is_integer
  | _ => []

/-- What the loop over the indicators gives to `str` of one of them. -/
def read_texts (cfg : ThreatIntelConfig) (ioc : IOC) : List Json :=
  if cfg.handled_types.contains ioc.type.value then
    status_text ioc cfg.virustotal.provider ++ status_text ioc cfg.misp.provider ++
      match answered ioc cfg.misp.provider MISP_HANDLED_TYPES with
      | none => []
      | some result => integers result "event_ids" ++
        (if evidence_count result "match_count" = 0 ∧ string_list result "event_ids" = [] then [] else integers result "tags")
  else []

/-- The numbers of the alert that the texts of the factors tell: the level of its rule, its occurrences, the most engines
    that flag an indicator, and the suspicious hits in all. -/
def told (py : PyStr) (policy : ScoringPolicy) (alert : CanonicalAlert) : List Int :=
  [alert.source_event.rule.level] ++ (alert.dedupe.map (fun dedupe => (dedupe.occurrences : Int))).toList ++
    (policy.threat_intel.toList.flatMap (fun cfg =>
      let tally := intel_tally py alert.iocs cfg
      [(((tally.vt_malicious.rows.map Prod.snd).foldl max 0 : Nat) : Int), (tally.vt_suspicious_total : Int)]))

/-- What the texts tell of the alert, and what is read of its indicators as text, can be written. -/
def printed (py : PyStr) (policy : ScoringPolicy) (alert : CanonicalAlert) : Bool :=
  (told py policy alert).all writable && policy.threat_intel.toList.all (fun cfg =>
    (alert.iocs.insertionSort by_ioc_key).all (fun ioc => (read_texts cfg ioc).all (shown py.recursion)))

/-- The points and the maxima, which the summary tells, can be written. -/
def written (factors : List ScoreFactor) : Bool :=
  factors.all (fun factor => writable factor.points && writable factor.max)

/-- The assessment that a list of factors adds up to. -/
def assessment (policy : ScoringPolicy) (factors : List ScoreFactor) : RiskAssessment :=
  let score := clamp (factors.map ScoreFactor.points).sum
  let tier := policy.tier_for score
  { score, tier, engine_version := policy.engine_version, factors, summary := summary score tier factors }

/-- `score_alert`, absent when it raises. -/
def score_alert (py : PyStr) (policy : ScoringPolicy) (alert : CanonicalAlert) : Option RiskAssessment :=
  ((factors py policy alert).filter (fun factors => printed py policy alert && written factors)).map (assessment policy)

def degraded_score (policy : ScoringPolicy) (alert : CanonicalAlert) : RiskAssessment :=
  let factor := rule_severity_factor alert.source_event.rule policy.rule_severity
  let score := clamp factor.points
  let tier := policy.tier_for score
  { score, tier, engine_version := policy.engine_version, factors := [factor]
    summary := "Degraded fallback: " ++ factor.detail ++ "; score " ++ toString score ++ " (" ++ tier.value ++ ")."
    degraded := true }

/-- `RiskScorer.score`, where the fallback can write the level and the points of its band. -/
def score (py : PyStr) (policy : ScoringPolicy) (alert : CanonicalAlert) : RiskAssessment :=
  (score_alert py policy alert).getD (degraded_score policy alert)

/-! ### What the points are made of -/

section
variable (py : PyStr)

/-- The points of one indicator by what VirusTotal attached to it. -/
def virustotal_points (cfg : ThreatIntelConfig) (ioc : IOC) : Nat :=
  ((answered ioc cfg.virustotal.provider VT_HANDLED_TYPES).map (fun result => virustotal_award result cfg)).getD 0

/-- What a result of MISP is worth. -/
def misp_award (cfg : ThreatIntelConfig) (result : JsonObject) : Nat :=
  if evidence_count result "match_count" = 0 ∧ string_list result "event_ids" = [] then 0
  else cfg.misp.event_match_points +
    (if (string_list result "tags").any (cfg.misp.is_threat_actor_tag py) then cfg.misp.threat_actor_bonus_points else 0)

/-- The points of one indicator by what MISP attached to it. -/
def misp_points (cfg : ThreatIntelConfig) (ioc : IOC) : Nat :=
  ((answered ioc cfg.misp.provider MISP_HANDLED_TYPES).map (misp_award py cfg)).getD 0

def intel_points (cfg : ThreatIntelConfig) (ioc : IOC) : Nat :=
  if cfg.handled_types.contains ioc.type.value then virustotal_points cfg ioc + misp_points py cfg ioc else 0

private theorem virustotal_step_total (cfg : ThreatIntelConfig) (tally : IntelTally) (ioc : IOC) :
    (virustotal_step cfg tally ioc).total = tally.total + virustotal_points cfg ioc := by
  rw [virustotal_step, virustotal_points]
  cases answered ioc cfg.virustotal.provider VT_HANDLED_TYPES with
  | none => rfl
  | some result =>
    rw [Option.map_some, Option.getD_some]
    dsimp only
    split
    · rename_i nothing; rw [nothing, Nat.add_zero]
    · rfl

private theorem misp_step_total (cfg : ThreatIntelConfig) (tally : IntelTally) (ioc : IOC) :
    (misp_step py cfg tally ioc).total = tally.total + misp_points py cfg ioc := by
  rw [misp_step, misp_points]
  cases answered ioc cfg.misp.provider MISP_HANDLED_TYPES with
  | none => rfl
  | some result =>
    rw [Option.map_some, Option.getD_some, misp_award]
    dsimp only
    split
    · rfl
    · cases actor : (string_list result "tags").find? (cfg.misp.is_threat_actor_tag py) with
      | none =>
        have none_listed : (string_list result "tags").any (cfg.misp.is_threat_actor_tag py) = false :=
          List.any_eq_false.mpr (List.find?_eq_none.mp actor)
        rw [none_listed]
        rfl
      | some tag =>
        have one_listed : (string_list result "tags").any (cfg.misp.is_threat_actor_tag py) = true :=
          List.any_eq_true.mpr ⟨tag, List.mem_of_find?_eq_some actor, List.find?_some actor⟩
        rw [one_listed, if_pos rfl, ← Nat.add_assoc]

private theorem intel_step_total (cfg : ThreatIntelConfig) (tally : IntelTally) (ioc : IOC) :
    (intel_step py cfg tally ioc).total = tally.total + intel_points py cfg ioc := by
  rw [intel_step, intel_points]
  cases cfg.handled_types.contains ioc.type.value with
  | false => rfl
  | true => rw [if_pos rfl, if_pos rfl, misp_step_total, virustotal_step_total, Nat.add_assoc]

/-- The loop adds up the points of the indicators. -/
private theorem tally_total (cfg : ThreatIntelConfig) (iocs : List IOC) (tally : IntelTally) :
    (iocs.foldl (intel_step py cfg) tally).total = tally.total + (iocs.map (intel_points py cfg)).sum := by
  induction iocs generalizing tally with
  | nil => rfl
  | cons ioc rest ih => rw [List.foldl_cons, ih, intel_step_total, List.map_cons, List.sum_cons, Nat.add_assoc]

/-- The factors are there when the tactics can be counted and the times of the group can be subtracted. -/
theorem factors_some {policy : ScoringPolicy} {alert : CanonicalAlert} {listed : List ScoreFactor} :
    factors py policy alert = some listed ↔ ∃ rule_groups_mitre recurrence_velocity,
      rule_groups_mitre_factor alert.source_event.rule policy.rule_groups_mitre = some rule_groups_mitre ∧
      recurrence_velocity_factor alert.dedupe policy.recurrence_velocity = some recurrence_velocity ∧
      listed = [rule_severity_factor alert.source_event.rule policy.rule_severity, rule_groups_mitre,
          asset_criticality_factor py alert.asset policy.asset_criticality, recurrence_velocity,
          ioc_evidence_factor alert.iocs policy.ioc_evidence,
          enrichment_status_factor py alert.enrichment_status policy.enrichment_status] ++
        (policy.threat_intel.map (threat_intel_factor py alert.iocs)).toList ++
        [allowlist_factor alert.iocs policy.allowlist] := by
  rw [factors]
  constructor
  · intro scored
    obtain ⟨rule_groups_mitre, counted, rest⟩ := Option.bind_eq_some_iff.mp scored
    obtain ⟨recurrence_velocity, subtracted, same⟩ := Option.bind_eq_some_iff.mp rest
    exact ⟨rule_groups_mitre, recurrence_velocity, counted, subtracted, (Option.some.inj same).symm⟩
  · rintro ⟨rule_groups_mitre, recurrence_velocity, counted, subtracted, same⟩
    rw [counted, subtracted, same]
    rfl

/-- An alert is scored when its factors are there and all texts can be written. -/
theorem score_alert_some {policy : ScoringPolicy} {alert : CanonicalAlert} {risk : RiskAssessment} :
    score_alert py policy alert = some risk ↔ ∃ listed, factors py policy alert = some listed ∧
      printed py policy alert = true ∧ written listed = true ∧ assessment policy listed = risk := by
  rw [score_alert, Option.map_eq_some_iff]
  constructor
  · rintro ⟨listed, kept, same⟩
    obtain ⟨scored, writes⟩ := Option.filter_eq_some_iff.mp kept
    obtain ⟨printable, writable⟩ := Bool.and_eq_true_iff.mp writes
    exact ⟨listed, scored, printable, writable, same⟩
  · rintro ⟨listed, scored, printable, writable, same⟩
    exact ⟨listed, Option.filter_eq_some_iff.mpr ⟨scored, Bool.and_eq_true_iff.mpr ⟨printable, writable⟩⟩, same⟩

/-! ### The maxima -/

/-- The maxima of the factors that a policy gives, in their declared order. -/
def maxima (policy : ScoringPolicy) : List Nat :=
  [policy.rule_severity.max, policy.rule_groups_mitre.max, policy.asset_criticality.max, policy.recurrence_velocity.max,
      policy.ioc_evidence.max, policy.enrichment_status.max] ++
    (policy.threat_intel.map ThreatIntelConfig.max).toList ++ [policy.allowlist.subtract]

private theorem rule_severity_max (rule : CanonicalRule) (cfg : RuleSeverityConfig) :
    (rule_severity_factor rule cfg).max = cfg.max := by
  rw [rule_severity_factor]
  split <;> rfl

private theorem asset_criticality_max (asset : Option CanonicalAsset) (cfg : AssetCriticalityConfig) :
    (asset_criticality_factor py asset cfg).max = cfg.max := by
  rw [asset_criticality_factor]
  split <;> rfl

private theorem allowlist_max (iocs : List IOC) (cfg : AllowlistConfig) : (allowlist_factor iocs cfg).max = cfg.subtract := by
  rw [allowlist_factor]
  split <;> rfl

private theorem rule_groups_mitre_max {rule : CanonicalRule} {cfg : RuleGroupsMitreConfig} {factor : ScoreFactor}
    (counted : rule_groups_mitre_factor rule cfg = some factor) : factor.max = cfg.max := by
  obtain ⟨tactics, _, same⟩ := Option.map_eq_some_iff.mp counted
  rw [← same]

private theorem recurrence_velocity_max {dedupe : Option CanonicalDedupe} {cfg : RecurrenceVelocityConfig}
    {factor : ScoreFactor} (subtracted : recurrence_velocity_factor dedupe cfg = some factor) : factor.max = cfg.max := by
  cases dedupe with
  | none => rw [← Option.some.inj subtracted]
  | some dedupe =>
    rw [recurrence_velocity_factor] at subtracted
    dsimp only at subtracted
    split at subtracted
    · cases subtracted
    · rw [← Option.some.inj subtracted]

/-- The maximum of each factor is the policy's, whatever the alert. -/
theorem factors_max {policy : ScoringPolicy} {alert : CanonicalAlert} {listed : List ScoreFactor}
    (scored : factors py policy alert = some listed) : listed.map ScoreFactor.max = maxima policy := by
  obtain ⟨rule_groups_mitre, recurrence_velocity, counted, subtracted, same⟩ := (factors_some py).mp scored
  rw [same, maxima, List.map_append, List.map_append, List.map_cons, List.map_cons, List.map_cons, List.map_cons,
    rule_severity_max, rule_groups_mitre_max counted, asset_criticality_max, recurrence_velocity_max subtracted,
    List.map_singleton, allowlist_max]
  cases policy.threat_intel <;> rfl

/-- The summary can be written where the points and the policy's maxima can. -/
theorem written_eq {policy : ScoringPolicy} {alert : CanonicalAlert} {listed : List ScoreFactor}
    (scored : factors py policy alert = some listed) :
    written listed =
      ((listed.map ScoreFactor.points).all writable && (maxima policy).all (fun most => writable most)) := by
  rw [← factors_max py scored, written, List.all_map, List.all_map, Bool.eq_iff_iff, Bool.and_eq_true, List.all_eq_true,
    List.all_eq_true, List.all_eq_true, ← forall₂_and]
  simp only [Bool.and_eq_true, Function.comp_apply]

/-! ### The awards -/

/-- A factor's name and points. -/
def award (factor : ScoreFactor) : String × Int := (factor.name, factor.points)

theorem award_threat_intel (cfg : ThreatIntelConfig) (iocs : List IOC) :
    award (threat_intel_factor py iocs cfg) =
      ("threat_intel", ((min (iocs.map (intel_points py cfg)).sum cfg.max : Nat) : Int)) := by
  have sorted := ((List.perm_insertionSort by_ioc_key iocs).map (intel_points py cfg)).sum_nat
  rw [award, threat_intel_factor, intel_tally]
  dsimp only
  rw [tally_total, sorted, Nat.zero_add]

private theorem award_allowlist (cfg : AllowlistConfig) (iocs : List IOC) :
    award (allowlist_factor iocs cfg) =
      ("allowlist_modifier", if iocs.any ioc_is_allowlisted then -(cfg.subtract : Int) else 0) := by
  rw [allowlist_factor]
  cases iocs.any ioc_is_allowlisted <;> rfl

/-- The points of an alert. Its indicators count by their number, by the points of each, and by whether one is
    allowlisted; the enrichment status counts by the credit it is given. -/
theorem factors_award (policy : ScoringPolicy) (alert : CanonicalAlert) :
    (factors py policy alert).map (List.map award) =
      (rule_groups_mitre_factor alert.source_event.rule policy.rule_groups_mitre).bind (fun rule_groups_mitre =>
      (recurrence_velocity_factor alert.dedupe policy.recurrence_velocity).map (fun recurrence_velocity =>
        [award (rule_severity_factor alert.source_event.rule policy.rule_severity), award rule_groups_mitre,
          award (asset_criticality_factor py alert.asset policy.asset_criticality), award recurrence_velocity,
          ("ioc_evidence", ((min (min alert.iocs.length policy.ioc_evidence.max_counted *
            policy.ioc_evidence.per_indicator) policy.ioc_evidence.max : Nat) : Int)),
          ("enrichment_status", credit py policy.enrichment_status alert.enrichment_status)] ++
        (policy.threat_intel.map (fun cfg =>
          ("threat_intel", ((min (alert.iocs.map (intel_points py cfg)).sum cfg.max : Nat) : Int)))).toList ++
        [("allowlist_modifier", if alert.iocs.any ioc_is_allowlisted then -(policy.allowlist.subtract : Int) else 0)])) := by
  rw [factors]
  cases rule_groups_mitre_factor alert.source_event.rule policy.rule_groups_mitre with
  | none => rfl
  | some rule_groups_mitre =>
    cases recurrence_velocity_factor alert.dedupe policy.recurrence_velocity with
    | none => rfl
    | some recurrence_velocity =>
      simp only [bind, pure, Option.bind_some, Option.map_some, List.map_append, List.map_singleton, award_allowlist]
      cases policy.threat_intel with
      | none => rfl
      | some cfg =>
        rw [Option.map_some, Option.map_some, Option.toList_some, Option.toList_some, List.map_singleton,
          award_threat_intel]
        rfl

/-- What an assessment comes to: its score, its tier and the points of its factors. -/
def verdict (risk : RiskAssessment) : Nat × RiskTier × List (String × Int) := (risk.score, risk.tier, risk.factors.map award)

/-- The points of the factors decide the score and the tier. -/
theorem verdict_assessment (policy : ScoringPolicy) {factors factors' : List ScoreFactor}
    (same : factors.map award = factors'.map award) :
    verdict (assessment policy factors) = verdict (assessment policy factors') := by
  have sums : (factors.map ScoreFactor.points).sum = (factors'.map ScoreFactor.points).sum := by
    have points := congrArg (List.map Prod.snd) same
    rw [List.map_map, List.map_map] at points
    exact congrArg List.sum points
  rw [verdict, verdict, assessment, assessment, same, sums]
end

end SocTriage.Scoring
