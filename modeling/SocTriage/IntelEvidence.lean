import Mathlib.Logic.Relation
import SocTriage.UnchangedEnrichment

/-!
The threat intelligence points follow the evidence: what adds to it never costs points, and a
provider that stops answering never earns any. The bands of the policy are ordered, which is
what the first rests on where a count moves an indicator from one band to another.
-/
namespace SocTriage.Scoring
open Policies

/-! ### Evidence that grows and evidence that is lost -/

/-- A result with no less evidence: higher counts, and every event id and tag of the other. -/
structure MoreEvidence (result result' : JsonObject) : Prop where
  malicious : evidence_count result "malicious" ≤ evidence_count result' "malicious"
  suspicious : evidence_count result "suspicious" ≤ evidence_count result' "suspicious"
  match_count : evidence_count result "match_count" ≤ evidence_count result' "match_count"
  event_ids : ∀ id ∈ string_list result "event_ids", id ∈ string_list result' "event_ids"
  tags : ∀ tag ∈ string_list result "tags", tag ∈ string_list result' "tags"

/-- The payload of a lookup that failed, or one without a result to read. -/
def Unavailable (payload : JsonObject) : Prop :=
  (∃ status ∈ INTEL_UNAVAILABLE_STATUSES, Json.lookup "lookup_status" payload = some (.str status)) ∨
    ∀ result, Json.lookup "result" payload ≠ some (.obj result)

/-- The same indicator but for what one provider attached to it. -/
structure Reported (name : String) (ioc ioc' : IOC) : Prop where
  type : ioc'.type = ioc.type
  value : ioc'.value = ioc.value
  others : ∀ other, other ≠ name → provider_payload ioc' other = provider_payload ioc other

/-- One piece of evidence more: a payload that reports more, a payload where there was none, or
    another indicator. -/
inductive Raised : List IOC → List IOC → Prop
  | evidence {before after : List IOC} {ioc ioc' : IOC} {name : String} {payload payload' : JsonObject} :
      Reported name ioc ioc' → provider_payload ioc name = some payload → provider_payload ioc' name = some payload' →
      Json.lookup "lookup_status" payload' = Json.lookup "lookup_status" payload →
      MoreEvidence (payload_result payload) (payload_result payload') →
      Raised (before ++ ioc :: after) (before ++ ioc' :: after)
  | payload {before after : List IOC} {ioc ioc' : IOC} {name : String} :
      Reported name ioc ioc' → provider_payload ioc name = none → Raised (before ++ ioc :: after) (before ++ ioc' :: after)
  | indicator {before after : List IOC} {ioc : IOC} : Raised (before ++ after) (before ++ ioc :: after)

/-- A provider's payload replaced by an unavailable one, or by nothing that reads as a payload. -/
inductive Withdrawn : List IOC → List IOC → Prop
  | payload {before after : List IOC} {ioc ioc' : IOC} {name : String} :
      Reported name ioc ioc' → (∀ payload, provider_payload ioc' name = some payload → Unavailable payload) →
      Withdrawn (before ++ ioc :: after) (before ++ ioc' :: after)

/-! ### Awards -/

/-- More engines never earn less: within a band nothing changes, and the bands are ordered. -/
theorem virustotal_award_mono (cfg : ThreatIntelConfig) {result result' : JsonObject}
    (more : MoreEvidence result result') : virustotal_award result cfg ≤ virustotal_award result' cfg := by
  have malicious := more.malicious
  have suspicious := more.suspicious
  obtain ⟨low, only⟩ := cfg.virustotal.bands_ordered
  simp only [virustotal_award]
  by_cases high : cfg.virustotal.malicious_high_min ≤ evidence_count result "malicious"
  · rw [if_pos high, if_pos (high.trans malicious)]
  · rw [if_neg high]
    by_cases some_engine : 0 < evidence_count result "malicious"
    · rw [if_pos some_engine]
      split
      · exact low
      · rw [if_pos (by omega)]
    · rw [if_neg some_engine]
      by_cases enough : cfg.virustotal.suspicious_min ≤ evidence_count result "suspicious"
      · rw [if_pos enough]
        split
        · omega
        · split
          · exact only
          · rw [if_pos (by omega)]
      · rw [if_neg enough]; exact Nat.zero_le _

theorem misp_award_mono (py : PyStr) (cfg : ThreatIntelConfig) {result result' : JsonObject}
    (more : MoreEvidence result result') : misp_award py cfg result ≤ misp_award py cfg result' := by
  rw [misp_award, misp_award]
  by_cases blank : evidence_count result "match_count" = 0 ∧ string_list result "event_ids" = []
  · rw [if_pos blank]; exact Nat.zero_le _
  · have matched : ¬ (evidence_count result' "match_count" = 0 ∧ string_list result' "event_ids" = []) := by
      rintro ⟨count, ids⟩
      have smaller := more.match_count
      refine blank ⟨by omega, List.eq_nil_iff_forall_not_mem.mpr (fun id inside => ?_)⟩
      have kept := more.event_ids id inside
      rw [ids] at kept
      cases kept
    rw [if_neg blank, if_neg matched]
    by_cases actor : (string_list result "tags").any (cfg.misp.is_threat_actor_tag py) = true
    · obtain ⟨tag, inside, named⟩ := List.any_eq_true.mp actor
      rw [if_pos actor, if_pos (List.any_eq_true.mpr ⟨tag, more.tags tag inside, named⟩)]
    · rw [if_neg actor]; omega

private theorem virustotal_award_nil (cfg : ThreatIntelConfig) : virustotal_award [] cfg = 0 := by
  obtain ⟨high, suspicious⟩ := cfg.virustotal.positive
  have nothing : ∀ key, evidence_count [] key = 0 := fun _ => rfl
  simp only [virustotal_award, nothing]
  rw [if_neg (by omega), if_neg (by omega), if_neg (by omega)]

/-! ### The points of one indicator -/

/-- What one provider's payload is worth, given what a result is worth. -/
private def worth (award : JsonObject → Nat) (provider : String) (handled : List IOCType) (ioc : IOC) : Nat :=
  ((answered ioc provider handled).map award).getD 0

private theorem intel_points_worth (py : PyStr) (cfg : ThreatIntelConfig) (ioc : IOC) :
    intel_points py cfg ioc = if cfg.handled_types.contains ioc.type.value then
      worth (fun result => virustotal_award result cfg) cfg.virustotal.provider VT_HANDLED_TYPES ioc +
        worth (misp_award py cfg) cfg.misp.provider MISP_HANDLED_TYPES ioc else 0 := rfl

/-- A provider whose payload stayed as it was is worth what it was. -/
private theorem worth_other {award : JsonObject → Nat} {provider name : String} {handled : List IOCType} {ioc ioc' : IOC}
    (same : Reported name ioc ioc') (other : provider ≠ name) :
    worth award provider handled ioc' = worth award provider handled ioc := by
  rw [worth, worth, answered, answered, same.others provider other, same.type]

private theorem worth_evidence {award : JsonObject → Nat} {provider name : String} {handled : List IOCType} {ioc ioc' : IOC}
    {payload payload' : JsonObject} (same : Reported name ioc ioc') (was : provider_payload ioc name = some payload)
    (is : provider_payload ioc' name = some payload')
    (status : Json.lookup "lookup_status" payload' = Json.lookup "lookup_status" payload)
    (more : award (payload_result payload) ≤ award (payload_result payload')) :
    worth award provider handled ioc ≤ worth award provider handled ioc' := by
  by_cases mine : provider = name
  · subst mine
    have available : lookup_available payload' = lookup_available payload := by
      rw [lookup_available, lookup_available, status]
    rw [worth, worth, answered, answered, was, is, same.type]
    simp only [available]
    split
    · exact more
    · exact Nat.le_refl _
  · rw [worth_other same mine]

private theorem worth_payload {award : JsonObject → Nat} {provider name : String} {handled : List IOCType} {ioc ioc' : IOC}
    (same : Reported name ioc ioc') (was : provider_payload ioc name = none) :
    worth award provider handled ioc ≤ worth award provider handled ioc' := by
  by_cases mine : provider = name
  · subst mine
    rw [worth, answered, was]
    exact Nat.zero_le _
  · rw [worth_other same mine]

private theorem worth_withdrawn {award : JsonObject → Nat} {provider name : String} {handled : List IOCType} {ioc ioc' : IOC}
    (nothing : award [] = 0) (same : Reported name ioc ioc')
    (lost : ∀ payload, provider_payload ioc' name = some payload → Unavailable payload) :
    worth award provider handled ioc' ≤ worth award provider handled ioc := by
  by_cases mine : provider = name
  · subst mine
    have unanswered : worth award provider handled ioc' = 0 := by
      rw [worth, answered]
      cases given : provider_payload ioc' provider with
      | none => rfl
      | some payload =>
        rcases lost payload given with ⟨status, failed, found⟩ | malformed
        · have unavailable : lookup_available payload = false := by
            rw [lookup_available, found]; simpa using failed
          simp only [unavailable, Bool.false_and, Bool.false_eq_true, ↓reduceIte, Option.map_none, Option.getD_none]
        · have blank : payload_result payload = [] := by
            rw [payload_result]
            split
            · rename_i result found; exact absurd found (malformed result)
            · rfl
          dsimp only
          split
          · rw [blank, Option.map_some, Option.getD_some, nothing]
          · rfl
    rw [unanswered]
    exact Nat.zero_le _
  · rw [worth_other same mine]

/-! ### The points of the factor -/

private theorem points_of_worth {py : PyStr} {cfg : ThreatIntelConfig} {ioc ioc' : IOC} (type : ioc'.type = ioc.type)
    (virustotal : worth (fun result => virustotal_award result cfg) cfg.virustotal.provider VT_HANDLED_TYPES ioc ≤
      worth (fun result => virustotal_award result cfg) cfg.virustotal.provider VT_HANDLED_TYPES ioc')
    (misp : worth (misp_award py cfg) cfg.misp.provider MISP_HANDLED_TYPES ioc ≤
      worth (misp_award py cfg) cfg.misp.provider MISP_HANDLED_TYPES ioc') :
    intel_points py cfg ioc ≤ intel_points py cfg ioc' := by
  rw [intel_points_worth, intel_points_worth, type]
  split
  · omega
  · exact Nat.le_refl _

/-- The points of the factor follow the sum of those of the indicators. -/
private theorem factor_points_mono {py : PyStr} {cfg : ThreatIntelConfig} {iocs iocs' : List IOC}
    (sums : (iocs.map (intel_points py cfg)).sum ≤ (iocs'.map (intel_points py cfg)).sum) :
    (threat_intel_factor py iocs cfg).points ≤ (threat_intel_factor py iocs' cfg).points := by
  have points := congrArg Prod.snd (award_threat_intel py cfg iocs)
  have points' := congrArg Prod.snd (award_threat_intel py cfg iocs')
  simp only [award] at points points'
  rw [points, points']
  omega

private theorem sum_replaced {py : PyStr} {cfg : ThreatIntelConfig} {before after : List IOC} {ioc ioc' : IOC}
    (points : intel_points py cfg ioc ≤ intel_points py cfg ioc') :
    ((before ++ ioc :: after).map (intel_points py cfg)).sum ≤ ((before ++ ioc' :: after).map (intel_points py cfg)).sum := by
  simp only [List.map_append, List.map_cons, List.sum_append, List.sum_cons]
  omega

private theorem raised_points {py : PyStr} {cfg : ThreatIntelConfig} {iocs iocs' : List IOC} (raised : Raised iocs iocs') :
    (threat_intel_factor py iocs cfg).points ≤ (threat_intel_factor py iocs' cfg).points := by
  apply factor_points_mono
  cases raised with
  | evidence same was is status more =>
    exact sum_replaced (points_of_worth same.type
      (worth_evidence same was is status (virustotal_award_mono cfg more))
      (worth_evidence same was is status (misp_award_mono py cfg more)))
  | payload same was => exact sum_replaced (points_of_worth same.type (worth_payload same was) (worth_payload same was))
  | indicator =>
    simp only [List.map_append, List.map_cons, List.sum_append, List.sum_cons]
    omega

private theorem withdrawn_points {py : PyStr} {cfg : ThreatIntelConfig} {iocs iocs' : List IOC}
    (withdrawn : Withdrawn iocs iocs') :
    (threat_intel_factor py iocs' cfg).points ≤ (threat_intel_factor py iocs cfg).points := by
  apply factor_points_mono
  cases withdrawn with
  | payload same lost =>
    exact sum_replaced (points_of_worth same.type.symm
      (worth_withdrawn (virustotal_award_nil cfg) same lost) (worth_withdrawn rfl same lost))

/-- However much evidence is added, in whatever order, the points never fall, and however many
    payloads become unavailable they never rise. -/
theorem threat_intel_monotone (py : PyStr) (cfg : ThreatIntelConfig) (iocs iocs' : List IOC) :
    (Relation.ReflTransGen Raised iocs iocs' →
      (threat_intel_factor py iocs cfg).points ≤ (threat_intel_factor py iocs' cfg).points) ∧
    (Relation.ReflTransGen Withdrawn iocs iocs' →
      (threat_intel_factor py iocs' cfg).points ≤ (threat_intel_factor py iocs cfg).points) := by
  constructor
  · intro run
    induction run with
    | refl => exact Int.le_refl _
    | tail _ raised ih => exact ih.trans (raised_points raised)
  · intro run
    induction run with
    | refl => exact Int.le_refl _
    | tail _ withdrawn ih => exact (withdrawn_points withdrawn).trans ih

/-! ### A report that grows and one that is lost -/

/-- An address with what VirusTotal attached to it. -/
def reported_address (payload : JsonObject) : IOC where
  type := .IPV4
  value := "203.0.113.7"
  enrichment := Table.empty.put ("virustotal", payload)

/-- A report of so many engines. -/
def flagged_by (engines : Int) : JsonObject :=
  [("lookup_status", .str "found"), ("result", .obj [("malicious", .int engines), ("suspicious", .int 0)])]

def timed_out : JsonObject := [("lookup_status", .str "timeout"), ("result", .null)]

private theorem reported_address_differs (payload payload' : JsonObject) :
    Reported "virustotal" (reported_address payload) (reported_address payload') := by
  refine ⟨rfl, rfl, fun other different => ?_⟩
  have unlisted : "virustotal" ≠ other := different.symm
  rw [provider_payload, provider_payload, reported_address, reported_address]
  dsimp only
  rw [Table.get_put, Table.get_put, if_neg unlisted, if_neg unlisted]

/-- Three engines, then twelve, then no answer. -/
theorem report_grows_and_is_lost :
    (threat_intel_factor UnchangedEnrichment.ascii [reported_address (flagged_by 3)] { max := 25 }).points ≤
      (threat_intel_factor UnchangedEnrichment.ascii [reported_address (flagged_by 12)] { max := 25 }).points ∧
    (threat_intel_factor UnchangedEnrichment.ascii [reported_address timed_out] { max := 25 }).points ≤
      (threat_intel_factor UnchangedEnrichment.ascii [reported_address (flagged_by 12)] { max := 25 }).points := by
  constructor
  · refine (threat_intel_monotone UnchangedEnrichment.ascii { max := 25 } _ _).1 (Relation.ReflTransGen.single ?_)
    exact @Raised.evidence [] [] _ _ "virustotal" (flagged_by 3) (flagged_by 12) (reported_address_differs _ _) rfl rfl rfl
      ⟨by decide, by decide, by decide, by decide, by decide⟩
  · refine (threat_intel_monotone UnchangedEnrichment.ascii { max := 25 } _ _).2 (Relation.ReflTransGen.single ?_)
    refine @Withdrawn.payload [] [] _ _ "virustotal" (reported_address_differs _ _) (fun payload given => ?_)
    obtain rfl : timed_out = payload := Option.some.inj given
    exact .inl ⟨"timeout", by decide, rfl⟩

end SocTriage.Scoring
