import SocTriage.Scoring
import SocTriage.SanitizedIntel
import SocTriage.UnchangedEnrichment

/-!
What a MISP answer is worth once it is stored. The cap on event ids takes nothing from the
award; the cap on tags takes the bonus away when every threat-actor tag lies behind fifty
others in sorted order.
-/
namespace SocTriage.IntelCaps
open ThreatIntel Scoring Policies
open SanitizedIntel (IntelProvider Answered matched event_ids tags misp_sanitize_some lookup_one_accepted answering)
open Evidence (sorted_set)

/-! ### Awards of a body -/

section
variable (text : PyStr) (py : Conversions)

/-- What a body earns when some of its tags are looked at: the event points for a match, and the bonus for a
    threat actor among the tags. -/
def earned (cfg : ThreatIntelConfig) (body : Json) (tags : List String) : Nat :=
  if matched body = [] then 0
  else cfg.misp.event_match_points +
    (if tags.any (cfg.misp.is_threat_actor_tag text) then cfg.misp.threat_actor_bonus_points else 0)

/-- The tags that the cap lets through: the first fifty in sorted order. -/
def kept_tags (body : Json) : List String := (sorted_set (tags py body)).take MAX_TAGS

/-- The answer to a lookup, stored with an indicator of a type MISP handles. -/
structure Attached (retry : RetryConfig) (cfg : ThreatIntelConfig) (looked_up : IOC) (behaviour : Behaviour) (body : Json)
    (metadata : Option JsonObject) (ioc : IOC) : Prop where
  answered : Answered py (IntelProvider.misp.self py retry) looked_up behaviour body
  accepted : (IntelProvider.misp.self py retry).sanitize looked_up body = .ok metadata
  payload : ∀ record, lookup_one py (IntelProvider.misp.self py retry) looked_up behaviour = .ok record →
    provider_payload ioc cfg.misp.provider = some record.model_dump

/-- Each matching attribute is still there, with all its tags and maybe more. -/
def Grown (body body' : Json) : Prop :=
  ∀ fields ∈ matched body, ∃ fields' ∈ matched body', ∀ name ∈ SanitizedIntel.names fields,
    name ∈ SanitizedIntel.names fields'
end

section
variable {text : PyStr} {py : Conversions} {cfg : ThreatIntelConfig}

private theorem handled (type : IOCType) : MISP_HANDLED_TYPES.contains type = true := by
  cases type <;> rfl

private theorem kept_member {body : Json} {tag : String} (kept : tag ∈ kept_tags py body) : tag ∈ tags py body :=
  Evidence.mem_sorted_set.mp (List.mem_of_mem_take kept)

/-- Up to fifty different tags all pass the cap. -/
private theorem kept_all {body : Json} (few : (sorted_set (tags py body)).length ≤ MAX_TAGS) {tag : String} :
    tag ∈ kept_tags py body ↔ tag ∈ tags py body := by
  rw [kept_tags, List.take_of_length_le few, Evidence.mem_sorted_set]

private theorem string_list_strings {result : JsonObject} {key : String} {texts : List String}
    (listed : Json.lookup key result = some (.arr (texts.map Json.str))) : string_list result key = texts := by
  rw [string_list, listed]
  dsimp only
  rw [List.filterMap_map]
  exact List.filterMap_some

/-- The award of what is stored of a match. -/
private theorem award_stored (looked_up : IOC) {body : Json} {result : JsonObject}
    (accepted : misp_sanitize py looked_up body = .ok (some result)) :
    misp_award text cfg result = earned text cfg body (kept_tags py body) := by
  have stored := misp_sanitize_some looked_up accepted
  have count : evidence_count result "match_count" = (matched body).length := by rw [stored]; rfl
  have ids : string_list result "event_ids" = (sorted_set (event_ids py body)).take MAX_EVENT_IDS := by
    rw [stored]; exact string_list_strings rfl
  have listed : string_list result "tags" = kept_tags py body := by rw [stored]; exact string_list_strings rfl
  rw [misp_award, earned, listed, count, ids]
  by_cases none_matched : matched body = []
  · have no_ids : event_ids py body = [] := by rw [event_ids, none_matched]; rfl
    rw [if_pos none_matched, if_pos ⟨by rw [none_matched]; rfl, by rw [no_ids]; rfl⟩]
  · rw [if_neg none_matched, if_neg (fun blank => none_matched (List.length_eq_zero_iff.mp blank.1))]

/-- The award of an indicator is what the tags that pass the cap earn. -/
theorem misp_points_stored {retry : RetryConfig} {looked_up ioc : IOC} {behaviour : Behaviour} {body : Json}
    {metadata : Option JsonObject} (attached : Attached py retry cfg looked_up behaviour body metadata ioc) :
    misp_points text cfg ioc = earned text cfg body (kept_tags py body) := by
  obtain ⟨record, stored, result, status⟩ := lookup_one_accepted attached.answered attached.accepted
  have available : lookup_available record.model_dump = true := by
    have states : Json.lookup "lookup_status" record.model_dump = some (.str record.lookup_status.value) := rfl
    rw [lookup_available, states, status]
    cases metadata with
    | none => rfl
    | some _ => rfl
  have read : answered ioc cfg.misp.provider MISP_HANDLED_TYPES = some record.result := by
    rw [answered, attached.payload record stored]
    dsimp only
    rw [available, handled]
    rfl
  rw [misp_points, read, Option.map_some, Option.getD_some, result]
  cases metadata with
  | none =>
    have nothing : matched body = [] := SanitizedIntel.misp_sanitize_none looked_up attached.accepted
    rw [earned, if_pos nothing]
    rfl
  | some result => exact award_stored looked_up attached.accepted

/-! ### Every tag, and those that pass the cap -/

/-- The bonus is there to be had, and every threat actor among the tags lies behind the cap. -/
def Hidden (text : PyStr) (py : Conversions) (cfg : ThreatIntelConfig) (body : Json) : Prop :=
  0 < cfg.misp.threat_actor_bonus_points ∧ (∃ tag ∈ tags py body, cfg.misp.is_threat_actor_tag text tag = true) ∧
    ∀ tag ∈ kept_tags py body, cfg.misp.is_threat_actor_tag text tag = false

private theorem matched_of_tag {body : Json} {tag : String} (tagged : tag ∈ tags py body) : matched body ≠ [] := by
  obtain ⟨fields, inside, -⟩ := List.mem_flatMap.mp tagged
  exact List.ne_nil_of_mem inside

/-- More tags earn no less, given a match wherever there was one. -/
private theorem earned_mono {body body' : Json} {some_tags more_tags : List String}
    (still : matched body ≠ [] → matched body' ≠ []) (more : ∀ tag ∈ some_tags, tag ∈ more_tags) :
    earned text cfg body some_tags ≤ earned text cfg body' more_tags := by
  by_cases none_matched : matched body = []
  · rw [earned, if_pos none_matched]; exact Nat.zero_le _
  · rw [earned, earned, if_neg none_matched, if_neg (still none_matched)]
    by_cases actor : some_tags.any (cfg.misp.is_threat_actor_tag text) = true
    · obtain ⟨tag, inside, named⟩ := List.any_eq_true.mp actor
      rw [if_pos actor, if_pos (List.any_eq_true.mpr ⟨tag, more tag inside, named⟩)]
    · rw [if_neg actor]; omega

/-- The cap costs something exactly when it hides every threat actor. -/
private theorem earned_kept_iff {body : Json} :
    earned text cfg body (kept_tags py body) = earned text cfg body (tags py body) ↔ ¬ Hidden text py cfg body := by
  by_cases actor : ∃ tag ∈ tags py body, cfg.misp.is_threat_actor_tag text tag = true
  · obtain ⟨tag, inside, named⟩ := actor
    have matching := matched_of_tag inside
    have all : (tags py body).any (cfg.misp.is_threat_actor_tag text) = true := List.any_eq_true.mpr ⟨tag, inside, named⟩
    rw [earned, earned, if_neg matching, if_neg matching, if_pos all]
    by_cases kept : (kept_tags py body).any (cfg.misp.is_threat_actor_tag text) = true
    · obtain ⟨passed, passing, actor⟩ := List.any_eq_true.mp kept
      rw [if_pos kept]
      refine iff_of_true rfl (fun hidden => ?_)
      cases (hidden.2.2 passed passing).symm.trans actor
    · have hides : ∀ tag ∈ kept_tags py body, cfg.misp.is_threat_actor_tag text tag = false := by
        intro tag passing
        exact Bool.eq_false_iff.mpr (fun actor => kept (List.any_eq_true.mpr ⟨tag, passing, actor⟩))
      rw [if_neg kept]
      constructor
      · intro same hidden
        have worth := hidden.1
        omega
      · intro visible
        have worthless : ¬ 0 < cfg.misp.threat_actor_bonus_points := fun worth =>
          visible ⟨worth, ⟨tag, inside, named⟩, hides⟩
        omega
  · have no_actor : ∀ some_tags : List String, (∀ tag ∈ some_tags, tag ∈ tags py body) →
        some_tags.any (cfg.misp.is_threat_actor_tag text) = false := by
      intro some_tags within
      refine Bool.eq_false_iff.mpr (fun found => ?_)
      obtain ⟨tag, inside, named⟩ := List.any_eq_true.mp found
      exact actor ⟨tag, within tag inside, named⟩
    rw [earned, earned, no_actor _ (fun _ kept => kept_member kept), no_actor _ (fun _ inside => inside)]
    exact iff_of_true rfl (fun hidden => actor hidden.2.1)

private theorem grown_tags {body body' : Json} (grown : Grown body body') {tag : String} (inside : tag ∈ tags py body) :
    tag ∈ tags py body' := by
  obtain ⟨fields, listed, named⟩ := List.mem_flatMap.mp inside
  obtain ⟨fields', listed', more⟩ := grown fields listed
  obtain ⟨name, given, written⟩ := List.mem_filterMap.mp named
  exact List.mem_flatMap.mpr ⟨fields', listed', List.mem_filterMap.mpr ⟨name, more name given, written⟩⟩

/-- The award of a stored answer is what its first fifty tags earn: never more than all of them, less exactly when the
    cap hides every threat actor, and never lowered by attributes or tags that leave at most fifty different ones. -/
theorem award_of_kept_tags (text : PyStr) (py : Conversions) (retry : RetryConfig) (cfg : ThreatIntelConfig)
    (looked_up ioc : IOC) (behaviour : Behaviour) (body : Json) (metadata : Option JsonObject)
    (attached : Attached py retry cfg looked_up behaviour body metadata ioc) :
    misp_points text cfg ioc = earned text cfg body (kept_tags py body) ∧
      misp_points text cfg ioc ≤ earned text cfg body (tags py body) ∧
      (misp_points text cfg ioc = earned text cfg body (tags py body) ↔ ¬ Hidden text py cfg body) ∧
      ∀ looked_up' ioc' behaviour' body' metadata', Attached py retry cfg looked_up' behaviour' body' metadata' ioc' →
        Grown body body' → (sorted_set (tags py body')).length ≤ MAX_TAGS →
        misp_points text cfg ioc ≤ misp_points text cfg ioc' := by
  rw [misp_points_stored attached]
  refine ⟨rfl, earned_mono id (fun _ kept => kept_member kept), earned_kept_iff, ?_⟩
  intro looked_up' ioc' behaviour' body' metadata' attached' grown few
  rw [misp_points_stored attached']
  refine earned_mono (fun some_matched => ?_) (fun tag kept => (kept_all few).mpr (grown_tags grown (kept_member kept)))
  obtain ⟨fields, inside⟩ := List.exists_mem_of_ne_nil _ some_matched
  obtain ⟨fields', inside', -⟩ := grown fields inside
  exact List.ne_nil_of_mem inside'

end

/-! ### Two answers -/

/-- One attribute with an event id and tags. -/
def tagged (names : List String) : Json :=
  .obj [("response", .obj [("Attribute", .arr [.obj [("event_id", .str "41"),
    ("tags", .arr (names.map (fun name => .obj [("name", .str name)])))]])])]

/-- The known address with what was stored of a lookup. -/
def addressed (record : Enrichment.LookupRecord) : IOC :=
  { known_address with enrichment := Table.empty.put ("misp", record.model_dump) }

private theorem shipped_quoted : 1 ≤ 3 := by decide

private theorem shipped_types :
    ["domain", "ipv4", "md5", "sha1", "sha256", "url"] ≠ [] ∧
      ∀ name ∈ ["domain", "ipv4", "md5", "sha1", "sha256", "url"], name ∈ IOC_TYPE_NAMES := by decide

private theorem shipped_sorted : ["domain", "ipv4", "md5", "sha1", "sha256", "url"].Pairwise (· < ·) := by decide

private theorem shipped_positive : 1 ≤ 10 ∧ 1 ≤ 1 := by decide

private theorem shipped_bands : 8 ≤ 15 ∧ 4 ≤ 8 := by decide

private theorem shipped_tags : "" ∉ ["apt", "threat-actor", "intrusion-set"] ∧
    ["apt", "threat-actor", "intrusion-set"].Nodup := by decide

def shipped : ThreatIntelConfig where
  max := 25
  virustotal := { positive := shipped_positive, bands_ordered := shipped_bands }
  misp := { normalized_tags := shipped_tags }
  quoted := shipped_quoted
  known_types := shipped_types
  sorted_types := shipped_sorted

private theorem answered_with (body : Json) :
    Answered ascii_conversions (IntelProvider.misp.self ascii_conversions default_retry) known_address
      (answering body) body :=
  ⟨rfl, { status_code := 200, body := .ok body }, rfl, Nat.le_refl 200, show 200 < 300 by decide, rfl⟩

private theorem attached_to {body : Json} {metadata : Option JsonObject}
    (accepted : (IntelProvider.misp.self ascii_conversions default_retry).sanitize known_address body = .ok metadata) :
    ∃ ioc, Attached ascii_conversions default_retry shipped known_address (answering body) body metadata ioc := by
  obtain ⟨record, looked_up, -, -⟩ := lookup_one_accepted (answered_with body) accepted
  refine ⟨addressed record, answered_with body, accepted, fun record' looked_up' => ?_⟩
  cases looked_up.symm.trans looked_up'
  rfl

/-- A threat actor among two tags earns the bonus. -/
theorem named_actor_awarded : ∃ ioc, misp_points UnchangedEnrichment.ascii shipped ioc = 15 := by
  obtain ⟨ioc, attached⟩ := @attached_to (tagged ["tlp:amber", "APT:38"]) _ rfl
  have award := (award_of_kept_tags UnchangedEnrichment.ascii ascii_conversions default_retry shipped known_address ioc _ _ _
    attached).1
  exact ⟨ioc, award.trans (by decide +kernel)⟩

/-- Fifty tags, and a threat actor that comes after all of them in order. -/
def crowded : Json := tagged (((List.range 50).map (fun n => "a" ++ toString (n + 10))) ++ ["apt"])

/-- The actor behind fifty other tags goes without its bonus. -/
theorem crowded_actor_hidden :
    ¬ ∀ (text : PyStr) (py : Conversions) (retry : RetryConfig) (cfg : ThreatIntelConfig) (looked_up ioc : IOC)
      (behaviour : Behaviour) (body : Json) (metadata : Option JsonObject),
      Attached py retry cfg looked_up behaviour body metadata ioc →
      misp_points text cfg ioc = earned text cfg body (tags py body) := by
  intro always
  obtain ⟨ioc, attached⟩ := @attached_to crowded _ rfl
  have full := always UnchangedEnrichment.ascii _ _ _ _ _ _ _ _ attached
  rw [misp_points_stored attached] at full
  exact absurd full (by decide +kernel)

end SocTriage.IntelCaps
