import Mathlib.Data.List.Sort
import SocTriage.Canonical

/-!
Enrichment: the sanitized record of one threat-intelligence lookup, the provider that
looks indicators up, the chain that merges what its providers answer, and the fingerprint
that tells two enrichments apart. Merging is by provider name: whatever record a provider
answers for an indicator takes the place of the one it had.
-/
namespace SocTriage.Enrichment

/-! ### Lookups -/

inductive LookupStatus where
  | FOUND | NOT_FOUND | ERROR | RATE_LIMITED | TIMEOUT
deriving DecidableEq, Repr

def LookupStatus.value : LookupStatus → String
  | .FOUND => "found"
  | .NOT_FOUND => "not_found"
  | .ERROR => "error"
  | .RATE_LIMITED => "rate_limited"
  | .TIMEOUT => "timeout"

def SUCCESSFUL_LOOKUPS : List LookupStatus := [.FOUND, .NOT_FOUND]

structure LookupRecord where
  provider : String
  indicator_type : String
  lookup_status : LookupStatus
  timestamp : String
  result : JsonObject := []
deriving DecidableEq

def LookupRecord.model_dump (record : LookupRecord) : JsonObject :=
  [("provider", .str record.provider), ("indicator_type", .str record.indicator_type),
    ("lookup_status", .str record.lookup_status.value), ("timestamp", .str record.timestamp),
    ("result", .obj record.result)]

/-- What the lookup of an indicator meets: an exhausted rate limit, an `httpx` exception after the retries, or the final
    response with its JSON body, if it is one. -/
inductive Upstream where
  | exhausted
  | timeout
  | http_error
  | response (status_code : Nat) (body : Option Json)

/-- `_sanitize` on a body: a definitive answer without or with metadata, or an exception. -/
inductive Sanitized where
  | no_record
  | metadata (result : JsonObject)
  | malformed

/-- An HTTP provider during one enrichment. -/
structure HTTPProvider where
  name : String
  enabled : Bool := true
  handled_types : List IOCType
  sanitize : IOC → Json → Sanitized
  cached : IOC → Option LookupRecord := fun _ => none
  upstream : IOC → Upstream
  now : IOC → String

def lookup_status (self : HTTPProvider) (ioc : IOC) : LookupStatus × JsonObject :=
  match self.upstream ioc with
  | .exhausted => (.RATE_LIMITED, [])
  | .timeout => (.TIMEOUT, [])
  | .http_error => (.ERROR, [])
  | .response status_code body =>
    if status_code = 429 then (.RATE_LIMITED, [])
    else if status_code = 404 then (.NOT_FOUND, [])
    else if status_code ≥ 400 then (.ERROR, [])
    else
      match body with
      | none => (.ERROR, [])
      | some body =>
        match self.sanitize ioc body with
        | .malformed => (.ERROR, [])
        | .no_record => (.NOT_FOUND, [])
        | .metadata result => (.FOUND, result)

def lookup_one (self : HTTPProvider) (ioc : IOC) : LookupRecord where
  provider := self.name
  indicator_type := ioc.type.value
  timestamp := self.now ioc
  lookup_status := (lookup_status self ioc).1
  result := (lookup_status self ioc).2

/-! ### Providers -/

inductive EnrichmentStatus where
  | SKIPPED | COMPLETE | PARTIAL | FAILED
deriving DecidableEq, Repr

def EnrichmentStatus.value : EnrichmentStatus → String
  | .SKIPPED => "skipped"
  | .COMPLETE => "complete"
  | .PARTIAL => "partial"
  | .FAILED => "failed"

/-- Indicator key to provider payload. -/
abbrev Results := Table (Prod.fst : String × JsonObject → String)

structure ProviderEnrichment where
  provider : String
  status : EnrichmentStatus
  results : Results := Table.empty
  notes : List String := []
deriving DecidableEq

/-- A provider during one enrichment: its answer, or the type of the exception it raises. -/
structure Provider where
  name : String
  enabled : Bool := true
  enrich : List IOC → Except String ProviderEnrichment

/-- The status of a provider by those of its lookups. -/
def aggregate_status (records : List LookupRecord) : EnrichmentStatus :=
  if records.isEmpty then .SKIPPED
  else if records.all (fun record => SUCCESSFUL_LOOKUPS.contains record.lookup_status) then .COMPLETE
  else if records.all (fun record => !(SUCCESSFUL_LOOKUPS.contains record.lookup_status)) then .FAILED
  else .PARTIAL

def build_notes (provider : String) (records : List LookupRecord) : List String :=
  let counted (status : LookupStatus) (text : String) : List String :=
    match records.countP (fun record => record.lookup_status = status) with
    | 0 => []
    | count => [provider ++ ": " ++ toString count ++ " " ++ text]
  (provider ++ ": looked up " ++ toString records.length ++ " indicator(s)") ::
    (counted .RATE_LIMITED "rate-limited" ++ counted .TIMEOUT "timed out" ++ counted .ERROR "failed" ++
      counted .NOT_FOUND "not found")

/-- The records of one enrichment by indicator: the lookups of what is not cached, then the cache hits. -/
def records (self : HTTPProvider) (handled : List IOC) : Table (Prod.fst : String × LookupRecord → String) :=
  ((handled.filter (fun ioc => (self.cached ioc).isNone)).map (fun ioc => (ioc_key ioc, lookup_one self ioc)) ++
    handled.filterMap (fun ioc => (self.cached ioc).map (fun record => (ioc_key ioc, record)))).foldl Table.put Table.empty

private theorem dumped_key (entry : String × LookupRecord) (dumped : String × JsonObject)
    (same : some (entry.1, entry.2.model_dump) = some dumped) : dumped.1 = entry.1 := by
  cases same; rfl

def HTTPProvider.enrich (self : HTTPProvider) (iocs : List IOC) : ProviderEnrichment :=
  let handled := iocs.filter (fun ioc => self.handled_types.contains ioc.type)
  let hits := (handled.filter (fun ioc => (self.cached ioc).isSome)).length
  if !self.enabled then
    { provider := self.name, status := .SKIPPED, notes := [self.name ++ ": provider disabled"] }
  else if handled.isEmpty then
    { provider := self.name, status := .SKIPPED, notes := [self.name ++ ": no indicators of a handled type"] }
  else
    let record_list := (records self handled).rows.map Prod.snd
    { provider := self.name
      status := aggregate_status record_list
      results := (records self handled).filterMap (fun entry => some (entry.1, entry.2.model_dump)) dumped_key
      notes := (if hits = 0 then [] else [self.name ++ ": " ++ toString hits ++ " served from cache"]) ++
        build_notes self.name record_list }

/-- An HTTP provider none of whose lookups raises. -/
def HTTPProvider.provider (self : HTTPProvider) : Provider where
  name := self.name
  enabled := self.enabled
  enrich iocs := .ok (self.enrich iocs)

/-! ### The chain -/

structure ProviderOutcome where
  provider : String
  status : EnrichmentStatus
  enriched : Nat := 0
  error_type : Option String := none
  notes : List String := []
deriving DecidableEq

structure EnrichmentOutcome where
  status : EnrichmentStatus
  iocs : List IOC := []
  providers : List ProviderOutcome := []
deriving DecidableEq

/-- The status of an alert by those of its providers. -/
def aggregate (statuses : List EnrichmentStatus) : EnrichmentStatus :=
  let meaningful := statuses.filter (· ≠ .SKIPPED)
  if meaningful.isEmpty then .SKIPPED
  else if meaningful.all (· = .COMPLETE) then .COMPLETE
  else if meaningful.all (· = .FAILED) then .FAILED
  else .PARTIAL

/-- `ioc_sort_key`: the type, then the value. -/
def by_key (a b : IOC) : Prop :=
  a.type.value < b.type.value ∨ (a.type.value = b.type.value ∧ a.value ≤ b.value)

instance : DecidableRel by_key := fun _ _ => inferInstanceAs (Decidable (_ ∨ _))

/-- The indicators of an alert by their keys. -/
abbrev Indicators := Table ioc_key

/-- An indicator with the payload of one more provider. -/
def attached (provider : String) (payload : JsonObject) (ioc : IOC) : IOC :=
  { ioc with enrichment := ioc.enrichment.put (provider, payload) }

/-- One payload merged; an unknown key is passed over. -/
def apply_result (provider : String) (merged : Indicators × Nat) (result : String × JsonObject) : Indicators × Nat :=
  let (enriched, applied) := merged
  if enriched.has result.1 then (enriched.modify result.1 (attached provider result.2), applied + 1)
  else (enriched, applied)

/-- What the chain has gathered so far. -/
structure Gathered where
  enriched : Indicators
  outcomes : List ProviderOutcome := []
  statuses : List EnrichmentStatus := []

/-- One provider of the chain. -/
def run_provider (ordered : List IOC) (gathered : Gathered) (provider : Provider) : Gathered :=
  if !provider.enabled then
    { gathered with outcomes := gathered.outcomes ++
        [{ provider := provider.name, status := .SKIPPED, notes := ["provider disabled"] }] }
  else
    match provider.enrich ordered with
    | .error error_type =>
      { gathered with
        outcomes := gathered.outcomes ++ [{ provider := provider.name, status := .FAILED, error_type := some error_type
                                            notes := ["provider raised " ++ error_type] }]
        statuses := gathered.statuses ++ [.FAILED] }
    | .ok result =>
      let (enriched, applied) := result.results.rows.foldl (apply_result provider.name) (gathered.enriched, 0)
      { enriched
        outcomes := gathered.outcomes ++ [{ provider := provider.name, status := result.status, enriched := applied
                                            notes := result.notes }]
        statuses := gathered.statuses ++ [result.status] }

/-- `EnrichmentChain.enrich`. -/
def enrich (providers : List Provider) (iocs : List IOC) : EnrichmentOutcome :=
  let ordered := iocs.insertionSort by_key
  if ordered.isEmpty then
    { status := .SKIPPED
      providers := providers.map (fun provider =>
        { provider := provider.name, status := .SKIPPED, notes := ["no indicators to enrich"] }) }
  else
    let gathered := providers.foldl (run_provider ordered) { enriched := ordered.foldl Table.put Table.empty }
    { status := aggregate gathered.statuses
      iocs := gathered.enriched.rows.insertionSort by_key
      providers := gathered.outcomes }

/-! ### The fingerprint -/

/-- A record without the time of its lookup, as the canonical text spells it. -/
def timeless (payload : JsonObject) : Json := Json.canonical (.obj (Json.pop "timestamp" payload))

def by_name (a b : String × JsonObject) : Prop := a.1 ≤ b.1

instance : DecidableRel by_name := fun _ _ => inferInstanceAs (Decidable (_ ≤ _))

/-- The entries of the fingerprint about one indicator. -/
def ioc_fingerprint (ioc : IOC) : List (String × String × Json) :=
  (ioc.enrichment.rows.insertionSort by_name).map (fun entry => (ioc_key ioc, entry.1, timeless entry.2))

def enrichment_fingerprint (iocs : List IOC) : List (String × String × Json) :=
  (iocs.insertionSort by_key).flatMap ioc_fingerprint

/-! ### What an enrichment merges -/

/-- The indicators of an alert have pairwise different keys. -/
def Distinct (iocs : List IOC) : Prop := (iocs.map ioc_key).Nodup

instance (iocs : List IOC) : Decidable (Distinct iocs) := inferInstanceAs (Decidable (List.Nodup _))

/-- The payloads one provider answers with: its name, the key of an indicator, the payload. -/
def answers_of (ordered : List IOC) (provider : Provider) : List (String × String × JsonObject) :=
  if !provider.enabled then []
  else
    match provider.enrich ordered with
    | .error _ => []
    | .ok result => result.results.rows.map (fun entry => (provider.name, entry))

/-- The payloads of all providers, in the order they are merged in. -/
def answers (providers : List Provider) (ordered : List IOC) : List (String × String × JsonObject) :=
  providers.flatMap (answers_of ordered)

/-- An indicator with the payloads that are for it. -/
def merged (payloads : List (String × String × JsonObject)) (ioc : IOC) : IOC :=
  { ioc with enrichment := ((payloads.filter (fun answer => answer.2.1 = ioc_key ioc)).map
      (fun answer => (answer.1, answer.2.2))).foldl Table.put ioc.enrichment }

theorem ioc_key_merged (payloads : List (String × String × JsonObject)) (ioc : IOC) :
    ioc_key (merged payloads ioc) = ioc_key ioc := rfl

private theorem merged_nil (ioc : IOC) : merged [] ioc = ioc := rfl

/-- One more payload is attached to the indicator it is for, and to no other. -/
private theorem merged_append (payloads : List (String × String × JsonObject)) (provider key : String)
    (payload : JsonObject) (ioc : IOC) :
    merged (payloads ++ [(provider, key, payload)]) ioc =
      if ioc_key ioc = key then attached provider payload (merged payloads ioc) else merged payloads ioc := by
  by_cases mine : ioc_key ioc = key
  · rw [if_pos mine, merged, List.filter_append, List.map_append, List.foldl_append]
    simp [mine, attached, merged]
  · rw [if_neg mine, merged, List.filter_append, List.map_append, List.foldl_append]
    simp [Ne.symm mine, merged]

private theorem apply_result_rows {ordered : List IOC} {payloads : List (String × String × JsonObject)} {provider : String}
    {state : Indicators × Nat} (rows : state.1.rows = ordered.map (merged payloads)) (result : String × JsonObject) :
    (apply_result provider state result).1.rows = ordered.map (merged (payloads ++ [(provider, result)])) := by
  obtain ⟨key, payload⟩ := result
  have keys : ∀ ioc, ioc_key (merged payloads ioc) = ioc_key ioc := ioc_key_merged payloads
  rw [apply_result]
  dsimp only
  split
  · have attach : (state.1.modify key (attached provider payload)).rows =
        state.1.rows.map (fun ioc => if ioc_key ioc = key then attached provider payload ioc else ioc) := rfl
    rw [attach, rows, List.map_map]
    apply List.map_congr_left
    intro ioc _
    rw [Function.comp_apply, merged_append, keys]
  · rename_i unknown
    rw [rows]
    apply List.map_congr_left
    intro ioc inside
    have other : ioc_key ioc ≠ key := by
      rintro rfl
      refine unknown (Table.has_iff.mpr ⟨merged payloads ioc, ?_, keys ioc⟩)
      rw [rows]
      exact List.mem_map_of_mem inside
    rw [merged_append, if_neg other]

private theorem apply_results_rows {ordered : List IOC} {payloads : List (String × String × JsonObject)} {provider : String}
    (results : List (String × JsonObject)) {state : Indicators × Nat} (rows : state.1.rows = ordered.map (merged payloads)) :
    (results.foldl (apply_result provider) state).1.rows =
      ordered.map (merged (payloads ++ results.map (fun entry => (provider, entry)))) := by
  induction results generalizing payloads state with
  | nil => rw [List.map_nil, List.append_nil]; exact rows
  | cons result rest ih =>
    rw [List.foldl_cons, ih (apply_result_rows rows result), List.map_cons, List.append_assoc, List.singleton_append]

private theorem run_provider_rows {ordered : List IOC} {payloads : List (String × String × JsonObject)} {gathered : Gathered}
    (rows : gathered.enriched.rows = ordered.map (merged payloads)) (provider : Provider) :
    (run_provider ordered gathered provider).enriched.rows =
      ordered.map (merged (payloads ++ answers_of ordered provider)) := by
  rw [run_provider, answers_of]
  cases enabled : provider.enabled with
  | false => simpa using rows
  | true =>
    simp only [Bool.not_true, Bool.false_eq_true, ↓reduceIte]
    cases answered : provider.enrich ordered with
    | error error_type => simpa using rows
    | ok result => exact @apply_results_rows ordered payloads provider.name result.results.rows (gathered.enriched, 0) rows

private theorem run_providers_rows {ordered : List IOC} {payloads : List (String × String × JsonObject)} {gathered : Gathered}
    (providers : List Provider) (rows : gathered.enriched.rows = ordered.map (merged payloads)) :
    (providers.foldl (run_provider ordered) gathered).enriched.rows =
      ordered.map (merged (payloads ++ answers providers ordered)) := by
  induction providers generalizing payloads gathered with
  | nil => simpa [answers] using rows
  | cons provider rest ih =>
    rw [List.foldl_cons, ih (run_provider_rows rows provider), List.append_assoc]
    rfl

instance : Std.Total by_key where
  total a b := by
    rcases lt_trichotomy a.type.value b.type.value with before | same | after
    · exact .inl (.inl before)
    · rcases le_total a.value b.value with first | second
      · exact .inl (.inr ⟨same, first⟩)
      · exact .inr (.inr ⟨same.symm, second⟩)
    · exact .inr (.inl after)

instance : IsTrans IOC by_key where
  trans a b c := by
    rintro (first | ⟨same, first⟩) (second | ⟨same', second⟩)
    · exact .inl (first.trans second)
    · exact .inl (same' ▸ first)
    · exact .inl (same ▸ second)
    · exact .inr ⟨same.trans same', first.trans second⟩

/-- Sorted indicators stay sorted while payloads are merged into them. -/
private theorem sorted_merged (payloads : List (String × String × JsonObject)) (iocs : List IOC) :
    ((iocs.insertionSort by_key).map (merged payloads)).Pairwise by_key :=
  List.pairwise_map.mpr (List.pairwise_insertionSort by_key iocs)

theorem distinct_sorted {iocs : List IOC} : Distinct (iocs.insertionSort by_key) ↔ Distinct iocs :=
  ((List.perm_insertionSort by_key iocs).map ioc_key).nodup_iff

/-- An enrichment answers with the indicators in order, each with the payloads that are for it. -/
theorem enrich_iocs (providers : List Provider) {iocs : List IOC} (distinct : Distinct iocs) :
    (enrich providers iocs).iocs =
      (iocs.insertionSort by_key).map (merged (answers providers (iocs.insertionSort by_key))) := by
  rw [enrich]
  dsimp only
  split
  · rename_i none
    rw [List.isEmpty_iff] at none
    rw [none]
    rfl
  · have ordered : ((iocs.insertionSort by_key).foldl Table.put (Table.empty : Indicators)).rows =
        (iocs.insertionSort by_key).map (merged []) := by
      rw [show merged [] = id from funext merged_nil, List.map_id]
      exact Table.rows_foldl_put (iocs.insertionSort by_key) Table.empty (distinct_sorted.mpr distinct)
    have rows := @run_providers_rows (iocs.insertionSort by_key) []
      { enriched := (iocs.insertionSort by_key).foldl Table.put Table.empty } providers ordered
    rw [List.nil_append] at rows
    rw [rows]
    exact (sorted_merged _ iocs).insertionSort_eq

/-- The indicators an enrichment answers with are distinct. -/
theorem enrich_distinct (providers : List Provider) (iocs : List IOC) : Distinct (enrich providers iocs).iocs := by
  rw [enrich]
  dsimp only
  split
  · exact List.nodup_nil
  · exact distinct_sorted.mpr (Table.unique _)

/-! ### Lookups that change nothing -/

/-- Every payload the chain merges, with its provider and the indicator it is for. -/
def lookups (providers : List Provider) (iocs : List IOC) : List (String × IOC × JsonObject) :=
  (answers providers (iocs.insertionSort by_key)).flatMap (fun answer =>
    (iocs.filter (fun ioc => ioc_key ioc = answer.2.1)).map (fun ioc => (answer.1, ioc, answer.2.2)))

/-- The status a payload states, when it is a lookup record. -/
def stated (payload : JsonObject) : Option Json := Json.lookup "lookup_status" payload

/-- A lookup that ended in an error, a timeout or a rate limit. -/
def failed (payload : JsonObject) : Bool :=
  [LookupStatus.ERROR, .TIMEOUT, .RATE_LIMITED].any (fun status => stated payload = some (.str status.value))

/-- A lookup that was answered. -/
def definitive (payload : JsonObject) : Bool :=
  SUCCESSFUL_LOOKUPS.any (fun status => stated payload = some (.str status.value))

/-- A payload that states what the provider's record of the indicator already states, but for its time. -/
def repeats (lookup : String × IOC × JsonObject) : Bool :=
  (lookup.2.1.enrichment.get lookup.1).any (fun entry => timeless entry.2 = timeless lookup.2.2)

/-- What the fingerprint sees of the records of an indicator. -/
private def seen (enrichment : Enrichment) : List (String × Json) :=
  enrichment.rows.map (fun entry => (entry.1, timeless entry.2))

private theorem ioc_fingerprint_seen (ioc : IOC) :
    ioc_fingerprint ioc =
      ((seen ioc.enrichment).insertionSort (fun a b => a.1 ≤ b.1)).map (fun entry => (ioc_key ioc, entry.1, entry.2)) := by
  rw [ioc_fingerprint, seen, ← List.map_insertionSort by_name _
    (fun entry : String × JsonObject => (entry.1, timeless entry.2))
    _ (fun _ _ _ _ => Iff.rfl), List.map_map]
  rfl

/-- Payloads that repeat what the table has leave it as the fingerprint sees it. -/
private theorem seen_repeated {payloads : List (String × JsonObject)} (enrichment : Enrichment)
    (repeated : ∀ payload ∈ payloads, (payload.1, timeless payload.2) ∈ seen enrichment) :
    seen (payloads.foldl Table.put enrichment) = seen enrichment := by
  induction payloads generalizing enrichment with
  | nil => rfl
  | cons payload rest ih =>
    obtain ⟨old, taken, same⟩ := List.mem_map.mp (repeated payload (List.mem_cons_self ..))
    have place : old.1 = payload.1 := (Prod.mk.inj same).1
    have still : seen (enrichment.put payload) = seen enrichment := Table.map_put enrichment payload taken place same
    rw [List.foldl_cons, ih (enrichment.put payload), still]
    intro later inside
    rw [still]
    exact repeated later (List.mem_cons_of_mem _ inside)

private theorem merged_repeats {providers : List Provider} {iocs : List IOC}
    (repeated : ∀ lookup ∈ lookups providers iocs, repeats lookup = true) {ioc : IOC} (inside : ioc ∈ iocs) :
    ioc_fingerprint (merged (answers providers (iocs.insertionSort by_key)) ioc) = ioc_fingerprint ioc := by
  have still : seen (merged (answers providers (iocs.insertionSort by_key)) ioc).enrichment = seen ioc.enrichment := by
    refine seen_repeated ioc.enrichment ?_
    intro payload member
    obtain ⟨answer, chosen, rfl⟩ := List.mem_map.mp member
    obtain ⟨among, key⟩ := List.mem_filter.mp chosen
    have lookup : (answer.1, ioc, answer.2.2) ∈ lookups providers iocs := by
      refine List.mem_flatMap.mpr ⟨answer, among, List.mem_map.mpr ⟨ioc, List.mem_filter.mpr ⟨inside, ?_⟩, rfl⟩⟩
      exact decide_eq_true (of_decide_eq_true key).symm
    have stored := repeated _ lookup
    rw [repeats, Option.any_eq_true] at stored
    obtain ⟨old, found, same⟩ := stored
    have place : old.1 = answer.1 := Table.get_key found
    exact List.mem_map.mpr ⟨old, Table.get_mem found, Prod.ext place (of_decide_eq_true same)⟩
  rw [ioc_fingerprint_seen, still, ioc_fingerprint_seen, ioc_key_merged]

/-- The fingerprint of what an enrichment answers with, indicator by indicator. -/
theorem fingerprint_enrich (providers : List Provider) {iocs : List IOC} (distinct : Distinct iocs) :
    enrichment_fingerprint (enrich providers iocs).iocs =
      (iocs.insertionSort by_key).flatMap (fun ioc =>
        ioc_fingerprint (merged (answers providers (iocs.insertionSort by_key)) ioc)) := by
  rw [enrich_iocs providers distinct, enrichment_fingerprint, (sorted_merged _ iocs).insertionSort_eq, List.flatMap_map]

/-- An enrichment whose every lookup repeats what is stored has the same fingerprint. -/
theorem enrich_repeats {providers : List Provider} {iocs : List IOC} (distinct : Distinct iocs)
    (repeated : ∀ lookup ∈ lookups providers iocs, repeats lookup = true) :
    enrichment_fingerprint (enrich providers iocs).iocs = enrichment_fingerprint iocs := by
  rw [fingerprint_enrich providers distinct, enrichment_fingerprint]
  apply List.flatMap_congr
  intro ioc inside
  exact merged_repeats repeated ((List.mem_insertionSort by_key).mp inside)

/-! ### Answers that are given again -/

/-- The answers but for the times of their lookups. -/
def content (payloads : List (String × String × JsonObject)) : List (String × String × Json) :=
  payloads.map (fun answer => (answer.1, answer.2.1, timeless answer.2.2))

private theorem seen_ext {first second : Enrichment} (keys : first.rows.map Prod.fst = second.rows.map Prod.fst)
    (records : ∀ k, (first.get k).map (fun entry => timeless entry.2) = (second.get k).map (fun entry => timeless entry.2)) :
    seen first = seen second := by
  have by_keys : ∀ table : Enrichment, seen table = (table.rows.map Prod.fst).map (fun k =>
      (k, ((table.get k).map (fun entry => timeless entry.2)).getD .null)) := by
    intro table
    rw [seen, List.map_map]
    apply List.map_congr_left
    intro entry inside
    have found : table.get entry.1 = some entry := Table.get_of_mem inside
    simp only [Function.comp_apply, found, Option.map_some, Option.getD_some]
  rw [by_keys, by_keys, keys]
  simp only [records]

/-- Payloads of one content assigned once more leave the table as the fingerprint sees it. -/
private theorem seen_again {payloads payloads' : List (String × JsonObject)} (enrichment : Enrichment)
    (same : payloads'.map (fun entry => (entry.1, timeless entry.2)) =
      payloads.map (fun entry => (entry.1, timeless entry.2))) :
    seen (payloads'.foldl Table.put (payloads.foldl Table.put enrichment)) = seen (payloads.foldl Table.put enrichment) := by
  -- the last payload of a provider, as the fingerprint sees it
  have last : ∀ (entries : List (String × JsonObject)) (k : String),
      (entries.reverse.find? (fun entry => entry.1 = k)).map (fun entry => (entry.1, timeless entry.2)) =
        ((entries.map (fun entry => (entry.1, timeless entry.2))).reverse).find? (fun entry => entry.1 = k) := by
    intro entries k
    rw [← List.map_reverse, List.find?_map]
    rfl
  have again : ∀ k, (payloads'.reverse.find? (fun entry => entry.1 = k)).map (fun entry => (entry.1, timeless entry.2)) =
      (payloads.reverse.find? (fun entry => entry.1 = k)).map (fun entry => (entry.1, timeless entry.2)) := by
    intro k
    rw [last, last, same]
  apply seen_ext
  · refine Table.keys_foldl_put (fun payload inside => ?_)
    have listed : (payload.1, timeless payload.2) ∈ payloads.map (fun entry => (entry.1, timeless entry.2)) :=
      same ▸ List.mem_map_of_mem inside
    obtain ⟨twin, member, equal⟩ := List.mem_map.mp listed
    have place : twin.1 = payload.1 := (Prod.mk.inj equal).1
    cases found : payloads.reverse.find? (fun entry => entry.1 = payload.1) with
    | none =>
      have other := List.find?_eq_none.mp found twin (List.mem_reverse.mpr member)
      exact absurd (decide_eq_true place) other
    | some entry =>
      have stored : (payloads.foldl Table.put enrichment).get payload.1 = some entry := by
        rw [Table.get_foldl_put, found]
        rfl
      exact List.mem_map.mpr ⟨entry, Table.get_mem stored, Table.get_key stored⟩
  · intro k
    have mine := again k
    rw [Table.get_foldl_put, Table.get_foldl_put]
    cases found' : payloads'.reverse.find? (fun entry => entry.1 = k) with
    | none => rw [Option.none_or]
    | some entry' =>
      rw [found'] at mine
      obtain ⟨entry, found, equal⟩ := Option.map_eq_some_iff.mp mine.symm
      have equal : timeless entry.2 = timeless entry'.2 := (Prod.mk.inj equal).2
      rw [found, Option.some_or, Option.some_or, Option.map_some, Option.map_some, equal]

private theorem merged_again {payloads payloads' : List (String × String × JsonObject)}
    (same : content payloads' = content payloads)
    (ioc : IOC) : ioc_fingerprint (merged payloads' (merged payloads ioc)) = ioc_fingerprint (merged payloads ioc) := by
  have mine : ∀ answers : List (String × String × JsonObject),
      ((answers.filter (fun answer => answer.2.1 = ioc_key ioc)).map (fun answer => (answer.1, answer.2.2))).map
          (fun entry => (entry.1, timeless entry.2)) =
        ((content answers).filter (fun answer => answer.2.1 = ioc_key ioc)).map (fun answer => (answer.1, answer.2.2)) := by
    intro answers
    rw [content, List.filter_map, List.map_map, List.map_map]
    rfl
  have still : seen (merged payloads' (merged payloads ioc)).enrichment = seen (merged payloads ioc).enrichment :=
    seen_again ioc.enrichment (by rw [ioc_key_merged, mine, mine, same])
  rw [ioc_fingerprint_seen, still, ioc_fingerprint_seen, ioc_key_merged]

private theorem sorted_enrich (providers : List Provider) {iocs : List IOC} (distinct : Distinct iocs) :
    (enrich providers iocs).iocs.insertionSort by_key =
      (iocs.insertionSort by_key).map (merged (answers providers (iocs.insertionSort by_key))) := by
  rw [enrich_iocs providers distinct, (sorted_merged _ iocs).insertionSort_eq]

/-- What a lookup is about. -/
def indicator (ioc : IOC) : IOCType × String := (ioc.type, ioc.value)

/-- An enrichment is about the indicators it was given. -/
theorem enrich_indicators (providers : List Provider) {iocs : List IOC} (distinct : Distinct iocs) :
    ((enrich providers iocs).iocs.insertionSort by_key).map indicator = (iocs.insertionSort by_key).map indicator := by
  rw [sorted_enrich providers distinct, List.map_map]
  rfl

/-- An enrichment of what an enrichment answered with, by answers of the same content, has the same fingerprint. -/
theorem enrich_again {providers providers' : List Provider} {iocs : List IOC} (distinct : Distinct iocs)
    (same : content (answers providers' ((enrich providers iocs).iocs.insertionSort by_key)) =
      content (answers providers (iocs.insertionSort by_key))) :
    enrichment_fingerprint (enrich providers' (enrich providers iocs).iocs).iocs =
      enrichment_fingerprint (enrich providers iocs).iocs := by
  rw [fingerprint_enrich providers' (enrich_distinct providers iocs), fingerprint_enrich providers distinct]
  rw [sorted_enrich providers distinct] at same ⊢
  rw [List.flatMap_map]
  apply List.flatMap_congr
  intro ioc _
  exact merged_again same ioc

/-! ### What a fingerprint tells -/

/-- The entry of a provider is its record without the time. -/
private theorem mem_ioc_fingerprint {ioc : IOC} {provider : String} {record : Json} :
    (ioc_key ioc, provider, record) ∈ ioc_fingerprint ioc ↔
      (ioc.enrichment.get provider).map (fun entry => timeless entry.2) = some record := by
  rw [ioc_fingerprint, List.mem_map, Option.map_eq_some_iff]
  constructor
  · rintro ⟨entry, inside, same⟩
    obtain ⟨rfl, rfl⟩ := Prod.mk.inj (Prod.mk.inj same).2
    exact ⟨entry, Table.get_of_mem ((List.mem_insertionSort by_name).mp inside), rfl⟩
  · rintro ⟨entry, found, rfl⟩
    have place : entry.1 = provider := Table.get_key found
    exact ⟨entry, (List.mem_insertionSort by_name).mpr (Table.get_mem found), by rw [place]⟩

/-- One fingerprint tells of one record of each provider, but for its time. -/
theorem records_of_fingerprint {first second : IOC} (key : ioc_key first = ioc_key second)
    (same : ioc_fingerprint first = ioc_fingerprint second) (provider : String) :
    (first.enrichment.get provider).map (fun entry => timeless entry.2) =
      (second.enrichment.get provider).map (fun entry => timeless entry.2) := by
  apply Option.ext
  intro record
  rw [← mem_ioc_fingerprint, ← mem_ioc_fingerprint, key, same]

/-- Of the entries about different indicators, those about one are found by its key. -/
private theorem own_entries {entries : IOC → List (String × String × Json)}
    (tagged : ∀ ioc, ∀ entry ∈ entries ioc, entry.1 = ioc_key ioc) {iocs : List IOC} (distinct : Distinct iocs)
    {ioc : IOC} (inside : ioc ∈ iocs) :
    (iocs.flatMap entries).filter (fun entry => entry.1 = ioc_key ioc) = entries ioc := by
  have mine : ∀ other, ioc_key other = ioc_key ioc →
      (entries other).filter (fun entry => entry.1 = ioc_key ioc) = entries other := by
    intro other key
    exact List.filter_eq_self.mpr (fun entry listed => decide_eq_true ((tagged other entry listed).trans key))
  have others : ∀ other, ioc_key other ≠ ioc_key ioc →
      (entries other).filter (fun entry => entry.1 = ioc_key ioc) = [] := by
    intro other key
    exact List.filter_eq_nil_iff.mpr (fun entry listed same =>
      key ((tagged other entry listed).symm.trans (of_decide_eq_true same)))
  induction iocs with
  | nil => exact absurd inside List.not_mem_nil
  | cons first rest ih =>
    obtain ⟨fresh, distinct⟩ := List.nodup_cons.mp distinct
    rw [List.flatMap_cons, List.filter_append]
    rcases List.mem_cons.mp inside with rfl | later
    · have none_later : (rest.flatMap entries).filter (fun entry => entry.1 = ioc_key ioc) = [] := by
        rw [List.filter_flatMap, List.flatMap_eq_nil_iff]
        intro other member
        exact others other (fun key => fresh (key ▸ List.mem_map_of_mem member))
      rw [mine ioc rfl, none_later, List.append_nil]
    · rw [others first (fun key => fresh (key ▸ List.mem_map_of_mem later)), ih distinct later, List.nil_append]

private theorem ioc_fingerprint_tagged (ioc : IOC) : ∀ entry ∈ ioc_fingerprint ioc, entry.1 = ioc_key ioc := by
  intro entry inside
  obtain ⟨_, _, rfl⟩ := List.mem_map.mp inside
  rfl

/-- An enrichment with the fingerprint of what was stored has that of each of its indicators. -/
theorem fingerprint_unchanged {providers : List Provider} {iocs : List IOC} (distinct : Distinct iocs)
    (same : enrichment_fingerprint (enrich providers iocs).iocs = enrichment_fingerprint iocs) {ioc : IOC}
    (inside : ioc ∈ iocs) :
    ioc_fingerprint (merged (answers providers (iocs.insertionSort by_key)) ioc) = ioc_fingerprint ioc := by
  rw [fingerprint_enrich providers distinct, enrichment_fingerprint] at same
  have sorted : Distinct (iocs.insertionSort by_key) := distinct_sorted.mpr distinct
  have member : ioc ∈ iocs.insertionSort by_key := (List.mem_insertionSort by_key).mpr inside
  have fresh := own_entries (fun ioc => ioc_fingerprint_tagged (merged (answers providers (iocs.insertionSort by_key)) ioc))
    sorted member
  have stored := own_entries ioc_fingerprint_tagged sorted member
  rw [← fresh, ← stored, same]

end SocTriage.Enrichment
