import Mathlib.Data.List.Forall2
import SocTriage.Enrichment

/-!
The enrichment chain does not depend on the order of its providers or of the indicators, and
its providers do not see each other: what stands under the name of one is what that one
answered, whatever the others did.
-/
namespace SocTriage.Enrichment

/-- What an indicator holds under the name of a provider. -/
def payload (ioc : IOC) (name : String) : Option JsonObject := (ioc.enrichment.get name).map Prod.snd

/-- The same indicator, found in the same places, with the same payloads: the entries of a dictionary have no order. -/
structure Same (ioc ioc' : IOC) : Prop where
  type : ioc.type = ioc'.type
  value : ioc.value = ioc'.value
  provenance : ioc.provenance = ioc'.provenance
  payloads : ∀ name, payload ioc name = payload ioc' name

/-- What a provider answers for an indicator: nothing when it is disabled, raises or leaves the indicator out. -/
def own_answer (provider : Provider) (ordered : List IOC) (key : String) : Option JsonObject :=
  if !provider.enabled then none
  else
    match provider.enrich ordered with
    | .error _ => none
    | .ok result => (result.results.get key).map Prod.snd

/-- What a provider adds to the statuses of the run: nothing when it is disabled. -/
def own_status (ordered : List IOC) (provider : Provider) : Option EnrichmentStatus :=
  if !provider.enabled then none
  else
    match provider.enrich ordered with
    | .error _ => some .FAILED
    | .ok result => some result.status

/-! ### What one provider attaches -/

private theorem filter_key {ρ κ : Type} [DecidableEq κ] {key : ρ → κ} {rows : List ρ} (distinct : (rows.map key).Nodup)
    (k : κ) : rows.filter (fun r => key r = k) = (rows.find? (fun r => key r = k)).toList := by
  induction rows with
  | nil => rfl
  | cons r rest ih =>
    rw [List.map_cons, List.nodup_cons] at distinct
    by_cases same : key r = k
    · rw [List.filter_cons_of_pos (by simpa using same), List.find?_cons_of_pos (by simpa using same), Option.toList_some,
        List.filter_eq_nil_iff.mpr]
      intro other inside also
      rw [decide_eq_true_iff] at also
      exact distinct.1 (List.mem_map.mpr ⟨other, inside, also.trans same.symm⟩)
    · rw [List.filter_cons_of_neg (by simpa using same), List.find?_cons_of_neg (by simpa using same), ih distinct.2]

theorem merged_append_payloads (payloads more : List (String × String × JsonObject)) (ioc : IOC) :
    merged (payloads ++ more) ioc = merged more (merged payloads ioc) := by
  rw [merged, merged, ioc_key_merged, List.filter_append, List.map_append, List.foldl_append]
  rfl

private theorem payload_put (ioc : IOC) (provider name : String) (answer : JsonObject) :
    payload (attached provider answer ioc) name = if provider = name then some answer else payload ioc name := by
  rw [payload, attached]
  dsimp only
  rw [Table.get_put]
  split <;> rfl

/-- A provider's payload takes the place of the one under its name; nothing else changes. -/
private theorem payload_answers_of (ordered : List IOC) (provider : Provider) (ioc : IOC) (name : String) :
    payload (merged (answers_of ordered provider) ioc) name =
      if provider.name = name then (own_answer provider ordered (ioc_key ioc)).or (payload ioc name)
      else payload ioc name := by
  rw [answers_of, own_answer]
  cases enabled : provider.enabled with
  | false => simp only [Bool.not_false, ↓reduceIte, Option.none_or, ite_self]; rfl
  | true =>
    simp only [Bool.not_true, Bool.false_eq_true, ↓reduceIte]
    cases answered : provider.enrich ordered with
    | error error_type => simp only [Option.none_or, ite_self]; rfl
    | ok result =>
      dsimp only
      have mine : merged (result.results.rows.map (fun entry => (provider.name, entry))) ioc =
          (result.results.get (ioc_key ioc)).elim ioc (fun entry => attached provider.name entry.2 ioc) := by
        rw [merged, List.filter_map, List.map_map,
          show (result.results.rows.filter ((fun answer => decide (answer.2.1 = ioc_key ioc)) ∘
              fun entry => (provider.name, entry))) = result.results.rows.filter (fun r => r.1 = ioc_key ioc) from rfl,
          filter_key result.results.unique (ioc_key ioc)]
        cases found : result.results.get (ioc_key ioc) <;>
          rw [show result.results.rows.find? _ = result.results.get (ioc_key ioc) from rfl, found] <;> rfl
      rw [mine]
      cases found : result.results.get (ioc_key ioc) with
      | none => simp only [Option.elim_none, Option.map_none, Option.none_or, ite_self]
      | some entry =>
        rw [Option.elim_some, payload_put, Option.map_some, Option.some_or]

/-! ### What the whole chain attaches -/

section
variable {providers : List Provider} {ordered : List IOC}

private theorem payload_unnamed {name : String} (absent : name ∉ providers.map Provider.name) (ioc : IOC) :
    payload (merged (answers providers ordered) ioc) name = payload ioc name := by
  induction providers generalizing ioc with
  | nil => rfl
  | cons provider rest ih =>
    rw [List.map_cons, List.mem_cons, not_or] at absent
    rw [answers, List.flatMap_cons, merged_append_payloads, ← answers, ih absent.2, payload_answers_of,
      if_neg (Ne.symm absent.1)]

private theorem payload_named (distinct : (providers.map Provider.name).Nodup) {provider : Provider}
    (member : provider ∈ providers) (ioc : IOC) :
    payload (merged (answers providers ordered) ioc) provider.name =
      (own_answer provider ordered (ioc_key ioc)).or (payload ioc provider.name) := by
  induction providers generalizing ioc with
  | nil => cases member
  | cons first rest ih =>
    rw [List.map_cons, List.nodup_cons] at distinct
    rw [answers, List.flatMap_cons, merged_append_payloads, ← answers]
    rcases List.mem_cons.mp member with rfl | later
    · rw [payload_unnamed distinct.1, payload_answers_of, if_pos rfl]
    · have other : first.name ≠ provider.name := by
        intro same
        exact distinct.1 (same ▸ List.mem_map_of_mem later)
      rw [ih distinct.2 later, ioc_key_merged, payload_answers_of, if_neg other]

/-- The payloads depend on which providers there are, not on their order. -/
private theorem payload_perm {providers' : List Provider} (distinct : (providers.map Provider.name).Nodup)
    (perm : providers'.Perm providers) (ioc : IOC) (name : String) :
    payload (merged (answers providers' ordered) ioc) name = payload (merged (answers providers ordered) ioc) name := by
  have names := perm.map Provider.name
  by_cases named : name ∈ providers.map Provider.name
  · obtain ⟨provider, member, rfl⟩ := List.mem_map.mp named
    rw [payload_named distinct member, payload_named (names.nodup_iff.mpr distinct) (perm.mem_iff.mpr member)]
  · rw [payload_unnamed named, payload_unnamed (fun inside => named (names.mem_iff.mp inside))]

/-- Without one of its providers the chain attaches what it did under every other name. -/
private theorem payload_without {before after : List Provider} {provider : Provider}
    (distinct : ((before ++ provider :: after).map Provider.name).Nodup) (ioc : IOC) {name : String}
    (other : name ≠ provider.name) :
    payload (merged (answers (before ++ provider :: after) ordered) ioc) name =
      payload (merged (answers (before ++ after) ordered) ioc) name := by
  have fewer : ((before ++ after).map Provider.name).Nodup :=
    distinct.sublist (((List.sublist_cons_self provider after).append_left before).map Provider.name)
  have kept : ∀ other ∈ before ++ after, other ∈ before ++ provider :: after := by
    intro other inside
    rw [List.mem_append] at inside ⊢
    exact inside.imp_right (List.mem_cons_of_mem _)
  by_cases named : name ∈ (before ++ after).map Provider.name
  · obtain ⟨member, inside, rfl⟩ := List.mem_map.mp named
    rw [payload_named fewer inside, payload_named distinct (kept member inside)]
  · rw [payload_unnamed named, payload_unnamed]
    intro inside
    obtain ⟨member, listed, rfl⟩ := List.mem_map.mp inside
    rw [List.mem_append, List.mem_cons] at listed
    rcases listed with earlier | rfl | later
    · exact named (List.mem_map_of_mem (List.mem_append_left _ earlier))
    · exact other rfl
    · exact named (List.mem_map_of_mem (List.mem_append_right _ later))

private theorem run_provider_statuses (gathered : Gathered) (provider : Provider) :
    (run_provider ordered gathered provider).statuses = gathered.statuses ++ (own_status ordered provider).toList := by
  rw [run_provider, own_status]
  cases provider.enabled with
  | false => exact (List.append_nil _).symm
  | true =>
    simp only [Bool.not_true, Bool.false_eq_true, ↓reduceIte]
    cases provider.enrich ordered <;> rfl

private theorem run_providers_statuses (gathered : Gathered) :
    (providers.foldl (run_provider ordered) gathered).statuses =
      gathered.statuses ++ providers.filterMap (own_status ordered) := by
  induction providers generalizing gathered with
  | nil => exact (List.append_nil _).symm
  | cons provider rest ih =>
    rw [List.foldl_cons, ih, run_provider_statuses, List.append_assoc, List.filterMap_cons]
    cases own_status ordered provider <;> rfl
end

/-- The status of a run depends on the statuses of its providers, not on their order. -/
theorem aggregate_perm {statuses statuses' : List EnrichmentStatus} (perm : statuses'.Perm statuses) :
    aggregate statuses' = aggregate statuses := by
  have meaningful := perm.filter (· ≠ .SKIPPED)
  have alike : ∀ p : EnrichmentStatus → Bool, (statuses'.filter (· ≠ .SKIPPED)).all p =
      (statuses.filter (· ≠ .SKIPPED)).all p := by
    intro p
    rw [Bool.eq_iff_iff, List.all_eq_true, List.all_eq_true]
    exact forall_congr' (fun status => by rw [meaningful.mem_iff])
  simp only [aggregate, meaningful.isEmpty_eq, alike]

private theorem enrich_status (providers : List Provider) (iocs : List IOC) :
    (enrich providers iocs).status = if iocs.insertionSort by_key = [] then .SKIPPED
      else aggregate (providers.filterMap (own_status (iocs.insertionSort by_key))) := by
  rw [enrich]
  dsimp only
  by_cases nothing : iocs.insertionSort by_key = []
  · rw [nothing, if_pos rfl]; rfl
  · rw [if_neg nothing, if_neg (by simpa using nothing)]
    dsimp only
    rw [run_providers_statuses, List.nil_append]

/-- Indicators with distinct keys have one order. -/
theorem sorted_perm {iocs iocs' : List IOC} (distinct : Distinct iocs) (perm : iocs'.Perm iocs) :
    iocs'.insertionSort by_key = iocs.insertionSort by_key := by
  have sorted := (List.perm_insertionSort by_key iocs').trans (perm.trans (List.perm_insertionSort by_key iocs).symm)
  refine List.Perm.eq_of_pairwise ?_ (List.pairwise_insertionSort by_key iocs')
    (List.pairwise_insertionSort by_key iocs) sorted
  intro first second left right before after
  have keys : ioc_key first = ioc_key second := by
    rcases before with less | ⟨types, values⟩ <;> rcases after with less' | ⟨types', values'⟩
    · exact absurd (less.trans less') (lt_irrefl _)
    · exact absurd (types' ▸ less) (lt_irrefl _)
    · exact absurd (types ▸ less') (lt_irrefl _)
    · rw [ioc_key, ioc_key, types, le_antisymm values values']
  exact List.inj_on_of_nodup_map (distinct_sorted.mpr distinct) (sorted.mem_iff.mp left) right keys

/-- The chain answers with its indicators in order, each with what every provider answered for
    it, and neither the order of the run nor another provider makes a difference. -/
theorem chain_isolates {providers : List Provider} {iocs : List IOC} (named : (providers.map Provider.name).Nodup)
    (distinct : Distinct iocs) :
    List.Forall₂ (fun ioc out => out.type = ioc.type ∧ out.value = ioc.value ∧ out.provenance = ioc.provenance ∧
        (∀ provider ∈ providers, payload out provider.name =
          (own_answer provider (iocs.insertionSort by_key) (ioc_key ioc)).or (payload ioc provider.name)) ∧
        ∀ name, name ∉ providers.map Provider.name → payload out name = payload ioc name)
      (iocs.insertionSort by_key) (enrich providers iocs).iocs ∧
    (∀ providers' iocs', providers'.Perm providers → iocs'.Perm iocs →
      List.Forall₂ Same (enrich providers' iocs').iocs (enrich providers iocs).iocs ∧
        (enrich providers' iocs').status = (enrich providers iocs).status) ∧
    (∀ before provider after, providers = before ++ provider :: after →
      List.Forall₂ (fun out out' => ioc_key out = ioc_key out' ∧
          ∀ name, name ≠ provider.name → payload out name = payload out' name)
        (enrich providers iocs).iocs (enrich (before ++ after) iocs).iocs) := by
  refine ⟨?_, ?_, ?_⟩
  · rw [enrich_iocs providers distinct, List.forall₂_map_right_iff, List.forall₂_same]
    intro ioc _
    exact ⟨rfl, rfl, rfl, fun provider member => payload_named named member ioc,
      fun name absent => payload_unnamed absent ioc⟩
  · intro providers' iocs' perm reordered
    have distinct' : Distinct iocs' := (reordered.map ioc_key).nodup_iff.mpr distinct
    constructor
    · rw [enrich_iocs providers' distinct', enrich_iocs providers distinct, sorted_perm distinct reordered,
        List.forall₂_map_left_iff, List.forall₂_map_right_iff, List.forall₂_same]
      exact fun ioc _ => ⟨rfl, rfl, rfl, payload_perm named perm ioc⟩
    · rw [enrich_status, enrich_status, sorted_perm distinct reordered, aggregate_perm (perm.filterMap _)]
  · rintro before provider after rfl
    rw [enrich_iocs _ distinct, enrich_iocs _ distinct, List.forall₂_map_left_iff, List.forall₂_map_right_iff,
      List.forall₂_same]
    exact fun ioc _ => ⟨rfl, fun name other => payload_without named ioc other⟩

/-! ### A provider that answers and one that raises -/

def source_address : IOC := { type := .IPV4, value := "203.0.113.7" }
def contacted_domain : IOC := { type := .DOMAIN, value := "evil.example" }

/-- A provider that knows the address, and reports a key that no indicator has. -/
def answering : Provider where
  name := "virustotal"
  enrich _ := .ok { provider := "virustotal", status := .COMPLETE
                    results := (Table.empty.put ("ipv4:203.0.113.7", [("lookup_status", .str "found")])).put ("md5:", []) }

def raising : Provider where
  name := "misp"
  enrich _ := .error "ConnectionError"

/-- In either order the address is found and the run is partial. -/
theorem raising_provider_isolated :
    List.Forall₂ Same (enrich [raising, answering] [source_address, contacted_domain]).iocs
        (enrich [answering, raising] [contacted_domain, source_address]).iocs ∧
      (enrich [raising, answering] [source_address, contacted_domain]).status =
        (enrich [answering, raising] [contacted_domain, source_address]).status :=
  (chain_isolates (by decide) (by decide)).2.1 [raising, answering] [source_address, contacted_domain]
    (List.Perm.swap ..) (List.Perm.swap ..)

end SocTriage.Enrichment
