import Mathlib.Data.List.Dedup
import Mathlib.Data.List.Sort
import Mathlib.Data.String.Basic
import SocTriage.Text
import SocTriage.Canonical

/-!
The evidence two alerts share and the policy that decides whether it justifies a
correlation. Both are symmetric in the two alerts, so a correlation does not depend on
which of them came first.
-/
namespace SocTriage.Evidence

inductive EvidenceType where
  | SAME_AGENT | SAME_RULE | SHARED_TECHNIQUE | SHARED_SOURCE_IP | SHARED_DESTINATION_IP | SHARED_IOC
deriving DecidableEq, Repr

namespace EvidenceType

def value : EvidenceType → String
  | .SAME_AGENT => "same_agent"
  | .SAME_RULE => "same_rule"
  | .SHARED_TECHNIQUE => "shared_technique"
  | .SHARED_SOURCE_IP => "shared_source_ip"
  | .SHARED_DESTINATION_IP => "shared_destination_ip"
  | .SHARED_IOC => "shared_ioc"

/-- The place in `EVIDENCE_TYPE_ORDER`. -/
def order : EvidenceType → Nat
  | .SAME_AGENT => 0
  | .SAME_RULE => 1
  | .SHARED_TECHNIQUE => 2
  | .SHARED_SOURCE_IP => 3
  | .SHARED_DESTINATION_IP => 4
  | .SHARED_IOC => 5

def reason_template : EvidenceType → String → String
  | .SAME_AGENT, value => "same agent " ++ value
  | .SAME_RULE, value => "same rule " ++ value ++ " fired on different agents"
  | .SHARED_TECHNIQUE, value => "shared MITRE ATT&CK technique " ++ value
  | .SHARED_SOURCE_IP, value => "shared source IP " ++ value
  | .SHARED_DESTINATION_IP, value => "shared destination IP " ++ value
  | .SHARED_IOC, value => "shared indicator " ++ value

end EvidenceType

structure EvidenceItem where
  evidence_type : EvidenceType
  value : String
deriving DecidableEq, Repr

def EvidenceItem.reason (item : EvidenceItem) : String := item.evidence_type.reason_template item.value

/-- `sort_key`, compared as a tuple. -/
def by_evidence (a b : EvidenceItem) : Prop :=
  a.evidence_type.order < b.evidence_type.order ∨
    (a.evidence_type.order = b.evidence_type.order ∧ a.value ≤ b.value)

instance : DecidableRel by_evidence := fun _ _ => inferInstanceAs (Decidable (_ ∨ _))

def sort_evidence (items : List EvidenceItem) : List EvidenceItem := items.insertionSort by_evidence

def evidence_reasons (items : List EvidenceItem) : List String := (sort_evidence items).map EvidenceItem.reason

/-! ### What an alert proves -/

/-- `sorted` of a set of strings. -/
def sorted_set (values : List String) : List String := values.dedup.insertionSort (· ≤ ·)

/-- A technique id of the list: text that is not blank. -/
def technique : Json → Option String
  | .str s => if Text.strip s = "" then none else some (Text.strip s)
  | _ => none

def technique_ids (canonical : CanonicalAlert) : List String :=
  match Json.lookup "id" canonical.source_event.rule.mitre with
  | some (.arr ids) => sorted_set (ids.filterMap technique)
  | _ => []

inductive Role where
  | SOURCE_IP | DESTINATION_IP | INDICATOR
deriving DecidableEq, Repr

def ROLE_PRIORITY : List Role := [.SOURCE_IP, .DESTINATION_IP, .INDICATOR]

def SOURCE_IP_FIELD := "source_event.data.srcip"
def DESTINATION_IP_FIELD := "source_event.data.dstip"

/-- The direction a provenance proves. -/
def provenance_role (provenance : IOCProvenance) : Option Role :=
  if provenance.field = SOURCE_IP_FIELD then some .SOURCE_IP
  else if provenance.field = DESTINATION_IP_FIELD then some .DESTINATION_IP
  else none

/-- The roles one indicator adds to its key. -/
def roles_of (ioc : IOC) : List Role :=
  .INDICATOR :: (if ioc.type = .IPV4 then ioc.provenance.filterMap provenance_role else [])

/-- Indicator key to the set of roles the alert proves for it. -/
abbrev RoleIndex := Table (Prod.fst : String × List Role → String)

def indicator_roles (canonical : CanonicalAlert) : RoleIndex :=
  canonical.iocs.foldl (fun index ioc =>
    if ioc_is_allowlisted ioc then index
    else index.put (ioc_key ioc, ((index.get (ioc_key ioc)).map Prod.snd).getD [] ++ roles_of ioc)) Table.empty

/-- The most specific role both alerts prove. -/
def best_shared_role (roles_a roles_b : List Role) : Option Role :=
  ROLE_PRIORITY.find? (fun role => roles_a.contains role && roles_b.contains role)

/-! ### What two alerts share -/

/-- `key.split(":", 1)[1]`, or the key itself without a colon. -/
def bare_indicator_value (key : String) : String :=
  match key.toList.dropWhile (· ≠ ':') with
  | [] => key
  | _ :: value => String.ofList value

def same_value (evidence_type : EvidenceType) (a b : String) : List EvidenceItem :=
  if a ≠ "" ∧ a = b then [⟨evidence_type, a⟩] else []

def role_evidence (key : String) : Role → EvidenceItem
  | .SOURCE_IP => ⟨.SHARED_SOURCE_IP, bare_indicator_value key⟩
  | .DESTINATION_IP => ⟨.SHARED_DESTINATION_IP, bare_indicator_value key⟩
  | .INDICATOR => ⟨.SHARED_IOC, key⟩

/-- The roles of a key, none when the index does not have it. -/
def RoleIndex.roles (index : RoleIndex) (key : String) : List Role := ((index.get key).map Prod.snd).getD []

def indicator_evidence (roles_a roles_b : RoleIndex) : List EvidenceItem :=
  (sorted_set ((roles_a.rows.map Prod.fst).filter (fun key => roles_b.has key))).filterMap (fun key =>
    (best_shared_role (roles_a.roles key) (roles_b.roles key)).map (role_evidence key))

def pairwise_evidence (a b : CanonicalAlert) : List EvidenceItem :=
  sort_evidence (
    same_value .SAME_AGENT a.source_event.agent.id b.source_event.agent.id ++
    same_value .SAME_RULE a.source_event.rule.id b.source_event.rule.id ++
    (sorted_set ((technique_ids a).filter (fun id => (technique_ids b).contains id))).map
      (EvidenceItem.mk .SHARED_TECHNIQUE) ++
    indicator_evidence (indicator_roles a) (indicator_roles b))

def STRONG_EVIDENCE_TYPES : List EvidenceType := [.SHARED_SOURCE_IP, .SHARED_DESTINATION_IP, .SHARED_IOC]
def SUPPORTING_COMBINATION : List EvidenceType := [.SAME_AGENT, .SHARED_TECHNIQUE]

def is_sufficient (items : List EvidenceItem) : Bool :=
  let types := items.map EvidenceItem.evidence_type
  types.any STRONG_EVIDENCE_TYPES.contains || SUPPORTING_COMBINATION.all types.contains

/-! ### Symmetry -/

theorem mem_sorted_set {values : List String} {value : String} : value ∈ sorted_set values ↔ value ∈ values := by
  rw [sorted_set, List.mem_insertionSort, List.mem_dedup]

theorem sorted_set_nodup (values : List String) : (sorted_set values).Nodup :=
  (List.perm_insertionSort _ _).nodup_iff.mpr (List.nodup_dedup values)

/-- A sorted set depends on its members only. -/
theorem sorted_set_congr {left right : List String} (same : ∀ value, value ∈ left ↔ value ∈ right) :
    sorted_set left = sorted_set right := by
  have perm : left.dedup.Perm right.dedup := by
    rw [List.perm_ext_iff_of_nodup (List.nodup_dedup _) (List.nodup_dedup _)]
    intro value
    rw [List.mem_dedup, List.mem_dedup]
    exact same value
  refine List.Perm.eq_of_pairwise' (List.pairwise_insertionSort _ _) (List.pairwise_insertionSort _ _) ?_
  exact ((List.perm_insertionSort _ _).trans perm).trans (List.perm_insertionSort _ _).symm

private theorem same_value_symm (evidence_type : EvidenceType) (a b : String) :
    same_value evidence_type a b = same_value evidence_type b a := by
  rw [same_value, same_value]
  by_cases same : a = b
  · subst same; rfl
  · rw [if_neg (fun both => same both.2), if_neg (fun both => same both.2.symm)]

theorem best_shared_role_symm (roles_a roles_b : List Role) :
    best_shared_role roles_a roles_b = best_shared_role roles_b roles_a := by
  rw [best_shared_role, best_shared_role]
  simp only [Bool.and_comm]

theorem mem_keys {index : RoleIndex} {key : String} : key ∈ index.rows.map Prod.fst ↔ index.has key = true := by
  rw [Table.has_iff, List.mem_map]

private theorem indicator_evidence_symm (roles_a roles_b : RoleIndex) :
    indicator_evidence roles_a roles_b = indicator_evidence roles_b roles_a := by
  have keys : sorted_set ((roles_a.rows.map Prod.fst).filter (fun key => roles_b.has key)) =
      sorted_set ((roles_b.rows.map Prod.fst).filter (fun key => roles_a.has key)) := by
    apply sorted_set_congr
    intro key
    rw [List.mem_filter, List.mem_filter, mem_keys, mem_keys, and_comm]
  rw [indicator_evidence, indicator_evidence, keys]
  simp only [best_shared_role_symm]

/-- Two alerts share the same evidence in either order. -/
theorem pairwise_evidence_symm (a b : CanonicalAlert) : pairwise_evidence a b = pairwise_evidence b a := by
  have techniques : sorted_set ((technique_ids a).filter (fun id => (technique_ids b).contains id)) =
      sorted_set ((technique_ids b).filter (fun id => (technique_ids a).contains id)) := by
    apply sorted_set_congr
    intro id
    simp only [List.mem_filter, List.contains_iff_mem, and_comm]
  rw [pairwise_evidence, pairwise_evidence, same_value_symm .SAME_AGENT, same_value_symm .SAME_RULE, techniques,
    indicator_evidence_symm]

/-- Evidence that justifies a correlation does so in either order. -/
def Related (a b : CanonicalAlert) : Prop := is_sufficient (pairwise_evidence a b) = true

theorem Related.symm {a b : CanonicalAlert} (related : Related a b) : Related b a := by
  rw [Related, pairwise_evidence_symm]; exact related

/-- No evidence is never sufficient. -/
theorem is_sufficient_nil : is_sufficient [] = false := rfl

end SocTriage.Evidence
