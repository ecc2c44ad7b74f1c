import SocTriage.Evidence

/-!
What two alerts share, read off their indicators: the evidence depends on which indicators,
provenance and techniques an alert has and not on their order or number, each indicator both
alerts hold is named once, and when the whole is enough to correlate them.
-/
namespace SocTriage.Evidence

/-! ### What one alert proves -/

/-- What an indicator says of the address: the direction only as a typed IPv4 field. -/
def Role.ProvedBy (ioc : IOC) : Role → Prop
  | .SOURCE_IP => ioc.type = .IPV4 ∧ ∃ provenance ∈ ioc.provenance, provenance.field = SOURCE_IP_FIELD
  | .DESTINATION_IP => ioc.type = .IPV4 ∧ ∃ provenance ∈ ioc.provenance, provenance.field = DESTINATION_IP_FIELD
  | .INDICATOR => True

/-- The alert holds the indicator, not allowlisted, in the role. -/
def Proves (alert : CanonicalAlert) (type : IOCType) (value : String) (role : Role) : Prop :=
  ∃ ioc ∈ alert.iocs, ioc_is_allowlisted ioc = false ∧ ioc.type = type ∧ ioc.value = value ∧ role.ProvedBy ioc

/-- Both alerts hold the indicator in the role. -/
def Shares (a b : CanonicalAlert) (type : IOCType) (value : String) (role : Role) : Prop :=
  Proves a type value role ∧ Proves b type value role

/-- No role both alerts prove for the indicator comes before this one. -/
def MostSpecific (a b : CanonicalAlert) (type : IOCType) (value : String) (role : Role) : Prop :=
  Shares a b type value role ∧ ∀ other, Shares a b type value other → ROLE_PRIORITY.idxOf role ≤ ROLE_PRIORITY.idxOf other

/-- The item for an indicator in a role. -/
def indicator_item (type : IOCType) (value : String) : Role → EvidenceItem
  | .SOURCE_IP => ⟨.SHARED_SOURCE_IP, value⟩
  | .DESTINATION_IP => ⟨.SHARED_DESTINATION_IP, value⟩
  | .INDICATOR => ⟨.SHARED_IOC, type.value ++ ":" ++ value⟩

/-- The item names the indicator: by its key, or by the address alone in a directional role. -/
def names (type : IOCType) (value : String) (item : EvidenceItem) : Bool :=
  item = indicator_item type value .INDICATOR ||
    (type = .IPV4 && (item = indicator_item type value .SOURCE_IP || item = indicator_item type value .DESTINATION_IP))

/-- The technique ids the rule lists, as they stand. -/
def listed_techniques (canonical : CanonicalAlert) : List Json :=
  match Json.lookup "id" canonical.source_event.rule.mitre with
  | some (.arr ids) => ids
  | _ => []

/-- The same indicator, its provenance in another order or repeated. -/
structure SameIndicator (ioc ioc' : IOC) : Prop where
  type : ioc.type = ioc'.type
  value : ioc.value = ioc'.value
  allowlisted : ioc_is_allowlisted ioc = ioc_is_allowlisted ioc'
  provenance : ∀ entry, entry ∈ ioc.provenance ↔ entry ∈ ioc'.provenance

/-- The same alert, its indicators and techniques in another order or repeated. -/
structure Rearranged (a a' : CanonicalAlert) : Prop where
  agent : a.source_event.agent.id = a'.source_event.agent.id
  rule : a.source_event.rule.id = a'.source_event.rule.id
  techniques : ∀ id, id ∈ listed_techniques a ↔ id ∈ listed_techniques a'
  kept : ∀ ioc ∈ a.iocs, ∃ ioc' ∈ a'.iocs, SameIndicator ioc ioc'
  known : ∀ ioc' ∈ a'.iocs, ∃ ioc ∈ a.iocs, SameIndicator ioc ioc'

/-! ### Indicator keys -/

private theorem separator : ":".toList = [':'] := by decide

private theorem type_no_colon (type : IOCType) : ':' ∉ type.value.toList := by
  cases type <;> decide

private theorem toList_key (type : IOCType) (value : String) :
    (type.value ++ ":" ++ value).toList = type.value.toList ++ ':' :: value.toList := by
  rw [String.toList_append, String.toList_append, separator, List.append_assoc, List.singleton_append]

/-- The key of an indicator gives back its type and value. -/
theorem key_inj {type type' : IOCType} {value value' : String} :
    type.value ++ ":" ++ value = type'.value ++ ":" ++ value' ↔ type = type' ∧ value = value' := by
  constructor
  · intro same
    have letters := congrArg String.toList same
    rw [toList_key, toList_key] at letters
    obtain ⟨types, values⟩ := Text.split_at_separator (type_no_colon type) (type_no_colon type') letters
    exact ⟨IOCType.value_inj (String.toList_inj.mp types), String.toList_inj.mp values⟩
  · rintro ⟨rfl, rfl⟩; rfl

private theorem bare_indicator_value_key (type : IOCType) (value : String) :
    bare_indicator_value (type.value ++ ":" ++ value) = value := by
  have dropped : (type.value ++ ":" ++ value).toList.dropWhile (· ≠ ':') = ':' :: value.toList := by
    rw [toList_key, List.dropWhile_append_of_pos]
    · rw [List.dropWhile_cons_of_neg (by simp)]
    · intro c inside
      have other : c ≠ ':' := fun colon => type_no_colon type (colon ▸ inside)
      simpa using other
  rw [bare_indicator_value, dropped]
  exact String.ofList_toList

theorem role_evidence_key (type : IOCType) (value : String) (role : Role) :
    role_evidence (type.value ++ ":" ++ value) role = indicator_item type value role := by
  cases role <;> simp only [role_evidence, indicator_item, bare_indicator_value_key]

/-! ### The role index -/

theorem mem_roles_of {ioc : IOC} {role : Role} : role ∈ roles_of ioc ↔ role.ProvedBy ioc := by
  have directional : ∀ provenance, provenance_role provenance ≠ some .INDICATOR := by
    intro provenance; rw [provenance_role]; split
    · simp
    · split <;> simp
  have source : ∀ provenance, provenance_role provenance = some .SOURCE_IP ↔ provenance.field = SOURCE_IP_FIELD := by
    intro provenance; rw [provenance_role]; split
    · simp_all
    · split <;> simp_all
  have destination : ∀ provenance, provenance_role provenance = some .DESTINATION_IP ↔
      provenance.field = DESTINATION_IP_FIELD := by
    intro provenance; rw [provenance_role]; split
    · rename_i inbound
      rw [inbound]; simp [SOURCE_IP_FIELD, DESTINATION_IP_FIELD]
    · split <;> simp_all
  rw [roles_of]
  by_cases address : ioc.type = .IPV4
  · cases role <;>
      simp only [List.mem_cons, address, ↓reduceIte, List.mem_filterMap, Role.ProvedBy, source, destination,
        reduceCtorEq, false_or, true_and, true_or]
  · cases role <;> simp [address, Role.ProvedBy]

private def add_roles (index : RoleIndex) (ioc : IOC) : RoleIndex :=
  if ioc_is_allowlisted ioc then index
  else index.put (ioc_key ioc, ((index.get (ioc_key ioc)).map Prod.snd).getD [] ++ roles_of ioc)

private theorem roles_put (index : RoleIndex) (key key' : String) (roles : List Role) :
    RoleIndex.roles (index.put (key, roles)) key' = if key = key' then roles else index.roles key' := by
  rw [RoleIndex.roles, Table.get_put]
  split <;> rfl

private theorem mem_add_roles {index : RoleIndex} {ioc : IOC} {key : String} {role : Role} :
    role ∈ (add_roles index ioc).roles key ↔ role ∈ index.roles key ∨
      (ioc_is_allowlisted ioc = false ∧ ioc_key ioc = key ∧ role.ProvedBy ioc) := by
  rw [add_roles]
  by_cases allowed : ioc_is_allowlisted ioc = true
  · rw [if_pos allowed, allowed]; simp
  · rw [if_neg allowed, roles_put]
    rw [Bool.not_eq_true] at allowed
    by_cases same : ioc_key ioc = key
    · subst same
      rw [if_pos rfl, List.mem_append, mem_roles_of, RoleIndex.roles]
      simp [allowed]
    · rw [if_neg same]; simp [same]

private theorem mem_fold_roles {iocs : List IOC} {index : RoleIndex} {key : String} {role : Role} :
    role ∈ (iocs.foldl add_roles index).roles key ↔ role ∈ index.roles key ∨
      ∃ ioc ∈ iocs, ioc_is_allowlisted ioc = false ∧ ioc_key ioc = key ∧ role.ProvedBy ioc := by
  induction iocs generalizing index with
  | nil => simp
  | cons ioc rest ih => rw [List.foldl_cons, ih, mem_add_roles, List.exists_mem_cons_iff, or_assoc]

/-- The roles the index has for an indicator are those the alert proves. -/
theorem mem_indicator_roles {alert : CanonicalAlert} {type : IOCType} {value : String} {role : Role} :
    role ∈ (indicator_roles alert).roles (type.value ++ ":" ++ value) ↔ Proves alert type value role := by
  rw [show indicator_roles alert = alert.iocs.foldl add_roles Table.empty from rfl, mem_fold_roles, Proves]
  have blank : role ∉ RoleIndex.roles Table.empty (type.value ++ ":" ++ value) := List.not_mem_nil
  simp only [blank, false_or, ioc_key, key_inj, and_assoc]

/-- Every key of the index is the key of an indicator the alert holds. -/
private theorem has_fold_roles {iocs : List IOC} {index : RoleIndex} {key : String} :
    (iocs.foldl add_roles index).has key = true ↔ index.has key = true ∨
      ∃ ioc ∈ iocs, ioc_is_allowlisted ioc = false ∧ ioc_key ioc = key := by
  induction iocs generalizing index with
  | nil => simp
  | cons ioc rest ih =>
    have one : (add_roles index ioc).has key = true ↔ index.has key = true ∨
        (ioc_is_allowlisted ioc = false ∧ ioc_key ioc = key) := by
      rw [add_roles]
      by_cases allowed : ioc_is_allowlisted ioc = true
      · rw [if_pos allowed, allowed]; simp
      · rw [if_neg allowed, Table.has, Table.get_put]
        rw [Bool.not_eq_true] at allowed
        by_cases same : ioc_key ioc = key <;> simp [same, allowed, Table.has]
    rw [List.foldl_cons, ih, one, List.exists_mem_cons_iff, or_assoc]

private theorem has_indicator_roles {alert : CanonicalAlert} {key : String} :
    (indicator_roles alert).has key = true ↔
      ∃ type value, key = type.value ++ ":" ++ value ∧ Proves alert type value .INDICATOR := by
  rw [show indicator_roles alert = alert.iocs.foldl add_roles Table.empty from rfl, has_fold_roles]
  constructor
  · rintro (held | ⟨ioc, inside, plain, rfl⟩)
    · cases held
    · exact ⟨ioc.type, ioc.value, rfl, ioc, inside, plain, rfl, rfl, trivial⟩
  · rintro ⟨type, value, rfl, ioc, inside, plain, rfl, rfl, -⟩
    exact .inr ⟨ioc, inside, plain, rfl⟩

/-! ### The role an indicator is named under -/

private theorem forall_role {p : Role → Prop} : (∀ role, p role) ↔ p .SOURCE_IP ∧ p .DESTINATION_IP ∧ p .INDICATOR := by
  refine ⟨fun all => ⟨all _, all _, all _⟩, ?_⟩
  rintro ⟨source, destination, indicator⟩ role
  cases role <;> assumption

/-- The first role of the priority list that both alerts prove. -/
private theorem best_shared_role_iff {roles_a roles_b : List Role} {both : Role → Prop}
    (proved : ∀ role, role ∈ roles_a ∧ role ∈ roles_b ↔ both role) {role : Role} :
    best_shared_role roles_a roles_b = some role ↔
      both role ∧ ∀ other, both other → ROLE_PRIORITY.idxOf role ≤ ROLE_PRIORITY.idxOf other := by
  classical
  have held : ∀ role, (roles_a.contains role && roles_b.contains role) = decide (both role) := by
    intro role
    rw [Bool.eq_iff_iff, Bool.and_eq_true, List.contains_iff_mem, List.contains_iff_mem, proved, decide_eq_true_iff]
  simp only [best_shared_role, held, ROLE_PRIORITY, List.find?_cons, List.find?_nil, forall_role]
  by_cases source : both .SOURCE_IP <;> by_cases destination : both .DESTINATION_IP <;>
    by_cases indicator : both .INDICATOR <;> cases role <;> simp [source, destination, indicator]

private theorem best_role_of_key {a b : CanonicalAlert} {type : IOCType} {value : String} {role : Role} :
    best_shared_role ((indicator_roles a).roles (type.value ++ ":" ++ value))
      ((indicator_roles b).roles (type.value ++ ":" ++ value)) = some role ↔ MostSpecific a b type value role :=
  best_shared_role_iff (fun _ => and_congr mem_indicator_roles mem_indicator_roles)

/-- An indicator both alerts hold has a most specific role. -/
theorem most_specific_exists {a b : CanonicalAlert} {type : IOCType} {value : String}
    (shared : Shares a b type value .INDICATOR) : ∃ role, MostSpecific a b type value role := by
  by_contra absent
  rw [not_exists] at absent
  have nothing : best_shared_role ((indicator_roles a).roles (type.value ++ ":" ++ value))
      ((indicator_roles b).roles (type.value ++ ":" ++ value)) = none := by
    rw [Option.eq_none_iff_forall_ne_some]
    exact fun role found => absent role (best_role_of_key.mp found)
  have skipped := List.find?_eq_none.mp nothing .INDICATOR (by decide)
  rw [Bool.and_eq_true, List.contains_iff_mem, List.contains_iff_mem, mem_indicator_roles, mem_indicator_roles] at skipped
  exact skipped shared

/-- Any role proves the indicator, and a directional one that it is an address. -/
private theorem Proves.indicator {alert : CanonicalAlert} {type : IOCType} {value : String} {role : Role}
    (proved : Proves alert type value role) : Proves alert type value .INDICATOR ∧ (role ≠ .INDICATOR → type = .IPV4) := by
  obtain ⟨ioc, inside, plain, rfl, rfl, directed⟩ := proved
  refine ⟨⟨ioc, inside, plain, rfl, rfl, trivial⟩, fun other => ?_⟩
  cases role with
  | SOURCE_IP => exact directed.1
  | DESTINATION_IP => exact directed.1
  | INDICATOR => exact absurd rfl other

/-! ### The items -/

private theorem shared_keys {a b : CanonicalAlert} {key : String} :
    key ∈ sorted_set (((indicator_roles a).rows.map Prod.fst).filter (fun key => (indicator_roles b).has key)) ↔
      ∃ type value, key = type.value ++ ":" ++ value ∧ Shares a b type value .INDICATOR := by
  rw [mem_sorted_set, List.mem_filter, mem_keys, has_indicator_roles, has_indicator_roles]
  constructor
  · rintro ⟨⟨type, value, rfl, left⟩, type', value', same, right⟩
    obtain ⟨rfl, rfl⟩ := key_inj.mp same
    exact ⟨type, value, rfl, left, right⟩
  · rintro ⟨type, value, rfl, left, right⟩
    exact ⟨⟨type, value, rfl, left⟩, type, value, rfl, right⟩

/-- The items of the indicators: one for each that both alerts hold, under its most specific role. -/
theorem mem_indicator_evidence {a b : CanonicalAlert} {item : EvidenceItem} :
    item ∈ indicator_evidence (indicator_roles a) (indicator_roles b) ↔
      ∃ type value role, MostSpecific a b type value role ∧ item = indicator_item type value role := by
  rw [indicator_evidence, List.mem_filterMap]
  constructor
  · rintro ⟨key, shared, picked⟩
    obtain ⟨type, value, rfl, -⟩ := shared_keys.mp shared
    obtain ⟨role, best, rfl⟩ := Option.map_eq_some_iff.mp picked
    exact ⟨type, value, role, best_role_of_key.mp best, role_evidence_key type value role⟩
  · rintro ⟨type, value, role, specific, rfl⟩
    have shared : Shares a b type value .INDICATOR := ⟨specific.1.1.indicator.1, specific.1.2.indicator.1⟩
    refine ⟨type.value ++ ":" ++ value, shared_keys.mpr ⟨type, value, rfl, shared⟩, ?_⟩
    rw [best_role_of_key.mpr specific, Option.map_some, role_evidence_key]

private theorem names_iff {type : IOCType} {value : String} {item : EvidenceItem} :
    names type value item = true ↔ item = indicator_item type value .INDICATOR ∨
      type = .IPV4 ∧ (item = indicator_item type value .SOURCE_IP ∨ item = indicator_item type value .DESTINATION_IP) := by
  simp only [names, Bool.or_eq_true, Bool.and_eq_true, decide_eq_true_iff]

/-- An item names the indicator it was made for and no other. -/
private theorem names_item {type type' : IOCType} {value value' : String} {role : Role}
    (directed : role ≠ .INDICATOR → type' = .IPV4) :
    names type value (indicator_item type' value' role) = true ↔ type = type' ∧ value = value' := by
  rw [names_iff]
  cases role with
  | SOURCE_IP =>
    obtain rfl := directed (by decide)
    simp only [indicator_item, EvidenceItem.mk.injEq, reduceCtorEq, false_and, or_false, true_and, false_or]
    rw [eq_comm (a := value)]
  | DESTINATION_IP =>
    obtain rfl := directed (by decide)
    simp only [indicator_item, EvidenceItem.mk.injEq, reduceCtorEq, false_and, true_and, false_or]
    rw [eq_comm (a := value)]
  | INDICATOR =>
    simp only [indicator_item, EvidenceItem.mk.injEq, key_inj, reduceCtorEq, false_and, and_false, or_false, true_and]
    rw [eq_comm (a := type), eq_comm (a := value)]

/-- A search of distinct keys that only one key answers. -/
private theorem filterMap_single {α β : Type} [DecidableEq α] {keys : List α} (distinct : keys.Nodup) {f : α → Option β}
    {key : α} (only : ∀ other ∈ keys, other ≠ key → f other = none) :
    keys.filterMap f = if key ∈ keys then (f key).toList else [] := by
  induction keys with
  | nil => rfl
  | cons first rest ih =>
    have later := ih distinct.of_cons (fun other inside => only other (List.mem_cons_of_mem _ inside))
    by_cases same : first = key
    · subst same
      rw [if_neg (List.nodup_cons.mp distinct).1] at later
      rw [if_pos List.mem_cons_self, List.filterMap_cons, later]
      cases f first <;> rfl
    · rw [List.filterMap_cons, only first List.mem_cons_self same, later]
      simp [Ne.symm same]

/-- The items that name an indicator: one under its most specific role, none when the alerts do not share it. -/
private theorem indicator_named (a b : CanonicalAlert) (type : IOCType) (value : String) :
    (indicator_evidence (indicator_roles a) (indicator_roles b)).filter (names type value) =
      ((best_shared_role ((indicator_roles a).roles (type.value ++ ":" ++ value))
        ((indicator_roles b).roles (type.value ++ ":" ++ value))).map (indicator_item type value)).toList := by
  rw [indicator_evidence, List.filter_filterMap,
    @filterMap_single _ _ _ _ (sorted_set_nodup _) _ (type.value ++ ":" ++ value)]
  · by_cases shared : Shares a b type value .INDICATOR
    · obtain ⟨role, specific⟩ := most_specific_exists shared
      have directed : role ≠ .INDICATOR → type = .IPV4 := specific.1.1.indicator.2
      rw [if_pos (shared_keys.mpr ⟨type, value, rfl, shared⟩), best_role_of_key.mpr specific, Option.map_some,
        role_evidence_key, Option.filter_some, if_pos ((names_item directed).mpr ⟨rfl, rfl⟩), Option.map_some]
    · rw [if_neg]
      · cases picked : best_shared_role ((indicator_roles a).roles (type.value ++ ":" ++ value))
            ((indicator_roles b).roles (type.value ++ ":" ++ value)) with
        | none => rfl
        | some role =>
          have specific := best_role_of_key.mp picked
          exact absurd ⟨specific.1.1.indicator.1, specific.1.2.indicator.1⟩ shared
      · intro inside
        obtain ⟨type', value', same, shared'⟩ := shared_keys.mp inside
        obtain ⟨rfl, rfl⟩ := key_inj.mp same
        exact shared shared'
  · intro other inside different
    obtain ⟨type', value', rfl, -⟩ := shared_keys.mp inside
    cases picked : best_shared_role ((indicator_roles a).roles (type'.value ++ ":" ++ value'))
        ((indicator_roles b).roles (type'.value ++ ":" ++ value')) with
    | none => rfl
    | some role =>
      have specific := best_role_of_key.mp picked
      rw [Option.map_some, role_evidence_key, Option.filter_some, if_neg]
      intro named
      obtain ⟨rfl, rfl⟩ := (names_item specific.1.1.indicator.2).mp named
      exact different rfl

/-! ### The whole evidence -/

private theorem mem_same_value {evidence_type : EvidenceType} {a b : String} {item : EvidenceItem} :
    item ∈ same_value evidence_type a b ↔ (a ≠ "" ∧ a = b) ∧ item = ⟨evidence_type, a⟩ := by
  rw [same_value]
  by_cases shared : a ≠ "" ∧ a = b
  · rw [if_pos shared, List.mem_singleton, and_iff_right shared]
  · rw [if_neg shared, List.mem_nil_iff, false_iff]
    exact fun both => shared both.1

/-- Every item two alerts share: their agent, their rule, a technique or an indicator. -/
theorem mem_pairwise_evidence {a b : CanonicalAlert} {item : EvidenceItem} :
    item ∈ pairwise_evidence a b ↔
      ((a.source_event.agent.id ≠ "" ∧ a.source_event.agent.id = b.source_event.agent.id) ∧
        item = ⟨.SAME_AGENT, a.source_event.agent.id⟩) ∨
      ((a.source_event.rule.id ≠ "" ∧ a.source_event.rule.id = b.source_event.rule.id) ∧
        item = ⟨.SAME_RULE, a.source_event.rule.id⟩) ∨
      (∃ id, (id ∈ technique_ids a ∧ id ∈ technique_ids b) ∧ ⟨.SHARED_TECHNIQUE, id⟩ = item) ∨
      (∃ type value role, MostSpecific a b type value role ∧ item = indicator_item type value role) := by
  rw [pairwise_evidence, sort_evidence, List.mem_insertionSort, List.mem_append, List.mem_append, List.mem_append,
    mem_same_value, mem_same_value, List.mem_map, mem_indicator_evidence, or_assoc, or_assoc]
  simp only [mem_sorted_set, List.mem_filter, List.contains_iff_mem]

private theorem unnamed {type : IOCType} {value : String} {items : List EvidenceItem} {evidence_type : EvidenceType}
    (plain : evidence_type = .SAME_AGENT ∨ evidence_type = .SAME_RULE ∨ evidence_type = .SHARED_TECHNIQUE)
    (kind : ∀ item ∈ items, item.evidence_type = evidence_type) : items.filter (names type value) = [] := by
  rw [List.filter_eq_nil_iff]
  intro item inside named
  have kind := kind item inside
  rcases names_iff.mp named with rfl | ⟨-, rfl | rfl⟩ <;> subst kind <;> simp [indicator_item] at plain

private theorem pairwise_named (a b : CanonicalAlert) (type : IOCType) (value : String) :
    (pairwise_evidence a b).filter (names type value) =
      (indicator_evidence (indicator_roles a) (indicator_roles b)).filter (names type value) := by
  have sorted : ((pairwise_evidence a b).filter (names type value)).Perm
      ((indicator_evidence (indicator_roles a) (indicator_roles b)).filter (names type value)) := by
    refine ((List.perm_insertionSort _ _).filter _).trans ?_
    rw [List.filter_append, List.filter_append, List.filter_append,
      unnamed (.inl rfl) (fun item inside => by rw [(mem_same_value.mp inside).2]),
      unnamed (.inr (.inl rfl)) (fun item inside => by rw [(mem_same_value.mp inside).2]),
      @unnamed _ _ _ .SHARED_TECHNIQUE (.inr (.inr rfl))]
    · rfl
    · intro item inside
      obtain ⟨id, -, rfl⟩ := List.mem_map.mp inside
      rfl
  rw [indicator_named] at sorted ⊢
  cases picked : best_shared_role ((indicator_roles a).roles (type.value ++ ":" ++ value))
      ((indicator_roles b).roles (type.value ++ ":" ++ value)) with
  | none => rw [picked] at sorted; exact sorted.eq_nil
  | some role => rw [picked] at sorted; exact List.perm_singleton.mp sorted

/-- A shared indicator is named once, under its most specific role; another indicator is not named. -/
theorem evidence_names {a b : CanonicalAlert} {type : IOCType} {value : String} :
    (∀ role, MostSpecific a b type value role →
      (pairwise_evidence a b).filter (names type value) = [indicator_item type value role]) ∧
    (¬ Shares a b type value .INDICATOR → (pairwise_evidence a b).filter (names type value) = []) := by
  rw [pairwise_named, indicator_named]
  constructor
  · intro role specific
    rw [best_role_of_key.mpr specific]; rfl
  · intro apart
    cases picked : best_shared_role ((indicator_roles a).roles (type.value ++ ":" ++ value))
        ((indicator_roles b).roles (type.value ++ ":" ++ value)) with
    | none => rfl
    | some role =>
      have specific := best_role_of_key.mp picked
      exact absurd ⟨specific.1.1.indicator.1, specific.1.2.indicator.1⟩ apart

/-! ### Order and repetition -/

private theorem technique_ids_listed (canonical : CanonicalAlert) :
    technique_ids canonical = sorted_set ((listed_techniques canonical).filterMap technique) := by
  rw [technique_ids, listed_techniques]
  cases Json.lookup "id" canonical.source_event.rule.mitre with
  | none => rfl
  | some ids => cases ids <;> rfl

private theorem SameIndicator.proved {ioc ioc' : IOC} (same : SameIndicator ioc ioc') {role : Role}
    (proved : role.ProvedBy ioc) : role.ProvedBy ioc' := by
  cases role with
  | INDICATOR => trivial
  | SOURCE_IP =>
    obtain ⟨address, entry, inside, field⟩ := proved
    exact ⟨same.type ▸ address, entry, (same.provenance entry).mp inside, field⟩
  | DESTINATION_IP =>
    obtain ⟨address, entry, inside, field⟩ := proved
    exact ⟨same.type ▸ address, entry, (same.provenance entry).mp inside, field⟩

private theorem SameIndicator.symm {ioc ioc' : IOC} (same : SameIndicator ioc ioc') : SameIndicator ioc' ioc :=
  ⟨same.type.symm, same.value.symm, same.allowlisted.symm, fun entry => (same.provenance entry).symm⟩

private theorem proves_of_kept {a a' : CanonicalAlert}
    (kept : ∀ ioc ∈ a.iocs, ∃ ioc' ∈ a'.iocs, SameIndicator ioc ioc') {type : IOCType} {value : String} {role : Role}
    (proved : Proves a type value role) : Proves a' type value role := by
  obtain ⟨ioc, inside, plain, rfl, rfl, directed⟩ := proved
  obtain ⟨ioc', inside', same⟩ := kept ioc inside
  exact ⟨ioc', inside', same.allowlisted ▸ plain, same.type.symm, same.value.symm, same.proved directed⟩

theorem Rearranged.proves {a a' : CanonicalAlert} (same : Rearranged a a') {type : IOCType} {value : String} {role : Role} :
    Proves a type value role ↔ Proves a' type value role := by
  refine ⟨proves_of_kept same.kept, proves_of_kept (fun ioc' inside => ?_)⟩
  obtain ⟨ioc, inside, match'⟩ := same.known ioc' inside
  exact ⟨ioc, inside, match'.symm⟩

theorem Rearranged.technique_ids {a a' : CanonicalAlert} (same : Rearranged a a') :
    technique_ids a = technique_ids a' := by
  rw [technique_ids_listed, technique_ids_listed]
  apply sorted_set_congr
  intro id
  simp only [List.mem_filterMap, same.techniques]

/-- The evidence of a rearranged alert has the same items, so it is the same list once sorted. -/
private theorem indicator_evidence_congr {a a' : CanonicalAlert} (same : Rearranged a a') (b : CanonicalAlert) :
    indicator_evidence (indicator_roles a) (indicator_roles b) =
      indicator_evidence (indicator_roles a') (indicator_roles b) := by
  have shares : ∀ {type value role}, Shares a b type value role ↔ Shares a' b type value role :=
    and_congr same.proves Iff.rfl
  have keys : sorted_set (((indicator_roles a).rows.map Prod.fst).filter (fun key => (indicator_roles b).has key)) =
      sorted_set (((indicator_roles a').rows.map Prod.fst).filter (fun key => (indicator_roles b).has key)) := by
    apply sorted_set_congr
    intro key
    rw [← mem_sorted_set, shared_keys, ← mem_sorted_set, shared_keys]
    simp only [shares]
  rw [indicator_evidence, indicator_evidence, keys]
  apply List.filterMap_congr
  intro key inside
  obtain ⟨type, value, rfl, -⟩ := shared_keys.mp inside
  congr 1
  apply Option.ext
  intro role
  rw [best_role_of_key, best_role_of_key, MostSpecific, MostSpecific]
  simp only [shares]

private theorem pairwise_evidence_congr {a a' : CanonicalAlert} (same : Rearranged a a') (b : CanonicalAlert) :
    pairwise_evidence a b = pairwise_evidence a' b := by
  rw [pairwise_evidence, pairwise_evidence, same.agent, same.rule, same.technique_ids, indicator_evidence_congr same]

/-! ### When the evidence is enough -/

/-- The evidence is enough exactly when the alerts share an indicator that is not allowlisted, or
    come from one agent with an id and name a technique in common. -/
theorem sufficient_iff {a b : CanonicalAlert} :
    is_sufficient (pairwise_evidence a b) = true ↔ (∃ type value, Shares a b type value .INDICATOR) ∨
      (a.source_event.agent.id ≠ "" ∧ a.source_event.agent.id = b.source_event.agent.id ∧
        ∃ id, id ∈ technique_ids a ∧ id ∈ technique_ids b) := by
  have kinds : is_sufficient (pairwise_evidence a b) = true ↔
      (∃ item ∈ pairwise_evidence a b, item.evidence_type ∈ STRONG_EVIDENCE_TYPES) ∨
        (∃ item ∈ pairwise_evidence a b, item.evidence_type = .SAME_AGENT) ∧
          ∃ item ∈ pairwise_evidence a b, item.evidence_type = .SHARED_TECHNIQUE := by
    simp only [is_sufficient, SUPPORTING_COMBINATION, Bool.or_eq_true, List.any_eq_true, List.all_eq_true,
      List.contains_iff_mem, List.mem_map, List.forall_mem_cons, List.not_mem_nil, false_imp_iff, implies_true,
      and_true, exists_exists_and_eq_and]
  have strong : (∃ item ∈ pairwise_evidence a b, item.evidence_type ∈ STRONG_EVIDENCE_TYPES) ↔
      ∃ type value, Shares a b type value .INDICATOR := by
    constructor
    · rintro ⟨item, inside, strong⟩
      rcases mem_pairwise_evidence.mp inside with ⟨-, rfl⟩ | ⟨-, rfl⟩ | ⟨_, -, rfl⟩ | ⟨type, value, role, specific, rfl⟩
      · simp [STRONG_EVIDENCE_TYPES] at strong
      · simp [STRONG_EVIDENCE_TYPES] at strong
      · simp [STRONG_EVIDENCE_TYPES] at strong
      · exact ⟨type, value, specific.1.1.indicator.1, specific.1.2.indicator.1⟩
    · rintro ⟨type, value, shared⟩
      obtain ⟨role, specific⟩ := most_specific_exists shared
      refine ⟨_, mem_pairwise_evidence.mpr (.inr (.inr (.inr ⟨type, value, role, specific, rfl⟩))), ?_⟩
      cases role <;> simp [indicator_item, STRONG_EVIDENCE_TYPES]
  have agent : (∃ item ∈ pairwise_evidence a b, item.evidence_type = .SAME_AGENT) ↔
      a.source_event.agent.id ≠ "" ∧ a.source_event.agent.id = b.source_event.agent.id := by
    constructor
    · rintro ⟨item, inside, kind⟩
      rcases mem_pairwise_evidence.mp inside with ⟨same, -⟩ | ⟨-, rfl⟩ | ⟨_, -, rfl⟩ | ⟨_, _, role, -, rfl⟩
      · exact same
      · cases kind
      · cases kind
      · cases role <;> cases kind
    · exact fun same => ⟨_, mem_pairwise_evidence.mpr (.inl ⟨same, rfl⟩), rfl⟩
  have technique : (∃ item ∈ pairwise_evidence a b, item.evidence_type = .SHARED_TECHNIQUE) ↔
      ∃ id, id ∈ technique_ids a ∧ id ∈ technique_ids b := by
    constructor
    · rintro ⟨item, inside, kind⟩
      rcases mem_pairwise_evidence.mp inside with ⟨-, rfl⟩ | ⟨-, rfl⟩ | ⟨id, shared, -⟩ | ⟨_, _, role, -, rfl⟩
      · cases kind
      · cases kind
      · exact ⟨id, shared⟩
      · cases role <;> cases kind
    · rintro ⟨id, shared⟩
      exact ⟨_, mem_pairwise_evidence.mpr (.inr (.inr (.inl ⟨id, shared, rfl⟩))), rfl⟩
  rw [kinds, strong, agent, technique, and_assoc]

/-- What two alerts share: in either order, however their indicators and techniques are arranged,
    each shared indicator once, and enough to correlate them in two cases only. -/
theorem evidence_of_pair (a b : CanonicalAlert) :
    pairwise_evidence a b = pairwise_evidence b a ∧
      (∀ a' b', Rearranged a a' → Rearranged b b' → pairwise_evidence a' b' = pairwise_evidence a b) ∧
      (∀ type value,
        (Shares a b type value .INDICATOR → ∃ role, MostSpecific a b type value role ∧
          (pairwise_evidence a b).filter (names type value) = [indicator_item type value role]) ∧
        (¬ Shares a b type value .INDICATOR → (pairwise_evidence a b).filter (names type value) = [])) ∧
      (is_sufficient (pairwise_evidence a b) = true ↔ (∃ type value, Shares a b type value .INDICATOR) ∨
        (a.source_event.agent.id ≠ "" ∧ a.source_event.agent.id = b.source_event.agent.id ∧
          ∃ id, id ∈ technique_ids a ∧ id ∈ technique_ids b)) := by
  refine ⟨pairwise_evidence_symm a b, ?_, ?_, sufficient_iff⟩
  · intro a' b' left right
    rw [pairwise_evidence_congr left b, pairwise_evidence_symm a' b, pairwise_evidence_congr right a',
      pairwise_evidence_symm b' a']
  · intro type value
    refine ⟨fun shared => ?_, evidence_names.2⟩
    obtain ⟨role, specific⟩ := most_specific_exists shared
    exact ⟨role, specific, evidence_names.1 role specific⟩

/-! ### Alerts without an agent id -/

/-- An alert of an agent whose id is empty, for a rule that names one technique. -/
def nameless_agent_alert (alert_id : UUID) : CanonicalAlert where
  alert_id := alert_id
  received_at := { wall := 0 }
  source_event := {
    rule := { id := "5710", level := 5, description := "sshd: invalid user", mitre := [("id", .arr [.str "T1110"])] }
    agent := { id := "", name := "web-1" } }

/-- Two such alerts have the same agent id and a technique in common, and too little evidence. -/
theorem empty_agent_id_correlates_nothing :
    ¬ ∀ a b : CanonicalAlert, is_sufficient (pairwise_evidence a b) = true ↔
      (∃ type value, Shares a b type value .INDICATOR) ∨
        (a.source_event.agent.id = b.source_event.agent.id ∧ ∃ id, id ∈ technique_ids a ∧ id ∈ technique_ids b) := by
  intro claimed
  have enough := (claimed (nameless_agent_alert "a-1") (nameless_agent_alert "a-2")).mpr
    (.inr ⟨rfl, "T1110", by decide, by decide⟩)
  exact absurd enough (by decide)

end SocTriage.Evidence
