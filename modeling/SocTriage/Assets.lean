import SocTriage.Canonical
import SocTriage.Collapsing
import SocTriage.Config
import SocTriage.Lifecycle
import SocTriage.Normalize
import SocTriage.Tables

/-!
The asset inventory. It is read in one pass that collapses assets that are equal but for the case of
their names and refuses those that claim one name, agent or address, so that what it fills in does not
depend on the order of the assets. Names are compared folded; any function will do for that.
-/
namespace SocTriage.Assets
open Normalize Config
open Collapsing (keep both_or_neither Reader)

def MAX_ASSETS : Nat := 10000
def MAX_NAME_LENGTH : Nat := 253
def MAX_TIER_LENGTH : Nat := 64
def MAX_OWNER_LENGTH : Nat := 128

def KIND : Kind :=
  { label := "asset inventory", name := "assets", version := "asset_inventory.v1", maximum := MAX_ASSETS }

structure AssetRecord where
  name : String
  tier : String
  owner : Option String := none
  agent_ids : List String := []
  ips : List String := []
deriving DecidableEq

structure AssetInventory where
  version : String
  assets : List AssetRecord
  duplicates_collapsed : Nat := 0

/-! ### Lookup -/

/-- The assets under each of their keys; the last one to claim a key has it. -/
def index (keys : AssetRecord → List String) (assets : List AssetRecord) :
    Table (Prod.fst : String × AssetRecord → String) :=
  assets.foldl (fun found asset => (keys asset).foldl (fun found key => found.put (key, asset)) found) Table.empty

/-- A text that is there and not empty. -/
def truthy (text : Option String) : Option String := text.filter (fun text => text ≠ "")

/-- `str(IPv4Address(text.strip()))`; `none` for `ValueError`. -/
def normalize_ip (text : String) : Option String :=
  (IPv4Address (Text.strip text).toList).map (fun address => String.ofList (ipv4_str address))

section
variable (casefold : String → String)

def AssetInventory.by_agent_id (self : AssetInventory) := index AssetRecord.agent_ids self.assets
def AssetInventory.by_ip (self : AssetInventory) := index AssetRecord.ips self.assets
def AssetInventory.by_name (self : AssetInventory) := index (fun asset => [casefold asset.name]) self.assets

/-- The asset of the agent, or else of the address, or else of the name. -/
def AssetInventory.lookup (self : AssetInventory) (agent_id ip name : Option String) : Option AssetRecord :=
  let of_agent := (truthy agent_id).bind (fun agent_id => self.by_agent_id.get (Text.strip agent_id))
  let of_ip := ((truthy ip).bind normalize_ip).bind self.by_ip.get
  let of_name := (truthy name).bind (fun name => (self.by_name casefold).get (casefold (Text.strip name)))
  (of_agent.or (of_ip.or of_name)).map Prod.snd

/-- `theirs` where `mine` is missing or empty and `theirs` is not. -/
def fill (mine theirs : Option String) : Option String :=
  if (truthy mine).isNone && (truthy theirs).isSome then theirs else mine

/-- The asset with what the record adds to it. -/
def update (asset : CanonicalAsset) (record : AssetRecord) : CanonicalAsset where
  name := fill asset.name (some record.name)
  tier := fill asset.tier (some record.tier)
  owner := fill asset.owner record.owner

def apply_asset_inventory (alert : CanonicalAlert) (inventory : Option AssetInventory) : CanonicalAlert :=
  match inventory, alert.asset with
  | some inventory, some asset =>
    let source_agent := alert.source_event.agent
    match inventory.lookup casefold (some source_agent.id) source_agent.ip asset.name with
    | none => alert
    | some record => { alert with asset := some (update asset record) }
  | some _, none => alert
  | none, _ => alert
end

/-! ### Assets -/

section
variable (py : Display)

/-- What is wrong with an asset, under its name. -/
def asset_error (asset_name message : String) : String :=
  KIND.error ("asset " ++ py.repr (.str asset_name) ++ ": " ++ message)

/-- A text that must be there, of at most so many characters. -/
def normalize_text (field : String) (limit : Nat) (asset_name : String) : Yaml → Except String String
  | .str value =>
    let normalized := Text.strip value
    if normalized = "" then .error (asset_error py asset_name (field ++ " must not be empty"))
    else if normalized.length > limit then
      .error (asset_error py asset_name (field ++ " exceeds " ++ toString limit ++ " characters"))
    else .ok normalized
  | _ => .error (asset_error py asset_name (field ++ " must be a string"))

def normalize_name (field asset_name : String) (value : Yaml) : Except String String :=
  normalize_text py field MAX_NAME_LENGTH asset_name value

def normalize_tier (asset_name : String) (value : Yaml) : Except String String :=
  normalize_text py "tier" MAX_TIER_LENGTH asset_name value

/-- An owner may be missing or empty, which is the same. -/
def normalize_owner (asset_name : String) : Yaml → Except String (Option String)
  | .null => .ok none
  | .str value =>
    let normalized := Text.strip value
    if normalized.length > MAX_OWNER_LENGTH then
      .error (asset_error py asset_name ("owner exceeds " ++ toString MAX_OWNER_LENGTH ++ " characters"))
    else .ok (if normalized = "" then none else some normalized)
  | _ => .error (asset_error py asset_name "owner must be a string")

/-- Texts read one after the other, each of which must be valid and new. -/
def normalize_items (item : String) (normalize : String → Except String String) (asset_name : String) :
    List Yaml → List String → Except String (List String)
  | [], normalized => .ok normalized
  | .str raw :: rest, normalized =>
    match normalize raw with
    | .error message => .error (asset_error py asset_name message)
    | .ok text =>
      if text ∈ normalized then
        .error (asset_error py asset_name ("duplicate " ++ item ++ " " ++ py.repr (.str text)))
      else normalize_items item normalize asset_name rest (normalized ++ [text])
  | _ :: _, _ => .error (asset_error py asset_name ("every " ++ item ++ " must be a string"))

/-- A list that may be missing. -/
def normalize_list (field item : String) (normalize : String → Except String String) (asset_name : String) :
    Yaml → Except String (List String)
  | .null => .ok []
  | .seq value => normalize_items py item normalize asset_name value []
  | _ => .error (asset_error py asset_name (field ++ " must be a list"))

def normalize_agent_ids (asset_name : String) (value : Yaml) : Except String (List String) :=
  let normalize (agent_id : String) : Except String String :=
    if Text.strip agent_id = "" then .error "agent_ids cannot contain empty values" else .ok (Text.strip agent_id)
  normalize_list py "agent_ids" "agent_id" normalize asset_name value

def normalize_ips (asset_name : String) (value : Yaml) : Except String (List String) :=
  let normalize (raw_ip : String) : Except String String :=
    match normalize_ip raw_ip with
    | some ip => .ok ip
    | none => .error ("invalid IPv4 address " ++ py.repr (.str raw_ip))
  normalize_list py "ips" "ip" normalize asset_name value

/-- The fields of an asset, once its name is known. -/
def parse_fields (name : String) (fields : List (Yaml × Yaml)) : Except String AssetRecord := do
  let name ← normalize_name py "name" name (.str name)
  let tier ← normalize_tier py name (field "tier" fields)
  let owner ← normalize_owner py name (field "owner" fields)
  let agent_ids ← normalize_agent_ids py name (field "agent_ids" fields)
  let ips ← normalize_ips py name (field "ips" fields)
  return { name, tier, owner, agent_ids, ips }

def parse_asset (raw : Yaml) (index : Nat) : Except String AssetRecord :=
  let refused (message : String) : Except String AssetRecord := .error (KIND.error ("asset " ++ toString index ++ message))
  match raw with
  | .map fields =>
    let unexpected := unexpected_keys ["name", "tier", "owner", "agent_ids", "ips"] fields
    if !unexpected.isEmpty then refused (": unsupported field(s): " ++ listed py unexpected)
    else
      match field "name" fields with
      | .str raw_name =>
        if Text.strip raw_name = "" then refused ": name must not be empty"
        else parse_fields py (Text.strip raw_name) fields
      | _ => refused ": name must be a string"
  | _ => refused " must be a mapping"
end

/-! ### The pass over the assets -/

/-- What claims a key: the name of the asset under the key. -/
abbrev Claims := Table (Prod.fst : String × String → String)

structure Pass where
  parsed : List AssetRecord := []
  duplicates_collapsed : Nat := 0
  seen_names : Table (Prod.fst : String × AssetRecord → String) := Table.empty
  seen_agents : Claims := Table.empty
  seen_ips : Claims := Table.empty

/-- The first of the keys that is claimed, with the name of its asset. -/
def claimed (seen : Claims) (keys : List String) : Option (String × String) := keys.findSome? seen.get

def claim (seen : Claims) (keys : List String) (name : String) : Claims :=
  keys.foldl (fun seen key => seen.put (key, name)) seen

def add_asset (py : Display) (casefold : String → String) (pass : Pass) (asset : AssetRecord) : Except String Pass :=
  let clash (key : String) (owner : String) : Except String Pass :=
    .error (KIND.error (key ++ " is claimed by assets " ++ py.repr (.str owner) ++ " and " ++ py.repr (.str asset.name)))
  match pass.seen_names.get (casefold asset.name) with
  | some (_, existing) =>
    if existing.tier = asset.tier ∧ existing.owner = asset.owner ∧ existing.agent_ids = asset.agent_ids ∧
        existing.ips = asset.ips then
      .ok { pass with duplicates_collapsed := pass.duplicates_collapsed + 1 }
    else
      .error (KIND.error ("duplicate asset name " ++ py.repr (.str asset.name) ++ " contains conflicting records"))
  | none =>
    match claimed pass.seen_agents asset.agent_ids with
    | some (agent_id, owner) => clash ("agent_id " ++ py.repr (.str agent_id)) owner
    | none =>
      match claimed pass.seen_ips asset.ips with
      | some (ip, owner) => clash ("IP " ++ py.repr (.str ip)) owner
      | none =>
        .ok { pass with
          seen_names := pass.seen_names.put (casefold asset.name, asset)
          seen_agents := claim pass.seen_agents asset.agent_ids asset.name
          seen_ips := claim pass.seen_ips asset.ips asset.name
          parsed := pass.parsed ++ [asset] }

def asset_inventory_from_mapping (py : Display) (casefold : String → String) (raw : Yaml) : Except String AssetInventory := do
  let assets_raw ← top_level py KIND raw
  let pass ← Collapsing.read (parse_asset py) (add_asset py casefold) 0 assets_raw {}
  return { version := KIND.version, assets := pass.parsed, duplicates_collapsed := pass.duplicates_collapsed }

/-! ### What is accepted -/

/-- An asset but for the case of its name. -/
def folded (casefold : String → String) (asset : AssetRecord) : AssetRecord := { asset with name := casefold asset.name }

/-- Both claim one name, one agent or one address. -/
def Shares (a b : AssetRecord) : Prop :=
  a.name = b.name ∨ (∃ agent_id ∈ a.agent_ids, agent_id ∈ b.agent_ids) ∨ ∃ ip ∈ a.ips, ip ∈ b.ips

instance : DecidableRel Shares := fun _ _ => inferInstanceAs (Decidable (_ ∨ _ ∨ _))

private theorem shares_comm (a b : AssetRecord) (shared : Shares a b) : Shares b a := by
  rcases shared with name | ⟨agent_id, left, right⟩ | ⟨ip, left, right⟩
  · exact .inl name.symm
  · exact .inr (.inl ⟨agent_id, right, left⟩)
  · exact .inr (.inr ⟨ip, right, left⟩)

/-- Only a message tells where in the file an asset is. -/
private theorem parse_asset_index {py : Display} {item : Yaml} {index : Nat} {asset : AssetRecord}
    (parsed : parse_asset py item index = .ok asset) (other : Nat) : parse_asset py item other = .ok asset := by
  cases item with
  | map fields =>
    unfold parse_asset at parsed ⊢
    dsimp only at parsed ⊢
    split at parsed
    · cases parsed
    · rename_i expected
      rw [if_neg expected]
      split at parsed
      · split at parsed
        · cases parsed
        · rename_i named
          rw [if_neg named]
          exact parsed
      · cases parsed
  | null => cases parsed
  | scalar _ => cases parsed
  | str _ => cases parsed
  | seq _ => cases parsed

private theorem claim_get (seen : Claims) (keys : List String) (name key : String) :
    ((claim seen keys name).get key).isSome ↔ (seen.get key).isSome ∨ key ∈ keys := by
  induction keys generalizing seen with
  | nil => simp [claim]
  | cons first rest ih =>
    rw [claim, List.foldl_cons, ← claim, ih, Table.get_put, List.mem_cons]
    by_cases same : first = key
    · simp [same]
    · simp [same, Ne.symm same]

/-- The dictionaries of a pass hold what its assets claim. -/
private structure Claimed (casefold : String → String) (pass : Pass) : Prop where
  names : ∀ name asset, (pass.seen_names.get name).map Prod.snd = some asset ↔
    asset ∈ pass.parsed ∧ casefold asset.name = name
  agents : ∀ agent_id, (pass.seen_agents.get agent_id).isSome ↔ ∃ asset ∈ pass.parsed, agent_id ∈ asset.agent_ids
  ips : ∀ ip, (pass.seen_ips.get ip).isSome ↔ ∃ asset ∈ pass.parsed, ip ∈ asset.ips

private theorem claims_add {seen : Claims} {keys : AssetRecord → List String} {parsed : List AssetRecord}
    (holds : ∀ key, (seen.get key).isSome ↔ ∃ asset ∈ parsed, key ∈ keys asset) (new : AssetRecord) (key : String) :
    ((claim seen (keys new) new.name).get key).isSome ↔ ∃ asset ∈ parsed ++ [new], key ∈ keys asset := by
  rw [claim_get, holds]
  simp [or_and_right, exists_or]

/-- No key is claimed, or a listed asset has one of them. -/
private theorem claimed_cases {seen : Claims} {keys : AssetRecord → List String} {parsed : List AssetRecord}
    (holds : ∀ key, (seen.get key).isSome ↔ ∃ asset ∈ parsed, key ∈ keys asset) (wanted : List String) :
    match claimed seen wanted with
    | some _ => ∃ asset ∈ parsed, ∃ key ∈ keys asset, key ∈ wanted
    | none => ∀ asset ∈ parsed, ∀ key ∈ keys asset, key ∉ wanted := by
  cases found : claimed seen wanted with
  | some pair =>
    obtain ⟨key, listed, has⟩ := List.exists_of_findSome?_eq_some found
    obtain ⟨asset, inside, own⟩ := (holds key).mp (by rw [has]; rfl)
    exact ⟨asset, inside, key, own, listed⟩
  | none =>
    intro asset inside key own listed
    have free := List.findSome?_eq_none_iff.mp found key listed
    have taken := (holds key).mpr ⟨asset, inside, own⟩
    rw [free] at taken
    cases taken

private def collected (pass : Pass) : List AssetRecord × Nat := (pass.parsed, pass.duplicates_collapsed)

/-- One asset is kept, dropped or refused as the pass of the library has it. -/
private theorem add_asset_spec (py : Display) (casefold : String → String) {pass : Pass} (holds : Claimed casefold pass)
    (asset : AssetRecord) :
    match add_asset py casefold pass asset with
    | .ok next => Claimed casefold next ∧ keep (folded casefold) Shares (collected pass) asset = some (collected next)
    | .error _ => keep (folded casefold) Shares (collected pass) asset = none := by
  unfold add_asset
  dsimp only
  cases by_name : pass.seen_names.get (casefold asset.name) with
  | some found =>
    obtain ⟨name, existing⟩ := found
    obtain ⟨inside, same_name⟩ := (holds.names (casefold asset.name) existing).mp (by rw [by_name]; rfl)
    dsimp only
    by_cases content : existing.tier = asset.tier ∧ existing.owner = asset.owner ∧
        existing.agent_ids = asset.agent_ids ∧ existing.ips = asset.ips
    · rw [if_pos content]
      obtain ⟨tier, owner, agent_ids, ips⟩ := content
      refine ⟨⟨holds.names, holds.agents, holds.ips⟩, Collapsing.keep_again inside ?_⟩
      rw [folded, folded, same_name, tier, owner, agent_ids, ips]
    · rw [if_neg content]
      refine Collapsing.keep_clash (fun k listed same => content ?_) inside (.inl same_name)
      obtain ⟨folded_name, tier, owner, agent_ids, ips⟩ := AssetRecord.mk.inj same
      have known := (holds.names (casefold asset.name) k).mpr ⟨listed, folded_name⟩
      rw [by_name, Option.map_some, Option.some.injEq] at known
      have same_asset : existing = k := known
      rw [same_asset]
      exact ⟨tier, owner, agent_ids, ips⟩
  | none =>
    have other_name : ∀ k ∈ pass.parsed, casefold k.name ≠ casefold asset.name := by
      intro k listed same
      have known := (holds.names (casefold asset.name) k).mpr ⟨listed, same⟩
      rw [by_name] at known
      cases known
    have new : ∀ k ∈ pass.parsed, folded casefold k ≠ folded casefold asset :=
      fun k listed same => other_name k listed (congrArg AssetRecord.name same)
    have agents := claimed_cases holds.agents asset.agent_ids
    have ips := claimed_cases holds.ips asset.ips
    dsimp only
    cases by_agent : claimed pass.seen_agents asset.agent_ids with
    | some found =>
      rw [by_agent] at agents
      obtain ⟨k, inside, agent_id, own, wanted⟩ := agents
      exact Collapsing.keep_clash new inside (.inr (.inl ⟨agent_id, own, wanted⟩))
    | none =>
      rw [by_agent] at agents
      dsimp only
      cases by_ip : claimed pass.seen_ips asset.ips with
      | some found =>
        rw [by_ip] at ips
        obtain ⟨k, inside, ip, own, wanted⟩ := ips
        exact Collapsing.keep_clash new inside (.inr (.inr ⟨ip, own, wanted⟩))
      | none =>
        rw [by_ip] at ips
        refine ⟨⟨Table.get_put_listed holds.names by_name, claims_add holds.agents asset, claims_add holds.ips asset⟩,
          Collapsing.keep_new new (fun k listed shared => ?_)⟩
        rcases shared with name | ⟨agent_id, own, wanted⟩ | ⟨ip, own, wanted⟩
        · exact other_name k listed name
        · exact agents k listed agent_id own wanted
        · exact ips k listed ip own wanted

private theorem asset_reader (py : Display) (casefold : String → String) :
    Reader (parse_asset py) (add_asset py casefold) (folded casefold) Shares collected (Claimed casefold) where
  anywhere parsed := parse_asset_index parsed
  symm := shares_comm
  adds := by
    intro pass asset next holds added
    have spec := add_asset_spec py casefold holds asset
    rwa [added] at spec
  refuses := by
    intro pass asset message holds refused
    have spec := add_asset_spec py casefold holds asset
    rwa [refused] at spec

private theorem claimed_empty (casefold : String → String) : Claimed casefold {} where
  names _ _ := iff_of_false (fun found => by cases found) (fun known => List.not_mem_nil known.1)
  agents _ := iff_of_false (fun found => by cases found) (fun ⟨_, inside, _⟩ => List.not_mem_nil inside)
  ips _ := iff_of_false (fun found => by cases found) (fun ⟨_, inside, _⟩ => List.not_mem_nil inside)

/-! ### What is looked up -/

section
variable {casefold : String → String} {assets assets' : List AssetRecord}

/-- Whatever an asset claims is its own. -/
private def Apart (casefold : String → String) (assets : List AssetRecord) : Prop :=
  ∀ a ∈ assets, ∀ b ∈ assets, Shares (folded casefold a) (folded casefold b) → a = b

/-- Under a key that only one asset has, the index has that asset. -/
private theorem index_get {keys : AssetRecord → List String}
    (own : ∀ a ∈ assets, ∀ b ∈ assets, (∃ key ∈ keys a, key ∈ keys b) → a = b) (key : String) (asset : AssetRecord) :
    ((index keys assets).get key).map Prod.snd = some asset ↔ asset ∈ assets ∧ key ∈ keys asset := by
  have flat : index keys assets =
      (assets.flatMap (fun asset => (keys asset).map (fun key => (key, asset)))).foldl Table.put Table.empty := by
    rw [index, List.foldl_flatMap]
    simp only [List.foldl_map]
  have listed (pair : String × AssetRecord) :
      pair ∈ assets.flatMap (fun asset => (keys asset).map (fun key => (key, asset))) ↔
        pair.2 ∈ assets ∧ pair.1 ∈ keys pair.2 := by
    obtain ⟨key, asset⟩ := pair
    simp only [List.mem_flatMap, List.mem_map, Prod.mk.injEq]
    constructor
    · rintro ⟨a, inside, k, has, rfl, rfl⟩
      exact ⟨inside, has⟩
    · rintro ⟨inside, has⟩
      exact ⟨asset, inside, key, has, rfl, rfl⟩
  rw [flat, Table.get_foldl_put, Table.get_empty, Option.or_none, Option.map_eq_some_iff]
  have sound {pair : String × AssetRecord} (found : List.find? (fun r => decide (r.1 = key)) (assets.flatMap
      (fun asset => (keys asset).map (fun key => (key, asset)))).reverse = some pair) :
      pair.2 ∈ assets ∧ key ∈ keys pair.2 := by
    obtain ⟨inside, has⟩ := (listed pair).mp (List.mem_reverse.mp (List.mem_of_find?_eq_some found))
    have same := List.find?_some found
    rw [decide_eq_true_eq] at same
    exact ⟨inside, same ▸ has⟩
  constructor
  · rintro ⟨pair, found, rfl⟩
    exact sound found
  · rintro ⟨inside, has⟩
    have there := List.mem_reverse.mpr ((listed (key, asset)).mpr ⟨inside, has⟩)
    have some_pair := (@List.find?_isSome _ _ (fun r : String × AssetRecord => decide (r.1 = key))).mpr
      ⟨(key, asset), there, decide_eq_true rfl⟩
    obtain ⟨pair, found⟩ := Option.isSome_iff_exists.mp some_pair
    obtain ⟨inside', has'⟩ := sound found
    exact ⟨pair, found, own pair.2 inside' asset inside ⟨key, has', has⟩⟩

/-- What an index has under a key does not depend on the order of the assets, but for the case of the name. -/
private theorem index_perm {keys : AssetRecord → List String}
    (shared : ∀ a b : AssetRecord, (∃ key ∈ keys a, key ∈ keys b) → Shares a b) (apart : Apart casefold assets)
    (apart' : Apart casefold assets') (perm : (assets'.map (folded casefold)).Perm (assets.map (folded casefold)))
    (key : String) :
    ((index (fun a => keys (folded casefold a)) assets').get key).map (fun pair => folded casefold pair.2) =
      ((index (fun a => keys (folded casefold a)) assets).get key).map (fun pair => folded casefold pair.2) := by
  have views {listed : List AssetRecord} (apart : Apart casefold listed) (v : AssetRecord) :
      ((index (fun a => keys (folded casefold a)) listed).get key).map (fun pair => folded casefold pair.2) = some v ↔
        v ∈ listed.map (folded casefold) ∧ key ∈ keys v := by
    have found := index_get (fun a left b right both => apart a left b right (shared _ _ both)) key
    rw [← Function.comp_def (folded casefold) Prod.snd, ← Option.map_map, Option.map_eq_some_iff, List.mem_map]
    constructor
    · rintro ⟨asset, has, rfl⟩
      obtain ⟨inside, own⟩ := (found asset).mp has
      exact ⟨⟨asset, inside, rfl⟩, own⟩
    · rintro ⟨⟨asset, inside, rfl⟩, own⟩
      exact ⟨asset, (found asset).mpr ⟨inside, own⟩, rfl⟩
  refine Option.ext (fun v => ?_)
  rw [views apart', views apart, perm.mem_iff]

/-- Inventories with the same assets find the same, but for the case of the name. -/
private theorem lookup_perm {self other : AssetInventory} (apart : Apart casefold self.assets)
    (apart' : Apart casefold other.assets)
    (perm : (other.assets.map (folded casefold)).Perm (self.assets.map (folded casefold)))
    (agent_id ip name : Option String) :
    (other.lookup casefold agent_id ip name).map (folded casefold) =
      (self.lookup casefold agent_id ip name).map (folded casefold) := by
  let seen (pair : String × AssetRecord) : AssetRecord := folded casefold pair.2
  have by_agent_id (key : String) : (other.by_agent_id.get key).map seen = (self.by_agent_id.get key).map seen :=
    @index_perm casefold self.assets other.assets AssetRecord.agent_ids (fun _ _ both => .inr (.inl both))
      apart apart' perm key
  have by_ip (key : String) : (other.by_ip.get key).map seen = (self.by_ip.get key).map seen :=
    @index_perm casefold self.assets other.assets AssetRecord.ips (fun _ _ both => .inr (.inr both)) apart apart' perm key
  have by_name (key : String) : ((other.by_name casefold).get key).map seen = ((self.by_name casefold).get key).map seen := by
    refine @index_perm casefold self.assets other.assets (fun a => [a.name]) (fun a b both => .inl ?_) apart apart' perm key
    obtain ⟨name, left, right⟩ := both
    exact (List.mem_singleton.mp left).symm.trans (List.mem_singleton.mp right)
  have mapped (found : Option (String × AssetRecord)) : (found.map Prod.snd).map (folded casefold) = found.map seen :=
    Option.map_map ..
  rw [AssetInventory.lookup, AssetInventory.lookup, mapped, mapped]
  simp only [Option.map_or, Option.map_bind, Function.comp_def, by_agent_id, by_ip, by_name]

/-! ### What is filled in -/

/-- A text that is not empty stays. -/
def Kept (mine now : Option String) : Prop := ∀ text, mine = some text → text ≠ "" → now = some text

private theorem truthy_some {text : String} (filled : text ≠ "") : truthy (some text) = some text := by
  simp [truthy, filled]

private theorem fill_kept (mine theirs : Option String) : Kept mine (fill mine theirs) := by
  rintro text rfl filled
  simp [fill, truthy_some filled]

private theorem fill_again (mine theirs : Option String) : fill (fill mine theirs) theirs = fill mine theirs := by
  by_cases blank : (truthy mine).isNone && (truthy theirs).isSome
  · simp [fill, blank]
  · simp [fill, blank]

private theorem fill_of_truthy {mine : Option String} (filled : (truthy mine).isSome) (theirs : Option String) :
    fill mine theirs = mine := by
  rw [fill, if_neg]
  simp [Option.isSome_iff_ne_none.mp filled]

private theorem update_again (asset : CanonicalAsset) (record : AssetRecord) :
    update (update asset record) record = update asset record := by
  simp only [update, fill_again]

/-- The name that was filled in leads to nothing else, since only the agent or the address can have led to it. -/
private theorem lookup_filled {self : AssetInventory} {agent_id ip name : Option String} {record : AssetRecord}
    (found : self.lookup casefold agent_id ip name = some record) :
    self.lookup casefold agent_id ip (fill name (some record.name)) = some record := by
  by_cases named : (truthy name).isSome
  · rwa [fill_of_truthy named]
  · have nameless : truthy name = none := Option.not_isSome_iff_eq_none.mp named
    unfold AssetInventory.lookup at found ⊢
    dsimp only at found ⊢
    rw [nameless, Option.bind_none, Option.or_none] at found
    rw [← Option.or_assoc, Option.map_or, found]
    rfl

/-- Nothing has changed but fields of the asset that were missing or empty. -/
structure OnlyFills (before after : CanonicalAlert) : Prop where
  rest : after = { before with asset := after.asset }
  missing : before.asset = none → after.asset = none
  fields : ∀ asset, before.asset = some asset → ∃ filled, after.asset = some filled ∧
    Kept asset.name filled.name ∧ Kept asset.tier filled.tier ∧ Kept asset.owner filled.owner

private theorem OnlyFills.refl (alert : CanonicalAlert) : OnlyFills alert alert where
  rest := rfl
  missing none := none
  fields asset own := ⟨asset, own, fun _ same _ => same, fun _ same _ => same, fun _ same _ => same⟩

private theorem apply_none {alert : CanonicalAlert} (none : alert.asset = none) (self : AssetInventory) :
    apply_asset_inventory casefold alert (some self) = alert := by
  unfold apply_asset_inventory
  rw [none]

private theorem apply_some {alert : CanonicalAlert} {asset : CanonicalAsset} (own : alert.asset = some asset)
    (self : AssetInventory) :
    apply_asset_inventory casefold alert (some self) =
      match self.lookup casefold (some alert.source_event.agent.id) alert.source_event.agent.ip asset.name with
      | none => alert
      | some record => { alert with asset := some (update asset record) } := by
  unfold apply_asset_inventory
  rw [own]

/-- What the inventory does to an alert: nothing, or an update from the record that its lookup finds. -/
private theorem apply_cases (casefold : String → String) (alert : CanonicalAlert) (inventory : Option AssetInventory) :
    apply_asset_inventory casefold alert inventory = alert ∨
      ∃ self asset record, inventory = some self ∧ alert.asset = some asset ∧
        self.lookup casefold (some alert.source_event.agent.id) alert.source_event.agent.ip asset.name = some record ∧
        apply_asset_inventory casefold alert inventory = { alert with asset := some (update asset record) } := by
  cases inventory with
  | none => exact .inl rfl
  | some self =>
    cases own : alert.asset with
    | none => exact .inl (apply_none own self)
    | some asset =>
      cases found : self.lookup casefold (some alert.source_event.agent.id) alert.source_event.agent.ip asset.name with
      | none => exact .inl (by rw [apply_some own, found])
      | some record => exact .inr ⟨self, asset, record, rfl, rfl, found, by rw [apply_some own, found]⟩

private theorem apply_fills (casefold : String → String) (alert : CanonicalAlert) (inventory : Option AssetInventory) :
    OnlyFills alert (apply_asset_inventory casefold alert inventory) := by
  rcases apply_cases casefold alert inventory with same | ⟨self, asset, record, -, own, -, updated⟩
  · rw [same]
    exact .refl alert
  · rw [updated]
    refine ⟨rfl, fun none => absurd (own.symm.trans none) (Option.some_ne_none asset), fun asset' own' => ?_⟩
    cases Option.some.inj (own.symm.trans own')
    exact ⟨_, rfl, fill_kept _ _, fill_kept _ _, fill_kept _ _⟩

private theorem apply_twice (casefold : String → String) (alert : CanonicalAlert) (inventory : Option AssetInventory) :
    apply_asset_inventory casefold (apply_asset_inventory casefold alert inventory) inventory =
      apply_asset_inventory casefold alert inventory := by
  rcases apply_cases casefold alert inventory with same | ⟨self, asset, record, rfl, own, found, updated⟩
  · rw [same, same]
  · have again : self.lookup casefold (some alert.source_event.agent.id) alert.source_event.agent.ip
        (update asset record).name = some record := lookup_filled found
    rw [updated, apply_some rfl, again]
    dsimp only
    rw [update_again]

/-- The tier and the owner of the asset of an alert. -/
def tier_and_owner (alert : CanonicalAlert) : Option (Option String × Option String) :=
  alert.asset.map (fun asset => (asset.tier, asset.owner))

private theorem apply_perm {self other : AssetInventory} (apart : Apart casefold self.assets)
    (apart' : Apart casefold other.assets)
    (perm : (other.assets.map (folded casefold)).Perm (self.assets.map (folded casefold))) (alert : CanonicalAlert) :
    tier_and_owner (apply_asset_inventory casefold alert (some other)) =
      tier_and_owner (apply_asset_inventory casefold alert (some self)) := by
  cases own : alert.asset with
  | none => rw [apply_none own, apply_none own]
  | some asset =>
    have same := lookup_perm apart apart' perm (some alert.source_event.agent.id) alert.source_event.agent.ip asset.name
    rw [apply_some own, apply_some own]
    cases found : self.lookup casefold (some alert.source_event.agent.id) alert.source_event.agent.ip asset.name with
    | none =>
      rw [found, Option.map_none, Option.map_eq_none_iff] at same
      rw [same]
    | some record =>
      rw [found, Option.map_some, Option.map_eq_some_iff] at same
      obtain ⟨record', found', content⟩ := same
      obtain ⟨-, tier, owner, -, -⟩ := AssetRecord.mk.inj content
      rw [found']
      simp only [tier_and_owner, update, Option.map_some, tier, owner]

/-! ### The order of the assets -/

/-- Both are refused, or both accepted and every alert gets the same tier and owner. -/
inductive Agree (casefold : String → String) : Except String AssetInventory → Except String AssetInventory → Prop
  | accepted {a b : AssetInventory} (dropped : a.duplicates_collapsed = b.duplicates_collapsed)
      (applied : ∀ alert, tier_and_owner (apply_asset_inventory casefold alert (some a)) =
        tier_and_owner (apply_asset_inventory casefold alert (some b))) : Agree casefold (.ok a) (.ok b)
  | refused {message message' : String} : Agree casefold (.error message) (.error message')

private theorem asset_inventory_from_mapping_iff {py : Display} {items : List Yaml} {inventory : AssetInventory} :
    asset_inventory_from_mapping py casefold (document KIND items) = .ok inventory ↔ items.length ≤ MAX_ASSETS ∧
      ∃ pass, Collapsing.read (parse_asset py) (add_asset py casefold) 0 items {} = .ok pass ∧
        inventory = ⟨KIND.version, pass.parsed, pass.duplicates_collapsed⟩ := by
  unfold asset_inventory_from_mapping
  rw [bind_ok, top_level_document py (by decide)]
  by_cases many : items.length > KIND.maximum
  · rw [if_pos many]
    exact iff_of_false (fun ⟨_, listed, _⟩ => by cases listed) (fun few => Nat.not_lt.mpr few.1 many)
  · rw [if_neg many]
    constructor
    · rintro ⟨listed, found, accepted⟩
      cases found
      obtain ⟨pass, done, made⟩ := bind_ok.mp accepted
      cases made
      exact ⟨Nat.not_lt.mp many, pass, done, rfl⟩
    · rintro ⟨-, pass, done, rfl⟩
      exact ⟨items, rfl, bind_ok.mpr ⟨pass, done, rfl⟩⟩

/-- In an accepted inventory whatever an asset claims is its own. -/
private theorem accepted_apart {py : Display} {items : List Yaml} {inventory : AssetInventory}
    (accepted : asset_inventory_from_mapping py casefold (document KIND items) = .ok inventory) :
    (inventory.assets.map (folded casefold)).Nodup ∧ Apart casefold inventory.assets := by
  obtain ⟨-, pass, done, rfl⟩ := asset_inventory_from_mapping_iff.mp accepted
  obtain ⟨elements, -, unambiguous, collapsed⟩ := (asset_reader py casefold).sound (claimed_empty casefold) rfl done
  refine ⟨collapsed.once, fun a left b right shared => collapsed.eq_of_view left right ?_⟩
  exact unambiguous a (collapsed.members a left) b (collapsed.members b right) shared

/-- An inventory that is accepted is accepted in every order, and does the same. -/
private theorem accepted_reordered {py : Display} {items items' : List Yaml} (perm : items'.Perm items)
    {inventory : AssetInventory}
    (accepted : asset_inventory_from_mapping py casefold (document KIND items) = .ok inventory) :
    ∃ other, asset_inventory_from_mapping py casefold (document KIND items') = .ok other ∧
      Agree casefold (.ok other) (.ok inventory) := by
  have apart := (accepted_apart accepted).2
  obtain ⟨few, pass, done, rfl⟩ := asset_inventory_from_mapping_iff.mp accepted
  obtain ⟨pass', done', dropped, kept⟩ := (asset_reader py casefold).perm (claimed_empty casefold) rfl done perm
  have accepted' := (@asset_inventory_from_mapping_iff casefold py items' _).mpr
    ⟨perm.length_eq ▸ few, pass', done', rfl⟩
  exact ⟨_, accepted', .accepted dropped (apply_perm apart (accepted_apart accepted').2 kept)⟩
end

/-- In an accepted inventory no two assets share a name, an agent or an address; whether it is accepted and the tiers
and owners that alerts get do not depend on the order of the assets; and it only fills in what is missing, once. -/
theorem inventory_order (py : Display) (casefold : String → String) (items : List Yaml) :
    (∀ inventory, asset_inventory_from_mapping py casefold (document KIND items) = .ok inventory →
      inventory.assets.Pairwise (fun a b => ¬ Shares (folded casefold a) (folded casefold b))) ∧
    (∀ items', items'.Perm items → Agree casefold (asset_inventory_from_mapping py casefold (document KIND items'))
      (asset_inventory_from_mapping py casefold (document KIND items))) ∧
    ∀ inventory alert, OnlyFills alert (apply_asset_inventory casefold alert inventory) ∧
      apply_asset_inventory casefold (apply_asset_inventory casefold alert inventory) inventory =
        apply_asset_inventory casefold alert inventory := by
  refine ⟨fun inventory accepted => ?_, fun items' perm => ?_, fun inventory alert => ?_⟩
  · obtain ⟨once, apart⟩ := accepted_apart accepted
    exact once.of_map.imp_of_mem (fun left right different shared => different (apart _ left _ right shared))
  · rcases both_or_neither (fun inventory accepted => accepted_reordered perm accepted)
        (fun other accepted => (accepted_reordered perm.symm accepted).imp (fun _ both => both.1)) with
      ⟨inventory, other, left, right, agree⟩ | ⟨message, message', left, right⟩
    · rw [left, right]
      exact agree
    · rw [left, right]
      exact .refused
  · exact ⟨apply_fills casefold alert inventory, apply_twice casefold alert inventory⟩

/-- An asset and the same in capitals. -/
example : (asset_inventory_from_mapping ⟨fun _ => "", fun _ => ""⟩ (fun name => String.ofList (name.toList.map Char.toLower))
    (document KIND [.map [(.str "name", .str "db-1"), (.str "tier", .str "gold"), (.str "ips", .seq [.str "203.0.113.7"])],
      .map [(.str "name", .str " DB-1"), (.str "tier", .str "gold"), (.str "ips", .seq [.str "203.0.113.7 "])]])).map
    AssetInventory.duplicates_collapsed = .ok 1 := by
  decide +kernel

end SocTriage.Assets
