import Mathlib.Data.Prod.Lex
import SocTriage.Collapsing
import SocTriage.Config
import SocTriage.DottedQuad
import SocTriage.Lifecycle
import SocTriage.SharedEvidence

/-!
The static allowlist. Its entries are read in one pass that collapses the ones that are equal once
normalized and refuses those that claim the same id or indicator, so that neither whether it is
accepted nor what it matches depends on their order.
-/
namespace SocTriage.Allowlists
open Normalize Config
open Collapsing (keep Unambiguous Collapsed Reads Reader both_or_neither)
open Evidence (key_inj)

def MAX_ALLOWLIST_ENTRIES : Nat := 10000

def KIND : Kind :=
  { label := "allowlist", name := "entries", version := "allowlist.v1", maximum := MAX_ALLOWLIST_ENTRIES }

/-! ### Networks -/

/-- An IPv4 network: the bits of its address beyond the prefix are zero. -/
structure IPv4Network where
  network_address : Nat
  prefixlen : Nat
  bounded : network_address < 2 ^ 32
  short : prefixlen ≤ 32
  aligned : network_address % 2 ^ (32 - prefixlen) = 0
deriving DecidableEq

/-- The network of an address and a length; host bits are dropped, as `strict=False` has it. -/
def IPv4Network.of (address prefixlen : Nat) (bounded : address < 2 ^ 32) (short : prefixlen ≤ 32) : IPv4Network where
  network_address := address / 2 ^ (32 - prefixlen) * 2 ^ (32 - prefixlen)
  prefixlen := prefixlen
  bounded := Nat.lt_of_le_of_lt (Nat.div_mul_le_self _ _) bounded
  short := short
  aligned := Nat.mul_mod_left _ _

/-- A mask of so many ones. -/
def netmask (prefixlen : Nat) : Nat := 2 ^ 32 - 2 ^ (32 - prefixlen)

def prefix_from_ip_int (ip : Nat) : Option Nat := (List.range 33).find? (fun prefixlen => netmask prefixlen = ip)

/-- The length in decimal digits, of which `int` takes at most 4300. -/
def prefix_from_prefix_string (mask : List Char) : Option Nat :=
  if 4300 < mask.length then none else (Text.parse_decimal mask).filter (fun prefixlen => prefixlen ≤ 32)

/-- The length of a dotted-quad mask, or of one with its bits the other way. -/
def prefix_from_ip_string (mask : List Char) : Option Nat :=
  (IPv4Address mask).bind (fun ip => (prefix_from_ip_int ip).or (prefix_from_ip_int (2 ^ 32 - 1 - ip)))

def make_netmask (mask : List Char) : Option Nat := (prefix_from_prefix_string mask).or (prefix_from_ip_string mask)

private theorem prefix_from_ip_int_le {ip prefixlen : Nat} (found : prefix_from_ip_int ip = some prefixlen) :
    prefixlen ≤ 32 :=
  Nat.lt_succ_iff.mp (List.mem_range.mp (List.mem_of_find?_eq_some found))

theorem make_netmask_le {mask : List Char} {prefixlen : Nat} (found : make_netmask mask = some prefixlen) :
    prefixlen ≤ 32 := by
  rcases Option.or_eq_some_iff.mp found with digits | ⟨-, quad⟩
  · rw [prefix_from_prefix_string] at digits
    split at digits
    · cases digits
    · exact of_decide_eq_true (Option.filter_eq_some_iff.mp digits).2
  · obtain ⟨ip, -, length⟩ := Option.bind_eq_some_iff.mp quad
    rcases Option.or_eq_some_iff.mp length with mask | ⟨-, hostmask⟩
    · exact prefix_from_ip_int_le mask
    · exact prefix_from_ip_int_le hostmask

/-- `ipaddress.IPv4Network(text, strict=False)`; `none` for `ValueError`. -/
def IPv4Network.parse (text : List Char) : Option IPv4Network :=
  match text.splitOn '/' with
  | [addr] =>
    match read : IPv4Address addr with
    | some address => some (.of address 32 (DottedQuad.IPv4Address_lt read) (Nat.le_refl 32))
    | none => none
  | [addr, mask] =>
    match read : IPv4Address addr, found : make_netmask mask with
    | some address, some prefixlen => some (.of address prefixlen (DottedQuad.IPv4Address_lt read) (make_netmask_le found))
    | _, _ => none
  | _ => none

/-- `str(network)`. -/
def IPv4Network.str (self : IPv4Network) : String :=
  String.ofList (ipv4_str self.network_address ++ '/' :: decimal self.prefixlen)

/-- `address in network`. -/
def IPv4Network.contains (self : IPv4Network) (address : Nat) : Bool :=
  address / 2 ^ (32 - self.prefixlen) * 2 ^ (32 - self.prefixlen) = self.network_address

/-! ### Entries -/

structure AllowlistEntry where
  id : String
  type : IOCType
  value : String
  reason : String := ""
  network : Option IPv4Network := none
deriving DecidableEq

/-- `f"{entry.type.value}:{entry.value}"`. -/
def entry_key (entry : AllowlistEntry) : String := entry.type.value ++ ":" ++ entry.value

/-- `_ID_RE` matches the whole text. -/
def is_id (text : String) : Bool :=
  let first (c : Char) : Bool := ('a' ≤ c && c ≤ 'z') || ('0' ≤ c && c ≤ '9')
  match text.toList with
  | [] => false
  | c :: rest => first c && rest.length ≤ 63 && rest.all (fun c => first c || c = '_' || c = '-')

/-- `IOCType(value)`; `none` for `ValueError`. -/
def indicator_type (value : String) : Option IOCType :=
  [IOCType.IPV4, .DOMAIN, .URL, .MD5, .SHA1, .SHA256, .EMAIL].find? (fun type => type.value = value)

section
variable (library : Library) (py : Display)

/-- The value of an indicator in its normal form, for every type but the addresses. -/
def normalized (raw : List Char) : IOCType → Option (List Char)
  | .IPV4 => none
  | .DOMAIN => normalize_domain library raw
  | .URL => normalize_url library raw
  | .MD5 => normalize_hash library raw (some .MD5)
  | .SHA1 => normalize_hash library raw (some .SHA1)
  | .SHA256 => normalize_hash library raw (some .SHA256)
  | .EMAIL => normalize_email library raw

def normalize_value (value : String) (type : IOCType) : Except String (String × Option IPv4Network) :=
  let raw := (Text.strip value).toList
  if raw = [] then .error (KIND.error "value must be a non-empty string")
  else if type = .IPV4 then
    if '/' ∈ raw then
      match IPv4Network.parse raw with
      | none => .error (KIND.error ("invalid IPv4 CIDR " ++ py.repr (.str value)))
      | some network =>
        if network.prefixlen = 0 then .error (KIND.error "IPv4 /0 allowlist entries are forbidden")
        else .ok (network.str, some network)
    else
      match IPv4Address raw with
      | none => .error (KIND.error ("invalid IPv4 address " ++ py.repr (.str value)))
      | some address => .ok (String.ofList (ipv4_str address), none)
  else
    match normalized library raw type with
    | none => .error (KIND.error ("value " ++ py.repr (.str value) ++ " is invalid for IOC type " ++ type.value))
    | some value => .ok (String.ofList value, none)

def parse_id (fields : List (Yaml × Yaml)) (index : Nat) : Except String String :=
  let refused (raw : Yaml) : Except String String := .error (KIND.error ("entry " ++ toString index ++ " has invalid id " ++
    py.repr raw ++ "; expected lowercase letters, digits, '_' or '-'; max 64 chars"))
  match field "id" fields with
  | .str entry_id => if is_id entry_id then .ok entry_id else refused (.str entry_id)
  | raw => refused raw

def parse_type (entry_id : String) (fields : List (Yaml × Yaml)) : Except String IOCType :=
  let refused (raw : Yaml) : Except String IOCType :=
    .error (KIND.error ("entry " ++ entry_id ++ ": invalid IOC type " ++ py.repr raw))
  match field "type" fields with
  | .str raw_type =>
    match indicator_type raw_type with
    | some type => .ok type
    | none => refused (.str raw_type)
  | raw => refused raw

/-- A text of an entry, of at most so many characters if there is a limit. -/
def parse_text (entry_id name : String) (limit : Option Nat) : Yaml → Except String String
  | .str text =>
    match limit with
    | some limit =>
      if text.length > limit then
        .error (KIND.error ("entry " ++ entry_id ++ ": " ++ name ++ " exceeds " ++ toString limit ++ " characters"))
      else .ok text
    | none => .ok text
  | _ => .error (KIND.error ("entry " ++ entry_id ++ ": " ++ name ++ " must be a string"))

/-- What follows the id of an entry. -/
def parse_rest (entry_id : String) (fields : List (Yaml × Yaml)) : Except String AllowlistEntry := do
  let type ← parse_type py entry_id fields
  let raw_value ← parse_text entry_id "value" none (field "value" fields)
  let reason ← parse_text entry_id "reason" (some 200) ((get "reason" fields).getD (.str ""))
  let (value, network) ← (normalize_value library py raw_value type).mapError
    (fun message => KIND.error ("entry " ++ entry_id ++ ": " ++ message))
  return { id := entry_id, type, value, reason, network }

def parse_entry (raw : Yaml) (index : Nat) : Except String AllowlistEntry :=
  match raw with
  | .map fields =>
    match parse_id py fields index with
    | .error message => .error message
    | .ok entry_id => parse_rest library py entry_id fields
  | _ => .error (KIND.error ("entry " ++ toString index ++ " must be a mapping"))
end

/-! ### The pass over the entries -/

/-- A dictionary of entries. -/
abbrev Seen := Table (Prod.fst : String × AllowlistEntry → String)

structure Pass where
  parsed : List AllowlistEntry := []
  seen_ids : Seen := Table.empty
  seen_keys : Seen := Table.empty
  duplicates_collapsed : Nat := 0

def add_entry (py : Display) (pass : Pass) (entry : AllowlistEntry) : Except String Pass :=
  match pass.seen_ids.get entry.id with
  | some (_, existing_id) =>
    if existing_id = entry then .ok { pass with duplicates_collapsed := pass.duplicates_collapsed + 1 }
    else .error (KIND.error ("duplicate id " ++ py.repr (.str entry.id) ++ " contains conflicting entries"))
  | none =>
    match pass.seen_keys.get (entry_key entry) with
    | some (_, existing_key) =>
      if existing_key = entry then
        .ok { pass with
          duplicates_collapsed := pass.duplicates_collapsed + 1
          seen_ids := pass.seen_ids.put (entry.id, existing_key) }
      else
        .error (KIND.error ("entries " ++ py.repr (.str existing_key.id) ++ " and " ++ py.repr (.str entry.id) ++
          " claim the same normalized IOC key " ++ py.repr (.str (entry_key entry))))
    | none =>
      .ok { pass with
        seen_ids := pass.seen_ids.put (entry.id, entry)
        seen_keys := pass.seen_keys.put (entry_key entry, entry)
        parsed := pass.parsed ++ [entry] }

structure Allowlist where
  version : String
  entries : List AllowlistEntry
  duplicates_collapsed : Nat := 0

def allowlist_from_mapping (library : Library) (py : Display) (raw : Yaml) : Except String Allowlist := do
  let entries_raw ← top_level py KIND raw
  let pass ← Collapsing.read (parse_entry library py) (add_entry py) 0 entries_raw {}
  return { version := KIND.version, entries := pass.parsed, duplicates_collapsed := pass.duplicates_collapsed }

/-! ### Lookup -/

/-- What the networks are sorted by: the address, then the length of the prefix, then the id of the entry. -/
def place (item : IPv4Network × AllowlistEntry) : ℕ ×ₗ ℕ ×ₗ String :=
  toLex (item.1.network_address, toLex (item.1.prefixlen, item.2.id))

/-- The index of the entries that are no networks. -/
def Allowlist.by_key (self : Allowlist) : Table entry_key :=
  (self.entries.filter (fun entry => entry.network.isNone)).foldl Table.put Table.empty

def networked (entry : AllowlistEntry) : Option (IPv4Network × AllowlistEntry) :=
  entry.network.map (fun network => (network, entry))

/-- The networks with their entries, in order. -/
def Allowlist.networks (self : Allowlist) : List (IPv4Network × AllowlistEntry) :=
  (self.entries.filterMap networked).insertionSort (fun a b => place a ≤ place b)

/-- `match`: the entry of the indicator, or else the first network of its address. -/
def Allowlist.match_ioc (self : Allowlist) (ioc : IOC) : Option AllowlistEntry :=
  match self.by_key.get (ioc_key ioc) with
  | some exact => some exact
  | none =>
    if ioc.type ≠ .IPV4 then none
    else
      match IPv4Address ioc.value.toList with
      | none => none
      | some address => (self.networks.find? (fun item => item.1.contains address)).map Prod.snd

/-! ### What is accepted -/

/-- Both claim one id, or one type and value. -/
def Shares (a b : AllowlistEntry) : Prop := a.id = b.id ∨ entry_key a = entry_key b

instance : DecidableRel Shares := fun _ _ => inferInstanceAs (Decidable (_ ∨ _))

private theorem shares_symm (a b : AllowlistEntry) (shared : Shares a b) : Shares b a := shared.imp Eq.symm Eq.symm

/-- The items are valid entries, which read as these. -/
def Normalizes (library : Library) (py : Display) (items : List Yaml) (entries : List AllowlistEntry) : Prop :=
  Reads (parse_entry library py) items entries

section
variable {library : Library} {py : Display}

/-- Only a message tells where in the file an entry is. -/
private theorem parse_entry_index {item : Yaml} {index : Nat} {entry : AllowlistEntry}
    (parsed : parse_entry library py item index = .ok entry) (other : Nat) :
    parse_entry library py item other = .ok entry := by
  cases item with
  | map fields =>
    unfold parse_entry at parsed ⊢
    dsimp only at parsed ⊢
    unfold parse_id at parsed ⊢
    cases raw : field "id" fields with
    | str entry_id =>
      rw [raw] at parsed
      dsimp only at parsed ⊢
      split at parsed
      · cases parsed
      · rename_i valid
        split at valid
        · rename_i fine
          rw [if_pos fine]
          cases valid
          exact parsed
        · cases valid
    | null => rw [raw] at parsed; cases parsed
    | scalar _ => rw [raw] at parsed; cases parsed
    | seq _ => rw [raw] at parsed; cases parsed
    | map _ => rw [raw] at parsed; cases parsed
  | null => cases parsed
  | scalar _ => cases parsed
  | str _ => cases parsed
  | seq _ => cases parsed

/-- The dictionaries of a pass lead to the entries it has kept. -/
private structure Tracks (pass : Pass) : Prop where
  ids : ∀ id entry, (pass.seen_ids.get id).map Prod.snd = some entry ↔ entry ∈ pass.parsed ∧ entry.id = id
  keys : ∀ key entry, (pass.seen_keys.get key).map Prod.snd = some entry ↔ entry ∈ pass.parsed ∧ entry_key entry = key

private def output (pass : Pass) : List AllowlistEntry × Nat := (pass.parsed, pass.duplicates_collapsed)

/-- One entry is kept, dropped or refused as the pass of the library has it. -/
private theorem add_entry_spec (py : Display) {pass : Pass} (tracks : Tracks pass) (entry : AllowlistEntry) :
    match add_entry py pass entry with
    | .ok next => Tracks next ∧ keep id Shares (output pass) entry = some (output next)
    | .error _ => keep id Shares (output pass) entry = none := by
  unfold add_entry
  cases by_id : pass.seen_ids.get entry.id with
  | some found =>
    obtain ⟨k, existing⟩ := found
    obtain ⟨inside, same_id⟩ := (tracks.ids entry.id existing).mp (by rw [by_id]; rfl)
    dsimp only
    by_cases equal : existing = entry
    · rw [if_pos equal]
      exact ⟨⟨tracks.ids, tracks.keys⟩, Collapsing.keep_again inside equal⟩
    · rw [if_neg equal]
      refine Collapsing.keep_clash (fun k listed same => ?_) inside (.inl same_id)
      have known := (tracks.ids entry.id k).mpr ⟨listed, congrArg AllowlistEntry.id same⟩
      rw [by_id, Option.map_some, Option.some.injEq] at known
      exact equal (known.trans same)
  | none =>
    have other_id : ∀ k ∈ pass.parsed, k.id ≠ entry.id := by
      intro k listed same
      have known := (tracks.ids entry.id k).mpr ⟨listed, same⟩
      rw [by_id] at known
      cases known
    have new : ∀ k ∈ pass.parsed, k ≠ entry := fun k listed same => other_id k listed (congrArg _ same)
    dsimp only
    cases by_key : pass.seen_keys.get (entry_key entry) with
    | some found =>
      obtain ⟨k, existing⟩ := found
      obtain ⟨inside, same_key⟩ := (tracks.keys (entry_key entry) existing).mp (by rw [by_key]; rfl)
      dsimp only
      rw [if_neg (new existing inside)]
      exact Collapsing.keep_clash new inside (.inr same_key)
    | none =>
      have other_key : ∀ k ∈ pass.parsed, entry_key k ≠ entry_key entry := by
        intro k listed same
        have known := (tracks.keys (entry_key entry) k).mpr ⟨listed, same⟩
        rw [by_key] at known
        cases known
      exact ⟨⟨Table.get_put_listed tracks.ids by_id, Table.get_put_listed tracks.keys by_key⟩,
        Collapsing.keep_new new (fun k listed shared => shared.elim (other_id k listed) (other_key k listed))⟩

private theorem reader (library : Library) (py : Display) :
    Reader (parse_entry library py) (add_entry py) id Shares output Tracks where
  anywhere parsed := parse_entry_index parsed
  symm := shares_symm
  adds := by
    intro pass entry next tracks added
    have spec := add_entry_spec py tracks entry
    rwa [added] at spec
  refuses := by
    intro pass entry message tracks refused
    have spec := add_entry_spec py tracks entry
    rwa [refused] at spec

private theorem tracks_empty : Tracks {} := by
  constructor
  all_goals
    intro k entry
    exact iff_of_false (fun found => by cases found) (fun known => List.not_mem_nil known.1)

/-- A list of entries within the limit is accepted when the loop gets through it. -/
private theorem allowlist_from_mapping_iff {items : List Yaml} (within : items.length ≤ MAX_ALLOWLIST_ENTRIES)
    {allowlist : Allowlist} :
    allowlist_from_mapping library py (document KIND items) = .ok allowlist ↔
      ∃ pass, Collapsing.read (parse_entry library py) (add_entry py) 0 items {} = .ok pass ∧
        allowlist = ⟨KIND.version, pass.parsed, pass.duplicates_collapsed⟩ := by
  have few : ¬ items.length > KIND.maximum := Nat.not_lt.mpr within
  have top : top_level py KIND (document KIND items) = .ok items := by
    rw [top_level_document py (by decide), if_neg few]
  unfold allowlist_from_mapping
  rw [bind_ok]
  constructor
  · rintro ⟨listed, found, accepted⟩
    rw [top] at found
    cases found
    obtain ⟨pass, done, made⟩ := bind_ok.mp accepted
    cases made
    exact ⟨pass, done, rfl⟩
  · rintro ⟨pass, done, rfl⟩
    exact ⟨items, top, bind_ok.mpr ⟨pass, done, rfl⟩⟩

/-! ### What is matched -/

private theorem normalize_value_network {value spelling : String} {type : IOCType} {network : Option IPv4Network}
    (normal : normalize_value library py value type = .ok (spelling, network)) :
    ∀ n, network = some n → type = .IPV4 ∧ spelling = n.str := by
  unfold normalize_value at normal
  dsimp only at normal
  split at normal
  · cases normal
  split at normal
  · rename_i address
    split at normal
    · split at normal
      · cases normal
      · split at normal
        · cases normal
        · obtain ⟨rfl, rfl⟩ := Prod.mk.inj (Except.ok.inj normal)
          rintro n same
          cases same
          exact ⟨address, rfl⟩
    · split at normal
      · cases normal
      · obtain ⟨rfl, rfl⟩ := Prod.mk.inj (Except.ok.inj normal)
        exact fun n found => by cases found
  · split at normal
    · cases normal
    · obtain ⟨rfl, rfl⟩ := Prod.mk.inj (Except.ok.inj normal)
      exact fun n found => by cases found

/-- The value of a network entry is the network. -/
private theorem parse_entry_network {item : Yaml} {index : Nat} {entry : AllowlistEntry}
    (parsed : parse_entry library py item index = .ok entry) :
    ∀ n, entry.network = some n → entry.type = .IPV4 ∧ entry.value = n.str := by
  cases item with
  | map fields =>
    unfold parse_entry at parsed
    dsimp only at parsed
    split at parsed
    · cases parsed
    · unfold parse_rest at parsed
      obtain ⟨type, _, parsed⟩ := bind_ok.mp parsed
      obtain ⟨raw_value, _, parsed⟩ := bind_ok.mp parsed
      obtain ⟨reason, _, parsed⟩ := bind_ok.mp parsed
      obtain ⟨⟨value, network⟩, normal, parsed⟩ := bind_ok.mp parsed
      cases parsed
      cases made : normalize_value library py raw_value type with
      | error message => rw [made] at normal; cases normal
      | ok pair =>
        rw [made] at normal
        cases normal
        exact normalize_value_network made
  | null => cases parsed
  | scalar _ => cases parsed
  | str _ => cases parsed
  | seq _ => cases parsed

/-- Entries of which each is known by its key, and the networks among them by their value. -/
private structure Coherent (entries : List AllowlistEntry) : Prop where
  once : entries.Nodup
  keys : ∀ e ∈ entries, ∀ e' ∈ entries, entry_key e = entry_key e' → e = e'
  spelled : ∀ e ∈ entries, ∀ n, e.network = some n → e.type = .IPV4 ∧ e.value = n.str

private theorem Coherent.perm {entries entries' : List AllowlistEntry} (coherent : Coherent entries)
    (perm : entries'.Perm entries) : Coherent entries' where
  once := perm.nodup_iff.mpr coherent.once
  keys e inside e' inside' := coherent.keys e (perm.subset inside) e' (perm.subset inside')
  spelled e inside := coherent.spelled e (perm.subset inside)

private theorem by_key_get {self : Allowlist} (coherent : Coherent self.entries) (key : String) (entry : AllowlistEntry) :
    self.by_key.get key = some entry ↔ entry ∈ self.entries ∧ entry.network = none ∧ entry_key entry = key := by
  have distinct : ((self.entries.filter (fun entry => entry.network.isNone)).map entry_key).Nodup := by
    refine List.Nodup.map_on (fun e inside e' inside' => ?_) (coherent.once.filter _)
    exact coherent.keys e (List.mem_filter.mp inside).1 e' (List.mem_filter.mp inside').1
  have rows : self.by_key.rows = self.entries.filter (fun entry => entry.network.isNone) :=
    Table.rows_foldl_put _ Table.empty distinct
  rw [Table.get_eq_some, rows, List.mem_filter, Option.isNone_iff_eq_none, and_assoc]

private theorem mem_networks {self : Allowlist} {item : IPv4Network × AllowlistEntry} :
    item ∈ self.networks ↔ item.2 ∈ self.entries ∧ item.2.network = some item.1 := by
  rw [Allowlist.networks, List.mem_insertionSort, List.mem_filterMap]
  constructor
  · rintro ⟨entry, inside, made⟩
    obtain ⟨network, own, rfl⟩ := Option.map_eq_some_iff.mp made
    exact ⟨inside, own⟩
  · rintro ⟨inside, own⟩
    exact ⟨item.2, inside, by rw [networked, own]; rfl⟩

/-- Two networks of the allowlist are never in the same place. -/
private theorem place_inj {self : Allowlist} (coherent : Coherent self.entries) {a b : IPv4Network × AllowlistEntry}
    (left : a ∈ self.networks) (right : b ∈ self.networks) (same : place a = place b) : a = b := by
  obtain ⟨network, entry⟩ := a
  obtain ⟨network', entry'⟩ := b
  obtain ⟨inside, own⟩ := mem_networks.mp left
  obtain ⟨inside', own'⟩ := mem_networks.mp right
  obtain ⟨addresses, rest⟩ := Prod.mk.inj (toLex.injective same)
  obtain ⟨prefixes, _⟩ := Prod.mk.inj (toLex.injective rest)
  have networks : network = network' := by
    cases network
    cases network'
    simp only [IPv4Network.mk.injEq]
    exact ⟨addresses, prefixes⟩
  subst networks
  obtain ⟨type, value⟩ := coherent.spelled entry inside network own
  obtain ⟨type', value'⟩ := coherent.spelled entry' inside' network own'
  have keys : entry_key entry = entry_key entry' := by rw [entry_key, entry_key, type, type', value, value']
  rw [coherent.keys entry inside entry' inside' keys]

instance : Std.Total (fun a b : IPv4Network × AllowlistEntry => place a ≤ place b) where
  total a b := le_total (place a) (place b)

instance : IsTrans (IPv4Network × AllowlistEntry) (fun a b => place a ≤ place b) where
  trans _ _ _ first second := le_trans first second

private theorem networks_perm {self other : Allowlist} (coherent : Coherent self.entries)
    (perm : other.entries.Perm self.entries) : other.networks = self.networks := by
  have same : other.networks.Perm self.networks :=
    (List.perm_insertionSort _ _).trans ((perm.filterMap networked).trans (List.perm_insertionSort _ _).symm)
  refine List.Perm.eq_of_pairwise ?_ (List.pairwise_insertionSort _ _) (List.pairwise_insertionSort _ _) same
  intro a b left right first second
  exact place_inj coherent (same.subset left) right (le_antisymm first second)

/-- The order of the entries does not matter to what is matched. -/
private theorem match_perm {self other : Allowlist} (coherent : Coherent self.entries)
    (perm : other.entries.Perm self.entries) (ioc : IOC) : other.match_ioc ioc = self.match_ioc ioc := by
  have exact_match : other.by_key.get (ioc_key ioc) = self.by_key.get (ioc_key ioc) := by
    refine Option.ext (fun entry => ?_)
    rw [by_key_get coherent, by_key_get (coherent.perm perm), perm.mem_iff]
  rw [Allowlist.match_ioc, Allowlist.match_ioc, exact_match, networks_perm coherent perm]

/-- An entry that is no network has the type and value, or a network holds the address. -/
def Listed (entries : List AllowlistEntry) (ioc : IOC) : Prop :=
  (∃ e ∈ entries, e.network = none ∧ e.type = ioc.type ∧ e.value = ioc.value) ∨
    (ioc.type = .IPV4 ∧ ∃ address, IPv4Address ioc.value.toList = some address ∧
      ∃ e ∈ entries, ∃ n, e.network = some n ∧ n.contains address = true)

private theorem match_isSome {self : Allowlist} (coherent : Coherent self.entries) (ioc : IOC) :
    (self.match_ioc ioc).isSome ↔ Listed self.entries ioc := by
  have by_value : (∃ e ∈ self.entries, e.network = none ∧ e.type = ioc.type ∧ e.value = ioc.value) ↔
      (self.by_key.get (ioc_key ioc)).isSome := by
    rw [Option.isSome_iff_exists]
    refine exists_congr (fun entry => ?_)
    rw [by_key_get coherent, entry_key, ioc_key, key_inj]
  have by_address (address : Nat) : (∃ e ∈ self.entries, ∃ n, e.network = some n ∧ n.contains address = true) ↔
      (self.networks.find? (fun item => item.1.contains address)).isSome := by
    rw [List.find?_isSome]
    constructor
    · rintro ⟨e, inside, n, own, held⟩
      exact ⟨(n, e), mem_networks.mpr ⟨inside, own⟩, held⟩
    · rintro ⟨⟨n, e⟩, inside, held⟩
      obtain ⟨inside, own⟩ := mem_networks.mp inside
      exact ⟨e, inside, n, own, held⟩
  rw [Listed, by_value, Allowlist.match_ioc]
  cases self.by_key.get (ioc_key ioc) with
  | some entry => simp
  | none =>
    by_cases address_type : ioc.type = .IPV4
    · cases read : IPv4Address ioc.value.toList with
      | none => simp [address_type]
      | some address => simp [address_type, by_address]
    · simp [address_type]

/-! ### The order of the list -/

/-- What an accepted list normalizes to, and the entries that are kept of it. -/
private structure Accepted (library : Library) (py : Display) (items : List Yaml) (entries : List AllowlistEntry)
    (allowlist : Allowlist) : Prop where
  normalizes : Normalizes library py items entries
  unambiguous : Unambiguous id Shares entries
  collapsed : Collapsed id entries allowlist.entries allowlist.duplicates_collapsed

private theorem accepted_of_ok {items : List Yaml} (within : items.length ≤ MAX_ALLOWLIST_ENTRIES) {allowlist : Allowlist}
    (accepted : allowlist_from_mapping library py (document KIND items) = .ok allowlist) :
    ∃ entries, Accepted library py items entries allowlist := by
  obtain ⟨pass, done, rfl⟩ := (allowlist_from_mapping_iff within).mp accepted
  obtain ⟨entries, normalizes, unambiguous, collapsed⟩ := (reader library py).sound tracks_empty rfl done
  exact ⟨entries, normalizes, unambiguous, collapsed⟩

private theorem Accepted.coherent {items : List Yaml} {entries : List AllowlistEntry} {allowlist : Allowlist}
    (accepted : Accepted library py items entries allowlist) : Coherent allowlist.entries where
  once := by
    have once := accepted.collapsed.once
    rwa [List.map_id] at once
  keys e inside e' inside' same :=
    accepted.unambiguous e (accepted.collapsed.members e inside) e' (accepted.collapsed.members e' inside') (.inr same)
  spelled e inside := by
    obtain ⟨item, parses⟩ := Reads.parsed accepted.normalizes e (accepted.collapsed.members e inside)
    exact parse_entry_network (parses 0)

private theorem Accepted.listed {items : List Yaml} {entries : List AllowlistEntry} {allowlist : Allowlist}
    (accepted : Accepted library py items entries allowlist) (ioc : IOC) :
    Listed allowlist.entries ioc ↔ Listed entries ioc := by
  have same (e : AllowlistEntry) : e ∈ allowlist.entries ↔ e ∈ entries := by
    have views := accepted.collapsed.views e
    rwa [List.map_id, List.map_id] at views
  simp only [Listed, same]

/-- Both are refused, or both accepted with as many entries dropped and the same match for every indicator. -/
inductive Agree : Except String Allowlist → Except String Allowlist → Prop
  | accepted {a b : Allowlist} (dropped : a.duplicates_collapsed = b.duplicates_collapsed)
      (matched : ∀ ioc, a.match_ioc ioc = b.match_ioc ioc) : Agree (.ok a) (.ok b)
  | refused {message message' : String} : Agree (.error message) (.error message')

/-- A list that is accepted is accepted in every order. -/
private theorem accepted_perm {items items' : List Yaml} (within : items.length ≤ MAX_ALLOWLIST_ENTRIES)
    (perm : items'.Perm items) {allowlist : Allowlist}
    (accepted : allowlist_from_mapping library py (document KIND items) = .ok allowlist) :
    ∃ other, allowlist_from_mapping library py (document KIND items') = .ok other ∧ Agree (.ok other) (.ok allowlist) := by
  obtain ⟨entries, listed⟩ := accepted_of_ok within accepted
  obtain ⟨pass, done, rfl⟩ := (allowlist_from_mapping_iff within).mp accepted
  obtain ⟨pass', done', dropped, kept⟩ := (reader library py).perm tracks_empty rfl done perm
  rw [List.map_id, List.map_id] at kept
  have within' : items'.length ≤ MAX_ALLOWLIST_ENTRIES := perm.length_eq ▸ within
  exact ⟨_, (allowlist_from_mapping_iff within').mpr ⟨pass', done', rfl⟩,
    .accepted dropped (match_perm listed.coherent kept)⟩

/-- A list within the limit is accepted when its entries are valid and those that share an id or a key are equal;
neither this, the count nor a match depends on the order; and an indicator is matched when it is listed. -/
theorem allowlist_order (library : Library) (py : Display) (items : List Yaml)
    (within : items.length ≤ MAX_ALLOWLIST_ENTRIES) :
    ((∃ allowlist, allowlist_from_mapping library py (document KIND items) = .ok allowlist) ↔
      ∃ entries, Normalizes library py items entries ∧ ∀ e ∈ entries, ∀ e' ∈ entries, Shares e e' → e = e') ∧
    (∀ items', items'.Perm items → Agree (allowlist_from_mapping library py (document KIND items'))
      (allowlist_from_mapping library py (document KIND items))) ∧
    ∀ allowlist, allowlist_from_mapping library py (document KIND items) = .ok allowlist →
      ∃ entries, Normalizes library py items entries ∧ ∀ ioc, (allowlist.match_ioc ioc).isSome ↔ Listed entries ioc := by
  refine ⟨⟨?_, ?_⟩, fun items' perm => ?_, fun allowlist accepted => ?_⟩
  · rintro ⟨allowlist, accepted⟩
    obtain ⟨entries, listed⟩ := accepted_of_ok within accepted
    exact ⟨entries, listed.normalizes, listed.unambiguous⟩
  · rintro ⟨entries, normalizes, unambiguous⟩
    obtain ⟨pass, done, _⟩ := (reader library py).complete tracks_empty rfl normalizes unambiguous
    exact ⟨_, (allowlist_from_mapping_iff within).mpr ⟨pass, done, rfl⟩⟩
  · have within' : items'.length ≤ MAX_ALLOWLIST_ENTRIES := perm.length_eq ▸ within
    rcases both_or_neither (fun allowlist accepted => accepted_perm within perm accepted)
        (fun other accepted => (accepted_perm within' perm.symm accepted).imp (fun _ both => both.1)) with
      ⟨allowlist, other, left, right, agree⟩ | ⟨message, message', left, right⟩
    · rw [left, right]
      exact agree
    · rw [left, right]
      exact .refused
  · obtain ⟨entries, listed⟩ := accepted_of_ok within accepted
    refine ⟨entries, listed.normalizes, fun ioc => ?_⟩
    rw [match_isSome listed.coherent, listed.listed]
end

private def network_item (id value : String) : Yaml :=
  .map [(.str "id", .str id), (.str "type", .str "ipv4"), (.str "value", .str value)]

/-- Two networks, one in the other, and the first of them again in another spelling. -/
private def nested : List Yaml :=
  [network_item "office" "203.0.113.0/24", network_item "scanner" "203.0.113.64/255.255.255.192",
    network_item "office" "203.0.113.9/24"]

private theorem ascii_lower (cs : List Char) (_ : ∀ c ∈ cs, c.toNat < 128) :
    (fun cs : List Char => cs.map Char.toLower) cs = cs.map Char.toLower := rfl

private def ascii : Library where
  unicode := ⟨fun cs => cs.map Char.toLower, fun _ => true, ascii_lower⟩
  is_global _ := true
  idna _ := none

private def silent : Display := ⟨fun _ => "", fun _ => ""⟩

/-- The list of nested networks is accepted, and in the reverse order with the same matches. -/
theorem nested_reversed : (allowlist_from_mapping ascii silent (document KIND nested)).isOk = true ∧
    Agree (allowlist_from_mapping ascii silent (document KIND nested.reverse))
      (allowlist_from_mapping ascii silent (document KIND nested)) := by
  obtain ⟨-, same, -⟩ := allowlist_order ascii silent nested (by decide)
  exact ⟨by decide +kernel, same nested.reverse (List.reverse_perm nested)⟩

end SocTriage.Allowlists
