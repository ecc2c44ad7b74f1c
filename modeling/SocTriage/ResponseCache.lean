import SocTriage.Enrichment

/-!
The response cache: verdicts of earlier lookups in a table of the database, under provider and
indicator, each with the time it expires. Reading the ISO 8601 time of a record and its JSON
text are parameters. The session does not flush before a query, so what `put` counts and evicts
is the table as it stood before. SQLite keeps the wall clock of a timestamp and drops its offset.
-/
namespace SocTriage.ResponseCache
open Enrichment

/-! ### The table -/

structure EnrichmentCachePolicy where
  max_entries : Nat := 4096
  hash_ttl_seconds : Nat := 21600
  ipv4_ttl_seconds : Nat := 3600
  default_ttl_seconds : Nat := 3600
  positive : 1 ≤ max_entries ∧ 1 ≤ hash_ttl_seconds ∧ 1 ≤ ipv4_ttl_seconds ∧ 1 ≤ default_ttl_seconds := by decide

def EnrichmentCachePolicy.ttl_for (policy : EnrichmentCachePolicy) : IOCType → Int
  | .MD5 | .SHA1 | .SHA256 => seconds policy.hash_ttl_seconds
  | .IPV4 => seconds policy.ipv4_ttl_seconds
  | _ => seconds policy.default_ttl_seconds

structure EnrichmentCacheEntry where
  id : Nat
  provider : String
  indicator_type : String
  indicator_value : String
  lookup_status : String
  payload : String
  looked_at : Int
  expires_at : Int
deriving DecidableEq

/-- The columns of the unique index. -/
def EnrichmentCacheEntry.lookup (entry : EnrichmentCacheEntry) : String × String × String :=
  (entry.provider, entry.indicator_type, entry.indicator_value)

abbrev CacheTable := Table EnrichmentCacheEntry.lookup

/-- What the cache looks an indicator up by. -/
def lookup_key (provider : String) (ioc : IOC) : String × String × String := (provider, ioc.type.value, ioc.value)

/-- The id SQLite gives the next row. -/
def next_id (table : CacheTable) : Nat := (table.rows.map EnrichmentCacheEntry.id).foldl max 0 + 1

/-- The order of eviction: the time of expiry, then the id. -/
def by_expiry (a b : EnrichmentCacheEntry) : Prop :=
  a.expires_at < b.expires_at ∨ (a.expires_at = b.expires_at ∧ a.id ≤ b.id)

instance : DecidableRel by_expiry := fun _ _ => inferInstanceAs (Decidable (_ ∨ _))

/-! ### Reading and writing -/

/-- `datetime.fromisoformat`, absent for a `ValueError`, and the JSON of a record: `model_dump_json`, absent when it
    raises, and `model_validate_json`, absent for a `ValueError`. -/
structure Formats where
  fromisoformat : String → Option Datetime
  model_dump_json : LookupRecord → Option String
  model_validate_json : String → Option LookupRecord

def CACHEABLE_STATUSES : List LookupStatus := [.FOUND, .NOT_FOUND]

/-- The lookup answered, so its record may be stored. -/
def definitive (record : LookupRecord) : Bool := CACHEABLE_STATUSES.contains record.lookup_status

section
variable (formats : Formats) (policy : EnrichmentCachePolicy)

def parse_lookup_time (record : LookupRecord) (fallback : Datetime) : Datetime :=
  match formats.fromisoformat record.timestamp with
  | some time => time.as_utc
  | none => fallback

/-- A hit leaves the table as it is; a row that expired or does not read back is dropped. -/
def get (table : CacheTable) (provider : String) (ioc : IOC) (now : Datetime) : CacheTable × Option LookupRecord :=
  let dropped := table.filter (fun entry => entry.lookup ≠ lookup_key provider ioc)
  match table.get (lookup_key provider ioc) with
  | none => (table, none)
  | some entry =>
    if entry.expires_at ≤ now.instant then (dropped, none)
    else
      match formats.model_validate_json entry.payload with
      | none => (dropped, none)
      | some record => (table, some record)

/-- The row `put` writes: the row of its key, or a new one. -/
def written (table : CacheTable) (provider : String) (ioc : IOC) (record : LookupRecord) (now : Datetime)
    (payload : String) : EnrichmentCacheEntry :=
  let looked_at := parse_lookup_time formats record now
  { id := ((table.get (lookup_key provider ioc)).map EnrichmentCacheEntry.id).getD (next_id table)
    provider, indicator_type := ioc.type.value, indicator_value := ioc.value
    lookup_status := record.lookup_status.value, payload
    looked_at := looked_at.wall, expires_at := looked_at.wall + policy.ttl_for ioc.type }

/-- The rows beyond the maximum that expire first. -/
def evict_overflow (table : CacheTable) : List EnrichmentCacheEntry :=
  (table.rows.insertionSort by_expiry).take (table.rows.length - policy.max_entries)

/-- A record that cannot be written as JSON raises out of `put` before the table is touched. -/
def put (table : CacheTable) (provider : String) (ioc : IOC) (record : LookupRecord) (now : Datetime) : CacheTable :=
  if !(definitive record) then table
  else
    match formats.model_dump_json record with
    | none => table
    | some payload =>
      let victims := (evict_overflow policy table).map EnrichmentCacheEntry.id
      (table.put (written formats policy table provider ioc record now payload)).filter
        (fun entry => !(victims.contains entry.id))

/-- The query compares the stored text with the wall clock it is given. -/
def purge_expired (table : CacheTable) (now : Datetime) : CacheTable × Nat :=
  (table.filter (fun entry => !(entry.expires_at ≤ now.wall)),
    table.rows.countP (fun entry => entry.expires_at ≤ now.wall))

def clear (table : CacheTable) : CacheTable × Nat := (Table.empty, table.rows.length)

/-! ### Runs -/

inductive Operation where
  | get (provider : String) (ioc : IOC) (now : Datetime)
  | put (provider : String) (ioc : IOC) (record : LookupRecord) (now : Datetime)
  | purge_expired (now : Datetime)
  | clear

/-- The table an operation leaves. -/
def apply (table : CacheTable) : Operation → CacheTable
  | .get provider ioc now => (get formats table provider ioc now).1
  | .put provider ioc record now => put formats policy table provider ioc record now
  | .purge_expired now => (purge_expired table now).1
  | .clear => (clear table).1

def run (table : CacheTable) (operations : List Operation) : CacheTable := operations.foldl (apply formats policy) table
end

end SocTriage.ResponseCache
