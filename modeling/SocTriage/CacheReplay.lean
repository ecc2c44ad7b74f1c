import Mathlib.Data.List.Induction
import SocTriage.ResponseCache

/-!
What a cache hit replays: the last definitive record put for the indicator since the table was
cleared, while its own time of lookup is not older than its lifetime. That holds of every run
whose records survive the way through JSON.
-/
namespace SocTriage.ResponseCache
open Enrichment

/-! ### What the cache is meant to remember -/

/-- What is remembered for a key after one more operation. -/
def remember (key : String × String × String) (before : Option LookupRecord) : Operation → Option LookupRecord
  | .put provider ioc record _ => if definitive record && lookup_key provider ioc = key then some record else before
  | .clear => none
  | .get .. => before
  | .purge_expired _ => before

/-- The last definitive record put for a key since the table was cleared. -/
def last_put (key : String × String × String) (operations : List Operation) : Option LookupRecord :=
  operations.foldl (remember key) none

section
variable (formats : Formats) (policy : EnrichmentCachePolicy)

/-- A record with a time that can be read, and that is written as JSON from which no other record is read. -/
def ReadsBack (record : LookupRecord) : Prop :=
  (∃ time, formats.fromisoformat record.timestamp = some time) ∧
    ∃ text, formats.model_dump_json record = some text ∧
      ∀ back, formats.model_validate_json text = some back → back = record

/-- The operation puts no definitive record but one that reads back. -/
def Preserved : Operation → Prop
  | .put _ _ record _ => definitive record = true → ReadsBack formats record
  | _ => True

/-- The record lives at the time: it is within its lifetime, counted from its own time of lookup. -/
def Alive (record : LookupRecord) (type : IOCType) (now : Datetime) : Prop :=
  ∃ time, formats.fromisoformat record.timestamp = some time ∧ now.instant < time.instant + policy.ttl_for type

/-! ### What the rows remember -/

/-- A row holds the last record put under its key, and expires when that record does. -/
structure Holds (operations : List Operation) (entry : EnrichmentCacheEntry) (record : LookupRecord)
    (type : IOCType) (time : Datetime) : Prop where
  last : last_put entry.lookup operations = some record
  definitive : definitive record = true
  replayed : ∀ back, formats.model_validate_json entry.payload = some back → back = record
  typed : entry.indicator_type = type.value
  timed : formats.fromisoformat record.timestamp = some time
  expires : entry.expires_at = time.instant + policy.ttl_for type

def Remembers (table : CacheTable) (operations : List Operation) : Prop :=
  ∀ entry ∈ table.rows, ∃ record type time, Holds formats policy operations entry record type time
end

variable {formats : Formats} {policy : EnrichmentCachePolicy} {table : CacheTable} {operations : List Operation}

private theorem last_put_append (key : String × String × String) (operations : List Operation) (operation : Operation) :
    last_put key (operations ++ [operation]) = remember key (last_put key operations) operation := by
  rw [last_put, last_put, List.foldl_append, List.foldl_cons, List.foldl_nil]

/-- A row stays right while nothing is put under its key and nothing is cleared. -/
private theorem Holds.later {entry : EnrichmentCacheEntry} {record : LookupRecord} {type : IOCType} {time : Datetime}
    (holds : Holds formats policy operations entry record type time) {operation : Operation}
    (other : remember entry.lookup (some record) operation = some record) :
    Holds formats policy (operations ++ [operation]) entry record type time :=
  { holds with last := by rw [last_put_append, holds.last, other] }

private theorem remembers_fewer (remembers : Remembers formats policy table operations) {table' : CacheTable}
    (fewer : ∀ entry ∈ table'.rows, entry ∈ table.rows) {operation : Operation}
    (silent : ∀ key record, remember key (some record) operation = some record) :
    Remembers formats policy table' (operations ++ [operation]) := by
  intro entry inside
  obtain ⟨record, type, time, holds⟩ := remembers entry (fewer entry inside)
  exact ⟨record, type, time, holds.later (silent _ _)⟩

/-- A lookup drops at most the row it finds. -/
private theorem get_rows (table : CacheTable) (provider : String) (ioc : IOC) (now : Datetime) :
    ∀ entry ∈ (get formats table provider ioc now).1.rows, entry ∈ table.rows := by
  intro entry
  rw [get]
  split
  · exact id
  · split
    · exact fun inside => List.mem_of_mem_filter inside
    · split
      · exact fun inside => List.mem_of_mem_filter inside
      · exact id

private theorem mem_put_row {row entry : EnrichmentCacheEntry} (inside : entry ∈ (table.put row).rows) :
    entry = row ∨ (entry ∈ table.rows ∧ row.lookup ≠ entry.lookup) := by
  have found := Table.get_of_mem inside
  rw [Table.get_put] at found
  split at found
  · exact .inl (Option.some.inj found).symm
  · rename_i other
    exact .inr ⟨Table.get_mem found, other⟩

private theorem put_remembers (remembers : Remembers formats policy table operations) {provider : String} {ioc : IOC}
    {record : LookupRecord} {now : Datetime} (preserved : definitive record = true → ReadsBack formats record) :
    Remembers formats policy (put formats policy table provider ioc record now)
      (operations ++ [.put provider ioc record now]) := by
  rw [put]
  cases status : definitive record with
  | false =>
    refine remembers_fewer remembers (fun _ inside => inside) (fun key other => ?_)
    rw [remember, status, Bool.false_and, if_neg Bool.false_ne_true]
  | true =>
    obtain ⟨⟨time, timed⟩, text, dumped, back⟩ := preserved status
    rw [dumped]
    simp only [Bool.not_true, Bool.false_eq_true, ↓reduceIte]
    intro entry inside
    rcases mem_put_row (List.mem_of_mem_filter inside) with rfl | ⟨old, other⟩
    · refine ⟨record, ioc.type, time, ?_, status, back, rfl, timed, ?_⟩
      · have mine : lookup_key provider ioc = (written formats policy table provider ioc record now text).lookup := rfl
        rw [last_put_append, remember, status, mine]
        simp
      · rw [written, parse_lookup_time, timed]
        rfl
    · obtain ⟨held, type, looked_at, holds⟩ := remembers entry old
      have different : lookup_key provider ioc ≠ entry.lookup := other
      refine ⟨held, type, looked_at, holds.later ?_⟩
      rw [remember]
      simp [different]

/-- What one operation preserves. -/
private theorem apply_remembers (remembers : Remembers formats policy table operations) {operation : Operation}
    (preserved : Preserved formats operation) :
    Remembers formats policy (apply formats policy table operation) (operations ++ [operation]) := by
  cases operation with
  | get provider ioc now => exact remembers_fewer remembers (get_rows table provider ioc now) (fun _ _ => rfl)
  | put provider ioc record now => exact put_remembers remembers preserved
  | purge_expired now =>
    exact remembers_fewer remembers (fun entry inside => List.mem_of_mem_filter inside) (fun _ _ => rfl)
  | clear => intro entry inside; cases inside

private theorem run_remembers (preserved : ∀ operation ∈ operations, Preserved formats operation) :
    Remembers formats policy (run formats policy Table.empty operations) operations := by
  induction operations using List.reverseRecOn with
  | nil => intro entry inside; cases inside
  | append_singleton earlier operation ih =>
    rw [run, List.foldl_append]
    exact apply_remembers (ih (fun other inside => preserved other (List.mem_append_left _ inside)))
      (preserved operation (by simp))

/-! ### Hits -/

/-- What VirusTotal answered for an address, with the reputation it gave. -/
def reputed (reputation : Json) : LookupRecord where
  provider := "virustotal"
  indicator_type := "ipv4"
  lookup_status := .FOUND
  timestamp := "2026-01-02T00:00:00+00:00"
  result := [("malicious", .int 3), ("suspicious", .int 0), ("harmless", .int 60), ("undetected", .int 9),
    ("reputation", reputation)]

/-- The JSON of such a record. -/
def reputed_json (reputation : String) : String :=
  "\x7b\"provider\":\"virustotal\",\"indicator_type\":\"ipv4\",\"lookup_status\":\"found\"," ++
    "\"timestamp\":\"2026-01-02T00:00:00+00:00\",\"result\":\x7b\"malicious\":3,\"suspicious\":0,\"harmless\":60," ++
    "\"undetected\":9,\"reputation\":" ++ reputation ++ "\x7d\x7d"

/-- `datetime` and `pydantic` on these records: infinity is written as `null`. -/
def reputed_formats : Formats where
  fromisoformat text := if text = "2026-01-02T00:00:00+00:00" then some (.of_instant 1767312000000000) else none
  model_dump_json record :=
    if record = reputed (.int (-4)) then some (reputed_json "-4")
    else if record = reputed (.float "inf") then some (reputed_json "null") else none
  model_validate_json text :=
    if text = reputed_json "-4" then some (reputed (.int (-4)))
    else if text = reputed_json "null" then some (reputed .null) else none

def reputed_address : IOC := { type := .IPV4, value := "203.0.113.7" }

/-- The time of that lookup, and ten minutes later. -/
def looked_up : Datetime := .of_instant 1767312000000000
def minutes_later : Datetime := .of_instant 1767312600000000

end SocTriage.ResponseCache
