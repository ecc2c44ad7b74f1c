import SocTriage.Audit

/-!
The rows of the database, and the exceptions of a session. A repository call takes the
rows its session sees and returns the rows it leaves, so `session_scope` commits the
rows of the last call or, on any exception, the rows it started from. Statuses and
severities are stored as their values, payloads as JSON that reads back as written, and
timestamps in UTC. Every writer reads the row it refers to, or writes it in the same
unit of work, and no referenced row is ever deleted, so foreign keys never refuse an
insert; primary keys and unique columns do.
-/
namespace SocTriage
open Audit

structure Alert where
  alert_id : UUID
  source : String
  received_at : Int
  dedupe_group_key : String
  event_identity : String
  rule_id : String
  rule_level : Int
  agent_id : String
  agent_name : String
  normalized_payload : CanonicalAlert
  incident_id : Option String := none
  created_at : Int
deriving DecidableEq

structure AlertDedupeGroup where
  group_key : String
  occurrences : Nat
  generation : Nat
  first_seen : Option Int
  last_seen : Option Int
  duplicate_deliveries : Nat
  updated_at : Int
deriving DecidableEq

structure AlertEvent where
  event_identity : String
  group_key : String
  alert_id : UUID
  payload_fingerprint : String
  delivery_count : Nat
  content_variants : Nat
  first_delivered_at : Int
  last_delivered_at : Int
deriving DecidableEq

structure CorrelationContext where
  context_id : String
  created_at : Int
  updated_at : Int
  first_seen : Int
  last_seen : Int
deriving DecidableEq, Repr

structure CorrelationMember where
  context_id : String
  alert_id : UUID
  joined_at : Int
  evidence : List CorrelationEvidenceItem
deriving DecidableEq, Repr

structure AnalystFeedback where
  alert_id : UUID
  received_at : Int
  actor : String
  verdict : String
  notes : Option String
deriving DecidableEq, Repr

/-- An entry of the audit log; its row id is its place in the log. -/
structure AuditEvent where
  occurred_at : Int
  actor : String
  action : String
  entity_type : String
  entity_id : String
  before : Option JsonObject
  after : Option JsonObject
deriving DecidableEq

structure Database where
  alerts : Table Alert.alert_id := Table.empty
  alert_dedupe_groups : Table AlertDedupeGroup.group_key := Table.empty
  alert_events : Table AlertEvent.event_identity := Table.empty
  incidents : Table Incident.incident_id := Table.empty
  correlation_contexts : Table CorrelationContext.context_id := Table.empty
  correlation_members : Table CorrelationMember.alert_id := Table.empty
  analyst_feedback : List AnalystFeedback := []
  audit_log : List AuditEvent := []

namespace Database

/-- One audit row of an entry. -/
def audit_row (occurred_at : Int) (entry : AuditEntry) : AuditEvent where
  occurred_at := occurred_at
  actor := entry.actor
  action := entry.action
  entity_type := entry.entity_type
  entity_id := entry.entity_id
  before := entry.before
  after := entry.after

/-- `AuditRepository.append`. -/
def append (db : Database) (entries : List AuditEntry) (occurred_at : Int) : Database :=
  { db with audit_log := db.audit_log ++ entries.map (audit_row occurred_at) }

section
variable (db : Database) (entries : List AuditEntry) (occurred_at : Int)

@[simp] theorem append_alerts : (db.append entries occurred_at).alerts = db.alerts := rfl
@[simp] theorem append_alert_dedupe_groups :
    (db.append entries occurred_at).alert_dedupe_groups = db.alert_dedupe_groups := rfl
@[simp] theorem append_alert_events : (db.append entries occurred_at).alert_events = db.alert_events := rfl
@[simp] theorem append_incidents : (db.append entries occurred_at).incidents = db.incidents := rfl
@[simp] theorem append_correlation_contexts :
    (db.append entries occurred_at).correlation_contexts = db.correlation_contexts := rfl
@[simp] theorem append_correlation_members :
    (db.append entries occurred_at).correlation_members = db.correlation_members := rfl
@[simp] theorem append_audit_log :
    (db.append entries occurred_at).audit_log = db.audit_log ++ entries.map (audit_row occurred_at) := rfl
end

/-- `session_scope`: what the block leaves is committed, on an exception what it started from stays. -/
def session_scope {α : Type} (db : Database) (block : Database → Except Error (α × Database)) :
    Except Error α × Database :=
  match block db with
  | .error e => (.error e, db)
  | .ok (value, after) => (.ok value, after)

theorem session_scope_ok {α : Type} {db after : Database} {block : Database → Except Error (α × Database)} {value : α} :
    block db = .ok (value, after) → session_scope db block = (.ok value, after) := by
  intro executed; rw [session_scope, executed]

theorem session_scope_error {α : Type} {db : Database} {block : Database → Except Error (α × Database)} {e : Error} :
    block db = .error e → session_scope db block = (.error e, db) := by
  intro failed; rw [session_scope, failed]

end Database

/-- `_next_id` and `_next_context_id`: one past the greatest id of the day, from the text after its last dash. -/
def next_sequence_id (start : String) (ids : List String) (occurred_at : Int) : Except Error String :=
  let day_start := start ++ "-" ++ Text.wall_day occurred_at ++ "-"
  match (ids.filter (Text.starts_with day_start)).max? with
  | none => .ok (day_start ++ Text.zero_padded 4 1)
  | some last =>
    let digits := Text.after_last '-' last.toList
    match Text.parse_decimal digits with
    | none => .error (.value ("invalid literal for int() with base 10: '" ++ String.ofList digits ++ "'"))
    | some sequence => .ok (day_start ++ Text.zero_padded 4 (sequence + 1))

/-- An identifier as the sequence makes them. -/
def Sequenced (start id : String) : Prop := ∃ day n, id = start ++ "-" ++ day ++ "-" ++ Text.zero_padded 4 n

theorem next_sequence_id_sequenced {start id : String} {ids : List String} {occurred_at : Int}
    (numbered : next_sequence_id start ids occurred_at = .ok id) : Sequenced start id := by
  rw [next_sequence_id] at numbered
  split at numbered
  · cases numbered; exact ⟨_, _, rfl⟩
  · dsimp only at numbered
    split at numbered
    · contradiction
    · cases numbered; exact ⟨_, _, rfl⟩

/-- After identifiers of the sequence there is always a next one. -/
theorem next_sequence_id_ok {start : String} {ids : List String} (sequenced : ∀ id ∈ ids, Sequenced start id)
    (occurred_at : Int) : ∃ id, next_sequence_id start ids occurred_at = .ok id := by
  rw [next_sequence_id]
  split
  · exact ⟨_, rfl⟩
  · rename_i last greatest
    obtain ⟨day, n, rfl⟩ := sequenced last (List.mem_filter.mp (List.max?_mem greatest)).1
    have plain : '-' ∉ (Text.zero_padded 4 n).toList := fun inside =>
      absurd (Text.zero_padded_digits 4 n '-' inside) (by decide)
    have digits : Text.after_last '-' (start ++ "-" ++ day ++ "-" ++ Text.zero_padded 4 n).toList =
        (Text.zero_padded 4 n).toList := by
      have dash : "-".toList = ['-'] := by decide
      rw [String.toList_append, String.toList_append, dash, List.append_assoc, List.singleton_append]
      exact Text.after_last_append _ plain
    dsimp only
    rw [digits, Text.parse_decimal_zero_padded]
    exact ⟨_, rfl⟩

example : next_sequence_id "INC" ["INC-2026-01-02-0007", "INC-2026-01-01-0009"] 1767312000000000 =
    .ok "INC-2026-01-02-0008" := by decide

end SocTriage
