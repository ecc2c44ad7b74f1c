import SocTriage.Ingest

/-!
The notification step at the end of ingest. The attempts are a table of their own; the
payload builder and the webhook client are parameters, of which the builder may raise.
Every failure of the step is swallowed: the alert is stored by then.
-/
namespace SocTriage.Notifications
open Audit
open Ingest (Pipeline Delivery Faults Answer Success ingest_alert)

structure NotificationResult where
  alert_id : UUID
  attempted : Bool
  delivered : Bool
  skipped : Bool
  status_code : Option Int
  error_type : Option String
  attempts : Nat
  duration_ms : Nat
  webhook_host : Option String
  payload_hash : String
deriving DecidableEq

/-- A row of `notification_attempts`. -/
structure NotificationAttempt where
  alert_id : UUID
  attempted_at : Int
  status : String
  http_status : Option Int
  error_type : Option String
  retry_count : Nat
  payload_hash : String
  webhook_host : Option String
  duration_ms : Nat
deriving DecidableEq

structure N8N where
  build_n8n_payload : CanonicalAlert → String → Option Json
  send : Json → NotificationResult

/-- Where the storage fails during the step. -/
structure StepFaults where
  check : Bool := false
  persist : Bool := false

/-- The database with the notification attempts. -/
structure World where
  db : Database := {}
  notification_attempts : List NotificationAttempt := []

/-! ### Repository and audit rows -/

/-- The status an attempt is recorded under. -/
def recorded_status (result : NotificationResult) : String :=
  let status := if result.delivered then "delivered" else if result.skipped then "skipped" else "failed"
  if result.attempted && !result.delivered && !result.skipped then "failed"
  else if !result.attempted && result.skipped then "skipped"
  else status

def attempt_row (result : NotificationResult) (occurred_at : Int) : NotificationAttempt where
  alert_id := result.alert_id
  attempted_at := occurred_at
  status := recorded_status result
  http_status := result.status_code
  error_type := result.error_type
  retry_count := result.attempts
  payload_hash := result.payload_hash
  webhook_host := result.webhook_host
  duration_ms := result.duration_ms

def has_delivered (attempts : List NotificationAttempt) (alert_id : UUID) : Bool :=
  attempts.any (fun attempt => attempt.alert_id = alert_id && attempt.status = "delivered")

def optional_int : Option Int → Json
  | none => .null
  | some n => .int n

def audit_entries_for_notification (alert_id : UUID) (status : String) (http_status : Option Int) (error_type : Option String)
    (attempts : Nat) (payload_hash : Option String) (webhook_host : Option String) (duration_ms : Nat)
    (duplicate_suppressed : Bool) : List AuditEntry :=
  let entry (actor action : String) (after : JsonObject) : AuditEntry :=
    { actor, action, entity_type := "notification", entity_id := alert_id,
      after := some (("alert_id", .str alert_id) :: after) }
  entry "n8n" "notification.attempt" [("status", .str status), ("http_status", optional_int http_status),
    ("attempts", .int attempts), ("payload_hash", optional_text payload_hash),
    ("webhook_host", optional_text webhook_host)] ::
  if duplicate_suppressed then
    [entry "n8n" "notification.duplicate_suppressed" [("reason", .str "already_delivered")]]
  else if status = "delivered" then
    [entry "n8n" "notification.delivered" [("http_status", optional_int http_status), ("attempts", .int attempts),
      ("duration_ms", .int duration_ms), ("webhook_host", optional_text webhook_host)]]
  else if status = "failed" then
    [entry "n8n" "notification.failed" [("http_status", optional_int http_status), ("error_type", optional_text error_type),
      ("attempts", .int attempts), ("duration_ms", .int duration_ms), ("webhook_host", optional_text webhook_host)]]
  else if status = "skipped" then
    [entry "system" "notification.skipped" [("reason", .str "n8n_disabled_or_duplicate")]]
  else []

/-! ### The step -/

/-- The result of an alert that was already delivered. -/
def suppressed (alert_id : UUID) : NotificationResult where
  alert_id := alert_id
  attempted := false
  delivered := false
  skipped := true
  status_code := none
  error_type := none
  attempts := 0
  duration_ms := 0
  webhook_host := none
  payload_hash := "duplicate"

/-- What sending a payload leaves: the attempt and its audit rows, in one unit of work. -/
def persist_attempt (alert_id : UUID) (result : NotificationResult) (occurred_at : Int) (fault : Bool) (world : World) :
    World :=
  if fault then world
  else
    let status := if result.delivered then "delivered" else if result.skipped then "skipped" else "failed"
    { db := world.db.append (audit_entries_for_notification alert_id status result.status_code result.error_type
        result.attempts (some result.payload_hash) result.webhook_host result.duration_ms false) occurred_at
      notification_attempts := world.notification_attempts ++ [attempt_row result occurred_at] }

/-- `_notify_n8n`. A check for an earlier delivery that fails does not keep the alert from being sent. -/
def notify_n8n (n8n : N8N) (alert : CanonicalAlert) (dedupe_status : String) (received_at : Int) (faults : StepFaults)
    (world : World) : Option NotificationResult × World :=
  if !faults.check && has_delivered world.notification_attempts alert.alert_id then
    (some (suppressed alert.alert_id), { world with
      db := world.db.append (audit_entries_for_notification alert.alert_id "skipped" none none 0 (some "duplicate") none
        0 true) received_at })
  else
    match n8n.build_n8n_payload alert dedupe_status with
    | none => (none, world)
    | some payload =>
      let result := n8n.send payload
      (some result, persist_attempt alert.alert_id result received_at faults.persist world)

/-- The ingest handler with its last step; an exact duplicate is not notified. -/
def handle (pipeline : Pipeline) (n8n : N8N) (delivery : Delivery) (faults : Faults) (step_faults : StepFaults)
    (world : World) :
    Option (Answer × Option NotificationResult) × World :=
  match ingest_alert pipeline delivery faults world.db with
  | (none, db) => (none, { world with db })
  | (some (.refused response), db) => (some (.refused response, none), { world with db })
  | (some (.success content), db) =>
    if content.duplicate then (some (.success content, none), { world with db })
    else
      let (result, world) := notify_n8n n8n content.normalized content.dedupe_status.value delivery.received_at.instant
        step_faults { world with db }
      (some (.success content, result), world)

/-- The step only appends audit rows to what ingest leaves. -/
theorem handle_database (pipeline : Pipeline) (n8n : N8N) (delivery : Delivery) (faults : Faults) (step_faults : StepFaults)
    (world : World) :
    ∃ entries occurred_at, (handle pipeline n8n delivery faults step_faults world).2.db =
      (ingest_alert pipeline delivery faults world.db).2.append entries occurred_at := by
  have nothing : ∀ db : Database, db = db.append [] 0 := by
    intro db
    rw [Database.append, List.map_nil, List.append_nil]
  unfold handle
  rcases ingest_alert pipeline delivery faults world.db with ⟨answer, db⟩
  cases answer with
  | none => exact ⟨[], 0, nothing db⟩
  | some answer =>
    cases answer with
    | refused response => exact ⟨[], 0, nothing db⟩
    | success content =>
      dsimp only
      split
      · exact ⟨[], 0, nothing db⟩
      · unfold notify_n8n
        split
        · exact ⟨_, _, rfl⟩
        · split
          · exact ⟨[], 0, nothing db⟩
          · unfold persist_attempt
            dsimp only
            split
            · exact ⟨[], 0, nothing db⟩
            · exact ⟨_, _, rfl⟩

private theorem notify_attempts (n8n : N8N) (alert : CanonicalAlert) (dedupe_status : String) (received_at : Int)
    (faults : StepFaults) (world : World) :
    (notify_n8n n8n alert dedupe_status received_at faults world).2.notification_attempts = world.notification_attempts ∨
    ∃ payload, n8n.build_n8n_payload alert dedupe_status = some payload ∧
      (notify_n8n n8n alert dedupe_status received_at faults world).2.notification_attempts =
        world.notification_attempts ++ [attempt_row (n8n.send payload) received_at] := by
  rw [notify_n8n]
  split
  · exact .inl rfl
  · cases n8n.build_n8n_payload alert dedupe_status with
    | none => exact .inl rfl
    | some payload =>
      dsimp only
      rw [persist_attempt]
      split
      · exact .inl rfl
      · exact .inr ⟨payload, rfl, rfl⟩

/-- The step records no attempt, or the one to send the payload of what ingest answers as new. -/
theorem handle_attempts (pipeline : Pipeline) (n8n : N8N) (delivery : Delivery) (faults : Faults) (step_faults : StepFaults)
    (world : World) :
    (handle pipeline n8n delivery faults step_faults world).2.notification_attempts = world.notification_attempts ∨
    ∃ content payload, (ingest_alert pipeline delivery faults world.db).1 = some (.success content) ∧
      content.duplicate = false ∧
      n8n.build_n8n_payload content.normalized content.dedupe_status.value = some payload ∧
      (handle pipeline n8n delivery faults step_faults world).2.notification_attempts =
        world.notification_attempts ++ [attempt_row (n8n.send payload) delivery.received_at.instant] := by
  unfold handle
  rcases ingest_alert pipeline delivery faults world.db with ⟨_ | ⟨content⟩ | response, db⟩
  · exact .inl rfl
  · dsimp only
    cases fresh : content.duplicate with
    | true => exact .inl rfl
    | false =>
      rw [if_neg (by decide)]
      rcases notify_attempts n8n content.normalized content.dedupe_status.value delivery.received_at.instant step_faults
        { world with db } with same | ⟨payload, built, same⟩
      · exact .inl same
      · exact .inr ⟨content, payload, rfl, fresh, built, same⟩
  · exact .inl rfl

end SocTriage.Notifications
