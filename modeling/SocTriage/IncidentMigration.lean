import Mathlib.Data.List.Sort
import SocTriage.Durable

/-!
The migration that creates the `incidents` table and links `alerts` to it, statement by
statement over a SQLite database: what it finds of an earlier run that was interrupted it
checks and completes. Identifiers are in lower case throughout.
-/
namespace SocTriage.IncidentMigration
open Durable Durable.Program

/-! ### Databases -/

/-- A stored value. -/
inductive Value where
  | null
  | integer (n : Int)
  | real (repr : String)
  | text (s : String)
  | blob (bytes : List UInt8)
deriving DecidableEq

/-- A column with its type as reflection renders it. -/
structure Column where
  name : String
  type : String
  nullable : Bool := false
deriving DecidableEq

structure ForeignKey where
  name : String := ""
  constrained : List String
  referred_table : String
  referred_columns : List String
deriving DecidableEq

structure Index where
  name : String
  columns : List String
  unique : Bool := false
deriving DecidableEq

/-- The values of a row by the names of the columns. -/
abbrev Row := String → Value

structure Relation where
  columns : List Column
  primary_key : List String
  foreign_keys : List ForeignKey := []
  indexes : List Index := []
  rows : List Row := []

def Relation.names (t : Relation) : List String := t.columns.map Column.name

/-- The tables the migration creates, drops or renames. -/
inductive TableName where
  | alerts | scratch | incidents
deriving DecidableEq, Repr

def TableName.text : TableName → String
  | .alerts => "alerts"
  | .scratch => "_alembic_tmp_alerts"
  | .incidents => "incidents"

structure Database where
  alerts : Option Relation
  scratch : Option Relation
  incidents : Option Relation
  others : List (String × Relation)

/-- A connection: the database as it sees it, whether it enforces foreign keys, and the database at the start of its
    transaction where one is open. -/
structure Connection extends Database where
  foreign_keys : Bool
  transaction : Option Database

/-- What is durable, and what the connection leaves when it ends without a commit. -/
def Connection.left (c : Connection) : Database := c.transaction.getD c.toDatabase

def Database.get (db : Database) : TableName → Option Relation
  | .alerts => db.alerts
  | .scratch => db.scratch
  | .incidents => db.incidents

def Connection.set (c : Connection) (name : TableName) (t : Option Relation) : Connection :=
  match name with
  | .alerts => { c with alerts := t }
  | .scratch => { c with scratch := t }
  | .incidents => { c with incidents := t }

def Database.relations (db : Database) : List (String × Relation) :=
  (db.alerts.toList.map (Prod.mk "alerts")) ++ (db.scratch.toList.map (Prod.mk "_alembic_tmp_alerts")) ++
    (db.incidents.toList.map (Prod.mk "incidents")) ++ db.others

/-- A row refers to a row. -/
def refers (fk : ForeignKey) (row parent : Row) : Bool :=
  (fk.constrained.zip fk.referred_columns).all (fun pair => row pair.1 != .null && row pair.1 == parent pair.2)

/-- A row of another table refers to a row of the table. -/
def referenced (db : Database) (name : TableName) (t : Relation) : Bool :=
  db.relations.any (fun other => other.1 != name.text && other.2.foreign_keys.any (fun fk =>
    fk.referred_table == name.text && other.2.rows.any (fun row => t.rows.any (refers fk row))))

/-- `PRAGMA foreign_key_check(table)` finds something. -/
def violated (db : Database) (t : Relation) : Bool :=
  t.foreign_keys.any (fun fk => t.rows.any (fun row => fk.constrained.all (fun column => row column != .null) &&
    !(db.relations.any (fun other => other.1 == fk.referred_table && other.2.rows.any (refers fk row)))))

/-! ### Statements

The driver opens a transaction before a statement that changes rows and none before one that changes the schema: the latter
is durable at once where no transaction is open, and belongs to the transaction where one is. -/

def create_table (name : TableName) (t : Relation) (c : Connection) : Except String Connection :=
  if (c.get name).isSome then .error ("table " ++ name.text ++ " already exists") else .ok (c.set name (some t))

def drop_table (name : TableName) (c : Connection) : Except String Connection :=
  match c.get name with
  | none => .error ("no such table: " ++ name.text)
  | some t =>
    if c.foreign_keys && referenced c.toDatabase name t then .error "FOREIGN KEY constraint failed" else .ok (c.set name none)

/-- A row in the columns of some names. -/
def restrict (names : List String) (row : Row) : Row := fun column => if column ∈ names then row column else .null

/-- `INSERT INTO target (...) SELECT ... FROM source`, with the columns that both have. It opens a transaction. -/
def copy_rows (source target : TableName) (c : Connection) : Except String Connection :=
  match c.get source, c.get target with
  | some s, some t =>
    let common := s.names.filter (fun column => t.names.contains column)
    let begun := { c with transaction := some c.left }
    .ok (begun.set target (some { t with rows := t.rows ++ s.rows.map (restrict common) }))
  | _, _ => .error ("no such table: " ++ (if (c.get source).isSome then target else source).text)

def rename_table (source target : TableName) (c : Connection) : Except String Connection :=
  match c.get source with
  | none => .error ("no such table: " ++ source.text)
  | some s =>
    if (c.get target).isSome then .error ("there is already another table or index with this name: " ++ target.text)
    else .ok ((c.set source none).set target (some s))

def add_column (name : TableName) (column : Column) (c : Connection) : Except String Connection :=
  match c.get name with
  | none => .error ("no such table: " ++ name.text)
  | some t =>
    if t.names.contains column.name then .error ("duplicate column name: " ++ column.name)
    else .ok (c.set name (some { t with columns := t.columns ++ [column], rows := t.rows.map (restrict t.names) }))

/-- The names of indexes are shared by all tables. -/
def index_taken (db : Database) (name : String) : Bool :=
  db.relations.any (fun relation => relation.2.indexes.any (fun index => index.name == name))

def create_index (table : TableName) (index : Index) (c : Connection) : Except String Connection :=
  match c.get table with
  | none => .error ("no such table: main." ++ table.text)
  | some t =>
    if index_taken c.toDatabase index.name then .error ("index " ++ index.name ++ " already exists")
    else .ok (c.set table (some { t with indexes := t.indexes ++ [index] }))

def commit (c : Connection) : Except String Connection := .ok { c with transaction := none }

def rollback (c : Connection) : Except String Connection := .ok { c with toDatabase := c.left, transaction := none }

/-- `PRAGMA foreign_keys`, which has no effect in a transaction. -/
def pragma_foreign_keys (enabled : Bool) (c : Connection) : Except String Connection :=
  .ok (if c.transaction.isSome then c else { c with foreign_keys := enabled })

/-! ### The intended schema -/

/-- The columns of `incidents`: the accepted renderings of the type, in order, and whether it may be null. -/
def INCIDENT_COLUMNS : List (String × List String × Bool) :=
  [("incident_id", ["VARCHAR(32)"], false), ("status", ["VARCHAR(16)"], false), ("severity", ["VARCHAR(8)"], false),
    ("primary_alert_id", ["CHAR(32)", "UUID"], false), ("dedupe_group_key", ["VARCHAR(255)"], false),
    ("created_at", ["DATETIME", "TIMESTAMP WITH TIME ZONE"], false),
    ("updated_at", ["DATETIME", "TIMESTAMP WITH TIME ZONE"], false)]

def INCIDENT_INDEXES : List Index :=
  [{ name := "ix_incidents_created_at", columns := ["created_at"] },
    { name := "ix_incidents_dedupe_group_key", columns := ["dedupe_group_key"] },
    { name := "ix_incidents_group_status", columns := ["dedupe_group_key", "status"] },
    { name := "ix_incidents_primary_alert_id", columns := ["primary_alert_id"], unique := true },
    { name := "ix_incidents_severity", columns := ["severity"] },
    { name := "ix_incidents_status", columns := ["status"] }]

/-- What `_create_incidents_table` creates. -/
def INCIDENTS : Relation where
  columns :=
    [{ name := "incident_id", type := "VARCHAR(32)" }, { name := "status", type := "VARCHAR(16)" },
      { name := "severity", type := "VARCHAR(8)" }, { name := "primary_alert_id", type := "CHAR(32)" },
      { name := "dedupe_group_key", type := "VARCHAR(255)" }, { name := "created_at", type := "DATETIME" },
      { name := "updated_at", type := "DATETIME" }]
  primary_key := ["incident_id"]
  foreign_keys := [{ constrained := ["primary_alert_id"], referred_table := "alerts", referred_columns := ["alert_id"] }]

def ALERT_LINK_COLUMN : Column where
  name := "incident_id"
  type := "VARCHAR(32)"
  nullable := true

def ALERT_LINK_TYPES : List String := ["VARCHAR(32)"]

def ALERT_LINK_INDEX : Index where
  name := "ix_alerts_incident_id"
  columns := ["incident_id"]

def ALERT_LINK_FK : ForeignKey where
  name := "fk_alerts_incident_id"
  constrained := ["incident_id"]
  referred_table := "incidents"
  referred_columns := ["incident_id"]

/-! ### Compatibility -/

/-- Python's rendering of a list of names, of a tuple of them, and of a truth value. -/
def quoted (names : List String) : String := ", ".intercalate (names.map (fun name => "'" ++ name ++ "'"))

def repr_list (names : List String) : String := "[" ++ quoted names ++ "]"

def repr_bool (b : Bool) : String := if b then "True" else "False"

def repr_index (columns : List String) (unique : Bool) : String :=
  "((" ++ quoted columns ++ (if columns.length = 1 then "," else "") ++ "), " ++ repr_bool unique ++ ")"

def column_def (t : Relation) (name : String) : Option Column := t.columns.find? (fun column => column.name = name)

def index_def (t : Relation) (name : String) : Option Index := t.indexes.find? (fun index => index.name = name)

def fk_present (t : Relation) (constrained : List String) (table : String) (referred : List String) : Bool :=
  t.foreign_keys.any (fun fk => fk.constrained = constrained && fk.referred_table = table && fk.referred_columns = referred)

def sorted (names : List String) : List String := names.insertionSort (· ≤ ·)

/-- What is wrong with a column that there is and should be. -/
def column_problems (t : Relation) (name : String) : List String :=
  match INCIDENT_COLUMNS.find? (fun expected => expected.1 = name), column_def t name with
  | some (_, types, nullable), some actual =>
    (if types.contains actual.type then []
      else ["incidents." ++ name ++ " type is " ++ actual.type ++ ", expected one of " ++ repr_list types]) ++
    (if actual.nullable = nullable then []
      else ["incidents." ++ name ++ " nullable is " ++ repr_bool actual.nullable ++ ", expected " ++ repr_bool nullable])
  | _, _ => []

def incidents_compatibility_problems (t : Relation) : List String :=
  let expected_names := INCIDENT_COLUMNS.map Prod.fst
  let missing := sorted (expected_names.filter (fun name => !(t.names.contains name)))
  let unexpected := sorted (t.names.filter (fun name => !(expected_names.contains name)))
  let common := sorted (expected_names.filter (fun name => t.names.contains name))
  missing.map (fun name => "incidents." ++ name ++ " column is missing") ++
    unexpected.map (fun name => "incidents." ++ name ++ " column is unexpected") ++
    common.flatMap (column_problems t) ++
    (if t.primary_key = ["incident_id"] then []
      else ["incidents primary key is " ++ (if t.primary_key = [] then "missing" else repr_list t.primary_key) ++
        ", expected ['incident_id']"]) ++
    (if fk_present t ["primary_alert_id"] "alerts" ["alert_id"] then []
      else ["incidents.primary_alert_id -> alerts.alert_id foreign key is missing"]) ++
    INCIDENT_INDEXES.flatMap (fun index =>
      match index_def t index.name with
      | none => []
      | some actual =>
        if actual.columns = index.columns ∧ actual.unique = index.unique then []
        else ["index " ++ index.name ++ " on incidents is " ++ repr_index actual.columns actual.unique ++ ", expected " ++
          repr_index index.columns index.unique])

def verify_incidents_table (t : Relation) : Program Connection String Unit :=
  let problems := incidents_compatibility_problems t
  if problems = [] then pure ()
  else raise ("Migration d4e5f6a7b8c9 found an existing 'incidents' table that does not match the schema it needs to " ++
    "create (an interrupted earlier attempt, or a table created by something else). The database was NOT modified and the " ++
    "revision was NOT recorded as applied. Resolve manually — do not delete alert data: " ++ "; ".intercalate problems)

def alert_link_fk_present (t : Relation) : Bool := fk_present t ["incident_id"] "incidents" ["incident_id"]

def alert_link_index_present (t : Relation) : Bool :=
  (index_def t ALERT_LINK_INDEX.name).any (fun index => index.columns = ["incident_id"] && index.unique = false)

def verify_alert_link_state (t : Relation) : Program Connection String Unit := do
  match column_def t ALERT_LINK_COLUMN.name with
  | some actual =>
    if !(ALERT_LINK_TYPES.contains actual.type) || !actual.nullable then
      raise ("Migration d4e5f6a7b8c9 found alerts.incident_id with type " ++ actual.type ++ " (nullable=" ++
        repr_bool actual.nullable ++ "), expected one of " ++ repr_list ALERT_LINK_TYPES ++
          " (nullable=True). The database " ++
        "was NOT modified and the revision was NOT recorded as applied.")
  | none => pure ()
  match index_def t ALERT_LINK_INDEX.name with
  | some actual =>
    if actual.columns ≠ ["incident_id"] ∨ actual.unique = true then
      raise ("Migration d4e5f6a7b8c9 found the index ix_alerts_incident_id on alerts defined as " ++
        repr_index actual.columns actual.unique ++
          ", expected (('incident_id',), False). The database was NOT modified and " ++
        "the revision was NOT recorded as applied.")
  | none => pure ()
  match t.foreign_keys.find? (fun fk => fk.name = ALERT_LINK_FK.name && fk ≠ ALERT_LINK_FK) with
  | some fk =>
    raise ("Migration d4e5f6a7b8c9 found a foreign key named fk_alerts_incident_id on alerts pointing at " ++
      fk.referred_table ++ repr_list fk.referred_columns ++ " via " ++ repr_list fk.constrained ++
        ", but the incident link " ++
      "needs (['incident_id'], 'incidents', ['incident_id']). The database was NOT modified and the revision was NOT " ++
      "recorded as applied.")
  | none => pure ()

/-! ### The migration -/

/-- How a batch is carried out: whether the table is recreated for a batch of nothing but columns and indexes too, as it is
    for one with a foreign key. -/
structure Alembic where
  recreates : Bool

/-- A table as the inspector reflects it. -/
def reflect (name : TableName) : Program Connection String Relation := do
  match ← inspect (fun c => c.get name) with
  | some t => return t
  | none => raise ("NoSuchTableError: " ++ name.text)

def drop_orphaned_batch_scratch_table : Program Connection String Unit := do
  if (← inspect (fun c => c.scratch)).isNone then return
  if (← inspect (fun c => c.alerts)).isNone then
    raise ("Migration d4e5f6a7b8c9 found the Alembic batch scratch table '_alembic_tmp_alerts' but no 'alerts' table: an " ++
      "interrupted batch ALTER appears to have left the alert data inside the scratch table. The migration will not drop " ++
      "it. Recover manually (rename '_alembic_tmp_alerts' back to 'alerts', verifying row counts) before re-running.")
  statement (drop_table .scratch)

def ensure_incident_indexes : Program Connection String Unit := do
  let existing ← reflect .incidents
  each (fun index => if (index_def existing index.name).isNone then statement (create_index .incidents index) else pure ())
    INCIDENT_INDEXES

/-- The second step of `upgrade`. -/
def ensure_incidents : Program Connection String Unit := do
  match ← inspect (fun c => c.incidents) with
  | some t => verify_incidents_table t
  | none => statement (create_table .incidents INCIDENTS)
  ensure_incident_indexes

/-- The pragma in an `autocommit_block`, which commits a transaction that is open. -/
def set_sqlite_foreign_keys (enabled : Bool) : Program Connection String Unit := do
  statement commit
  statement (pragma_foreign_keys enabled)
  if (← inspect (fun c => c.foreign_keys)) ≠ enabled then
    raise ("could not set SQLite PRAGMA foreign_keys=" ++ (if enabled then "1" else "0") ++ "; refusing to run the batch " ++
      "ALTER of 'alerts' without control over foreign-key enforcement")

def assert_foreign_keys_clean (name : TableName) : Program Connection String Unit := do
  let t ← reflect name
  if (← inspect (fun c => violated c.toDatabase t)) then
    raise ("foreign key violations detected in '" ++ name.text ++ "' after migration d4e5f6a7b8c9")

/-- The table a batch puts in the place of another. -/
def batch_table (t : Relation) (column : Option Column) (foreign_key : Option ForeignKey) : Relation :=
  { t with
    columns := t.columns ++ column.toList
    foreign_keys := t.foreign_keys ++ foreign_key.toList
    indexes := []
    rows := [] }

/-- `batch_alter_table` of `alerts`: a scratch table takes the place of the table, and the indexes that were reflected and the
    new one are created again. -/
def batch_alter_table (alembic : Alembic) (column : Option Column) (foreign_key : Option ForeignKey) (index : Option Index) :
    Program Connection String Unit := do
  let t ← reflect .alerts
  if foreign_key.isSome || alembic.recreates then
    statement (create_table .scratch (batch_table t column foreign_key))
    statement (copy_rows .alerts .scratch)
    statement (drop_table .alerts)
    statement (rename_table .scratch .alerts)
    each (fun index => statement (create_index .alerts index)) (t.indexes ++ index.toList)
  else
    each (fun column => statement (add_column .alerts column)) column.toList
    each (fun index => statement (create_index .alerts index)) index.toList

/-- The third step of `upgrade`. What raises in it is rolled back before the block that restores the pragma can commit it. -/
def link_alerts (alembic : Alembic) : Program Connection String Unit := do
  let t ← reflect .alerts
  verify_alert_link_state t
  let has_column := (column_def t ALERT_LINK_COLUMN.name).isSome
  let needs_fk := !alert_link_fk_present t
  let needs_index := !alert_link_index_present t
  if !has_column || needs_fk || needs_index then
    let previous_fk_state ← inspect (fun c => c.foreign_keys)
    always
      (on_error (do
          set_sqlite_foreign_keys false
          batch_alter_table alembic (if has_column then none else some ALERT_LINK_COLUMN)
            (if needs_fk then some ALERT_LINK_FK else none) (if needs_index then some ALERT_LINK_INDEX else none))
        (statement rollback))
      (set_sqlite_foreign_keys previous_fk_state)
    assert_foreign_keys_clean .alerts
    assert_foreign_keys_clean .incidents

/-- What is missing of the intended schema. -/
def schema_problems (alerts : Relation) (incidents : Option Relation) : List String :=
  (match incidents with
    | none => ["'incidents' table is missing"]
    | some t => incidents_compatibility_problems t ++
      (INCIDENT_INDEXES.filter (fun index => (index_def t index.name).isNone)).map (fun index =>
        "index " ++ index.name ++ " on incidents is missing")) ++
    (match column_def alerts ALERT_LINK_COLUMN.name with
    | none => ["alerts.incident_id column is missing"]
    | some actual =>
      if !(ALERT_LINK_TYPES.contains actual.type) || !actual.nullable then
        ["alerts.incident_id is " ++ actual.type ++ " (nullable=" ++ repr_bool actual.nullable ++ ")"]
      else []) ++
    (if alert_link_fk_present alerts then [] else ["alerts.incident_id -> incidents foreign key is missing"]) ++
    (if alert_link_index_present alerts then [] else ["index ix_alerts_incident_id on alerts is missing"])

def verify_complete_schema : Program Connection String Unit := do
  let alerts ← reflect .alerts
  let problems := schema_problems alerts (← inspect (fun c => c.incidents))
  if problems ≠ [] then
    raise ("Migration d4e5f6a7b8c9 finished but the final schema verification failed, so the revision was NOT recorded as " ++
      "applied: " ++ "; ".intercalate problems)

/-- `upgrade`, online. -/
def upgrade (alembic : Alembic) : Program Connection String Unit := do
  drop_orphaned_batch_scratch_table
  ensure_incidents
  link_alerts alembic
  verify_complete_schema

/-! ### The previous revision -/

private def column (name type : String) : Column := { name, type }

private def index (table name : String) : Index := { name := "ix_" ++ table ++ "_" ++ name, columns := [name] }

private def to_alerts : ForeignKey where
  constrained := ["alert_id"]
  referred_table := "alerts"
  referred_columns := ["alert_id"]

/-- The tables at revision b2c3d4e5f6a7, with any rows. -/
def previous (rows : String → List Row) : Database where
  alerts := some
    { columns :=
        [column "alert_id" "CHAR(32)", column "source" "VARCHAR(32)", column "received_at" "DATETIME",
          column "dedupe_group_key" "VARCHAR(255)", column "event_identity" "VARCHAR(512)", column "rule_id" "VARCHAR(64)",
          column "rule_level" "INTEGER", column "agent_id" "VARCHAR(64)", column "agent_name" "VARCHAR(255)",
          column "normalized_payload" "JSON", column "created_at" "DATETIME"]
      primary_key := ["alert_id"]
      indexes := ["agent_id", "dedupe_group_key", "event_identity", "received_at", "rule_id", "source"].map (index "alerts")
      rows := rows "alerts" }
  scratch := none
  incidents := none
  others :=
    [("alert_dedupe_groups",
      { columns :=
          [column "group_key" "VARCHAR(255)", column "occurrences" "INTEGER", column "generation" "INTEGER",
            { name := "first_seen", type := "DATETIME", nullable := true },
            { name := "last_seen", type := "DATETIME", nullable := true }, column "duplicate_deliveries" "INTEGER",
            column "updated_at" "DATETIME"]
        primary_key := ["group_key"]
        rows := rows "alert_dedupe_groups" }),
      ("audit_log",
      { columns :=
          [column "id" "INTEGER", column "occurred_at" "DATETIME", column "actor" "VARCHAR(64)",
            column "action" "VARCHAR(64)", column "entity_type" "VARCHAR(32)", column "entity_id" "VARCHAR(512)",
            { name := "before", type := "JSON", nullable := true }, { name := "after", type := "JSON", nullable := true }]
        primary_key := ["id"]
        indexes := ["action", "entity_id", "entity_type", "occurred_at"].map (index "audit_log")
        rows := rows "audit_log" }),
      ("alert_events",
      { columns :=
          [column "event_identity" "VARCHAR(512)", column "group_key" "VARCHAR(255)", column "alert_id" "CHAR(32)",
            column "payload_fingerprint" "VARCHAR(64)", column "delivery_count" "INTEGER",
            column "content_variants" "INTEGER", column "first_delivered_at" "DATETIME",
            column "last_delivered_at" "DATETIME"]
        primary_key := ["event_identity"]
        foreign_keys :=
          [to_alerts,
            { constrained := ["group_key"], referred_table := "alert_dedupe_groups", referred_columns := ["group_key"] }]
        indexes :=
          [{ name := "ix_alert_events_alert_id", columns := ["alert_id"], unique := true },
            { name := "ix_alert_events_group_last_delivered", columns := ["group_key", "last_delivered_at"] }]
        rows := rows "alert_events" }),
      ("notification_attempts",
      { columns :=
          [column "id" "INTEGER", column "alert_id" "CHAR(32)", column "attempted_at" "DATETIME",
            column "status" "VARCHAR(32)", { name := "http_status", type := "INTEGER", nullable := true },
            { name := "error_type", type := "VARCHAR(128)", nullable := true }, column "retry_count" "INTEGER",
            column "payload_hash" "VARCHAR(64)", { name := "webhook_host", type := "VARCHAR(255)", nullable := true },
            column "duration_ms" "INTEGER"]
        primary_key := ["id"]
        foreign_keys := [to_alerts]
        indexes := ["alert_id", "attempted_at", "status"].map (index "notification_attempts")
        rows := rows "notification_attempts" }),
      ("analyst_feedback",
      { columns :=
          [column "id" "INTEGER", column "alert_id" "CHAR(32)", column "received_at" "DATETIME",
            column "actor" "VARCHAR(128)", column "verdict" "VARCHAR(64)",
            { name := "notes", type := "VARCHAR(2000)", nullable := true }]
        primary_key := ["id"]
        foreign_keys := [to_alerts]
        indexes := ["alert_id", "received_at", "verdict"].map (index "analyst_feedback")
        rows := rows "analyst_feedback" }),
      ("alembic_version",
      { columns := [column "version_num" "VARCHAR(32)"]
        primary_key := ["version_num"]
        rows := rows "alembic_version" })]

end SocTriage.IncidentMigration
