import SocTriage.IncidentRuns

/-!
The audit log replays each incident. Over every sequential run the lifecycle rows of an
incident form a chain from `open` to its current status, and the timestamps of the
incident are the ones its last row records.
-/
namespace SocTriage.IncidentAudit
open Audit Incidents IncidentRuns

/-! ### What the rows say -/

/-- A field of a snapshot. -/
def noted (snapshot : Option JsonObject) (field : String) : Option Json := snapshot.bind (Json.lookup field)

/-- The status a snapshot records. -/
def status_in (snapshot : Option JsonObject) : Option IncidentStatus :=
  match noted snapshot "status" with
  | some (.str value) => IncidentStatus.of_value value
  | _ => none

/-- A step of the state machine, or a close of an incident that is not terminal. -/
def ValidStep (action : String) (before after : IncidentStatus) : Prop :=
  (action = ACTION_INCIDENT_STATUS_UPDATED ∧ can_transition before after = true) ∨
    (action = ACTION_INCIDENT_AUTO_CLOSED ∧ terminal before = false ∧ after = .RESOLVED)

/-- Rows that lead from one status to another, each from where the one before it ended. -/
inductive Replays (start : IncidentStatus) : List AuditEvent → IncidentStatus → Prop
  | nil : Replays start [] start
  | snoc {rows : List AuditEvent} {row : AuditEvent} {before after : IncidentStatus} (earlier : Replays start rows before)
      (source : status_in row.before = some before) (target : status_in row.after = some after)
      (valid : ValidStep row.action before after) : Replays start (rows ++ [row]) after

/-- The lifecycle rows of one incident, in row order. -/
def rows_of (db : Database) (incident_id : String) : List AuditEvent :=
  (history db).filter (fun row => row.entity_type = ENTITY_INCIDENT ∧ row.entity_id = incident_id)

/-- The time of the latest step into `acknowledged`. -/
def latest_acknowledgement (steps : List AuditEvent) : Option Int :=
  (steps.filter (fun row => status_in row.after = some .ACKNOWLEDGED)).getLast?.map AuditEvent.occurred_at

/-- The rows of an incident: its creation, then its steps. -/
structure Traced (incident : Incident) (creation : AuditEvent) (steps : List AuditEvent) : Prop where
  creation : creation.action = ACTION_INCIDENT_CREATED ∧ creation.before = none ∧ status_in creation.after = some .OPEN
  replays : Replays .OPEN steps incident.status
  recorded : ∀ last, steps.getLast? = some last →
    noted last.after "acknowledged_at" = some (optional_instant incident.acknowledged_at) ∧
      noted last.after "resolved_at" = some (optional_instant incident.resolved_at)
  acknowledged : incident.acknowledged_at = latest_acknowledgement steps
  resolved : incident.resolved_at ≠ none ↔ terminal incident.status = true

/-- Every incident is traced by its rows, and every lifecycle row is about a stored incident. -/
structure Audited (db : Database) : Prop where
  traced : ∀ incident ∈ db.incidents.rows, ∃ creation steps,
    rows_of db incident.incident_id = creation :: steps ∧ Traced incident creation steps
  owned : ∀ row ∈ history db, ∃ incident ∈ db.incidents.rows, incident.incident_id = row.entity_id

/-! ### One row more -/

private theorem rows_of_append {db db' : Database} {row : AuditEvent} (rows : history db' = history db ++ [row])
    (incident : row.entity_type = ENTITY_INCIDENT) (incident_id : String) :
    rows_of db' incident_id = rows_of db incident_id ++ (if row.entity_id = incident_id then [row] else []) := by
  rw [rows_of, rows, List.filter_append, rows_of]
  by_cases mine : row.entity_id = incident_id
  · simp [mine, incident]
  · simp [mine]

private theorem step_row_status (row : Incident) (previous : IncidentStatus) (actor : String) (notes : Option String)
    (occurred_at : Int) : status_in (step_row row previous actor notes occurred_at).after = some row.status := by
  have snapshot : noted (some (with_notes (incident_status_snapshot row) notes)) "status" = some (.str row.status.value) := by
    unfold with_notes
    split
    · rfl
    · split <;> rfl
  rw [status_in, step_row, snapshot]
  exact IncidentStatus.of_value_value _

private theorem step_row_recorded (row : Incident) (previous : IncidentStatus) (actor : String) (notes : Option String)
    (occurred_at : Int) :
    noted (step_row row previous actor notes occurred_at).after "acknowledged_at" =
      some (optional_instant row.acknowledged_at) ∧
      noted (step_row row previous actor notes occurred_at).after "resolved_at" =
        some (optional_instant row.resolved_at) := by
  unfold step_row with_notes
  split
  · exact ⟨rfl, rfl⟩
  · split <;> exact ⟨rfl, rfl⟩

private theorem previous_status (previous : IncidentStatus) :
    status_in (some [("status", .str previous.value)]) = some previous := IncidentStatus.of_value_value previous

private theorem latest_snoc (steps : List AuditEvent) {row : AuditEvent} {after : IncidentStatus}
    (target : status_in row.after = some after) :
    latest_acknowledgement (steps ++ [row]) =
      if after = .ACKNOWLEDGED then some row.occurred_at else latest_acknowledgement steps := by
  rw [latest_acknowledgement, List.filter_append]
  by_cases entered : after = .ACKNOWLEDGED
  · subst entered
    simp [target]
  · have other : status_in row.after ≠ some .ACKNOWLEDGED := by rw [target]; exact fun same => entered (Option.some.inj same)
    simp [entered, other, latest_acknowledgement]

/-- An analyst's step extends the trace. -/
private theorem traced_stepped {incident : Incident} {creation : AuditEvent} {steps : List AuditEvent}
    (traced : Traced incident creation steps) {target : IncidentStatus}
    (allowed : can_transition incident.status target = true) (actor : String) (notes : Option String) (occurred_at : Int) :
    Traced (stepped incident target occurred_at) creation
      (steps ++ [step_row (stepped incident target occurred_at) incident.status actor notes occurred_at]) := by
  have active := not_terminal_of_can_transition allowed
  have entered := step_row_status (stepped incident target occurred_at) incident.status actor notes occurred_at
  refine ⟨traced.creation, .snoc traced.replays (previous_status _) entered (.inl ⟨rfl, allowed⟩), ?_, ?_, ?_⟩
  · intro last same
    rw [List.getLast?_concat] at same
    cases same
    exact step_row_recorded _ _ _ _ _
  · rw [latest_snoc steps entered, ← traced.acknowledged]
    rfl
  · have open_end : incident.resolved_at = none := by
      by_contra ended
      rw [traced.resolved.mp ended] at active
      contradiction
    cases target <;> simp [Incidents.stepped, terminal, TERMINAL_STATUSES, open_end]

/-- A close by the sweeper extends the trace. -/
private theorem traced_closed {incident : Incident} {creation : AuditEvent} {steps : List AuditEvent}
    (traced : Traced incident creation steps) (active : terminal incident.status = false) (ttl_seconds : Nat)
    (idle as_of : Int) :
    Traced (closed as_of incident) creation
      (steps ++ [close_row (closed as_of incident) incident.status ttl_seconds idle as_of]) := by
  have entered : status_in (close_row (closed as_of incident) incident.status ttl_seconds idle as_of).after =
      some .RESOLVED := rfl
  refine ⟨traced.creation, .snoc traced.replays (previous_status _) entered (.inr ⟨rfl, active, rfl⟩), ?_, ?_, ?_⟩
  · intro last same
    rw [List.getLast?_concat] at same
    cases same
    exact ⟨rfl, rfl⟩
  · rw [latest_snoc steps entered]
    exact traced.acknowledged
  · simp [Incidents.closed, terminal, TERMINAL_STATUSES]

/-! ### Runs -/

private theorem rows_of_quiet {db db' : Database} (rows : history db' = history db) (incident_id : String) :
    rows_of db' incident_id = rows_of db incident_id := by
  rw [rows_of, rows, rows_of]

/-- One incident's row changed and one row appended about it. -/
private theorem audited_modify {db db' : Database} (audited : Audited db) {incident after : Incident} {row : AuditEvent}
    {change : Incident → Incident} {keeps : ∀ r : Incident, (change r).incident_id = r.incident_id}
    (found : db.incidents.get incident.incident_id = some incident) (changed : change incident = after)
    (incidents : db'.incidents = db.incidents.modify incident.incident_id change keeps)
    (rows : history db' = history db ++ [row]) (about : row.entity_type = ENTITY_INCIDENT)
    (mine : row.entity_id = incident.incident_id)
    (extended : ∀ creation steps, Traced incident creation steps → Traced after creation (steps ++ [row])) :
    Audited db' := by
  have member : ∀ r, r ∈ db'.incidents.rows ↔
      r = after ∨ (r ∈ db.incidents.rows ∧ r.incident_id ≠ incident.incident_id) := by
    intro r
    rw [incidents, Table.mem_modify]
    refine or_congr ⟨?_, ?_⟩ Iff.rfl
    · rintro ⟨old, inside, key, rfl⟩
      rw [← changed, Table.eq_of_key inside (Table.get_mem found) key]
    · rintro rfl
      exact ⟨incident, Table.get_mem found, rfl, changed.symm⟩
  have key : after.incident_id = incident.incident_id := by rw [← changed, keeps]
  constructor
  · intro r inside
    rcases (member r).mp inside with rfl | ⟨old, other⟩
    · obtain ⟨creation, steps, same, traced⟩ := audited.traced incident (Table.get_mem found)
      refine ⟨creation, steps ++ [row], ?_, extended creation steps traced⟩
      rw [rows_of_append rows about, key, if_pos mine, same, List.cons_append]
    · obtain ⟨creation, steps, same, traced⟩ := audited.traced r old
      refine ⟨creation, steps, ?_, traced⟩
      rw [rows_of_append rows about, if_neg (fun equal => other (equal.symm.trans mine)), List.append_nil, same]
  · intro r inside
    rw [rows, List.mem_append, List.mem_singleton] at inside
    have kept : ∀ old ∈ db.incidents.rows, ∃ new ∈ db'.incidents.rows, new.incident_id = old.incident_id := by
      intro old stored
      by_cases same : old.incident_id = incident.incident_id
      · exact ⟨after, (member after).mpr (.inl rfl), key.trans same.symm⟩
      · exact ⟨old, (member old).mpr (.inr ⟨stored, same⟩), rfl⟩
    rcases inside with earlier | rfl
    · obtain ⟨old, stored, same⟩ := audited.owned r earlier
      obtain ⟨new, stored', same'⟩ := kept old stored
      exact ⟨new, stored', same'.trans same⟩
    · exact ⟨after, (member after).mpr (.inl rfl), key.trans mine.symm⟩

/-- Every move keeps the log and the incidents in step. -/
theorem moved_audited {db db' : Database} (audited : Audited db) (moved : Moved db db') : Audited db' := by
  cases moved with
  | quiet incidents rows =>
    constructor
    · intro incident inside
      rw [incidents] at inside
      rw [rows_of_quiet rows]
      exact audited.traced incident inside
    · intro row inside
      rw [rows] at inside
      rw [incidents]
      exact audited.owned row inside
  | created incident_id alert_id severity group_key occurred_at _ inserted rows =>
    have fresh := Table.get_eq_none.mp (Table.insert_fresh inserted)
    constructor
    · intro incident inside
      rcases (Table.mem_insert inserted).mp inside with old | rfl
      · obtain ⟨creation, steps, same, traced⟩ := audited.traced incident old
        refine ⟨creation, steps, ?_, traced⟩
        rw [rows_of_append rows rfl, if_neg (fun equal => fresh incident old equal.symm), List.append_nil, same]
      · have none_yet : rows_of db incident_id = [] := by
          rw [rows_of, List.filter_eq_nil_iff]
          intro row earlier mine
          obtain ⟨old, stored, same⟩ := audited.owned row earlier
          have mine := of_decide_eq_true mine
          exact fresh old stored (same.trans mine.2)
        refine ⟨created_row (opened incident_id alert_id severity group_key occurred_at) occurred_at, [], ?_,
          ⟨⟨rfl, rfl, rfl⟩, .nil, by intro last none; simp at none, rfl, ?_⟩⟩
        · rw [rows_of_append rows rfl]
          exact (congrArg (· ++ _) none_yet).trans (if_pos rfl)
        · simp [opened, terminal, TERMINAL_STATUSES]
    · intro row inside
      rw [rows, List.mem_append, List.mem_singleton] at inside
      rcases inside with earlier | rfl
      · obtain ⟨old, stored, same⟩ := audited.owned row earlier
        exact ⟨old, (Table.mem_insert inserted).mpr (.inl stored), same⟩
      · exact ⟨_, (Table.mem_insert inserted).mpr (.inr rfl), rfl⟩
  | stepped row target actor notes occurred_at found allowed incidents rows =>
    exact audited_modify audited found rfl incidents rows rfl rfl
      (fun _ _ traced => traced_stepped traced allowed actor notes occurred_at)
  | closed row ttl_seconds idle as_of found active incidents rows =>
    exact audited_modify audited found rfl incidents rows rfl rfl
      (fun _ _ traced => traced_closed traced active ttl_seconds idle as_of)

theorem step_audited (db : Database) (event : Event) (audited : Audited db) : Audited (step db event) := by
  have path := step_moved db event
  generalize step db event = after at path
  induction path with
  | refl => exact audited
  | tail _ moved ih => exact moved_audited ih moved

/-- In every state a sequential run reaches, the audit log replays every incident. -/
theorem run_audited (events : List Event) : Audited (Runs.run step {} events) := by
  have start : Audited {} := ⟨fun _ none => absurd none List.not_mem_nil, fun _ none => absurd none List.not_mem_nil⟩
  exact Runs.invariant step_audited start events

end SocTriage.IncidentAudit
