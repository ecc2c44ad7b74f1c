import SocTriage.IncidentRuns
import SocTriage.Interleaving

/-!
Analysts against the sweeper. An analyst's operation reads the incident, checks the
transition against what it read, and later writes the columns it changed by primary
key; the sweeper's close is one conditional update. Others may commit in between, so a
step that was legal when it was checked can land on an incident that is closed by then.
-/
namespace SocTriage.IncidentRace
open Incidents IncidentCallers IncidentRuns
open Audit (audit_entries_for_incident_status)

/-- The two requests that step an incident. -/
inductive Analyst where
  | update (request : StatusRequest)
  | feedback (request : FeedbackRequest)

def Analyst.occurred_at : Analyst → Int
  | .update request => request.occurred_at
  | .feedback request => request.received_at

inductive Request where
  | analyst (analyst : Analyst)
  | sweep (ttl_seconds : Nat) (as_of : Int)

/-- A step that is checked but not written: the row it was checked against, and its target. -/
structure Checked where
  analyst : Analyst
  row : Incident
  target : IncidentStatus

/-- The read of an analyst's operation. One that asks for no step changes no incident. -/
def read (db : Database) (analyst : Analyst) : Option Checked :=
  match analyst with
  | .update request => do
    let row ← db.incidents.get request.incident_id
    if can_transition row.status request.status then some ⟨analyst, row, request.status⟩ else none
  | .feedback request => do
    let row ← for_alert db request.alert_id
    let target ← plan_incident_sync row request.verdict
    return ⟨analyst, row, target⟩

/-- The `UPDATE` of a flush: only the columns that differ from what was loaded. -/
def flushed (loaded changed stored : Incident) : Incident :=
  { stored with
    status := if changed.status = loaded.status then stored.status else changed.status
    updated_at := if changed.updated_at = loaded.updated_at then stored.updated_at else changed.updated_at
    acknowledged_at := if changed.acknowledged_at = loaded.acknowledged_at then stored.acknowledged_at
      else changed.acknowledged_at
    resolved_at := if changed.resolved_at = loaded.resolved_at then stored.resolved_at else changed.resolved_at }

/-- The commit of an analyst's operation: the update by primary key, and its audit rows. -/
def write (checked : Checked) (db : Database) : Database :=
  let changed := stepped checked.row checked.target checked.analyst.occurred_at
  let updated (db : Database) : Database :=
    { db with incidents := db.incidents.modify checked.row.incident_id (flushed checked.row changed) }
  match checked.analyst with
  | .update request =>
    (updated db).append (audit_entries_for_incident_status changed checked.row.status (actor_name request.actor)
      (bounded_notes request.notes)) request.occurred_at
  | .feedback request =>
    (updated (recorded request db)).append (audit_entries_for_incident_status changed checked.row.status
      (actor_name request.actor) none) request.received_at

inductive Progress where
  | asked (request : Request)
  | checked (checked : Checked)
  | closing (ttl_seconds : Nat) (as_of : Int) (candidates : List Incident)

/-- The next statement of an operation. A failed write is rolled back; a sweep goes on with its next candidate. -/
def advance (fault : Bool) (progress : Progress) (db : Database) : Database × Option Progress :=
  match progress with
  | .asked (.analyst analyst) => (db, if fault then none else (read db analyst).map .checked)
  | .asked (.sweep ttl_seconds as_of) =>
    (db, if fault ∨ ttl_seconds < 1 then none
      else some (.closing ttl_seconds as_of (list_incidents_eligible_for_auto_close db ttl_seconds as_of)))
  | .checked checked => (if fault then db else write checked db, none)
  | .closing _ _ [] => (db, none)
  | .closing ttl_seconds as_of (candidate :: rest) =>
    ((close_candidate ttl_seconds as_of (fun _ => fault) ({}, db) candidate).2, some (.closing ttl_seconds as_of rest))

/-- Operations that nothing interrupts run alone, among them all that record and assess alerts. -/
def machine : Interleaving.Machine Database IncidentRuns.Event Request Progress where
  alone := fun event db => IncidentRuns.step db event
  launch := .asked
  advance := advance

abbrev Config := Interleaving.Config Database Progress
abbrev Event := Interleaving.Event IncidentRuns.Event Request

/-- The configuration a sequence of statements ends in, from an empty database. -/
def after (events : List Event) : Config := Runs.run (Interleaving.step machine) { shared := {} } events

/-- No terminal status was committed between the read of the operation that is about to write and that write. -/
def undisturbed (config : Config) : Event → Bool
  | .advance op false =>
    match config.progress op with
    | some (.checked checked) =>
      (config.shared.incidents.get checked.row.incident_id).all (fun stored => !terminal stored.status)
    | _ => true
  | _ => true

/-! ### Nothing in between -/

private theorem changed_or_equal {α : Type} [DecidableEq α] (changed loaded : α) :
    (if changed = loaded then loaded else changed) = changed := by
  split
  · rename_i same; exact same.symm
  · rfl

/-- Written over the row that was loaded, the changed columns give the changed row. -/
private theorem flushed_self (loaded changed : Incident) (id : changed.incident_id = loaded.incident_id)
    (severity : changed.severity = loaded.severity) (alert : changed.primary_alert_id = loaded.primary_alert_id)
    (group : changed.dedupe_group_key = loaded.dedupe_group_key) (created : changed.created_at = loaded.created_at) :
    flushed loaded changed loaded = changed := by
  simp only [flushed, changed_or_equal, ← id, ← severity, ← alert, ← group, ← created]

/-- With nothing in between, the read and the write of a status update are the update of the sequential runs. -/
theorem write_read {db : Database} {request : StatusRequest} {checked : Checked}
    (legal : read db (.update request) = some checked) :
    write checked db = (update_incident_status request false db).2 := by
  obtain ⟨row, found, allowed⟩ := Option.bind_eq_some_iff.mp legal
  split at allowed
  · rename_i permitted
    cases allowed
    have key : row.incident_id = request.incident_id := Table.get_key found
    have same := flushed_self row (stepped row request.status request.occurred_at) rfl rfl rfl rfl rfl
    have stored : db.incidents.modify row.incident_id (flushed row (stepped row request.status request.occurred_at)) =
        db.incidents.modify request.incident_id (fun row => stepped row request.status request.occurred_at) := by
      apply Table.ext_rows
      rw [key]
      apply List.map_congr_left
      intro other inside
      by_cases mine : other.incident_id = request.incident_id
      · rw [if_pos mine, if_pos mine, Table.eq_of_key inside (Table.get_mem found) (mine.trans key.symm), same]
      · rw [if_neg mine, if_neg mine]
    have executed : update_status db request.incident_id request.status request.occurred_at =
        .ok (stepped row request.status request.occurred_at, { db with
          incidents := db.incidents.modify request.incident_id
            (fun row => stepped row request.status request.occurred_at) }) := by
      rw [update_status, found]
      exact if_pos permitted
    rw [update_incident_status]
    simp only [Bool.false_eq_true, ↓reduceIte, Database.session_scope, status_work, found, executed]
    rw [write]
    simp only [Analyst.occurred_at, stored]
  · contradiction

/-! ### One statement -/

/-- What an operation in progress has checked: a legal step, or candidates that are active. -/
def Checks : Progress → Prop
  | .asked _ => True
  | .checked checked => can_transition checked.row.status checked.target = true
  | .closing _ _ candidates => ∀ candidate ∈ candidates, terminal candidate.status = false

section
variable {db : Database}

/-- A checked step is legal from a committed row. -/
theorem read_legal {analyst : Analyst} {checked : Checked} (legal : read db analyst = some checked) :
    checked.row ∈ db.incidents.rows ∧ can_transition checked.row.status checked.target = true := by
  cases analyst with
  | update request =>
    obtain ⟨row, found, allowed⟩ := Option.bind_eq_some_iff.mp legal
    split at allowed
    · rename_i permitted
      cases allowed
      exact ⟨Table.get_mem found, permitted⟩
    · contradiction
  | feedback request =>
    obtain ⟨row, linked, rest⟩ := Option.bind_eq_some_iff.mp legal
    obtain ⟨target, planned, done⟩ := Option.bind_eq_some_iff.mp rest
    cases done
    exact ⟨Table.get_mem (for_alert_get linked), plan_incident_sync_allowed planned⟩

theorem write_incidents (checked : Checked) (db : Database) :
    (write checked db).incidents = db.incidents.modify checked.row.incident_id
      (flushed checked.row (stepped checked.row checked.target checked.analyst.occurred_at)) := by
  rw [write]; cases checked.analyst <;> rfl

/-- A statement leaves the database alone, writes a checked step, or closes as a sweep does. -/
theorem advance_cases (fault : Bool) {progress : Progress} (checks : Checks progress) (db : Database) :
    (advance fault progress db).1 = db ∨
    (∃ checked, progress = .checked checked ∧ fault = false ∧ (advance fault progress db).1 = write checked db) ∨
    Moved db (advance fault progress db).1 := by
  cases progress with
  | asked request => cases request <;> exact .inl rfl
  | checked checked =>
    cases fault with
    | true => exact .inl rfl
    | false => exact .inr (.inl ⟨checked, rfl, rfl, rfl⟩)
  | closing ttl_seconds as_of candidates =>
    cases candidates with
    | nil => exact .inl rfl
    | cons candidate rest =>
      exact .inr (.inr (close_moved ttl_seconds as_of (fun _ => fault) {} db (checks candidate (List.mem_cons_self ..))).1)

/-- What the next statement relies on was read by this one. -/
theorem advance_checks {fault : Bool} {progress next : Progress} (checks : Checks progress)
    (left : (advance fault progress db).2 = some next) :
    Checks next ∧ ∀ checked, next = .checked checked → checked.row ∈ db.incidents.rows := by
  cases progress with
  | asked request =>
    cases request with
    | analyst analyst =>
      cases fault with
      | true => contradiction
      | false =>
        obtain ⟨checked, legal, rfl⟩ := Option.map_eq_some_iff.mp left
        obtain ⟨inside, allowed⟩ := read_legal legal
        refine ⟨allowed, ?_⟩
        intro same equal
        cases equal
        exact inside
    | sweep ttl_seconds as_of =>
      rw [advance] at left
      split at left
      · contradiction
      · cases left
        exact ⟨IncidentRuns.eligible_active, fun _ other => by contradiction⟩
  | checked checked => contradiction
  | closing ttl_seconds as_of candidates =>
    cases candidates with
    | nil => contradiction
    | cons candidate rest =>
      cases left
      exact ⟨fun other inside => checks other (List.mem_cons_of_mem _ inside), fun _ other => by contradiction⟩
end

/-! ### Closed incidents -/

/-- Every closed incident is still there with its status and its lifecycle timestamps. -/
def Final (db db' : Database) : Prop :=
  ∀ incident ∈ db.incidents.rows, terminal incident.status = true → ∃ row ∈ db'.incidents.rows,
    row.incident_id = incident.incident_id ∧ row.status = incident.status ∧
      row.resolved_at = incident.resolved_at ∧ row.acknowledged_at = incident.acknowledged_at

def Resolved (db : Database) : Prop :=
  ∀ incident ∈ db.incidents.rows, incident.resolved_at ≠ none ↔ terminal incident.status = true

instance (db db' : Database) : Decidable (Final db db') := List.decidableBAll _ _
instance (db : Database) : Decidable (Resolved db) := List.decidableBAll _ _

/-- Of two states of a run: what was closed in the first is final in the second, where exactly the closed are resolved. -/
def Settled (earlier later : List Event) : Prop :=
  Final (after earlier).shared (after (earlier ++ later)).shared ∧ Resolved (after (earlier ++ later)).shared

/-- Closed incidents keep their whole row. -/
private def Kept (db db' : Database) : Prop :=
  ∀ incident ∈ db.incidents.rows, terminal incident.status = true → incident ∈ db'.incidents.rows

/-- A checked row was not resolved when it was read. -/
private def Relies (progress : Progress) : Prop :=
  Checks progress ∧ ∀ checked, progress = .checked checked → checked.row.resolved_at = none

section
variable {db db' : Database}

private theorem kept_final (kept : Kept db db') : Final db db' := by
  intro incident inside closed
  exact ⟨incident, kept incident inside closed, rfl, rfl, rfl, rfl⟩

private theorem open_end {row : Incident} (resolved : Resolved db) (inside : row ∈ db.incidents.rows)
    (active : terminal row.status = false) : row.resolved_at = none := by
  by_contra ended
  rw [(resolved row inside).mp ended] at active
  contradiction

/-- A change of one active row that ends with `resolved_at` set exactly when it closes. -/
private theorem modify_settles {incident_id : String} {change : Incident → Incident}
    {keeps : ∀ row : Incident, (change row).incident_id = row.incident_id} (resolved : Resolved db)
    (incidents : db'.incidents = db.incidents.modify incident_id change keeps)
    (active : ∀ row, db.incidents.get incident_id = some row → terminal row.status = false)
    (changed : ∀ row, db.incidents.get incident_id = some row → row.resolved_at = none →
      ((change row).resolved_at ≠ none ↔ terminal (change row).status = true)) :
    Kept db db' ∧ Resolved db' := by
  constructor
  · intro incident inside closed
    rw [incidents, Table.mem_modify]
    refine .inr ⟨inside, ?_⟩
    rintro rfl
    rw [active incident (Table.get_of_mem inside)] at closed
    contradiction
  · intro incident inside
    rw [incidents, Table.mem_modify] at inside
    rcases inside with ⟨row, stored, key, rfl⟩ | ⟨stored, _⟩
    · have found : db.incidents.get incident_id = some row := Table.get_eq_some.mpr ⟨stored, key⟩
      exact changed row found (open_end resolved stored (active row found))
    · exact resolved incident stored

private theorem moved_settles (resolved : Resolved db) (moved : Moved db db') : Kept db db' ∧ Resolved db' := by
  cases moved with
  | quiet incidents _ =>
    rw [Kept, Resolved, incidents]
    exact ⟨fun _ inside _ => inside, resolved⟩
  | created incident_id alert_id severity group_key occurred_at _ inserted _ =>
    refine ⟨fun incident inside _ => (Table.mem_insert inserted).mpr (.inl inside), ?_⟩
    intro incident inside
    rcases (Table.mem_insert inserted).mp inside with old | rfl
    · exact resolved incident old
    · simp [opened, terminal, TERMINAL_STATUSES]
  | stepped row target _ _ occurred_at found allowed incidents _ =>
    refine modify_settles resolved incidents ?_ ?_
    · intro stored same
      rw [found] at same
      cases same
      exact not_terminal_of_can_transition allowed
    · intro stored _ open_end
      cases target <;> simp [stepped, terminal, TERMINAL_STATUSES, open_end]
  | closed row ttl_seconds idle as_of found active incidents _ =>
    refine modify_settles resolved incidents ?_ ?_
    · intro stored same
      rw [found] at same
      cases same
      exact active
    · intro stored _ _
      simp [closed, terminal, TERMINAL_STATUSES]

private theorem kept_trans {mid : Database} (first : Kept db mid) (second : Kept mid db') : Kept db db' :=
  fun incident inside closed => second incident (first incident inside closed) closed

private theorem path_settles (resolved : Resolved db) (path : Relation.ReflTransGen Moved db db') :
    Kept db db' ∧ Resolved db' := by
  induction path with
  | refl => exact ⟨fun _ inside _ => inside, resolved⟩
  | tail _ moved ih =>
    obtain ⟨kept, after⟩ := moved_settles ih.2 moved
    exact ⟨kept_trans ih.1 kept, after⟩

/-- A checked step written over a row that is still active. -/
private theorem write_settles {checked : Checked} (resolved : Resolved db)
    (allowed : can_transition checked.row.status checked.target = true) (loaded : checked.row.resolved_at = none)
    (active : ∀ row, db.incidents.get checked.row.incident_id = some row → terminal row.status = false) :
    Kept db (write checked db) ∧ Resolved (write checked db) := by
  refine modify_settles resolved (write_incidents checked db) active ?_
  intro stored _ open_end
  have steps : checked.target ≠ checked.row.status := by
    rintro same
    rw [same] at allowed
    revert allowed
    cases checked.row.status <;> decide
  cases target : checked.target <;>
    simp_all [flushed, stepped, terminal, TERMINAL_STATUSES]

/-- What the next statement of an operation guarantees, when its write lands on an active incident. -/
private theorem advance_settles (fault : Bool) (progress : Progress) (resolved : Resolved db) (relies : Relies progress)
    (active : ∀ checked, progress = .checked checked → fault = false →
      ∀ row, db.incidents.get checked.row.incident_id = some row → terminal row.status = false) :
    (Kept db (advance fault progress db).1 ∧ Resolved (advance fault progress db).1) ∧
      ∀ next, (advance fault progress db).2 = some next → Relies next := by
  constructor
  · rcases advance_cases fault relies.1 db with same | ⟨checked, rfl, rfl, written⟩ | moved
    · rw [same]
      exact ⟨fun _ inside _ => inside, resolved⟩
    · rw [written]
      exact write_settles resolved relies.1 (relies.2 checked rfl) (active checked rfl rfl)
    · exact moved_settles resolved moved
  · intro next left
    obtain ⟨checks, loaded⟩ := advance_checks relies.1 left
    refine ⟨checks, ?_⟩
    rintro checked rfl
    exact open_end resolved (loaded checked rfl) (not_terminal_of_can_transition checks)
end

/-- The argument: operations rely on what they have checked, and guarantee that closed incidents are kept. -/
private def outline : Interleaving.Outline machine (fun config event => undisturbed config event = true) where
  Inv := Resolved
  Relies := fun _ => Relies
  Guarantees := Kept
  refl := fun _ _ inside _ => inside
  trans := kept_trans
  stable := fun _ relies => relies
  launch := fun _ _ _ => ⟨trivial, fun _ other => by contradiction⟩
  alone := fun config event _ resolved => path_settles resolved (step_moved config.shared event)
  advance := by
    intro config op fault progress running clear resolved relies
    refine and_assoc.mp (advance_settles fault progress resolved relies ?_)
    rintro checked rfl rfl row found
    simpa [undisturbed, running, found] using clear

/-- An incident opened for one failed login. -/
def one_incident : List Event :=
  [.alone (login_recorded "a1" "wazuh:5710:001" 0), .alone (.assess (login_assessed "a1" "wazuh:5710:001" 0) false)]

def acknowledge : Request :=
  .analyst (.update { incident_id := "INC-1970-01-01-0001", status := .ACKNOWLEDGED, occurred_at := 7100000000 })

/-- The status is checked before the sweeper closes the incident, and written after. -/
def overtaken : List Event :=
  [.launch 1 acknowledge, .advance 1 false, .launch 2 (.sweep 3600 7200000000), .advance 2 false, .advance 2 false]

/-- Over any interleaving in which no step is written on an incident closed since it was checked, closed incidents
    keep their status and timestamps, and `resolved_at` is set exactly on them. -/
theorem closed_incidents_settled (earlier later : List Event)
    (clear : Runs.Along (Interleaving.step machine) (fun config event => undisturbed config event = true)
      { shared := {} } (earlier ++ later)) : Settled earlier later := by
  have empty : Resolved {} := fun incident none => absurd none List.not_mem_nil
  have start : outline.Holds { shared := {} } := ⟨empty, fun op progress none => by contradiction⟩
  obtain ⟨first, second⟩ := Runs.along_append.mp clear
  have middle := (outline.sound start first).2
  obtain ⟨kept, resolved, _⟩ := outline.sound middle second
  rw [Settled, after, after, Runs.run_append]
  exact ⟨kept_final kept, resolved⟩

/-- A second incident, which no analyst acknowledges. -/
def other_incident : List Event :=
  [.alone (login_recorded "b1" "wazuh:5710:002" 1), .alone (.assess (login_assessed "b1" "wazuh:5710:002" 1) false)]

/-- The first is acknowledged between the selection and its close, which skips it; the second is closed. -/
def acknowledged_first : List Event :=
  one_incident ++ other_incident ++ overtaken.take 4 ++ [.advance 1 false, .advance 2 false, .advance 2 false]

/-- Someone tries to acknowledge the closed one. -/
def acknowledge_closed : List Event :=
  [.launch 3 (.analyst (.update {
    incident_id := "INC-1970-01-01-0002", status := .ACKNOWLEDGED, occurred_at := 7300000000 })),
   .advance 3 false, .advance 3 false]

theorem acknowledged_in_time : Settled acknowledged_first acknowledge_closed ∧
    (after acknowledged_first).shared.incidents.rows.map Incident.status = [.ACKNOWLEDGED, .RESOLVED] :=
  ⟨closed_incidents_settled _ _ (by decide), by decide⟩

/-- The stale write reopens the incident the sweeper closed. -/
theorem stale_write_reopens : ¬ ∀ earlier later : List Event, Settled earlier later := by
  intro settled
  have broken := settled (one_incident ++ overtaken) [.advance 1 false]
  revert broken
  unfold Settled
  decide

end SocTriage.IncidentRace
