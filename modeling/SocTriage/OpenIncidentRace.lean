import SocTriage.IncidentRace

/-!
Concurrent assessments that ask for an incident. A call reads the open incident of its
group, then the greatest id of its day, and then writes under the primary key and the
unique primary alert. Nothing else keeps two calls that both read no open incident from
opening one each.
-/
namespace SocTriage.OpenIncidentRace
open Audit Incidents IncidentCallers IncidentRuns Assessment

inductive Request where
  | assess (request : Assessment.Request)
  | status (request : IncidentRace.Request)

/-- Where an operation stands. `seen` are the incidents of the group that the first read was answered from. -/
inductive Progress where
  | asked (request : Assessment.Request)
  | unopened (request : Assessment.Request) (severity : DecisionSeverity) (seen : List String)
  | numbered (request : Assessment.Request) (severity : DecisionSeverity) (seen : List String) (incident_id : String)
  | joining (request : Assessment.Request) (existing : Incident)
  | status (progress : IncidentRace.Progress)

/-- The incidents of a group, as a read sees them. -/
def of_group (db : Database) (group_key : String) : List String :=
  (db.incidents.rows.filter (fun row => row.dedupe_group_key = group_key)).map Incident.incident_id

/-- The first read; a call without an alert row or a severity raises, and one that asks for no incident runs alone. -/
def read_open (request : Assessment.Request) (db : Database) : Option Progress :=
  if request.decision.action = .OPEN_INCIDENT ∧ db.alerts.has request.alert_id then
    match open_for_group db request.dedupe_group_key with
    | some existing => some (.joining request existing)
    | none => request.decision.severity.map
        (fun severity => .unopened request severity (of_group db request.dedupe_group_key))
  else none

/-- The second read. -/
def read_greatest (request : Assessment.Request) (severity : DecisionSeverity) (seen : List String) (db : Database) :
    Option Progress :=
  match next_sequence_id "INC" (db.incidents.rows.map Incident.incident_id) request.occurred_at with
  | .ok incident_id => some (.numbered request severity seen incident_id)
  | .error _ => none

/-- The incident table after the insert, when no constraint refuses it. -/
def inserted (request : Assessment.Request) (severity : DecisionSeverity) (incident_id : String) (db : Database) :
    Option (Table Incident.incident_id) :=
  db.incidents.insertUnique Incident.primary_alert_id
    (opened incident_id request.alert_id severity request.dedupe_group_key request.occurred_at)

private theorem linked_alert_id (incident_id : String) (row : Alert) : (linked incident_id row).alert_id = row.alert_id := rfl

/-- The writes of a call that creates; a refused insert rolls all of them back. -/
def write_created (request : Assessment.Request) (severity : DecisionSeverity) (incident_id : String) (db : Database) :
    Database :=
  match inserted request severity incident_id db with
  | none => db
  | some incidents =>
    { scored request db with
      incidents
      alerts := (scored request db).alerts.modify request.alert_id (linked incident_id) (linked_alert_id incident_id) }.append
      (audit_entries_for_incident
        (opened incident_id request.alert_id severity request.dedupe_group_key request.occurred_at)) request.occurred_at

/-- The writes of a call that joins. -/
def write_joined (request : Assessment.Request) (existing : Incident) (db : Database) : Database :=
  match attach (scored request db) request.alert_id existing.incident_id with
  | .error _ => db
  | .ok db => db

def advance (fault : Bool) (progress : Progress) (db : Database) : Database × Option Progress :=
  match progress with
  | .asked request => (db, if fault then none else read_open request db)
  | .unopened request severity seen => (db, if fault then none else read_greatest request severity seen db)
  | .numbered request severity _ incident_id => (if fault then db else write_created request severity incident_id db, none)
  | .joining request existing => (if fault then db else write_joined request existing db, none)
  | .status progress => ((IncidentRace.advance fault progress db).1, (IncidentRace.advance fault progress db).2.map .status)

def machine : Interleaving.Machine Database IncidentRuns.Event Request Progress where
  alone := fun event db => IncidentRuns.step db event
  launch
    | .assess request => .asked request
    | .status request => .status (.asked request)
  advance := advance

abbrev Config := Interleaving.Config Database Progress
abbrev Event := Interleaving.Event IncidentRuns.Event Request

/-- The configuration a sequence of statements ends in, from an empty database. -/
def after (events : List Event) : Config := Runs.run (Interleaving.step machine) { shared := {} } events

/-- An insert that passes finds no open incident of its group but those its call read the group with. -/
def undisturbed (config : Config) : Event → Bool
  | .advance op false =>
    match config.progress op with
    | some (.numbered request severity seen incident_id) =>
      (inserted request severity incident_id config.shared).isNone ||
        config.shared.incidents.rows.all (fun row =>
          !(row.dedupe_group_key = request.dedupe_group_key ∧ row.status = .OPEN) || seen.contains row.incident_id)
    | _ => true
  | _ => true

/-! ### Nothing in between -/

/-- The statements of one operation, one after the other. -/
def together : Nat → Option Progress → Database → Database
  | n + 1, some progress, db => together n (advance false progress db).2 (advance false progress db).1
  | _, _, db => db

/-- With nothing in between, the statements of a call are `persist_assessment`. -/
theorem together_asked {request : Assessment.Request} (asked : request.decision.action = .OPEN_INCIDENT) (db : Database) :
    together 3 (some (.asked request)) db = (persist_assessment request false db).2 := by
  rw [persist_assessment_database, together, advance, read_open, asked]
  cases found : db.alerts.get request.alert_id with
  | none =>
    have missing : db.alerts.has request.alert_id = false := by rw [Table.has, found]; rfl
    simp [assess, update_normalized_payload, found, missing, bind, Except.bind, together]
  | some alert =>
    have present : db.alerts.has request.alert_id = true := by rw [Table.has, found]; rfl
    have work : assess request db = open_or_attach request (scored request db) := by
      simp [assess, update_normalized_payload, found, asked, bind, Except.bind, scored]
    have read : open_for_group (scored request db) request.dedupe_group_key =
        open_for_group db request.dedupe_group_key := rfl
    rw [work, open_or_attach, read]
    simp only [present, and_self, ↓reduceIte, Bool.false_eq_true]
    cases opened_before : open_for_group db request.dedupe_group_key with
    | some existing =>
      simp only [together, advance, Bool.false_eq_true, ↓reduceIte, write_joined]
      cases attach (scored request db) request.alert_id existing.incident_id <;> rfl
    | none =>
      cases request.decision.severity with
      | none => rfl
      | some severity =>
        have written : (scored request db).alerts.get request.alert_id = some (rewritten request.canonical alert) :=
          @Table.get_modify_self _ _ _ _ _ _ (rewritten request.canonical) (fun _ => rfl) _ found
        have same : (scored request db).incidents = db.incidents := rfl
        have opening : create (scored request db) request.alert_id severity request.dedupe_group_key request.occurred_at =
            (next_sequence_id "INC" (db.incidents.rows.map Incident.incident_id) request.occurred_at >>= fun incident_id =>
              match inserted request severity incident_id db with
              | none => .error .database
              | some incidents => .ok
                (opened incident_id request.alert_id severity request.dedupe_group_key request.occurred_at,
                  { scored request db with
                    incidents
                    alerts := (scored request db).alerts.modify request.alert_id (linked incident_id) })) := by
          rw [create, written]
          refine bind_congr (fun incident_id => ?_)
          rw [inserted, same]
          cases db.incidents.insertUnique Incident.primary_alert_id _ with
          | none => rfl
          | some incidents => simp only [link_alert, written]; rfl
        simp only [opening, Option.map_some, together, advance, Bool.false_eq_true, ↓reduceIte, read_greatest]
        cases numbered : next_sequence_id "INC" (db.incidents.rows.map Incident.incident_id) request.occurred_at with
        | error e => rfl
        | ok incident_id =>
          simp only [together, advance, Bool.false_eq_true, ↓reduceIte, write_created, bind, Except.bind]
          cases inserted request severity incident_id db <;> rfl

/-! ### One open incident -/

/-- No group has two open incidents. -/
def OneOpen (db : Database) : Prop :=
  ∀ a ∈ db.incidents.rows, ∀ b ∈ db.incidents.rows, a.dedupe_group_key = b.dedupe_group_key →
    a.status = .OPEN → b.status = .OPEN → a.incident_id = b.incident_id

instance (db : Database) : Decidable (OneOpen db) := List.decidableBAll _ _

/-- A later version of an incident, which is open only if it was. -/
private def Later (row row' : Incident) : Prop :=
  row'.incident_id = row.incident_id ∧ row'.dedupe_group_key = row.dedupe_group_key ∧
    (row'.status = .OPEN → row.status = .OPEN)

/-- Incidents stay, and none is opened again. -/
private def Onward (db db' : Database) : Prop :=
  ∀ row ∈ db.incidents.rows, ∃ row' ∈ db'.incidents.rows, Later row row'

/-- No incident is new. -/
private def Backward (db db' : Database) : Prop :=
  ∀ row' ∈ db'.incidents.rows, ∃ row ∈ db.incidents.rows, Later row row'

/-- What a call knows of the incidents its first read was answered from: they are there, and none is open. -/
private def Relies (db : Database) : Progress → Prop
  | .unopened _ _ seen => ∀ id ∈ seen, ∃ row ∈ db.incidents.rows, row.incident_id = id ∧ row.status ≠ .OPEN
  | .numbered _ _ seen _ => ∀ id ∈ seen, ∃ row ∈ db.incidents.rows, row.incident_id = id ∧ row.status ≠ .OPEN
  | .status progress => IncidentRace.Checks progress
  | _ => True

section
variable {db db' : Database}

private theorem later_trans {a b c : Incident} (first : Later a b) (second : Later b c) : Later a c :=
  ⟨second.1.trans first.1, second.2.1.trans first.2.1, fun is_open => first.2.2 (second.2.2 is_open)⟩

private theorem onward_refl (db : Database) : Onward db db := fun row inside => ⟨row, inside, rfl, rfl, id⟩

private theorem onward_trans {mid : Database} (first : Onward db mid) (second : Onward mid db') : Onward db db' := by
  intro row inside
  obtain ⟨middle, there, later⟩ := first row inside
  obtain ⟨row', here, later'⟩ := second middle there
  exact ⟨row', here, later_trans later later'⟩

private theorem one_open_backward (one : OneOpen db) (backward : Backward db db') : OneOpen db' := by
  intro a inside b inside' same a_open b_open
  obtain ⟨a', there, id, group, opened⟩ := backward a inside
  obtain ⟨b', there', id', group', opened'⟩ := backward b inside'
  rw [id, id']
  exact one a' there b' there' (group.symm.trans (same.trans group')) (opened a_open) (opened' b_open)

/-- A change of one incident that does not open it. -/
private theorem modify_onward {incident_id : String} {change : Incident → Incident}
    {keeps : ∀ row : Incident, (change row).incident_id = row.incident_id}
    (incidents : db'.incidents = db.incidents.modify incident_id change keeps) (later : ∀ row, Later row (change row)) :
    Onward db db' ∧ Backward db db' := by
  rw [Onward, Backward, incidents]
  constructor
  · intro row inside
    by_cases mine : row.incident_id = incident_id
    · exact ⟨change row, Table.mem_modify.mpr (.inl ⟨row, inside, mine, rfl⟩), later row⟩
    · exact ⟨row, Table.mem_modify.mpr (.inr ⟨inside, mine⟩), rfl, rfl, id⟩
  · intro row' inside
    rcases Table.mem_modify.mp inside with ⟨row, stored, _, rfl⟩ | ⟨stored, _⟩
    · exact ⟨row, stored, later row⟩
    · exact ⟨row', stored, rfl, rfl, id⟩

/-- A new incident in a group without an open one. -/
private theorem insert_one_open {row : Incident} (one : OneOpen db) (done : db.incidents.insert row = some db'.incidents)
    (none_open : ∀ old ∈ db.incidents.rows, old.dedupe_group_key = row.dedupe_group_key → old.status ≠ .OPEN) :
    Onward db db' ∧ OneOpen db' := by
  constructor
  · intro old inside
    exact ⟨old, (Table.mem_insert done).mpr (.inl inside), rfl, rfl, id⟩
  · intro a inside b inside' same a_open b_open
    rcases (Table.mem_insert done).mp inside with old | rfl
    · rcases (Table.mem_insert done).mp inside' with old' | rfl
      · exact one a old b old' same a_open b_open
      · exact absurd a_open (none_open a old same)
    · rcases (Table.mem_insert done).mp inside' with old' | rfl
      · exact absurd b_open (none_open b old' same.symm)
      · rfl

private theorem moved_one_open (one : OneOpen db) (moved : Moved db db') : Onward db db' ∧ OneOpen db' := by
  cases moved with
  | quiet incidents _ =>
    rw [Onward, OneOpen, incidents]
    exact ⟨onward_refl db, one⟩
  | created incident_id alert_id severity group_key occurred_at none_open inserted _ =>
    exact insert_one_open one inserted (open_for_group_none.mp none_open)
  | stepped row target _ _ occurred_at _ allowed incidents _ =>
    have later : ∀ row, Later row (stepped row target occurred_at) :=
      fun row => ⟨rfl, rfl, fun is_open => absurd is_open (can_transition_not_open allowed)⟩
    obtain ⟨onward, backward⟩ := modify_onward incidents later
    exact ⟨onward, one_open_backward one backward⟩
  | closed row _ _ as_of _ _ incidents _ =>
    have later : ∀ row, Later row (closed as_of row) := fun row => ⟨rfl, rfl, fun is_open => by contradiction⟩
    obtain ⟨onward, backward⟩ := modify_onward incidents later
    exact ⟨onward, one_open_backward one backward⟩

private theorem path_one_open (one : OneOpen db) (path : Relation.ReflTransGen Moved db db') :
    Onward db db' ∧ OneOpen db' := by
  induction path with
  | refl => exact ⟨onward_refl db, one⟩
  | tail _ moved ih =>
    obtain ⟨onward, after⟩ := moved_one_open ih.2 moved
    exact ⟨onward_trans ih.1 onward, after⟩

/-- A status written from a stale read opens no incident either. -/
private theorem status_one_open (fault : Bool) {progress : IncidentRace.Progress} (one : OneOpen db)
    (checks : IncidentRace.Checks progress) :
    Onward db (IncidentRace.advance fault progress db).1 ∧ OneOpen (IncidentRace.advance fault progress db).1 := by
  rcases IncidentRace.advance_cases fault checks db with same | ⟨checked, rfl, rfl, written⟩ | moved
  · rw [same]; exact ⟨onward_refl db, one⟩
  · rw [written]
    have closes := can_transition_not_open checks
    have later : ∀ row, Later row (IncidentRace.flushed checked.row
        (stepped checked.row checked.target checked.analyst.occurred_at) row) := by
      intro row
      refine ⟨rfl, rfl, ?_⟩
      intro is_open
      by_cases same : checked.target = checked.row.status
      · rwa [IncidentRace.flushed, stepped, if_pos same] at is_open
      · rw [IncidentRace.flushed, stepped, if_neg same] at is_open
        exact absurd is_open closes
    obtain ⟨onward, backward⟩ := modify_onward (IncidentRace.write_incidents checked db) later
    exact ⟨onward, one_open_backward one backward⟩
  · exact moved_one_open one moved

private theorem joined_incidents (request : Assessment.Request) (existing : Incident) (db : Database) :
    (write_joined request existing db).incidents = db.incidents := by
  rw [write_joined]
  cases joined : attach (scored request db) request.alert_id existing.incident_id with
  | error e => rfl
  | ok after =>
    obtain ⟨_, _, rfl⟩ := attach_ok joined
    rfl

/-- The insert of a call: it is refused, or it adds one open incident. -/
private theorem created_incidents (request : Assessment.Request) (severity : DecisionSeverity) (incident_id : String)
    (db : Database) :
    (inserted request severity incident_id db = none ∧ write_created request severity incident_id db = db) ∨
    (∃ incidents, inserted request severity incident_id db = some incidents ∧
      (write_created request severity incident_id db).incidents = incidents ∧
      db.incidents.insert (opened incident_id request.alert_id severity request.dedupe_group_key request.occurred_at) =
        some incidents) := by
  rw [write_created]
  cases done : inserted request severity incident_id db with
  | none => exact .inl ⟨rfl, rfl⟩
  | some incidents => exact .inr ⟨incidents, rfl, rfl, (Table.insertUnique_eq_some.mp done).2⟩

private theorem seen_stable {seen : List String} (onward : Onward db db')
    (relies : ∀ id ∈ seen, ∃ row ∈ db.incidents.rows, row.incident_id = id ∧ row.status ≠ .OPEN) :
    ∀ id ∈ seen, ∃ row ∈ db'.incidents.rows, row.incident_id = id ∧ row.status ≠ .OPEN := by
  intro id inside
  obtain ⟨row, there, same, not_open⟩ := relies id inside
  obtain ⟨row', here, key, _, opened⟩ := onward row there
  exact ⟨row', here, key.trans same, fun is_open => not_open (opened is_open)⟩

private theorem relies_stable {progress : Progress} (onward : Onward db db') (relies : Relies db progress) :
    Relies db' progress := by
  cases progress with
  | asked | joining => trivial
  | unopened | numbered => exact seen_stable onward relies
  | status => exact relies

/-- The incidents of a group without an open one, as the first read records them. -/
private theorem read_relies {request : Assessment.Request} {next : Progress} (read : read_open request db = some next) :
    Relies db next := by
  rw [read_open] at read
  split at read
  · split at read
    · cases read; trivial
    · rename_i none_open
      obtain ⟨severity, _, rfl⟩ := Option.map_eq_some_iff.mp read
      intro id inside
      obtain ⟨row, member, rfl⟩ := List.mem_map.mp inside
      rw [List.mem_filter] at member
      exact ⟨row, member.1, rfl, open_for_group_none.mp none_open row member.1 (of_decide_eq_true member.2)⟩
  · contradiction

private theorem advance_relies (fault : Bool) {progress next : Progress} (relies : Relies db progress)
    (left : (advance fault progress db).2 = some next) : Relies db next := by
  cases progress with
  | asked request =>
    cases fault with
    | true => contradiction
    | false => exact read_relies left
  | unopened request severity seen =>
    cases fault with
    | true => contradiction
    | false =>
      have left : read_greatest request severity seen db = some next := left
      rw [read_greatest] at left
      split at left
      · cases left; exact relies
      · contradiction
  | numbered | joining => contradiction
  | status progress =>
    obtain ⟨progress', moved, rfl⟩ := Option.map_eq_some_iff.mp left
    exact (IncidentRace.advance_checks relies moved).1

/-- What the next statement of an operation guarantees, when its insert finds no open incident it has not read. -/
private theorem advance_one_open (fault : Bool) {progress : Progress} (one : OneOpen db) (relies : Relies db progress)
    (clear : ∀ request severity seen incident_id, progress = .numbered request severity seen incident_id → fault = false →
      inserted request severity incident_id db ≠ none → ∀ row ∈ db.incidents.rows,
        row.dedupe_group_key = request.dedupe_group_key → row.status = .OPEN → row.incident_id ∈ seen) :
    Onward db (advance fault progress db).1 ∧ OneOpen (advance fault progress db).1 := by
  have still : Onward db db ∧ OneOpen db := ⟨onward_refl db, one⟩
  cases progress with
  | asked | unopened => exact still
  | numbered request severity seen incident_id =>
    cases fault with
    | true => exact still
    | false =>
      have written : (advance false (.numbered request severity seen incident_id) db).1 =
          write_created request severity incident_id db := rfl
      rw [written]
      rcases created_incidents request severity incident_id db with ⟨_, same⟩ | ⟨incidents, passed, rfl, done⟩
      · rw [same]; exact still
      · refine insert_one_open one done ?_
        intro old inside group is_open
        have known := clear request severity seen incident_id rfl rfl (by rw [passed]; exact Option.some_ne_none _) old
          inside group is_open
        obtain ⟨row, there, key, not_open⟩ := relies _ known
        rw [Table.eq_of_key there inside key] at not_open
        exact not_open is_open
  | joining request existing =>
    cases fault with
    | true => exact still
    | false =>
      have written : (advance false (.joining request existing) db).1 = write_joined request existing db := rfl
      rw [Onward, OneOpen, written, joined_incidents]
      exact still
  | status progress => exact status_one_open fault one relies
end

private theorem undisturbed_iff {config : Config} {op : Nat} {request : Assessment.Request} {severity : DecisionSeverity}
    {seen : List String} {incident_id : String}
    (running : config.progress op = some (.numbered request severity seen incident_id)) :
    undisturbed config (.advance op false) = true ↔
      inserted request severity incident_id config.shared = none ∨ ∀ row ∈ config.shared.incidents.rows,
        row.dedupe_group_key = request.dedupe_group_key → row.status = .OPEN → row.incident_id ∈ seen := by
  have clauses : ∀ row : Incident,
      (row.dedupe_group_key = request.dedupe_group_key → row.status = .OPEN → row.incident_id ∈ seen) ↔
      (¬ (row.dedupe_group_key = request.dedupe_group_key ∧ row.status = .OPEN) ∨ row.incident_id ∈ seen) := by
    intro row; tauto
  simp only [undisturbed, running, clauses, Bool.or_eq_true, Option.isNone_iff_eq_none, List.all_eq_true,
    Bool.not_eq_true', decide_eq_false_iff_not, List.contains_iff_mem]

/-- The argument: calls rely on none of the incidents they read being open, and no step opens an incident again. -/
private def outline : Interleaving.Outline machine (fun config event => undisturbed config event = true) where
  Inv := OneOpen
  Relies := Relies
  Guarantees := Onward
  refl := onward_refl
  trans := onward_trans
  stable := relies_stable
  launch := fun _ request _ => by cases request <;> trivial
  alone := fun config event _ one => path_one_open one (step_moved config.shared event)
  advance := by
    intro config op fault progress running clear one relies
    have moved := advance_one_open fault one relies (by
      rintro request severity seen incident_id rfl rfl passed row inside group is_open
      rcases (undisturbed_iff running).mp clear with refused | known
      · exact absurd refused passed
      · exact known row inside group is_open)
    exact ⟨moved.1, moved.2, fun next left => relies_stable moved.1 (advance_relies fault relies left)⟩

/-- A disturbed insert leaves two open incidents in its group. -/
private theorem disturbed_breaks {config : Config} {event : Event} (disturbed : undisturbed config event ≠ true) :
    ¬ OneOpen (Interleaving.step machine config event).shared := by
  cases event with
  | alone | launch => exact absurd rfl disturbed
  | advance op fault =>
    cases running : config.progress op with
    | none => cases fault <;> simp [undisturbed, running] at disturbed
    | some progress =>
      cases fault with
      | true => exact absurd rfl disturbed
      | false =>
        cases progress with
        | asked | unopened | joining | status => simp [undisturbed, running] at disturbed
        | numbered request severity seen incident_id =>
          rw [Ne, undisturbed_iff running] at disturbed
          push Not at disturbed
          obtain ⟨passed, row, inside, group, is_open, _⟩ := disturbed
          rcases created_incidents request severity incident_id config.shared with ⟨refused, _⟩ |
            ⟨incidents, _, written, done⟩
          · exact absurd refused passed
          · intro one
            have after : (Interleaving.step machine config (.advance op false)).shared.incidents = incidents := by
              simp only [Interleaving.step, running]
              exact written
            rw [OneOpen, after] at one
            have both := one row ((Table.mem_insert done).mpr (.inl inside)) _ ((Table.mem_insert done).mpr (.inr rfl))
              group is_open rfl
            exact Table.get_eq_none.mp (Table.insert_fresh done) row inside both

/-- An interleaving keeps one open incident per group in all its states exactly when no insert of it passes beside an
    open incident that was committed after its call had read the group. -/
theorem one_open_iff_undisturbed (events : List Event) :
    (∀ earlier later, events = earlier ++ later → OneOpen (after earlier).shared) ↔
      Runs.Along (Interleaving.step machine) (fun config event => undisturbed config event = true)
        { shared := {} } events := by
  constructor
  · intro one
    rw [Runs.along_iff]
    intro first event rest split
    by_contra disturbed
    refine disturbed_breaks disturbed ?_
    have next := one (first ++ [event]) rest (by rw [split, List.append_assoc]; rfl)
    rwa [after, Runs.run_append] at next
  · rintro clear earlier later rfl
    have empty : OneOpen {} := fun a none => absurd none List.not_mem_nil
    have start : outline.Holds { shared := {} } := ⟨empty, fun op progress none => by contradiction⟩
    exact (outline.sound start (Runs.along_append.mp clear).1).2.1

/-- Two assessments of one group, each reading and numbering before the other writes. -/
def crossed (first second : Int) : List Event :=
  [.alone (login_recorded "a1" "wazuh:5710:001" first), .alone (login_recorded "a2" "wazuh:5710:001" second),
    .launch 1 (.assess (login_assessed "a1" "wazuh:5710:001" first)),
    .launch 2 (.assess (login_assessed "a2" "wazuh:5710:001" second)),
    .advance 1 false, .advance 2 false, .advance 1 false, .advance 2 false, .advance 1 false, .advance 2 false]

/-- On one day the ids collide, and the second insert is refused. -/
example : (after (crossed 0 1000000)).shared.incidents.rows.map Incident.incident_id = ["INC-1970-01-01-0001"] := by decide

/-- Around midnight they do not, and the group has two open incidents. -/
theorem midnight_opens_two : ¬ ∀ events : List Event, OneOpen (after events).shared := by
  intro one
  have broken := one (crossed 86399000000 86400000000)
  revert broken
  decide

end SocTriage.OpenIncidentRace
