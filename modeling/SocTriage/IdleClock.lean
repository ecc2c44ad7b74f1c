import SocTriage.AutoClose

/-!
The idle clock of an incident. The sweeper reads idleness from `updated_at`, which only a
lifecycle step moves: a note, a containment request and a verdict without a legal
transition are recorded and leave it where it was. Activity restarts the clock exactly
when it steps the incident, and the sweeper respects all activity exactly in the runs
where it always does.
-/
namespace SocTriage.IdleClock
open Incidents IncidentCallers Assessment
open AutoClose (Eligible sweep_incident)

inductive Event where
  | operation (event : IncidentRuns.Event)
  | note (request : NoteRequest) (fault : Bool)

/-- The database, and what analysts have done: the incident and the time. -/
structure World where
  db : Database := {}
  activity : List (String × Int) := []

/-- The incident a feedback is about: the one its alert is linked to. -/
def about (db : Database) (request : FeedbackRequest) (fault : Bool) : Option Incident :=
  if fault then none else for_alert db request.alert_id

/-- The incident a status update steps. -/
def updatable (db : Database) (request : StatusRequest) (fault : Bool) : Option Incident :=
  if fault then none else (db.incidents.get request.incident_id).filter (fun row => can_transition row.status request.status)

/-- The incident a note is added to. -/
def noted (db : Database) (request : NoteRequest) (fault : Bool) : Option Incident :=
  if fault ∨ Text.strip request.note = "" then none else db.incidents.get request.incident_id

/-- The incident an analyst acts on with success, the time, and the status the act steps it to, if it does. -/
def act (db : Database) : Event → Option (Incident × Int × Option IncidentStatus)
  | .operation (.feedback request fault) =>
    (about db request fault).map (fun row => (row, request.received_at, plan_incident_sync row request.verdict))
  | .operation (.update request fault) =>
    (updatable db request fault).map (fun row => (row, request.occurred_at, some request.status))
  | .note request fault => (noted db request fault).map (fun row => (row, request.occurred_at, none))
  | .operation _ => none

def step (world : World) (event : Event) : World where
  db := match event with
    | .operation event => IncidentRuns.step world.db event
    | .note request fault => (add_incident_note request fault world.db).2
  activity := world.activity ++ ((act world.db event).map (fun done => (done.1.incident_id, done.2.1))).toList

/-- The idle clock of every active incident has been restarted by all activity on it. -/
def Clocked (world : World) : Prop :=
  ∀ done ∈ world.activity, ∀ row ∈ world.db.incidents.get done.1, terminal row.status = false → done.2 ≤ row.updated_at

/-- A sweep closes no incident with activity within the TTL before its time. -/
def Respected (world : World) : Event → Prop
  | .operation (.sweep ttl_seconds as_of fault) =>
    ∀ done ∈ world.activity, as_of - seconds ttl_seconds < done.2 → done.2 ≤ as_of →
      ∀ row ∈ world.db.incidents.get done.1, terminal row.status = false →
        (step world (.operation (.sweep ttl_seconds as_of fault))).db.incidents.get done.1 = some row
  | _ => True

/-- The activity of a step restarts the clock, and a sweep respects it. -/
def Holds (world : World) (event : Event) : Prop := Respected world event ∧ Clocked (step world event)

/-- An act on an active incident steps it, no earlier than anything recorded on it before, or it finds the clock at its
    own time already. -/
def Timely (world : World) (event : Event) : Prop :=
  ∀ done ∈ act world.db event, terminal done.1.status = false →
    match done.2.2 with
    | none => done.2.1 ≤ done.1.updated_at
    | some target => terminal target = true ∨
      ∀ earlier ∈ world.activity, earlier.1 = done.1.incident_id → earlier.2 ≤ done.2.1

instance (world : World) : Decidable (Clocked world) := List.decidableBAll _ _

instance : ∀ (world : World) (event : Event), Decidable (Respected world event)
  | world, .operation (.sweep ttl_seconds as_of fault) =>
    List.decidableBAll (fun done : String × Int => as_of - seconds ttl_seconds < done.2 → done.2 ≤ as_of →
      ∀ row ∈ world.db.incidents.get done.1, terminal row.status = false →
        (step world (.operation (.sweep ttl_seconds as_of fault))).db.incidents.get done.1 = some row) world.activity
  | _, .operation (.record _ _) => isTrue trivial
  | _, .operation (.assess _ _) => isTrue trivial
  | _, .operation (.update _ _) => isTrue trivial
  | _, .operation (.feedback _ _) => isTrue trivial
  | _, .note _ _ => isTrue trivial

instance (world : World) (event : Event) : Decidable (Holds world event) := inferInstanceAs (Decidable (_ ∧ _))

/-! ### What a step does to the incidents -/

/-- What one event leaves of the incidents: an act steps its incident or nothing, an assessment may add one, a sweep
    closes eligible ones. -/
inductive Changed (db : Database) (event : Event) (incidents : Table Incident.incident_id) : Prop
  | still (same : incidents = db.incidents) (idle : ∀ done ∈ act db event, done.2.2 = none)
  | stepped (row : Incident) (time : Int) (target : IncidentStatus) (acts : act db event = some (row, time, some target))
      (found : db.incidents.get row.incident_id = some row) (allowed : can_transition row.status target = true)
      (same : incidents = db.incidents.modify row.incident_id (fun old => Incidents.stepped old target time))
  | created (row : Incident) (inserted : db.incidents.insert row = some incidents) (idle : act db event = none)
  | swept (ttl_seconds : Nat) (as_of : Int) (fault : String → Bool)
      (sweep : event = .operation (.sweep ttl_seconds as_of fault))
      (each : ∀ incident_id, incidents.get incident_id = db.incidents.get incident_id ∨
        ∃ row, db.incidents.get incident_id = some row ∧ Eligible ttl_seconds as_of row ∧
          incidents.get incident_id = some (closed as_of row))

section
variable {db : Database}

/-- A step of the repository, as a change of the row that was read. -/
private theorem update_stepped {row : Incident} {target : IncidentStatus} {time : Int}
    (found : db.incidents.get row.incident_id = some row) (allowed : can_transition row.status target = true) :
    update_status db row.incident_id target time = .ok (stepped row target time,
      { db with incidents := db.incidents.modify row.incident_id (fun old => stepped old target time) }) := by
  rw [update_status, found]
  exact if_pos allowed

/-- The synchronization always succeeds, and steps the incident when a step is planned. -/
private theorem sync_changed {incident : Incident} (found : db.incidents.get incident.incident_id = some incident)
    (request : FeedbackRequest) : ∃ db', sync_incident_with_feedback db incident request = .ok db' ∧
      db'.incidents = match plan_incident_sync incident request.verdict with
        | none => db.incidents
        | some target => db.incidents.modify incident.incident_id (fun old => stepped old target request.received_at) := by
  rw [sync_incident_with_feedback]
  by_cases contain : request.verdict = .CONTAIN_REQUESTED
  · rw [if_pos contain, plan_incident_sync, if_pos contain]
    exact ⟨_, rfl, rfl⟩
  · rw [if_neg contain]
    cases planned : plan_incident_sync incident request.verdict with
    | none => exact ⟨_, rfl, rfl⟩
    | some target =>
      have executed := @update_stepped db incident target request.received_at found (plan_incident_sync_allowed planned)
      dsimp only
      rw [executed]
      exact ⟨_, rfl, rfl⟩

private theorem feedback_changed (request : FeedbackRequest) (fault : Bool) :
    Changed db (.operation (.feedback request fault)) (submit_feedback request fault db).2.incidents := by
  rw [submit_feedback]
  cases fault with
  | true => exact .still rfl (fun done none => by contradiction)
  | false =>
    have acts : act db (.operation (.feedback request false)) = (for_alert db request.alert_id).map
        (fun row => (row, request.received_at, plan_incident_sync row request.verdict)) := rfl
    have linked : for_alert (recorded request db) request.alert_id = for_alert db request.alert_id := rfl
    simp only [Bool.false_eq_true, ↓reduceIte, Database.session_scope, feedback_work, linked]
    cases found : db.alerts.get request.alert_id with
    | none =>
      have unlinked : for_alert db request.alert_id = none := by rw [for_alert, found]; rfl
      exact .still rfl (by rw [acts, unlinked]; intro done none; contradiction)
    | some alert =>
      cases same : for_alert db request.alert_id with
      | none => exact .still rfl (by rw [acts, same]; intro done none; contradiction)
      | some incident =>
        rw [same, Option.map_some] at acts
        have stored : (recorded request db).incidents.get incident.incident_id = some incident :=
          IncidentRuns.for_alert_get same
        obtain ⟨db', synced, incidents⟩ := sync_changed stored request
        simp only [synced, bind, Except.bind]
        cases planned : plan_incident_sync incident request.verdict with
        | none =>
          rw [planned] at incidents acts
          refine .still incidents ?_
          rw [acts]
          rintro done ⟨⟩
          rfl
        | some target =>
          rw [planned] at incidents acts
          exact .stepped incident request.received_at target acts stored (plan_incident_sync_allowed planned) incidents

private theorem update_changed (request : StatusRequest) (fault : Bool) :
    Changed db (.operation (.update request fault)) (update_incident_status request fault db).2.incidents := by
  have acts : act db (.operation (.update request fault)) = (updatable db request fault).map
      (fun row => (row, request.occurred_at, some request.status)) := rfl
  rw [update_incident_status]
  cases fault with
  | true => exact .still rfl (fun done none => by contradiction)
  | false =>
    simp only [Bool.false_eq_true, ↓reduceIte, Database.session_scope, status_work]
    simp only [updatable, Bool.false_eq_true, ↓reduceIte] at acts
    cases found : db.incidents.get request.incident_id with
    | none => exact .still rfl (by rw [acts, found]; intro done none; contradiction)
    | some row =>
      have key : row.incident_id = request.incident_id := Table.get_key found
      rw [found] at acts
      dsimp only
      by_cases allowed : can_transition row.status request.status = true
      · rw [Option.filter_some, if_pos allowed, Option.map_some] at acts
        rw [← key] at found ⊢
        rw [update_stepped found allowed]
        exact .stepped row request.occurred_at request.status acts found allowed rfl
      · rw [Option.filter_some, if_neg allowed] at acts
        have refused : update_status db request.incident_id request.status request.occurred_at =
            .error (.invalid_transition row.status request.status) := by
          rw [update_status, found]
          exact if_neg allowed
        rw [refused]
        exact .still rfl (by rw [acts]; intro done none; contradiction)

private theorem note_incidents (request : NoteRequest) (fault : Bool) :
    (add_incident_note request fault db).2.incidents = db.incidents := by
  rw [add_incident_note]
  split
  · rfl
  · cases fault with
    | true => rfl
    | false =>
      simp only [Bool.false_eq_true, ↓reduceIte, Database.session_scope, note_work]
      cases db.incidents.get request.incident_id <;> rfl

private theorem assess_changed (request : Request) (fault : Bool) :
    Changed db (.operation (.assess request fault)) (persist_assessment request fault db).2.incidents := by
  have nobody : act db (.operation (.assess request fault)) = none := rfl
  have quiet : ∀ done ∈ act db (.operation (.assess request fault)), done.2.2 = none := by
    rw [nobody]; intro done none; contradiction
  rcases persist_assessment_cases request fault db with ⟨incident_id, db', same, _, executed⟩ | ⟨result, same, _⟩
  · rw [same]
    cases (assess_ok executed).2 with
    | routed other => exact .still rfl quiet
    | created asked none_open new =>
      obtain ⟨_, _, incidents, _, _, _, _, inserted, rfl⟩ := create_ok new
      exact .created _ inserted nobody
    | attached asked oldest joined =>
      obtain ⟨_, _, rfl⟩ := attach_ok joined
      exact .still rfl quiet
  · rw [same]
    exact .still rfl quiet

/-- Every event changes the incidents in one of these ways. -/
private theorem step_changed (world : World) (event : Event) :
    Changed world.db event (step world event).db.incidents := by
  cases event with
  | note request fault =>
    refine .still (note_incidents request fault) ?_
    intro done acted
    obtain ⟨row, _, rfl⟩ := Option.map_eq_some_iff.mp acted
    rfl
  | operation event =>
    cases event with
    | record group record =>
      have ran : (step world (.operation (.record group record))).db =
        IncidentRuns.step world.db (.record group record) := rfl
      refine .still ?_ (fun done none => by contradiction)
      rw [ran, IncidentRuns.step]
      split <;> rfl
    | assess request fault => exact assess_changed request fault
    | update request fault => exact update_changed request fault
    | feedback request fault => exact feedback_changed request fault
    | sweep ttl_seconds as_of fault =>
      refine .swept ttl_seconds as_of fault rfl ?_
      intro incident_id
      have ran : (step world (.operation (.sweep ttl_seconds as_of fault))).db =
          IncidentRuns.step world.db (.sweep ttl_seconds as_of fault) := rfl
      rw [ran, IncidentRuns.step]
      cases done : sweep_once ttl_seconds as_of fault world.db with
      | error e => exact .inl rfl
      | ok value => exact sweep_incident done incident_id
end

/-! ### Runs -/

/-- Activity is about stored incidents. -/
def Known (world : World) : Prop := ∀ done ∈ world.activity, ∃ row, world.db.incidents.get done.1 = some row

section
variable {world : World} {event : Event}

/-- An act is on a stored incident. -/
private theorem act_stored {done : Incident × Int × Option IncidentStatus} (acted : act world.db event = some done) :
    world.db.incidents.get done.1.incident_id = some done.1 := by
  cases event with
  | note request fault =>
    obtain ⟨row, found, rfl⟩ := Option.map_eq_some_iff.mp acted
    rw [noted] at found
    split at found
    · contradiction
    · have key : row.incident_id = request.incident_id := Table.get_key found
      rw [key]; exact found
  | operation event =>
    cases event with
    | record | assess | sweep => contradiction
    | update request fault =>
      obtain ⟨row, found, rfl⟩ := Option.map_eq_some_iff.mp acted
      rw [updatable] at found
      split at found
      · contradiction
      · obtain ⟨found, _⟩ := Option.filter_eq_some_iff.mp found
        have key : row.incident_id = request.incident_id := Table.get_key found
        rw [key]; exact found
    | feedback request fault =>
      obtain ⟨row, linked, rfl⟩ := Option.map_eq_some_iff.mp acted
      rw [about] at linked
      split at linked
      · contradiction
      · exact IncidentRuns.for_alert_get linked

private theorem mem_activity {done : String × Int} : done ∈ (step world event).activity ↔
    done ∈ world.activity ∨ ∃ acted, act world.db event = some acted ∧ done = (acted.1.incident_id, acted.2.1) := by
  have grown : (step world event).activity =
      world.activity ++ ((act world.db event).map (fun done => (done.1.incident_id, done.2.1))).toList := rfl
  rw [grown, List.mem_append, Option.mem_toList, Option.map_eq_some_iff]
  exact or_congr_right (exists_congr (fun acted => and_congr_right (fun _ => eq_comm)))

/-- Incidents stay, so activity stays about stored ones. -/
private theorem step_known (known : Known world) : Known (step world event) := by
  have stays : ∀ incident_id row, world.db.incidents.get incident_id = some row →
      ∃ row, (step world event).db.incidents.get incident_id = some row := by
    intro incident_id row found
    cases step_changed world event with
    | still same _ => exact ⟨row, same ▸ found⟩
    | stepped changed time target _ _ _ same =>
      rw [same, Table.get_modify]
      split
      · rename_i mine; rw [← mine, found]; exact ⟨_, rfl⟩
      · exact ⟨row, found⟩
    | created new inserted _ =>
      rw [Table.get_insert inserted]
      split
      · exact ⟨new, rfl⟩
      · exact ⟨row, found⟩
    | swept ttl_seconds as_of fault _ each =>
      rcases each incident_id with same | ⟨_, _, _, same⟩
      · exact ⟨row, same ▸ found⟩
      · exact ⟨_, same⟩
  intro done inside
  rcases mem_activity.mp inside with earlier | ⟨acted, happened, rfl⟩
  · obtain ⟨row, found⟩ := known done earlier
    exact stays done.1 row found
  · exact stays acted.1.incident_id acted.1 (act_stored happened)

/-- A sweep from a clocked world respects all activity. -/
private theorem respected (clocked : Clocked world) : Respected world event := by
  cases event with
  | note => trivial
  | operation event =>
    cases event with
    | record | assess | update | feedback => trivial
    | sweep ttl_seconds as_of fault =>
      intro done inside recent _ row found active
      cases step_changed world (.operation (.sweep ttl_seconds as_of fault)) with
      | still same _ => rw [same]; exact found
      | stepped _ _ _ acts _ _ _ => contradiction
      | created new inserted _ =>
        rw [Table.get_insert inserted, if_neg]
        · exact found
        · intro taken
          have fresh := Table.insert_fresh inserted
          rw [taken, found] at fresh
          contradiction
      | swept ttl_seconds as_of fault sweep each =>
        cases sweep
        rcases each done.1 with same | ⟨row', found', eligible, _⟩
        · rw [same]; exact found
        · rw [found] at found'
          cases found'
          have restarted := clocked done inside row found active
          have idle := eligible.2
          omega

/-- From a clocked world a step leaves a clocked one exactly when its act is timely. -/
private theorem clocked_iff (known : Known world) (clocked : Clocked world) :
    Clocked (step world event) ↔ Timely world event := by
  constructor
  · intro after done acted active
    have stored := act_stored acted
    have mine : (done.1.incident_id, done.2.1) ∈ (step world event).activity := mem_activity.mpr (.inr ⟨done, acted, rfl⟩)
    cases step_changed world event with
    | still same idle =>
      have kept : (step world event).db.incidents.get done.1.incident_id = some done.1 := same ▸ stored
      rw [idle done acted]
      exact after _ mine done.1 kept active
    | stepped row time target acts found _ same =>
      rw [acts] at acted
      cases acted
      dsimp only
      by_cases closes : terminal target = true
      · exact .inl closes
      · refine .inr ?_
        intro earlier inside about
        have written : (step world event).db.incidents.get earlier.1 = some (Incidents.stepped row target time) := by
          rw [same, about]; exact Table.get_modify_self found
        exact after earlier (mem_activity.mpr (.inl inside)) _ written (Bool.eq_false_iff.mpr closes)
    | created new inserted idle => rw [idle] at acted; contradiction
    | swept ttl_seconds as_of fault sweep each => cases sweep; contradiction
  · intro timely done inside row found active
    cases step_changed world event with
    | still same idle =>
      rw [same] at found
      rcases mem_activity.mp inside with earlier | ⟨acted, happened, rfl⟩
      · exact clocked done earlier row found active
      · have stored := act_stored happened
        have here : world.db.incidents.get acted.1.incident_id = some row := found
        rw [stored] at here
        cases here
        have restarted := timely acted happened active
        rw [idle acted happened] at restarted
        exact restarted
    | stepped changed time target acts stored allowed same =>
      rw [same] at found
      by_cases mine : done.1 = changed.incident_id
      · rw [mine] at found
        have written := found.symm.trans (Table.get_modify_self stored)
        cases written
        have restarted := timely (changed, time, some target) acts (not_terminal_of_can_transition allowed)
        rcases mem_activity.mp inside with earlier | ⟨acted, happened, rfl⟩
        · rcases restarted with closes | ordered
          · rw [show terminal target = false from active] at closes; contradiction
          · exact ordered done earlier mine
        · rw [acts] at happened
          cases happened
          exact le_refl time
      · rw [Table.get_modify_ne mine] at found
        rcases mem_activity.mp inside with earlier | ⟨acted, happened, rfl⟩
        · exact clocked done earlier row found active
        · rw [acts] at happened
          cases happened
          exact absurd rfl mine
    | created new inserted idle =>
      rcases mem_activity.mp inside with earlier | ⟨acted, happened, rfl⟩
      · obtain ⟨old, stored⟩ := known done earlier
        have other : new.incident_id ≠ done.1 := by
          intro taken
          have fresh := Table.insert_fresh inserted
          rw [taken, stored] at fresh
          contradiction
        have here : world.db.incidents.get done.1 = some row := by
          rw [← found, Table.get_insert inserted, if_neg other]
        exact clocked done earlier row here active
      · rw [idle] at happened; contradiction
    | swept ttl_seconds as_of fault sweep each =>
      cases sweep
      rcases mem_activity.mp inside with earlier | ⟨acted, happened, rfl⟩
      · rcases each done.1 with same | ⟨old, _, _, closes⟩
        · exact clocked done earlier row (same ▸ found) active
        · have written := found.symm.trans closes
          cases written
          contradiction
      · contradiction
end

/-- Over any run, sweeps respect all activity and activity restarts the clock exactly when every act is timely. -/
theorem activity_restarts_clock_iff (events : List Event) :
    Runs.Along step Holds {} events ↔ Runs.Along step Timely {} events := by
  have along : ∀ (events : List Event) (world : World), Known world → Clocked world →
      (Runs.Along step Holds world events ↔ Runs.Along step Timely world events) := by
    intro events
    induction events with
    | nil => intro world _ _; exact Iff.rfl
    | cons event rest ih =>
      intro world known clocked
      have here : Holds world event ↔ Timely world event :=
        ⟨fun holds => (clocked_iff known clocked).mp holds.2,
          fun timely => ⟨respected clocked, (clocked_iff known clocked).mpr timely⟩⟩
      constructor
      · rintro ⟨holds, later⟩
        exact ⟨here.mp holds, (ih _ (step_known known) holds.2).mp later⟩
      · rintro ⟨timely, later⟩
        have holds := here.mpr timely
        exact ⟨holds, (ih _ (step_known known) holds.2).mpr later⟩
  exact along events {} (fun done none => absurd none List.not_mem_nil) (fun done none => absurd none List.not_mem_nil)

/-- An incident for a failed login, a note on it, and a sweep with a TTL of an hour ten minutes later. -/
def noted_incident : List Event :=
  [.operation (IncidentRuns.login_recorded "a1" "wazuh:5710:001" 0),
    .operation (.assess (IncidentRuns.login_assessed "a1" "wazuh:5710:001" 0) false),
    .note { incident_id := "INC-1970-01-01-0001", note := "reading the logs", occurred_at := seconds 3000 } false,
    .operation (.sweep 3600 (seconds 3600) (fun _ => false))]

/-- The note does not keep the sweep from closing the incident. -/
theorem noted_incident_closed : ¬ (∀ events, Runs.Along step Holds {} events) ∧
    ¬ Respected (Runs.run step {} (noted_incident.take 3)) (.operation (.sweep 3600 (seconds 3600) (fun _ => false))) := by
  constructor
  · intro always
    have broken := always noted_incident
    revert broken
    decide
  · decide

end SocTriage.IdleClock
