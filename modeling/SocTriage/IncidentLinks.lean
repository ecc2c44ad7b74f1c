import SocTriage.IncidentRuns

/-!
The links between incidents and alerts. Creation links an incident to its primary alert;
an alert assessed again joins the oldest open incident of its group, which may be another
one once its own is no longer open. What never breaks is that a link stays in the group.
-/
namespace SocTriage.IncidentLinks
open Incidents IncidentCallers IncidentRuns Assessment

/-- Ingest and late enrichment pass the group of the alert of record. -/
def of_record (db : Database) (request : Request) : Request :=
  { request with
    dedupe_group_key := ((db.alerts.get request.alert_id).map Alert.dedupe_group_key).getD request.dedupe_group_key }

def step (db : Database) : Event → Database
  | .assess request fault => IncidentRuns.step db (.assess (of_record db request) fault)
  | other => IncidentRuns.step db other

/-- The database a sequence of operations ends in, from an empty one. -/
def after (events : List Event) : Database := Runs.run step {} events

/-- The incident an alert is linked to. -/
def link_of (db : Database) (alert_id : UUID) : Option String := (db.alerts.get alert_id).bind Alert.incident_id

/-- Every incident is linked from its primary alert. -/
def Primary (db : Database) : Prop :=
  ∀ incident ∈ db.incidents.rows, link_of db incident.primary_alert_id = some incident.incident_id

/-- Every linked alert is in the group of its incident. -/
def Grouped (db : Database) : Prop :=
  ∀ alert ∈ db.alerts.rows, ∀ incident ∈ db.incidents.rows, alert.incident_id = some incident.incident_id →
    alert.dedupe_group_key = incident.dedupe_group_key

/-- Every link is to an incident. -/
def Known (db : Database) : Prop :=
  ∀ alert ∈ db.alerts.rows, ∀ incident_id, alert.incident_id = some incident_id →
    ∃ incident ∈ db.incidents.rows, incident.incident_id = incident_id

instance (db : Database) : Decidable (Primary db) := List.decidableBAll _ _
instance (db : Database) : Decidable (Grouped db) := List.decidableBAll _ _

/-- An assessment that asks for an incident, of the primary alert of one, finds no other incident open in the group. -/
def undisturbed (db : Database) : Event → Bool
  | .assess request false =>
    request.decision.action ≠ .OPEN_INCIDENT ||
      (open_for_group db (of_record db request).dedupe_group_key).all (fun existing =>
        db.incidents.rows.all (fun incident =>
          incident.primary_alert_id ≠ request.alert_id || incident.incident_id = existing.incident_id))
  | _ => true

/-! ### Steps -/

/-- The group of an alert. -/
private def group_of (db : Database) (alert_id : UUID) : Option String :=
  (db.alerts.get alert_id).map Alert.dedupe_group_key

section
variable {db db' : Database} {event : Event}

private theorem grouped_iff : Grouped db ↔ ∀ alert_id, ∀ incident ∈ db.incidents.rows,
    link_of db alert_id = some incident.incident_id → group_of db alert_id = some incident.dedupe_group_key := by
  constructor
  · intro grouped alert_id incident inside linked
    obtain ⟨alert, found, linked⟩ := Option.bind_eq_some_iff.mp linked
    rw [group_of, found, Option.map_some, grouped alert (Table.get_mem found) incident inside linked]
  · intro grouped alert inside incident stored linked
    have found := Table.get_of_mem inside
    have same := grouped alert.alert_id incident stored (by rw [link_of, found]; exact linked)
    rw [group_of, found] at same
    exact Option.some.inj same

private theorem known_iff : Known db ↔ ∀ alert_id incident_id, link_of db alert_id = some incident_id →
    ∃ incident ∈ db.incidents.rows, incident.incident_id = incident_id := by
  constructor
  · intro known alert_id incident_id linked
    obtain ⟨alert, found, linked⟩ := Option.bind_eq_some_iff.mp linked
    exact known alert (Table.get_mem found) incident_id linked
  · intro known alert inside incident_id linked
    refine known alert.alert_id incident_id ?_
    rw [link_of, Table.get_of_mem inside]
    exact linked

/-- What an operation does to links: it writes none, it links a new incident from its primary alert, or it links an
    alert to the oldest open incident of its group. -/
private inductive Written (db : Database) (event : Event) (db' : Database) : Prop
  | none (incidents : db'.incidents.rows.map identity = db.incidents.rows.map identity)
      (links : ∀ alert_id, link_of db' alert_id = link_of db alert_id)
  | created (incident : Incident) (inserted : db.incidents.insert incident = some db'.incidents)
      (free : ∀ old ∈ db.incidents.rows, old.primary_alert_id ≠ incident.primary_alert_id)
      (group : group_of db incident.primary_alert_id = some incident.dedupe_group_key)
      (links : ∀ alert_id, link_of db' alert_id =
        if alert_id = incident.primary_alert_id then some incident.incident_id else link_of db alert_id)
  | joined (request : Request) (existing : Incident) (mine : event = .assess request false)
      (asked : request.decision.action = .OPEN_INCIDENT) (incidents : db'.incidents = db.incidents)
      (oldest : open_for_group db (of_record db request).dedupe_group_key = some existing)
      (group : group_of db request.alert_id = some existing.dedupe_group_key)
      (links : ∀ alert_id, link_of db' alert_id =
        if alert_id = request.alert_id then some existing.incident_id else link_of db alert_id)

private theorem committed_links {request : Request} {incident_id : Option String}
    (committed : Committed request db incident_id db') (alert_id : UUID) :
    link_of db' alert_id = if alert_id = request.alert_id then
      (db.alerts.get request.alert_id).bind (fun row => incident_id.or row.incident_id) else link_of db alert_id := by
  rw [link_of, committed.alerts]
  split
  · cases db.alerts.get request.alert_id <;> rfl
  · rfl

private theorem committed_written {request : Request} {incident_id : Option String} {alert : Alert}
    (found : db.alerts.get request.alert_id = some alert)
    (committed : Committed (of_record db request) db incident_id db') : Written db (.assess request false) db' := by
  have links : ∀ alert_id, link_of db' alert_id = if alert_id = request.alert_id then
      incident_id.or alert.incident_id else link_of db alert_id := by
    intro alert_id
    rw [committed_links committed, of_record, found]
    rfl
  have group : group_of db request.alert_id = some (of_record db request).dedupe_group_key := by
    rw [group_of, of_record, found]; rfl
  cases committed with
  | routed other =>
    refine .none rfl (fun alert_id => ?_)
    rw [links]
    split
    · rename_i mine
      rw [mine, link_of, found]; rfl
    · rfl
  | created asked none_open new =>
    obtain ⟨id, _, incidents, rfl, _, _, free, inserted, rfl⟩ := create_ok new
    exact .created _ inserted free group links
  | @attached asked existing _ oldest joined =>
    obtain ⟨_, _, rfl⟩ := attach_ok joined
    have same : existing.dedupe_group_key = (of_record db request).dedupe_group_key := (open_for_group_some oldest).2.1
    exact .joined request existing rfl asked rfl oldest (same ▸ group) links

private theorem kept (same : SameLinks db db') :
    Written db event db' ∧ ∀ alert_id group, group_of db alert_id = some group → group_of db' alert_id = some group := by
  refine ⟨.none same.incidents (fun alert_id => ?_), fun alert_id group there => ?_⟩
  · rw [link_of, link_of, same.alerts]
  · rw [group_of, same.alerts]; exact there

/-- Every operation writes links in one of these ways, and keeps the groups of the alerts that are there. -/
private theorem step_written (db : Database) (event : Event) :
    Written db event (step db event) ∧
      ∀ alert_id group, group_of db alert_id = some group → group_of (step db event) alert_id = some group := by
  cases event with
  | record group record =>
    have runs : step db (.record group record) = IncidentRuns.step db (.record group record) := rfl
    rw [runs, IncidentRuns.step]
    cases inserted : db.alerts.insert (PersistentDeduplication.alert_row group record) with
    | none => exact ⟨.none rfl (fun _ => rfl), fun _ _ same => same⟩
    | some alerts =>
      have fresh := Table.insert_fresh inserted
      constructor
      · refine .none rfl (fun alert_id => ?_)
        rw [link_of, Table.get_insert inserted]
        split
        · rename_i mine
          rw [← mine, link_of, fresh]; rfl
        · rfl
      · intro alert_id group there
        rw [group_of, Table.get_insert inserted]
        split
        · rename_i mine
          rw [← mine, group_of, fresh] at there
          contradiction
        · exact there
  | assess request fault =>
    rw [step, IncidentRuns.step]
    rcases persist_assessment_cases (of_record db request) fault db with ⟨id, db', same, rfl, executed⟩ | ⟨result, same, _⟩
    · obtain ⟨⟨alert, found⟩, committed⟩ := assess_ok executed
      rw [same]
      refine ⟨committed_written found committed, ?_⟩
      intro alert_id group there
      rw [group_of, committed.alerts]
      split
      · rename_i mine
        rw [mine, group_of] at there
        rw [← there]
        cases db.alerts.get (of_record db request).alert_id <;> rfl
      · exact there
    · rw [same]
      exact ⟨.none rfl (fun _ => rfl), fun _ _ same => same⟩
  | update request fault => exact kept (update_moved request fault db).2
  | feedback request fault => exact kept (feedback_moved request fault db).2
  | sweep ttl_seconds as_of fault =>
    have runs : step db (.sweep ttl_seconds as_of fault) = IncidentRuns.step db (.sweep ttl_seconds as_of fault) := rfl
    rw [runs, IncidentRuns.step]
    cases swept : sweep_once ttl_seconds as_of fault db with
    | error e => exact kept ⟨rfl, rfl⟩
    | ok value => exact kept (sweep_moved swept).2

/-- An incident of the first state, by the incident of the second it stands for. -/
private theorem identity_back {incident : Incident} (same : db'.incidents.rows.map identity = db.incidents.rows.map identity)
    (inside : incident ∈ db'.incidents.rows) : ∃ old ∈ db.incidents.rows, identity old = identity incident := by
  have member : identity incident ∈ db'.incidents.rows.map identity := List.mem_map_of_mem inside
  rw [same] at member
  exact List.mem_map.mp member

private theorem identity_forth {incident : Incident}
    (same : db'.incidents.rows.map identity = db.incidents.rows.map identity) (inside : incident ∈ db.incidents.rows) :
    ∃ new ∈ db'.incidents.rows, identity new = identity incident := identity_back same.symm inside

private theorem step_known (event : Event) (known : Known db) : Known (step db event) := by
  rw [known_iff] at known ⊢
  intro alert_id incident_id linked
  cases (step_written db event).1 with
  | none incidents links =>
    rw [links] at linked
    obtain ⟨old, stored, rfl⟩ := known alert_id incident_id linked
    obtain ⟨new, inside, same⟩ := identity_forth incidents stored
    exact ⟨new, inside, congrArg Prod.fst same⟩
  | created incident inserted _ _ links =>
    rw [links] at linked
    split at linked
    · cases linked
      exact ⟨incident, (Table.mem_insert inserted).mpr (.inr rfl), rfl⟩
    · obtain ⟨old, stored, same⟩ := known alert_id incident_id linked
      exact ⟨old, (Table.mem_insert inserted).mpr (.inl stored), same⟩
  | joined request existing _ _ incidents oldest _ links =>
    rw [incidents]
    rw [links] at linked
    split at linked
    · cases linked
      exact ⟨existing, (open_for_group_some oldest).1, rfl⟩
    · exact known alert_id incident_id linked

private theorem step_grouped (event : Event) (known : Known db) (grouped : Grouped db) : Grouped (step db event) := by
  rw [known_iff] at known
  rw [grouped_iff] at grouped ⊢
  obtain ⟨written, groups⟩ := step_written db event
  intro alert_id incident inside linked
  cases written with
  | none incidents links =>
    rw [links] at linked
    obtain ⟨old, stored, same⟩ := identity_back incidents inside
    have id : old.incident_id = incident.incident_id := congrArg Prod.fst same
    have group : old.dedupe_group_key = incident.dedupe_group_key := congrArg (fun view => view.2.2) same
    rw [← group]
    exact groups _ _ (grouped alert_id old stored (id ▸ linked))
  | created created inserted _ group links =>
    have fresh := Table.get_eq_none.mp (Table.insert_fresh inserted)
    rw [links] at linked
    rcases (Table.mem_insert inserted).mp inside with stored | rfl
    · split at linked
      · exact absurd (Option.some.inj linked).symm (fresh incident stored)
      · exact groups _ _ (grouped alert_id incident stored linked)
    · split at linked
      · rename_i mine
        rw [mine]
        exact groups _ _ group
      · obtain ⟨old, stored, same⟩ := known alert_id _ linked
        exact absurd same (fresh old stored)
  | joined request existing _ _ incidents oldest group links =>
    rw [incidents] at inside
    rw [links] at linked
    split at linked
    · rename_i mine
      have same : existing = incident :=
        Table.eq_of_key (open_for_group_some oldest).1 inside (Option.some.inj linked)
      rw [mine, ← same]
      exact groups _ _ group
    · exact groups _ _ (grouped alert_id incident inside linked)

private theorem undisturbed_iff {request : Request} : undisturbed db (.assess request false) = true ↔
    (request.decision.action = .OPEN_INCIDENT → ∀ existing,
      open_for_group db (of_record db request).dedupe_group_key = some existing → ∀ incident ∈ db.incidents.rows,
        incident.primary_alert_id = request.alert_id → incident.incident_id = existing.incident_id) := by
  simp only [undisturbed, Bool.or_eq_true, decide_eq_true_eq, Option.all_eq_true, List.all_eq_true, ← imp_iff_not_or, ne_eq]

private theorem step_primary {event : Event} (primary : Primary db) (clear : undisturbed db event = true) :
    Primary (step db event) := by
  intro incident inside
  cases (step_written db event).1 with
  | none incidents links =>
    obtain ⟨old, stored, same⟩ := identity_back incidents inside
    have id : old.incident_id = incident.incident_id := congrArg Prod.fst same
    have alert : old.primary_alert_id = incident.primary_alert_id := congrArg (fun view => view.2.1) same
    rw [links, ← alert, ← id]
    exact primary old stored
  | created created inserted free _ links =>
    rw [links]
    rcases (Table.mem_insert inserted).mp inside with stored | rfl
    · rw [if_neg (free incident stored)]
      exact primary incident stored
    · exact if_pos rfl
  | joined request existing mine asked incidents oldest _ links =>
    subst mine
    rw [incidents] at inside
    rw [links]
    split
    · rename_i same
      rw [undisturbed_iff.mp clear asked existing oldest incident inside same]
    · exact primary incident inside

/-- A request to open an incident in a group that has one open joins that one. -/
private theorem assess_joins {request : Request} {alert : Alert} {existing : Incident}
    (asked : request.decision.action = .OPEN_INCIDENT) (found : db.alerts.get request.alert_id = some alert)
    (oldest : open_for_group db request.dedupe_group_key = some existing) :
    ∃ db', persist_assessment request false db = (.ok ⟨some existing.incident_id, true⟩, db') ∧
      assess request db = .ok (some existing.incident_id, db') := by
  have written : (scored request db).alerts.get request.alert_id = some (rewritten request.canonical alert) :=
    @Table.get_modify_self _ _ _ _ _ _ (rewritten request.canonical) (fun _ => rfl) _ found
  have stored : (scored request db).incidents.get existing.incident_id = some existing :=
    Table.get_of_mem (open_for_group_some oldest).1
  have read : open_for_group (scored request db) request.dedupe_group_key = some existing := oldest
  have joined : attach (scored request db) request.alert_id existing.incident_id = .ok { scored request db with
      alerts := (scored request db).alerts.modify request.alert_id (linked existing.incident_id) } := by
    simp only [attach, stored, link_alert, written]
  have executed : assess request db = .ok (some existing.incident_id, { scored request db with
      alerts := (scored request db).alerts.modify request.alert_id (linked existing.incident_id) }) := by
    have work : assess request db = open_or_attach request (scored request db) := by
      simp [assess, update_normalized_payload, found, asked, bind, Except.bind, scored]
    rw [work, open_or_attach, read]
    simp only [joined]
    rfl
  refine ⟨_, ?_, executed⟩
  simp only [persist_assessment, Bool.false_eq_true, ↓reduceIte, Database.session_scope_ok executed]

private theorem committed_keeps {request : Request} {incident_id : Option String} {incident : Incident}
    (committed : Committed request db incident_id db') (inside : incident ∈ db.incidents.rows) :
    incident ∈ db'.incidents.rows := by
  cases committed with
  | routed other => exact inside
  | created _ _ new =>
    obtain ⟨_, _, _, rfl, _, _, _, inserted, rfl⟩ := create_ok new
    exact (Table.mem_insert inserted).mpr (.inl inside)
  | attached _ _ joined =>
    obtain ⟨_, _, rfl⟩ := attach_ok joined
    exact inside

/-- A disturbed assessment takes the primary alert of an incident away from it. -/
private theorem disturbed_breaks {event : Event} (primary : Primary db) (disturbed : undisturbed db event ≠ true) :
    ¬ Primary (step db event) := by
  intro after
  cases event with
  | record | update | feedback | sweep => exact disturbed rfl
  | assess request fault =>
    cases fault with
    | true => exact disturbed rfl
    | false =>
      rw [Ne, undisturbed_iff] at disturbed
      push Not at disturbed
      obtain ⟨asked, existing, oldest, incident, inside, mine, other⟩ := disturbed
      obtain ⟨alert, found, _⟩ := Option.bind_eq_some_iff.mp (primary incident inside)
      rw [mine] at found
      obtain ⟨db', persisted, executed⟩ := @assess_joins db (of_record db request) alert existing asked found oldest
      have runs : step db (.assess request false) = db' := congrArg Prod.snd persisted
      have committed := (assess_ok executed).2
      have linked : link_of db' request.alert_id = some existing.incident_id := by
        have here : (of_record db request).alert_id = request.alert_id := rfl
        rw [committed_links committed, here, if_pos rfl, found]
        rfl
      rw [runs] at after
      have still := after incident (committed_keeps committed inside)
      rw [mine, linked] at still
      exact other (Option.some.inj still).symm

end

/-! ### Runs -/

/-- In every run links stay in their group and are to incidents that exist. -/
theorem run_grouped (events : List Event) : Known (after events) ∧ Grouped (after events) := by
  have empty : Known {} ∧ Grouped {} :=
    ⟨fun _ none => absurd none List.not_mem_nil, fun _ none => absurd none List.not_mem_nil⟩
  have keeps : ∀ db event, Known db ∧ Grouped db → Known (step db event) ∧ Grouped (step db event) :=
    fun db event both => ⟨step_known event both.1, step_grouped event both.1 both.2⟩
  exact Runs.invariant keeps empty events

/-- What a run keeps of links: every incident is linked from its primary alert, and linked alerts are in its group. -/
def Linked (db : Database) : Prop := Primary db ∧ Grouped db

instance (db : Database) : Decidable (Linked db) := inferInstanceAs (Decidable (_ ∧ _))

/-- All states of a run keep their links exactly when no assessment of it finds a primary alert's group with another
    incident open. -/
theorem linked_iff_undisturbed (events : List Event) :
    (∀ earlier later, events = earlier ++ later → Linked (after earlier)) ↔
      Runs.Along step (fun db event => undisturbed db event = true) {} events := by
  constructor
  · intro linked
    rw [Runs.along_iff]
    intro first event rest split
    have here := (linked first (event :: rest) split).1
    have next := (linked (first ++ [event]) rest (by rw [split, List.append_assoc]; rfl)).1
    rw [after, Runs.run_append] at next
    by_contra disturbed
    exact disturbed_breaks here disturbed next
  · rintro clear earlier later rfl
    have empty : Primary {} := fun _ none => absurd none List.not_mem_nil
    refine ⟨?_, (run_grouped earlier).2⟩
    exact Runs.invariant_along (fun db event => step_primary) empty (Runs.along_append.mp clear).1

/-- A group whose first incident is acknowledged and whose second is open. -/
def two_incidents : List Event :=
  [login_recorded "a1" "wazuh:5710:001" 0, login_recorded "a2" "wazuh:5710:001" 60000000,
    .assess (login_assessed "a1" "wazuh:5710:001" 0) false,
    .update { incident_id := "INC-1970-01-01-0001", status := .ACKNOWLEDGED, occurred_at := 30000000 } false,
    .assess (login_assessed "a2" "wazuh:5710:001" 60000000) false]

example : Linked (after two_incidents) := by decide

/-- The first alert assessed again moves to the second incident, and the first incident has no alert. -/
theorem late_assessment_relinks : ¬ ∀ events : List Event, Linked (after events) := by
  intro linked
  have broken := linked (two_incidents ++ [.assess (login_assessed "a1" "wazuh:5710:001" 90000000) false])
  revert broken
  decide

end SocTriage.IncidentLinks
