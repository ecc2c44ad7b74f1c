import SocTriage.DuplicateDelivery
import SocTriage.EventIdentity
import SocTriage.Logbook
import SocTriage.Permanence

/-!
Who works on an incident and what is noted about it. Both are kept in the audit log and nowhere
else: an assignment or a note is an appended row, and what is read back is found in the rows of
the incident in the order of their times. Over every run whose clock does not step back, the
readers give what the writers answered.
-/
namespace SocTriage.CaseDesk
open Audit CaseExport IncidentCallers
open Ingest (Pipeline)
open Notifications (N8N World)
open Logbook (Chronological Routine Unasked routinely_logged)
open Permanence (Lasts lasts_kept)
open UnitsOfWork (engaged_any)

/-! ### The endpoints -/

def note_from_audit (record : AuditEvent) : JsonObject :=
  [("actor", .str record.actor), ("note", .str ((text_field "note" record).getD "")),
    ("created_at", .str (Datetime.of_instant record.occurred_at).isoformat)]

def list_incident_notes (incident_id : String) (fault : Bool) (db : Database) : Response :=
  if fault then error_response 500 "internal_error" "failed to load incident notes"
  else
    match db.incidents.get incident_id with
    | none => error_response 404 "not_found" ("incident " ++ incident_id ++ " not found")
    | some _ =>
      let records := for_entity_ids db [incident_id]
      let notes := (records.filter (fun record => record.action = ACTION_INCIDENT_NOTE_ADDED)).map note_from_audit
      ⟨200, [("incident_id", .str incident_id), ("notes", .arr (notes.map Json.obj))]⟩

/-- The body of an assignment, and the time it is handled at. Without an assignee the incident is unassigned. -/
structure AssignmentRequest where
  incident_id : String
  assignee : Option String := none
  actor : Option String := none
  occurred_at : Int

structure IncidentAssignmentReadResponse where
  incident_id : String
  assignee : Option String
deriving DecidableEq

structure IncidentAssignmentUpdateResponse where
  incident_id : String
  assignee : Option String
  previous_assignee : Option String
  changed : Bool
deriving DecidableEq

def assignment_from_audit (record : AuditEvent) : Option String := text_field "assignee" record

def current_assignment (records : List AuditEvent) : Option String :=
  (records.reverse.find? (fun record => record.action = ACTION_INCIDENT_ASSIGNED)).bind assignment_from_audit

def incident_missing : Response := error_response 404 "not_found" "Incident not found"

/-- The answer to an exception that no handler of the endpoint catches. -/
def unhandled : Response := error_response 500 "internal_error" "internal server error"

def get_incident_assignment (incident_id : String) (fault : Bool) (db : Database) :
    Except Response IncidentAssignmentReadResponse :=
  if fault then .error unhandled
  else
    match db.incidents.get incident_id with
    | none => .error incident_missing
    | some _ => .ok ⟨incident_id, current_assignment (for_entity_ids db [incident_id])⟩

def assignment_entry (request : AssignmentRequest) (current : Option String) : AuditEntry where
  actor := actor_name request.actor
  action := ACTION_INCIDENT_ASSIGNED
  entity_type := ENTITY_INCIDENT
  entity_id := request.incident_id
  before := some [("assignee", optional_text current)]
  after := some [("assignee", optional_text request.assignee)]

/-- The unit of work of an assignment; the incident is looked up in one before it, which writes nothing. -/
def assignment_work (request : AssignmentRequest) (db : Database) :
    Except Error (Except Response IncidentAssignmentUpdateResponse × Database) :=
  match db.incidents.get request.incident_id with
  | none => .ok (.error incident_missing, db)
  | some _ =>
    let current := current_assignment (for_entity_ids db [request.incident_id])
    let changed : Bool := current ≠ request.assignee
    .ok (.ok ⟨request.incident_id, request.assignee, current, changed⟩,
      if changed then db.append [assignment_entry request current] request.occurred_at else db)

def update_incident_assignment (request : AssignmentRequest) (fault : Bool) (db : Database) :
    Except Response IncidentAssignmentUpdateResponse × Database :=
  match db.session_scope (fun db => if fault then .error .database else assignment_work request db) with
  | (.ok answer, db) => (answer, db)
  | (.error _, db) => (.error unhandled, db)

theorem text_field_here {key text : String} {record : AuditEvent} (after : record.after = some [(key, .str text)]) :
    text_field key record = some text := by
  rw [text_field, after]
  simp [Json.lookup]

/-- A note is refused and nothing is written, or it is accepted and answered with what the reader will find. -/
theorem add_incident_note_cases (request : NoteRequest) (fault : Bool) (db : Database) :
    (∃ response, response.status_code ≠ 201 ∧ add_incident_note request fault db = (response, db)) ∨
      (db.incidents.has request.incident_id = true ∧ Text.strip request.note ≠ "" ∧ add_incident_note request fault db =
        (⟨201, ("incident_id", .str request.incident_id) ::
          note_from_audit (Database.audit_row request.occurred_at (note_entry request))⟩,
          db.append [note_entry request] request.occurred_at)) := by
  unfold add_incident_note
  split
  · exact .inl ⟨_, by decide, rfl⟩
  · rename_i worded
    cases fault with
    | true => exact .inl ⟨_, by decide, rfl⟩
    | false =>
      rw [Table.has]
      cases found : db.incidents.get request.incident_id with
      | none => exact .inl ⟨error_response 404 "not_found" ("incident " ++ request.incident_id ++ " not found"),
        fun accepted => absurd accepted (by decide : (404 : Nat) ≠ 201), by simp [Database.session_scope, note_work, found]⟩
      | some incident =>
        have text : text_field "note" (Database.audit_row request.occurred_at (note_entry request)) =
            some (Text.strip request.note) := text_field_here rfl
        refine .inr ⟨rfl, worded, ?_⟩
        rw [note_from_audit, text]
        simp [Database.session_scope, note_work, found, Database.audit_row, note_entry]

/-- The answer to an assignment of an incident to which `current` is assigned. -/
def assignment_answer (request : AssignmentRequest) (current : Option String) : IncidentAssignmentUpdateResponse :=
  ⟨request.incident_id, request.assignee, current, current ≠ request.assignee⟩

/-- An assignment is refused and nothing is written, or it is answered, and written when it changes something. -/
theorem update_incident_assignment_cases (request : AssignmentRequest) (fault : Bool) (db : Database) :
    (∃ response, update_incident_assignment request fault db = (.error response, db)) ∨
      (db.incidents.has request.incident_id = true ∧ ∃ current,
        current = current_assignment (for_entity_ids db [request.incident_id]) ∧
        update_incident_assignment request fault db = (.ok (assignment_answer request current),
          if current ≠ request.assignee then db.append [assignment_entry request current] request.occurred_at else db)) := by
  unfold update_incident_assignment
  cases fault with
  | true => exact .inl ⟨_, rfl⟩
  | false =>
    rw [Table.has]
    cases found : db.incidents.get request.incident_id with
    | none => exact .inl ⟨incident_missing, by simp [Database.session_scope, assignment_work, found]⟩
    | some incident =>
      exact .inr ⟨rfl, _, rfl, by simp [Database.session_scope, assignment_work, found, assignment_answer]⟩

/-! ### Runs -/

/-- One operation of the service, or an assignment. -/
inductive Call where
  | serve (event : Service.Event)
  | assign (request : AssignmentRequest) (fault : Bool)

def clock : Call → Int
  | .serve event => UnitsOfWork.clock event
  | .assign request _ => request.occurred_at

def step (pipeline : Pipeline) (n8n : N8N) (world : World) : Call → World
  | .serve event => Service.step pipeline n8n world event
  | .assign request fault => { world with db := (update_incident_assignment request fault world.db).2 }

def after (pipeline : Pipeline) (n8n : N8N) (calls : List Call) : World := Runs.run (step pipeline n8n) {} calls

/-- The answers to the notes that a call adds to an incident. -/
def posted (incident_id : String) (db : Database) : Call → List Response
  | .serve (.note request fault) =>
    let response := (add_incident_note request fault db).1
    if request.incident_id = incident_id ∧ response.status_code = 201 then [response] else []
  | _ => []

/-- The answers to the assignments of an incident that a call makes. -/
def assigned (incident_id : String) (db : Database) : Call → List IncidentAssignmentUpdateResponse
  | .assign request fault =>
    match (update_incident_assignment request fault db).1 with
    | .ok update => if request.incident_id = incident_id then [update] else []
    | .error _ => []
  | _ => []

/-- What the calls of a run are answered, oldest first. -/
def answers {α : Type} (pipeline : Pipeline) (n8n : N8N) (answer : Database → Call → List α) : World → List Call → List α
  | _, [] => []
  | world, call :: rest => answer world.db call ++ answers pipeline n8n answer (step pipeline n8n world call) rest

/-! ### What a call writes -/

/-- The entries a call writes for an analyst. -/
def asked (db : Database) : Call → List AuditEntry
  | .serve (.note request fault) =>
    if (add_incident_note request fault db).1.status_code = 201 then [note_entry request] else []
  | .serve _ => []
  | .assign request fault =>
    match (update_incident_assignment request fault db).1 with
    | .ok update => if update.changed then [assignment_entry request update.previous_assignee] else []
    | .error _ => []

/-- The rows of one kind about an incident. -/
def rows (action incident_id : String) (db : Database) : List AuditEvent :=
  db.audit_log.filter (fun row => row.entity_id = incident_id && row.action = action)

/-- At the time of the call its entries are written, and those for an analyst are the ones asked for. -/
def Written (now : Int) (entries : List AuditEntry) (db db' : Database) : Prop :=
  ∃ written : List AuditEntry, db'.audit_log = db.audit_log ++ written.map (Database.audit_row now) ∧
    written.filter (fun entry => !decide (Unasked entry.action)) = entries

section
variable {now : Int} {db db' : Database}

private theorem written_nothing (same : db' = db) : Written now [] db db' :=
  ⟨[], by rw [same, List.map_nil, List.append_nil], rfl⟩

private theorem written_routine {entries : List AuditEntry} (routine : Routine entries)
    (log : db'.audit_log = db.audit_log ++ entries.map (Database.audit_row now)) : Written now [] db db' := by
  refine ⟨entries, log, List.filter_eq_nil_iff.mpr (fun entry inside asked => ?_)⟩
  rw [decide_eq_true (routine entry inside)] at asked
  contradiction

private theorem note_written (request : NoteRequest) (fault : Bool) (db : Database) :
    Written request.occurred_at (asked db (.serve (.note request fault))) db (add_incident_note request fault db).2 := by
  rw [asked]
  rcases add_incident_note_cases request fault db with ⟨response, refused, same⟩ | ⟨_, _, same⟩
  · rw [same, if_neg refused]; exact written_nothing rfl
  · rw [same, if_pos rfl]; exact ⟨[note_entry request], rfl, rfl⟩

private theorem assignment_written (request : AssignmentRequest) (fault : Bool) (db : Database) :
    Written request.occurred_at (asked db (.assign request fault)) db (update_incident_assignment request fault db).2 := by
  rw [asked]
  rcases update_incident_assignment_cases request fault db with ⟨response, same⟩ | ⟨_, current, _, same⟩
  · rw [same]; exact written_nothing rfl
  · rw [same]
    by_cases changed : current ≠ request.assignee
    · simp only [assignment_answer, decide_eq_true changed, if_true, if_pos changed]
      exact ⟨[assignment_entry request current], rfl, rfl⟩
    · simp only [assignment_answer, decide_eq_false changed, Bool.false_eq_true, if_false, if_neg changed]
      exact written_nothing rfl

/-- A call writes at its time, and for an analyst only what is asked for. -/
theorem step_written (pipeline : Pipeline) (n8n : N8N) (world : World) (call : Call) :
    Written (clock call) (asked world.db call) world.db (step pipeline n8n world call).db := by
  cases call with
  | assign request fault => exact assignment_written request fault world.db
  | serve event =>
    by_cases noting : ∃ request fault, event = .note request fault
    · obtain ⟨request, fault, rfl⟩ := noting
      exact note_written request fault world.db
    · have unnoted : ∀ request fault, event ≠ .note request fault := fun request fault note => noting ⟨request, fault, note⟩
      obtain ⟨entries, routine, log⟩ := (routinely_logged (UnitsOfWork.clock event)).step trivial n8n world unnoted rfl
        (engaged_any event)
      have none : asked world.db (.serve event) = [] := by
        cases event with
        | note request fault => exact absurd rfl (unnoted request fault)
        | _ => rfl
      rw [none]
      exact written_routine routine log

private theorem rows_written {action incident_id : String} {entries : List AuditEntry} (kind : ¬ Unasked action)
    (written : Written now entries db db') :
    rows action incident_id db' = rows action incident_id db ++
      (entries.filter (fun entry => entry.entity_id = incident_id && entry.action = action)).map
        (Database.audit_row now) := by
  obtain ⟨all, log, rfl⟩ := written
  rw [rows, log, List.filter_append, List.filter_map, List.filter_filter]
  refine congrArg (_ ++ List.map _ ·) (List.filter_congr (fun entry _ => ?_))
  by_cases mine : entry.action = action
  · simp [Function.comp, Database.audit_row, mine, kind]
  · simp [Function.comp, Database.audit_row, mine]

private theorem written_chronological {entries : List AuditEntry} (chronological : Chronological now db)
    (written : Written now entries db db') : Chronological now db' := by
  obtain ⟨_, log, _⟩ := written
  exact chronological.appended log
end

/-! ### The rows of the notes -/

/-- What one reader makes of an accepted note as a row, and another of the answer. -/
def Agree {β : Type} (of_row : AuditEvent → β) (of_answer : Response → β) : Prop :=
  ∀ request : NoteRequest, Text.strip request.note ≠ "" →
    of_row (Database.audit_row request.occurred_at (note_entry request)) =
      of_answer ⟨201, ("incident_id", .str request.incident_id) ::
        note_from_audit (Database.audit_row request.occurred_at (note_entry request))⟩

/-- The note rows a call adds are its answers. -/
private theorem note_rows {β : Type} {of_row : AuditEvent → β} {of_answer : Response → β} (agree : Agree of_row of_answer)
    (incident_id : String) (db : Database) (call : Call) :
    (((asked db call).filter (fun entry => entry.entity_id = incident_id && entry.action = ACTION_INCIDENT_NOTE_ADDED)).map
      (Database.audit_row (clock call))).map of_row = (posted incident_id db call).map of_answer := by
  cases call with
  | assign request fault =>
    have nothing : posted incident_id db (.assign request fault) = [] := rfl
    rw [nothing, asked]
    cases (update_incident_assignment request fault db).1 with
    | error response => rfl
    | ok update =>
      have other : ACTION_INCIDENT_ASSIGNED ≠ ACTION_INCIDENT_NOTE_ADDED := by decide
      cases changed : update.changed with
      | false => simp [changed]
      | true => simp [changed, assignment_entry, other]
  | serve event =>
    cases event with
    | note request fault =>
      rw [asked, posted]
      rcases add_incident_note_cases request fault db with ⟨response, refused, same⟩ | ⟨_, worded, same⟩
      · simp [same, refused]
      · rw [same, if_pos rfl]
        by_cases mine : request.incident_id = incident_id
        · rw [List.filter_cons_of_pos (by simp [note_entry, mine]), if_pos ⟨mine, rfl⟩]
          exact congrArg (fun read => [read]) (agree request worded)
        · rw [List.filter_cons_of_neg (by simp [note_entry, mine]), if_neg (fun accepted => mine accepted.1)]
          rfl
    | _ => rfl

/-- The note rows of a run are the answers to its notes. -/
private theorem note_run {β : Type} {of_row : AuditEvent → β} {of_answer : Response → β} (agree : Agree of_row of_answer)
    (pipeline : Pipeline) (n8n : N8N) (incident_id : String) (calls : List Call) (world : World) :
    (rows ACTION_INCIDENT_NOTE_ADDED incident_id (Runs.run (step pipeline n8n) world calls).db).map of_row =
      (rows ACTION_INCIDENT_NOTE_ADDED incident_id world.db).map of_row ++
        (answers pipeline n8n (posted incident_id) world calls).map of_answer := by
  induction calls generalizing world with
  | nil => exact (List.append_nil _).symm
  | cons call rest ih =>
    have written := @rows_written _ _ _ _ incident_id _ (by decide : ¬ Unasked ACTION_INCIDENT_NOTE_ADDED)
      (step_written pipeline n8n world call)
    rw [Runs.run, ih, written, List.map_append, note_rows agree, answers, List.map_append, List.append_assoc]

private theorem note_answers {β : Type} {of_row : AuditEvent → β} {of_answer : Response → β} (agree : Agree of_row of_answer)
    (pipeline : Pipeline) (n8n : N8N) (incident_id : String) (calls : List Call) :
    (rows ACTION_INCIDENT_NOTE_ADDED incident_id (after pipeline n8n calls).db).map of_row =
      (answers pipeline n8n (posted incident_id) {} calls).map of_answer :=
  note_run agree pipeline n8n incident_id calls {}

/-! ### Runs in time -/

/-- The order in which a clock that does not step back has the calls. -/
def Ordered (calls : List Call) : Prop := calls.Pairwise (fun call call' => clock call ≤ clock call')

private theorem run_chronological (pipeline : Pipeline) (n8n : N8N) {calls : List Call} (ordered : Ordered calls)
    {now : Int} {world : World} (chronological : Chronological now world.db) (later : ∀ call ∈ calls, now ≤ clock call) :
    ∃ last, Chronological last (Runs.run (step pipeline n8n) world calls).db := by
  induction calls generalizing now world with
  | nil => exact ⟨now, chronological⟩
  | cons call rest ih =>
    obtain ⟨follows, ordered⟩ := List.pairwise_cons.mp ordered
    have next := written_chronological (chronological.later (later call List.mem_cons_self))
      (step_written pipeline n8n world call)
    exact ih ordered next follows

private theorem earliest {calls : List Call} (ordered : Ordered calls) : ∃ now, ∀ call ∈ calls, now ≤ clock call := by
  cases calls with
  | nil => exact ⟨0, fun _ none => absurd none List.not_mem_nil⟩
  | cons call rest =>
    refine ⟨clock call, fun other inside => ?_⟩
    rcases List.mem_cons.mp inside with rfl | inside
    · exact Int.le_refl _
    · exact List.rel_of_pairwise_cons ordered inside

/-- The rows of an incident are read in the order they were written in. -/
theorem read_rows (pipeline : Pipeline) (n8n : N8N) {calls : List Call} (ordered : Ordered calls)
    (action incident_id : String) :
    (for_entity_ids (after pipeline n8n calls).db [incident_id]).filter (fun record => record.action = action) =
      rows action incident_id (after pipeline n8n calls).db := by
  obtain ⟨now, first⟩ := earliest ordered
  obtain ⟨last, chronological⟩ := @run_chronological pipeline n8n _ ordered now {} (.start now) first
  change Chronological last (after pipeline n8n calls).db at chronological
  rw [chronological.read, List.filter_filter, rows]
  exact List.filter_congr (fun row _ => by simp [Bool.and_comm])

/-! ### Incidents that are there -/

private theorem lasts_step (pipeline : Pipeline) (n8n : N8N) (world : World) (call : Call) :
    Lasts world.db (step pipeline n8n world call).db := by
  cases call with
  | serve event => exact lasts_kept.step trivial n8n world trivial (engaged_any event)
  | assign request fault =>
    rw [step]
    rcases update_incident_assignment_cases request fault world.db with ⟨response, same⟩ | ⟨_, current, _, same⟩
    · rw [same]; exact .refl world.db
    · rw [same]
      dsimp only
      split
      · exact .append world.db [assignment_entry request current] request.occurred_at
      · exact .refl world.db

private theorem incident_lasts {db db' : Database} (lasts : Lasts db db') {incident_id : String}
    (stored : db.incidents.has incident_id = true) : db'.incidents.has incident_id = true := by
  obtain ⟨incident, inside, rfl⟩ := Table.has_iff.mp stored
  obtain ⟨incident', inside', later⟩ := lasts.incidents incident inside
  exact Table.has_iff.mpr ⟨incident', inside', congrArg Prod.fst later.columns⟩

/-- An incident about which anything is answered stays. -/
private theorem answered_incident {α : Type} {answer : Database → Call → List α} {incident_id : String}
    (asks : ∀ db call, answer db call ≠ [] → db.incidents.has incident_id = true) (pipeline : Pipeline) (n8n : N8N)
    (calls : List Call) (world : World) (answered : answers pipeline n8n answer world calls ≠ []) :
    (Runs.run (step pipeline n8n) world calls).db.incidents.has incident_id = true := by
  have run_lasts : ∀ (calls : List Call) (world : World), Lasts world.db (Runs.run (step pipeline n8n) world calls).db :=
    fun calls world => @Runs.related _ _ (step pipeline n8n) (fun a b => Lasts a.db b.db) (fun world => .refl world.db)
      Lasts.trans calls (fun call _ world => lasts_step pipeline n8n world call) world
  induction calls generalizing world with
  | nil => exact absurd rfl answered
  | cons call rest ih =>
    by_cases here : answer world.db call = []
    · refine ih (step pipeline n8n world call) (fun nothing => answered ?_)
      rw [answers, here, nothing, List.append_nil]
    · exact incident_lasts (run_lasts (call :: rest) world) (asks world.db call here)

/-! ### Notes -/

/-- What the export makes of a row, and whether it keeps it. -/
private def exported (record : AuditEvent) : JsonObject × Bool :=
  ([("actor", .str record.actor), ("note", .str (Text.strip ((text_field "note" record).getD "")))],
    Text.strip ((text_field "note" record).getD "") ≠ "")

private theorem exported_agrees : Agree exported (fun response => (response.content.tail.take 2, true)) := by
  intro request worded
  have text : text_field "note" (Database.audit_row request.occurred_at (note_entry request)) =
    some (Text.strip request.note) := text_field_here rfl
  rw [exported, note_from_audit, text, Option.getD_some, Deduplication.strip_strip]
  simp [worded]

private theorem kept_when_worded (records : List AuditEvent) (worded : ∀ record ∈ records, (exported record).2 = true) :
    ((records.map (fun record => (record.actor, Text.strip ((text_field "note" record).getD "")))).filter
      (fun note => note.2 ≠ "")).map (fun note => [("actor", Json.str note.1), ("note", .str note.2)]) =
      records.map (fun record => (exported record).1) := by
  rw [List.filter_eq_self.mpr ?_, List.map_map]
  · rfl
  · intro note inside
    obtain ⟨record, listed, rfl⟩ := List.mem_map.mp inside
    have kept := worded record listed
    simp only [exported, decide_eq_true_eq] at kept ⊢
    exact kept

private theorem posted_incident (incident_id : String) (db : Database) (call : Call)
    (answered : posted incident_id db call ≠ []) : db.incidents.has incident_id = true := by
  cases call with
  | assign request fault => exact absurd rfl answered
  | serve event =>
    cases event with
    | note request fault =>
      rw [posted] at answered
      rcases add_incident_note_cases request fault db with ⟨response, refused, same⟩ | ⟨stored, _, same⟩
      · rw [same, if_neg (fun accepted => refused accepted.2)] at answered
        exact absurd rfl answered
      · by_cases mine : request.incident_id = incident_id
        · rw [← mine]; exact stored
        · rw [if_neg (fun accepted => mine accepted.1)] at answered
          exact absurd rfl answered
    | _ => exact absurd rfl answered

/-- The notes of an incident that are read, and those that are exported, are the ones that were answered 201, in the order
    of their arrival and with the actor and the time they were answered with. -/
theorem notes_read_back (pipeline : Pipeline) (n8n : N8N) {calls : List Call} (ordered : Ordered calls)
    (incident_id : String) :
    let db := (after pipeline n8n calls).db
    let accepted := answers pipeline n8n (posted incident_id) {} calls
    list_incident_notes incident_id false db =
      (if db.incidents.has incident_id = true then
        ⟨200, [("incident_id", .str incident_id),
          ("notes", .arr (accepted.map (fun response => .obj response.content.tail)))]⟩
      else error_response 404 "not_found" ("incident " ++ incident_id ++ " not found")) ∧
    (db.incidents.has incident_id = false → accepted = []) ∧
    (gather db incident_id).notes.map (fun note => [("actor", Json.str note.1), ("note", .str note.2)]) =
      accepted.map (fun response => response.content.tail.take 2) := by
  dsimp only
  have records := read_rows pipeline n8n ordered ACTION_INCIDENT_NOTE_ADDED incident_id
  refine ⟨?_, ?_, ?_⟩
  · have own := @note_answers _ note_from_audit (fun response => response.content.tail) (fun _ _ => rfl) pipeline n8n
      incident_id calls
    rw [list_incident_notes, if_neg (by decide), Table.has]
    cases found : (after pipeline n8n calls).db.incidents.get incident_id with
    | none => rfl
    | some incident =>
      dsimp only
      rw [records, own, List.map_map, Option.isSome_some, if_pos rfl]
      rfl
  · intro missing
    by_contra answered
    have stored := answered_incident (posted_incident incident_id) pipeline n8n calls {} answered
    change (after pipeline n8n calls).db.incidents.has incident_id = true at stored
    rw [missing] at stored
    contradiction
  · have own := note_answers exported_agrees pipeline n8n incident_id calls
    rw [gather, investigation_notes, records, kept_when_worded]
    · have each := congrArg (List.map Prod.fst) own
      rw [List.map_map, List.map_map] at each
      exact each
    · intro record inside
      have kept := List.mem_map_of_mem (f := exported) inside
      rw [own] at kept
      obtain ⟨_, _, same⟩ := List.mem_map.mp kept
      rw [← same]

/-- A failed login opens an incident, which is assigned, noted on, assigned again to the same analyst, and left. -/
def desk : List Call :=
  let incident_id := "INC-1970-01-01-0001"
  [.serve (UnitsOfWork.login "a1" 0), .assign { incident_id, assignee := some "ana", occurred_at := 1000000 } false,
    .serve (.note { incident_id, note := " seen ", actor := some "ana", occurred_at := 2000000 } false),
    .assign { incident_id, assignee := some "ana", occurred_at := 3000000 } false,
    .assign { incident_id, occurred_at := 4000000 } false]

theorem desk_ordered : Ordered desk := by
  unfold Ordered desk
  decide

theorem desk_notes_read_back :
    list_incident_notes "INC-1970-01-01-0001" false (after Ingest.alarming DuplicateDelivery.accepting desk).db =
    ⟨200, [("incident_id", .str "INC-1970-01-01-0001"), ("notes", .arr [.obj [("actor", .str "ana"), ("note", .str "seen"),
      ("created_at", .str "1970-01-01T00:00:02+00:00")]])]⟩ :=
  (notes_read_back Ingest.alarming DuplicateDelivery.accepting desk_ordered "INC-1970-01-01-0001").1.trans (by decide +kernel)

/-! ### Assignments -/

/-- Whom the last assignment of an incident names. -/
def standing (incident_id : String) (db : Database) : Option String :=
  (rows ACTION_INCIDENT_ASSIGNED incident_id db).getLast?.bind assignment_from_audit

/-- The two columns an assignment is recorded with. -/
def recorded_change (row : AuditEvent) : Option JsonObject × Option JsonObject := (row.before, row.after)

def answered_change (update : IncidentAssignmentUpdateResponse) : Option JsonObject × Option JsonObject :=
  (some [("assignee", optional_text update.previous_assignee)], some [("assignee", optional_text update.assignee)])

private theorem current_read {now : Int} {db : Database} (chronological : Chronological now db) (incident_id : String) :
    current_assignment (for_entity_ids db [incident_id]) = standing incident_id db := by
  have last : ∀ (records : List AuditEvent) (p : AuditEvent → Bool),
      records.reverse.find? p = (records.filter p).getLast? := by
    intro records p
    rw [← List.head?_filter, List.filter_reverse, List.head?_reverse]
  rw [current_assignment, last, chronological.read, List.filter_filter, standing, rows]
  congr 2
  exact List.filter_congr (fun row _ => by simp [Bool.and_comm])

private theorem assignment_from_recorded (occurred_at : Int) (request : AssignmentRequest) (current : Option String) :
    assignment_from_audit (Database.audit_row occurred_at (assignment_entry request current)) = request.assignee := by
  cases named : request.assignee with
  | none => simp [assignment_from_audit, text_field, Database.audit_row, assignment_entry, named, optional_text, Json.lookup]
  | some assignee =>
    exact text_field_here (by rw [Database.audit_row, assignment_entry, named, optional_text])

private theorem unchanged_rows {incident_id : String} {world : World} {pipeline : Pipeline} {n8n : N8N} {call : Call}
    (none : (asked world.db call).filter
      (fun entry => entry.entity_id = incident_id && entry.action = ACTION_INCIDENT_ASSIGNED) = []) :
    rows ACTION_INCIDENT_ASSIGNED incident_id (step pipeline n8n world call).db =
      rows ACTION_INCIDENT_ASSIGNED incident_id world.db := by
  rw [rows_written (by decide : ¬ Unasked ACTION_INCIDENT_ASSIGNED) (step_written pipeline n8n world call), none]
  exact List.append_nil _

/-- What one call does to the assignments of an incident: nothing, or it is answered with what stood before it, its own
    stands after it, and a row is there when the two differ. -/
private theorem assigned_cases (pipeline : Pipeline) (n8n : N8N) {now : Int} {world : World}
    (chronological : Chronological now world.db) (incident_id : String) (call : Call) :
    (assigned incident_id world.db call = [] ∧ rows ACTION_INCIDENT_ASSIGNED incident_id (step pipeline n8n world call).db =
      rows ACTION_INCIDENT_ASSIGNED incident_id world.db) ∨
    (∃ update row, assigned incident_id world.db call = [update] ∧ world.db.incidents.has incident_id = true ∧
      update.previous_assignee = standing incident_id world.db ∧
      update.changed = decide (update.previous_assignee ≠ update.assignee) ∧
      assignment_from_audit row = update.assignee ∧ recorded_change row = answered_change update ∧
      rows ACTION_INCIDENT_ASSIGNED incident_id (step pipeline n8n world call).db =
        rows ACTION_INCIDENT_ASSIGNED incident_id world.db ++ if update.changed then [row] else []) := by
  cases call with
  | serve event =>
    refine .inl ⟨rfl, unchanged_rows ?_⟩
    cases event with
    | note request fault =>
      rw [asked]
      have other : ACTION_INCIDENT_NOTE_ADDED ≠ ACTION_INCIDENT_ASSIGNED := by decide
      split
      · simp [note_entry, other]
      · rfl
    | _ => rfl
  | assign request fault =>
    have written := @rows_written _ _ _ _ incident_id _ (by decide : ¬ Unasked ACTION_INCIDENT_ASSIGNED)
      (step_written pipeline n8n world (.assign request fault))
    rcases update_incident_assignment_cases request fault world.db with ⟨response, same⟩ | ⟨stored, current, before, same⟩
    · have none : asked world.db (.assign request fault) = [] := by rw [asked, same]
      exact .inl ⟨by rw [assigned, same], unchanged_rows (by rw [none]; rfl)⟩
    · have entries : asked world.db (.assign request fault) =
          if current ≠ request.assignee then [assignment_entry request current] else [] := by
        rw [asked, same]
        simp [assignment_answer]
      by_cases mine : request.incident_id = incident_id
      · subst mine
        rw [current_read chronological] at before
        refine .inr ⟨assignment_answer request current,
          Database.audit_row request.occurred_at (assignment_entry request current),
          by rw [assigned, same]; exact if_pos rfl, stored, before, rfl, assignment_from_recorded _ _ _, rfl, ?_⟩
        rw [written, entries]
        by_cases changed : current = request.assignee
        · simp [changed, assignment_answer]
        · simp [changed, assignment_answer, assignment_entry, clock]
      · refine .inl ⟨by rw [assigned, same]; exact if_neg mine, unchanged_rows ?_⟩
        rw [entries]
        split
        · simp [assignment_entry, mine]
        · rfl

private theorem assigned_incident (incident_id : String) (db : Database) (call : Call)
    (answered : assigned incident_id db call ≠ []) : db.incidents.has incident_id = true := by
  cases call with
  | serve event => exact absurd rfl answered
  | assign request fault =>
    rw [assigned] at answered
    rcases update_incident_assignment_cases request fault db with ⟨response, same⟩ | ⟨stored, current, _, same⟩
    · rw [same] at answered
      exact absurd rfl answered
    · rw [same] at answered
      by_cases mine : request.incident_id = incident_id
      · exact mine ▸ stored
      · exact absurd (if_neg mine) answered

/-- The assignments of an incident over a run: each starts from where the one before it ended, and the changes are the
    rows. -/
structure Chained (incident_id : String) (db db' : Database) (updates : List IncidentAssignmentUpdateResponse) : Prop where
  chain : updates.map IncidentAssignmentUpdateResponse.previous_assignee ++ [standing incident_id db'] =
    standing incident_id db :: updates.map IncidentAssignmentUpdateResponse.assignee
  changed : ∀ update ∈ updates, update.changed = decide (update.previous_assignee ≠ update.assignee)
  recorded : (rows ACTION_INCIDENT_ASSIGNED incident_id db').map recorded_change =
    (rows ACTION_INCIDENT_ASSIGNED incident_id db).map recorded_change ++
      (updates.filter IncidentAssignmentUpdateResponse.changed).map answered_change

private theorem Chained.append {incident_id : String} {a b c : Database} {first rest : List IncidentAssignmentUpdateResponse}
    (left : Chained incident_id a b first) (right : Chained incident_id b c rest) :
    Chained incident_id a c (first ++ rest) where
  chain := by
    rw [List.map_append, List.map_append, List.append_assoc, right.chain, ← List.cons_append, ← left.chain, List.append_assoc]
    rfl
  changed := by
    intro update inside
    exact (List.mem_append.mp inside).elim (left.changed update) (right.changed update)
  recorded := by rw [right.recorded, left.recorded, List.filter_append, List.map_append, List.append_assoc]

private theorem step_chained (pipeline : Pipeline) (n8n : N8N) {now : Int} {world : World}
    (chronological : Chronological now world.db) (incident_id : String) (call : Call) :
    Chained incident_id world.db (step pipeline n8n world call).db (assigned incident_id world.db call) := by
  rcases assigned_cases pipeline n8n chronological incident_id call with
    ⟨none, same⟩ | ⟨update, row, one, _, previous, changed, named, columns, added⟩
  · rw [none]
    exact ⟨by rw [standing, standing, same]; rfl, fun _ none => absurd none List.not_mem_nil,
      by rw [same]; exact (List.append_nil _).symm⟩
  · rw [one]
    refine ⟨?_, fun other inside => by rw [List.mem_singleton.mp inside]; exact changed, ?_⟩
    · have stands : standing incident_id (step pipeline n8n world call).db = update.assignee := by
        rw [standing, added]
        cases change : update.changed with
        | true => rw [if_pos rfl, List.getLast?_concat]; exact named
        | false =>
          have same : update.previous_assignee = update.assignee := by
            rw [change] at changed
            exact not_not.mp (of_decide_eq_false changed.symm)
          rw [if_neg Bool.false_ne_true, List.append_nil, ← same, previous, standing]
      rw [stands, List.map_singleton, List.map_singleton, previous]
      rfl
    · rw [added, List.map_append]
      cases change : update.changed with
      | true => rw [if_pos rfl, List.filter_cons_of_pos change, List.map_singleton, columns]; rfl
      | false => rw [if_neg Bool.false_ne_true, List.filter_cons_of_neg (by rw [change]; exact Bool.false_ne_true)]; rfl

private theorem run_chained (pipeline : Pipeline) (n8n : N8N) (incident_id : String) {calls : List Call}
    (ordered : Ordered calls) {now : Int} {world : World} (chronological : Chronological now world.db)
    (later : ∀ call ∈ calls, now ≤ clock call) :
    Chained incident_id world.db (Runs.run (step pipeline n8n) world calls).db
      (answers pipeline n8n (assigned incident_id) world calls) := by
  induction calls generalizing now world with
  | nil => exact ⟨rfl, fun _ none => absurd none List.not_mem_nil, (List.append_nil _).symm⟩
  | cons call rest ih =>
    obtain ⟨follows, ordered⟩ := List.pairwise_cons.mp ordered
    have next := written_chronological (chronological.later (later call List.mem_cons_self))
      (step_written pipeline n8n world call)
    exact (step_chained pipeline n8n chronological incident_id call).append (ih ordered next follows)

/-- Every assignment is answered with the assignee the last one before it named, and the reader and the export with the one
    the last of all named; the changes among them, and no others, are on record. -/
theorem assignments_chain (pipeline : Pipeline) (n8n : N8N) {calls : List Call} (ordered : Ordered calls)
    (incident_id : String) :
    let db := (after pipeline n8n calls).db
    let updates := answers pipeline n8n (assigned incident_id) {} calls
    (match get_incident_assignment incident_id false db with
      | .ok read => updates.map (·.previous_assignee) ++ [read.assignee] = none :: updates.map (·.assignee) ∧
          (gather db incident_id).assignee = read.assignee
      | .error response => response = incident_missing ∧ updates = []) ∧
    (∀ update ∈ updates, update.changed = decide (update.previous_assignee ≠ update.assignee)) ∧
    (rows ACTION_INCIDENT_ASSIGNED incident_id db).map recorded_change =
      (updates.filter (·.changed)).map answered_change := by
  dsimp only
  obtain ⟨now, first⟩ := earliest ordered
  have chained := @run_chained pipeline n8n incident_id _ ordered now {} (.start now) first
  change Chained incident_id {} (after pipeline n8n calls).db _ at chained
  obtain ⟨last, chronological⟩ := @run_chronological pipeline n8n _ ordered now {} (.start now) first
  change Chronological last (after pipeline n8n calls).db at chronological
  refine ⟨?_, chained.changed, chained.recorded⟩
  rw [get_incident_assignment, if_neg (by decide)]
  cases found : (after pipeline n8n calls).db.incidents.get incident_id with
  | none =>
    refine ⟨rfl, ?_⟩
    by_contra answered
    have stored := answered_incident (assigned_incident incident_id) pipeline n8n calls {} answered
    change (after pipeline n8n calls).db.incidents.has incident_id = true at stored
    rw [Table.has, found] at stored
    contradiction
  | some incident =>
    refine ⟨?_, rfl⟩
    dsimp only
    rw [current_read chronological]
    exact chained.chain

theorem desk_assignments_chain : (rows ACTION_INCIDENT_ASSIGNED "INC-1970-01-01-0001"
    (after Ingest.alarming DuplicateDelivery.accepting desk).db).map recorded_change =
    [(some [("assignee", .null)], some [("assignee", .str "ana")]),
      (some [("assignee", .str "ana")], some [("assignee", .null)])] :=
  (assignments_chain Ingest.alarming DuplicateDelivery.accepting desk_ordered "INC-1970-01-01-0001").2.2.trans
    (by decide +kernel)

end SocTriage.CaseDesk
