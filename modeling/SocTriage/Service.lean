import SocTriage.IncidentRuns
import SocTriage.LateEnrichment
import SocTriage.Notifications

/-!
The running service: deliveries, the sweeps that enrich or close, and the calls of the
analysts, in any order, from an empty database. A stop between the units of work of a
delivery makes the states in between reachable too.
-/
namespace SocTriage.Service
open Ingest (Pipeline Delivery Faults ingest_alert assessment correlate_alert)
open LateEnrichment (enriched_delivery reassess_persisted_if_changed reassess_cases sweep_candidate Pass)
open Notifications (N8N StepFaults World handle)
open Assessment Incidents IncidentCallers Enrichment

/-- One operation of the service. -/
inductive Event where
  | ingest (delivery : Delivery) (providers : List Provider) (faults : Faults) (step_faults : StepFaults)
  | reassess (pass : Pass)
  | update (request : StatusRequest) (fault : Bool)
  | feedback (request : FeedbackRequest) (fault : Bool)
  | note (request : NoteRequest) (fault : Bool)
  | sweep (ttl_seconds : Nat) (as_of : Int) (fault : String → Bool)

def step (pipeline : Pipeline) (n8n : N8N) (world : World) : Event → World
  | .ingest delivery providers faults step_faults =>
    (handle pipeline n8n (enriched_delivery delivery providers) faults step_faults world).2
  | .reassess pass => { world with db := (LateEnrichment.sweep_once pass world.db).2 }
  | .update request fault => { world with db := (update_incident_status request fault world.db).2 }
  | .feedback request fault => { world with db := (submit_feedback request fault world.db).2 }
  | .note request fault => { world with db := (add_incident_note request fault world.db).2 }
  | .sweep ttl_seconds as_of fault => { world with db := IncidentRuns.step world.db (.sweep ttl_seconds as_of fault) }

/-- What a sequence of operations leaves, from an empty database. -/
def after (pipeline : Pipeline) (n8n : N8N) (events : List Event) : World := Runs.run (step pipeline n8n) {} events

/-! ### Units of work -/

section
variable {α : Type} {Keeps : Database → Database → Prop} {db : Database}

/-- What the block keeps when it commits is kept by the unit of work. -/
theorem session_scope_keeps {block : Database → Except Error (α × Database)} (refl : Keeps db db)
    (keeps : ∀ value after, block db = .ok (value, after) → Keeps db after) : Keeps db (db.session_scope block).2 := by
  unfold Database.session_scope
  cases executed : block db with
  | error e => exact refl
  | ok value => exact keeps value.1 value.2 executed

/-- The same for a unit of work whose storage may fail. -/
theorem faulty_scope_keeps {work : Database → Except Error (α × Database)} (fault : Bool) (refl : Keeps db db)
    (keeps : ∀ value after, work db = .ok (value, after) → Keeps db after) :
    Keeps db (db.session_scope (fun db => if fault then .error .database else work db)).2 := by
  refine session_scope_keeps refl ?_
  intro value after executed
  cases fault with
  | true => cases executed
  | false => exact keeps value after executed

/-- What one reassessment keeps, a pass keeps. -/
theorem reassess_sweep_keeps (pass : Pass) (refl : ∀ db, Keeps db db) (trans : ∀ {a b c}, Keeps a b → Keeps b c → Keeps a c)
    (keeps : ∀ self alert_id decided_at faults db,
      Keeps db (reassess_persisted_if_changed self alert_id decided_at faults db).2) :
    Keeps db (LateEnrichment.sweep_once pass db).2 := by
  have run : ∀ (candidates : List Alert) (state : LateEnrichment.SweepStats × Database),
      Keeps state.2 (Runs.run (sweep_candidate pass) state candidates).2 := by
    intro candidates
    induction candidates with
    | nil => intro state; exact refl state.2
    | cons candidate rest ih =>
      intro state
      have now := keeps (pass.service candidate.alert_id) candidate.alert_id (some pass.as_of)
        (pass.faults candidate.alert_id)
        state.2
      rw [← LateEnrichment.sweep_candidate_database] at now
      exact trans now (ih _)
  unfold LateEnrichment.sweep_once
  split
  · exact refl db
  · split
    · exact refl db
    · exact run (pass.candidates db) ({ candidates := (pass.candidates db).length }, db)

/-- What the assessment of a newly recorded alert and the correlation keep, a delivery keeps after its dedupe unit of
    work. -/
theorem ingest_follows (pipeline : Pipeline) (delivery : Delivery) (faults : Faults)
    (refl : ∀ db, Keeps db db) (trans : ∀ {a b c}, Keeps a b → Keeps b c → Keeps a c)
    (assess : ∀ outcome recorded, PersistentDeduplication.process pipeline.sha256 pipeline.window delivery.alert
      delivery.canonical delivery.received_at faults.dedupe db = (.ok outcome, recorded) → outcome.status ≠ .EXACT_DUPLICATE →
      Keeps recorded (persist_assessment (assessment pipeline delivery outcome) faults.assessment recorded).2)
    (correlate : ∀ alert_id fault db, Keeps db (correlate_alert pipeline delivery alert_id fault db).2) :
    Keeps (PersistentDeduplication.process pipeline.sha256 pipeline.window delivery.alert delivery.canonical
      delivery.received_at faults.dedupe db).2 (ingest_alert pipeline delivery faults db).2 := by
  unfold ingest_alert
  rcases processed : PersistentDeduplication.process pipeline.sha256 pipeline.window delivery.alert delivery.canonical
    delivery.received_at faults.dedupe db with ⟨result, recorded⟩
  cases result with
  | error e => exact refl recorded
  | ok outcome =>
    dsimp only
    split
    · exact refl recorded
    · split
      · exact refl recorded
      · rename_i distinct
        have first := assess outcome recorded processed distinct
        rcases persisted : persist_assessment (assessment pipeline delivery outcome) faults.assessment recorded with
          ⟨result, assessed⟩
        rw [persisted] at first
        cases result with
        | error e => exact first
        | ok result =>
          unfold Ingest.finish
          dsimp only
          split
          · exact first
          · have second := trans first (correlate outcome.alert_id faults.correlation assessed)
            split <;> exact second
end

/-! ### What the recurrence state and the incident numbers keep -/

/-- The recurrence state is left alone, and a new incident gets the next number. -/
structure Framed (db db' : Database) : Prop where
  groups : db'.alert_dedupe_groups = db.alert_dedupe_groups
  numbered : Numbered db → Numbered db'

theorem Framed.refl (db : Database) : Framed db db := ⟨rfl, id⟩

theorem Framed.trans {a b c : Database} (first : Framed a b) (second : Framed b c) : Framed a c :=
  ⟨second.groups.trans first.groups, fun numbered => second.numbered (first.numbered numbered)⟩

private theorem append_framed (entries : List Audit.AuditEntry) (occurred_at : Int) (db : Database) :
    Framed db (db.append entries occurred_at) := ⟨rfl, id⟩

private theorem numbered_links {db db' : Database} (links : IncidentRuns.SameLinks db db') (numbered : Numbered db) :
    Numbered db' := by
  intro incident inside
  have identities : IncidentRuns.identity incident ∈ db.incidents.rows.map IncidentRuns.identity := by
    rw [← links.incidents]
    exact List.mem_map_of_mem inside
  obtain ⟨old, stored, same⟩ := List.mem_map.mp identities
  rw [← show old.incident_id = incident.incident_id from congrArg Prod.fst same]
  exact numbered old stored

theorem committed_framed {request : Request} {db db' : Database} {incident_id : Option String}
    (committed : Committed request db incident_id db') : Framed db db' :=
  ⟨committed.frame.2.1, committed.numbered⟩

private theorem persist_framed (request : Request) (fault : Bool) (db : Database) :
    Framed db (persist_assessment request fault db).2 := by
  rcases persist_assessment_cases request fault db with ⟨incident_id, db', same, _, executed⟩ | ⟨result, same, _⟩
  · rw [same]; exact committed_framed (assess_ok executed).2
  · rw [same]; exact .refl db

private theorem reassess_framed (pass : Pass) (db : Database) : Framed db (LateEnrichment.sweep_once pass db).2 := by
  refine reassess_sweep_keeps pass .refl Framed.trans ?_
  intro self alert_id decided_at faults db
  rcases reassess_cases self alert_id decided_at faults db with same | ⟨_, _, _, _, _, _, _, committed⟩
  · rw [same]; exact .refl db
  · exact committed_framed committed

/-- The recurrence state of the groups and the records of their events. -/
def recurrence (db : Database) : Table AlertDedupeGroup.group_key × Table AlertEvent.event_identity :=
  (db.alert_dedupe_groups, db.alert_events)

theorem update_recurrence (request : StatusRequest) (fault : Bool) (db : Database) :
    recurrence (update_incident_status request fault db).2 = recurrence db := by
  have kept := @faulty_scope_keeps _ (fun a b => recurrence b = recurrence a) db (status_work request) fault rfl ?_
  · unfold update_incident_status
    split <;> (rename_i same; rw [same] at kept; exact kept)
  · intro response after executed
    unfold status_work at executed
    split at executed
    · cases executed; rfl
    · split at executed
      · cases executed; rfl
      · cases executed
      · rename_i done
        obtain ⟨row, _, _, _, rfl⟩ := update_status_ok done
        cases executed
        rfl

private theorem update_framed (request : StatusRequest) (fault : Bool) (db : Database) :
    Framed db (update_incident_status request fault db).2 :=
  ⟨congrArg Prod.fst (update_recurrence request fault db), numbered_links (IncidentRuns.update_moved request fault db).2⟩

private theorem sync_recurrence {db db' : Database} {incident : Incident} {request : FeedbackRequest}
    (synced : sync_incident_with_feedback db incident request = .ok db') : recurrence db' = recurrence db := by
  unfold sync_incident_with_feedback at synced
  split at synced
  · cases synced; rfl
  · split at synced
    · cases synced; rfl
    · obtain ⟨⟨updated, after⟩, executed, done⟩ := bind_ok.mp synced
      obtain ⟨row, _, _, _, rfl⟩ := update_status_ok executed
      cases done
      rfl

theorem feedback_recurrence (request : FeedbackRequest) (fault : Bool) (db : Database) :
    recurrence (submit_feedback request fault db).2 = recurrence db := by
  have kept := @faulty_scope_keeps _ (fun a b => recurrence b = recurrence a) db (feedback_work request) fault rfl ?_
  · unfold submit_feedback
    split <;> (rename_i same; rw [same] at kept; exact kept)
  · intro response after executed
    unfold feedback_work at executed
    split at executed
    · cases executed; rfl
    · dsimp only at executed
      split at executed
      · cases executed; rfl
      · obtain ⟨synced, done, same⟩ := bind_ok.mp executed
        cases same
        have kept := sync_recurrence done
        exact kept

private theorem feedback_framed (request : FeedbackRequest) (fault : Bool) (db : Database) :
    Framed db (submit_feedback request fault db).2 :=
  ⟨congrArg Prod.fst (feedback_recurrence request fault db),
    numbered_links (IncidentRuns.feedback_moved request fault db).2⟩

/-- A note leaves everything but the audit log. -/
theorem note_appends (request : NoteRequest) (fault : Bool) (db : Database) :
    ∃ rows, (add_incident_note request fault db).2 = { db with audit_log := db.audit_log ++ rows } := by
  have nothing : db = { db with audit_log := db.audit_log ++ [] } := by rw [List.append_nil]
  unfold add_incident_note
  split
  · exact ⟨[], nothing⟩
  · have kept := @faulty_scope_keeps _ (fun a b => ∃ rows, b = { a with audit_log := a.audit_log ++ rows }) db
      (note_work request) fault ⟨[], nothing⟩ ?_
    · split <;> (rename_i same; rw [same] at kept; exact kept)
    · intro response after executed
      unfold note_work at executed
      split at executed
      · cases executed; exact ⟨[], nothing⟩
      · cases executed; exact ⟨_, rfl⟩

private theorem note_framed (request : NoteRequest) (fault : Bool) (db : Database) :
    Framed db (add_incident_note request fault db).2 := by
  obtain ⟨rows, same⟩ := note_appends request fault db
  rw [same]
  exact ⟨rfl, id⟩

private theorem close_recurrence (ttl_seconds : Nat) (as_of : Int) (fault : String → Bool) (state : SweepStats × Database)
    (candidate : Incident) :
    recurrence (close_candidate ttl_seconds as_of fault state candidate).2 = recurrence state.2 := by
  have kept := @faulty_scope_keeps _ (fun a b => recurrence b = recurrence a) state.2
    (close_work ttl_seconds as_of candidate) (fault candidate.incident_id) rfl ?_
  · unfold close_candidate
    dsimp only
    split <;> (rename_i same; rw [same] at kept; exact kept)
  · intro matched after executed
    unfold close_work at executed
    rcases auto_close_cases state.2 candidate.incident_id ttl_seconds as_of candidate.updated_at candidate.status with
      skipped | ⟨row, _, _, _, _, closed⟩
    · rw [skipped] at executed; cases executed; rfl
    · rw [closed] at executed; cases executed; rfl

theorem sweep_recurrence (ttl_seconds : Nat) (as_of : Int) (fault : String → Bool) (db : Database) :
    recurrence (IncidentRuns.step db (.sweep ttl_seconds as_of fault)) = recurrence db := by
  rw [IncidentRuns.step]
  cases swept : IncidentCallers.sweep_once ttl_seconds as_of fault db with
  | error e => rfl
  | ok value =>
    exact @IncidentRuns.sweep_keeps db value.2 (fun a b => recurrence b = recurrence a) ttl_seconds as_of fault value.1
      (fun _ => rfl) (fun first second => second.trans first)
      (fun stats db candidate _ => close_recurrence ttl_seconds as_of fault (stats, db) candidate) swept

private theorem sweep_framed (ttl_seconds : Nat) (as_of : Int) (fault : String → Bool) (db : Database) :
    Framed db (IncidentRuns.step db (.sweep ttl_seconds as_of fault)) := by
  refine ⟨congrArg Prod.fst (sweep_recurrence ttl_seconds as_of fault db), ?_⟩
  rw [IncidentRuns.step]
  cases swept : IncidentCallers.sweep_once ttl_seconds as_of fault db with
  | error e => exact id
  | ok value =>
    obtain ⟨stats, after⟩ := value
    exact numbered_links (IncidentRuns.sweep_moved swept).2

private theorem correlate_framed (pipeline : Pipeline) (delivery : Delivery) (alert_id : UUID) (fault : Bool)
    (db : Database) :
    Framed db (correlate_alert pipeline delivery alert_id fault db).2 := by
  have untouched := Correlation.correlate_untouched pipeline.correlation_window alert_id delivery.received_at fault db
  have framed : Framed db (Correlation.correlate pipeline.correlation_window alert_id delivery.received_at fault db).2 := by
    refine ⟨untouched.alert_dedupe_groups, ?_⟩
    unfold Numbered
    rw [untouched.incidents]
    exact id
  unfold correlate_alert
  split <;> (rename_i same; rw [same] at framed; exact framed)

/-- Deduplication writes the time a group was last seen as the time of its update. -/
def Timed (db : Database) : Prop :=
  ∀ row ∈ db.alert_dedupe_groups.rows, row.updated_at = (row.last_seen.or row.first_seen).getD 0

/-- The invariant of the runs. -/
structure Steady (db : Database) : Prop where
  timed : Timed db
  numbered : Numbered db

theorem Framed.steady {db db' : Database} (framed : Framed db db') (steady : Steady db) : Steady db' := by
  refine ⟨?_, framed.numbered steady.numbered⟩
  unfold Timed
  rw [framed.groups]
  exact steady.timed

private theorem upsert_timed {db : Database} (group : Deduplication.GroupState) (timed : Timed db) :
    Timed (PersistentDeduplication.upsert_group db group) := by
  intro row inside
  have found := Table.get_of_mem inside
  unfold PersistentDeduplication.upsert_group at found
  rw [Table.get_put] at found
  split at found
  · cases found
    cases group.last_seen <;> rfl
  · exact timed row (Table.get_mem found)

private theorem process_steady (pipeline : Pipeline) (delivery : Delivery) (fault : Bool) (db : Database)
    (steady : Steady db) :
    Steady (PersistentDeduplication.process pipeline.sha256 pipeline.window delivery.alert delivery.canonical
      delivery.received_at fault db).2 := by
  rcases PersistentDeduplication.process_cases pipeline.sha256 pipeline.window delivery.alert delivery.canonical
    delivery.received_at fault db with ⟨e, same⟩ |
      ⟨result, after, group_key, identity, fingerprint, decision, same, executed, _⟩
  · rw [same]; exact steady
  · rw [same]
    have numbered : Numbered after := by
      unfold Numbered
      rw [(PersistentDeduplication.deliver_recorded executed).1]
      exact steady.numbered
    refine ⟨?_, numbered⟩
    obtain ⟨_, ⟨_, rfl⟩ | ⟨_, _, _, _, _, rfl⟩⟩ := PersistentDeduplication.deliver_cases executed
    · exact upsert_timed decision.group steady.timed
    · exact upsert_timed decision.group steady.timed

theorem step_steady (pipeline : Pipeline) (n8n : N8N) (world : World) (event : Event) (steady : Steady world.db) :
    Steady (step pipeline n8n world event).db := by
  cases event with
  | ingest delivery providers faults step_faults =>
    obtain ⟨entries, occurred_at, same⟩ := Notifications.handle_database pipeline n8n (enriched_delivery delivery providers)
      faults step_faults world
    have recorded := process_steady pipeline (enriched_delivery delivery providers) faults.dedupe world.db steady
    have ingested := @ingest_follows (fun a b => Steady a → Steady b) world.db pipeline (enriched_delivery delivery providers)
      faults (fun _ => id) (fun first second steady => second (first steady))
      (fun outcome recorded _ _ => (persist_framed _ faults.assessment recorded).steady)
      (fun alert_id fault db => (correlate_framed pipeline (enriched_delivery delivery providers) alert_id fault db).steady)
      recorded
    dsimp only [step]
    rw [same]
    exact (append_framed entries occurred_at _).steady ingested
  | reassess pass =>
    dsimp only [step]
    exact (reassess_framed pass world.db).steady steady
  | update request fault =>
    dsimp only [step]
    exact (update_framed request fault world.db).steady steady
  | feedback request fault =>
    dsimp only [step]
    exact (feedback_framed request fault world.db).steady steady
  | note request fault =>
    dsimp only [step]
    exact (note_framed request fault world.db).steady steady
  | sweep ttl_seconds as_of fault =>
    dsimp only [step]
    exact (sweep_framed ttl_seconds as_of fault world.db).steady steady

/-- Every reachable database keeps the invariant. -/
theorem after_steady (pipeline : Pipeline) (n8n : N8N) (events : List Event) : Steady (after pipeline n8n events).db := by
  refine @Runs.invariant _ _ (step pipeline n8n) (fun world => Steady world.db)
    (fun world event steady => step_steady pipeline n8n world event steady) {} ⟨?_, ?_⟩ events
  · intro row none; exact absurd none List.not_mem_nil
  · intro incident none; exact absurd none List.not_mem_nil

end SocTriage.Service
