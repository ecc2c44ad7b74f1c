import SocTriage.Explanation
import SocTriage.UnitsOfWork

/-!
The `alert.created` rows, by which an explanation tells how an alert was classified. Each stored alert
has one, written with it and never again, and its status is the one that the stored snapshot of
the group shows: one occurrence for a new generation, more for a repeated event.
-/
namespace SocTriage.CreationRecords
open Assessment Audit Deduplication Incidents IncidentCallers PersistentDeduplication
open CaseExport (text_field for_entity_ids)
open Explanation (audited_status dedupe_status_from_audit explained_dedupe entity_ids)
open Ingest (Pipeline)
open Notifications (N8N)
open UnitsOfWork (Any Kept SameEvent Remark Correlating REMARK_ACTIONS CORRELATION_ACTIONS)

/-! ### The rows of an alert -/

/-- The `alert.created` rows of an alert. -/
def creations (alert_id : UUID) (log : List AuditEvent) : List AuditEvent :=
  log.filter (fun row => row.entity_id = alert_id && row.action = ACTION_ALERT_CREATED)

/-- The status a stored snapshot shows. -/
def shown_status (dedupe : CanonicalDedupe) : DedupeStatus := if dedupe.occurrences = 1 then .NEW_GENERATION else .REPEATED

/-- Groups that have occurred, and one row for each stored alert and for no other, with the status its snapshot shows. -/
structure Created (db : Database) : Prop where
  occurred : ∀ group ∈ db.alert_dedupe_groups.rows, 1 ≤ group.occurrences
  stored : ∀ alert ∈ db.alerts.rows, ∃ dedupe row, alert.normalized_payload.dedupe = some dedupe ∧
    creations alert.alert_id db.audit_log = [row] ∧ text_field "dedupe_status" row = some (shown_status dedupe).value
  unknown : ∀ alert_id, db.alerts.has alert_id = false → creations alert_id db.audit_log = []

theorem creations_append (alert_id : UUID) (log : List AuditEvent) (entries : List AuditEntry) (occurred_at : Int) :
    creations alert_id (log ++ entries.map (Database.audit_row occurred_at)) = creations alert_id log ++
      (entries.filter (fun entry => entry.entity_id = alert_id && entry.action = ACTION_ALERT_CREATED)).map
        (Database.audit_row occurred_at) := by
  rw [creations, List.filter_append, List.filter_map]
  rfl

private theorem none_created {entries : List AuditEntry} (silent : ∀ entry ∈ entries, entry.action ≠ ACTION_ALERT_CREATED)
    (alert_id : UUID) :
    entries.filter (fun entry => entry.entity_id = alert_id && entry.action = ACTION_ALERT_CREATED) = [] := by
  refine List.filter_eq_nil_iff.mpr (fun entry inside created => ?_)
  rw [Bool.and_eq_true, decide_eq_true_eq, decide_eq_true_eq] at created
  exact silent entry inside created.2

private theorem creations_silent {log : List AuditEvent} {entries : List AuditEntry} {occurred_at : Int}
    (silent : ∀ entry ∈ entries, entry.action ≠ ACTION_ALERT_CREATED) (alert_id : UUID) :
    creations alert_id (log ++ entries.map (Database.audit_row occurred_at)) = creations alert_id log := by
  rw [creations_append, none_created silent]
  exact List.append_nil _

private theorem single_silent {log : List AuditEvent} {entry : AuditEntry} {occurred_at : Int} {action : String}
    (named : entry.action = action) (other : action ≠ ACTION_ALERT_CREATED) (alert_id : UUID) :
    creations alert_id (log ++ [entry].map (Database.audit_row occurred_at)) = creations alert_id log := by
  refine creations_silent (fun listed inside => ?_) alert_id
  rw [List.mem_singleton.mp inside, named]
  exact other

/-! ### What a delivery writes -/

section
variable {group : Option GroupState} {group_key identity fingerprint : String} {received : Datetime} {window : Window}
  {canonical : CanonicalAlert} {decision : DeliveryDecision}

private theorem info_occurrences {state : GroupState} {identity : String} {dedupe : CanonicalDedupe}
    (info : dedupe_info state identity = .ok dedupe) : dedupe.occurrences = state.occurrences := by
  obtain ⟨_, _, info⟩ := bind_ok.mp info
  obtain ⟨_, _, done⟩ := bind_ok.mp info
  cases done
  rfl

/-- A decision on a group that has occurred is on one that has, and a distinct event gets the status its snapshot shows. -/
private theorem decided_shown (occurred : ∀ state, group = some state → 1 ≤ state.occurrences)
    (decided : decide_delivery group group_key identity fingerprint received window canonical = .ok decision) :
    1 ≤ decision.group.occurrences ∧ (decision.status ≠ .EXACT_DUPLICATE → ∃ dedupe,
      decision.record = new_event_record canonical identity fingerprint dedupe received ∧
      decision.status = shown_status dedupe) := by
  cases group with
  | none =>
    obtain ⟨dedupe, info, done⟩ := bind_ok.mp decided
    cases done
    have once : dedupe.occurrences = 1 := info_occurrences info
    exact ⟨Nat.le_refl 1, fun _ => ⟨dedupe, rfl, by rw [shown_status, if_pos once]⟩⟩
  | some state =>
    have positive := occurred state rfl
    rw [decide_delivery, classify] at decided
    cases known : (prune_expired state received window).events.get identity with
    | some existing =>
      simp only [known, Except.ok.injEq] at decided
      subst decided
      exact ⟨positive, fun distinct => absurd rfl distinct⟩
    | none =>
      simp only [known] at decided
      obtain ⟨last_seen, _, decided⟩ := bind_ok.mp decided
      obtain ⟨dedupe, info, done⟩ := bind_ok.mp decided
      cases done
      have occurrences := info_occurrences info
      clear decided info
      rw [recurred] at occurrences ⊢
      split at occurrences
      · rename_i passed
        have once : dedupe.occurrences = 1 := occurrences
        rw [if_pos passed]
        exact ⟨Nat.le_refl 1, fun _ => ⟨dedupe, rfl, (if_pos once).symm⟩⟩
      · rename_i within
        have more : dedupe.occurrences ≠ 1 := by
          rw [occurrences]
          change state.occurrences + 1 ≠ 1
          omega
        rw [if_neg within]
        exact ⟨Nat.le_add_left 1 _, fun _ => ⟨dedupe, rfl, (if_neg more).symm⟩⟩

/-- The `alert.created` entry of a decision. -/
def created_entry (decision : DeliveryDecision) : AuditEntry :=
  { actor := "ingest", action := ACTION_ALERT_CREATED, entity_type := "alert", entity_id := decision.record.alert_id
    after := some [("alert_id", .str decision.record.alert_id), ("event_identity", .str decision.record.event_identity),
      ("dedupe_group", .str decision.group.group_key), ("dedupe_status", .str decision.status.value),
      ("occurrences", .int decision.group.occurrences), ("generation", .int decision.group.generation)] }

private theorem decision_creations (decision : DeliveryDecision) (alert_id : UUID) :
    (audit_entries_for_decision decision).filter
      (fun entry => entry.entity_id = alert_id && entry.action = ACTION_ALERT_CREATED) =
      if decision.status ≠ .EXACT_DUPLICATE ∧ decision.record.alert_id = alert_id then [created_entry decision] else [] := by
  have one : ∀ {action : String} (entry : AuditEntry), entry.action = action → action ≠ ACTION_ALERT_CREATED →
      [entry].filter (fun entry => entry.entity_id = alert_id && entry.action = ACTION_ALERT_CREATED) = [] := by
    intro action entry named other
    refine none_created (fun listed inside => ?_) alert_id
    rw [List.mem_singleton.mp inside, named]
    exact other
  have optional : ∀ {action : String} (chosen : Prop) [Decidable chosen] (entry : AuditEntry), entry.action = action →
      action ≠ ACTION_ALERT_CREATED → (if chosen then [entry] else []).filter
        (fun entry => entry.entity_id = alert_id && entry.action = ACTION_ALERT_CREATED) = [] := by
    intro action chosen _ entry named other
    split
    · exact one entry named other
    · rfl
  have mine : [created_entry decision].filter
      (fun entry => entry.entity_id = alert_id && entry.action = ACTION_ALERT_CREATED) =
      if decision.record.alert_id = alert_id then [created_entry decision] else [] := by
    by_cases named : decision.record.alert_id = alert_id
    · rw [if_pos named, List.filter_cons_of_pos, List.filter_nil]
      exact (Bool.and_eq_true _ _).mpr ⟨decide_eq_true named, decide_eq_true rfl⟩
    · rw [if_neg named, List.filter_cons_of_neg, List.filter_nil]
      exact fun both => named (of_decide_eq_true ((Bool.and_eq_true _ _).mp both).1)
  rw [audit_entries_for_decision, List.filter_append, List.filter_append,
    optional _ _ rfl (by decide : ACTION_GENERATION_STARTED ≠ ACTION_ALERT_CREATED),
    optional _ _ rfl (by decide : ACTION_CONTENT_DIVERGENCE ≠ ACTION_ALERT_CREATED), List.nil_append, List.append_nil]
  by_cases distinct : decision.status ≠ .EXACT_DUPLICATE
  · rw [if_pos distinct]
    exact mine.trans (if_congr (and_iff_right distinct).symm rfl rfl)
  · rw [if_neg distinct, one _ rfl (by decide : ACTION_DUPLICATE_ABSORBED ≠ ACTION_ALERT_CREATED)]
    exact (if_neg (fun both => distinct both.1)).symm
end

/-! ### Each unit of work -/

section
variable {db db' : Database}

private theorem occurred_put {db : Database} (occurred : ∀ group ∈ db.alert_dedupe_groups.rows, 1 ≤ group.occurrences)
    {group : GroupState} (more : 1 ≤ group.occurrences) :
    ∀ row ∈ (upsert_group db group).alert_dedupe_groups.rows, 1 ≤ row.occurrences := by
  intro row inside
  have stored := Table.get_of_mem inside
  rw [upsert_group, Table.get_put] at stored
  split at stored
  · rw [← Option.some.inj stored]
    exact more
  · exact occurred row (Table.get_mem stored)

/-- What a delivery decides on has occurred if the groups have. -/
private theorem restored_occurred (occurred : ∀ group ∈ db.alert_dedupe_groups.rows, 1 ≤ group.occurrences)
    {group_key : String} {received : Datetime} {window : Window} (state : GroupState)
    (loaded : group_state (prune_events db group_key received window) group_key = some state) : 1 ≤ state.occurrences := by
  obtain ⟨row, found, rfl⟩ := Option.map_eq_some_iff.mp loaded
  exact occurred row (Table.get_mem found)

/-- What is neither an alert's snapshot nor a row of these leaves them as they are. -/
private theorem silent (created : Created db)
    (alerts : db'.alerts.rows.map (fun alert => (alert.alert_id, alert.normalized_payload.dedupe)) =
      db.alerts.rows.map (fun alert => (alert.alert_id, alert.normalized_payload.dedupe)))
    (occurred : ∀ group ∈ db'.alert_dedupe_groups.rows, 1 ≤ group.occurrences)
    (rows : ∀ alert_id, creations alert_id db'.audit_log = creations alert_id db.audit_log) : Created db' := by
  refine ⟨occurred, fun alert inside => ?_, fun alert_id missing => ?_⟩
  · have listed := List.mem_map_of_mem (f := fun alert : Alert => (alert.alert_id, alert.normalized_payload.dedupe)) inside
    rw [alerts] at listed
    obtain ⟨old, before, same⟩ := List.mem_map.mp listed
    obtain ⟨mine, snapshot⟩ := Prod.mk.inj same
    rw [rows, ← mine, ← snapshot]
    exact created.stored old before
  · rw [rows]
    refine created.unknown alert_id (Bool.eq_false_iff.mpr (fun known => ?_))
    obtain ⟨old, before, rfl⟩ := Table.has_iff.mp known
    have listed := List.mem_map_of_mem (f := fun alert : Alert => (alert.alert_id, alert.normalized_payload.dedupe)) before
    rw [← alerts] at listed
    obtain ⟨alert, inside, same⟩ := List.mem_map.mp listed
    rw [← (Prod.mk.inj same).1, Table.has_of_mem inside] at missing
    contradiction

private theorem delivered {window : Window} {group_key identity fingerprint : String} {received : Datetime}
    {canonical : CanonicalAlert} {decision : DeliveryDecision}
    (executed : deliver window group_key identity fingerprint received canonical db = .ok (decision, db'))
    (created : Created db) : Created db' := by
  have log : ∀ alert_id, creations alert_id db'.audit_log = creations alert_id db.audit_log ++
      if decision.status ≠ .EXACT_DUPLICATE ∧ decision.record.alert_id = alert_id then
        [Database.audit_row received.instant (created_entry decision)] else [] := by
    intro alert_id
    rw [deliver_audit_log executed, creations_append, decision_creations, apply_ite (List.map _)]
    rfl
  obtain ⟨decided, written⟩ := deliver_cases executed
  obtain ⟨more, shown⟩ := decided_shown (restored_occurred created.occurred) decided
  rcases written with ⟨duplicate, rfl⟩ | ⟨distinct, alerts, alert_events, inserted, _, rfl⟩
  · refine silent created rfl (occurred_put created.occurred more) (fun alert_id => ?_)
    rw [log, if_neg (fun both => both.1 duplicate), List.append_nil]
  · obtain ⟨dedupe, record, status⟩ := shown distinct
    have fresh := Table.insert_fresh inserted
    refine ⟨occurred_put created.occurred more, fun alert inside => ?_, fun alert_id missing => ?_⟩
    · rw [log]
      rcases (Table.mem_insert inserted).mp inside with before | rfl
      · have apart : decision.record.alert_id ≠ alert.alert_id :=
          fun same => Table.get_eq_none.mp fresh alert before same.symm
        rw [if_neg (fun both => apart both.2), List.append_nil]
        exact created.stored alert before
      · refine ⟨dedupe, Database.audit_row received.instant (created_entry decision), ?_, ?_, ?_⟩
        · rw [record]; rfl
        · have unknown := created.unknown decision.record.alert_id
            (Option.not_isSome_iff_eq_none.mpr fresh |> Bool.eq_false_iff.mpr)
          show creations decision.record.alert_id db.audit_log ++ _ = _
          rw [unknown, if_pos ⟨distinct, rfl⟩]
          rfl
        · rw [← status]
          rfl
    · have other : decision.record.alert_id ≠ alert_id := by
        rintro rfl
        exact Bool.false_ne_true (missing.symm.trans
          (Table.has_iff.mpr ⟨_, (Table.mem_insert inserted).mpr (.inr rfl), rfl⟩))
      rw [log, if_neg (fun both => other both.2), List.append_nil]
      refine created.unknown alert_id (Bool.eq_false_iff.mpr (fun known => ?_))
      obtain ⟨old, before, rfl⟩ := Table.has_iff.mp known
      exact Bool.false_ne_true (missing.symm.trans
        (Table.has_iff.mpr ⟨old, (Table.mem_insert inserted).mpr (.inl before), rfl⟩))

private theorem assessed {scorer : UnitsOfWork.Scorer} {decider : UnitsOfWork.Decider} {request : Request}
    {incident_id : Option String} {alert : Alert} (found : db.alerts.get request.alert_id = some alert)
    (computed : UnitsOfWork.Computed scorer decider alert request) (committed : Committed request db incident_id db')
    (created : Created db) : Created db' := by
  refine silent created (committed.alert_rows (fun row inside mine => ?_) (fun _ _ => rfl)) ?_ (fun alert_id => ?_)
  · have same : row = alert := by
      have stored := Table.get_of_mem inside
      rw [mine, found] at stored
      exact (Option.some.inj stored).symm
    rw [rewritten, computed.event.dedupe, same]
  · rw [committed.frame.2.1]
    exact created.occurred
  · obtain ⟨opened, log, opening⟩ := committed.audit_log
    have no_opening : opened.filter (fun row => row.entity_id = alert_id && row.action = ACTION_ALERT_CREATED) = [] := by
      refine List.filter_eq_nil_iff.mpr (fun row inside creation => ?_)
      rw [Bool.and_eq_true, decide_eq_true_eq, decide_eq_true_eq, opening row inside] at creation
      exact absurd creation.2 (by decide : ACTION_INCIDENT_CREATED ≠ ACTION_ALERT_CREATED)
    rw [log, creations, List.filter_append, no_opening, List.append_nil]
    refine creations_silent (fun entry listed => ?_) alert_id
    rcases List.mem_cons.mp listed with rfl | listed
    · exact (by decide : ACTION_ALERT_SCORED ≠ ACTION_ALERT_CREATED)
    · rw [List.mem_singleton.mp listed]
      exact (by decide : ACTION_ALERT_DECIDED ≠ ACTION_ALERT_CREATED)

private theorem correlated {window : Window} {alert_id : UUID} {received : Int}
    {result : Option Correlation.CorrelationResult}
    (executed : Correlation.decide_and_apply window alert_id received db = .ok (result, db')) (created : Created db) :
    Created db' := by
  obtain ⟨_, entries, correlating, log⟩ := UnitsOfWork.correlation_logs executed
  have rows : ∀ alert_id, creations alert_id db'.audit_log = creations alert_id db.audit_log := by
    rw [log]
    exact creations_silent (fun entry listed => (by decide : ∀ action ∈ CORRELATION_ACTIONS, action ≠ ACTION_ALERT_CREATED)
      entry.action (correlating entry listed).action)
  rcases Correlation.decide_and_apply_cases executed with ⟨rfl, _⟩ | ⟨_, _, _, _, _, _, _, joined⟩
  · exact created
  · obtain ⟨alerts, groups, -, -⟩ := joined.untouched
    exact silent created (by rw [alerts]) (by rw [groups]; exact created.occurred) rows
end

theorem created_kept : Kept (fun _ => True) Any (fun db db' => Created db → Created db') where
  refl _ := id
  trans first second created := second (first created)
  appended _ entries _ remarks _ created := silent created rfl created.occurred (creations_silent (fun entry listed =>
    (by decide : ∀ action ∈ REMARK_ACTIONS, action ≠ ACTION_ALERT_CREATED) entry.action (remarks entry listed).action))
  delivered _ := delivered
  assessed _ _ found computed := assessed found computed
  correlated _ := correlated
  updated _ updated created := by
    obtain ⟨_, _, _, _, rfl⟩ := update_status_ok updated
    exact silent created rfl created.occurred (fun _ => rfl)
  recorded _ _ created := silent created rfl created.occurred
    (single_silent rfl (by decide : ACTION_FEEDBACK_RECEIVED ≠ ACTION_ALERT_CREATED))
  closed _ _ _ created := silent created rfl created.occurred (fun _ => rfl)
  noted _ _ _ created := silent created rfl created.occurred
    (single_silent rfl (by decide : ACTION_INCIDENT_NOTE_ADDED ≠ ACTION_ALERT_CREATED))

theorem created_start : Created {} :=
  ⟨fun _ none => absurd none List.not_mem_nil, fun _ none => absurd none List.not_mem_nil, fun _ _ => rfl⟩

/-! ### What an explanation tells -/

/-- An explanation reads the rows of the alert alone. -/
private theorem audited_own (alert_id : UUID) (records : List AuditEvent) (status : Option String) :
    records.foldl (audited_status alert_id) status = (creations alert_id records).foldl (audited_status alert_id) status := by
  induction records generalizing status with
  | nil => rfl
  | cons record rest ih =>
    rw [List.foldl_cons, ih, creations, creations, List.filter_cons]
    by_cases own : record.entity_id = alert_id ∧ record.action = ACTION_ALERT_CREATED
    · rw [if_pos ((Bool.and_eq_true _ _).mpr ⟨decide_eq_true own.1, decide_eq_true own.2⟩)]
      rfl
    · have other : record.action ≠ ACTION_ALERT_CREATED ∨ record.entity_id ≠ alert_id :=
        (not_and_or.mp own).symm
      rw [if_neg (fun both => own (by simpa using both)), audited_status, if_pos other]

private theorem audited_row {alert_id : UUID} {row : AuditEvent} {status : String} (own : row.entity_id = alert_id)
    (creation : row.action = ACTION_ALERT_CREATED) (noted : text_field "dedupe_status" row = some status)
    (known : Option String) : audited_status alert_id known row = some status := by
  rw [audited_status, if_neg (not_or.mpr ⟨not_not.mpr creation, not_not.mpr own⟩)]
  rw [text_field] at noted
  split at noted
  · rename_i found
    simpa only [found] using noted
  · contradiction

/-- An explanation finds the one row of the alert, whatever the other rows and the clock. -/
private theorem audited_once {db : Database} {alert : Alert} {row : AuditEvent} {status : String}
    (once : creations alert.alert_id db.audit_log = [row]) (noted : text_field "dedupe_status" row = some status) :
    dedupe_status_from_audit (CaseExport.for_entity_ids db (entity_ids db alert)) alert.alert_id = some status := by
  have listed : creations alert.alert_id (for_entity_ids db (entity_ids db alert)) = [row] := by
    refine List.perm_singleton.mp ?_
    refine ((List.perm_insertionSort CaseExport.by_occurred _).filter _).trans ?_
    rw [List.filter_filter, ← once, creations]
    refine List.Perm.of_eq (List.filter_congr (fun record _ => ?_))
    by_cases own : record.entity_id = alert.alert_id
    · simp [own, entity_ids]
    · simp [own]
  obtain ⟨own, creation⟩ : row.entity_id = alert.alert_id ∧ row.action = ACTION_ALERT_CREATED := by
    have inside : row ∈ creations alert.alert_id db.audit_log := by rw [once]; exact List.mem_singleton.mpr rfl
    have both := (List.mem_filter.mp inside).2
    rw [Bool.and_eq_true, decide_eq_true_eq, decide_eq_true_eq] at both
    exact both
  rw [dedupe_status_from_audit, audited_own, listed]
  exact audited_row own creation noted none

/-- How an explanation classifies an alert: by the one row of its creation, as the stored snapshot shows it, and never as a
    duplicate. -/
structure Classified (db : Database) (alert : Alert) : Prop where
  once : ∃ row, creations alert.alert_id db.audit_log = [row]
  told : ∃ dedupe read, alert.normalized_payload.dedupe = some dedupe ∧ explained_dedupe db alert.alert_id = some read ∧
    read.dedupe_status = some (shown_status dedupe).value ∧ read.is_exact_duplicate = some false ∧
    read.occurrences = some dedupe.occurrences

/-- In every database the service reaches, each stored alert is classified by its one row, and no other alert has any. -/
theorem creations_told (pipeline : Pipeline) (n8n : N8N) (events : List Service.Event) :
    let db := (Service.after pipeline n8n events).db
    (∀ alert ∈ db.alerts.rows, Classified db alert) ∧
      ∀ alert_id, db.alerts.has alert_id = false → creations alert_id db.audit_log = [] := by
  intro db
  have created : Created db := UnitsOfWork.invariant created_kept created_start pipeline n8n events
  refine ⟨fun alert inside => ?_, created.unknown⟩
  obtain ⟨dedupe, row, snapshot, once, noted⟩ := created.stored alert inside
  have status := audited_once once noted
  refine ⟨⟨row, once⟩, dedupe, _, snapshot, by rw [explained_dedupe, Table.get_of_mem inside]; rfl, status, ?_, ?_⟩
  · have distinct : (shown_status dedupe).value ≠ "exact_duplicate" := by
      rw [shown_status]
      split
      · exact (by decide : DedupeStatus.NEW_GENERATION.value ≠ "exact_duplicate")
      · exact (by decide : DedupeStatus.REPEATED.value ≠ "exact_duplicate")
    show (dedupe_status_from_audit _ _).map _ = _
    rw [status, Option.map_some, decide_eq_false distinct]
  · show alert.normalized_payload.dedupe.map _ = _
    rw [snapshot, Option.map_some]

end SocTriage.CreationRecords
