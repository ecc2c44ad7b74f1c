import SocTriage.IncidentRuns

/-!
The auto-close sweep among other writers. Its candidates are selected in one unit of work
and closed in one each, and whatever the others commit in between, a close lands only on
the row that was selected, with its one audit row. Left alone, a sweep closes its whole
batch: the incidents that have been idle for longest.
-/
namespace SocTriage.AutoClose
open Incidents IncidentCallers
open IncidentRuns (close_row)

/-- Non-terminal, and idle for the TTL. -/
def Eligible (ttl_seconds : Nat) (as_of : Int) (row : Incident) : Prop :=
  terminal row.status = false ∧ seconds ttl_seconds ≤ as_of - row.updated_at

instance (ttl_seconds : Nat) (as_of : Int) (row : Incident) : Decidable (Eligible ttl_seconds as_of row) :=
  inferInstanceAs (Decidable (_ ∧ _))

/-- The audit row of the close of a row as it was: the status it had, and what it is resolved with. -/
def closing_row (ttl_seconds : Nat) (as_of : Int) (row : Incident) : AuditEvent where
  occurred_at := as_of
  actor := "system:sweeper"
  action := "incident.auto_closed"
  entity_type := "incident"
  entity_id := row.incident_id
  before := some [("status", .str row.status.value)]
  after := some [("incident_id", .str row.incident_id), ("status", .str "resolved"),
    ("previous_status", .str row.status.value), ("acknowledged_at", Audit.optional_instant row.acknowledged_at),
    ("resolved_at", Audit.optional_instant (some as_of)), ("ttl_seconds", .int ttl_seconds),
    ("idle_seconds", .int (Audit.round_seconds (max 0 (as_of - row.updated_at)))), ("reason", .str "ttl_expired"),
    ("actor", .str "system:sweeper")]

/-- It is the row that the sweeper appends. -/
theorem closing_row_eq (ttl_seconds : Nat) (as_of : Int) (row : Incident) : closing_row ttl_seconds as_of row =
    close_row (Incidents.closed as_of row) row.status ttl_seconds (max 0 (as_of - row.updated_at)) as_of := rfl

/-! ### Among other writers -/

/-- What one conditional update does to what the other writers left: nothing, or it resolves the very row that was selected,
    at the time of the sweep and with every other column as it was, and appends its audit row. -/
inductive Attempt (ttl_seconds : Nat) (as_of : Int) (selected : Incident) (before after : Database) : Prop
  | passed (same : after = before)
  | closed (row : Incident) (found : before.incidents.get selected.incident_id = some row)
      (status : row.status = selected.status) (updated : row.updated_at = selected.updated_at)
      (eligible : Eligible ttl_seconds as_of row)
      (committed : after = { before with
        incidents := before.incidents.modify selected.incident_id (fun row =>
          { row with status := .RESOLVED, updated_at := as_of, resolved_at := some as_of })
        audit_log := before.audit_log ++ [closing_row ttl_seconds as_of row] })

/-- The conditional updates of a sweep: each candidate, with the database before its update and after it. Before its
    `n`-th update the others commit `others n`. -/
def raced (ttl_seconds : Nat) (as_of : Int) (fault : String → Bool) (others : Nat → Database → Database) :
    Nat → Database → List Incident → List (Incident × Database × Database)
  | _, _, [] => []
  | n, db, candidate :: rest =>
    let before := others n db
    let after := (close_candidate ttl_seconds as_of fault ({}, before) candidate).2
    (candidate, before, after) :: raced ttl_seconds as_of fault others (n + 1) after rest

theorem eligible_iff {ttl_seconds : Nat} {as_of : Int} {row : Incident} :
    (!terminal row.status ∧ row.updated_at ≤ as_of - seconds ttl_seconds) ↔ Eligible ttl_seconds as_of row := by
  rw [Eligible, Bool.not_eq_true']
  exact and_congr_right (fun _ => by omega)

/-- A candidate is a stored row that is eligible. -/
theorem candidate_eligible {db : Database} {ttl_seconds : Nat} {as_of : Int} {candidate : Incident}
    (inside : candidate ∈ list_incidents_eligible_for_auto_close db ttl_seconds as_of) :
    candidate ∈ db.incidents.rows ∧ Eligible ttl_seconds as_of candidate := by
  have member := List.mem_of_mem_take inside
  rw [List.mem_insertionSort, List.mem_filter, decide_eq_true_eq] at member
  exact ⟨member.1, (@eligible_iff ttl_seconds as_of candidate).mp member.2⟩

/-- The unit of work of one candidate. -/
theorem close_attempt (ttl_seconds : Nat) (as_of : Int) (fault : String → Bool) (stats : SweepStats) (db : Database)
    {candidate : Incident} (active : terminal candidate.status = false) :
    Attempt ttl_seconds as_of candidate db (close_candidate ttl_seconds as_of fault (stats, db) candidate).2 := by
  rw [close_candidate]
  cases failing : fault candidate.incident_id with
  | true => exact .passed rfl
  | false =>
    rcases auto_close_cases db candidate.incident_id ttl_seconds as_of candidate.updated_at candidate.status with
      skipped | ⟨row, found, status, updated, idle, matched⟩
    · simp only [Database.session_scope, close_work, skipped]
      exact .passed rfl
    · simp only [Database.session_scope, close_work, matched]
      refine .closed row found status updated ⟨status ▸ active, by omega⟩ ?_
      rw [closing_row_eq, ← status, ← updated]
      rfl

private theorem raced_attempts {ttl_seconds : Nat} {as_of : Int} {fault : String → Bool} {others : Nat → Database → Database}
    (candidates : List Incident) (active : ∀ candidate ∈ candidates, terminal candidate.status = false) (n : Nat)
    (db : Database) : ∀ step ∈ raced ttl_seconds as_of fault others n db candidates,
      Attempt ttl_seconds as_of step.1 step.2.1 step.2.2 := by
  induction candidates generalizing n db with
  | nil => intro step none; exact absurd none List.not_mem_nil
  | cons candidate rest ih =>
    intro step inside
    rcases List.mem_cons.mp inside with rfl | later
    · exact close_attempt ttl_seconds as_of fault {} (others n db) (active candidate (List.mem_cons_self ..))
    · exact ih (fun other inside => active other (List.mem_cons_of_mem _ inside)) _ _ step later

/-- With no other writers, these are the updates of the sweep. -/
theorem raced_alone (ttl_seconds : Nat) (as_of : Int) (fault : String → Bool) (candidates : List Incident) (n : Nat)
    (stats : SweepStats) (db : Database) :
    (candidates.foldl (close_candidate ttl_seconds as_of fault) (stats, db)).2 =
      ((raced ttl_seconds as_of fault (fun _ => id) n db candidates).getLast?.map (fun step => step.2.2)).getD db := by
  induction candidates generalizing n stats db with
  | nil => rfl
  | cons candidate rest ih =>
    have same : (close_candidate ttl_seconds as_of fault (stats, db) candidate).2 =
        (close_candidate ttl_seconds as_of fault ({}, db) candidate).2 := by
      rw [close_candidate, close_candidate]
      dsimp only
      split <;> rfl
    rw [List.foldl_cons, ih (n + 1), same, raced]
    dsimp only [id]
    rw [List.getLast?_cons]
    generalize (raced ttl_seconds as_of fault (fun _ => id) (n + 1) _ rest).getLast? = last
    cases last <;> rfl

/-- What a whole sweep does to one incident. -/
theorem sweep_incident {ttl_seconds : Nat} {as_of : Int} {fault : String → Bool} {stats : SweepStats} {db db' : Database}
    (done : sweep_once ttl_seconds as_of fault db = .ok (stats, db')) (incident_id : String) :
    db'.incidents.get incident_id = db.incidents.get incident_id ∨
    ∃ row, db.incidents.get incident_id = some row ∧ Eligible ttl_seconds as_of row ∧
      db'.incidents.get incident_id = some (closed as_of row) := by
  refine @IncidentRuns.sweep_keeps db db' (fun a b => b.incidents.get incident_id = a.incidents.get incident_id ∨
    ∃ row, a.incidents.get incident_id = some row ∧ Eligible ttl_seconds as_of row ∧
      b.incidents.get incident_id = some (closed as_of row)) ttl_seconds as_of fault stats (fun _ => .inl rfl) ?_ ?_ done
  · rintro a b c (same | ⟨row, found, eligible, written⟩) (later | ⟨again, found', waiting, written'⟩)
    · exact .inl (later.trans same)
    · exact .inr ⟨again, same ▸ found', waiting, written'⟩
    · exact .inr ⟨row, found, eligible, later.trans written⟩
    · -- a closed row is never eligible again
      rw [written] at found'
      cases found'
      exact absurd waiting.1 (by simp [closed, terminal, TERMINAL_STATUSES])
  · intro stats db candidate active
    have attempt := close_attempt ttl_seconds as_of fault stats db active
    cases attempt with
    | passed same => exact .inl (by rw [same])
    | closed row found status updated eligible committed =>
      have written : (close_candidate ttl_seconds as_of fault (stats, db) candidate).2.incidents =
          db.incidents.modify candidate.incident_id (closed as_of) := congrArg Database.incidents committed
      rw [written]
      by_cases mine : incident_id = candidate.incident_id
      · subst mine
        exact .inr ⟨row, found, eligible, Table.get_modify_self found⟩
      · exact .inl (Table.get_modify_ne mine)

/-! ### Alone -/

private theorem closed_incident_id (as_of : Int) (row : Incident) : (closed as_of row).incident_id = row.incident_id := rfl

/-- The incidents `first` resolved at the time of the sweep, each with its audit row, and nothing else. -/
def swept (ttl_seconds : Nat) (as_of : Int) (first : List Incident) (db : Database) : Database :=
  { db with
    incidents := db.incidents.modifyWhere (fun row => first.contains row) (fun row =>
      { row with status := .RESOLVED, updated_at := as_of, resolved_at := some as_of }) (closed_incident_id as_of)
    audit_log := db.audit_log ++ first.map (closing_row ttl_seconds as_of) }

private theorem swept_eq (ttl_seconds : Nat) (as_of : Int) (first : List Incident) (db : Database) :
    swept ttl_seconds as_of first db = { db with
      incidents := db.incidents.modifyWhere (fun row => first.contains row) (closed as_of) (closed_incident_id as_of)
      audit_log := db.audit_log ++ first.map (closing_row ttl_seconds as_of) } := rfl

/-- The batch: as many eligible incidents as it holds, those that come first by activity and id. -/
structure Batch (db : Database) (ttl_seconds : Nat) (as_of : Int) (first : List Incident) : Prop where
  distinct : (first.map Incident.incident_id).Nodup
  stored : ∀ row ∈ first, row ∈ db.incidents.rows ∧ Eligible ttl_seconds as_of row
  size : first.length = min 500 (db.incidents.rows.countP (fun row => Eligible ttl_seconds as_of row))
  sorted : first.Pairwise by_updated
  before : ∀ row ∈ first, ∀ other ∈ db.incidents.rows, Eligible ttl_seconds as_of other → other ∉ first → by_updated row other

instance : Std.Total by_updated where
  total a b := by
    rcases lt_trichotomy a.updated_at b.updated_at with before | same | after
    · exact .inl (.inl before)
    · rcases le_total a.incident_id b.incident_id with first | second
      · exact .inl (.inr ⟨same, first⟩)
      · exact .inr (.inr ⟨same.symm, second⟩)
    · exact .inr (.inl after)

instance : IsTrans Incident by_updated where
  trans a b c := by
    rintro (first | ⟨same, first⟩) (second | ⟨same', second⟩)
    · exact .inl (by omega)
    · exact .inl (by omega)
    · exact .inl (by omega)
    · exact .inr ⟨by omega, first.trans second⟩

theorem list_eligible_batch (db : Database) (ttl_seconds : Nat) (as_of : Int) :
    Batch db ttl_seconds as_of (list_incidents_eligible_for_auto_close db ttl_seconds as_of) := by
  have filtered : db.incidents.rows.filter (fun row => !terminal row.status ∧ row.updated_at ≤ as_of - seconds ttl_seconds) =
      db.incidents.rows.filter (fun row => Eligible ttl_seconds as_of row) := by
    apply List.filter_congr
    intro row _
    exact decide_eq_decide.mpr (@eligible_iff ttl_seconds as_of row)
  have listed : list_incidents_eligible_for_auto_close db ttl_seconds as_of =
      ((db.incidents.rows.filter (fun row => Eligible ttl_seconds as_of row)).insertionSort by_updated).take 500 := by
    rw [list_incidents_eligible_for_auto_close, filtered]
  have sorted := List.pairwise_insertionSort by_updated (db.incidents.rows.filter (fun row => Eligible ttl_seconds as_of row))
  have perm := List.perm_insertionSort by_updated (db.incidents.rows.filter (fun row => Eligible ttl_seconds as_of row))
  refine ⟨?_, fun row inside => candidate_eligible inside, ?_, ?_, ?_⟩
  · rw [listed]
    have unique := db.incidents.unique.sublist
      ((List.filter_sublist (p := fun row => decide (Eligible ttl_seconds as_of row))).map Incident.incident_id)
    exact ((perm.map _).nodup_iff.mpr unique).sublist ((List.take_sublist _ _).map _)
  · rw [listed, List.length_take, perm.length_eq, List.countP_eq_length_filter]
  · rw [listed]
    exact sorted.sublist (List.take_sublist _ _)
  · intro row inside other stored eligible absent
    rw [listed] at inside absent
    have among : other ∈ (db.incidents.rows.filter (fun row => Eligible ttl_seconds as_of row)).insertionSort by_updated :=
      (List.mem_insertionSort by_updated).mpr (List.mem_filter.mpr ⟨stored, decide_eq_true eligible⟩)
    rw [← List.take_append_drop 500 (List.insertionSort by_updated _)] at among sorted
    exact (List.pairwise_append.mp sorted).2.2 row inside other ((List.mem_append.mp among).resolve_left absent)

/-- A candidate that nobody has touched is closed. -/
private theorem close_untouched {ttl_seconds : Nat} {as_of : Int} {candidate : Incident} {db : Database} (stats : SweepStats)
    (stored : candidate ∈ db.incidents.rows) (eligible : Eligible ttl_seconds as_of candidate) :
    close_candidate ttl_seconds as_of (fun _ => false) (stats, db) candidate =
      ({ stats with closed := stats.closed + 1 }, { db with
        incidents := db.incidents.modify candidate.incident_id (closed as_of)
        audit_log := db.audit_log ++ [closing_row ttl_seconds as_of candidate] }) := by
  have found := Table.get_of_mem stored
  have idle : candidate.updated_at ≤ as_of - seconds ttl_seconds := by have := eligible.2; omega
  have matched : auto_close_if_stale db candidate.incident_id ttl_seconds as_of candidate.updated_at candidate.status =
      (some (closed as_of candidate), { db with incidents := db.incidents.modify candidate.incident_id (closed as_of) }) := by
    rw [auto_close_if_stale, found]
    exact if_pos ⟨rfl, rfl, idle⟩
  rw [close_candidate]
  simp only [Bool.false_eq_true, ↓reduceIte, Database.session_scope, close_work, matched]
  rfl

/-- Closing the first candidate and then the rest closes them all. -/
private theorem swept_cons {ttl_seconds : Nat} {as_of : Int} {candidate : Incident} {rest : List Incident} {db : Database}
    (stored : candidate ∈ db.incidents.rows) (fresh : candidate.incident_id ∉ rest.map Incident.incident_id) :
    swept ttl_seconds as_of rest { db with
      incidents := db.incidents.modify candidate.incident_id (closed as_of)
      audit_log := db.audit_log ++ [closing_row ttl_seconds as_of candidate] } =
    swept ttl_seconds as_of (candidate :: rest) db := by
  have incidents : (db.incidents.modify candidate.incident_id (closed as_of)).modifyWhere (fun row => rest.contains row)
      (closed as_of) = db.incidents.modifyWhere (fun row => (candidate :: rest).contains row) (closed as_of) := by
    apply Table.ext_rows
    simp only [Table.modify, Table.modifyWhere, List.map_map]
    apply List.map_congr_left
    intro row inside
    by_cases mine : row.incident_id = candidate.incident_id
    · have same := Table.eq_of_key inside stored mine
      subst same
      have other : closed as_of row ∉ rest := fun inside => fresh (List.mem_map.mpr ⟨_, inside, rfl⟩)
      simp [other]
    · have other : row ≠ candidate := fun same => mine (congrArg Incident.incident_id same)
      simp [mine, other]
  rw [swept_eq, swept_eq, incidents, List.map_cons, List.append_assoc, List.singleton_append]

private theorem fold_swept {ttl_seconds : Nat} {as_of : Int} (candidates : List Incident)
    (distinct : (candidates.map Incident.incident_id).Nodup) (stats : SweepStats) (db : Database)
    (stored : ∀ row ∈ candidates, row ∈ db.incidents.rows ∧ Eligible ttl_seconds as_of row) :
    candidates.foldl (close_candidate ttl_seconds as_of (fun _ => false)) (stats, db) =
      ({ stats with closed := stats.closed + candidates.length }, swept ttl_seconds as_of candidates db) := by
  induction candidates generalizing stats db with
  | nil =>
    have still : db.incidents.modifyWhere (fun row => ([] : List Incident).contains row) (closed as_of) = db.incidents := by
      apply Table.ext_rows
      simp [Table.modifyWhere]
    rw [List.foldl_nil, swept_eq, still, List.map_nil, List.append_nil, List.length_nil, Nat.add_zero]
  | cons candidate rest ih =>
    obtain ⟨fresh, distinct⟩ := List.nodup_cons.mp distinct
    obtain ⟨here, eligible⟩ := stored candidate (List.mem_cons_self ..)
    rw [List.foldl_cons, close_untouched stats here eligible, ih distinct, swept_cons here fresh, List.length_cons]
    · dsimp only
      rw [Nat.add_assoc, Nat.add_comm 1]
    · intro row inside
      obtain ⟨there, waiting⟩ := stored row (List.mem_cons_of_mem _ inside)
      have other : row.incident_id ≠ candidate.incident_id := fun same => fresh (List.mem_map.mpr ⟨row, inside, same⟩)
      have still : row ∈ (db.incidents.modify candidate.incident_id (closed as_of) (fun _ => rfl)).rows :=
        Table.mem_modify.mpr (.inr ⟨there, other⟩)
      exact ⟨still, waiting⟩

/-- Whatever other writers commit between the selection and each conditional update, a close lands only on the row that was
    selected, still eligible, with its one audit row, and changes nothing else. Without other writers and failures a sweep
    closes exactly its batch. -/
theorem sweep_closes_safely (db : Database) (ttl_seconds : Nat) (as_of : Int) :
    (∀ (fault : String → Bool) (others : Nat → Database → Database),
      ∀ step ∈ raced ttl_seconds as_of fault others 0 db (list_incidents_eligible_for_auto_close db ttl_seconds as_of),
        Attempt ttl_seconds as_of step.1 step.2.1 step.2.2) ∧
    (sweep_once ttl_seconds as_of (fun _ => false) db = .error (.value "ttl_seconds must be >= 1") ∧ ttl_seconds = 0 ∨
      ∃ first, Batch db ttl_seconds as_of first ∧
        sweep_once ttl_seconds as_of (fun _ => false) db =
          .ok ({ candidates := first.length, closed := first.length }, swept ttl_seconds as_of first db)) := by
  constructor
  · intro fault others
    exact raced_attempts _ (fun candidate inside => (candidate_eligible inside).2.1) 0 db
  · rw [sweep_once]
    split
    · exact .inl ⟨rfl, by omega⟩
    · have batch := list_eligible_batch db ttl_seconds as_of
      refine .inr ⟨_, batch, ?_⟩
      dsimp only
      rw [fold_swept _ batch.distinct _ db batch.stored, Nat.zero_add]

end SocTriage.AutoClose
