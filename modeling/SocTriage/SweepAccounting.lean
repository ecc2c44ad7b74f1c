import SocTriage.AutoClose
import SocTriage.DuplicateDelivery

/-!
The counters of an auto-close sweep. A close is counted inside its unit of work, which commits when
the block is left, and whatever is raised is counted as an error outside: what is raised after the
count, at the commit or while the session is closed counts its incident a second time.
-/
namespace SocTriage.SweepAccounting
open Incidents IncidentCallers

/-! ### The sweep -/

/-- Where the unit of work of one candidate raises: up to the audit rows, in the metric or the log line after the count, at
    the commit, or once that is done, while the session is closed. -/
inductive Raise where
  | before_count | after_count | at_commit | at_close
deriving DecidableEq

/-- What one candidate meets: the rows that others have committed by then, and what its unit of work raises. -/
structure Happening where
  others : Database → Database := id
  raised : Option Raise := none

/-- A sweep on its way: its counters, the database, and the incidents it has gone through and those whose close it has
    committed. -/
structure Sweep where
  stats : SweepStats
  db : Database
  processed : List String := []
  committed : List String := []

def SweepStats.count (stats : SweepStats) (closed : Bool) : SweepStats :=
  if closed then { stats with closed := stats.closed + 1 } else { stats with skipped := stats.skipped + 1 }

def SweepStats.fail (stats : SweepStats) : SweepStats := { stats with errors := stats.errors + 1 }

/-- The block of the unit of work; the counters are not part of the transaction. -/
def counted_work (ttl_seconds : Nat) (as_of : Int) (raised : Option Raise) (candidate : Incident) (stats : SweepStats)
    (db : Database) : SweepStats × Except Error (Bool × Database) :=
  if raised = some .before_count then (stats, .error .database)
  else
    match close_work ttl_seconds as_of candidate db with
    | .error e => (stats, .error e)
    | .ok (closed, after) =>
      (SweepStats.count stats closed, if raised = some .after_count then .error .database else .ok (closed, after))

/-- What is left once the block is: on an exception nothing is committed, and the error is counted. -/
def leave (raised : Option Raise) (candidate : Incident) (sweep : Sweep) (before : Database) :
    SweepStats × Except Error (Bool × Database) → Sweep
  | (stats, .error _) =>
    { stats := SweepStats.fail stats
      db := before
      processed := sweep.processed ++ [candidate.incident_id]
      committed := sweep.committed }
  | (stats, .ok (closed, after)) =>
    if raised = some .at_commit then
      { stats := SweepStats.fail stats
        db := before
        processed := sweep.processed ++ [candidate.incident_id]
        committed := sweep.committed }
    else
      { stats := if raised = some .at_close then SweepStats.fail stats else stats
        db := after
        processed := sweep.processed ++ [candidate.incident_id]
        committed := if closed then sweep.committed ++ [candidate.incident_id] else sweep.committed }

/-- One candidate; after an exception the next one is tried. -/
def sweep_candidate (ttl_seconds : Nat) (as_of : Int) (happenings : String → Happening) (sweep : Sweep)
    (candidate : Incident) :
    Sweep :=
  let happening := happenings candidate.incident_id
  let before := happening.others sweep.db
  leave happening.raised candidate sweep before
    (counted_work ttl_seconds as_of happening.raised candidate sweep.stats before)

def sweep_once (ttl_seconds : Nat) (as_of : Int) (happenings : String → Happening) (db : Database) : Except Error Sweep :=
  if ttl_seconds < 1 then .error (.value "ttl_seconds must be >= 1")
  else
    let incidents := list_incidents_eligible_for_auto_close db ttl_seconds as_of
    let sweep : Sweep := { stats := { candidates := incidents.length }, db }
    .ok (Runs.run (sweep_candidate ttl_seconds as_of happenings) sweep incidents)

/-- With no other writers, and failures before the count alone, this is the sweep of the running service. -/
theorem sweep_once_coarse (ttl_seconds : Nat) (as_of : Int) (fault : String → Bool) (db : Database) :
    (sweep_once ttl_seconds as_of (fun id => { raised := if fault id then some .before_count else none }) db).map
        (fun sweep => (sweep.stats, sweep.db)) =
      IncidentCallers.sweep_once ttl_seconds as_of fault db := by
  have run : ∀ (candidates : List Incident) (sweep : Sweep),
      ((Runs.run (sweep_candidate ttl_seconds as_of (fun id => { raised := if fault id then some .before_count else none }))
          sweep candidates).stats,
        (Runs.run (sweep_candidate ttl_seconds as_of (fun id => { raised := if fault id then some .before_count else none }))
          sweep candidates).db) =
        candidates.foldl (close_candidate ttl_seconds as_of fault) (sweep.stats, sweep.db) := by
    intro candidates
    induction candidates with
    | nil => exact fun _ => rfl
    | cons candidate rest ih =>
      intro sweep
      rw [Runs.run, List.foldl_cons, ih]
      congr 1
      rw [sweep_candidate, counted_work, close_candidate]
      dsimp only [id]
      cases fault candidate.incident_id with
      | true => rfl
      | false =>
        rcases worked : close_work ttl_seconds as_of candidate sweep.db with e | ⟨closed, after⟩
        · simp only [Database.session_scope, worked, Bool.false_eq_true, ↓reduceIte, reduceCtorEq]
          rfl
        · simp only [Database.session_scope, worked, Bool.false_eq_true, ↓reduceIte, reduceCtorEq]
          cases closed <;> rfl
  rw [sweep_once, IncidentCallers.sweep_once]
  split
  · rfl
  · exact congrArg Except.ok (run _ _)

/-! ### The accounts -/

/-- Every candidate is gone through, the closes that are counted are those that are committed, and every candidate is counted
    once. -/
structure Accounted (candidates : List Incident) (sweep : Sweep) : Prop where
  processed : sweep.processed = candidates.map Incident.incident_id
  closed : sweep.stats.closed = sweep.committed.length
  total : sweep.stats.candidates = sweep.stats.closed + sweep.stats.skipped + sweep.stats.errors

/-- The unit of work raises once its candidate is counted. -/
def Late (raised : Option Raise) : Prop := raised ≠ none ∧ raised ≠ some .before_count

instance (raised : Option Raise) : Decidable (Late raised) := inferInstanceAs (Decidable (_ ∧ _))

/-- The candidates counted so far. -/
def counted (stats : SweepStats) : Nat := stats.closed + stats.skipped + stats.errors

private theorem counted_fail (stats : SweepStats) : counted (SweepStats.fail stats) = counted stats + 1 := by
  show stats.closed + stats.skipped + (stats.errors + 1) = stats.closed + stats.skipped + stats.errors + 1
  omega

private theorem counted_count (stats : SweepStats) (closed : Bool) :
    counted (SweepStats.count stats closed) = counted stats + 1 := by
  cases closed with
  | false =>
    show stats.closed + (stats.skipped + 1) + stats.errors = stats.closed + stats.skipped + stats.errors + 1
    omega
  | true =>
    show stats.closed + 1 + stats.skipped + stats.errors = stats.closed + stats.skipped + stats.errors + 1
    omega

private theorem close_work_ok (ttl_seconds : Nat) (as_of : Int) (candidate : Incident) (db : Database) :
    ∃ closed after, close_work ttl_seconds as_of candidate db = .ok (closed, after) := by
  rw [close_work]
  split
  · exact ⟨_, _, rfl⟩
  · exact ⟨_, _, rfl⟩

/-- What one candidate adds to the accounts: it is counted once, and twice when its unit of work raises late. -/
structure Adds (raised : Option Raise) (candidate : Incident) (sweep after : Sweep) : Prop where
  processed : after.processed = sweep.processed ++ [candidate.incident_id]
  candidates : after.stats.candidates = sweep.stats.candidates
  counted : counted after.stats = counted sweep.stats + if Late raised then 2 else 1
  closed : ¬ Late raised → after.stats.closed + sweep.committed.length = sweep.stats.closed + after.committed.length

/-- The four ways the unit of work of a candidate raises, and none. -/
private theorem leave_adds (ttl_seconds : Nat) (as_of : Int) (raised : Option Raise) (candidate : Incident) (sweep : Sweep)
    (before : Database) : Adds raised candidate sweep (leave raised candidate sweep before
      (counted_work ttl_seconds as_of raised candidate sweep.stats before)) := by
  obtain ⟨closed, after, worked⟩ := close_work_ok ttl_seconds as_of candidate before
  have candidates : (SweepStats.count sweep.stats closed).candidates = sweep.stats.candidates := by cases closed <;> rfl
  have twice : counted (SweepStats.fail (SweepStats.count sweep.stats closed)) = counted sweep.stats + 2 := by
    rw [counted_fail, counted_count]
  rw [counted_work, worked]
  cases raised with
  | none =>
    refine ⟨rfl, candidates, counted_count sweep.stats closed, fun _ => ?_⟩
    cases closed with
    | false => rfl
    | true =>
      show sweep.stats.closed + 1 + sweep.committed.length = sweep.stats.closed + (sweep.committed ++ [_]).length
      rw [List.length_append, List.length_singleton]
      omega
  | some raise =>
    cases raise with
    | before_count => exact ⟨rfl, rfl, counted_fail sweep.stats, fun _ => rfl⟩
    | after_count => exact ⟨rfl, candidates, twice, fun early => absurd ⟨by decide, by decide⟩ early⟩
    | at_commit => exact ⟨rfl, candidates, twice, fun early => absurd ⟨by decide, by decide⟩ early⟩
    | at_close => exact ⟨rfl, candidates, twice, fun early => absurd ⟨by decide, by decide⟩ early⟩

/-- An incident is among the committed ones exactly when its row was closed and its audit row appended; else nothing was
    committed for it. -/
theorem committed_closed (ttl_seconds : Nat) (as_of : Int) (happenings : String → Happening) (sweep : Sweep)
    {candidate : Incident} (active : terminal candidate.status = false) :
    let before := (happenings candidate.incident_id).others sweep.db
    let after := sweep_candidate ttl_seconds as_of happenings sweep candidate
    (after.committed = sweep.committed ∧ after.db = before) ∨
    (after.committed = sweep.committed ++ [candidate.incident_id] ∧
      ∃ row, before.incidents.get candidate.incident_id = some row ∧
      AutoClose.Eligible ttl_seconds as_of row ∧ after.db = { before with
        incidents := before.incidents.modify candidate.incident_id (Incidents.closed as_of)
        audit_log := before.audit_log ++ [AutoClose.closing_row ttl_seconds as_of row] }) := by
  intro before after
  dsimp only [after]
  rw [sweep_candidate]
  change (leave _ candidate sweep before (counted_work _ _ _ candidate sweep.stats before)).committed = _ ∧ _ ∨ _
  generalize (happenings candidate.incident_id).raised = raised
  rcases auto_close_cases before candidate.incident_id ttl_seconds as_of candidate.updated_at candidate.status with
    skipped | ⟨row, found, status, updated, idle, matched⟩
  · have worked : close_work ttl_seconds as_of candidate before = .ok (false, before) := by rw [close_work, skipped]
    rw [counted_work, worked]
    left
    rcases raised with _ | _ | _ | _ | _
    all_goals exact ⟨rfl, rfl⟩
  · have worked : close_work ttl_seconds as_of candidate before = .ok (true, { before with
        incidents := before.incidents.modify candidate.incident_id (Incidents.closed as_of)
        audit_log := before.audit_log ++ [AutoClose.closing_row ttl_seconds as_of row] }) := by
      rw [close_work, matched, AutoClose.closing_row_eq, ← status, ← updated]
      rfl
    have eligible : AutoClose.Eligible ttl_seconds as_of row := ⟨status ▸ active, by omega⟩
    rw [counted_work, worked]
    rcases raised with _ | _ | _ | _ | _
    · exact .inr ⟨rfl, row, found, eligible, rfl⟩
    · exact .inl ⟨rfl, rfl⟩
    · exact .inl ⟨rfl, rfl⟩
    · exact .inl ⟨rfl, rfl⟩
    · exact .inr ⟨rfl, row, found, eligible, rfl⟩

section
variable (ttl_seconds : Nat) (as_of : Int) (happenings : String → Happening)

/-- Whether the unit of work of a candidate raises late. -/
def late (candidate : Incident) : Bool := Late (happenings candidate.incident_id).raised

private theorem late_iff (candidate : Incident) :
    late happenings candidate = true ↔ Late (happenings candidate.incident_id).raised := by rw [late, decide_eq_true_eq]

/-- What the candidates of a sweep add to the accounts. -/
private theorem run_adds (candidates : List Incident) (sweep : Sweep) :
    let after := Runs.run (sweep_candidate ttl_seconds as_of happenings) sweep candidates
    after.processed = sweep.processed ++ candidates.map Incident.incident_id ∧
      after.stats.candidates = sweep.stats.candidates ∧
      counted after.stats = counted sweep.stats + candidates.length + (candidates.filter (late happenings)).length ∧
      ((candidates.filter (late happenings)).length = 0 →
        after.stats.closed + sweep.committed.length = sweep.stats.closed + after.committed.length) := by
  induction candidates generalizing sweep with
  | nil => exact ⟨(List.append_nil _).symm, rfl, rfl, fun _ => rfl⟩
  | cons candidate rest ih =>
    have first : Adds (happenings candidate.incident_id).raised candidate sweep
        (sweep_candidate ttl_seconds as_of happenings sweep candidate) := leave_adds ttl_seconds as_of _ candidate sweep _
    obtain ⟨processed, total, counts, closes⟩ := ih (sweep_candidate ttl_seconds as_of happenings sweep candidate)
    refine ⟨?_, ?_, ?_⟩
    · rw [Runs.run, processed, first.processed, List.append_assoc]
      rfl
    · rw [Runs.run, total, first.candidates]
    · have here := first.counted
      rw [Runs.run, counts, List.length_cons]
      by_cases raised : Late (happenings candidate.incident_id).raised
      · rw [if_pos raised] at here
        rw [here, List.filter_cons_of_pos ((late_iff happenings candidate).mpr raised), List.length_cons]
        exact ⟨by omega, fun none => absurd none (Nat.succ_ne_zero _)⟩
      · rw [if_neg raised] at here
        rw [here, List.filter_cons_of_neg (fun late => raised ((late_iff happenings candidate).mp late))]
        refine ⟨by omega, fun none => ?_⟩
        have closed := first.closed raised
        have later := closes none
        omega
end

/-- Whatever other writers commit in between and whatever the units of work raise, a sweep goes through all its candidates;
    it counts the closes that were committed, and each candidate once, exactly when no unit of work raises once its
    candidate is counted. -/
theorem sweep_accounted_iff (ttl_seconds : Nat) (as_of : Int) (happenings : String → Happening) (db : Database)
    (positive : 1 ≤ ttl_seconds) :
    ∃ sweep, sweep_once ttl_seconds as_of happenings db = .ok sweep ∧
      sweep.processed = (list_incidents_eligible_for_auto_close db ttl_seconds as_of).map Incident.incident_id ∧
      (Accounted (list_incidents_eligible_for_auto_close db ttl_seconds as_of) sweep ↔
        ∀ candidate ∈ list_incidents_eligible_for_auto_close db ttl_seconds as_of,
          ¬ Late (happenings candidate.incident_id).raised) := by
  rw [sweep_once, if_neg (by omega)]
  generalize list_incidents_eligible_for_auto_close db ttl_seconds as_of = candidates
  obtain ⟨processed, total, counts, closes⟩ := run_adds ttl_seconds as_of happenings candidates
    { stats := { candidates := candidates.length }, db }
  dsimp only at processed total counts closes ⊢
  refine ⟨_, rfl, processed, ?_⟩
  have none_late : (∀ candidate ∈ candidates, ¬ Late (happenings candidate.incident_id).raised) ↔
      (candidates.filter (late happenings)).length = 0 := by
    rw [List.length_eq_zero_iff, List.filter_eq_nil_iff]
    exact forall₂_congr (fun candidate _ => not_congr (late_iff happenings candidate).symm)
  rw [none_late]
  have all : counted ({ candidates := candidates.length } : SweepStats) = 0 := rfl
  rw [all] at counts
  constructor
  · rintro ⟨-, -, sums⟩
    rw [total] at sums
    rw [counted] at counts
    omega
  · intro none
    refine ⟨processed, ?_, ?_⟩
    · have closed := closes none
      rw [List.length_nil] at closed
      omega
    · rw [total]
      rw [counted] at counts
      omega

/-- A database with one open incident, updated at the epoch. -/
def alarmed : Database := (Service.after Ingest.alarming DuplicateDelivery.accepting [DuplicateDelivery.first_login]).db

theorem alarmed_accounted : 1 ≤ 900 ∧
    ∃ sweep, sweep_once 900 (seconds 2000) (fun _ => {}) alarmed = .ok sweep ∧
      sweep.processed = (list_incidents_eligible_for_auto_close alarmed 900 (seconds 2000)).map Incident.incident_id ∧
      (Accounted (list_incidents_eligible_for_auto_close alarmed 900 (seconds 2000)) sweep ↔
        ∀ candidate ∈ list_incidents_eligible_for_auto_close alarmed 900 (seconds 2000),
          ¬ Late ((fun _ => {} : String → Happening) candidate.incident_id).raised) :=
  ⟨by decide, sweep_accounted_iff 900 (seconds 2000) (fun _ => {}) alarmed (by decide)⟩

/-- A close whose commit fails is counted as a close, and again as an error. -/
theorem failed_commit_counted : ¬ ∀ (ttl_seconds : Nat) (as_of : Int) (happenings : String → Happening) (db : Database),
    1 ≤ ttl_seconds → ∃ sweep, sweep_once ttl_seconds as_of happenings db = .ok sweep ∧
      Accounted (list_incidents_eligible_for_auto_close db ttl_seconds as_of) sweep := by
  intro always
  obtain ⟨sweep, done, -, closed, -⟩ := always 900 (seconds 2000) (fun _ => { raised := some .at_commit }) alarmed (by decide)
  have counts : (sweep_once 900 (seconds 2000) (fun _ => { raised := some .at_commit }) alarmed).toOption.map (fun sweep =>
      (sweep.stats.closed, sweep.committed.length)) = some (1, 0) := by decide +kernel
  rw [done] at counts
  obtain ⟨one, none⟩ := Prod.mk.inj (Option.some.inj counts)
  rw [one, none] at closed
  cases closed

end SocTriage.SweepAccounting
