import SocTriage.CaseExport
import SocTriage.IncidentCallers
import SocTriage.Runs

/-!
The export route. An incident that has an exported row is answered from it; otherwise
TheHive is asked for a case of the incident, and one is created when it names none. What
was done at TheHive stays whether or not the unit of work is committed. Exports of one
incident are serialized by a lock, and no export waits anywhere else, so requests come
one after the other.
-/
namespace SocTriage.IncidentExport
open Audit CaseExport IncidentCallers TheHive

structure World where
  db : Database
  cases : Cases

/-- How a unit of work ends: committed and answered, refused by the storage, or with the process,
    before or after the commit. -/
inductive Commit where
  | committed | failed | stopped | unanswered
deriving DecidableEq, Repr

/-- One export request, and what meets it. -/
structure Attempt where
  client : TheHiveClient
  incident_id : String
  occurred_at : Int
  new_id : CaseId
  createdAt : Option Int := none
  listing : Listing
  read_fault : Bool := false
  lookup : Option Failure := none
  create : Outcome := .answered
  observables : Nat → Outcome := fun _ => .answered
  commit : Commit := .committed

/-! ### The route -/

/-- The answer of an exception that reaches the route; a process that ends gives none. -/
def failure_response : Failure → Option Response
  | .not_configured => some (error_response 503 "integration_not_configured" "TheHive integration is not configured")
  | .authentication => some (error_response 502 "external_authentication_error" "TheHive rejected the configured credentials")
  | .unavailable => some (error_response 503 "external_service_unavailable" "TheHive server is unavailable")
  | .request => some (error_response 502 "external_service_error" "TheHive export failed")
  | .unexpected => some (error_response 500 "internal_error" "failed to export incident to TheHive")
  | .stopped => none

def duplicate_response (incident_id case_id : String) : Response where
  status_code := 200
  content := [("incident_id", .str incident_id), ("case_id", .str case_id), ("created", .bool false),
    ("duplicate", .bool true)]

def created_response (incident_id case_id : String) (observable_count : Nat) : Response where
  status_code := 201
  content := [("incident_id", .str incident_id), ("case_id", .str case_id), ("created", .bool true),
    ("duplicate", .bool false), ("observable_count", .int observable_count)]

/-- The audit row of an export; that of a recovered case says so. -/
def exported_entry (incident : Incident) (case_id : String) (observable_count : Nat) (recovered : Bool) : AuditEntry where
  actor := "system"
  action := ACTION_INCIDENT_THEHIVE_EXPORTED
  entity_type := ENTITY_INCIDENT
  entity_id := incident.incident_id
  after := some ([("incident_id", .str incident.incident_id), ("case_id", .str case_id),
    ("severity", .str incident.severity.value), ("status", .str incident.status.value),
    ("observable_count", .int observable_count)] ++ (if recovered then [("recovered", .bool true)] else []))

/-- The end of a unit of work that leaves `after` and has its response ready. -/
def finish (commit : Commit) (response : Response) (w : World) (after : Database) : Option Response × World :=
  match commit with
  | .committed => (some response, { w with db := after })
  | .failed => (failure_response .unexpected, w)
  | .stopped => (none, w)
  | .unanswered => (none, { w with db := after })

/-- A failed lookup is taken for one that finds nothing; an exception that is none of the client's is not. -/
def find_existing_case (a : Attempt) (cases : Cases) : Except Failure (Option CaseId) :=
  match a.lookup with
  | some .unexpected => .error .unexpected
  | some .stopped => .error .stopped
  | some _ => .ok none
  | none => if a.client.configured then .ok (find_case_by_incident a.listing a.incident_id cases) else .ok none

/-- The case an attempt asks for. -/
def new_case (a : Attempt) (case_export : TheHiveCaseExport) : Case where
  case_id := a.new_id
  title := case_export.title
  description := case_export.description
  severity := case_export.severity
  tlp := case_export.tlp
  pap := case_export.pap
  tags := [marker a.incident_id]
  createdAt := a.createdAt
  origin := some ⟨a.incident_id, case_export.observables⟩

/-- The loop over the observables, with the number of those created so far. -/
def create_observables (client : TheHiveClient) (outcome : Nat → Outcome) (case_id : CaseId) :
    List TheHiveObservable → Nat → Cases → Except Failure Nat × Cases
  | [], observable_count, cases => (.ok observable_count, cases)
  | observable :: rest, observable_count, cases =>
    match create_observable client (outcome observable_count) case_id observable cases with
    | (.error failure, cases) => (.error failure, cases)
    | (.ok _, cases) => create_observables client outcome case_id rest (observable_count + 1) cases

/-- An export that no row of the audit log answers. -/
def export_case (a : Attempt) (incident : Incident) (case_export : TheHiveCaseExport) (w : World) : Option Response × World :=
  match find_existing_case a w.cases with
  | .error failure => (failure_response failure, w)
  | .ok (some recovered) =>
    finish a.commit (duplicate_response a.incident_id recovered.text) w
      (w.db.append [exported_entry incident recovered.text 0 true] a.occurred_at)
  | .ok none =>
    match create_case a.client a.create (new_case a case_export) w.cases with
    | (.error failure, cases) => (failure_response failure, { w with cases })
    | (.ok case_id, cases) =>
      match create_observables a.client a.observables case_id case_export.observables 0 cases with
      | (.error failure, cases) => (failure_response failure, { w with cases })
      | (.ok observable_count, cases) =>
        finish a.commit (created_response a.incident_id case_id.text observable_count) { w with cases }
          (w.db.append [exported_entry incident case_id.text observable_count false] a.occurred_at)

/-- The exported row that answers a request, if there is one. -/
def existing_case (a : Attempt) (w : World) : Option String :=
  existing_case_mapping (for_entity_ids w.db [a.incident_id]) a.incident_id

def export_incident_to_thehive (a : Attempt) (w : World) : Option Response × World :=
  if Text.strip a.client.thehive_url = "" ∨ Text.strip a.client.thehive_api_key = "" then
    (failure_response .not_configured, w)
  else if a.read_fault then (failure_response .unexpected, w)
  else
    match w.db.incidents.get a.incident_id with
    | none => finish a.commit (error_response 404 "not_found" ("incident " ++ a.incident_id ++ " not found")) w w.db
    | some incident =>
      match existing_case a w with
      | some case_id => finish a.commit (duplicate_response a.incident_id case_id) w w.db
      | none =>
        match build_thehive_case_export incident (gather w.db a.incident_id) with
        | none => (failure_response .unexpected, w)
        | some case_export => export_case a incident case_export w

/-! ### What a request does -/

/-- The answers 200 and 201. -/
def Success (answer : Option Response) : Prop := ∃ response ∈ answer, response.status_code = 200 ∨ response.status_code = 201

/-- A request that no exported row answers. -/
def LooksUp (a : Attempt) (w : World) : Prop := (w.db.incidents.get a.incident_id).isSome ∧ existing_case a w = none

instance (a : Attempt) (w : World) : Decidable (LooksUp a w) := inferInstanceAs (Decidable (_ ∧ _))

/-- What the lookup of an attempt found. -/
def Missed (a : Attempt) (w : World) : Prop :=
  a.lookup ≠ none ∨ find_case_by_incident a.listing a.incident_id w.cases = none

/-- A case with other observables. -/
def holding (observables : List TheHiveObservable) (case : Case) : Case := { case with observables }

theorem cleaned_new_case (a : Attempt) (case_export : TheHiveCaseExport) :
    cleaned (new_case a case_export) = holding [] (cleaned (new_case a case_export)) := by
  rw [holding, cleaned, new_case]

/-- The ways a request ends: a failure that changes nothing, an answer from the log, a recovered case, a case that is
    created but not recorded, and one that is created with all its observables and recorded. -/
inductive Exported (a : Attempt) (w : World) : Option Response → World → Prop
  | unchanged {answer} (failed : ¬Success answer) : Exported a w answer w
  | mapped {case_id} (mapping : existing_case a w = some case_id) :
      Exported a w (some (duplicate_response a.incident_id case_id)) w
  | recovered {answer incident case_id} (looked : LooksUp a w) (own : incident.incident_id = a.incident_id)
      (found : find_case_by_incident a.listing a.incident_id w.cases = some case_id)
      (answered : answer = none ∨ answer = some (duplicate_response a.incident_id case_id.text)) :
      Exported a w answer { w with db := w.db.append [exported_entry incident case_id.text 0 true] a.occurred_at }
  | unrecorded {answer case_export observables cases} (looked : LooksUp a w) (missed : Missed a w)
      (created : cases.rows = w.cases.rows ++ [holding observables (cleaned (new_case a case_export))])
      (failed : ¬Success answer) :
      Exported a w answer { w with cases }
  | recorded {answer incident case_export observable_count cases} (looked : LooksUp a w)
      (own : incident.incident_id = a.incident_id) (missed : Missed a w)
      (created : cases.rows = w.cases.rows ++ [holding (case_export.observables.map sent) (cleaned (new_case a case_export))])
      (answered : answer = none ∨ answer = some (created_response a.incident_id a.new_id.text observable_count)) :
      Exported a w answer
        { db := w.db.append [exported_entry incident a.new_id.text observable_count false] a.occurred_at, cases }

private theorem failure_not_success (failure : Failure) : ¬Success (failure_response failure) := by
  rintro ⟨response, answered, success⟩
  cases failure <;> cases answered <;> revert success <;> decide

private theorem none_not_success : ¬Success none := by
  rintro ⟨response, answered, _⟩
  contradiction

/-- A unit of work is kept, answered or not, or is undone and answered with no success. -/
private theorem finish_cases {commit : Commit} {response : Response} {w w' : World} {after : Database}
    {answer : Option Response} (ended : finish commit response w after = (answer, w')) :
    (w' = { w with db := after } ∧ (answer = none ∨ answer = some response)) ∨ (w' = w ∧ ¬Success answer) := by
  cases commit with
  | committed => cases ended; exact .inl ⟨rfl, .inr rfl⟩
  | failed => cases ended; exact .inr ⟨rfl, failure_not_success .unexpected⟩
  | stopped => cases ended; exact .inr ⟨rfl, none_not_success⟩
  | unanswered => cases ended; exact .inl ⟨rfl, .inl rfl⟩

/-- The loop adds observables to the newest case only, all of them when it comes through. -/
theorem create_observables_cases {client : TheHiveClient} {outcome : Nat → Outcome} {before : List Case} {case : Case}
    (observables : List TheHiveObservable) (observable_count : Nat) {cases cases' : Cases} {result : Except Failure Nat}
    (newest : cases.rows = before ++ [case])
    (looped : create_observables client outcome case.case_id observables observable_count cases = (result, cases')) :
    (∃ added, cases'.rows = before ++ [holding added case] ∧ ∃ failure, result = .error failure) ∨
      (∃ count, result = .ok count ∧
        cases'.rows = before ++ [holding (case.observables ++ observables.map sent) case]) := by
  induction observables generalizing case observable_count cases with
  | nil =>
    rw [create_observables] at looped
    cases looped
    exact .inr ⟨_, rfl, by rw [List.map_nil, List.append_nil]; exact newest⟩
  | cons observable rest ih =>
    rw [create_observables] at looped
    split at looped
    · rename_i failure after called
      cases looped
      rcases create_observable_cases newest called with added | ⟨same, _⟩
      · exact .inl ⟨_, added, _, rfl⟩
      · exact .inl ⟨_, same, _, rfl⟩
    · rename_i after called
      rcases create_observable_cases newest called with added | ⟨_, failure, failed⟩
      · rcases ih (observable_count + 1) added looped with
          ⟨more, grown, failed⟩ | ⟨count, done, grown⟩
        · exact .inl ⟨more, grown, failed⟩
        · refine .inr ⟨count, done, ?_⟩
          rw [grown, holding, holding, with_observable, List.map_cons, List.append_assoc, List.singleton_append]
      · contradiction

theorem found_case {a : Attempt} {cases : Cases} {case_id : CaseId}
    (found : find_existing_case a cases = .ok (some case_id)) :
    find_case_by_incident a.listing a.incident_id cases = some case_id := by
  rw [find_existing_case] at found
  cases asked : a.lookup with
  | some failure => rw [asked] at found; cases failure <;> cases found
  | none =>
    rw [asked] at found
    dsimp only at found
    split at found
    · exact Except.ok.inj found
    · cases found

theorem missed_case {a : Attempt} {w : World} (nothing : find_existing_case a w.cases = .ok none)
    (configured : a.client.configured = true) : Missed a w := by
  rw [find_existing_case] at nothing
  cases asked : a.lookup with
  | some failure => exact .inl (by rw [asked]; exact Option.some_ne_none _)
  | none =>
    rw [asked] at nothing
    dsimp only at nothing
    rw [if_pos configured] at nothing
    exact .inr (Except.ok.inj nothing)

private theorem export_case_exported {a : Attempt} {incident : Incident} {case_export : TheHiveCaseExport} {w w' : World}
    {answer : Option Response} (looked : LooksUp a w) (own : incident.incident_id = a.incident_id)
    (requested : export_case a incident case_export w = (answer, w')) : Exported a w answer w' := by
  rw [export_case] at requested
  split at requested
  · cases requested; exact .unchanged (failure_not_success _)
  · rename_i recovered found
    rcases finish_cases requested with ⟨rfl, answered⟩ | ⟨rfl, failed⟩
    · exact .recovered looked own (found_case found) answered
    · exact .unchanged failed
  · rename_i nothing
    split at requested
    · rename_i failure cases called
      cases requested
      rcases create_case_cases called with ⟨_, _, rfl⟩ | ⟨configured, created, _⟩
      · exact .unchanged (failure_not_success _)
      · rw [cleaned_new_case] at created
        exact .unrecorded looked (missed_case nothing configured) created (failure_not_success _)
    · rename_i case_id cases called
      rcases create_case_cases called with ⟨_, failed, _⟩ | ⟨configured, created, named⟩
      · cases failed
      obtain rfl := named case_id rfl
      have name : (cleaned (new_case a case_export)).case_id = a.new_id := by rw [cleaned_case_id, new_case]
      have empty : (cleaned (new_case a case_export)).observables = [] := by rw [cleaned, new_case]
      have missed := missed_case nothing configured
      split at requested
      · rename_i failure after looped
        cases requested
        rcases create_observables_cases _ 0 created looped with ⟨added, grown, _⟩ | ⟨_, done, _⟩
        · exact .unrecorded looked missed grown (failure_not_success _)
        · cases done
      · rename_i observable_count after looped
        rcases create_observables_cases _ 0 created looped with ⟨_, _, _, failed⟩ | ⟨_, _, grown⟩
        · cases failed
        rw [empty, List.nil_append] at grown
        rw [name] at requested
        rcases finish_cases requested with ⟨rfl, answered⟩ | ⟨rfl, failed⟩
        · exact .recorded looked own missed grown answered
        · exact .unrecorded looked missed grown failed

/-- Every request ends in one of these ways. -/
theorem export_exported {a : Attempt} {w w' : World} {answer : Option Response}
    (requested : export_incident_to_thehive a w = (answer, w')) : Exported a w answer w' := by
  rw [export_incident_to_thehive] at requested
  split at requested
  · cases requested; exact .unchanged (failure_not_success _)
  split at requested
  · cases requested; exact .unchanged (failure_not_success _)
  split at requested
  · rcases finish_cases requested with ⟨rfl, answered⟩ | ⟨rfl, failed⟩
    · refine .unchanged ?_
      rintro ⟨response, some_answer, success⟩
      rcases answered with rfl | rfl
      · contradiction
      · cases some_answer
        simp [error_response] at success
    · exact .unchanged failed
  · rename_i incident stored
    split at requested
    · rename_i case_id mapping
      rcases finish_cases requested with ⟨rfl, answered⟩ | ⟨rfl, failed⟩
      · rcases answered with rfl | rfl
        · exact .unchanged none_not_success
        · exact .mapped mapping
      · exact .unchanged failed
    · rename_i unmapped
      split at requested
      · cases requested; exact .unchanged (failure_not_success _)
      · exact export_case_exported ⟨by rw [stored]; rfl, unmapped⟩ (Table.get_key stored) requested

/-- No request takes a case away. -/
theorem export_keeps {a : Attempt} {w : World} {case : Case} (stored : case ∈ w.cases.rows) :
    case ∈ (export_incident_to_thehive a w).2.cases.rows := by
  rcases requested : export_incident_to_thehive a w with ⟨answer, w'⟩
  cases export_exported requested with
  | unchanged | mapped | recovered => exact stored
  | unrecorded _ _ created _ =>
    show case ∈ Table.rows _
    rw [created]; exact List.mem_append_left _ stored
  | recorded _ _ _ created _ =>
    show case ∈ Table.rows _
    rw [created]; exact List.mem_append_left _ stored

/-! ### Requests that nothing stops -/

/-- A request that gets as far as the lookup. -/
structure Ready (a : Attempt) (w : World) : Prop where
  configured : a.client.configured = true
  reads : a.read_fault = false
  named : Text.strip a.incident_id ≠ ""
  looks_up : LooksUp a w

/-- A request that gets as far as the lookup has an export that the client accepts. -/
theorem Ready.export_case {a : Attempt} {w : World} (ready : Ready a w) :
    ∃ incident case_export, Text.strip case_export.title ≠ "" ∧ Text.strip case_export.description ≠ "" ∧
      export_incident_to_thehive a w = IncidentExport.export_case a incident case_export w := by
  obtain ⟨present, unmapped⟩ := ready.looks_up
  obtain ⟨incident, stored⟩ := Option.isSome_iff_exists.mp present
  have own : incident.incident_id = a.incident_id := Table.get_key stored
  obtain ⟨case_export, built, titled, described⟩ :=
    build_thehive_case_export_ok (gather w.db a.incident_id) (own.symm ▸ ready.named)
  have settings : ¬(Text.strip a.client.thehive_url = "" ∨ Text.strip a.client.thehive_api_key = "") := by
    have configured := ready.configured
    rw [TheHiveClient.configured, Bool.and_eq_true, Bool.not_eq_true', bne_iff_ne] at configured
    rintro (blank | blank)
    · rw [blank] at configured
      exact absurd configured.1 (by decide)
    · exact configured.2 blank
  refine ⟨incident, case_export, titled, described, ?_⟩
  rw [export_incident_to_thehive, if_neg settings, ready.reads]
  simp only [Bool.false_eq_true, ↓reduceIte, stored, unmapped, built]

/-- A case that the lookup finds is the answer. -/
theorem Ready.recovers {a : Attempt} {w : World} {case_id : CaseId} (ready : Ready a w) (answers : a.lookup = none)
    (committed : a.commit = .committed) (found : find_case_by_incident a.listing a.incident_id w.cases = some case_id) :
    (export_incident_to_thehive a w).1 = some (duplicate_response a.incident_id case_id.text) := by
  obtain ⟨incident, case_export, _, _, requested⟩ := ready.export_case
  have lookup : find_existing_case a w.cases = .ok (some case_id) := by
    rw [find_existing_case, answers]
    simp only [ready.configured, ↓reduceIte, found]
  rw [requested, IncidentExport.export_case, lookup, committed]
  rfl

/-- A lookup that finds nothing leads to a new case for the incident, whatever comes after its creation. -/
theorem Ready.creates {a : Attempt} {w : World} (ready : Ready a w) (answers : a.lookup = none)
    (done : a.create.carried_out = true) (fresh : w.cases.get a.new_id = none)
    (nothing : find_case_by_incident a.listing a.incident_id w.cases = none) :
    ∃ case_export observables, (export_incident_to_thehive a w).2.cases.rows =
        w.cases.rows ++ [holding observables (cleaned (new_case a case_export))] ∧
      (a.create ≠ .answered → (export_incident_to_thehive a w).2.db = w.db) := by
  obtain ⟨incident, case_export, titled, described, requested⟩ := ready.export_case
  have lookup : find_existing_case a w.cases = .ok none := by
    rw [find_existing_case, answers]
    simp only [ready.configured, ↓reduceIte, nothing]
  have carried_out : ∃ cases, create_case a.client a.create (new_case a case_export) w.cases =
      (a.create.answer (new_case a case_export).case_id, cases) ∧
        cases.rows = w.cases.rows ++ [cleaned (new_case a case_export)] :=
    create_case_carried_out titled described ready.configured done fresh
  obtain ⟨cases, called, created⟩ := carried_out
  rw [requested, IncidentExport.export_case, lookup]
  dsimp only
  rw [called]
  cases ended : a.create with
  | refused failure => rw [ended] at done; exact absurd done Bool.false_ne_true
  | lost failure =>
    rw [cleaned_new_case] at created
    exact ⟨case_export, [], created, fun _ => rfl⟩
  | answered =>
    dsimp only [Outcome.answer]
    rw [← cleaned_case_id]
    rcases looped : create_observables a.client a.observables (cleaned (new_case a case_export)).case_id
      case_export.observables 0 cases with ⟨result, after⟩
    rcases create_observables_cases _ 0 created looped with ⟨added, grown, failure, rfl⟩ | ⟨count, rfl, grown⟩
    · exact ⟨case_export, added, grown, fun other => absurd rfl other⟩
    · dsimp only
      refine ⟨case_export, _, Eq.trans ?_ grown, fun other => absurd rfl other⟩
      rcases ended : finish a.commit (created_response a.incident_id (cleaned (new_case a case_export)).case_id.text count)
        { w with cases := after } (w.db.append [exported_entry incident (cleaned (new_case a case_export)).case_id.text count
          false] a.occurred_at) with ⟨answer, w'⟩
      rcases finish_cases ended with ⟨rfl, _⟩ | ⟨rfl, _⟩
      · rfl
      · rfl

/-! ### Runs -/

/-- An export request; a case that somebody else creates; what the rest of the application commits. -/
inductive Event where
  | request (a : Attempt)
  | other_case (case : Case)
  | application (db : Database)

def exported_rows (db : Database) : List AuditEvent :=
  db.audit_log.filter (fun row => row.action = ACTION_INCIDENT_THEHIVE_EXPORTED)

/-- The rest of the application neither writes nor removes exported rows. -/
def step (w : World) : Event → World
  | .request a => (export_incident_to_thehive a w).2
  | .other_case case =>
    match w.cases.insert { case with origin := none } with
    | none => w
    | some cases => { w with cases }
  | .application db => if exported_rows db = exported_rows w.db then { w with db } else w

section
variable (Good : String → Case → Prop)

/-- The exported rows of an incident name cases that are good for it. -/
def Mapped (w : World) : Prop :=
  ∀ row ∈ exported_rows w.db, ∃ case ∈ w.cases.rows, mapped_case row = some case.case_id.text ∧ Good row.entity_id case

/-- The case an answer of success names is good for the incident. -/
def Named (incident_id : String) (answer : Option Response) (w : World) : Prop :=
  ∀ response ∈ answer, response.status_code = 200 ∨ response.status_code = 201 →
    ∃ case ∈ w.cases.rows, Json.lookup "case_id" response.content = some (.str case.case_id.text) ∧ Good incident_id case

/-- A request that looks its case up finds none but a good one. -/
def Finds (w : World) : Event → Prop
  | .request a => LooksUp a w → ∀ case ∈ page a.listing w.cases,
      Earliest a.listing a.incident_id w.cases case → Good a.incident_id case
  | .other_case _ => True
  | .application _ => True

/-- The answers of the requests of a run name good cases. -/
def Answered (w : World) : Event → Prop
  | .request a => Named Good a.incident_id (export_incident_to_thehive a w).1 (export_incident_to_thehive a w).2
  | .other_case _ => True
  | .application _ => True
end

variable {Good : String → Case → Prop}

theorem Mapped.grown {w w' : World} (mapped : Mapped Good w) (rows : exported_rows w'.db = exported_rows w.db)
    (kept : ∀ case ∈ w.cases.rows, case ∈ w'.cases.rows) : Mapped Good w' := by
  intro row inside
  rw [rows] at inside
  obtain ⟨case, stored, names, good⟩ := mapped row inside
  exact ⟨case, kept case stored, names, good⟩

/-- One more exported row, for a good case. -/
theorem Mapped.recorded {w : World} {cases : Cases} {incident : Incident} {case : Case} {observable_count : Nat}
    {recovered : Bool} {occurred_at : Int} (mapped : Mapped Good w) (kept : ∀ case ∈ w.cases.rows, case ∈ cases.rows)
    (stored : case ∈ cases.rows) (good : Good incident.incident_id case) :
    Mapped Good {
      db := w.db.append [exported_entry incident case.case_id.text observable_count recovered] occurred_at
      cases } := by
  intro row inside
  have inside : row ∈ exported_rows w.db ∨
      row = Database.audit_row occurred_at (exported_entry incident case.case_id.text observable_count recovered) := by
    simpa [exported_rows, exported_entry, Database.audit_row] using inside
  rcases inside with old | rfl
  · obtain ⟨case, stored, names, good⟩ := mapped row old
    exact ⟨case, kept case stored, names, good⟩
  · refine ⟨case, stored, ?_, good⟩
    have text : text_field "case_id" (Database.audit_row occurred_at
        (exported_entry incident case.case_id.text observable_count recovered)) = some case.case_id.text := rfl
    rw [mapped_case, text, Option.map_some, case.case_id.clean, Option.filter_some,
      if_pos (by simpa using case.case_id.named)]

theorem not_named {incident_id : String} {answer : Option Response} {w : World} (failed : ¬Success answer) :
    Named Good incident_id answer w := by
  intro response answered success
  exact absurd ⟨response, answered, success⟩ failed

/-- An answer of a case that is there and good. -/
theorem named_response {incident_id : String} {answer : Option Response} {w : World} {response : Response} {case : Case}
    (answered : answer = none ∨ answer = some response) (stored : case ∈ w.cases.rows) (good : Good incident_id case)
    (names : Json.lookup "case_id" response.content = some (.str case.case_id.text)) : Named Good incident_id answer w := by
  intro response' inside _
  rcases answered with rfl | rfl
  · contradiction
  · cases inside
    exact ⟨case, stored, names, good⟩

/-- A request keeps the exported rows good and answers from them,
    if the case it finds is good and the case it creates whole. -/
theorem request_mapped {a : Attempt} {w w' : World} {answer : Option Response}
    (whole : ∀ case_export, Good a.incident_id
      (holding (case_export.observables.map sent) (cleaned (new_case a case_export))))
    (mapped : Mapped Good w) (finds : Finds Good w (.request a)) (requested : export_incident_to_thehive a w = (answer, w')) :
    Mapped Good w' ∧ Named Good a.incident_id answer w' := by
  cases export_exported requested with
  | unchanged failed => exact ⟨mapped, not_named failed⟩
  | mapped mapping =>
    obtain ⟨row, logged, action, own, names⟩ := existing_case_mapping_some mapping
    obtain ⟨case, stored, names', good⟩ := mapped row (List.mem_filter.mpr ⟨logged, decide_eq_true action⟩)
    refine ⟨mapped, named_response (.inr rfl) stored (own ▸ good) ?_⟩
    rw [names] at names'
    cases names'
    rfl
  | recovered looked own found answered =>
    obtain ⟨case, earliest, rfl⟩ := find_some found
    have stored := page_mem earliest.1
    have good := finds looked case earliest.1 earliest
    exact ⟨mapped.recorded (fun _ inside => inside) stored (own.symm ▸ good), named_response answered stored good rfl⟩
  | unrecorded looked missed created failed =>
    refine ⟨mapped.grown rfl (fun case inside => ?_), not_named failed⟩
    have kept := @export_keeps a _ _ inside
    rwa [requested] at kept
  | @recorded _ incident case_export observable_count cases looked own missed created answered =>
    have stored : holding (case_export.observables.map sent) (cleaned (new_case a case_export)) ∈ cases.rows := by
      rw [created]; exact List.mem_append_right _ (List.mem_singleton.mpr rfl)
    have kept : ∀ case ∈ w.cases.rows, case ∈ cases.rows := by
      intro case inside
      rw [created]; exact List.mem_append_left _ inside
    have good := whole case_export
    have name : (holding (case_export.observables.map sent) (cleaned (new_case a case_export))).case_id = a.new_id := by
      rw [holding, cleaned_case_id, new_case]
    refine ⟨?_, named_response answered stored good ?_⟩
    · rw [← name]
      exact mapped.recorded kept stored (own.symm ▸ good)
    · rw [name]; rfl

theorem step_mapped (whole : ∀ a case_export, Good a.incident_id (holding (case_export.observables.map sent)
    (cleaned (new_case a case_export)))) {w : World} {e : Event} (mapped : Mapped Good w) (finds : Finds Good w e) :
    Mapped Good (step w e) := by
  cases e with
  | request a =>
    rw [step]
    rcases requested : export_incident_to_thehive a w with ⟨answer, w'⟩
    exact (request_mapped (whole a) mapped finds requested).1
  | other_case case =>
    rw [step]
    split
    · exact mapped
    · rename_i cases created
      exact mapped.grown rfl (fun _ inside => (Table.mem_insert created).mpr (.inl inside))
  | application db =>
    rw [step]
    split
    · rename_i same
      exact mapped.grown same (fun _ inside => inside)
    · exact mapped

/-- In a run whose lookups find good cases only, every exported row and every answer names a good case. -/
theorem run_mapped (whole : ∀ a case_export, Good a.incident_id (holding (case_export.observables.map sent)
    (cleaned (new_case a case_export)))) {w : World} {events : List Event} (mapped : Mapped Good w)
    (finds : Runs.Along step (Finds Good) w events) :
    Mapped Good (Runs.run step w events) ∧ Runs.Along step (Answered Good) w events := by
  induction events generalizing w with
  | nil => exact ⟨mapped, trivial⟩
  | cons e rest ih =>
    obtain ⟨here, later⟩ := finds
    obtain ⟨mapped', answered⟩ := ih (step_mapped whole mapped here) later
    refine ⟨mapped', ?_, answered⟩
    cases e with
    | request a =>
      rw [Answered]
      rcases requested : export_incident_to_thehive a w with ⟨answer, w'⟩
      exact (request_mapped (whole a) mapped here requested).2
    | other_case | application => trivial

/-- An undisturbed request that looks its case up names a good case exactly when it finds none but a good one. -/
theorem answered_iff_finds {a : Attempt} {w : World} (whole : ∀ case_export, Good a.incident_id
    (holding (case_export.observables.map sent) (cleaned (new_case a case_export)))) (mapped : Mapped Good w)
      (ready : Ready a w)
    (answers : a.lookup = none) (committed : a.commit = .committed) :
    Answered Good w (.request a) ↔ Finds Good w (.request a) := by
  constructor
  · intro answered _ case listed earliest
    obtain ⟨other, stored, text, good⟩ := answered _ (ready.recovers answers committed (find_earliest earliest)) (.inl rfl)
    have text : case.case_id.text = other.case_id.text := Json.str.inj (Option.some.inj text)
    have same := Table.eq_of_key (export_keeps (page_mem listed)) stored (CaseId.eq_of_text text)
    exact same ▸ good
  · intro finds
    rw [Answered]
    rcases requested : export_incident_to_thehive a w with ⟨answer, w'⟩
    exact (request_mapped whole mapped finds requested).2

end SocTriage.IncidentExport
