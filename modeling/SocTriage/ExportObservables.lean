import SocTriage.OneCase

/-!
The observables of an exported case. An attempt that creates a case creates all its
observables before it answers; an attempt that finds a case answers with it as it is. So
an answer of success means all observables, unless a lookup finds what a failed attempt left.
-/
namespace SocTriage.ExportObservables
open IncidentExport OneCase TheHive

/-- A case holds every observable of the export it was created for. -/
def Complete (case : Case) : Prop :=
    ∀ origin ∈ case.origin, ∀ observable ∈ origin.observables, sent observable ∈ case.observables

instance (case : Case) : Decidable (Complete case) := inferInstanceAs (Decidable (∀ _ ∈ _, _))

/-- What a request that looks its case up finds earliest on the page is complete. -/
def FindsComplete : World → Event → Prop := Finds (fun _ => Complete)

/-- The case that an answer of success names is complete. -/
def AnsweredComplete : World → Event → Prop := Answered (fun _ => Complete)

instance (w : World) : DecidablePred (FindsComplete w)
  | .request _ => inferInstanceAs (Decidable (_ → _))
  | .other_case _ => isTrue trivial
  | .application _ => isTrue trivial

instance (w : World) : DecidablePred (AnsweredComplete w)
  | .request _ => inferInstanceAs (Decidable (∀ _ ∈ _, _ → _))
  | .other_case _ => isTrue trivial
  | .application _ => isTrue trivial

private theorem created_complete (a : Attempt) (case_export : CaseExport.TheHiveCaseExport) :
    Complete (holding (case_export.observables.map sent) (cleaned (new_case a case_export))) := by
  intro origin created observable among
  cases created
  exact List.mem_map_of_mem among

private theorem unmapped_complete {w : World} (unmapped : exported_rows w.db = []) : Mapped (fun _ => Complete) w := by
  intro row inside
  rw [unmapped] at inside
  contradiction

/-- In a run in which no lookup finds a case that lacks observables, every answer of success names a case with all the
    observables of the attempt that created it. -/
theorem success_means_complete {w : World} {events : List Event} (unmapped : exported_rows w.db = [])
    (finds : Runs.Along step FindsComplete w events) : Runs.Along step AnsweredComplete w events :=
  (run_mapped created_complete (unmapped_complete unmapped) finds).2

/-- Of an undisturbed request the condition is exact. -/
theorem complete_iff_finds {a : Attempt} {w : World} (mapped : Mapped (fun _ => Complete) w) (ready : Ready a w)
    (answers : a.lookup = none) (committed : a.commit = .committed) :
    AnsweredComplete w (.request a) ↔ FindsComplete w (.request a) :=
  answered_iff_finds (created_complete a) mapped ready answers committed

/-- An export of the incident that meets `disturbed`, and the next one. -/
def retried (disturbed : Attempt → Attempt) : List Event :=
  [.request (disturbed (attempt "INC-1970-01-01-0001" case_41 100)),
    .request (attempt "INC-1970-01-01-0001" case_42 200)]

/-- A case whose export failed at the commit is found again with its address. -/
theorem complete_after_failed_commit :
    Runs.Along step AnsweredComplete ⟨one_incident "INC-1970-01-01-0001", Table.empty⟩
      (retried (fun a => { a with commit := .failed })) :=
  success_means_complete (by decide) (by decide +kernel)

/-- A case whose address TheHive did not take is found again, and answered, without it. -/
theorem recovered_without_observable :
    exported_rows (one_incident "INC-1970-01-01-0001") = [] ∧
      ¬Runs.Along step AnsweredComplete ⟨one_incident "INC-1970-01-01-0001", Table.empty⟩
        (retried (fun a => { a with observables := fun _ => .refused .unavailable })) := by
  decide +kernel

end SocTriage.ExportObservables
