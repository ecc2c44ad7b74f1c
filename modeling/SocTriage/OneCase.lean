import SocTriage.CorrelationComponents
import SocTriage.IncidentExport

/-!
One case for each incident. The lookup sees the first page of the cases only, and takes
any title that contains the id of the incident for a case of that incident. Where the page
is enough and its earliest match is a case of the incident, no run of exports creates a
second case or answers with a case of another incident.
-/
namespace SocTriage.OneCase
open CaseExport IncidentExport TheHive

/-- The incident the exporter created a case for. -/
def created_for (case : Case) : Option String := case.origin.map Origin.incident_id

/-- A case that was created for an incident, or that is tagged for exactly that incident. -/
def CaseOf (incident_id : String) (case : Case) : Prop := created_for case = some incident_id ∨ marker incident_id ∈ case.tags

instance (incident_id : String) (case : Case) : Decidable (CaseOf incident_id case) := inferInstanceAs (Decidable (_ ∨ _))

/-- The incidents that the exporter has created cases for, once for each case. -/
def created (cases : Cases) : List String := cases.rows.filterMap created_for

/-- No two cases were created for one incident. -/
def OneEach (cases : Cases) : Prop := (created cases).Nodup

instance (cases : Cases) : Decidable (OneEach cases) := inferInstanceAs (Decidable (List.Nodup _))

/-- The case lookup answers. -/
def LookupAnswers : Event → Prop
  | .request a => a.lookup = none
  | .other_case _ => True
  | .application _ => True

instance : DecidablePred LookupAnswers
  | .request _ => inferInstanceAs (Decidable (_ = _))
  | .other_case _ => isTrue trivial
  | .application _ => isTrue trivial

/-- Before a request that looks its case up: the earliest match on the page, if there is one, is a case of the incident, and
    there is one if a case was created for the incident. -/
def Findable (w : World) : Event → Prop
  | .request a => LooksUp a w →
      (∀ case ∈ page a.listing w.cases, Earliest a.listing a.incident_id w.cases case → CaseOf a.incident_id case) ∧
      (a.incident_id ∈ created w.cases → ∃ case ∈ page a.listing w.cases, case_matches a.incident_id case = true)
  | .other_case _ => True
  | .application _ => True

instance (listing : Listing) (incident_id : String) (cases : Cases) (case : Case) :
    Decidable (Earliest listing incident_id cases case) := inferInstanceAs (Decidable (_ ∧ _ ∧ _))

instance (w : World) : DecidablePred (Findable w)
  | .request _ => inferInstanceAs (Decidable (_ → _ ∧ _))
  | .other_case _ => isTrue trivial
  | .application _ => isTrue trivial

instance (w : World) : DecidablePred (Answered CaseOf w)
  | .request _ => inferInstanceAs (Decidable (∀ _ ∈ _, _ → _))
  | .other_case _ => isTrue trivial
  | .application _ => isTrue trivial

theorem Findable.finds {w : World} {e : Event} (findable : Findable w e) : Finds CaseOf w e := by
  cases e with
  | request a => exact fun looked => (findable looked).1
  | other_case | application => trivial

theorem created_append {cases cases' : Cases} {case : Case} (rows : cases'.rows = cases.rows ++ [case]) :
    created cases' = created cases ++ (created_for case).toList := by
  rw [created, rows, List.filterMap_append, created]
  cases own : created_for case <;> simp [own]

private theorem created_for_new (a : Attempt) (case_export : TheHiveCaseExport) (observables : List TheHiveObservable) :
    created_for (holding observables (cleaned (new_case a case_export))) = some a.incident_id := by
  rw [created_for, holding, cleaned, new_case, Option.map_some]

/-- A lookup that answers and finds nothing is right about the incident. -/
private theorem missed_uncreated {w : World} {a : Attempt} (answers : a.lookup = none) (findable : Findable w (.request a))
    (looked : LooksUp a w) (missed : Missed a w) : a.incident_id ∉ created w.cases := by
  intro twice
  obtain ⟨case, listed, matching⟩ := (findable looked).2 twice
  rcases missed with failed | nothing
  · exact failed answers
  · rw [find_none nothing case listed] at matching
    exact absurd matching Bool.false_ne_true

private theorem one_each_append {cases cases' : Cases} {case : Case} {incident_id : String} (single : OneEach cases)
    (fresh : incident_id ∉ created cases) (own : created_for case = some incident_id)
    (rows : cases'.rows = cases.rows ++ [case]) :
    OneEach cases' := by
  rw [OneEach, created_append rows, own]
  exact List.nodup_append.mpr ⟨single, List.nodup_singleton _, fun a inside b same equal =>
    fresh (List.mem_singleton.mp same ▸ equal ▸ inside)⟩

theorem step_one_each {w : World} {e : Event} (single : OneEach w.cases) (answers : LookupAnswers e)
    (findable : Findable w e) :
    OneEach (step w e).cases := by
  cases e with
  | request a =>
    rw [step]
    rcases requested : export_incident_to_thehive a w with ⟨answer, w'⟩
    cases export_exported requested with
    | unchanged | mapped | recovered => exact single
    | unrecorded looked missed created _ =>
      exact one_each_append single (missed_uncreated answers findable looked missed) (created_for_new ..) created
    | recorded looked _ missed created _ =>
      exact one_each_append single (missed_uncreated answers findable looked missed) (created_for_new ..) created
  | other_case case =>
    rw [step]
    split
    · exact single
    · rename_i cases inserted
      show OneEach cases
      rw [OneEach, created_append (Table.insert_rows inserted), created_for, Option.map_none, Option.toList_none,
        List.append_nil]
      exact single
  | application db =>
    rw [step]
    split <;> exact single

/-- From a TheHive with at most one exported case for each incident and no row about them, as long as the lookups answer and
    the page shows what there is for the incident, no incident gets a second case, and every answer names a case of its
    incident. -/
theorem one_case_per_incident {w : World} {events : List Event} (unmapped : exported_rows w.db = [])
    (single : OneEach w.cases) (answers : ∀ e ∈ events, LookupAnswers e) (findable : Runs.Along step Findable w events) :
    OneEach (Runs.run step w events).cases ∧ Runs.Along step (Answered CaseOf) w events := by
  have whole : ∀ (a : Attempt) case_export, CaseOf a.incident_id
      (holding (case_export.observables.map sent) (cleaned (new_case a case_export)))  :=
    fun a case_export => .inl (created_for_new a case_export _)
  have mapped : Mapped CaseOf w := by
    intro row inside
    rw [unmapped] at inside
    contradiction
  refine ⟨?_, (run_mapped whole mapped (Runs.along_imp (fun _ _ => Findable.finds) findable)).2⟩
  clear unmapped mapped
  induction events generalizing w with
  | nil => exact single
  | cons e rest ih =>
    exact ih (step_one_each single (answers e List.mem_cons_self) findable.1)
      (fun e later => answers e (List.mem_cons_of_mem _ later))
      findable.2

/-- Of a request that nothing disturbs: it leaves one case for each incident and names a case of its own exactly when the page
    shows what there is for the incident. -/
theorem findable_iff {a : Attempt} {w : World} (ready : Ready a w) (answers : a.lookup = none)
    (done : a.create.carried_out = true) (committed : a.commit = .committed) (fresh : w.cases.get a.new_id = none)
    (single : OneEach w.cases) (mapped : Mapped CaseOf w) :
    OneEach (step w (.request a)).cases ∧ Answered CaseOf w (.request a) ↔ Findable w (.request a) := by
  have named := answered_iff_finds (fun case_export => .inl (created_for_new a case_export _)) mapped ready answers committed
  constructor
  · rintro ⟨single', answered⟩ looked
    refine ⟨named.mp answered looked, fun twice => ?_⟩
    by_contra unlisted
    have nothing : find_case_by_incident a.listing a.incident_id w.cases = none := by
      by_contra found
      obtain ⟨case_id, found⟩ := Option.ne_none_iff_exists'.mp found
      obtain ⟨case, earliest, _⟩ := find_some found
      exact unlisted ⟨case, earliest.1, earliest.2.1⟩
    obtain ⟨case_export, observables, rows, _⟩ := ready.creates answers done fresh nothing
    rw [OneEach, step, created_append rows, created_for_new] at single'
    exact (List.nodup_append.mp single').2.2 _ twice _ (List.mem_singleton.mpr rfl) rfl
  · intro findable
    exact ⟨step_one_each single answers findable, named.mpr findable.finds⟩

/-! ### Runs that break it -/

/-- TheHive lists its cases as they were created. -/
def as_created : Listing := ⟨id, fun _ => .refl _⟩

def alert_row (incident_id alert_id : String) (received_at : Int) : Alert :=
  { CorrelationComponents.from_source alert_id ("wazuh:5710:" ++ alert_id) "001" "203.0.113.7" received_at with
    incident_id := some incident_id }

/-- A database with one incident, of one alert. -/
def one_incident (incident_id : String) : Database where
  alerts := ⟨[alert_row incident_id "a" (seconds 60)], by exact List.nodup_singleton _⟩
  incidents := ⟨[Incidents.opened incident_id "a" .SEV2 "wazuh:5710:a" (seconds 60)], by exact List.nodup_singleton _⟩

/-- An export that nothing disturbs. -/
def attempt (incident_id : String) (new_id : CaseId) (at_second : Nat) : Attempt where
  client := ⟨"https://thehive.test", "key"⟩
  incident_id := incident_id
  occurred_at := seconds at_second
  new_id := new_id
  createdAt := some at_second
  listing := as_created

def case_41 : CaseId := ⟨"~41", by decide, by decide⟩
def case_42 : CaseId := ⟨"~42", by decide, by decide⟩

/-- An export whose case is created while the answer times out, and the next one. -/
def lost_then_retried (incident_id : String) : List Event :=
  [.request { attempt incident_id case_41 100 with create := .lost .unavailable },
    .request (attempt incident_id case_42 200)]

/-- In an empty TheHive the retry finds the case. -/
theorem one_case_after_lost_answer :
    OneEach (Runs.run step ⟨one_incident "INC-1970-01-01-0001", Table.empty⟩
      (lost_then_retried "INC-1970-01-01-0001")).cases ∧
      Runs.Along step (Answered CaseOf) ⟨one_incident "INC-1970-01-01-0001", Table.empty⟩
        (lost_then_retried "INC-1970-01-01-0001") :=
  one_case_per_incident (by decide) (by decide) (by decide) (by decide +kernel)

/-- A case of somebody else. -/
def other_case (i : Nat) : Case where
  case_id := ⟨Text.zero_padded 4 i, Text.strip_zero_padded 4 i, by
    intro blank
    exact Text.zero_padded_ne_nil 4 i (by rw [blank]; rfl)⟩
  title := "Phishing"
  createdAt := some i

theorem other_cases_distinct (n : Nat) : (((List.range n).map other_case).map Case.case_id).Nodup := by
  rw [List.map_map]
  refine List.nodup_range.map (fun i j same => ?_)
  have same : (other_case i).case_id = (other_case j).case_id := same
  have text : ∀ i, (other_case i).case_id.text = Text.zero_padded 4 i := fun _ => rfl
  have read := Text.parse_decimal_zero_padded 4 i
  rw [← text, same, text, Text.parse_decimal_zero_padded] at read
  exact (Option.some.inj read).symm

def other_cases (n : Nat) : Cases := ⟨(List.range n).map other_case, other_cases_distinct n⟩

private theorem created_other_cases (n : Nat) : created (other_cases n) = [] := by
  rw [created, List.filterMap_eq_nil_iff]
  intro case inside
  obtain ⟨i, _, rfl⟩ := List.mem_map.mp inside
  rfl

/-- What stands behind 200 cases of other people is not found. -/
private theorem nothing_behind_page {cases : Cases} {more : List Case} (rows : cases.rows = (other_cases 200).rows ++ more) :
    find_case_by_incident as_created "INC-1970-01-01-0001" cases = none := by
  by_contra found
  obtain ⟨case_id, found⟩ := Option.ne_none_iff_exists'.mp found
  obtain ⟨case, ⟨listed, matching, _⟩, _⟩ := find_some found
  have first : page as_created cases = (other_cases 200).rows := by
    have long : (other_cases 200).rows.length = 200 := by rw [other_cases, List.length_map, List.length_range]
    show (cases.rows.drop 0).take 200 = _
    rw [rows, List.drop_zero, List.take_append_of_le_length (by rw [long]), List.take_of_length_le (by rw [long])]
  rw [first] at listed
  obtain ⟨i, _, rfl⟩ := List.mem_map.mp listed
  have tags : (other_case i).tags = [] := rfl
  have title : (other_case i).title = "Phishing" := rfl
  rw [case_matches, tags, title] at matching
  exact absurd matching (by decide)

private theorem new_case_id (a : Attempt) (case_export : TheHiveCaseExport) (observables : List TheHiveObservable) :
    (holding observables (cleaned (new_case a case_export))).case_id = a.new_id := by
  rw [holding, cleaned_case_id, new_case]

/-- Behind 200 cases of other people the retry does not see the case of the first attempt, and creates another one. -/
theorem second_case_behind_page :
    exported_rows (one_incident "INC-1970-01-01-0001") = [] ∧ OneEach (other_cases 200) ∧
      (∀ e ∈ lost_then_retried "INC-1970-01-01-0001", LookupAnswers e) ∧
      ¬OneEach (Runs.run step ⟨one_incident "INC-1970-01-01-0001", other_cases 200⟩
        (lost_then_retried "INC-1970-01-01-0001")).cases := by
  refine ⟨by decide, by rw [OneEach, created_other_cases]; exact List.nodup_nil, by decide, ?_⟩
  have free : ∀ (id : CaseId), '~' ∈ id.text.toList → ∀ case ∈ (other_cases 200).rows, case.case_id ≠ id := by
    intro id tilde case inside same
    obtain ⟨i, _, rfl⟩ := List.mem_map.mp inside
    rw [← same] at tilde
    exact absurd (Text.zero_padded_digits 4 i '~' tilde) (by decide)
  rw [lost_then_retried, Runs.run, Runs.run, Runs.run, step, step]
  generalize begun : World.mk (one_incident "INC-1970-01-01-0001") (other_cases 200) = w
  generalize lost : { attempt "INC-1970-01-01-0001" case_41 100 with create := .lost .unavailable } = a
  generalize retried : attempt "INC-1970-01-01-0001" case_42 200 = b
  have ready : Ready a w := by subst begun lost; exact ⟨by decide, rfl, by decide, by decide⟩
  obtain ⟨first, observables, rows, kept⟩ := ready.creates (by subst lost; rfl) (by subst lost; rfl)
    (by subst begun lost; exact Table.get_eq_none.mpr (free _ (by decide)))
    (by subst begun lost; exact nothing_behind_page (List.append_nil _).symm)
  have kept := kept (by subst lost; decide)
  generalize (export_incident_to_thehive a w).2 = w' at rows kept ⊢
  have ready' : Ready b w' := by
    subst begun retried
    refine ⟨by decide, rfl, by decide, ?_⟩
    rw [LooksUp, existing_case, kept]
    decide
  obtain ⟨second, observables', rows', _⟩ := ready'.creates (by subst retried; rfl) (by subst retried; rfl)
    (by
      rw [Table.get_eq_none, rows]
      intro case inside
      rcases List.mem_append.mp inside with other | own
      · subst begun retried
        exact free _ (by decide) case other
      · rw [List.mem_singleton.mp own, new_case_id]
        subst lost retried
        decide)
    (by subst begun retried; exact nothing_behind_page rows)
  rw [OneEach, created_append rows', created_append rows, created_for_new, created_for_new]
  subst lost retried
  intro single
  exact (List.nodup_append.mp single).2.2 _ (List.mem_append_right _ (List.mem_singleton.mpr rfl)) _
    (List.mem_singleton.mpr rfl) rfl

/-- The case of an incident, titled and tagged as the exporter does. -/
def case_of_incident (incident_id : String) : Case where
  case_id := ⟨"~40", by decide, by decide⟩
  title := "SOC Incident " ++ incident_id ++ " [SEV2]"
  tags := [marker incident_id]
  createdAt := some 50
  origin := some ⟨incident_id, []⟩

/-- The thousandth incident of a day is answered with the case of the ten-thousandth, whose id begins with its own. -/
theorem case_of_longer_id :
    ¬Runs.Along step (Answered CaseOf)
      ⟨one_incident "INC-1970-01-01-1000", ⟨[case_of_incident "INC-1970-01-01-10000"], by exact List.nodup_singleton _⟩⟩
      [.request (attempt "INC-1970-01-01-1000" case_41 100)] := by
  decide +kernel

end SocTriage.OneCase
