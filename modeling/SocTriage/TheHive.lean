import Mathlib.Data.List.Infix
import Mathlib.Data.List.Sort
import SocTriage.Tables
import SocTriage.Text

/-!
TheHive and its client: the cases of the server, the calls that create a case and its
observables, and the lookup of the case of an incident. A call can be refused, or be
carried out while its answer is lost. A case carries, for the statements only, the
incident and the observables it was created for.
-/
namespace SocTriage.TheHive

/-- Tag prefix of the exported cases. -/
def CASE_TAG_PREFIX := "soc-triage:"

structure TheHiveObservable where
  data_type : String
  data : String
  message : Option String := none
deriving DecidableEq, Repr

/-- The id of a case: TheHive gives out no blank ones. -/
structure CaseId where
  text : String
  clean : Text.strip text = text
  named : text ≠ ""
deriving DecidableEq

/-- What the exporter created a case for. -/
structure Origin where
  incident_id : String
  observables : List TheHiveObservable
deriving DecidableEq

structure Case where
  case_id : CaseId
  title : String
  description : String := ""
  severity : Nat := 1
  pap : Nat := 2
  tlp : Nat := 2
  tags : List String := []
  createdAt : Option Int := none
  observables : List TheHiveObservable := []
  origin : Option Origin := none
deriving DecidableEq

abbrev Cases := Table Case.case_id

/-- The exceptions of the client, any other exception, and the end of the process. -/
inductive Failure where
  | not_configured | authentication | unavailable | request | unexpected | stopped
deriving DecidableEq, Repr

/-- How a call that changes something ends: answered, refused, or carried out without an answer. -/
inductive Outcome where
  | answered
  | refused (failure : Failure)
  | lost (failure : Failure)
deriving DecidableEq, Repr

def Outcome.carried_out : Outcome → Bool
  | .refused _ => false
  | .answered => true
  | .lost _ => true

/-- What a call comes back with. -/
def Outcome.answer {α : Type} (value : α) : Outcome → Except Failure α
  | .answered => .ok value
  | .refused failure => .error failure
  | .lost failure => .error failure

structure TheHiveClient where
  thehive_url : String
  thehive_api_key : String
deriving DecidableEq, Repr

/-- `text.strip("/")` is empty. -/
def only_slashes (text : String) : Bool := text.toList.all (· = '/')

def TheHiveClient.configured (self : TheHiveClient) : Bool :=
  !only_slashes (Text.strip self.thehive_url) && Text.strip self.thehive_api_key != ""

/-! ### Creating -/

/-- The case as it is sent. -/
def cleaned (case : Case) : Case :=
  { case with title := Text.strip case.title, tags := (case.tags.map Text.strip).filter (· ≠ "") }

theorem cleaned_case_id (case : Case) : (cleaned case).case_id = case.case_id := rfl

/-- The new case of one request to TheHive. An id that is taken is never given out. -/
def create_case (self : TheHiveClient) (outcome : Outcome) (case : Case) (cases : Cases) : Except Failure CaseId × Cases :=
  if Text.strip case.title = "" ∨ Text.strip case.description = "" then (.error .unexpected, cases)
  else if !self.configured then (.error .not_configured, cases)
  else if !outcome.carried_out then (outcome.answer case.case_id, cases)
  else
    match cases.insert (cleaned case) with
    | none => (.error .request, cases)
    | some created => (outcome.answer case.case_id, created)

/-- The observable as it is sent. -/
def sent (observable : TheHiveObservable) : TheHiveObservable where
  data_type := Text.strip observable.data_type
  data := Text.strip observable.data
  message := (observable.message.filter (· ≠ "")).map Text.strip

def with_observable (observable : TheHiveObservable) (case : Case) : Case :=
  { case with observables := case.observables ++ [observable] }

def create_observable (self : TheHiveClient) (outcome : Outcome) (case_id : CaseId) (observable : TheHiveObservable)
    (cases : Cases) : Except Failure Unit × Cases :=
  if Text.strip observable.data_type = "" ∨ Text.strip observable.data = "" then (.error .unexpected, cases)
  else if !self.configured then (.error .not_configured, cases)
  else if !outcome.carried_out then (outcome.answer (), cases)
  else (outcome.answer (), cases.modify case_id (with_observable (sent observable)))

private theorem answer_ok {α : Type} {value value' : α} {outcome : Outcome} (answered : outcome.answer value = .ok value') :
    value' = value := by
  cases outcome with
  | answered => cases answered; rfl
  | refused | lost => contradiction

private theorem answer_refused {α : Type} {value : α} {outcome : Outcome} (refused : (!outcome.carried_out) = true) :
    ∃ failure, outcome.answer value = .error failure := by
  cases outcome with
  | refused failure => exact ⟨failure, rfl⟩
  | answered | lost => contradiction

/-- A call that creates no case fails; one that does appends it, answered or not. -/
theorem create_case_cases {self : TheHiveClient} {outcome : Outcome} {case : Case} {cases cases' : Cases}
    {result : Except Failure CaseId} (called : create_case self outcome case cases = (result, cases')) :
    (∃ failure, result = .error failure ∧ cases' = cases) ∨
      (self.configured = true ∧ cases'.rows = cases.rows ++ [cleaned case] ∧
        ∀ case_id, result = .ok case_id → case_id = (cleaned case).case_id) := by
  rw [create_case] at called
  split at called
  · cases called; exact .inl ⟨_, rfl, rfl⟩
  split at called
  · cases called; exact .inl ⟨_, rfl, rfl⟩
  rename_i configured
  split at called
  · rename_i refused
    cases called
    obtain ⟨failure, failed⟩ := @answer_refused _ case.case_id _ refused
    exact .inl ⟨failure, failed, rfl⟩
  split at called
  · cases called; exact .inl ⟨_, rfl, rfl⟩
  · rename_i created done
    cases called
    exact .inr ⟨by simpa using configured, Table.insert_rows done, fun _ answered => answer_ok answered⟩

/-- A request that is in order and is carried out creates the case. -/
theorem create_case_carried_out {self : TheHiveClient} {outcome : Outcome} {case : Case} {cases : Cases}
    (titled : Text.strip case.title ≠ "") (described : Text.strip case.description ≠ "") (configured : self.configured = true)
    (done : outcome.carried_out = true) (fresh : cases.get case.case_id = none) :
    ∃ cases', create_case self outcome case cases = (outcome.answer case.case_id, cases') ∧
      cases'.rows = cases.rows ++ [cleaned case] := by
  obtain ⟨cases', inserted⟩ := Table.insert_of_fresh (t := cases) (r := cleaned case) fresh
  refine ⟨cases', ?_, Table.insert_rows inserted⟩
  rw [create_case, if_neg (by simp [titled, described]), if_neg (by simp [configured]), if_neg (by simp [done]), inserted]

/-- A call on the newest case adds the observable to it, or fails; a call that is answered adds it. -/
theorem create_observable_cases {self : TheHiveClient} {outcome : Outcome} {case : Case} {observable : TheHiveObservable}
    {before : List Case} {cases cases' : Cases} {result : Except Failure Unit} (newest : cases.rows = before ++ [case])
    (called : create_observable self outcome case.case_id observable cases = (result, cases')) :
    cases'.rows = before ++ [with_observable (sent observable) case] ∨
      (cases'.rows = before ++ [case] ∧ ∃ failure, result = .error failure) := by
  have added : (cases.modify case.case_id (with_observable (sent observable))).rows =
      before ++ [with_observable (sent observable) case] := by
    have unique := cases.unique
    rw [newest, List.map_append, List.nodup_append] at unique
    show cases.rows.map _ = _
    rw [newest, List.map_append, List.map_singleton, if_pos rfl]
    congr 1
    refine (List.map_congr_left (fun other inside => if_neg ?_)).trans (List.map_id' before)
    exact unique.2.2 _ (List.mem_map_of_mem inside) _ (List.mem_singleton.mpr rfl)
  rw [create_observable] at called
  split at called
  · cases called; exact .inr ⟨newest, _, rfl⟩
  split at called
  · cases called; exact .inr ⟨newest, _, rfl⟩
  split at called
  · rename_i refused
    cases called
    exact .inr ⟨newest, answer_refused refused⟩
  · cases called; exact .inl added

/-! ### The lookup -/

/-- `incident_id in title`. -/
def contains (part text : String) : Bool := part.toList <:+: text.toList

def marker (incident_id : String) : String := CASE_TAG_PREFIX ++ incident_id

/-- Whether the lookup takes a case for one of the incident. -/
def case_matches (incident_id : String) (case : Case) : Bool :=
  case.tags.contains (marker incident_id) || contains incident_id case.title

/-- The order of `(createdAt or 0, _id)`. -/
def by_age (a b : Case) : Prop :=
  a.createdAt.getD 0 < b.createdAt.getD 0 ∨ (a.createdAt.getD 0 = b.createdAt.getD 0 ∧ a.case_id.text ≤ b.case_id.text)

instance : DecidableRel by_age := fun _ _ => inferInstanceAs (Decidable (_ ∨ _))

/-- The order TheHive lists its cases in: none is left out. -/
structure Listing where
  order : List Case → List Case
  perm : ∀ cases, (order cases).Perm cases

/-- The page of the listed cases that the query asks for. -/
def page (listing : Listing) (cases : Cases) (range_from : Nat := 0) (range_to : Nat := 200) : List Case :=
  ((listing.order cases.rows).drop range_from).take (range_to - range_from)

def find_case_by_incident (listing : Listing) (incident_id : String) (cases : Cases) : Option CaseId :=
  (((page listing cases).filter (case_matches incident_id)).insertionSort by_age).head?.map Case.case_id

/-! ### What the lookup finds -/

instance : Std.Total by_age where
  total a b := by
    rcases lt_trichotomy (a.createdAt.getD 0) (b.createdAt.getD 0) with before | same | after
    · exact .inl (.inl before)
    · rcases String.le_total a.case_id.text b.case_id.text with least | greatest
      · exact .inl (.inr ⟨same, least⟩)
      · exact .inr (.inr ⟨same.symm, greatest⟩)
    · exact .inr (.inl after)

instance : IsTrans Case by_age where
  trans a b c first second := by
    rcases first with before | ⟨same, least⟩
    · rcases second with before' | ⟨same', _⟩
      · exact .inl (lt_trans before before')
      · exact .inl (same' ▸ before)
    · rcases second with before' | ⟨same', least'⟩
      · exact .inl (same ▸ before')
      · exact .inr ⟨same.trans same', String.le_trans least least'⟩

theorem CaseId.eq_of_text {a b : CaseId} (same : a.text = b.text) : a = b := by
  cases a; cases b; cases same; rfl

/-- A listed case that matches and that no listed match is older than. -/
def Earliest (listing : Listing) (incident_id : String) (cases : Cases) (case : Case) : Prop :=
  case ∈ page listing cases ∧ case_matches incident_id case = true ∧
    ∀ other ∈ page listing cases, case_matches incident_id other = true → by_age case other

theorem page_mem {listing : Listing} {cases : Cases} {case : Case} (listed : case ∈ page listing cases) : case ∈ cases.rows :=
  (listing.perm cases.rows).mem_iff.mp (List.mem_of_mem_drop (List.mem_of_mem_take listed))

theorem find_some {listing : Listing} {incident_id : String} {cases : Cases} {case_id : CaseId}
    (found : find_case_by_incident listing incident_id cases = some case_id) :
    ∃ case, Earliest listing incident_id cases case ∧ case.case_id = case_id := by
  obtain ⟨case, first, rfl⟩ := Option.map_eq_some_iff.mp found
  obtain ⟨rest, sorted⟩ := List.head?_eq_some_iff.mp first
  have among : ∀ other, other ∈ case :: rest ↔ other ∈ page listing cases ∧ case_matches incident_id other = true := by
    intro other
    rw [← sorted, List.mem_insertionSort, List.mem_filter]
  obtain ⟨listed, matching⟩ := (among case).mp List.mem_cons_self
  refine ⟨case, ⟨listed, matching, ?_⟩, rfl⟩
  intro other listed' matching'
  have pairwise := List.pairwise_insertionSort by_age ((page listing cases).filter (case_matches incident_id))
  rw [sorted] at pairwise
  rcases List.mem_cons.mp ((among other).mpr ⟨listed', matching'⟩) with rfl | later
  · exact .inr ⟨rfl, String.le_refl _⟩
  · exact List.rel_of_pairwise_cons pairwise later

theorem find_none {listing : Listing} {incident_id : String} {cases : Cases}
    (nothing : find_case_by_incident listing incident_id cases = none) :
    ∀ case ∈ page listing cases, case_matches incident_id case = false := by
  intro case listed
  rw [find_case_by_incident, Option.map_eq_none_iff, List.head?_eq_none_iff] at nothing
  by_contra matching
  have inside : case ∈ ((page listing cases).filter (case_matches incident_id)).insertionSort by_age := by
    rw [List.mem_insertionSort, List.mem_filter]
    exact ⟨listed, by simpa using matching⟩
  rw [nothing] at inside
  exact absurd inside List.not_mem_nil

/-- The lookup finds the earliest match. -/
theorem find_earliest {listing : Listing} {incident_id : String} {cases : Cases} {case : Case}
    (earliest : Earliest listing incident_id cases case) :
    find_case_by_incident listing incident_id cases = some case.case_id := by
  cases found : find_case_by_incident listing incident_id cases with
  | none =>
    have unmatched := find_none found case earliest.1
    rw [earliest.2.1] at unmatched
    contradiction
  | some case_id =>
    obtain ⟨other, earliest', rfl⟩ := find_some found
    have forth := earliest.2.2 other earliest'.1 earliest'.2.1
    have back := earliest'.2.2 case earliest.1 earliest.2.1
    have text : other.case_id.text = case.case_id.text := by
      rcases forth with before | ⟨same, least⟩
      · rcases back with after | ⟨same, _⟩ <;> omega
      · rcases back with after | ⟨_, least'⟩
        · omega
        · exact String.le_antisymm least' least
    exact congrArg some (CaseId.eq_of_text text)

end SocTriage.TheHive
