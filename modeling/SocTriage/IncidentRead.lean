import Mathlib.Data.Prod.Lex
import SocTriage.CaseExport
import SocTriage.Chronology
import SocTriage.DuplicateDelivery
import SocTriage.References

/-!
An incident as it is read. The alerts that are linked to it are sorted by the texts of their times,
the primary alert before all others; since the texts are in the order of the times, that is the
order in which the alerts came.
-/
namespace SocTriage.IncidentRead
open Assessment Incidents PersistentDeduplication
open CaseExport (for_incident)
open Chronology (Representable iso iso_inj iso_lt_iff)
open Correlation (by_received)
open Deduplication (DeliveryDecision Window)
open Ingest (Delivery Pipeline)
open Notifications (N8N)
open References (Referenced referenced_kept referenced_start)
open UnitsOfWork (Any Kept clock login)

/-! ### The serializer -/

structure LinkedAlertSummary where
  alert_id : String
  received_at : String
  rule_id : String
  rule_level : Int
  agent_id : String
  agent_name : String
  risk_score : Option Nat := none
  risk_tier : Option String := none
  decision_action : Option String := none
  is_primary : Bool := false
deriving DecidableEq

structure IncidentDetail where
  incident_id : String
  status : String
  severity : String
  primary_alert_id : String
  dedupe_group_key : String
  created_at : String
  updated_at : String
  acknowledged_at : Option String := none
  resolved_at : Option String := none
  linked_alert_count : Nat
  primary_alert : Option LinkedAlertSummary := none
  linked_alerts : List LinkedAlertSummary := []
deriving DecidableEq

def linked_alert_summary (primary_alert_id : UUID) (record : Alert) : LinkedAlertSummary where
  alert_id := record.alert_id
  received_at := iso record.received_at
  rule_id := record.rule_id
  rule_level := record.rule_level
  agent_id := record.agent_id
  agent_name := record.agent_name
  risk_score := record.normalized_payload.risk.map RiskAssessment.score
  risk_tier := record.normalized_payload.risk.map (fun risk => risk.tier.value)
  decision_action := record.normalized_payload.decision.map (fun decision => decision.action.value)
  is_primary := record.alert_id = primary_alert_id

/-- `(not is_primary, received_at, alert_id)`, compared as a tuple. -/
def summary_key (item : LinkedAlertSummary) : Lex (Bool × Lex (String × String)) :=
  toLex (!item.is_primary, toLex (item.received_at, item.alert_id))

def by_summary (a b : LinkedAlertSummary) : Prop := summary_key a ≤ summary_key b

instance : DecidableRel by_summary := fun _ _ => inferInstanceAs (Decidable (_ ≤ _))

def incident_detail_from_domain (incident : Incident) (linked_alerts : List Alert) : IncidentDetail :=
  let summaries := (linked_alerts.map (linked_alert_summary incident.primary_alert_id)).insertionSort by_summary
  { incident_id := incident.incident_id
    status := incident.status.value
    severity := incident.severity.value
    primary_alert_id := incident.primary_alert_id
    dedupe_group_key := incident.dedupe_group_key
    created_at := iso incident.created_at
    updated_at := iso incident.updated_at
    acknowledged_at := incident.acknowledged_at.map iso
    resolved_at := incident.resolved_at.map iso
    linked_alert_count := summaries.length
    primary_alert := summaries.find? LinkedAlertSummary.is_primary
    linked_alerts := summaries }

/-- One incident with its linked alerts; an unknown one is answered with a 404. -/
def get_incident (db : Database) (incident_id : String) : Option IncidentDetail :=
  (db.incidents.get incident_id).map (fun incident => incident_detail_from_domain incident (for_incident db incident_id))

/-! ### The order -/

/-- The primary alert, then the others as they came. -/
def place (primary_alert_id : UUID) (row : Alert) : Lex (Bool × Lex (Int × UUID)) :=
  toLex (!decide (row.alert_id = primary_alert_id), toLex (row.received_at, row.alert_id))

private def by_place (primary_alert_id : UUID) (a b : Alert) : Prop := place primary_alert_id a ≤ place primary_alert_id b

private instance (primary_alert_id : UUID) : DecidableRel (by_place primary_alert_id) :=
  fun _ _ => inferInstanceAs (Decidable (_ ≤ _))

private instance (primary_alert_id : UUID) : Std.Total (by_place primary_alert_id) :=
  ⟨fun a b => le_total (place primary_alert_id a) (place primary_alert_id b)⟩

private instance (primary_alert_id : UUID) : IsTrans Alert (by_place primary_alert_id) := ⟨fun _ _ _ => le_trans⟩

/-- Summaries of alerts that came in the years of `datetime` are in the order of the alerts. -/
private theorem by_summary_iff {primary_alert_id : UUID} {a b : Alert} (left : Representable a.received_at)
    (right : Representable b.received_at) : by_place primary_alert_id a b ↔
      by_summary (linked_alert_summary primary_alert_id a) (linked_alert_summary primary_alert_id b) := by
  rw [by_place, by_summary, place, place, summary_key, summary_key]
  simp only [linked_alert_summary, Prod.Lex.toLex_le_toLex, iso_lt_iff left right, iso_inj left right]

/-! ### The times on record -/

/-- Every alert came in the years of `datetime`. -/
def Dated (db : Database) : Prop := ∀ alert ∈ db.alerts.rows, Representable alert.received_at

section
variable {db db' : Database}

private theorem same (dated : Dated db) (alerts : db'.alerts = db.alerts) : Dated db' :=
  fun alert inside => dated alert (alerts ▸ inside)

private theorem delivered {window : Window} {group_key identity fingerprint : String} {delivery : Delivery}
    {decision : DeliveryDecision} (timely : Representable delivery.received_at.instant)
    (executed :
      deliver window group_key identity fingerprint delivery.received_at delivery.canonical db = .ok (decision, db'))
    (dated : Dated db) : Dated db' := by
  obtain ⟨decided, ⟨_, rfl⟩ | ⟨distinct, alerts, _, inserted, _, rfl⟩⟩ := deliver_cases executed
  · exact same dated rfl
  · rcases decide_delivery_cases decided with ⟨duplicate, -⟩ | ⟨-, dedupe, _, record⟩
    · exact absurd duplicate distinct
    · intro alert inside
      rcases (Table.mem_insert inserted).mp inside with before | new
      · exact dated alert before
      · rw [new]
        show Representable decision.record.canonical_alert.received_at.instant
        rw [record]
        exact timely

private theorem assessed {request : Request} {incident_id : Option String} (committed : Committed request db incident_id db')
    (dated : Dated db) : Dated db' := by
  intro alert inside
  have stored := committed.alerts alert.alert_id
  rw [Table.get_of_mem inside] at stored
  split at stored
  · obtain ⟨old, found, same⟩ := Option.map_eq_some_iff.mp stored.symm
    rw [← same]
    exact dated old (Table.get_mem found)
  · exact dated alert (Table.get_mem stored.symm)
end

theorem dated_kept : Kept Representable Any (fun db db' => Dated db → Dated db') where
  refl _ := id
  trans first second dated := second (first dated)
  appended _ _ _ _ _ dated := same dated rfl
  delivered := delivered
  assessed _ _ _ _ := assessed
  correlated _ executed dated := by
    rcases Correlation.decide_and_apply_cases executed with ⟨rfl, _⟩ | ⟨_, _, _, _, _, _, _, joined⟩
    · exact dated
    · exact same dated joined.untouched.alerts
  updated _ updated dated := by
    obtain ⟨_, _, _, _, rfl⟩ := update_status_ok updated
    exact same dated rfl
  recorded _ _ dated := same dated rfl
  closed _ _ _ dated := same dated rfl
  noted _ _ _ dated := same dated rfl

/-! ### What a reader is told -/

/-- The detail of an incident: exactly the alerts linked to it, in their order, and the primary alert when it is one of them,
    which it need not be any more. -/
structure Told (db : Database) (incident : Incident) (detail : IncidentDetail) : Prop where
  linked : ∃ rows : List Alert, detail.linked_alerts = rows.map (linked_alert_summary incident.primary_alert_id) ∧
    (∀ row, row ∈ rows ↔ row ∈ db.alerts.rows ∧ row.incident_id = some incident.incident_id) ∧
    rows.Pairwise (fun a b => place incident.primary_alert_id a < place incident.primary_alert_id b)
  counted : detail.linked_alert_count = detail.linked_alerts.length
  primary : ∃ row, db.alerts.get incident.primary_alert_id = some row ∧
    ((row.incident_id = some incident.incident_id ∧ detail.linked_alerts.head? = detail.primary_alert ∧
        detail.primary_alert = some (linked_alert_summary incident.primary_alert_id row)) ∨
      (row.incident_id ≠ some incident.incident_id ∧ detail.primary_alert = none))

section
variable {db : Database}

/-- The linked alerts in the order of their places. -/
private def placed (db : Database) (incident : Incident) : List Alert :=
  (for_incident db incident.incident_id).insertionSort (by_place incident.primary_alert_id)

private theorem mem_placed {incident : Incident} {row : Alert} :
    row ∈ placed db incident ↔ row ∈ db.alerts.rows ∧ row.incident_id = some incident.incident_id := by
  rw [placed, List.mem_insertionSort, for_incident, List.mem_insertionSort, List.mem_filter, decide_eq_true_eq]

private theorem summaries_placed (dated : Dated db) (incident : Incident) :
    ((for_incident db incident.incident_id).map (linked_alert_summary incident.primary_alert_id)).insertionSort by_summary =
      (placed db incident).map (linked_alert_summary incident.primary_alert_id) := by
  refine (List.map_insertionSort (by_place incident.primary_alert_id) by_summary _ _ ?_).symm
  intro a inside b inside'
  have stored : ∀ row ∈ for_incident db incident.incident_id, row ∈ db.alerts.rows := by
    intro row listed
    rw [for_incident, List.mem_insertionSort] at listed
    exact (List.mem_filter.mp listed).1
  exact by_summary_iff (dated a (stored a inside)) (dated b (stored b inside'))

private theorem placed_strict (db : Database) (incident : Incident) : (placed db incident).Pairwise (fun a b =>
    place incident.primary_alert_id a < place incident.primary_alert_id b) := by
  have sorted : (placed db incident).Pairwise (by_place incident.primary_alert_id) := List.pairwise_insertionSort _ _
  have distinct : (placed db incident).Pairwise (fun a b => a.alert_id ≠ b.alert_id) := by
    have perm : (placed db incident).Perm (db.alerts.rows.filter (fun row => row.incident_id = some incident.incident_id)) :=
      (List.perm_insertionSort _ _).trans (List.perm_insertionSort by_received _)
    refine List.pairwise_map.mp ((perm.map Alert.alert_id).nodup_iff.mpr ?_)
    exact db.alerts.unique.sublist (List.filter_sublist.map _)
  refine (sorted.and distinct).imp (fun both => lt_of_le_of_ne both.1 (fun equal => both.2 ?_))
  exact congrArg (fun key => (ofLex (ofLex key).2).2) equal

/-- The first of the places is the primary alert's, if it is linked. -/
private theorem primary_first {incident : Incident} {row : Alert} (inside : row ∈ placed db incident)
    (primary : row.alert_id = incident.primary_alert_id) : ∃ rest, placed db incident = row :: rest := by
  cases listed : placed db incident with
  | nil => rw [listed] at inside; exact absurd inside List.not_mem_nil
  | cons first rest =>
    rw [listed] at inside
    rcases List.mem_cons.mp inside with rfl | later
    · exact ⟨rest, rfl⟩
    · -- only a primary alert is before the primary alert
      have strict := placed_strict db incident
      rw [listed] at strict
      have before := (List.pairwise_cons.mp strict).1 row later
      rw [place, place, Prod.Lex.toLex_lt_toLex] at before
      have same : first.alert_id = row.alert_id := by
        by_contra other
        have unlike : first.alert_id ≠ incident.primary_alert_id := fun equal => other (equal.trans primary.symm)
        rw [decide_eq_true primary, decide_eq_false unlike] at before
        rcases before with before | ⟨before, -⟩
        · exact absurd before (show ¬ true < false by decide)
        · exact absurd before (show true ≠ false by decide)
      have stored := (mem_placed.mp (listed ▸ List.mem_cons_self : first ∈ placed db incident)).1
      have stored' := (mem_placed.mp (listed ▸ inside : row ∈ placed db incident)).1
      exact ⟨rest, by rw [Table.eq_of_key stored stored' same]⟩

theorem detail_told (referenced : Referenced db) (dated : Dated db) {incident : Incident}
    (inside : incident ∈ db.incidents.rows) :
    ∃ detail, get_incident db incident.incident_id = some detail ∧ Told db incident detail := by
  refine ⟨_, by rw [get_incident, Table.get_of_mem inside, Option.map_some], ?_⟩
  rw [incident_detail_from_domain, summaries_placed dated]
  refine ⟨⟨placed db incident, rfl, fun _ => mem_placed, placed_strict db incident⟩, rfl, ?_⟩
  obtain ⟨row, stored, key⟩ := Table.has_iff.mp (referenced.primary incident inside)
  refine ⟨row, by rw [← key]; exact Table.get_of_mem stored, ?_⟩
  by_cases linked : row.incident_id = some incident.incident_id
  · obtain ⟨rest, first⟩ := primary_first (mem_placed.mpr ⟨stored, linked⟩) key
    have marked : (linked_alert_summary incident.primary_alert_id row).is_primary = true := decide_eq_true key
    left
    refine ⟨linked, ?_, ?_⟩
    · simp only [first, List.map_cons, List.head?_cons, List.find?_cons_of_pos marked]
    · simp only [first, List.map_cons, List.find?_cons_of_pos marked]
  · right
    refine ⟨linked, List.find?_eq_none.mpr (fun item listed marked => linked ?_)⟩
    obtain ⟨other, held, rfl⟩ := List.mem_map.mp listed
    obtain ⟨stored', there⟩ := mem_placed.mp held
    have same : other.alert_id = row.alert_id := (of_decide_eq_true marked).trans key.symm
    rw [← Table.eq_of_key stored' stored same]
    exact there
end

/-- In every run at times that `datetime` has, each incident is told so, and any other is answered with a 404. -/
theorem incidents_told (pipeline : Pipeline) (n8n : N8N) {events : List Service.Event}
    (timely : ∀ event ∈ events, Representable (clock event)) :
    let db := (Service.after pipeline n8n events).db
    (∀ incident ∈ db.incidents.rows, ∃ detail, get_incident db incident.incident_id = some detail ∧ Told db incident detail) ∧
    ∀ incident_id, db.incidents.has incident_id = false → get_incident db incident_id = none := by
  intro db
  have referenced : Referenced db := UnitsOfWork.invariant referenced_kept referenced_start pipeline n8n events
  have dated : Dated db := dated_kept.run trivial n8n {} timely (fun event _ => UnitsOfWork.engaged_any event)
    (fun _ none => absurd none List.not_mem_nil)
  refine ⟨fun incident inside => detail_told referenced dated inside, fun incident_id unknown => ?_⟩
  rw [get_incident, Table.has_eq_false.mp unknown, Option.map_none]

/-- Two logins, the second half a second after the first. -/
private def two_logins : List Service.Event := [login "a1" 1767312000000000, login "a2" 1767312000500000]

theorem two_logins_told :
    let db := (Service.after Ingest.alarming DuplicateDelivery.accepting two_logins).db
    (∀ incident ∈ db.incidents.rows, ∃ detail, get_incident db incident.incident_id = some detail ∧ Told db incident detail) ∧
    ∀ incident_id, db.incidents.has incident_id = false → get_incident db incident_id = none :=
  @incidents_told Ingest.alarming DuplicateDelivery.accepting two_logins (by
    intro event inside
    rcases List.mem_cons.mp inside with rfl | inside
    · exact (by decide : Representable 1767312000000000)
    · rw [List.mem_singleton.mp inside]
      exact (by decide : Representable 1767312000500000))

end SocTriage.IncidentRead
