import SocTriage.Decisions
import SocTriage.Scoring
import SocTriage.UnitsOfWork

/-!
The assessments on record. What the engines say of an alert depends on nothing that they write
themselves, and nothing that they read is changed without them: an assessment that is on record
is what the engines say of the record.
-/
namespace SocTriage.Recomputation
open Assessment Incidents IncidentCallers PersistentDeduplication
open Ingest (Pipeline Delivery)
open Notifications (N8N)
open Policies Scoring
open UnitsOfWork (Scorer Decider Kept Engaged)

/-! ### What holds of every payload -/

section
variable {Good : CanonicalAlert → Prop} {Engines : Scorer → Decider → Prop} {db db' : Database}

/-- Every stored payload is one of the good ones. -/
def All (Good : CanonicalAlert → Prop) (db : Database) : Prop := ∀ alert ∈ db.alerts.rows, Good alert.normalized_payload

private theorem same (alerts : db'.alerts = db.alerts) (all : All Good db) : All Good db' :=
  fun alert inside => all alert (alerts ▸ inside)

private theorem assessed {request : Request} {incident_id : Option String} (good : Good request.canonical)
    (committed : Committed request db incident_id db') (all : All Good db) : All Good db' := by
  intro alert inside
  have stored := committed.alerts alert.alert_id
  rw [Table.get_of_mem inside] at stored
  split at stored
  · obtain ⟨old, _, same⟩ := Option.map_eq_some_iff.mp stored.symm
    rw [← same]
    exact good
  · exact all alert (Table.get_mem stored.symm)

/-- Payloads stay good when new ones are, and when the engines make good ones. -/
theorem payloads_kept
    (fresh : ∀ (delivery : Delivery) dedupe, Good { delivery.canonical with dedupe := some dedupe })
    (made : ∀ scorer decider (payload : CanonicalAlert) decided_at, Engines scorer decider → Good { payload with
      risk := some (scorer payload), decision := some (decider (scorer payload) payload decided_at) }) :
    Kept (fun _ => True) Engines (fun db db' => All Good db → All Good db') where
  refl _ := id
  trans first second all := second (first all)
  appended _ _ _ _ _ := same rfl
  delivered {_ _ _ _ delivery _ _ _} _ executed all := by
    obtain ⟨decided, ⟨duplicate, rfl⟩ | ⟨_, alerts, _, inserted, _, rfl⟩⟩ := deliver_cases executed
    · exact same rfl all
    · rcases decide_delivery_cases decided with ⟨duplicate, -⟩ | ⟨-, dedupe, _, record⟩
      · contradiction
      · intro alert inside
        rcases (Table.mem_insert inserted).mp inside with before | new
        · exact all alert before
        · rw [new]
          show Good _
          rw [record]
          exact fresh delivery dedupe
  assessed {scorer decider _ _ _ _ _} _ engines _ computed committed := by
    obtain ⟨payload, decided_at, risk, decision, canonical⟩ := computed.made
    refine assessed ?_ committed
    rw [canonical, decision, risk]
    exact made scorer decider payload decided_at engines
  correlated _ executed := by
    rcases Correlation.decide_and_apply_cases executed with ⟨rfl, _⟩ | ⟨_, _, _, _, _, _, _, joined⟩
    · exact id
    · exact same joined.untouched.alerts
  updated _ updated := by
    obtain ⟨_, _, _, _, rfl⟩ := update_status_ok updated
    exact same rfl
  recorded _ _ := same rfl
  closed _ _ _ := same rfl
  noted _ _ _ := same rfl
end

/-! ### The assessments -/

section
variable (py : PyStr) (scoring : ScoringPolicy) (decisions : Decisions.DecisionPolicy)

/-- The engines of the two policies. -/
def Configured : Scorer → Decider → Prop :=
  fun scorer decider => scorer = score py scoring ∧ decider = Decisions.decide decisions

/-- The payload of an alert before its assessment, or with the one the engines make of the payload as it stands. -/
def Recomputed (payload : CanonicalAlert) : Prop :=
  (payload.risk = none ∧ payload.decision = none) ∨
  (payload.risk = some (score py scoring payload) ∧
    ∃ decided_at, payload.decision = some (Decisions.decide decisions (score py scoring payload) payload decided_at))

theorem recomputed_kept : Kept (fun _ => True) (Configured py scoring decisions)
    (fun db db' => All (Recomputed py scoring decisions) db → All (Recomputed py scoring decisions) db') := by
  refine payloads_kept (fun delivery dedupe => .inl ⟨rfl, rfl⟩) ?_
  rintro _ _ payload decided_at ⟨rfl, rfl⟩
  -- neither engine reads what the two of them write
  exact .inr ⟨rfl, decided_at, rfl⟩

/-- Every run of the service under the two policies. -/
theorem after_recomputed {pipeline : Pipeline} (own : Configured py scoring decisions pipeline.score pipeline.decide)
    (n8n : N8N) {events : List Service.Event} (engaged : ∀ event ∈ events, Engaged (Configured py scoring decisions) event) :
    All (Recomputed py scoring decisions) (Service.after pipeline n8n events).db :=
  (recomputed_kept py scoring decisions).run own n8n {} (fun _ _ => trivial) engaged
    (fun _ none => absurd none List.not_mem_nil)
end

end SocTriage.Recomputation
