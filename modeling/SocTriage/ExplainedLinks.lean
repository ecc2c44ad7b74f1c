import SocTriage.ContextDetail

/-!
The correlation section of an alert's explanation. The sections of the alerts of a context agree
with each other and with the detail of the context: each names all the others, and what it holds
of evidence is evidence that the detail shows.
-/
namespace SocTriage.ExplainedLinks
open Attestation ContextDetail CorrelationInvariants
open Correlation (context_of)
open Ingest (Pipeline)
open Notifications (N8N)

/-! ### The section -/

structure ExplanationCorrelationEvidenceRead where
  evidence_type : String
  value : String
  reason : String
  peer_alert_id : String
deriving DecidableEq

structure ExplanationCorrelationRead where
  context_id : String
  linked_alert_ids : List String := []
  evidence : List ExplanationCorrelationEvidenceRead := []
deriving DecidableEq

def evidence_item_read (item : CorrelationEvidenceItem) : ExplanationCorrelationEvidenceRead :=
  ⟨item.evidence_type, item.value, evidence_reason item.evidence_type item.value, item.peer_alert_id⟩

/-- The evidence of the alert's own membership, the first one listed. -/
def own_evidence (record : Alert) (members : List CorrelationMemberSummary) : List ExplanationCorrelationEvidenceRead :=
  match members.find? (fun member => member.alert_id = record.alert_id) with
  | none => []
  | some member => member.evidence.map evidence_item_read

def correlation_section (record : Alert) (context : Option CorrelationContextRecord)
    (members : List CorrelationMemberSummary) : Option ExplanationCorrelationRead :=
  context.map (fun context =>
    { context_id := context.context_id
      linked_alert_ids := (members.filter (fun member => member.alert_id ≠ record.alert_id)).map
        CorrelationMemberSummary.alert_id
      evidence := own_evidence record members })

/-- The section that the route answers with; an unknown alert is answered with a 404. -/
def explained_correlation (db : Database) (alert_id : UUID) : Option (Option ExplanationCorrelationRead) :=
  (db.alerts.get alert_id).map (fun record =>
    let context := context_for_alert db alert_id
    correlation_section record context (match context with
      | none => []
      | some context => members db context.context_id))

/-! ### What it agrees with -/

/-- The section of an alert in a context: all the others of the context, each of which names the alert in its own section,
    and only evidence that the detail of the context has a row of, for the alert and one of them. -/
structure Agrees (db : Database) (alert_id : UUID) (context_id : String) (read : ExplanationCorrelationRead) : Prop where
  context : read.context_id = context_id
  linked : ∀ other, other ∈ read.linked_alert_ids ↔ other ≠ alert_id ∧ context_of db other = some context_id
  several : read.linked_alert_ids ≠ []
  distinct : read.linked_alert_ids.Nodup
  returned : ∀ other ∈ read.linked_alert_ids, ∃ read', explained_correlation db other = some (some read') ∧
    read'.context_id = context_id ∧ alert_id ∈ read'.linked_alert_ids
  shown : ∃ detail, get_correlation db context_id = some detail ∧ ∀ item ∈ read.evidence,
    item.peer_alert_id ∈ read.linked_alert_ids ∧ ∃ row ∈ detail.evidence, row.evidence_type = item.evidence_type ∧
      row.value = item.value ∧ row.reason = item.reason ∧ alert_id ∈ row.related_alert_ids ∧
      item.peer_alert_id ∈ row.related_alert_ids

section
variable {db : Database} {alert_id : UUID} {context_id : String}

private theorem context_read (coherent : Coherent db) (here : context_of db alert_id = some context_id) :
    ∃ context, context_for_alert db alert_id = some context ∧ context.context_id = context_id := by
  obtain ⟨member, found, rfl⟩ := Option.map_eq_some_iff.mp here
  obtain ⟨row, inside, same⟩ := coherent.known member (Table.get_mem found)
  obtain ⟨context, read, key⟩ : ∃ context, get_context db row.context_id = some context ∧
      context.context_id = row.context_id := by
    rw [get_context, Table.get_of_mem inside]
    exact ⟨_, rfl, rfl⟩
  refine ⟨context, ?_, key.trans same⟩
  rw [context_for_alert, Correlation.membership_for_alert, found, Option.bind_some, ← same, read]

/-- The section of an alert in a context. -/
def own_section (db : Database) (context_id : String) (alert : Alert) : ExplanationCorrelationRead where
  context_id := context_id
  linked_alert_ids := ((members db context_id).filter (fun member => member.alert_id ≠ alert.alert_id)).map
    CorrelationMemberSummary.alert_id
  evidence := own_evidence alert (members db context_id)

private theorem explained (coherent : Coherent db) {alert : Alert} (stored : alert ∈ db.alerts.rows)
    (here : context_of db alert.alert_id = some context_id) :
    explained_correlation db alert.alert_id = some (some (own_section db context_id alert)) := by
  obtain ⟨context, found, rfl⟩ := context_read coherent here
  rw [explained_correlation, Table.get_of_mem stored, Option.map_some, found]
  rfl

private theorem mem_linked (coherent : Coherent db) {alert : Alert} (other : UUID) :
    other ∈ (own_section db context_id alert).linked_alert_ids ↔
      other ≠ alert.alert_id ∧ context_of db other = some context_id := by
  rw [context_of_eq_some, own_section, List.mem_map]
  simp only [List.mem_filter, decide_eq_true_eq, mem_members]
  constructor
  · rintro ⟨_, ⟨⟨member, stored, here, alert, _, rfl⟩, apart⟩, rfl⟩
    exact ⟨apart, member, stored, rfl, here⟩
  · rintro ⟨apart, member, stored, rfl, here⟩
    obtain ⟨found, row⟩ := coherent.stored member stored
    exact ⟨_, ⟨⟨member, stored, here, found, row, rfl⟩, apart⟩, rfl⟩

/-- A context has another member. -/
private theorem has_other (coherent : Coherent db) (here : context_of db alert_id = some context_id) :
    ∃ other, other ≠ alert_id ∧ context_of db other = some context_id := by
  obtain ⟨member, stored, rfl, rfl⟩ := context_of_eq_some.mp here
  obtain ⟨context, inside, same⟩ := coherent.known member stored
  obtain ⟨first, stored₁, second, stored₂, apart, in₁, in₂⟩ := coherent.sized context inside
  by_cases mine : first.alert_id = member.alert_id
  · exact ⟨second.alert_id, mine ▸ apart.symm, context_of_eq_some.mpr ⟨second, stored₂, rfl, in₂.trans same⟩⟩
  · exact ⟨first.alert_id, mine, context_of_eq_some.mpr ⟨first, stored₁, rfl, in₁.trans same⟩⟩

/-- What a section holds of evidence stands in the membership of the alert. -/
private theorem own_stored {alert : Alert} {read : ExplanationCorrelationEvidenceRead}
    (held : read ∈ own_evidence alert (members db context_id)) :
    ∃ member ∈ db.correlation_members.rows, member.context_id = context_id ∧ member.alert_id = alert.alert_id ∧
      ∃ item ∈ member.evidence, evidence_item_read item = read := by
  rw [own_evidence] at held
  split at held
  · exact absurd held List.not_mem_nil
  · rename_i found
    obtain ⟨member, stored, here, _, _, rfl⟩ := mem_members.mp (List.mem_of_find?_eq_some found)
    have own := List.find?_some found
    exact ⟨member, stored, here, of_decide_eq_true own, List.mem_map.mp held⟩

private theorem agrees (coherent : Coherent db) (attested : Attested db) {alert : Alert}
    (here : context_of db alert.alert_id = some context_id) :
    Agrees db alert.alert_id context_id (own_section db context_id alert) := by
  obtain ⟨other, apart⟩ := has_other coherent here
  refine ⟨rfl, mem_linked coherent, List.ne_nil_of_mem ((mem_linked coherent other).mpr apart), ?_, ?_, ?_⟩
  · exact (ids_distinct coherent).sublist (List.filter_sublist.map _)
  · intro other linked
    obtain ⟨apart, there⟩ := (mem_linked coherent other).mp linked
    obtain ⟨member, _, rfl, -⟩ := context_of_eq_some.mp there
    obtain ⟨row, found⟩ := coherent.stored member ‹_›
    obtain ⟨inside, key⟩ := Table.get_eq_some.mp found
    rw [← key] at apart there ⊢
    exact ⟨_, explained coherent inside there, rfl, (mem_linked coherent _).mpr ⟨apart.symm, here⟩⟩
  · obtain ⟨own, inside, key, same⟩ := context_of_eq_some.mp here
    obtain ⟨context, present, rfl⟩ : ∃ context ∈ db.correlation_contexts.rows, context.context_id = context_id := by
      rw [← same]
      exact coherent.known own inside
    obtain ⟨detail, read, told⟩ := detail_told coherent attested present
    refine ⟨detail, read, fun item held => ?_⟩
    obtain ⟨member, stored', here', mine, source, listed, rfl⟩ := own_stored held
    have peer : Relates db context.context_id (source.evidence_type, source.value) source.peer_alert_id :=
      ⟨member, stored', here', source, listed, rfl, .inr rfl⟩
    obtain ⟨row, shows, shared, both⟩ := told.row ⟨member, stored', here', source, listed, rfl, .inl mine.symm⟩ peer
    obtain ⟨type, value⟩ := Prod.mk.inj shared
    refine ⟨?_, row, shows, type, value, ?_, both⟩
    · refine (mem_linked coherent _).mpr ⟨fun self => ?_, related_member coherent peer⟩
      obtain ⟨named, _, name, -, groups⟩ := coherent.evidenced member stored' source listed
      exact groups (by rw [name, mine, ← self]; rfl)
    · rw [told.reasoned row shows, type, value]
      rfl
end

/-- In every database the service reaches, the explanation of each alert is silent on correlation exactly when it has none,
    and otherwise agrees with those of the others; an unknown alert is answered with a 404. -/
theorem explanations_agree (pipeline : Pipeline) (n8n : N8N) (events : List Service.Event) :
    let db := (Service.after pipeline n8n events).db
    (∀ alert ∈ db.alerts.rows,
      (context_of db alert.alert_id = none ∧ explained_correlation db alert.alert_id = some none) ∨
      ∃ context_id read, context_of db alert.alert_id = some context_id ∧
        explained_correlation db alert.alert_id = some (some read) ∧ Agrees db alert.alert_id context_id read) ∧
    ∀ alert_id, db.alerts.has alert_id = false → explained_correlation db alert_id = none := by
  intro db
  obtain ⟨referenced, attested⟩ := after_attested pipeline n8n events
  refine ⟨fun alert stored => ?_, fun alert_id unknown => ?_⟩
  · cases here : context_of db alert.alert_id with
    | none =>
      refine .inl ⟨rfl, ?_⟩
      rw [context_of, Option.map_eq_none_iff] at here
      rw [explained_correlation, Table.get_of_mem stored, context_for_alert, Correlation.membership_for_alert, here]
      rfl
    | some context_id =>
      exact .inr ⟨context_id, _, rfl, explained referenced.contexts stored here,
        agrees referenced.contexts attested here⟩
  · rw [explained_correlation, Table.has_eq_false.mp unknown, Option.map_none]

end SocTriage.ExplainedLinks
