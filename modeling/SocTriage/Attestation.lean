import Mathlib.Logic.Relation
import SocTriage.References

/-!
What the memberships of a context attest. The evidence that is stored with them is enough to
tell why the alerts are together: any two members are joined by a chain of pairs, and each pair
is on record with evidence that suffices by the policy. Merges lose none of it.
-/
namespace SocTriage.Attestation
open Assessment Correlation CorrelationInvariants Evidence
open Deduplication (Window)
open PersistentDeduplication
open Ingest (Pipeline)
open Notifications (N8N)
open References (Referenced referenced_kept referenced_start)
open UnitsOfWork (Any Kept)

/-- The membership of the first alert names the second with evidence that suffices. -/
def Justifies (members : List CorrelationMember) (first second : UUID) : Prop :=
  ∃ member ∈ members, member.alert_id = first ∧ ∃ items : List EvidenceItem, is_sufficient items = true ∧
    ∀ item ∈ items, ⟨item.evidence_type.value, item.value, second⟩ ∈ member.evidence

/-- Evidence of the known types, and a chain of justified pairs between any two members of a context. -/
structure Attested (db : Database) : Prop where
  typed : ∀ member ∈ db.correlation_members.rows, ∀ item ∈ member.evidence, ∃ known : EvidenceType,
    item.evidence_type = known.value
  connected : ∀ member ∈ db.correlation_members.rows, ∀ other ∈ db.correlation_members.rows,
    member.context_id = other.context_id →
      Relation.EqvGen (Justifies db.correlation_members.rows) member.alert_id other.alert_id

/-! ### A call that links an alert -/

section
variable {db db' : Database} {alert_id : UUID} {peers : List Qualified} {received : Int} {target_id : String}

private theorem relabelled_evidence (sources : List String) (row : CorrelationMember) :
    (relabelled sources target_id row).evidence = row.evidence := by
  rw [relabelled]; split <;> rfl

private theorem stored_typed {peer_alert_id : UUID} {items : List EvidenceItem} {item : CorrelationEvidenceItem}
    (listed : item ∈ stored_evidence peer_alert_id items) : ∃ known : EvidenceType, item.evidence_type = known.value := by
  obtain ⟨source, _, rfl⟩ := List.mem_map.mp listed
  exact ⟨source.evidence_type, rfl⟩

private theorem linked_typed (attested : Attested db) (linked : Linked db alert_id peers received target_id db') :
    ∀ member ∈ db'.correlation_members.rows, ∀ item ∈ member.evidence, ∃ known : EvidenceType,
      item.evidence_type = known.value := by
  intro member inside item listed
  rcases (linked.members member).mp inside with ⟨old, stored, rfl⟩ | new
  · rw [relabelled_evidence] at listed
    exact attested.typed old stored item listed
  · rcases mem_new_members.mp new with ⟨_, _, _, rfl⟩ | rfl
    · exact stored_typed listed
    · obtain ⟨_, _, from_peer⟩ := List.mem_flatMap.mp listed
      exact stored_typed from_peer

/-- A merge loses no justified pair. -/
private theorem justified_before (linked : Linked db alert_id peers received target_id db') {first second : UUID}
    (justifies : Justifies db.correlation_members.rows first second) :
    Justifies db'.correlation_members.rows first second := by
  obtain ⟨member, stored, rfl, items, enough, held⟩ := justifies
  refine ⟨_, (linked.members _).mpr (.inl ⟨member, stored, rfl⟩), relabelled_alert_id _ _, items, enough, ?_⟩
  rw [relabelled_evidence]
  exact held

/-- The alert names each of its peers with the evidence that qualified it. -/
private theorem justified_peer (linked : Linked db alert_id peers received target_id db') {peer : Qualified}
    (first : peer ∈ peers) (enough : is_sufficient peer.2 = true) :
    Justifies db'.correlation_members.rows alert_id peer.1.alert_id := by
  refine ⟨_, (linked.members _).mpr (.inr (mem_new_members.mpr (.inr rfl))), rfl, peer.2, enough, fun item listed => ?_⟩
  exact List.mem_flatMap.mpr ⟨peer, first, List.mem_map.mpr ⟨item, listed, rfl⟩⟩

private theorem connected_before (attested : Attested db) (linked : Linked db alert_id peers received target_id db')
    {member other : CorrelationMember} (stored : member ∈ db.correlation_members.rows)
    (stored' : other ∈ db.correlation_members.rows) (together : member.context_id = other.context_id) :
    Relation.EqvGen (Justifies db'.correlation_members.rows) member.alert_id other.alert_id :=
  (attested.connected member stored other stored' together).mono (fun _ _ => justified_before linked)

/-- Each member of the context that the alert ends up in is joined to it. -/
private theorem joined_target (coherent : Coherent db) (attested : Attested db)
    (sufficient : ∀ peer ∈ peers, is_sufficient peer.2 = true)
    (linked : Linked db alert_id peers received target_id db') {member : CorrelationMember}
    (inside : member ∈ db'.correlation_members.rows) (here : member.context_id = target_id) :
    Relation.EqvGen (Justifies db'.correlation_members.rows) alert_id member.alert_id := by
  rcases (linked.members member).mp inside with ⟨old, stored, rfl⟩ | new
  · by_cases involved : Involved db peers old.context_id
    · obtain ⟨peer, first, same⟩ := involved
      obtain ⟨own, stored', key, context⟩ := context_of_eq_some.mp same
      have chain := connected_before attested linked stored' stored context
      rw [key] at chain
      rw [relabelled_alert_id]
      exact (Relation.EqvGen.rel _ _ (justified_peer linked first (sufficient peer first))).trans _ _ _ chain
    · -- a context that no peer is in is not the target: that is one of the peers', or new
      rw [relabelled_uninvolved involved] at here
      rcases linked.target with target | ⟨_, unknown, _⟩
      · exact absurd (here ▸ target) involved
      · obtain ⟨context, present, same⟩ := coherent.known old stored
        exact absurd (same.trans here) (Table.get_eq_none.mp unknown context present)
  · rcases mem_new_members.mp new with ⟨peer, first, _, rfl⟩ | rfl
    · exact .rel _ _ (justified_peer linked first (sufficient peer first))
    · exact .refl _

private theorem linked_attested (coherent : Coherent db) (attested : Attested db)
    (sufficient : ∀ peer ∈ peers, is_sufficient peer.2 = true)
    (linked : Linked db alert_id peers received target_id db') : Attested db' := by
  refine ⟨linked_typed attested linked, fun member inside other inside' together => ?_⟩
  by_cases here : member.context_id = target_id
  · have first := joined_target coherent attested sufficient linked inside here
    have second := joined_target coherent attested sufficient linked inside' (together.symm.trans here)
    exact (first.symm _ _).trans _ _ _ second
  · have old : ∀ {row : CorrelationMember}, row ∈ db'.correlation_members.rows → row.context_id ≠ target_id →
        row ∈ db.correlation_members.rows := by
      intro row inside other
      rcases (linked.members row).mp inside with ⟨before, stored, rfl⟩ | new
      · by_cases involved : Involved db peers before.context_id
        · exact absurd (relabelled_involved involved) other
        · rw [relabelled_uninvolved involved]
          exact stored
      · rcases mem_new_members.mp new with ⟨_, _, _, rfl⟩ | rfl
        · exact absurd rfl other
        · exact absurd rfl other
    exact connected_before attested linked (old inside here) (old inside' (together ▸ here)) together
end

/-! ### Every run -/

private theorem same {db db' : Database} (attested : Attested db)
    (members : db'.correlation_members = db.correlation_members) : Attested db' :=
  ⟨by rw [members]; exact attested.typed, by rw [members]; exact attested.connected⟩

private theorem correlated {window : Window} {alert_id : UUID} {received : Int} {db db' : Database}
    {result : Option CorrelationResult} (executed : decide_and_apply window alert_id received db = .ok (result, db'))
    (coherent : Coherent db) (attested : Attested db) : Attested db' := by
  rcases decide_and_apply_cases executed with ⟨rfl, _⟩ | ⟨alert, peers, target_id, _, _, qualified, _, linked⟩
  · exact attested
  · refine linked_attested coherent attested (fun peer first => ?_) linked
    rw [qualified] at first
    obtain ⟨-, -, -, -, -, items, related⟩ := mem_qualifying.mp first
    rw [items]
    exact related

theorem attested_kept : Kept (fun _ => True) Any
    (fun db db' => Referenced db ∧ Attested db → Referenced db' ∧ Attested db') where
  refl _ := id
  trans first second both := second (first both)
  appended db entries occurred_at remarks timely both :=
    ⟨referenced_kept.appended db entries occurred_at remarks timely both.1, same both.2 rfl⟩
  delivered timely executed both := by
    refine ⟨referenced_kept.delivered timely executed both.1, ?_⟩
    obtain ⟨_, ⟨_, rfl⟩ | ⟨_, _, _, _, _, rfl⟩⟩ := deliver_cases executed
    · exact same both.2 rfl
    · exact same both.2 rfl
  assessed timely engines found computed committed both :=
    ⟨referenced_kept.assessed timely engines found computed committed both.1, same both.2 committed.frame.2.2.2⟩
  correlated timely executed both :=
    ⟨referenced_kept.correlated timely executed both.1, correlated executed both.1.contexts both.2⟩
  updated timely updated both := by
    refine ⟨referenced_kept.updated timely updated both.1, ?_⟩
    obtain ⟨_, _, _, _, rfl⟩ := Incidents.update_status_ok updated
    exact same both.2 rfl
  recorded timely found both := ⟨referenced_kept.recorded timely found both.1, same both.2 rfl⟩
  closed timely found left both := ⟨referenced_kept.closed timely found left both.1, same both.2 rfl⟩
  noted request db timely both := ⟨referenced_kept.noted request db timely both.1, same both.2 rfl⟩

theorem attested_start : Attested {} := by
  constructor
  all_goals
    intro member inside
    exact absurd inside List.not_mem_nil

/-- Every database the service reaches has its references resolve and its contexts attested. -/
theorem after_attested (pipeline : Pipeline) (n8n : N8N) (events : List Service.Event) :
    Referenced (Service.after pipeline n8n events).db ∧ Attested (Service.after pipeline n8n events).db :=
  UnitsOfWork.invariant attested_kept ⟨referenced_start, attested_start⟩ pipeline n8n events

end SocTriage.Attestation
