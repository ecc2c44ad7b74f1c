import Mathlib.Order.Bounds.Basic
import SocTriage.Correlation
import SocTriage.Runs

/-!
What holds of the contexts and their memberships after every run of alert insertions and
correlate calls, in any order and with any calls skipped, repeated or rolled back.
-/
namespace SocTriage.CorrelationInvariants
open Correlation Evidence
open Deduplication (Window)

/-- An alert of record inserted, or one correlate call. -/
inductive Event where
  | insert (row : Alert)
  | correlate (alert_id : UUID) (received_at : Datetime) (fault : Bool)

def step (window : Window) (db : Database) : Event → Database
  | .insert row =>
    match db.alerts.insert row with
    | none => db
    | some alerts => { db with alerts }
  | .correlate alert_id received_at fault => (correlate window alert_id received_at fault db).2

/-- The reception times of the members of a context. -/
def span (db : Database) (context_id : String) : Set Int :=
  {t | ∃ member ∈ db.correlation_members.rows, member.context_id = context_id ∧
    ∃ alert, db.alerts.get member.alert_id = some alert ∧ alert.received_at = t}

/-- The dedupe group of a stored alert. -/
def group_of (db : Database) (alert_id : UUID) : Option String := (db.alerts.get alert_id).map Alert.dedupe_group_key

structure Coherent (db : Database) : Prop where
  stored : ∀ member ∈ db.correlation_members.rows, ∃ alert, db.alerts.get member.alert_id = some alert
  single : ∀ member ∈ db.correlation_members.rows, ∀ other ∈ db.correlation_members.rows,
    member.alert_id = other.alert_id → member.context_id = other.context_id
  sized : ∀ context ∈ db.correlation_contexts.rows, ∃ member ∈ db.correlation_members.rows,
    ∃ other ∈ db.correlation_members.rows, member.alert_id ≠ other.alert_id ∧
      member.context_id = context.context_id ∧ other.context_id = context.context_id
  evidenced : ∀ member ∈ db.correlation_members.rows, ∀ item ∈ member.evidence,
    ∃ peer ∈ db.correlation_members.rows, peer.alert_id = item.peer_alert_id ∧ peer.context_id = member.context_id ∧
      group_of db peer.alert_id ≠ group_of db member.alert_id
  bounded : ∀ context ∈ db.correlation_contexts.rows, IsLeast (span db context.context_id) context.first_seen ∧
    IsGreatest (span db context.context_id) context.last_seen
  known : ∀ member ∈ db.correlation_members.rows, ∃ context ∈ db.correlation_contexts.rows,
    context.context_id = member.context_id

/-! ### The qualifying peers -/

section
variable {db db' : Database} {alert_id : UUID} {peers : List Qualified} {received : Int} {target_id : String}

/-- What a qualifying peer is: another stored alert, of another group, in the window, with evidence that suffices. -/
theorem mem_qualifying {alert : Alert} {window : Window} {peer : Qualified} :
    peer ∈ qualifying alert (candidates db received window alert_id alert.dedupe_group_key) ↔
      peer.1 ∈ db.alerts.rows ∧ peer.1.alert_id ≠ alert_id ∧ peer.1.dedupe_group_key ≠ alert.dedupe_group_key ∧
        received - window.delta ≤ peer.1.received_at ∧ peer.1.received_at ≤ received ∧
        peer.2 = pairwise_evidence alert.normalized_payload peer.1.normalized_payload ∧
        Related alert.normalized_payload peer.1.normalized_payload := by
  obtain ⟨row, items⟩ := peer
  rw [qualifying, List.mem_filterMap]
  simp only [candidates, List.mem_insertionSort, List.mem_filter, decide_eq_true_eq, ge_iff_le]
  constructor
  · rintro ⟨_, ⟨inside, other, group, low, high⟩, found⟩
    split at found
    · rename_i enough
      cases found
      exact ⟨inside, other, group, low, high, rfl, (Bool.and_eq_true_iff.mp enough).2⟩
    · contradiction
  · rintro ⟨inside, other, group, low, high, rfl, enough⟩
    refine ⟨row, ⟨inside, other, group, low, high⟩, ?_⟩
    have some_evidence : (pairwise_evidence alert.normalized_payload row.normalized_payload).isEmpty = false := by
      cases items : pairwise_evidence alert.normalized_payload row.normalized_payload with
      | nil => rw [Related, items, is_sufficient_nil] at enough; contradiction
      | cons => rfl
    rw [Related] at enough
    simp only [some_evidence, enough, Bool.not_false, Bool.and_self, ↓reduceIte]

/-! ### What a linking call does to the memberships -/

theorem context_of_eq_some {context_id : String} : context_of db alert_id = some context_id ↔
    ∃ member ∈ db.correlation_members.rows, member.alert_id = alert_id ∧ member.context_id = context_id := by
  rw [context_of, Option.map_eq_some_iff]
  constructor
  · rintro ⟨member, found, same⟩
    obtain ⟨inside, key⟩ := Table.get_eq_some.mp found
    exact ⟨member, inside, key, same⟩
  · rintro ⟨member, inside, key, same⟩
    exact ⟨member, Table.get_eq_some.mpr ⟨inside, key⟩, same⟩

theorem relabelled_alert_id (sources : List String) (row : CorrelationMember) :
    (relabelled sources target_id row).alert_id = row.alert_id := by
  rw [relabelled]; split <;> rfl

private theorem relabelled_evidence (sources : List String) (row : CorrelationMember) :
    (relabelled sources target_id row).evidence = row.evidence := by
  rw [relabelled]; split <;> rfl

private theorem relabelled_context_id (sources : List String) (row : CorrelationMember) :
    (relabelled sources target_id row).context_id = if row.context_id ∈ sources then target_id else row.context_id := by
  rw [relabelled]; split <;> rfl

/-- A member of an uninvolved context stays as it is. -/
theorem relabelled_uninvolved {row : CorrelationMember} (uninvolved : ¬ Involved db peers row.context_id) :
    relabelled (involved_contexts db (peers.map (fun peer => peer.1.alert_id))) target_id row = row := by
  rw [relabelled, if_neg (fun inside => uninvolved (mem_involved.mp inside))]

theorem relabelled_involved {row : CorrelationMember} (involved : Involved db peers row.context_id) :
    (relabelled (involved_contexts db (peers.map (fun peer => peer.1.alert_id))) target_id row).context_id = target_id := by
  rw [relabelled_context_id, if_pos (mem_involved.mpr involved)]

theorem mem_new_members {member : CorrelationMember} :
    member ∈ new_members db alert_id peers target_id received ↔
      (∃ peer ∈ peers, context_of db peer.1.alert_id = none ∧ member =
        { context_id := target_id, alert_id := peer.1.alert_id, joined_at := received
          evidence := stored_evidence alert_id peer.2 }) ∨
      member = { context_id := target_id, alert_id, joined_at := received
                 evidence := peers.flatMap (fun peer => stored_evidence peer.1.alert_id peer.2) } := by
  rw [new_members, List.mem_append, List.mem_map, List.mem_singleton]
  simp only [List.mem_filter, Option.isNone_iff_eq_none, and_assoc]
  exact or_congr (exists_congr (fun peer => and_congr_right (fun _ => and_congr_right (fun _ => eq_comm)))) Iff.rfl

/-- The alert and its peers end up in the target. -/
theorem joins (linked : Linked db alert_id peers received target_id db') {id : UUID}
    (joining : id = alert_id ∨ ∃ peer ∈ peers, peer.1.alert_id = id) :
    ∃ member ∈ db'.correlation_members.rows, member.alert_id = id ∧ member.context_id = target_id := by
  rcases joining with rfl | ⟨peer, inside, rfl⟩
  · exact ⟨_, (linked.members _).mpr (.inr (mem_new_members.mpr (.inr rfl))), rfl, rfl⟩
  · cases before : context_of db peer.1.alert_id with
    | none => exact ⟨_, (linked.members _).mpr (.inr (mem_new_members.mpr (.inl ⟨peer, inside, before, rfl⟩))), rfl, rfl⟩
    | some context_id =>
      obtain ⟨old, stored, key, same⟩ := context_of_eq_some.mp before
      have involved : Involved db peers old.context_id := ⟨peer, inside, by rw [before, same]⟩
      exact ⟨_, (linked.members _).mpr (.inl ⟨old, stored, rfl⟩), (relabelled_alert_id _ _).trans key,
        relabelled_involved involved⟩

/-- The memberships of an uninvolved context other than the target are the ones it had. -/
private theorem uninvolved_members (linked : Linked db alert_id peers received target_id db') {context_id : String}
    (uninvolved : ¬ Involved db peers context_id) (other : context_id ≠ target_id) (member : CorrelationMember) :
    (member ∈ db'.correlation_members.rows ∧ member.context_id = context_id) ↔
      (member ∈ db.correlation_members.rows ∧ member.context_id = context_id) := by
  constructor
  · rintro ⟨inside, rfl⟩
    rcases (linked.members member).mp inside with ⟨old, stored, rfl⟩ | new
    · by_cases involved : Involved db peers old.context_id
      · exact absurd (relabelled_involved involved) other
      · rw [relabelled_uninvolved involved]
        exact ⟨stored, rfl⟩
    · rcases mem_new_members.mp new with ⟨_, _, _, rfl⟩ | rfl
      · exact absurd rfl other
      · exact absurd rfl other
  · rintro ⟨inside, rfl⟩
    refine ⟨(linked.members member).mpr (.inl ⟨member, inside, ?_⟩), rfl⟩
    exact (relabelled_uninvolved uninvolved).symm

private theorem mem_member_times {context_id : String} {t : Int} :
    t ∈ member_times db context_id ↔ t ∈ span db context_id := by
  simp only [member_times, List.mem_filterMap, List.mem_filter, decide_eq_true_eq, Option.map_eq_some_iff, span,
    Set.mem_ofPred_eq, and_assoc]

/-- Recomputed bounds are the least and the greatest reception time of the members. -/
private theorem refreshed_bounds {context_id : String} (filled : (span db context_id).Nonempty) (updated_at : Int)
    (row : CorrelationContext) :
    IsLeast (span db context_id) (refreshed (member_times db context_id) updated_at row).first_seen ∧
      IsGreatest (span db context_id) (refreshed (member_times db context_id) updated_at row).last_seen := by
  obtain ⟨t, inside⟩ := filled
  have listed := mem_member_times.mpr inside
  cases least : (member_times db context_id).min? with
  | none => rw [List.min?_eq_none_iff.mp least] at listed; exact absurd listed List.not_mem_nil
  | some first =>
    cases greatest : (member_times db context_id).max? with
    | none => rw [List.max?_eq_none_iff.mp greatest] at listed; exact absurd listed List.not_mem_nil
    | some last =>
      obtain ⟨firstInside, below⟩ := List.min?_eq_some_iff.mp least
      obtain ⟨lastInside, above⟩ := List.max?_eq_some_iff.mp greatest
      simp only [refreshed, least, greatest]
      refine ⟨⟨mem_member_times.mp firstInside, ?_⟩, ⟨mem_member_times.mp lastInside, ?_⟩⟩
      · intro other member; exact below other (mem_member_times.mpr member)
      · intro other member; exact above other (mem_member_times.mpr member)
end

/-! ### Each step keeps the invariant -/

section
variable {db db' : Database} {alert_id : UUID} {peers : List Qualified} {received : Int} {target_id : String}
  {alert : Alert} {window : Window}

private theorem group_of_stored {id : UUID} {row : Alert} (inside : row ∈ db.alerts.rows) (key : row.alert_id = id) :
    group_of db id = some row.dedupe_group_key := by
  rw [group_of, Table.get_eq_some.mpr ⟨inside, key⟩]; rfl

private theorem mem_stored_evidence {peer_alert_id : UUID} {items : List EvidenceItem} {item : CorrelationEvidenceItem}
    (inside : item ∈ stored_evidence peer_alert_id items) : item.peer_alert_id = peer_alert_id := by
  obtain ⟨_, _, rfl⟩ := List.mem_map.mp inside
  rfl

theorem linked_coherent (coherent : Coherent db) (found : db.alerts.get alert_id = some alert)
    (qualified : peers = qualifying alert (candidates db received window alert_id alert.dedupe_group_key))
    (some_peer : peers ≠ []) (linked : Linked db alert_id peers received target_id db') : Coherent db' := by
  have alerts := linked.untouched.alerts
  have groups : ∀ id, group_of db' id = group_of db id := by intro id; rw [group_of, alerts, group_of]
  have apart : ∀ peer ∈ peers, peer.1 ∈ db.alerts.rows ∧ peer.1.alert_id ≠ alert_id ∧
      group_of db peer.1.alert_id ≠ group_of db alert_id := by
    intro peer inside
    rw [qualified] at inside
    obtain ⟨stored, other, group, _⟩ := mem_qualifying.mp inside
    refine ⟨stored, other, ?_⟩
    rw [group_of_stored stored rfl, group_of, found, Option.map_some]
    exact fun same => group (Option.some.inj same)
  have joined : ∀ id, (id = alert_id ∨ ∃ peer ∈ peers, peer.1.alert_id = id) →
      ∃ member ∈ db'.correlation_members.rows, member.alert_id = id ∧ member.context_id = target_id :=
    fun id joining => joins linked joining
  refine ⟨?_, ?_, ?_, ?_, ?_, ?_⟩
  · intro member inside
    rw [alerts]
    rcases (linked.members member).mp inside with ⟨old, stored, rfl⟩ | new
    · rw [relabelled_alert_id]; exact coherent.stored old stored
    · rcases mem_new_members.mp new with ⟨peer, first, _, rfl⟩ | rfl
      · exact ⟨peer.1, Table.get_of_mem (apart peer first).1⟩
      · exact ⟨alert, found⟩
  · intro member inside other inside' same
    rw [Table.eq_of_key inside inside' same]
  · intro context inside
    rcases linked.contexts context inside with ⟨_, rfl, here⟩ | ⟨old, uninvolved, other⟩
    · obtain ⟨peer, first⟩ := List.exists_mem_of_ne_nil peers some_peer
      obtain ⟨member, stored, key, same⟩ := joined alert_id (.inl rfl)
      obtain ⟨member', stored', key', same'⟩ := joined peer.1.alert_id (.inr ⟨peer, first, rfl⟩)
      rw [refreshed_context_id, here]
      exact ⟨member, stored, member', stored', by rw [key, key']; exact (apart peer first).2.1.symm, same, same'⟩
    · obtain ⟨member, stored, member', stored', distinct, same, same'⟩ := coherent.sized context old
      exact ⟨member, ((uninvolved_members linked uninvolved other member).mpr ⟨stored, same⟩).1,
        member', ((uninvolved_members linked uninvolved other member').mpr ⟨stored', same'⟩).1, distinct, same, same'⟩
  · intro member inside item listed
    simp only [groups]
    rcases (linked.members member).mp inside with ⟨old, stored, rfl⟩ | new
    · rw [relabelled_evidence] at listed
      obtain ⟨peer, peerStored, key, same, group⟩ := coherent.evidenced old stored item listed
      refine ⟨_, (linked.members _).mpr (.inl ⟨peer, peerStored, rfl⟩), ?_, ?_, ?_⟩
      · rw [relabelled_alert_id]; exact key
      · rw [relabelled_context_id, relabelled_context_id, same]
      · rw [relabelled_alert_id, relabelled_alert_id]; exact group
    · rcases mem_new_members.mp new with ⟨peer, first, _, rfl⟩ | rfl
      · obtain ⟨other, stored, key, same⟩ := joined alert_id (.inl rfl)
        refine ⟨other, stored, key.trans (mem_stored_evidence listed).symm, same, ?_⟩
        rw [key]
        exact (apart peer first).2.2.symm
      · obtain ⟨peer, first, fromPeer⟩ := List.mem_flatMap.mp listed
        obtain ⟨other, stored, key, same⟩ := joined peer.1.alert_id (.inr ⟨peer, first, rfl⟩)
        refine ⟨other, stored, key.trans (mem_stored_evidence fromPeer).symm, same, ?_⟩
        rw [key]
        exact (apart peer first).2.2
  · intro context inside
    rcases linked.contexts context inside with ⟨old, rfl, here⟩ | ⟨old, uninvolved, other⟩
    · obtain ⟨member, stored, key, same⟩ := joined alert_id (.inl rfl)
      have filled : (span db' target_id).Nonempty :=
        ⟨alert.received_at, member, stored, same, alert, by rw [alerts, key]; exact found, rfl⟩
      rw [refreshed_context_id, here]
      exact refreshed_bounds filled received old
    · have same : span db' context.context_id = span db context.context_id := by
        ext t
        simp only [span, Set.mem_ofPred_eq, alerts]
        constructor
        · rintro ⟨member, stored, here, rest⟩
          have both := (uninvolved_members linked uninvolved other member).mp ⟨stored, here⟩
          exact ⟨member, both.1, both.2, rest⟩
        · rintro ⟨member, stored, here, rest⟩
          have both := (uninvolved_members linked uninvolved other member).mpr ⟨stored, here⟩
          exact ⟨member, both.1, both.2, rest⟩
      rw [same]
      exact coherent.bounded context old
  · intro member inside
    rcases (linked.members member).mp inside with ⟨old, stored, rfl⟩ | new
    · by_cases involved : Involved db peers old.context_id
      · rw [relabelled_involved involved]
        exact Table.has_iff.mp linked.has_target
      · rw [relabelled_uninvolved involved]
        obtain ⟨context, present, same⟩ := coherent.known old stored
        rw [← same] at involved ⊢
        exact Table.has_iff.mp (linked.kept context present involved)
    · rcases mem_new_members.mp new with ⟨_, _, _, rfl⟩ | rfl
      · exact Table.has_iff.mp linked.has_target
      · exact Table.has_iff.mp linked.has_target

theorem insert_coherent {alerts : Table Alert.alert_id} {row : Alert} (coherent : Coherent db)
    (inserted : db.alerts.insert row = some alerts) : Coherent { db with alerts } := by
  have kept : ∀ id stored, db.alerts.get id = some stored → alerts.get id = some stored := by
    intro id stored found
    rw [Table.get_insert inserted, if_neg, found]
    rintro rfl
    rw [Table.insert_fresh inserted] at found
    contradiction
  have same : ∀ member ∈ db.correlation_members.rows, alerts.get member.alert_id = db.alerts.get member.alert_id := by
    intro member inside
    obtain ⟨stored, found⟩ := coherent.stored member inside
    rw [kept _ _ found, found]
  refine ⟨?_, coherent.single, coherent.sized, ?_, ?_, coherent.known⟩
  · intro member inside
    obtain ⟨stored, found⟩ := coherent.stored member inside
    exact ⟨stored, kept _ _ found⟩
  · intro member inside item listed
    obtain ⟨peer, stored, key, here, group⟩ := coherent.evidenced member inside item listed
    refine ⟨peer, stored, key, here, ?_⟩
    simpa only [group_of, same peer stored, same member inside] using group
  · intro context inside
    have unchanged : span { db with alerts } context.context_id = span db context.context_id := by
      ext t
      simp only [span, Set.mem_ofPred_eq]
      constructor
      · rintro ⟨member, stored, here, alert, found, time⟩
        exact ⟨member, stored, here, alert, (same member stored).symm.trans found, time⟩
      · rintro ⟨member, stored, here, alert, found, time⟩
        exact ⟨member, stored, here, alert, (same member stored).trans found, time⟩
    rw [unchanged]
    exact coherent.bounded context inside
end

/-- One insertion or one correlate call keeps the invariant. -/
theorem step_coherent (window : Window) (db : Database) (event : Event) (coherent : Coherent db) :
    Coherent (step window db event) := by
  cases event with
  | insert row =>
    rw [step]
    cases inserted : db.alerts.insert row with
    | none => exact coherent
    | some alerts => exact insert_coherent coherent inserted
  | correlate alert_id received_at fault =>
    rw [step]
    rcases correlate_cases window alert_id received_at fault db with same | ⟨result, db', same, executed⟩
    · rw [same]; exact coherent
    · rw [same]
      rcases decide_and_apply_cases executed with ⟨rfl, _⟩ | ⟨alert, peers, target_id, found, _, qualified, filled, linked⟩
      · exact coherent
      · exact linked_coherent coherent found qualified filled linked

theorem coherent_empty : Coherent {} := by
  constructor <;> intro _ inside <;> exact absurd inside List.not_mem_nil

/-- After every run of insertions and correlate calls the contexts and memberships are coherent. -/
theorem run_coherent (window : Window) (events : List Event) : Coherent (Runs.run (step window) {} events) :=
  Runs.invariant (step_coherent window) coherent_empty events

end SocTriage.CorrelationInvariants
