import SocTriage.Components
import SocTriage.CorrelationInvariants

/-!
The stored contexts are the connected components of the evidence graph: correlating each
alert right after it is persisted, in order of reception, keeps one label for each
nontrivial component.
-/
namespace SocTriage.CorrelationComponents
open Correlation CorrelationInvariants Components Evidence
open Deduplication (Window)

/-- Two alerts an edge joins: distinct groups, at most one window apart, evidence that suffices. -/
def Joined (window : Window) (first second : Alert) : Prop :=
  first.dedupe_group_key ≠ second.dedupe_group_key ∧ |first.received_at - second.received_at| ≤ window.delta ∧
    Related first.normalized_payload second.normalized_payload

theorem Joined.symm {window : Window} {first second : Alert} (joined : Joined window first second) :
    Joined window second first :=
  ⟨joined.1.symm, by rw [abs_sub_comm]; exact joined.2.1, joined.2.2.symm⟩

/-- The graph over the stored alerts, by their ids. -/
def graph (window : Window) (alerts : Table Alert.alert_id) : SimpleGraph UUID where
  Adj a b := ∃ first ∈ alerts.rows, ∃ second ∈ alerts.rows, first.alert_id = a ∧ second.alert_id = b ∧
    Joined window first second
  symm := ⟨fun _ _ ⟨first, inside, second, inside', left, right, joined⟩ =>
    ⟨second, inside', first, inside, right, left, joined.symm⟩⟩
  loopless := ⟨fun _ ⟨first, inside, second, inside', left, right, joined⟩ =>
    joined.1 (by rw [Table.eq_of_key inside inside' (left.trans right.symm)])⟩

/-- One alert persisted and correlated. A refused insert is a failure of the storage. -/
def arrive (window : Window) (db : Database) (row : Alert) : Except Error (Option CorrelationResult) × Database :=
  match db.alerts.insert row with
  | none => (.error (.storage "persistent storage operation failed"), db)
  | some alerts => correlate window row.alert_id (Datetime.of_instant row.received_at) false { db with alerts }

/-- What is stored after an alert came. -/
def arrived (window : Window) (db : Database) (row : Alert) : Database := (arrive window db row).2

def storage_failed {α : Type} : Except Error α → Bool
  | .error (.storage _) => true
  | _ => false

/-- An alert that no stored alert was received after, persisted and correlated without a failure of the storage. -/
def Arrives (window : Window) (db : Database) (row : Alert) : Prop :=
  (∀ earlier ∈ db.alerts.rows, earlier.received_at ≤ row.received_at) ∧ storage_failed (arrive window db row).1 = false

instance (window : Window) (db : Database) (row : Alert) : Decidable (Arrives window db row) :=
  inferInstanceAs (Decidable (_ ∧ _))

/-- The contexts label the components, and their ids are those of the sequence. -/
structure Tracks (window : Window) (db : Database) : Prop where
  coherent : Coherent db
  labels : Labels (graph window db.alerts) (context_of db)
  numbered : ∀ context ∈ db.correlation_contexts.rows, Sequenced "CORR" context.context_id

section
variable {window : Window} {db db' : Database} {alerts : Table Alert.alert_id} {row : Alert}

/-- The peers of an arriving alert: the ids of its qualifying candidates. -/
def peersOf (window : Window) (db : Database) (row : Alert) : Set UUID :=
  {id | ∃ peer ∈ qualifying row (candidates db row.received_at window row.alert_id row.dedupe_group_key),
    peer.1.alert_id = id}

/-- The qualifying candidates of the latest alert are the stored alerts an edge joins it with. -/
private theorem mem_peersOf (latest : ∀ other ∈ db.alerts.rows, other.received_at ≤ row.received_at)
    (stored : row ∈ db.alerts.rows) {id : UUID} :
    id ∈ peersOf window db row ↔ ∃ other ∈ db.alerts.rows, other.alert_id = id ∧ Joined window row other := by
  constructor
  · rintro ⟨peer, inside, rfl⟩
    obtain ⟨stored', _, group, low, high, _, related⟩ := mem_qualifying.mp inside
    refine ⟨peer.1, stored', rfl, group.symm, ?_, related⟩
    rw [abs_le]
    constructor <;> omega
  · rintro ⟨other, stored', rfl, group, near, related⟩
    have distinct : other.alert_id ≠ row.alert_id := fun same => group (by rw [Table.eq_of_key stored stored' same.symm])
    have bounds := abs_le.mp near
    have low : row.received_at - window.delta ≤ other.received_at := by omega
    exact ⟨(other, pairwise_evidence row.normalized_payload other.normalized_payload),
      mem_qualifying.mpr ⟨stored', distinct, group.symm, low, latest other stored', rfl, related⟩, rfl⟩

/-- An arriving alert brings the edges to its qualifying candidates, and no others. -/
private theorem graph_extends (inserted : db.alerts.insert row = some alerts)
    (latest : ∀ earlier ∈ db.alerts.rows, earlier.received_at ≤ row.received_at) :
    Extends (graph window db.alerts) (graph window alerts) row.alert_id (peersOf window { db with alerts } row) := by
  have fresh : ∀ old ∈ db.alerts.rows, old.alert_id ≠ row.alert_id := Table.get_eq_none.mp (Table.insert_fresh inserted)
  have member : ∀ other, other ∈ alerts.rows ↔ other ∈ db.alerts.rows ∨ other = row := fun _ => Table.mem_insert inserted
  have latest' : ∀ other ∈ alerts.rows, other.received_at ≤ row.received_at := by
    intro other inside
    rcases (member other).mp inside with old | rfl
    · exact latest other old
    · exact Int.le_refl _
  have peer_iff := fun id => @mem_peersOf window { db with alerts } row latest' ((member row).mpr (.inr rfl)) id
  constructor
  · rintro b ⟨first, inside, _, _, same, _⟩
    exact fresh first inside same
  · intro a b
    rw [peer_iff, peer_iff]
    constructor
    · rintro ⟨first, inside, second, inside', rfl, rfl, joined⟩
      rcases (member first).mp inside with old | rfl
      · rcases (member second).mp inside' with old' | rfl
        · exact .inl ⟨first, old, second, old', rfl, rfl, joined⟩
        · exact .inr (.inr ⟨rfl, first, inside, rfl, joined.symm⟩)
      · exact .inr (.inl ⟨rfl, second, inside', rfl, joined⟩)
    · rintro (⟨first, inside, second, inside', left, right, joined⟩ | ⟨rfl, other, inside, rfl, joined⟩ |
        ⟨rfl, other, inside, rfl, joined⟩)
      · exact ⟨first, (member first).mpr (.inl inside), second, (member second).mpr (.inl inside'), left, right, joined⟩
      · exact ⟨row, (member row).mpr (.inr rfl), other, inside, rfl, rfl, joined⟩
      · exact ⟨other, inside, row, (member row).mpr (.inr rfl), rfl, rfl, joined.symm⟩
end

/-! ### What a linking call does to the labels -/

section
variable {db db' : Database} {alert_id : UUID} {peers : List Qualified} {received : Int} {target_id : String}

/-- Everything the new edges connect is labelled with the target. -/
private theorem context_of_touched (linked : Linked db alert_id peers received target_id db') {id : UUID}
    (touched : Touched (context_of db) alert_id {id | ∃ peer ∈ peers, peer.1.alert_id = id} id) :
    context_of db' id = some target_id := by
  rcases touched with rfl | inside | ⟨_, ⟨peer, inside, rfl⟩, context_id, named, same⟩
  · exact context_of_eq_some.mpr (joins linked (.inl rfl))
  · exact context_of_eq_some.mpr (joins linked (.inr inside))
  · obtain ⟨old, stored, rfl, rfl⟩ := context_of_eq_some.mp same
    have involved : Involved db peers old.context_id := ⟨peer, inside, named⟩
    exact context_of_eq_some.mpr ⟨_, (linked.members _).mpr (.inl ⟨old, stored, rfl⟩), relabelled_alert_id _ _,
      relabelled_involved involved⟩

/-- The rest keeps its labels. -/
private theorem context_of_untouched (linked : Linked db alert_id peers received target_id db') {id : UUID}
    (untouched : ¬ Touched (context_of db) alert_id {id | ∃ peer ∈ peers, peer.1.alert_id = id} id) :
    context_of db' id = context_of db id := by
  have uninvolved : ∀ old ∈ db.correlation_members.rows, old.alert_id = id → ¬ Involved db peers old.context_id := by
    rintro old stored rfl ⟨peer, inside, named⟩
    have same : context_of db old.alert_id = some old.context_id := context_of_eq_some.mpr ⟨old, stored, rfl, rfl⟩
    exact untouched (.inr (.inr ⟨peer.1.alert_id, ⟨peer, inside, rfl⟩, old.context_id, named, same⟩))
  apply Option.ext
  intro context_id
  rw [context_of_eq_some, context_of_eq_some]
  constructor
  · rintro ⟨member, inside, rfl, rfl⟩
    rcases (linked.members member).mp inside with ⟨old, stored, rfl⟩ | new
    · rw [relabelled_alert_id] at uninvolved ⊢
      rw [relabelled_uninvolved (uninvolved old stored rfl)]
      exact ⟨old, stored, rfl, rfl⟩
    · rcases mem_new_members.mp new with ⟨peer, first, _, rfl⟩ | rfl
      · exact absurd (.inr (.inl ⟨peer, first, rfl⟩)) untouched
      · exact absurd (.inl rfl) untouched
  · rintro ⟨old, stored, key, same⟩
    exact ⟨old, (linked.members old).mpr (.inl ⟨old, stored, (relabelled_uninvolved (uninvolved old stored key)).symm⟩),
      key, same⟩

/-- A linking call keeps the labels of the graph the alert came to. -/
private theorem linked_labels {G H : SimpleGraph UUID} (coherent : Coherent db) (labels : Labels G (context_of db))
    (extends' : Extends G H alert_id {id | ∃ peer ∈ peers, peer.1.alert_id = id}) (some_peer : peers ≠ [])
    (apart : ∀ peer ∈ peers, peer.1.alert_id ≠ alert_id) (linked : Linked db alert_id peers received target_id db') :
    Labels H (context_of db') := by
  obtain ⟨first, inside⟩ := List.exists_mem_of_ne_nil peers some_peer
  refine labels.extend extends' ⟨_, first, inside, rfl⟩ ?_ ?_ (fun id => context_of_touched linked)
    (fun id => context_of_untouched linked)
  · rintro ⟨peer, inside, same⟩
    exact apart peer inside same
  · rcases linked.target with ⟨peer, inside, named⟩ | ⟨_, fresh, _⟩
    · exact .inl ⟨_, ⟨peer, inside, rfl⟩, named⟩
    · right
      intro id named
      obtain ⟨member, stored, _, same⟩ := context_of_eq_some.mp named
      obtain ⟨context, present, key⟩ := coherent.known member stored
      exact Table.get_eq_none.mp fresh context present (key.trans same)

private theorem linked_numbered (coherent : Coherent db)
    (numbered : ∀ context ∈ db.correlation_contexts.rows, Sequenced "CORR" context.context_id)
    (linked : Linked db alert_id peers received target_id db') :
    ∀ context ∈ db'.correlation_contexts.rows, Sequenced "CORR" context.context_id := by
  intro context inside
  rcases linked.contexts context inside with ⟨_, rfl, here⟩ | ⟨old, _, _⟩
  · rw [refreshed_context_id, here]
    rcases linked.target with ⟨peer, _, named⟩ | ⟨_, _, sequenced⟩
    · obtain ⟨member, stored, _, same⟩ := context_of_eq_some.mp named
      obtain ⟨context, present, key⟩ := coherent.known member stored
      rw [← same, ← key]
      exact numbered context present
    · exact sequenced
  · exact numbered context old
end

/-! ### Runs -/

section
variable {window : Window} {db : Database} {row : Alert}

private theorem arrive_tracks (tracks : Tracks window db) (arrives : Arrives window db row) :
    Tracks window (arrived window db row) ∧ (arrived window db row).alerts.rows = db.alerts.rows ++ [row] := by
  obtain ⟨latest, stored⟩ := arrives
  rw [arrive] at stored
  rw [arrived, arrive]
  cases inserted : db.alerts.insert row with
  | none => rw [inserted] at stored; contradiction
  | some alerts =>
    rw [inserted] at stored
    dsimp only at stored ⊢
    have zoned : (Datetime.of_instant row.received_at).aware = true := rfl
    have coherent := insert_coherent tracks.coherent inserted
    have extends' : Extends (graph window db.alerts) (graph window alerts) row.alert_id
        (peersOf window { db with alerts } row) := graph_extends inserted latest
    cases executed : decide_and_apply window row.alert_id (Datetime.of_instant row.received_at).instant
        { db with alerts } with
    | error e =>
      have known : ∀ member ∈ db.correlation_members.rows, db.correlation_contexts.has member.context_id = true :=
        fun member inside => Table.has_iff.mpr (tracks.coherent.known member inside)
      have storage := @raises_decide_and_apply { db with alerts } known tracks.numbered window row.alert_id _ e executed
      rw [correlate_failed zoned executed, storage] at stored
      contradiction
    | ok value =>
      obtain ⟨result, after⟩ := value
      rw [correlate_committed zoned executed]
      rw [Datetime.instant_of_instant] at executed
      have found : alerts.get row.alert_id = some row :=
        Table.get_eq_some.mpr ⟨(Table.mem_insert inserted).mpr (.inr rfl), rfl⟩
      rcases decide_and_apply_cases executed with ⟨rfl, unqualified⟩ |
        ⟨alert, peers, target_id, found', _, qualified, filled, linked⟩
      · have free : membership_for_alert { db with alerts } row.alert_id = none := by
          refine Table.get_eq_none.mpr (fun member inside same => ?_)
          obtain ⟨stored, found⟩ := tracks.coherent.stored member inside
          rw [same, Table.insert_fresh inserted] at found
          contradiction
        have none_qualifies := unqualified row found free
        refine ⟨⟨coherent, tracks.labels.congr (fun a b => ?_), tracks.numbered⟩, Table.insert_rows inserted⟩
        rw [extends'.adj]
        simp only [peersOf, none_qualifies, List.not_mem_nil, false_and, exists_false, Set.mem_ofPred_eq, and_false,
          or_false]
      · have same : alert = row := Option.some.inj (found'.symm.trans found)
        subst same
        have apart : ∀ peer ∈ peers, peer.1.alert_id ≠ alert.alert_id := by
          intro peer inside
          rw [qualified] at inside
          exact (mem_qualifying.mp inside).2.1
        have labels : Labels (graph window alerts) (context_of after) := by
          refine linked_labels coherent tracks.labels ?_ filled apart linked
          rw [qualified]
          exact extends'
        refine ⟨⟨linked_coherent coherent found qualified filled linked, ?_,
          linked_numbered coherent tracks.numbered linked⟩, ?_⟩
        · rw [linked.untouched.alerts]; exact labels
        · rw [linked.untouched.alerts]; exact Table.insert_rows inserted

private theorem run_tracks {rows : List Alert} (tracks : Tracks window db)
    (arriving : Runs.Along (arrived window) (Arrives window) db rows) :
    Tracks window (Runs.run (arrived window) db rows) ∧
      (Runs.run (arrived window) db rows).alerts.rows = db.alerts.rows ++ rows := by
  induction rows generalizing db with
  | nil => exact ⟨tracks, (List.append_nil _).symm⟩
  | cons row rest ih =>
    obtain ⟨arrives, arriving⟩ := arriving
    obtain ⟨tracks, stored⟩ := arrive_tracks tracks arrives
    obtain ⟨tracks, all⟩ := ih tracks arriving
    refine ⟨tracks, all.trans ?_⟩
    rw [stored, List.append_assoc, List.singleton_append]
end

/-- The alerts of a context. -/
def members_of (db : Database) (context : CorrelationContext) : Set UUID :=
  {id | ∃ member ∈ db.correlation_members.rows, member.alert_id = id ∧ member.context_id = context.context_id}

/-- An alert about one source address. -/
def from_source (alert_id group_key agent_id address : String) (received_at : Int) : Alert where
  alert_id := alert_id
  source := "wazuh"
  received_at := received_at
  dedupe_group_key := group_key
  event_identity := alert_id
  rule_id := "5710"
  rule_level := 5
  agent_id := agent_id
  agent_name := agent_id
  normalized_payload := {
    alert_id := alert_id
    received_at := Datetime.of_instant received_at
    source_event := {
      rule := { id := "5710", level := 5, description := "sshd: invalid user" }
      agent := { id := agent_id, name := agent_id } }
    iocs := [{
      type := .IPV4
      value := address
      provenance := [{ field := SOURCE_IP_FIELD, extractor := "typed_field", raw_value := address }] }] }
  created_at := received_at

/-- Three hosts, the first and the last of them attacked from one address. -/
def three_hosts : List Alert :=
  [from_source "a1" "wazuh:5710:001" "001" "203.0.113.7" 0, from_source "a2" "wazuh:5710:002" "002" "198.51.100.4" 1000000,
    from_source "a3" "wazuh:5710:003" "003" "203.0.113.7" 900000000]

example : (Runs.run (arrived ⟨900, by decide⟩) {} three_hosts).correlation_members.rows.map
    (fun member => (member.alert_id, member.context_id)) =
    [("a1", "CORR-1970-01-01-0001"), ("a3", "CORR-1970-01-01-0001")] := by decide

end SocTriage.CorrelationComponents
