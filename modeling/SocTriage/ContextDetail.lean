import Mathlib.Data.Prod.Lex
import SocTriage.Attestation
import SocTriage.Chronology
import SocTriage.Grouping

/-!
A correlation context as it is read: its member alerts, and the evidence that is stored with
them put together by what is shared. Nothing of the evidence is lost on the way, nothing is
added, and what is read tells by itself why the alerts are in one context.
-/
namespace SocTriage.ContextDetail
open Attestation Correlation CorrelationInvariants Evidence
open Chronology (iso)
open Ingest (Pipeline)
open Notifications (N8N)

/-! ### The repository -/

structure CorrelationContextRecord where
  context_id : String
  created_at : Int
  updated_at : Int
  first_seen : Int
  last_seen : Int
  member_count : Nat
deriving DecidableEq

structure CorrelationMemberSummary where
  alert_id : UUID
  received_at : Int
  joined_at : Int
  rule_id : String
  rule_level : Int
  agent_id : String
  agent_name : String
  dedupe_group_key : String
  incident_id : Option String := none
  risk_tier : Option String := none
  decision_action : Option String := none
  evidence : List CorrelationEvidenceItem := []
deriving DecidableEq

def context_to_record (row : CorrelationContext) (member_count : Nat) : CorrelationContextRecord :=
  { row with member_count }

/-- One context with its member count, which is of the memberships alone. -/
def get_context (db : Database) (context_id : String) : Option CorrelationContextRecord :=
  (db.correlation_contexts.get context_id).map (fun row =>
    context_to_record row (db.correlation_members.rows.countP (fun member => member.context_id = context_id)))

def context_for_alert (db : Database) (alert_id : UUID) : Option CorrelationContextRecord :=
  (membership_for_alert db alert_id).bind (fun membership => get_context db membership.context_id)

/-- A member of a context with its alert of record. -/
def summary (member : CorrelationMember) (alert : Alert) : CorrelationMemberSummary where
  alert_id := member.alert_id
  received_at := alert.received_at
  joined_at := member.joined_at
  rule_id := alert.rule_id
  rule_level := alert.rule_level
  agent_id := alert.agent_id
  agent_name := alert.agent_name
  dedupe_group_key := alert.dedupe_group_key
  incident_id := alert.incident_id
  risk_tier := alert.normalized_payload.risk.map (fun risk => risk.tier.value)
  decision_action := alert.normalized_payload.decision.map (fun decision => decision.action.value)
  evidence := member.evidence

/-- `(received_at, alert_id)`, compared as a tuple. -/
def arrival (member : CorrelationMemberSummary) : Lex (Int × UUID) := toLex (member.received_at, member.alert_id)

def by_arrival (a b : CorrelationMemberSummary) : Prop := arrival a ≤ arrival b

instance : DecidableRel by_arrival := fun _ _ => inferInstanceAs (Decidable (_ ≤ _))
instance : Std.Total by_arrival := ⟨fun a b => le_total (arrival a) (arrival b)⟩
instance : IsTrans CorrelationMemberSummary by_arrival := ⟨fun _ _ _ => le_trans⟩

/-- The memberships of a context joined with their alerts, oldest received first. -/
def members (db : Database) (context_id : String) : List CorrelationMemberSummary :=
  ((db.correlation_members.rows.filter (fun member => member.context_id = context_id)).filterMap (fun member =>
    (db.alerts.get member.alert_id).map (summary member))).insertionSort by_arrival

/-! ### The serializers -/

def EVIDENCE_TYPE_ORDER : List EvidenceType :=
  [.SAME_AGENT, .SAME_RULE, .SHARED_TECHNIQUE, .SHARED_SOURCE_IP, .SHARED_DESTINATION_IP, .SHARED_IOC]

/-- The type of a stored value, if it is a known one. -/
def typed (evidence_type : String) : Option EvidenceType :=
  EVIDENCE_TYPE_ORDER.find? (fun known => known.value = evidence_type)

def evidence_reason (evidence_type value : String) : String :=
  match typed evidence_type with
  | none => "shared " ++ evidence_type ++ " " ++ value
  | some known => known.reason_template value

/-- Type order, then value; an unknown stored type is last. -/
def evidence_sort_key (pair : String × String) : Lex (Nat × String) :=
  toLex (((typed pair.1).map EvidenceType.order).getD EVIDENCE_TYPE_ORDER.length, pair.2)

structure CorrelationMemberEvidenceRead where
  evidence_type : String
  value : String
  reason : String
  peer_alert_id : String
deriving DecidableEq

structure CorrelationMemberRead where
  alert_id : String
  received_at : String
  joined_at : String
  rule_id : String
  rule_level : Int
  agent_id : String
  agent_name : String
  dedupe_group_key : String
  incident_id : Option String := none
  risk_tier : Option String := none
  decision_action : Option String := none
  evidence : List CorrelationMemberEvidenceRead := []
deriving DecidableEq

structure CorrelationEvidenceRead where
  evidence_type : String
  value : String
  reason : String
  related_alert_ids : List String
  first_seen : String
  last_seen : String
deriving DecidableEq

structure CorrelationContextDetailRead where
  context_id : String
  created_at : String
  updated_at : String
  first_seen : String
  last_seen : String
  member_count : Nat
  members : List CorrelationMemberRead := []
  evidence : List CorrelationEvidenceRead := []
deriving DecidableEq

def member_evidence_read (item : CorrelationEvidenceItem) : CorrelationMemberEvidenceRead :=
  ⟨item.evidence_type, item.value, evidence_reason item.evidence_type item.value, item.peer_alert_id⟩

def correlation_member_read (member : CorrelationMemberSummary) : CorrelationMemberRead where
  alert_id := member.alert_id
  received_at := iso member.received_at
  joined_at := iso member.joined_at
  rule_id := member.rule_id
  rule_level := member.rule_level
  agent_id := member.agent_id
  agent_name := member.agent_name
  dedupe_group_key := member.dedupe_group_key
  incident_id := member.incident_id
  risk_tier := member.risk_tier
  decision_action := member.decision_action
  evidence := member.evidence.map member_evidence_read

/-- The entry of the dictionary by alert id: that of the last row. -/
def received (member_rows : List CorrelationMemberSummary) (alert_id : UUID) : Option Int :=
  (member_rows.reverse.find? (fun member => member.alert_id = alert_id)).map CorrelationMemberSummary.received_at

/-- What one evidence item puts into the set of its type and value: the member and its peer. -/
def relates (member : CorrelationMemberSummary) (item : CorrelationEvidenceItem) : List ((String × String) × UUID) :=
  [((item.evidence_type, item.value), member.alert_id), ((item.evidence_type, item.value), item.peer_alert_id)]

def aggregated (member_rows : List CorrelationMemberSummary) : List ((String × String) × List UUID) :=
  Grouping.group (member_rows.flatMap (fun member => member.evidence.flatMap (relates member)))

def by_evidence_key (a b : (String × String) × List UUID) : Prop := evidence_sort_key a.1 ≤ evidence_sort_key b.1

instance : DecidableRel by_evidence_key := fun _ _ => inferInstanceAs (Decidable (_ ≤ _))
instance : Std.Total by_evidence_key := ⟨fun a b => le_total (evidence_sort_key a.1) (evidence_sort_key b.1)⟩
instance : IsTrans ((String × String) × List UUID) by_evidence_key := ⟨fun _ _ _ => le_trans⟩

def evidence_read (member_rows : List CorrelationMemberSummary) (entry : (String × String) × List UUID) :
    CorrelationEvidenceRead :=
  let related_ids := sorted_set (entry.2.filter (fun alert_id => (received member_rows alert_id).isSome))
  let timestamps := related_ids.filterMap (received member_rows)
  { evidence_type := entry.1.1
    value := entry.1.2
    reason := evidence_reason entry.1.1 entry.1.2
    related_alert_ids := related_ids
    first_seen := (timestamps.min?.map iso).getD ""
    last_seen := (timestamps.max?.map iso).getD "" }

def correlation_detail_from_records (context : CorrelationContextRecord) (members : List CorrelationMemberSummary) :
    CorrelationContextDetailRead :=
  let member_rows := members.insertionSort by_arrival
  { context_id := context.context_id
    created_at := iso context.created_at
    updated_at := iso context.updated_at
    first_seen := iso context.first_seen
    last_seen := iso context.last_seen
    member_count := member_rows.length
    members := member_rows.map correlation_member_read
    evidence := ((aggregated member_rows).insertionSort by_evidence_key).map (evidence_read member_rows) }

/-- One context in detail; an unknown one is answered with a 404. -/
def get_correlation (db : Database) (context_id : String) : Option CorrelationContextDetailRead :=
  (get_context db context_id).map (fun context => correlation_detail_from_records context (members db context_id))

/-! ### The members -/

section
variable {db : Database} {context_id : String}

theorem mem_members {read : CorrelationMemberSummary} : read ∈ members db context_id ↔
    ∃ member ∈ db.correlation_members.rows, member.context_id = context_id ∧
      ∃ alert, db.alerts.get member.alert_id = some alert ∧ summary member alert = read := by
  simp only [members, List.mem_insertionSort, List.mem_filterMap, List.mem_filter, decide_eq_true_eq, Option.map_eq_some_iff,
    and_assoc]

/-- Each membership is read, by its alert. -/
private theorem member_ids (coherent : Coherent db) : ((members db context_id).map CorrelationMemberSummary.alert_id).Perm
    ((db.correlation_members.rows.filter (fun member => member.context_id = context_id)).map CorrelationMember.alert_id) := by
  refine ((List.perm_insertionSort by_arrival _).map _).trans (List.Perm.of_eq ?_)
  rw [List.map_filterMap, ← List.filterMap_eq_map]
  refine List.filterMap_congr (fun member inside => ?_)
  obtain ⟨alert, found⟩ := coherent.stored member (List.mem_filter.mp inside).1
  rw [found]
  rfl

theorem ids_distinct (coherent : Coherent db) :
    ((members db context_id).map CorrelationMemberSummary.alert_id).Nodup := by
  refine (member_ids coherent).nodup_iff.mpr ?_
  exact db.correlation_members.unique.sublist (List.filter_sublist.map _)

private theorem members_sorted (db : Database) (context_id : String) :
    (members db context_id).insertionSort by_arrival = members db context_id :=
  List.Pairwise.insertionSort_eq (List.pairwise_insertionSort by_arrival _)

private theorem received_member (coherent : Coherent db) {read : CorrelationMemberSummary}
    (listed : read ∈ members db context_id) : received (members db context_id) read.alert_id = some read.received_at := by
  have distinct := @ids_distinct db context_id coherent
  rw [received]
  cases found : (members db context_id).reverse.find? (fun member => member.alert_id = read.alert_id) with
  | none => exact absurd (List.find?_eq_none.mp found read (List.mem_reverse.mpr listed)) (by simp)
  | some other =>
    have same : other = read :=
      List.inj_on_of_nodup_map distinct (List.mem_reverse.mp (List.mem_of_find?_eq_some found)) listed
      (by simpa using List.find?_some found)
    rw [same, Option.map_some]

private theorem received_iff (coherent : Coherent db) {alert_id : UUID} : 
    (received (members db context_id) alert_id).isSome = true ↔ context_of db alert_id = some context_id := by
  rw [context_of_eq_some]
  constructor
  · intro known
    obtain ⟨_, time⟩ := Option.isSome_iff_exists.mp known
    obtain ⟨read, found, _⟩ := Option.map_eq_some_iff.mp time
    obtain ⟨member, stored, here, alert, _, rfl⟩ := mem_members.mp (List.mem_reverse.mp (List.mem_of_find?_eq_some found))
    have key := List.find?_some found
    exact ⟨member, stored, of_decide_eq_true key, here⟩
  · rintro ⟨member, stored, rfl, here⟩
    obtain ⟨alert, found⟩ := coherent.stored member stored
    exact Option.isSome_iff_exists.mpr
      ⟨_, received_member coherent (mem_members.mpr ⟨member, stored, here, alert, found, rfl⟩)⟩

/-! ### The evidence -/

/-- Some evidence of a type and value is stored with a member, of it or naming it. -/
def Relates (db : Database) (context_id : String) (pair : String × String) (alert_id : UUID) : Prop :=
  ∃ member ∈ db.correlation_members.rows, member.context_id = context_id ∧ ∃ item ∈ member.evidence,
    (item.evidence_type, item.value) = pair ∧ (alert_id = member.alert_id ∨ alert_id = item.peer_alert_id)

private theorem entered_iff (coherent : Coherent db) {pair : String × String} {alert_id : UUID} :
    (pair, alert_id) ∈ (members db context_id).flatMap (fun member => member.evidence.flatMap (relates member)) ↔
      Relates db context_id pair alert_id := by
  simp only [List.mem_flatMap, relates, List.mem_cons, List.not_mem_nil, or_false, Prod.mk.injEq, ← and_or_left, Relates]
  constructor
  · rintro ⟨read, listed, item, held, same, named⟩
    obtain ⟨member, stored, here, alert, _, rfl⟩ := mem_members.mp listed
    exact ⟨member, stored, here, item, held, same.symm, named⟩
  · rintro ⟨member, stored, here, item, held, same, named⟩
    obtain ⟨alert, found⟩ := coherent.stored member stored
    have listed := mem_members.mpr ⟨member, stored, here, alert, found, rfl⟩
    exact ⟨summary member alert, listed, item, held, same.symm, named⟩

/-- Whatever evidence relates is a member. -/
theorem related_member (coherent : Coherent db) {pair : String × String} {alert_id : UUID}
    (related : Relates db context_id pair alert_id) : context_of db alert_id = some context_id := by
  rw [context_of_eq_some]
  obtain ⟨member, stored, here, item, held, -, rfl | rfl⟩ := related
  · exact ⟨member, stored, rfl, here⟩
  · obtain ⟨peer, stored', key, same, -⟩ := coherent.evidenced member stored item held
    exact ⟨peer, stored', key, same.trans here⟩

/-- An evidence row relates exactly the alerts that the stored evidence does. -/
private theorem related_iff (coherent : Coherent db) {entry : (String × String) × List UUID}
    (listed : entry ∈ aggregated (members db context_id)) (alert_id : UUID) :
    alert_id ∈ (evidence_read (members db context_id) entry).related_alert_ids ↔ Relates db context_id entry.1 alert_id := by
  have held := (Grouping.groups_group _).row_mem listed alert_id
  rw [entered_iff coherent] at held
  simp only [evidence_read, mem_sorted_set, List.mem_filter, held, and_iff_left_iff_imp]
  exact fun related => (received_iff coherent).mpr (related_member coherent related)

private theorem typed_value (known : EvidenceType) : typed known.value = some known := by
  cases known <;> decide

private theorem order_injective {known other : EvidenceType} (same : known.order = other.order) : known = other := by
  cases known <;> cases other <;> first | rfl | exact absurd same (by decide)

/-- Pairs of known types are told apart by their place. -/
private theorem sort_key_injective {pair other : String × String} (known : ∃ type : EvidenceType, pair.1 = type.value)
    (known' : ∃ type : EvidenceType, other.1 = type.value) (same : evidence_sort_key pair = evidence_sort_key other) :
    pair = other := by
  obtain ⟨type, first⟩ := known
  obtain ⟨type', first'⟩ := known'
  obtain ⟨place, value⟩ := Prod.mk.inj (toLex.injective same)
  rw [first, first', typed_value, typed_value] at place
  exact Prod.ext (by rw [first, first', order_injective place]) value

private theorem entry_related (coherent : Coherent db) {entry : (String × String) × List UUID}
    (listed : entry ∈ aggregated (members db context_id)) : ∃ alert_id, Relates db context_id entry.1 alert_id := by
  have groups := Grouping.groups_group
    ((members db context_id).flatMap (fun member => member.evidence.flatMap (relates member)))
  obtain ⟨alert_id, inside⟩ := List.exists_mem_of_ne_nil _ (groups.inhabited entry listed)
  exact ⟨alert_id, (entered_iff coherent).mp ((groups.row_mem listed alert_id).mp inside)⟩

/-- The rows are in the order of their types and values, each pair once. -/
private theorem evidence_ordered (coherent : Coherent db) (attested : Attested db) :
    ((aggregated (members db context_id)).insertionSort by_evidence_key).Pairwise (fun a b =>
      evidence_sort_key a.1 < evidence_sort_key b.1) := by
  have known : ∀ entry ∈ (aggregated (members db context_id)).insertionSort by_evidence_key,
      ∃ type : EvidenceType, entry.1.1 = type.value := by
    intro entry inside
    obtain ⟨_, member, stored, _, item, held, same, _⟩ := entry_related coherent ((List.mem_insertionSort _).mp inside)
    obtain ⟨type, value⟩ := attested.typed member stored item held
    exact ⟨type, by rw [← same, value]⟩
  have distinct : ((aggregated (members db context_id)).insertionSort by_evidence_key).Pairwise (fun a b => a.1 ≠ b.1) := by
    refine List.pairwise_map.mp (((List.perm_insertionSort by_evidence_key _).map _).nodup_iff.mpr ?_)
    exact (Grouping.groups_group _).keys
  refine List.Pairwise.imp_of_mem (fun inside inside' both => ?_)
    ((List.pairwise_insertionSort by_evidence_key (aggregated (members db context_id))).and distinct)
  exact lt_of_le_of_ne both.1 (fun same => both.2 (sort_key_injective (known _ inside) (known _ inside') same))

/-- When some alerts were received. -/
def times (db : Database) (alert_ids : List UUID) : Set Int :=
  {t | ∃ alert_id ∈ alert_ids, (db.alerts.get alert_id).map Alert.received_at = some t}

private theorem received_alert (coherent : Coherent db) {alert_id : UUID} (here : context_of db alert_id = some context_id) :
    received (members db context_id) alert_id = (db.alerts.get alert_id).map Alert.received_at := by
  obtain ⟨member, stored, rfl, same⟩ := context_of_eq_some.mp here
  obtain ⟨alert, found⟩ := coherent.stored member stored
  rw [found]
  exact received_member coherent (mem_members.mpr ⟨member, stored, same, alert, found, rfl⟩)

private theorem least_iso {seen : List Int} {span : Set Int} (same : ∀ t, t ∈ seen ↔ t ∈ span) (filled : span.Nonempty) :
    ∃ least greatest, IsLeast span least ∧ IsGreatest span greatest ∧ (seen.min?.map iso).getD "" = iso least ∧
      (seen.max?.map iso).getD "" = iso greatest := by
  obtain ⟨t, inside⟩ := filled
  have listed := (same t).mpr inside
  cases lowest : seen.min? with
  | none => rw [List.min?_eq_none_iff.mp lowest] at listed; exact absurd listed List.not_mem_nil
  | some least =>
    cases highest : seen.max? with
    | none => rw [List.max?_eq_none_iff.mp highest] at listed; exact absurd listed List.not_mem_nil
    | some greatest =>
      obtain ⟨held, below⟩ := List.min?_eq_some_iff.mp lowest
      obtain ⟨held', above⟩ := List.max?_eq_some_iff.mp highest
      exact ⟨least, greatest, ⟨(same least).mp held, fun other member => below other ((same other).mpr member)⟩,
        ⟨(same greatest).mp held', fun other member => above other ((same other).mpr member)⟩, rfl, rfl⟩

/-- The times of a row are those of the alerts it relates. -/
private theorem evidence_spanned (coherent : Coherent db) {entry : (String × String) × List UUID}
    (listed : entry ∈ aggregated (members db context_id)) :
    let row := evidence_read (members db context_id) entry
    ∃ least greatest, IsLeast (times db row.related_alert_ids) least ∧ IsGreatest (times db row.related_alert_ids) greatest ∧
      row.first_seen = iso least ∧ row.last_seen = iso greatest := by
  intro row
  have seen : ∀ t, t ∈ row.related_alert_ids.filterMap (received (members db context_id)) ↔
      t ∈ times db row.related_alert_ids := by
    intro t
    rw [List.mem_filterMap]
    refine exists_congr (fun alert_id => and_congr_right (fun related => ?_))
    rw [received_alert coherent (related_member coherent ((related_iff coherent listed alert_id).mp related))]
  refine least_iso seen ?_
  obtain ⟨alert_id, related⟩ := entry_related coherent listed
  obtain ⟨member, stored, key, -⟩ := context_of_eq_some.mp (related_member coherent related)
  obtain ⟨alert, found⟩ := coherent.stored member stored
  exact ⟨alert.received_at, alert_id, (related_iff coherent listed alert_id).mpr related,
    by rw [← key, found, Option.map_some]⟩

/-- Two alerts that some evidence relates are of different groups. -/
private theorem relates_several (coherent : Coherent db) {pair : String × String} {alert_id : UUID}
    (related : Relates db context_id pair alert_id) : ∃ first second, Relates db context_id pair first ∧
      Relates db context_id pair second ∧ group_of db first ≠ group_of db second := by
  obtain ⟨member, stored, here, item, held, same, -⟩ := related
  obtain ⟨peer, _, key, -, apart⟩ := coherent.evidenced member stored item held
  rw [key] at apart
  exact ⟨item.peer_alert_id, member.alert_id, ⟨member, stored, here, item, held, same, .inr rfl⟩,
    ⟨member, stored, here, item, held, same, .inl rfl⟩, apart⟩

/-- Rows that relate both alerts and that suffice by the policy. -/
def Shown (evidence : List CorrelationEvidenceRead) (first second : UUID) : Prop :=
  ∃ items : List EvidenceItem, is_sufficient items = true ∧ ∀ item ∈ items, ∃ row ∈ evidence,
    (row.evidence_type, row.value) = (item.evidence_type.value, item.value) ∧
      first ∈ row.related_alert_ids ∧ second ∈ row.related_alert_ids

/-- A justified pair is of one context, and shown by it. -/
private theorem justified_shown (coherent : Coherent db) {evidence : List CorrelationEvidenceRead}
    (complete : ∀ {pair first second}, Relates db context_id pair first → Relates db context_id pair second →
      ∃ row ∈ evidence, (row.evidence_type, row.value) = pair ∧
        first ∈ row.related_alert_ids ∧ second ∈ row.related_alert_ids)
    {first second : UUID} (justifies : Justifies db.correlation_members.rows first second) :
    context_of db first = context_of db second ∧ (context_of db first = some context_id → Shown evidence first second) := by
  obtain ⟨member, stored, rfl, items, enough, held⟩ := justifies
  have own : context_of db member.alert_id = some member.context_id := context_of_eq_some.mpr ⟨member, stored, rfl, rfl⟩
  obtain ⟨item, listed⟩ : ∃ item, item ∈ items := by
    refine List.exists_mem_of_ne_nil items ?_
    rintro rfl
    rw [is_sufficient_nil] at enough
    contradiction
  obtain ⟨peer, stored', key, same, -⟩ := coherent.evidenced member stored _ (held item listed)
  refine ⟨own.trans (context_of_eq_some.mpr ⟨peer, stored', key, same⟩).symm,
    fun here => ⟨items, enough, fun item listed => ?_⟩⟩
  have context : member.context_id = context_id := Option.some.inj (own.symm.trans here)
  have stands := held item listed
  exact complete ⟨member, stored, context, _, stands, rfl, .inl rfl⟩ ⟨member, stored, context, _, stands, rfl, .inr rfl⟩

private theorem chain_shown (coherent : Coherent db) {evidence : List CorrelationEvidenceRead}
    (complete : ∀ {pair first second}, Relates db context_id pair first → Relates db context_id pair second →
      ∃ row ∈ evidence, (row.evidence_type, row.value) = pair ∧
        first ∈ row.related_alert_ids ∧ second ∈ row.related_alert_ids)
    {first second : UUID} (chain : Relation.EqvGen (Justifies db.correlation_members.rows) first second) :
    context_of db first = context_of db second ∧
      (context_of db first = some context_id → Relation.EqvGen (Shown evidence) first second) := by
  induction chain with
  | rel first second justifies =>
    obtain ⟨same, shown⟩ := justified_shown coherent complete justifies
    exact ⟨same, fun here => .rel _ _ (shown here)⟩
  | refl first => exact ⟨rfl, fun _ => .refl _⟩
  | symm first second _ ih => exact ⟨ih.1.symm, fun here => (ih.2 (ih.1.trans here)).symm⟩
  | trans first second third _ _ ih ih' =>
    exact ⟨ih.1.trans ih'.1, fun here => (ih.2 here).trans _ _ _ (ih'.2 (ih.1.symm.trans here))⟩
end

/-! ### What a reader is told -/

/-- The detail of a context: each member once, oldest first; the times of the members; each shared attribute once, with its
    reason, exactly the alerts that the stored evidence relates by it, at least two of different groups, and their times;
    and from any member a way to any other by rows that suffice. -/
structure Told (db : Database) (context : CorrelationContext) (detail : CorrelationContextDetailRead) : Prop where
  listed : ∀ alert_id, alert_id ∈ detail.members.map CorrelationMemberRead.alert_id ↔
    context_of db alert_id = some context.context_id
  oldest_first : detail.members = (members db context.context_id).map correlation_member_read ∧
    (members db context.context_id).Pairwise (fun a b => arrival a < arrival b)
  counted : detail.member_count = detail.members.length ∧
    (get_context db context.context_id).map CorrelationContextRecord.member_count = some detail.member_count
  bounded : ∃ least greatest, IsLeast (times db (detail.members.map CorrelationMemberRead.alert_id)) least ∧
    IsGreatest (times db (detail.members.map CorrelationMemberRead.alert_id)) greatest ∧
    detail.first_seen = iso least ∧ detail.last_seen = iso greatest
  keyed : detail.evidence.Pairwise (fun a b =>
    evidence_sort_key (a.evidence_type, a.value) < evidence_sort_key (b.evidence_type, b.value))
  reasoned : ∀ row ∈ detail.evidence, row.reason = evidence_reason row.evidence_type row.value
  exact : ∀ pair alert_id, (∃ row ∈ detail.evidence, (row.evidence_type, row.value) = pair ∧
    alert_id ∈ row.related_alert_ids) ↔ Relates db context.context_id pair alert_id
  several : ∀ row ∈ detail.evidence, ∃ first ∈ row.related_alert_ids, ∃ second ∈ row.related_alert_ids,
    group_of db first ≠ group_of db second
  spanned : ∀ row ∈ detail.evidence, ∃ least greatest, IsLeast (times db row.related_alert_ids) least ∧
    IsGreatest (times db row.related_alert_ids) greatest ∧ row.first_seen = iso least ∧ row.last_seen = iso greatest
  connected : ∀ first second, context_of db first = some context.context_id →
    context_of db second = some context.context_id → Relation.EqvGen (Shown detail.evidence) first second

/-- One row of an attribute that relates two alerts. -/
theorem Told.row {db : Database} {context : CorrelationContext} {detail : CorrelationContextDetailRead}
    (told : Told db context detail) {pair : String × String} {first second : UUID}
    (related : Relates db context.context_id pair first) (related' : Relates db context.context_id pair second) :
    ∃ row ∈ detail.evidence, (row.evidence_type, row.value) = pair ∧ first ∈ row.related_alert_ids ∧
      second ∈ row.related_alert_ids := by
  obtain ⟨row, listed, same, inside⟩ := (told.exact pair first).mpr related
  obtain ⟨row', listed', same', inside'⟩ := (told.exact pair second).mpr related'
  have once : (detail.evidence.map (fun row => evidence_sort_key (row.evidence_type, row.value))).Nodup :=
    List.pairwise_map.mpr (told.keyed.imp ne_of_lt)
  have one : row = row' := List.inj_on_of_nodup_map once listed listed' (by rw [same, same'])
  exact ⟨row, listed, same, inside, one ▸ inside'⟩

section
variable {db : Database} {context_id : String}

private theorem members_strict (coherent : Coherent db) :
    (members db context_id).Pairwise (fun a b => arrival a < arrival b) := by
  have sorted : (members db context_id).Pairwise by_arrival := List.pairwise_insertionSort by_arrival _
  refine (sorted.and (List.pairwise_map.mp (ids_distinct coherent))).imp (fun both => ?_)
  exact lt_of_le_of_ne both.1 (fun same => both.2 (congrArg (fun place => (ofLex place).2) same))

private theorem ids_listed (coherent : Coherent db) (alert_id : UUID) :
    alert_id ∈ ((members db context_id).map correlation_member_read).map CorrelationMemberRead.alert_id ↔
      context_of db alert_id = some context_id := by
  rw [context_of_eq_some, List.map_map]
  show alert_id ∈ (members db context_id).map CorrelationMemberSummary.alert_id ↔ _
  rw [(member_ids coherent).mem_iff, List.mem_map]
  simp only [List.mem_filter, decide_eq_true_eq, and_assoc]
  exact exists_congr (fun member => and_congr_right (fun _ => and_comm))

/-- The times of the members are those that the bounds of the context are of. -/
private theorem times_span {alert_ids : List UUID}
    (listed : ∀ alert_id, alert_id ∈ alert_ids ↔ context_of db alert_id = some context_id) :
    times db alert_ids = span db context_id := by
  ext t
  simp only [times, span, Set.mem_ofPred_eq, listed, context_of_eq_some, Option.map_eq_some_iff]
  constructor
  · rintro ⟨_, ⟨member, stored, rfl, here⟩, seen⟩
    exact ⟨member, stored, here, seen⟩
  · rintro ⟨member, stored, here, seen⟩
    exact ⟨member.alert_id, ⟨member, stored, rfl, here⟩, seen⟩

private theorem row_of {row : CorrelationEvidenceRead}
    (listed : row ∈ ((aggregated (members db context_id)).insertionSort by_evidence_key).map
      (evidence_read (members db context_id))) :
    ∃ entry ∈ aggregated (members db context_id), evidence_read (members db context_id) entry = row := by
  obtain ⟨entry, inside, same⟩ := List.mem_map.mp listed
  exact ⟨entry, (List.mem_insertionSort _).mp inside, same⟩

/-- The row of a pair relates all that the stored evidence does. -/
private theorem row_found (coherent : Coherent db) {pair : String × String} {alert_id : UUID}
    (related : Relates db context_id pair alert_id) :
    ∃ row ∈ ((aggregated (members db context_id)).insertionSort by_evidence_key).map (evidence_read (members db context_id)),
      (row.evidence_type, row.value) = pair ∧
        ∀ alert_id, alert_id ∈ row.related_alert_ids ↔ Relates db context_id pair alert_id := by
  obtain ⟨entry, listed, rfl, -⟩ := ((Grouping.groups_group _).exact pair alert_id).mpr ((entered_iff coherent).mpr related)
  exact ⟨_, List.mem_map_of_mem ((List.mem_insertionSort _).mpr listed), rfl, related_iff coherent listed⟩

/-- A stored context is read, and its detail tells all this. -/
theorem detail_told (coherent : Coherent db) (attested : Attested db) {context : CorrelationContext}
    (inside : context ∈ db.correlation_contexts.rows) :
    ∃ detail, get_correlation db context.context_id = some detail ∧ Told db context detail := by
  have count : (members db context.context_id).length =
      db.correlation_members.rows.countP (fun member => member.context_id = context.context_id) := by
    have same := (@member_ids db context.context_id coherent).length_eq
    rw [List.length_map, List.length_map] at same
    rw [same, List.countP_eq_length_filter]
  have found : get_context db context.context_id = some (context_to_record context
      (db.correlation_members.rows.countP (fun member => member.context_id = context.context_id))) := by
    rw [get_context, Table.get_of_mem inside, Option.map_some]
  refine ⟨correlation_detail_from_records _ (members db context.context_id), by rw [get_correlation, found, Option.map_some],
    ?_⟩
  rw [correlation_detail_from_records, members_sorted]
  refine ⟨ids_listed coherent, ⟨rfl, members_strict coherent⟩, ⟨(List.length_map ..).symm, ?_⟩, ?_, ?_, ?_, ?_, ?_, ?_, ?_⟩
  · rw [found, Option.map_some, count]
    rfl
  · obtain ⟨least, greatest⟩ := coherent.bounded context inside
    rw [← times_span (ids_listed coherent)] at least greatest
    exact ⟨_, _, least, greatest, rfl, rfl⟩
  · exact List.pairwise_map.mpr (evidence_ordered coherent attested)
  · intro row listed
    obtain ⟨entry, _, rfl⟩ := row_of listed
    rfl
  · intro pair alert_id
    constructor
    · rintro ⟨row, listed, rfl, related⟩
      obtain ⟨entry, entered, rfl⟩ := row_of listed
      exact (related_iff coherent entered alert_id).mp related
    · intro related
      obtain ⟨row, listed, same, relates⟩ := row_found coherent related
      exact ⟨row, listed, same, (relates alert_id).mpr related⟩
  · intro row listed
    obtain ⟨entry, entered, rfl⟩ := row_of listed
    obtain ⟨alert_id, related⟩ := entry_related coherent entered
    obtain ⟨first, second, related, related', apart⟩ := relates_several coherent related
    exact ⟨first, (related_iff coherent entered first).mpr related,
      second, (related_iff coherent entered second).mpr related',
      apart⟩
  · intro row listed
    obtain ⟨entry, entered, rfl⟩ := row_of listed
    exact evidence_spanned coherent entered
  · intro first second here here'
    obtain ⟨member, stored, rfl, same⟩ := context_of_eq_some.mp here
    obtain ⟨other, stored', rfl, same'⟩ := context_of_eq_some.mp here'
    refine (chain_shown coherent (fun related related' => ?_)
      (attested.connected member stored other stored' (same.trans same'.symm))).2 here
    obtain ⟨row, listed, shared, relates⟩ := row_found coherent related
    exact ⟨row, listed, shared, (relates _).mpr related, (relates _).mpr related'⟩
end

/-- In every database the service reaches, each context is told so, and any other is answered with a 404. -/
theorem contexts_told (pipeline : Pipeline) (n8n : N8N) (events : List Service.Event) :
    let db := (Service.after pipeline n8n events).db
    (∀ context ∈ db.correlation_contexts.rows, ∃ detail, get_correlation db context.context_id = some detail ∧
      Told db context detail) ∧
    ∀ context_id, db.correlation_contexts.has context_id = false → get_correlation db context_id = none := by
  intro db
  obtain ⟨referenced, attested⟩ := after_attested pipeline n8n events
  refine ⟨fun context inside => detail_told referenced.contexts attested inside, fun context_id unknown => ?_⟩
  rw [get_correlation, get_context, Table.has_eq_false.mp unknown]
  rfl

end SocTriage.ContextDetail
