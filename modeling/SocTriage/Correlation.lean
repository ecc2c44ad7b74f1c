import SocTriage.Database
import SocTriage.Evidence

/-!
Cross-alert correlation: the repository of the contexts and their memberships, and the
service that links one newly recorded alert with its qualifying peers, in one unit of
work. `fault` is a failure of the storage at any statement of it or at its commit.
-/
namespace SocTriage.Correlation
open Audit Evidence
open Deduplication (Window)

structure CorrelationResult where
  context_id : String
  alert_id : UUID
  linked_alert_ids : List UUID
  evidence : List EvidenceItem
  merged_context_ids : List String
deriving DecidableEq, Repr

/-! ### The repository -/

/-- `ORDER BY received_at, alert_id`. -/
def by_received (a b : Alert) : Prop :=
  a.received_at < b.received_at ∨ (a.received_at = b.received_at ∧ a.alert_id ≤ b.alert_id)

instance : DecidableRel by_received := fun _ _ => inferInstanceAs (Decidable (_ ∨ _))

def candidates (db : Database) (received_at : Int) (window : Window) (exclude_alert_id : UUID)
    (exclude_group_key : String) : List Alert :=
  let horizon := received_at - window.delta
  (db.alerts.rows.filter (fun row => row.alert_id ≠ exclude_alert_id ∧ row.dedupe_group_key ≠ exclude_group_key ∧
    row.received_at ≥ horizon ∧ row.received_at ≤ received_at)).insertionSort by_received

def membership_for_alert (db : Database) (alert_id : UUID) : Option CorrelationMember :=
  db.correlation_members.get alert_id

/-- The context an alert is a member of: `context_ids_for_alerts` of one alert. -/
def context_of (db : Database) (alert_id : UUID) : Option String :=
  (db.correlation_members.get alert_id).map CorrelationMember.context_id

def context_for_alert (db : Database) (alert_id : UUID) : Option CorrelationContext :=
  (membership_for_alert db alert_id).bind (fun membership => db.correlation_contexts.get membership.context_id)

/-- The row of a new context. -/
def founded (context_id : String) (timestamp : Int) : CorrelationContext where
  context_id := context_id
  created_at := timestamp
  updated_at := timestamp
  first_seen := timestamp
  last_seen := timestamp

def create_context (db : Database) (occurred_at : Int) : Except Error (String × Database) := do
  let context_id ← next_sequence_id "CORR" (db.correlation_contexts.rows.map CorrelationContext.context_id) occurred_at
  let correlation_contexts ← db.correlation_contexts.insertOrFail (founded context_id occurred_at)
  return (context_id, { db with correlation_contexts })

def add_member (db : Database) (member : CorrelationMember) : Except Error Database := do
  let correlation_members ← db.correlation_members.insertOrFail member
  return { db with correlation_members }

/-- The membership row after a merge. -/
def moved (target_context_id : String) (row : CorrelationMember) : CorrelationMember :=
  { row with context_id := target_context_id }

def move_members (db : Database) (source_context_id target_context_id : String) : Database :=
  { db with
    correlation_members :=
      db.correlation_members.modifyWhere (fun row => row.context_id = source_context_id) (moved target_context_id)
    correlation_contexts := db.correlation_contexts.filter (fun row => row.context_id ≠ source_context_id) }

/-- The reception times of the member alerts of a context. -/
def member_times (db : Database) (context_id : String) : List Int :=
  (db.correlation_members.rows.filter (fun member => member.context_id = context_id)).filterMap (fun member =>
    (db.alerts.get member.alert_id).map Alert.received_at)

/-- The context row after its bounds are recomputed. -/
def refreshed (times : List Int) (updated_at : Int) (row : CorrelationContext) : CorrelationContext :=
  match times.min?, times.max? with
  | some first_seen, some last_seen => { row with first_seen, last_seen, updated_at }
  | _, _ => { row with updated_at }

theorem refreshed_context_id (times : List Int) (updated_at : Int) (row : CorrelationContext) :
    (refreshed times updated_at row).context_id = row.context_id := by
  rw [refreshed]; split <;> rfl

def refresh_bounds (db : Database) (context_id : String) (updated_at : Int) : Except Error Database :=
  match db.correlation_contexts.get context_id with
  | none => .error (.lookup ("correlation context '" ++ context_id ++ "' not found"))
  | some _ =>
    .ok { db with
      correlation_contexts := db.correlation_contexts.modify context_id
        (refreshed (member_times db context_id) updated_at) (refreshed_context_id _ _) }

/-! ### The service -/

/-- A peer and the evidence it shares with the new alert. -/
abbrev Qualified := Alert × List EvidenceItem

def qualifying (alert : Alert) (candidates : List Alert) : List Qualified :=
  candidates.filterMap (fun candidate =>
    let items := pairwise_evidence alert.normalized_payload candidate.normalized_payload
    if !items.isEmpty && is_sufficient items then some (candidate, items) else none)

def stored_evidence (peer_alert_id : UUID) (items : List EvidenceItem) : List CorrelationEvidenceItem :=
  items.map (fun item => ⟨item.evidence_type.value, item.value, peer_alert_id⟩)

/-- The contexts the peers are members of, earliest id first. -/
def involved_contexts (db : Database) (peer_ids : List UUID) : List String :=
  sorted_set (peer_ids.filterMap (context_of db))

/-- The context the alert joins: a new one, or the earliest involved with the others merged into it. -/
def open_target (db : Database) (alert_id : UUID) (peers : List Qualified) (received : Int) :
    Except Error (String × List String × List AuditEntry × Database) :=
  let peer_ids := peers.map (fun peer => peer.1.alert_id)
  match involved_contexts db peer_ids with
  | [] => do
    let (target_id, db) ← create_context db received
    return (target_id, [], [audit_entry_for_correlation_context_created target_id (alert_id :: peer_ids)
      (evidence_reasons (sort_evidence (peers.flatMap Prod.snd)))], db)
  | target_id :: others =>
    .ok (target_id, others, others.map (fun other => audit_entry_for_correlation_contexts_merged target_id other alert_id),
      others.foldl (fun db other => move_members db other target_id) db)

/-- The memberships one call adds: the peers without a context, then the alert itself. -/
def new_members (db : Database) (alert_id : UUID) (peers : List Qualified) (target_id : String) (received : Int) :
    List CorrelationMember :=
  (peers.filter (fun peer => (context_of db peer.1.alert_id).isNone)).map (fun peer =>
    { context_id := target_id, alert_id := peer.1.alert_id, joined_at := received
      evidence := stored_evidence alert_id peer.2 }) ++
  [{ context_id := target_id, alert_id, joined_at := received
     evidence := peers.flatMap (fun peer => stored_evidence peer.1.alert_id peer.2) }]

def linked_entries (target_id : String) (members : List CorrelationMember) : List AuditEntry :=
  (members.insertionSort (fun a b => a.alert_id ≤ b.alert_id)).map (fun member =>
    audit_entry_for_correlation_alert_linked target_id member.alert_id member.evidence)

/-- `_decide_and_apply` on the qualifying peers of the alert. -/
def link (db : Database) (alert_id : UUID) (peers : List Qualified) (received : Int) :
    Except Error (CorrelationResult × Database) := do
  let (target_id, merged_from, entries, opened) ← open_target db alert_id peers received
  let members := new_members db alert_id peers target_id received
  let joined ← members.foldlM add_member opened
  let bounded ← refresh_bounds joined target_id received
  return ({
    context_id := target_id
    alert_id
    linked_alert_ids := (peers.map (fun peer => peer.1.alert_id)).insertionSort (· ≤ ·)
    evidence := sort_evidence (peers.flatMap Prod.snd)
    merged_context_ids := merged_from },
    bounded.append (entries ++ linked_entries target_id members) received)

def decide_and_apply (window : Window) (alert_id : UUID) (received : Int) (db : Database) :
    Except Error (Option CorrelationResult × Database) :=
  match db.alerts.get alert_id with
  | none => .ok (none, db)
  | some alert =>
    if (membership_for_alert db alert_id).isSome then .ok (none, db)
    else
      let peers := qualifying alert (candidates db received window alert_id alert.dedupe_group_key)
      if peers.isEmpty then .ok (none, db)
      else do
        let (result, db) ← link db alert_id peers received
        return (some result, db)

def require_aware (value : Datetime) (field : String) : Except Error Datetime :=
  if value.aware then .ok value.as_utc
  else .error (.invalid_input (field ++ " must be timezone-aware, got naive datetime"))

/-- `StorageError` for a failure of the storage, any other exception as it is. -/
def surfaced : Error → Error
  | .database => .storage "correlation storage operation failed"
  | other => other

def correlate (window : Window) (alert_id : UUID) (received_at : Datetime) (fault : Bool) (db : Database) :
    Except Error (Option CorrelationResult) × Database :=
  match require_aware received_at "received_at" with
  | .error e => (.error e, db)
  | .ok received =>
    match db.session_scope (fun db =>
        if fault then .error .database else decide_and_apply window alert_id received.instant db) with
    | (.ok result, db) => (.ok result, db)
    | (.error e, db) => (.error (surfaced e), db)

/-! ### What the writes do -/

/-- A context some peer is a member of. -/
def Involved (db : Database) (peers : List Qualified) (context_id : String) : Prop :=
  ∃ peer ∈ peers, context_of db peer.1.alert_id = some context_id

/-- Where a merge leaves a membership. -/
def relabelled (sources : List String) (target_id : String) (row : CorrelationMember) : CorrelationMember :=
  if row.context_id ∈ sources then moved target_id row else row

theorem mem_involved {db : Database} {peers : List Qualified} {context_id : String} :
    context_id ∈ involved_contexts db (peers.map (fun peer => peer.1.alert_id)) ↔ Involved db peers context_id := by
  rw [involved_contexts, mem_sorted_set, List.filterMap_map, List.mem_filterMap]
  rfl

/-- Correlation never touches the alerts of record, the recurrence state or the incidents. -/
structure Untouched (db db' : Database) : Prop where
  alerts : db'.alerts = db.alerts
  alert_dedupe_groups : db'.alert_dedupe_groups = db.alert_dedupe_groups
  alert_events : db'.alert_events = db.alert_events
  incidents : db'.incidents = db.incidents

theorem Untouched.trans {a b c : Database} (first : Untouched a b) (second : Untouched b c) : Untouched a c where
  alerts := second.alerts.trans first.alerts
  alert_dedupe_groups := second.alert_dedupe_groups.trans first.alert_dedupe_groups
  alert_events := second.alert_events.trans first.alert_events
  incidents := second.incidents.trans first.incidents

/-- The merges of a list of contexts into one, on the rows they touch. -/
private theorem merge_rows (others : List String) (target_id : String) (db : Database) :
    let merged := others.foldl (fun db other => move_members db other target_id) db
    Untouched db merged ∧
      (∀ m, m ∈ merged.correlation_members.rows ↔
        ∃ old ∈ db.correlation_members.rows, m = relabelled others target_id old) ∧
      (∀ row, row ∈ merged.correlation_contexts.rows ↔
        row ∈ db.correlation_contexts.rows ∧ row.context_id ∉ others) := by
  induction others generalizing db with
  | nil => exact ⟨⟨rfl, rfl, rfl, rfl⟩, by simp [relabelled], by simp⟩
  | cons other rest ih =>
    obtain ⟨untouched, members, contexts⟩ := ih (move_members db other target_id)
    refine ⟨⟨untouched.alerts, untouched.alert_dedupe_groups, untouched.alert_events, untouched.incidents⟩, ?_, ?_⟩
    · intro m
      rw [List.foldl_cons, members]
      simp only [move_members, Table.mem_modifyWhere]
      constructor
      · rintro ⟨_, ⟨old, inside, rfl⟩, rfl⟩
        refine ⟨old, inside, ?_⟩
        by_cases here : old.context_id = other
        · simp only [here, decide_true, ↓reduceIte, relabelled, List.mem_cons, true_or]
          split <;> rfl
        · simp [here, relabelled]
      · rintro ⟨old, inside, rfl⟩
        refine ⟨_, ⟨old, inside, rfl⟩, ?_⟩
        by_cases here : old.context_id = other
        · simp only [here, decide_true, ↓reduceIte, relabelled, List.mem_cons, true_or]
          split <;> rfl
        · simp [here, relabelled]
    · intro row
      rw [List.foldl_cons, contexts]
      simp only [move_members, Table.rows_filter, List.mem_filter, decide_eq_true_eq, List.mem_cons, not_or]
      exact and_assoc

private theorem create_context_ok {db db' : Database} {occurred_at : Int} {context_id : String}
    (created : create_context db occurred_at = .ok (context_id, db')) :
    ∃ contexts, Sequenced "CORR" context_id ∧
      db.correlation_contexts.insert (founded context_id occurred_at) = some contexts ∧
      db' = { db with correlation_contexts := contexts } := by
  obtain ⟨_, numbered, created⟩ := bind_ok.mp created
  obtain ⟨contexts, inserted, done⟩ := bind_ok.mp created
  cases done
  exact ⟨contexts, next_sequence_id_sequenced numbered, Table.insertOrFail_ok.mp inserted, rfl⟩

/-- The context a call continues with: every involved context's members are in it, and no
    other involved context is left. -/
private theorem open_target_ok {db opened : Database} {alert_id : UUID} {peers : List Qualified} {received : Int}
    {target_id : String} {merged_from : List String} {entries : List AuditEntry}
    (executed : open_target db alert_id peers received = .ok (target_id, merged_from, entries, opened)) :
    Untouched db opened ∧
      (Involved db peers target_id ∨
        ((∀ context_id, ¬ Involved db peers context_id) ∧ db.correlation_contexts.get target_id = none ∧
          Sequenced "CORR" target_id)) ∧
      (∀ m, m ∈ opened.correlation_members.rows ↔ ∃ old ∈ db.correlation_members.rows,
        m = relabelled (involved_contexts db (peers.map (fun peer => peer.1.alert_id))) target_id old) ∧
      (∀ row ∈ opened.correlation_contexts.rows, row.context_id = target_id ∨
        (row ∈ db.correlation_contexts.rows ∧ ¬ Involved db peers row.context_id)) ∧
      (∀ row ∈ db.correlation_contexts.rows, ¬ Involved db peers row.context_id →
        row ∈ opened.correlation_contexts.rows) := by
  rw [open_target] at executed
  cases involved : involved_contexts db (peers.map (fun peer => peer.1.alert_id)) with
  | nil =>
    simp only [involved] at executed
    obtain ⟨⟨context_id, created⟩, executed, done⟩ := bind_ok.mp executed
    obtain ⟨contexts, sequenced, inserted, rfl⟩ := create_context_ok executed
    cases done
    have none_involved : ∀ context_id, ¬ Involved db peers context_id := by
      intro context_id some_involved
      rw [← mem_involved, involved] at some_involved
      exact List.not_mem_nil some_involved
    refine ⟨⟨rfl, rfl, rfl, rfl⟩, .inr ⟨none_involved, Table.insert_fresh inserted, sequenced⟩, ?_, ?_, ?_⟩
    · intro m; simp [relabelled]
    · intro row inside
      rcases (Table.mem_insert inserted).mp inside with old | rfl
      · exact .inr ⟨old, none_involved _⟩
      · exact .inl rfl
    · intro row inside _
      exact (Table.mem_insert inserted).mpr (.inl inside)
  | cons first others =>
    simp only [involved] at executed
    cases executed
    obtain ⟨untouched, members, contexts⟩ := merge_rows merged_from target_id db
    have chosen : Involved db peers target_id := mem_involved.mp (involved ▸ List.mem_cons_self ..)
    refine ⟨untouched, .inl chosen, ?_, ?_, ?_⟩
    · intro m
      rw [members]
      -- The members of the target are moved to where they are.
      have same : ∀ old, relabelled merged_from target_id old = relabelled (target_id :: merged_from) target_id old := by
        intro old
        rw [relabelled, relabelled]
        by_cases here : old.context_id = target_id
        · rw [if_pos (List.mem_cons.mpr (.inl here))]
          split
          · rfl
          · rw [moved, ← here]
        · simp [here]
      simp only [same]
    · intro row inside
      obtain ⟨old, outside⟩ := (contexts row).mp inside
      by_cases here : row.context_id = target_id
      · exact .inl here
      · refine .inr ⟨old, fun some_involved => ?_⟩
        rw [← mem_involved, involved, List.mem_cons] at some_involved
        exact some_involved.elim here outside
    · intro row inside uninvolved
      rw [← mem_involved, involved, List.mem_cons, not_or] at uninvolved
      exact (contexts row).mpr ⟨inside, uninvolved.2⟩

private theorem add_members_ok {members : List CorrelationMember} {db db' : Database}
    (added : members.foldlM add_member db = .ok db') :
    Untouched db db' ∧ db'.correlation_contexts = db.correlation_contexts ∧
      (∀ m, m ∈ db'.correlation_members.rows ↔ m ∈ db.correlation_members.rows ∨ m ∈ members) := by
  induction members generalizing db with
  | nil =>
    cases added
    exact ⟨⟨rfl, rfl, rfl, rfl⟩, rfl, by simp⟩
  | cons member rest ih =>
    rw [List.foldlM_cons] at added
    obtain ⟨next, first, added⟩ := bind_ok.mp added
    obtain ⟨rows, inserted, done⟩ := bind_ok.mp first
    cases done
    obtain ⟨untouched, contexts, all⟩ := ih added
    refine ⟨⟨untouched.alerts, untouched.alert_dedupe_groups, untouched.alert_events, untouched.incidents⟩, contexts, ?_⟩
    intro m
    rw [all, Table.mem_insert (Table.insertOrFail_ok.mp inserted), List.mem_cons, or_assoc]

private theorem refresh_bounds_ok {db db' : Database} {context_id : String} {updated_at : Int}
    (bounds : refresh_bounds db context_id updated_at = .ok db') :
    Untouched db db' ∧ db'.correlation_members = db.correlation_members ∧
      db.correlation_contexts.has context_id = true ∧
      (∀ k, db'.correlation_contexts.has k = db.correlation_contexts.has k) ∧
      (∀ row ∈ db'.correlation_contexts.rows,
        (∃ old : CorrelationContext,
          row = refreshed (member_times db context_id) updated_at old ∧ old.context_id = context_id) ∨
        (row ∈ db.correlation_contexts.rows ∧ row.context_id ≠ context_id)) := by
  rw [refresh_bounds] at bounds
  cases found : db.correlation_contexts.get context_id with
  | none => simp [found] at bounds
  | some row =>
    simp only [found, Except.ok.injEq] at bounds
    subst bounds
    refine ⟨⟨rfl, rfl, rfl, rfl⟩, rfl, by rw [Table.has, found]; rfl,
      fun k => Table.has_modify _ _ _ (refreshed_context_id _ _) k, ?_⟩
    intro row' inside
    rcases (@Table.mem_modify _ _ _ _ _ _ _ (refreshed_context_id _ _) _).mp inside with ⟨old, _, same, rfl⟩ | both
    · exact .inl ⟨old, rfl, same⟩
    · exact .inr both

/-- What one call that links the alert with its peers leaves. -/
structure Linked (db : Database) (alert_id : UUID) (peers : List Qualified) (received : Int) (target_id : String)
    (db' : Database) : Prop where
  untouched : Untouched db db'
  target : Involved db peers target_id ∨
    ((∀ context_id, ¬ Involved db peers context_id) ∧ db.correlation_contexts.get target_id = none ∧
      Sequenced "CORR" target_id)
  members : ∀ m, m ∈ db'.correlation_members.rows ↔
    (∃ old ∈ db.correlation_members.rows,
      m = relabelled (involved_contexts db (peers.map (fun peer => peer.1.alert_id))) target_id old) ∨
    m ∈ new_members db alert_id peers target_id received
  contexts : ∀ row ∈ db'.correlation_contexts.rows,
    (∃ old : CorrelationContext, row = refreshed (member_times db' target_id) received old ∧ old.context_id = target_id) ∨
    (row ∈ db.correlation_contexts.rows ∧ ¬ Involved db peers row.context_id ∧ row.context_id ≠ target_id)
  has_target : db'.correlation_contexts.has target_id = true
  kept : ∀ row ∈ db.correlation_contexts.rows, ¬ Involved db peers row.context_id →
    db'.correlation_contexts.has row.context_id = true

theorem link_ok {db db' : Database} {alert_id : UUID} {peers : List Qualified} {received : Int}
    {result : CorrelationResult} (executed : link db alert_id peers received = .ok (result, db')) :
    result.alert_id = alert_id ∧ Linked db alert_id peers received result.context_id db' := by
  obtain ⟨⟨target_id, merged_from, entries, opened⟩, chosen, executed⟩ := bind_ok.mp executed
  obtain ⟨joined, added, executed⟩ := bind_ok.mp executed
  obtain ⟨bounded, bounds, done⟩ := bind_ok.mp executed
  cases done
  obtain ⟨untouched, target, moved_rows, old_contexts, kept⟩ := open_target_ok chosen
  obtain ⟨untouched', same_contexts, rows⟩ := add_members_ok added
  obtain ⟨untouched'', same_members, has_target, has_same, new_contexts⟩ := refresh_bounds_ok bounds
  have all := (untouched.trans untouched').trans untouched''
  have times : member_times (bounded.append (entries ++ linked_entries target_id
      (new_members db alert_id peers target_id received)) received) target_id = member_times joined target_id := by
    simp only [member_times, Database.append_alerts, Database.append_correlation_members, same_members,
      untouched''.alerts]
  refine ⟨rfl, ⟨all.alerts, all.alert_dedupe_groups, all.alert_events, all.incidents⟩, target, ?_, ?_, ?_, ?_⟩
  · intro m
    simp only [Database.append_correlation_members, same_members]
    exact (rows m).trans (or_congr (moved_rows m) Iff.rfl)
  · intro row inside
    rw [times]
    rcases new_contexts row inside with bounded_row | ⟨inside, other⟩
    · exact .inl bounded_row
    · rw [same_contexts] at inside
      rcases old_contexts row inside with same | ⟨old, uninvolved⟩
      · exact absurd same other
      · exact .inr ⟨old, uninvolved, other⟩
  · exact (has_same target_id).trans has_target
  · intro row inside uninvolved
    refine (has_same row.context_id).trans (Table.has_of_mem ?_)
    rw [same_contexts]
    exact kept row inside uninvolved

/-- A call that commits either links the alert with its qualifying peers or changes nothing. -/
theorem decide_and_apply_cases {window : Window} {alert_id : UUID} {received : Int} {db db' : Database}
    {result : Option CorrelationResult} (executed : decide_and_apply window alert_id received db = .ok (result, db')) :
    (db' = db ∧ ∀ alert, db.alerts.get alert_id = some alert → membership_for_alert db alert_id = none →
      qualifying alert (candidates db received window alert_id alert.dedupe_group_key) = []) ∨
    ∃ alert peers target_id, db.alerts.get alert_id = some alert ∧ membership_for_alert db alert_id = none ∧
      peers = qualifying alert (candidates db received window alert_id alert.dedupe_group_key) ∧ peers ≠ [] ∧
      Linked db alert_id peers received target_id db' := by
  rw [decide_and_apply] at executed
  cases found : db.alerts.get alert_id with
  | none =>
    simp only [found] at executed
    cases executed
    exact .inl ⟨rfl, by intro alert other; contradiction⟩
  | some alert =>
    simp only [found] at executed
    split at executed
    · rename_i member
      cases executed
      refine .inl ⟨rfl, ?_⟩
      intro _ _ free
      rw [free] at member
      contradiction
    · rename_i unlinked
      split at executed
      · rename_i unqualified
        cases executed
        refine .inl ⟨rfl, ?_⟩
        rintro _ same _
        cases same
        exact List.isEmpty_iff.mp unqualified
      · rename_i qualified
        obtain ⟨⟨linked, after⟩, linking, done⟩ := bind_ok.mp executed
        cases done
        refine .inr ⟨alert, _, linked.context_id, rfl, by simpa using unlinked, rfl, by simpa using qualified, ?_⟩
        exact (link_ok linking).2

theorem correlate_committed {window : Window} {alert_id : UUID} {received_at : Datetime} {db db' : Database}
    {result : Option CorrelationResult} (zoned : received_at.aware = true)
    (executed : decide_and_apply window alert_id received_at.instant db = .ok (result, db')) :
    correlate window alert_id received_at false db = (.ok result, db') := by
  have committed : db.session_scope (fun db => if false then .error .database else
      decide_and_apply window alert_id received_at.instant db) = (.ok result, db') :=
    Database.session_scope_ok executed
  simp only [correlate, require_aware, zoned, ↓reduceIte, Datetime.instant_as_utc, committed]

theorem correlate_failed {window : Window} {alert_id : UUID} {received_at : Datetime} {db : Database} {e : Error}
    (zoned : received_at.aware = true)
    (failed : decide_and_apply window alert_id received_at.instant db = .error e) :
    correlate window alert_id received_at false db = (.error (surfaced e), db) := by
  have refused : db.session_scope (fun db => if false then .error .database else
      decide_and_apply window alert_id received_at.instant db) = (.error e, db) :=
    Database.session_scope_error failed
  simp only [correlate, require_aware, zoned, ↓reduceIte, Datetime.instant_as_utc, refused]

/-- A call changes nothing, or commits what `decide_and_apply` leaves. -/
theorem correlate_cases (window : Window) (alert_id : UUID) (received_at : Datetime) (fault : Bool) (db : Database) :
    (correlate window alert_id received_at fault db).2 = db ∨
    ∃ result db', correlate window alert_id received_at fault db = (.ok result, db') ∧
      decide_and_apply window alert_id received_at.instant db = .ok (result, db') := by
  cases zoned : received_at.aware with
  | false => left; simp only [correlate, require_aware, zoned, Bool.false_eq_true, ↓reduceIte]
  | true =>
    cases fault with
    | true => left; simp only [correlate, require_aware, zoned, ↓reduceIte, Database.session_scope]
    | false =>
      cases executed : decide_and_apply window alert_id received_at.instant db with
      | error e => left; rw [correlate_failed zoned executed]
      | ok value => exact .inr ⟨value.1, value.2, correlate_committed zoned executed, rfl⟩

/-- Correlation is additive: whatever it links, the rest of the database stays. -/
theorem correlate_untouched (window : Window) (alert_id : UUID) (received_at : Datetime) (fault : Bool) (db : Database) :
    Untouched db (correlate window alert_id received_at fault db).2 := by
  rcases correlate_cases window alert_id received_at fault db with same | ⟨result, db', same, executed⟩
  · rw [same]; exact ⟨rfl, rfl, rfl, rfl⟩
  · rw [same]
    rcases decide_and_apply_cases executed with ⟨rfl, _⟩ | ⟨_, _, _, _, _, _, _, linked⟩
    · exact ⟨rfl, rfl, rfl, rfl⟩
    · exact linked.untouched

/-! ### How a call can fail -/

/-- The context a call continues with exists, when those of the memberships do. -/
private theorem open_target_has {db opened : Database} {alert_id : UUID} {peers : List Qualified} {received : Int}
    {target_id : String} {merged_from : List String} {entries : List AuditEntry}
    (known : ∀ member ∈ db.correlation_members.rows, db.correlation_contexts.has member.context_id = true)
    (executed : open_target db alert_id peers received = .ok (target_id, merged_from, entries, opened)) :
    opened.correlation_contexts.has target_id = true := by
  rw [open_target] at executed
  cases involved : involved_contexts db (peers.map (fun peer => peer.1.alert_id)) with
  | nil =>
    simp only [involved] at executed
    obtain ⟨⟨context_id, created⟩, executed, done⟩ := bind_ok.mp executed
    obtain ⟨contexts, _, inserted, rfl⟩ := create_context_ok executed
    cases done
    exact Table.has_iff.mpr ⟨_, (Table.mem_insert inserted).mpr (.inr rfl), rfl⟩
  | cons first others =>
    simp only [involved] at executed
    cases executed
    obtain ⟨peer, _, member_of⟩ := mem_involved.mp (involved ▸ List.mem_cons_self (a := target_id) (l := merged_from))
    obtain ⟨member, found, same⟩ := Option.map_eq_some_iff.mp member_of
    obtain ⟨row, inside, key⟩ := Table.has_iff.mp (known member (Table.get_mem found))
    have distinct : target_id ∉ merged_from := by
      have nodup := sorted_set_nodup ((peers.map (fun peer => peer.1.alert_id)).filterMap (context_of db))
      rw [← involved_contexts, involved] at nodup
      exact (List.nodup_cons.mp nodup).1
    obtain ⟨_, _, contexts⟩ := merge_rows merged_from target_id db
    exact Table.has_iff.mpr ⟨row, (contexts row).mpr ⟨inside, by rw [key, same]; exact distinct⟩, key.trans same⟩

private theorem raises_add_members (members : List CorrelationMember) (db : Database) :
    Raises (· = .database) (members.foldlM add_member db) := by
  induction members generalizing db with
  | nil => exact raises_ok _
  | cons member rest ih =>
    rw [List.foldlM_cons]
    exact raises_bind (raises_bind (raises_insertOrFail _ _) (fun _ _ => raises_ok _)) (fun next _ => ih next)

/-- While the context ids are those of the sequence and every membership's context exists, a
    call fails only by the storage. -/
theorem raises_decide_and_apply {db : Database}
    (known : ∀ member ∈ db.correlation_members.rows, db.correlation_contexts.has member.context_id = true)
    (numbered : ∀ context ∈ db.correlation_contexts.rows, Sequenced "CORR" context.context_id)
    (window : Window) (alert_id : UUID) (received : Int) :
    Raises (· = .database) (decide_and_apply window alert_id received db) := by
  rw [decide_and_apply]
  split
  · exact raises_ok _
  split
  · exact raises_ok _
  dsimp only
  split
  · exact raises_ok _
  refine raises_bind ?_ (fun _ _ => raises_ok _)
  refine raises_bind ?_ (fun opened chosen => ?_)
  · rw [open_target]
    split
    · refine raises_bind (raises_bind ?_ (fun _ _ => raises_bind (raises_insertOrFail _ _) (fun _ _ => raises_ok _)))
        (fun _ _ => raises_ok _)
      have sequenced : ∀ id ∈ db.correlation_contexts.rows.map CorrelationContext.context_id, Sequenced "CORR" id := by
        intro id inside
        obtain ⟨context, stored, rfl⟩ := List.mem_map.mp inside
        exact numbered context stored
      obtain ⟨id, next⟩ := next_sequence_id_ok sequenced received
      rw [next]
      exact raises_ok _
    · exact raises_ok _
  · obtain ⟨target_id, merged_from, entries, opened⟩ := opened
    have present := open_target_has known chosen
    refine raises_bind (raises_add_members _ _) (fun joined added => raises_bind ?_ (fun _ _ => raises_ok _))
    obtain ⟨_, same, _⟩ := add_members_ok added
    rw [refresh_bounds, same]
    obtain ⟨row, found⟩ := Option.isSome_iff_exists.mp present
    rw [found]
    exact raises_ok _

end SocTriage.Correlation
