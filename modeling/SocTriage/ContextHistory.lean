import SocTriage.CorrelationComponents
import SocTriage.Sequences

/-!
The history of the correlation contexts. The audit log names every context a call
created; a context that was merged away is gone from the rows that the next identifier
is read off, so whether an identifier stays with one context depends on which contexts
are still stored when another one is created on its date.
-/
namespace SocTriage.ContextHistory
open Audit Correlation CorrelationInvariants Sequences
open Deduplication (Window)

def context_ids (db : Database) : List String := db.correlation_contexts.rows.map CorrelationContext.context_id

/-- The contexts that audit rows record as created. -/
def created_in (log : List AuditEvent) : List String :=
  (log.filter (fun row => row.action = ACTION_CORRELATION_CONTEXT_CREATED)).map AuditEvent.entity_id

/-- A call that links an alert with peers none of which is a member of a context. -/
def Founds (window : Window) (db : Database) (alert_id : UUID) (received : Int) : Prop :=
  ∃ alert, db.alerts.get alert_id = some alert ∧
    let peers := qualifying alert (candidates db received window alert_id alert.dedupe_group_key)
    peers ≠ [] ∧ involved_contexts db (peers.map (fun peer => peer.1.alert_id)) = []

/-- Whenever a call founds a context, and neither raises nor finds the next identifier taken, the greatest identifier as
    text ever made on its date is still stored, and at the end of the padding the next one was never made. -/
def GreatestKept (window : Window) (db : Database) : Event → Prop
  | .insert _ => True
  | .correlate alert_id received_at fault =>
    received_at.aware = true → fault = false → Founds window db alert_id received_at.instant →
    let day := Text.wall_day received_at.instant
    numbered "CORR" day (last_number "CORR" day (context_ids db) + 1) ∉ context_ids db →
    last_number "CORR" day (context_ids db) = last_number "CORR" day (created_in db.audit_log) ∧
      ∀ k ≥ 4, last_number "CORR" day (context_ids db) + 1 = 10 ^ k →
        numbered "CORR" day (10 ^ k) ∉ created_in db.audit_log

/-- No call creates a context under the identifier of one that existed before in the run. -/
def NeverReused (window : Window) (events : List Event) : Prop :=
  ∀ first event rest, events = first ++ event :: rest →
    ∀ id ∈ context_ids (step window (Runs.run (step window) {} first) event),
      id ∉ context_ids (Runs.run (step window) {} first) →
        ∀ earlier later, first = earlier ++ later → id ∉ context_ids (Runs.run (step window) {} earlier)

/-! ### What a call does to the contexts and the log -/

theorem created_in_append (log rows : List AuditEvent) : created_in (log ++ rows) = created_in log ++ created_in rows := by
  rw [created_in, List.filter_append, List.map_append]
  rfl

private theorem created_in_none {rows : List AuditEvent}
    (other : ∀ row ∈ rows, row.action ≠ ACTION_CORRELATION_CONTEXT_CREATED) :
    created_in rows = [] := by
  rw [created_in, List.filter_eq_nil_iff.mpr, List.map_nil]
  intro row inside
  simpa using other row inside

private theorem add_members_contexts {members : List CorrelationMember} {db db' : Database}
    (added : members.foldlM add_member db = .ok db') :
    context_ids db' = context_ids db ∧ db'.audit_log = db.audit_log := by
  induction members generalizing db with
  | nil => cases added; exact ⟨rfl, rfl⟩
  | cons member rest ih =>
    rw [List.foldlM_cons] at added
    obtain ⟨next, first, added⟩ := bind_ok.mp added
    obtain ⟨rows, inserted, done⟩ := bind_ok.mp first
    cases done
    obtain ⟨contexts, log⟩ := ih added
    exact ⟨contexts, log⟩

private theorem refresh_bounds_contexts {db db' : Database} {context_id : String} {updated_at : Int}
    (bounds : refresh_bounds db context_id updated_at = .ok db') :
    context_ids db' = context_ids db ∧ db'.audit_log = db.audit_log := by
  rw [refresh_bounds] at bounds
  split at bounds
  · contradiction
  · cases bounds
    refine ⟨?_, rfl⟩
    exact Table.map_modify _ _ _ (refreshed_context_id _ _) (fun row _ _ => refreshed_context_id _ _ row)

private theorem merges_contexts (others : List String) (target_id : String) (db : Database) :
    context_ids (others.foldl (fun db other => move_members db other target_id) db) ⊆ context_ids db ∧
      (others.foldl (fun db other => move_members db other target_id) db).audit_log = db.audit_log := by
  induction others generalizing db with
  | nil => exact ⟨fun _ inside => inside, rfl⟩
  | cons other rest ih =>
    obtain ⟨kept, log⟩ := ih (move_members db other target_id)
    refine ⟨fun id inside => ?_, log⟩
    obtain ⟨row, stored, same⟩ := List.mem_map.mp (kept inside)
    exact List.mem_map.mpr ⟨row, (List.mem_filter.mp stored).1, same⟩

/-- What one call leaves of the contexts: one more under the next identifier, recorded, or no new one. -/
inductive Effect (window : Window) (db : Database) (alert_id : UUID) (received : Int) (db' : Database) : Prop where
  | founded (id : String) (founds : Founds window db alert_id received)
      (next : next_sequence_id "CORR" (context_ids db) received = .ok id) (free : id ∉ context_ids db)
      (contexts : context_ids db' = context_ids db ++ [id])
      (recorded : created_in db'.audit_log = created_in db.audit_log ++ [id])
  | kept (contexts : context_ids db' ⊆ context_ids db) (recorded : created_in db'.audit_log = created_in db.audit_log)

private theorem linked_entries_contexts (target_id : String) (members : List CorrelationMember) (received : Int) :
    created_in ((linked_entries target_id members).map (Database.audit_row received)) = [] := by
  refine created_in_none (fun row inside => ?_)
  obtain ⟨entry, listed, rfl⟩ := List.mem_map.mp inside
  obtain ⟨member, _, rfl⟩ := List.mem_map.mp listed
  show ACTION_CORRELATION_ALERT_LINKED ≠ ACTION_CORRELATION_CONTEXT_CREATED
  decide

private theorem link_effect {window : Window} {db db' : Database} {alert_id : UUID} {received : Int} {alert : Alert}
    {result : CorrelationResult} (found : db.alerts.get alert_id = some alert)
    (filled : qualifying alert (candidates db received window alert_id alert.dedupe_group_key) ≠ [])
    (executed : link db alert_id (qualifying alert (candidates db received window alert_id alert.dedupe_group_key)) received =
      .ok (result, db')) :
    Effect window db alert_id received db' := by
  obtain ⟨⟨target_id, merged_from, entries, opened⟩, chosen, executed⟩ := bind_ok.mp executed
  obtain ⟨joined, added, executed⟩ := bind_ok.mp executed
  obtain ⟨bounded, bounds, done⟩ := bind_ok.mp executed
  cases done
  obtain ⟨contexts, log⟩ := add_members_contexts added
  obtain ⟨contexts', log'⟩ := refresh_bounds_contexts bounds
  rw [open_target] at chosen
  split at chosen
  · rename_i involved
    obtain ⟨⟨id, created⟩, created_ok, done⟩ := bind_ok.mp chosen
    obtain ⟨next_id, next, created_ok⟩ := bind_ok.mp created_ok
    obtain ⟨rows, inserted, same⟩ := bind_ok.mp created_ok
    cases done
    cases same
    have inserted := Table.insertOrFail_ok.mp inserted
    have free := Table.get_eq_none.mp (Table.insert_fresh inserted)
    refine .founded target_id ⟨alert, found, filled, involved⟩ next ?_ ?_ ?_
    · intro taken
      obtain ⟨row, stored, same⟩ := List.mem_map.mp taken
      exact free row stored same
    · show context_ids bounded = _
      rw [contexts', contexts, context_ids, Table.insert_rows inserted, List.map_append]
      rfl
    · show created_in (bounded.audit_log ++ _) = _
      rw [log', log, List.map_append, created_in_append, created_in_append, linked_entries_contexts, List.append_nil]
      rfl
  · cases chosen
    obtain ⟨kept, same⟩ := merges_contexts merged_from target_id db
    refine .kept ?_ ?_
    · show context_ids bounded ⊆ _
      rw [contexts', contexts]
      exact kept
    · show created_in (bounded.audit_log ++ _) = _
      rw [log', log, same, List.map_append, created_in_append, created_in_append, linked_entries_contexts, List.append_nil]
      have merges : created_in ((merged_from.map (fun other =>
          audit_entry_for_correlation_contexts_merged target_id other alert_id)).map (Database.audit_row received)) = [] := by
        refine created_in_none (fun row inside => ?_)
        obtain ⟨entry, listed, rfl⟩ := List.mem_map.mp inside
        obtain ⟨other, _, rfl⟩ := List.mem_map.mp listed
        show ACTION_CORRELATION_CONTEXTS_MERGED ≠ ACTION_CORRELATION_CONTEXT_CREATED
        decide
      rw [merges, List.append_nil]

/-- One correlate call founds a context under the next identifier, or makes no context. -/
theorem correlate_effect (window : Window) (db : Database) (alert_id : UUID) (received_at : Datetime) (fault : Bool) :
    Effect window db alert_id received_at.instant (correlate window alert_id received_at fault db).2 := by
  rcases correlate_cases window alert_id received_at fault db with same | ⟨result, db', same, executed⟩
  · rw [same]; exact .kept (fun _ inside => inside) rfl
  rw [same, decide_and_apply] at *
  split at executed
  · cases executed; exact .kept (fun _ inside => inside) rfl
  rename_i alert found
  split at executed
  · cases executed; exact .kept (fun _ inside => inside) rfl
  dsimp only at executed
  split at executed
  · cases executed; exact .kept (fun _ inside => inside) rfl
  rename_i qualified
  obtain ⟨⟨linked, after⟩, linking, done⟩ := bind_ok.mp executed
  cases done
  exact link_effect found (by simpa using qualified) linking

/-! ### Runs -/

/-- What the log says of the contexts of a run that keeps the greatest: each was created once,
    and the stored are among them. -/
structure Recorded (db : Database) : Prop where
  stored : context_ids db ⊆ created_in db.audit_log
  generated : ∀ id ∈ created_in db.audit_log, Generated "CORR" id
  once : (created_in db.audit_log).Nodup

/-- The identifier of a founded context was never made before. -/
private theorem founded_fresh {window : Window} {db : Database} {alert_id : UUID} {received_at : Datetime} {fault : Bool}
    {id : String} (recorded : Recorded db) (kept : GreatestKept window db (.correlate alert_id received_at fault))
    (zoned : received_at.aware = true) (works : fault = false) (founds : Founds window db alert_id received_at.instant)
    (next : next_sequence_id "CORR" (context_ids db) received_at.instant = .ok id) (free : id ∉ context_ids db) :
    Generated "CORR" id ∧ id ∉ created_in db.audit_log := by
  have stored : ∀ id ∈ context_ids db, Generated "CORR" id := fun id inside => recorded.generated id (recorded.stored inside)
  have numbered_id := (next_sequence_id_numbered stored received_at.instant).1
  cases next.symm.trans numbered_id
  obtain ⟨same, passed⟩ := kept zoned works founds free
  refine ⟨⟨received_at.instant, _, rfl⟩, ?_⟩
  obtain ⟨id', next', fresh⟩ : Fresh "CORR" (created_in db.audit_log) received_at.instant := by
    rw [fresh_iff recorded.generated, ← same]
    exact passed
  have numbered_id' := (next_sequence_id_numbered recorded.generated received_at.instant).1
  cases next'.symm.trans numbered_id'
  rwa [same]

private theorem correlate_failing {window : Window} {db : Database} {alert_id : UUID} {received_at : Datetime} {fault : Bool}
    (fails : ¬ (received_at.aware = true ∧ fault = false)) : (correlate window alert_id received_at fault db).2 = db := by
  unfold correlate require_aware
  cases zoned : received_at.aware with
  | false => rfl
  | true =>
    cases fault with
    | true => rfl
    | false => exact absurd ⟨zoned, rfl⟩ fails

private theorem step_recorded {window : Window} {db : Database} {event : Event} (recorded : Recorded db)
    (kept : GreatestKept window db event) :
    Recorded (step window db event) ∧
      created_in db.audit_log ⊆ created_in (step window db event).audit_log ∧
      ∀ id ∈ context_ids (step window db event), id ∉ context_ids db → id ∉ created_in db.audit_log := by
  cases event with
  | insert row =>
    rw [step]
    split
    · exact ⟨recorded, fun _ inside => inside, fun id inside free => absurd inside free⟩
    · exact ⟨⟨recorded.stored, recorded.generated, recorded.once⟩, fun _ inside => inside,
        fun id inside free => absurd inside free⟩
  | correlate alert_id received_at fault =>
    rw [step]
    by_cases works : received_at.aware = true ∧ fault = false
    swap
    · rw [correlate_failing works]
      exact ⟨recorded, fun _ inside => inside, fun id inside free => absurd inside free⟩
    cases correlate_effect window db alert_id received_at fault with
    | kept contexts same =>
      rw [same]
      refine ⟨⟨?_, ?_, ?_⟩, fun _ inside => inside, fun id inside free => absurd (contexts inside) free⟩
      · rw [same]; exact fun _ inside => recorded.stored (contexts inside)
      · rw [same]; exact recorded.generated
      · rw [same]; exact recorded.once
    | founded id founds next free contexts added =>
      obtain ⟨made, fresh⟩ := founded_fresh recorded kept works.1 works.2 founds next free
      rw [added, contexts]
      refine ⟨⟨?_, ?_, ?_⟩, List.subset_append_left _ _, ?_⟩
      · rw [added, contexts]
        exact List.append_subset.mpr ⟨fun _ inside => List.mem_append_left _ (recorded.stored inside),
          List.subset_append_right _ _⟩
      · rw [added]
        intro other inside
        rcases List.mem_append.mp inside with old | new
        · exact recorded.generated other old
        · rw [List.mem_singleton.mp new]; exact made
      · rw [added]
        refine List.nodup_append.mpr ⟨recorded.once, List.nodup_singleton _, fun other inside new latest same => ?_⟩
        rw [same, List.mem_singleton.mp latest] at inside
        exact fresh inside
      · intro other inside unstored
        rcases List.mem_append.mp inside with old | new
        · exact absurd old unstored
        · rw [List.mem_singleton.mp new]; exact fresh

theorem recorded_empty : Recorded {} := ⟨fun _ none => none, fun _ none => absurd none List.not_mem_nil, List.nodup_nil⟩

private theorem run_recorded {window : Window} {db : Database} {events : List Event} (recorded : Recorded db)
    (kept : Runs.Along (step window) (GreatestKept window) db events) :
    Recorded (Runs.run (step window) db events) ∧
      created_in db.audit_log ⊆ created_in (Runs.run (step window) db events).audit_log := by
  induction events generalizing db with
  | nil => exact ⟨recorded, fun _ inside => inside⟩
  | cons event rest ih =>
    obtain ⟨recorded, grown, _⟩ := step_recorded recorded kept.1
    obtain ⟨recorded, grown'⟩ := ih recorded kept.2
    exact ⟨recorded, fun _ inside => grown' (grown inside)⟩

/-- In every run in which the greatest identifier of a date is still stored whenever another context is founded on it, no
    identifier is made twice: neither among the contexts that ever existed nor among those the log records as created. -/
theorem context_ids_never_reused {window : Window} {events : List Event}
    (kept : Runs.Along (step window) (GreatestKept window) {} events) :
    NeverReused window events ∧ (created_in (Runs.run (step window) {} events).audit_log).Nodup ∧
      context_ids (Runs.run (step window) {} events) ⊆ created_in (Runs.run (step window) {} events).audit_log := by
  obtain ⟨recorded, _⟩ := run_recorded recorded_empty kept
  refine ⟨?_, recorded.once, recorded.stored⟩
  rintro first event rest rfl id inside free earlier later rfl before
  obtain ⟨kept_first, kept_event, _⟩ := Runs.along_append.mp kept
  obtain ⟨recorded_first, _⟩ := run_recorded recorded_empty kept_first
  obtain ⟨kept_earlier, kept_later⟩ := Runs.along_append.mp kept_first
  obtain ⟨recorded_earlier, _⟩ := run_recorded recorded_empty kept_earlier
  obtain ⟨_, grown⟩ := run_recorded recorded_earlier kept_later
  obtain ⟨_, _, unmade⟩ := step_recorded recorded_first kept_event
  rw [Runs.run_append] at unmade
  rw [Runs.run_append] at inside free
  exact unmade id inside free (grown (recorded_earlier.stored before))

/-- An alert of a host about some source addresses, inserted and correlated. -/
def arriving (alert_id : String) (addresses : List String) (second : Nat) : List Event :=
  let alert := CorrelationComponents.from_source alert_id ("wazuh:5710:" ++ alert_id) alert_id "" (seconds second)
  [.insert { alert with
    normalized_payload := { alert.normalized_payload with
      iocs := addresses.map (fun address => {
        type := .IPV4
        value := address
        provenance := [{ field := Evidence.SOURCE_IP_FIELD, extractor := "typed_field", raw_value := address }] }) } },
   .correlate alert_id (Datetime.of_instant (seconds second)) false]

/-- While the numbers of a date have four digits only its greatest identifier has to be stored. -/
def Narrow (db : Database) : Event → Prop
  | .insert _ => True
  | .correlate _ received_at _ =>
    let day := Text.wall_day received_at.instant
    last_number "CORR" day (context_ids db) = last_number "CORR" day (created_in db.audit_log) ∧
      last_number "CORR" day (context_ids db) + 1 < 10000

instance (db : Database) : (event : Event) → Decidable (Narrow db event)
  | .insert _ => isTrue trivial
  | .correlate .. => inferInstanceAs (Decidable (_ ∧ _))

theorem narrow_kept (window : Window) (db : Database) (event : Event) (narrow : Narrow db event) :
    GreatestKept window db event := by
  cases event with
  | insert => trivial
  | correlate alert_id received_at fault =>
    intro _ _ _ day _
    refine ⟨narrow.1, fun k wide power => ?_⟩
    have large : 10 ^ 4 ≤ 10 ^ k := Nat.pow_le_pow_right (by decide) wide
    have small : last_number "CORR" day (context_ids db) + 1 < 10000 := narrow.2
    omega

/-- Three attacks on two hosts each, then a host attacked like the first four, whose contexts are merged while the third
    is the newest, then a fourth attack. -/
def merged_before_newest : List Event :=
  arriving "a1" ["203.0.113.7"] 0 ++ arriving "a2" ["203.0.113.7"] 1 ++ arriving "b1" ["198.51.100.4"] 2 ++
    arriving "b2" ["198.51.100.4"] 3 ++ arriving "e1" ["198.51.100.9"] 4 ++ arriving "e2" ["198.51.100.9"] 5 ++
    arriving "c" ["203.0.113.7", "198.51.100.4"] 6 ++ arriving "d1" ["192.0.2.1"] 7 ++ arriving "d2" ["192.0.2.1"] 8

theorem merged_before_newest_not_reused :
    NeverReused ⟨900, by decide⟩ merged_before_newest ∧
      context_ids (Runs.run (step ⟨900, by decide⟩) {} merged_before_newest) =
        ["CORR-1970-01-01-0001", "CORR-1970-01-01-0003", "CORR-1970-01-01-0004"] := by
  have narrow : Runs.Along (step ⟨900, by decide⟩) Narrow {} merged_before_newest := by decide +kernel
  exact ⟨(context_ids_never_reused (Runs.along_imp (narrow_kept ⟨900, by decide⟩) narrow)).1, by decide +kernel⟩

/-- Two attacks on two hosts each, then a host attacked like all four, whose contexts are merged, then a third attack. -/
def newest_merged : List Event :=
  arriving "a1" ["203.0.113.7"] 0 ++ arriving "a2" ["203.0.113.7"] 1 ++ arriving "b1" ["198.51.100.4"] 2 ++
    arriving "b2" ["198.51.100.4"] 3 ++ arriving "c" ["203.0.113.7", "198.51.100.4"] 4 ++
    arriving "d1" ["192.0.2.1"] 5 ++ arriving "d2" ["192.0.2.1"] 6

/-- The context of the third attack takes the identifier of the merged one, which the log then records twice as created. -/
theorem newest_merged_reused :
    ¬NeverReused ⟨900, by decide⟩ newest_merged ∧
      created_in (Runs.run (step ⟨900, by decide⟩) {} newest_merged).audit_log =
        ["CORR-1970-01-01-0001", "CORR-1970-01-01-0002", "CORR-1970-01-01-0002"] := by
  refine ⟨fun never => ?_, by decide +kernel⟩
  refine never (newest_merged.take 13) (.correlate "d2" (Datetime.of_instant (seconds 6)) false) [] rfl
    "CORR-1970-01-01-0002" ?_ ?_ (newest_merged.take 8) ((newest_merged.take 13).drop 8) rfl ?_
  · decide +kernel
  · decide +kernel
  · decide +kernel

end SocTriage.ContextHistory
