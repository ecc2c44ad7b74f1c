import SocTriage.Integrator

/-!
The account of the spool over any sequence of invocations, one after the other under one
configuration. The history of what the invocations did determines the spool, so an entry
leaves the spool only where the history removes it, and each removal has its reason.
-/
namespace SocTriage.SpoolAccounting
open Integrator

/-- The spool after a history that began with none. -/
def spool_after (history : List Action) : Spool := Runs.run perform Table.empty history

/-- The history so far, and the number of invocations it is of. -/
structure World where
  history : List Action := []
  invocations : Nat := 0

def invoke (builtins : Builtins) (config : IntegratorConfig) (w : World) (invocation : Invocation) : World where
  history := w.history ++ run builtins config w.invocations invocation (spool_after w.history)
  invocations := w.invocations + 1

/-- The history of a sequence of invocations. -/
def history (builtins : Builtins) (config : IntegratorConfig) (invocations : List Invocation) : List Action :=
  (Runs.run (invoke builtins config) {} invocations).history

/-- Whether an action is an answer 2xx for the alert of an invocation. -/
def answers (number : Nat) : Action → Bool
  | .post invocation response => invocation = number && response.ok
  | .unlink _ _ => false
  | .write _ => false

/-- How often the alert of an invocation was answered 2xx. -/
def answered (number : Nat) (history : List Action) : Nat := (history.filter (answers number)).length

/-- The clock of one of the invocations was read. -/
def ClockRead (invocations : List Invocation) (now : Int) : Prop :=
  ∃ invocation ∈ invocations, now = invocation.flush_now ∨ now = invocation.enqueue_now

/-- A removal from the spool is for the reason it gives: the last thing before it was an answer 2xx, or a permanent rejection,
    for the alert of the entry; the entry was too old; or the spool was full and the entry the first in its order. -/
inductive Removed (config : IntegratorConfig) (invocations : List Invocation) (before : List Action) (entry : Entry) :
    Reason → Prop
  | answered {earlier response} (last : before = earlier ++ [.post entry.invocation response]) (ok : response.ok = true) :
      Removed config invocations before entry .answered
  | rejected {earlier response} (last : before = earlier ++ [.post entry.invocation response]) (refused : response.ok = false)
      (permanent : response.transient = false) : Removed config invocations before entry .rejected
  | expired {now} (read : ClockRead invocations now) (old : entry.mtime < cutoff config now) :
      Removed config invocations before entry (.expired now)
  | overflow (first : (entries (spool_after before)).head? = some entry)
      (full : config.spool_max_entries ≤ (spool_after before).rows.length) : Removed config invocations before entry .overflow

/-- An entry has left the spool for one of the reasons. -/
def Left (config : IntegratorConfig) (invocations : List Invocation) (history : List Action) (entry : Entry) : Prop :=
  ∃ before reason after, history = before ++ .unlink entry reason :: after ∧ Removed config invocations before entry reason

/-- An invocation forwards its alert, and the delivery ends in a transient failure. -/
def Buffered (builtins : Builtins) (config : IntegratorConfig) (invocation : Invocation) (alert : JsonObject)
    (raw : String) : Prop :=
  invocation.file = .ok (alert, raw) ∧ (should_forward builtins alert config).1 = true ∧
    (deliver config invocation.sender).2.retryable = true

/-! ### The spool under single actions -/

theorem spool_after_append (history actions : List Action) :
    spool_after (history ++ actions) = Runs.run perform (spool_after history) actions := Runs.run_append ..

@[simp] theorem spool_after_post (history : List Action) (number : Nat) (responses : List SenderResponse) :
    spool_after (history ++ responses.map (Action.post number)) = spool_after history := by
  rw [spool_after_append]
  induction responses with
  | nil => rfl
  | cons response rest ih => exact ih

theorem spool_after_unlink (history : List Action) (entry : Entry) (reason : Reason) :
    spool_after (history ++ [.unlink entry reason]) =
      (spool_after history).filter (fun other => other.name ≠ entry.name) := by
  rw [spool_after_append]; rfl

theorem spool_after_write (history : List Action) (entry : Entry) :
    spool_after (history ++ [.write entry]) = (spool_after history).put entry := by
  rw [spool_after_append]; rfl

theorem mem_entries {spool : Spool} {entry : Entry} : entry ∈ entries spool ↔ entry ∈ spool.rows := List.mem_insertionSort _

theorem length_entries (spool : Spool) : (entries spool).length = spool.rows.length := List.length_insertionSort ..

instance : Std.Total by_name := ⟨fun a b => String.le_total a.name b.name⟩
instance : IsTrans Entry by_name := ⟨fun _ _ _ => String.le_trans⟩

theorem entries_nodup (spool : Spool) : ((entries spool).map Entry.name).Nodup :=
  ((List.perm_insertionSort by_name spool.rows).map Entry.name).nodup_iff.mpr spool.unique

/-- The files that a condition leaves, in their order. -/
theorem entries_filter (spool : Spool) (p : Entry → Bool) : entries (spool.filter p) = (entries spool).filter p := by
  have perm : (entries (spool.filter p)).Perm ((entries spool).filter p) :=
    (List.perm_insertionSort by_name _).trans ((List.perm_insertionSort by_name spool.rows).symm.filter p)
  refine perm.eq_of_pairwise ?_ (List.pairwise_insertionSort by_name _)
    ((List.pairwise_insertionSort by_name spool.rows).sublist List.filter_sublist)
  intro a b left right least greatest
  have left := (List.mem_filter.mp (mem_entries.mp left)).1
  have right := mem_entries.mp (List.mem_filter.mp right).1
  exact Table.eq_of_key left right (String.le_antisymm least greatest)

/-- Removing the first file leaves the others. -/
theorem entries_unlink_first {spool : Spool} {entry : Entry} {rest : List Entry} (listed : entries spool = entry :: rest) :
    entries (spool.filter (fun other => other.name ≠ entry.name)) = rest := by
  have distinct := entries_nodup spool
  rw [listed, List.map_cons, List.nodup_cons] at distinct
  rw [entries_filter, listed, List.filter_cons_of_neg (by simp)]
  refine List.filter_eq_self.mpr (fun other inside => ?_)
  rw [decide_eq_true_eq]
  intro same
  exact distinct.1 (same ▸ List.mem_map_of_mem inside)

/-! ### What the history keeps -/

section
variable {builtins : Builtins} {config : IntegratorConfig} {all : List Invocation}

/-- The invariant of a history of the invocations `past`, among all invocations of the run. -/
structure Inv (config : IntegratorConfig) (all past : List Invocation) (history : List Action) : Prop where
  bounded : ∀ before, before <+: history → (spool_after before).rows.length ≤ config.spool_max_entries
  waiting : ∀ entry ∈ (spool_after history).rows, answered entry.invocation history = 0 ∧
    ∃ invocation raw, past[entry.invocation]? = some invocation ∧ entry = new_entry entry.invocation invocation raw
  fresh : ∀ number, past.length ≤ number → answered number history = 0
  once : ∀ number, answered number history ≤ 1
  kept : ∀ entry, .write entry ∈ history → entry ∈ (spool_after history).rows ∨ Left config all history entry

theorem Left.append {history : List Action} {entry : Entry} (left : Left config all history entry) (actions : List Action) :
    Left config all (history ++ actions) entry := by
  obtain ⟨before, reason, after, rfl, removed⟩ := left
  exact ⟨before, reason, after ++ actions, by simp, removed⟩

theorem answered_append (number : Nat) (history actions : List Action) :
    answered number (history ++ actions) = answered number history + answered number actions := by
  rw [answered, List.filter_append, List.length_append, answered, answered]

/-- Two waiting entries of one invocation are the same entry. -/
theorem Inv.same_entry {past : List Invocation} {history : List Action} (inv : Inv config all past history) {a b : Entry}
    (left : a ∈ (spool_after history).rows) (right : b ∈ (spool_after history).rows)
    (same : a.invocation = b.invocation) : a = b := by
  obtain ⟨_, invocation, raw, found, entry⟩ := inv.waiting a left
  obtain ⟨_, invocation', raw', found', entry'⟩ := inv.waiting b right
  rw [same, found'] at found
  cases found
  refine Table.eq_of_key left right ?_
  rw [entry, entry']
  rfl

private theorem bounded_append {history : List Action} {action : Action}
    (bounded : ∀ before, before <+: history → (spool_after before).rows.length ≤ config.spool_max_entries)
    (last : (spool_after (history ++ [action])).rows.length ≤ config.spool_max_entries) :
    ∀ before, before <+: history ++ [action] → (spool_after before).rows.length ≤ config.spool_max_entries := by
  intro before first
  rcases List.prefix_concat_iff.mp first with rfl | first
  · exact last
  · exact bounded before first

/-- An entry that waits is removed. -/
theorem Inv.unlink {past : List Invocation} {history : List Action} {entry : Entry} {reason : Reason}
    (inv : Inv config all past history) (stored : entry ∈ (spool_after history).rows)
    (removed : Removed config all history entry reason) : Inv config all past (history ++ [.unlink entry reason]) := by
  have rows := spool_after_unlink history entry reason
  have silent : ∀ number, answered number (history ++ [.unlink entry reason]) = answered number history :=
    fun number => answered_append ..
  refine ⟨bounded_append inv.bounded ?_, ?_, ?_, ?_, ?_⟩
  · rw [rows, Table.rows_filter]
    exact (List.length_filter_le ..).trans (inv.bounded history List.prefix_rfl)
  · intro other inside
    rw [rows] at inside
    rw [silent]
    exact inv.waiting other (List.mem_filter.mp inside).1
  · intro number later
    rw [silent]; exact inv.fresh number later
  · intro number
    rw [silent]; exact inv.once number
  · intro other written
    have written : .write other ∈ history := by simpa using written
    rcases inv.kept other written with waits | left
    · by_cases same : other.name = entry.name
      · obtain rfl := Table.eq_of_key waits stored same
        exact .inr ⟨history, reason, [], rfl, removed⟩
      · rw [rows]
        exact .inl (List.mem_filter.mpr ⟨waits, decide_eq_true same⟩)
    · exact .inr (left.append _)

private theorem answered_post (number invocation : Nat) (response : SenderResponse) :
    answered number [.post invocation response] = if invocation = number ∧ response.ok = true then 1 else 0 := by
  by_cases own : invocation = number ∧ response.ok = true
  · rw [if_pos own]; simp [answered, answers, own]
  · rw [if_neg own, answered, List.filter_cons_of_neg (by simpa [answers] using own)]; rfl

private theorem answered_unlink (number : Nat) (entry : Entry) (reason : Reason) :
    answered number [.unlink entry reason] = 0 := rfl

private theorem spool_after_post_one (history : List Action) (number : Nat) (response : SenderResponse) :
    spool_after (history ++ [.post number response]) = spool_after history := spool_after_post history number [response]

/-- Answers that are not 2xx change nothing. -/
theorem Inv.post {past : List Invocation} (number : Nat) {responses : List SenderResponse}
    (refused : ∀ response ∈ responses, response.ok = false) {history : List Action} (inv : Inv config all past history) :
    Inv config all past (history ++ responses.map (Action.post number)) := by
  induction responses generalizing history with
  | nil => rw [List.map_nil, List.append_nil]; exact inv
  | cons response rest ih =>
    rw [List.map_cons, List.append_cons]
    refine ih (fun other later => refused other (List.mem_cons_of_mem _ later)) ?_
    have spool := spool_after_post_one history number response
    have silent : ∀ other, answered other (history ++ [.post number response]) = answered other history := by
      intro other
      rw [answered_append, answered_post, if_neg (by simp [refused response List.mem_cons_self]), Nat.add_zero]
    refine ⟨bounded_append inv.bounded ?_, ?_, ?_, ?_, ?_⟩
    · rw [spool]; exact inv.bounded history List.prefix_rfl
    · intro entry inside
      rw [spool] at inside
      rw [silent]; exact inv.waiting entry inside
    · intro other later
      rw [silent]; exact inv.fresh other later
    · intro other
      rw [silent]; exact inv.once other
    · intro entry written
      have written : .write entry ∈ history := by simpa using written
      rw [spool]
      exact (inv.kept entry written).imp id (fun left => left.append _)

/-- The alert of a waiting entry is answered 2xx, and the entry removed. -/
theorem Inv.deliver {past : List Invocation} {history : List Action} {entry : Entry} {response : SenderResponse}
    (inv : Inv config all past history) (stored : entry ∈ (spool_after history).rows) (ok : response.ok = true) :
    Inv config all past (history ++ [.post entry.invocation response] ++ [.unlink entry .answered]) := by
  have spool := spool_after_post_one history entry.invocation response
  have rows := spool_after_unlink (history ++ [.post entry.invocation response]) entry .answered
  rw [spool] at rows
  obtain ⟨unanswered, invocation, raw, found, _⟩ := inv.waiting entry stored
  have counts : ∀ number, answered number (history ++ [.post entry.invocation response] ++ [.unlink entry .answered]) =
      answered number history + if entry.invocation = number then 1 else 0 := by
    intro number
    rw [answered_append, answered_append, answered_post, answered_unlink]
    simp [ok]
  refine ⟨bounded_append (bounded_append inv.bounded ?_) ?_, ?_, ?_, ?_, ?_⟩
  · rw [spool]; exact inv.bounded history List.prefix_rfl
  · rw [rows, Table.rows_filter]
    exact (List.length_filter_le ..).trans (inv.bounded history List.prefix_rfl)
  · intro other inside
    rw [rows] at inside
    obtain ⟨waits, different⟩ := List.mem_filter.mp inside
    rw [decide_eq_true_eq] at different
    obtain ⟨unanswered', origin⟩ := inv.waiting other waits
    refine ⟨?_, origin⟩
    rw [counts, unanswered', if_neg (fun same => different (by rw [inv.same_entry waits stored same.symm]))]
  · intro number later
    have inside : entry.invocation < past.length := (List.getElem?_eq_some_iff.mp found).1
    rw [counts, inv.fresh number later, if_neg (by omega)]
  · intro number
    rw [counts]
    by_cases own : entry.invocation = number
    · rw [if_pos own, ← own, unanswered]
    · rw [if_neg own]; exact inv.once number
  · intro other written
    have written : .write other ∈ history := by simpa using written
    rcases inv.kept other written with waits | left
    · by_cases same : other.name = entry.name
      · obtain rfl := Table.eq_of_key waits stored same
        exact .inr ⟨_, .answered, [], rfl, .answered rfl ok⟩
      · rw [rows]
        exact .inl (List.mem_filter.mpr ⟨waits, decide_eq_true same⟩)
    · exact .inr ((left.append _).append _)

/-- One more invocation, and an answer for its own alert. -/
theorem Inv.next {past : List Invocation} {history : List Action} (inv : Inv config all past history)
    (invocation : Invocation) :
    Inv config all (past ++ [invocation]) history := by
  refine ⟨inv.bounded, ?_, ?_, inv.once, inv.kept⟩
  · intro entry inside
    obtain ⟨unanswered, invocation, raw, found, origin⟩ := inv.waiting entry inside
    exact ⟨unanswered, invocation, raw, by rw [List.getElem?_append_left (List.getElem?_eq_some_iff.mp found).1, found],
      origin⟩
  · intro number later
    rw [List.length_append] at later
    exact inv.fresh number (by omega)

theorem Inv.post_own {past : List Invocation} {history : List Action} (inv : Inv config all past history)
    (invocation : Invocation)
    (response : SenderResponse) : Inv config all (past ++ [invocation]) (history ++ [.post past.length response]) := by
  have inv' := inv.next invocation
  have spool := spool_after_post_one history past.length response
  refine ⟨bounded_append inv.bounded ?_, ?_, ?_, ?_, ?_⟩
  · rw [spool]; exact inv.bounded history List.prefix_rfl
  · intro entry inside
    rw [spool] at inside
    obtain ⟨_, _, _, found, _⟩ := inv.waiting entry inside
    have before := (List.getElem?_eq_some_iff.mp found).1
    obtain ⟨unanswered, origin⟩ := inv'.waiting entry inside
    refine ⟨?_, origin⟩
    rw [answered_append, unanswered, answered_post, if_neg (by omega)]
  · intro number later
    have after : past.length < number := by rw [List.length_append, List.length_singleton] at later; omega
    rw [answered_append, inv'.fresh number later, answered_post, if_neg (by omega)]
  · intro number
    rw [answered_append, answered_post]
    by_cases own : past.length = number
    · rw [inv.fresh number (by omega)]
      split <;> omega
    · rw [if_neg (by omega)]
      exact inv.once number
  · intro entry written
    have written : .write entry ∈ history := by simpa using written
    rw [spool]
    exact (inv.kept entry written).imp id (fun left => left.append _)

/-- After a removal the other files are there. -/
private theorem stays {history : List Action} {entry other : Entry} {reason : Reason}
    (waits : other ∈ (spool_after history).rows)
    (different : other.name ≠ entry.name) : other ∈ (spool_after (history ++ [.unlink entry reason])).rows := by
  rw [spool_after_unlink]
  exact List.mem_filter.mpr ⟨waits, decide_eq_true different⟩

/-- The expired files of a listing are removed. -/
private theorem Inv.expire {past : List Invocation} {now : Int} (read : ClockRead all now) (gone : List Entry)
    (distinct : (gone.map Entry.name).Nodup) (old : ∀ entry ∈ gone, entry.mtime < cutoff config now) {history : List Action}
    (inv : Inv config all past history) (stored : ∀ entry ∈ gone, entry ∈ (spool_after history).rows) :
    Inv config all past (history ++ gone.map (Action.unlink · (.expired now))) := by
  induction gone generalizing history with
  | nil => rw [List.map_nil, List.append_nil]; exact inv
  | cons entry rest ih =>
    rw [List.map_cons, List.nodup_cons] at distinct
    rw [List.map_cons, List.append_cons]
    refine ih distinct.2 (fun other later => old other (List.mem_cons_of_mem _ later))
      (inv.unlink (stored entry List.mem_cons_self) (.expired read (old entry List.mem_cons_self))) ?_
    intro other later
    exact stays (stored other (List.mem_cons_of_mem _ later)) (fun same => distinct.1 (same ▸ List.mem_map_of_mem later))

theorem Inv.prune {past : List Invocation} {history : List Action} {now : Int} (inv : Inv config all past history)
    (read : ClockRead all now) : Inv config all past (history ++ prune config now (spool_after history)) := by
  refine inv.expire read _ ((entries_nodup _).sublist (List.filter_sublist.map _)) ?_ ?_
  · intro entry inside
    exact of_decide_eq_true (List.mem_filter.mp inside).2
  · intro entry inside
    exact mem_entries.mp (List.mem_filter.mp inside).1

/-- The files a flush goes through are posted, and removed when that comes to an end. -/
private theorem Inv.flush_entries {past : List Invocation} (senders : Nat → Nat → SenderResponse) (listed : List Entry)
    (distinct : (listed.map Entry.name).Nodup) (n : Nat) {history : List Action} (inv : Inv config all past history)
    (stored : ∀ entry ∈ listed, entry ∈ (spool_after history).rows) :
    Inv config all past (history ++ flush_entries config senders n listed) := by
  induction listed generalizing n history with
  | nil => rw [Integrator.flush_entries, List.append_nil]; exact inv
  | cons entry rest ih =>
    rw [List.map_cons, List.nodup_cons] at distinct
    have here := stored entry List.mem_cons_self
    have others : ∀ reason (responses : List SenderResponse), ∀ other ∈ rest,
        other ∈ (spool_after (history ++ responses.map (Action.post entry.invocation) ++ [.unlink entry reason])).rows := by
      intro reason responses other later
      refine stays ?_ (fun same => distinct.1 (same ▸ List.mem_map_of_mem later))
      rw [spool_after_post]
      exact stored other (List.mem_cons_of_mem _ later)
    have refused : ∀ {responses : List SenderResponse}, (∀ r ∈ responses, r.transient = true) →
      ∀ r ∈ responses, r.ok = false :=
      fun retried r inside => ok_of_transient (retried r inside)
    rw [flush_entries_cons, attempted, ← List.append_assoc]
    have ends := deliver_delivered config (senders n)
    generalize Integrator.deliver config (senders n) = delivery at *
    cases ends with
    | @answered before last outcome retried ok delivered final =>
      have quiet := inv.post entry.invocation (refused retried)
      have posted := quiet.deliver (by rw [spool_after_post]; exact here) ok
      simp only [delivered, final, ↓reduceIte, Bool.false_eq_true]
      rw [List.map_append, List.map_singleton, ← List.append_assoc, ← List.append_assoc]
      refine ih distinct.2 (n + 1) posted ?_
      have later := others .answered (before ++ [last])
      rw [List.map_append, List.map_singleton, ← List.append_assoc] at later
      exact later
    | @rejected before last outcome retried denied permanent undelivered final =>
      have all_refused : ∀ r ∈ before ++ [last], r.ok = false := by
        intro r inside
        rcases List.mem_append.mp inside with earlier | own
        · exact refused retried r earlier
        · rw [List.mem_singleton.mp own]; exact denied
      have posted := inv.post entry.invocation all_refused
      have removed :
          Removed config all (history ++ (before ++ [last]).map (Action.post entry.invocation)) entry .rejected := by
        rw [List.map_append, List.map_singleton, ← List.append_assoc]
        exact .rejected rfl denied permanent
      simp only [undelivered, final, ↓reduceIte, Bool.false_eq_true]
      rw [← List.append_assoc]
      exact ih distinct.2 (n + 1) (posted.unlink (by rw [spool_after_post]; exact here) removed) (others .rejected _)
    | postponed retried undelivered retryable =>
      simp only [undelivered, retryable, ↓reduceIte, Bool.false_eq_true, List.append_nil]
      exact inv.post entry.invocation (refused retried)

theorem Inv.flush_spool {past : List Invocation} {history : List Action} {now : Int} (inv : Inv config all past history)
    (read : ClockRead all now) (senders : Nat → Nat → SenderResponse) :
    Inv config all past (history ++ flush_spool config now senders (spool_after history)) := by
  rw [Integrator.flush_spool, ← List.append_assoc]
  refine (inv.prune read).flush_entries senders _ ((entries_nodup _).sublist ((List.take_sublist ..).map _)) 0 ?_
  intro entry inside
  rw [spool_after_append]
  exact mem_entries.mp (List.mem_of_mem_take inside)

/-- The first `m` files are removed, as long as the spool is full before each of them. -/
private theorem Inv.drop {past : List Invocation} (m : Nat) {history : List Action} (inv : Inv config all past history)
    (full : m ≤ (spool_after history).rows.length + 1 - config.spool_max_entries) :
    Inv config all past (history ++ ((entries (spool_after history)).take m).map (Action.unlink · .overflow)) ∧
      entries (spool_after (history ++ ((entries (spool_after history)).take m).map (Action.unlink · .overflow))) =
        (entries (spool_after history)).drop m := by
  induction m generalizing history with
  | zero => rw [List.take_zero, List.map_nil, List.append_nil]; exact ⟨inv, rfl⟩
  | succ m ih =>
    have some_entry := config.some_entry
    rcases listed : entries (spool_after history) with _ | ⟨entry, rest⟩
    · rw [← length_entries, listed, List.length_nil] at full
      omega
    · have stored : entry ∈ (spool_after history).rows := mem_entries.mp (listed ▸ List.mem_cons_self)
      have removed : Removed config all history entry .overflow := .overflow (by rw [listed]; rfl) (by omega)
      have others : entries (spool_after (history ++ [.unlink entry .overflow])) = rest := by
        rw [spool_after_unlink]; exact entries_unlink_first listed
      have next := ih (inv.unlink stored removed) (by
        rw [← length_entries, others]
        rw [← length_entries, listed, List.length_cons] at full
        omega)
      rw [others] at next
      rw [List.take_succ_cons, List.map_cons, List.append_cons, List.drop_succ_cons]
      exact next

/-- File names of invocations with different uuids differ. -/
theorem file_name_inj {a b : Invocation} (same : file_name a = file_name b) : a.uuid = b.uuid := by
  have last : ∀ c : Invocation, Text.after_last '-' (file_name c).toList = c.uuid.text.toList ++ ".json".toList := by
    intro c
    have plain : '-' ∉ c.uuid.text.toList ++ ".json".toList := by
      rw [List.mem_append]
      rintro (inside | inside)
      · exact c.uuid.plain inside
      · exact absurd inside (by decide)
    have dash : "-".toList = ['-'] := by decide
    rw [file_name, String.toList_append, String.toList_append, String.toList_append, dash, List.append_assoc,
      List.append_assoc,
      List.singleton_append]
    exact Text.after_last_append _ plain
  have ends := last a
  rw [same, last b] at ends
  have text : b.uuid.text = a.uuid.text := String.toList_injective (List.append_cancel_right ends)
  cases left : a.uuid; cases right : b.uuid
  rw [left, right] at text
  cases text
  rfl

/-- A new file of the current invocation, in a spool that is not full. -/
private theorem Inv.write {past : List Invocation} {history : List Action} (inv : Inv config all past history)
    {invocation : Invocation} (raw : String) (new : ∀ other ∈ past, other.uuid ≠ invocation.uuid)
    (room : (spool_after history).rows.length < config.spool_max_entries) :
    Inv config all (past ++ [invocation]) (history ++ [.write (new_entry past.length invocation raw)]) := by
  have free : (new_entry past.length invocation raw).name ∉ (spool_after history).rows.map Entry.name := by
    intro taken
    obtain ⟨entry, stored, same⟩ := List.mem_map.mp taken
    obtain ⟨_, other, raw', found, origin⟩ := inv.waiting entry stored
    rw [origin] at same
    exact new other (List.mem_of_getElem? found) (file_name_inj same)
  have rows : (spool_after (history ++ [.write (new_entry past.length invocation raw)])).rows =
      (spool_after history).rows ++ [new_entry past.length invocation raw] := by
    rw [spool_after_write, Table.put, dif_neg free]
  have silent : ∀ number, answered number (history ++ [.write (new_entry past.length invocation raw)]) =
    answered number history :=
    fun number => answered_append ..
  have inv' := inv.next invocation
  refine ⟨bounded_append inv.bounded ?_, ?_, ?_, ?_, ?_⟩
  · rw [rows, List.length_append]; exact room
  · intro entry inside
    rw [rows] at inside
    rw [silent]
    rcases List.mem_append.mp inside with old | own
    · exact inv'.waiting entry old
    · rw [List.mem_singleton.mp own]
      exact ⟨inv.fresh past.length (Nat.le_refl _), invocation, raw, by simp [new_entry], rfl⟩
  · intro number later
    rw [silent]; exact inv'.fresh number later
  · intro number
    rw [silent]; exact inv.once number
  · intro entry written
    rw [rows]
    rcases List.mem_append.mp written with old | own
    · exact (inv.kept entry old).imp (List.mem_append_left _) (fun left => left.append _)
    · obtain rfl := Action.write.inj (List.mem_singleton.mp own)
      exact .inl (List.mem_append_right _ (List.mem_singleton.mpr rfl))

private theorem Inv.enqueue {past : List Invocation} {history : List Action} (inv : Inv config all past history)
    {invocation : Invocation} (raw : String) (new : ∀ other ∈ past, other.uuid ≠ invocation.uuid)
    (read : ClockRead all invocation.enqueue_now) :
    Inv config all (past ++ [invocation])
      (history ++ enqueue config past.length invocation raw (spool_after history)) := by
  have some_entry := config.some_entry
  have pruned := inv.prune read
  rw [Integrator.enqueue, enforce_capacity, ← spool_after_append, ← List.append_assoc, ← List.append_assoc]
  generalize history ++ Integrator.prune config invocation.enqueue_now (spool_after history) = history' at pruned ⊢
  have before := pruned.bounded history' List.prefix_rfl
  have limit : max 1 config.spool_max_entries = config.spool_max_entries := Nat.max_eq_right some_entry
  rw [limit]
  obtain ⟨dropped, others⟩ := pruned.drop ((entries (spool_after history')).length + 1 - config.spool_max_entries)
    (by rw [length_entries])
  refine dropped.write raw new ?_
  rw [← length_entries, others, List.length_drop, length_entries]
  omega

/-- One invocation keeps the invariant. -/
theorem Inv.run {past : List Invocation} {history : List Action} (inv : Inv config all past history) {invocation : Invocation}
    (among : invocation ∈ all) (new : ∀ other ∈ past, other.uuid ≠ invocation.uuid) :
    Inv config all (past ++ [invocation]) (history ++ run builtins config past.length invocation (spool_after history)) := by
  have flushed := inv.flush_spool ⟨invocation, among, .inl rfl⟩ invocation.spooled
  rw [Integrator.run]
  split
  · exact flushed.next invocation
  · split
    · exact flushed.next invocation
    · have ends := deliver_delivered config invocation.sender
      generalize Integrator.deliver config invocation.sender = delivery at *
      cases ends with
      | @answered before last outcome retried ok delivered final =>
        have quiet := flushed.post past.length (fun r inside => ok_of_transient (retried r inside))
        simp only [delivered, ↓reduceIte, List.map_append, List.map_singleton]
        rw [← List.append_assoc, ← List.append_assoc]
        exact quiet.post_own invocation last
      | @rejected before last outcome retried denied permanent undelivered final =>
        have quiet := flushed.post past.length (fun r inside => ok_of_transient (retried r inside))
        simp only [undelivered, final, ↓reduceIte, Bool.false_eq_true, List.map_append, List.map_singleton]
        rw [← List.append_assoc, ← List.append_assoc]
        exact quiet.post_own invocation last
      | @postponed responses outcome retried undelivered retryable =>
        have quiet := flushed.post past.length (fun r inside => ok_of_transient (retried r inside))
        simp only [undelivered, retryable, ↓reduceIte, Bool.false_eq_true]
        rw [← List.append_assoc, ← List.append_assoc, ← spool_after_append,
          ← spool_after_post (history ++ Integrator.flush_spool config invocation.flush_now invocation.spooled
            (spool_after history))
            past.length responses]
        exact quiet.enqueue _ new ⟨invocation, among, .inr rfl⟩

/-! ### Runs of invocations -/

private theorem run_inv {rest past : List Invocation} {w : World} (split : all = past ++ rest)
    (distinct : (all.map Invocation.uuid).Nodup) (number : w.invocations = past.length)
    (inv : Inv config all past w.history) :
    Inv config all all (Runs.run (invoke builtins config) w rest).history := by
  induction rest generalizing past w with
  | nil =>
    rw [List.append_nil] at split
    exact split ▸ inv
  | cons invocation rest ih =>
    have among : invocation ∈ all := split ▸ List.mem_append_right _ List.mem_cons_self
    have new : ∀ other ∈ past, other.uuid ≠ invocation.uuid := by
      intro other inside
      rw [split, List.map_append, List.nodup_append] at distinct
      exact distinct.2.2 _ (List.mem_map_of_mem inside) _ (List.mem_map_of_mem List.mem_cons_self)
    refine @ih (past ++ [invocation]) _ (by rw [split, List.append_assoc, List.singleton_append]) ?_ ?_
    · rw [invoke, number, List.length_append, List.length_singleton]
    · rw [invoke, number]
      exact inv.run among new

private theorem start_inv : Inv config all [] [] := by
  refine ⟨?_, ?_, fun _ _ => rfl, fun _ => Nat.zero_le _, ?_⟩
  · intro before first
    rw [List.prefix_nil.mp first]
    exact Nat.zero_le _
  · intro entry inside
    exact absurd inside List.not_mem_nil
  · intro entry written
    exact absurd written List.not_mem_nil

theorem history_inv (distinct : (all.map Invocation.uuid).Nodup) : Inv config all all (history builtins config all) :=
  @run_inv builtins config all all [] {} rfl distinct rfl start_inv

private theorem invocations_run (w : World) (invocations : List Invocation) :
    (Runs.run (invoke builtins config) w invocations).invocations = w.invocations + invocations.length := by
  induction invocations generalizing w with
  | nil => rfl
  | cons invocation rest ih =>
    rw [Runs.run, ih, List.length_cons]
    show w.invocations + 1 + rest.length = _
    omega

private theorem history_grows (w : World) (invocations : List Invocation) :
    ∃ later, (Runs.run (invoke builtins config) w invocations).history = w.history ++ later := by
  induction invocations generalizing w with
  | nil => exact ⟨[], (List.append_nil _).symm⟩
  | cons invocation rest ih =>
    obtain ⟨later, grown⟩ := ih (invoke builtins config w invocation)
    exact ⟨_, by rw [Runs.run, grown, invoke, List.append_assoc]⟩

/-- What one invocation of a sequence adds to the history. -/
theorem history_split (first : List Invocation) (invocation : Invocation) (rest : List Invocation) :
    ∃ later, history builtins config (first ++ invocation :: rest) = history builtins config first ++
      run builtins config first.length invocation (spool_after (history builtins config first)) ++ later := by
  obtain ⟨later, grown⟩ := @history_grows builtins config (invoke builtins config (Runs.run (invoke builtins config) {} first)
    invocation) rest
  refine ⟨later, ?_⟩
  rw [history, Runs.run_append, Runs.run, grown, invoke, invocations_run, Nat.zero_add, history]

/-- An invocation flushes the spool, and after that posts its own alert only. -/
theorem run_flushes (number : Nat) (invocation : Invocation) (spool : Spool) :
    ∃ own, run builtins config number invocation spool =
      flush_spool config invocation.flush_now invocation.spooled spool ++ own ∧
      ∀ other response, .post other response ∈ own → other = number := by
  have posted : ∀ (responses : List SenderResponse) other response,
      Action.post other response ∈ responses.map (Action.post number) → other = number := by
    intro responses other response inside
    obtain ⟨_, _, same⟩ := List.mem_map.mp inside
    exact (Action.post.inj same).1.symm
  rw [run]
  split
  · exact ⟨[], (List.append_nil _).symm, fun _ _ none => absurd none List.not_mem_nil⟩
  split
  · exact ⟨[], (List.append_nil _).symm, fun _ _ none => absurd none List.not_mem_nil⟩
  · dsimp only
    split
    · exact ⟨_, rfl, posted _⟩
    split
    · refine ⟨_, List.append_assoc .., ?_⟩
      intro other response inside
      rcases List.mem_append.mp inside with own | file
      · exact posted _ other response own
      · rw [enqueue, prune, enforce_capacity] at file
        rcases List.mem_append.mp file with removed | written
        · rcases List.mem_append.mp removed with removed | removed
          · obtain ⟨_, _, same⟩ := List.mem_map.mp removed
            contradiction
          · obtain ⟨_, _, same⟩ := List.mem_map.mp removed
            contradiction
        · exact absurd (List.mem_singleton.mp written) (by simp)
    · exact ⟨_, rfl, posted _⟩

theorem run_buffers {number : Nat} {invocation : Invocation} {alert : JsonObject} {raw : String} (spool : Spool)
    (buffered : Buffered builtins config invocation alert raw) :
    .write (new_entry number invocation raw) ∈ run builtins config number invocation spool := by
  obtain ⟨file, forward, retryable⟩ := buffered
  have undelivered : (deliver config invocation.sender).2.delivered = false := by
    have ends := deliver_delivered config invocation.sender
    generalize deliver config invocation.sender = delivery at *
    cases ends with
    | answered _ _ _ final => rw [final] at retryable; exact absurd retryable Bool.false_ne_true
    | rejected _ _ _ undelivered _ => exact undelivered
    | postponed _ undelivered _ => exact undelivered
  rw [run, file]
  simp only [forward, undelivered, retryable, Bool.not_true, Bool.false_eq_true, ↓reduceIte, enqueue]
  exact List.mem_append_right _ (List.mem_append_right _ (List.mem_singleton.mpr rfl))

/-- The account of a sequence of invocations: the spool never holds more than its limit; an alert whose delivery ended in a
    transient failure is in the spool, or has left it for one of the reasons; no alert is answered 2xx twice; and each
    invocation flushes the spool in its order up to the first transient failure before it posts its own alert. -/
structure Accounted (builtins : Builtins) (config : IntegratorConfig) (invocations : List Invocation) : Prop where
  bounded : ∀ before, before <+: history builtins config invocations →
    (spool_after before).rows.length ≤ config.spool_max_entries
  kept : ∀ first invocation rest alert raw, invocations = first ++ invocation :: rest →
    Buffered builtins config invocation alert raw →
      new_entry first.length invocation raw ∈ (spool_after (history builtins config invocations)).rows ∨
        Left config invocations (history builtins config invocations) (new_entry first.length invocation raw)
  once : ∀ number, answered number (history builtins config invocations) ≤ 1
  in_order : ∀ first invocation rest, invocations = first ++ invocation :: rest → ∃ expired flushed own later,
    history builtins config invocations = history builtins config first ++ expired ++ flushed ++ own ++ later ∧
      (∀ action ∈ expired, ∃ entry now, action = .unlink entry (.expired now)) ∧
      InOrder config invocation.spooled (batch config (spool_after (history builtins config first ++ expired))) flushed ∧
      ∀ number response, .post number response ∈ own → number = first.length

/-- Every sequence of invocations whose uuids differ is accounted for. -/
theorem invocations_accounted (builtins : Builtins) (config : IntegratorConfig) {invocations : List Invocation}
    (distinct : (invocations.map Invocation.uuid).Nodup) : Accounted builtins config invocations := by
  have inv := @history_inv builtins config invocations distinct
  refine ⟨inv.bounded, ?_, inv.once, ?_⟩
  · rintro first invocation rest alert raw rfl buffered
    refine inv.kept _ ?_
    obtain ⟨later, split⟩ := @history_split builtins config first invocation rest
    rw [split]
    exact List.mem_append_left _ (List.mem_append_right _ (run_buffers _ buffered))
  · rintro first invocation rest rfl
    obtain ⟨later, split⟩ := @history_split builtins config first invocation rest
    obtain ⟨own, flushes, posts⟩ := @run_flushes builtins config first.length invocation
      (spool_after (history builtins config first))
    obtain ⟨flushed, pruned, in_order⟩ := flush_spool_in_order config invocation.flush_now invocation.spooled
      (spool_after (history builtins config first))
    refine ⟨prune config invocation.flush_now (spool_after (history builtins config first)), flushed, own, later, ?_, ?_,
      ?_, posts⟩
    · rw [split, flushes, pruned]
      simp only [List.append_assoc]
    · intro action expired
      obtain ⟨entry, _, rfl⟩ := List.mem_map.mp expired
      exact ⟨entry, _, rfl⟩
    · rw [spool_after_append]
      exact in_order

end

/-! ### An outage -/

/-- An invocation for an alert of level 10, while every request gets the same answer. -/
def invoked (status at_second : Nat) (uuid : Hex) : Invocation where
  file := .ok ([("rule", .obj [("level", .int 10)])], "\x7b\"rule\": \x7b\"level\": 10\x7d\x7d")
  flush_now := seconds at_second
  enqueue_now := seconds at_second
  name_now := seconds at_second
  mtime := seconds at_second
  uuid := uuid
  spooled := fun _ _ => ⟨status, none⟩
  sender := fun _ => ⟨status, none⟩

/-- Numbers as they are, no text for anything but text. -/
def plain : Builtins where
  int := fun value => match value with | .int n => some n | _ => none
  str := fun value => match value with | .str text => text | _ => ""

/-- Two alerts of an outage, and one after it. -/
def outage : List Invocation :=
  [invoked 503 100 ⟨"a", by decide⟩, invoked 503 200 ⟨"b", by decide⟩, invoked 202 300 ⟨"c", by decide⟩]

theorem outage_accounted : Accounted plain { spool_max_entries := 1 } outage :=
  invocations_accounted plain { spool_max_entries := 1 } (by decide)

/-- The spool of one entry drops the first alert for the second, which is delivered with the third. -/
example : (history plain { spool_max_entries := 1, max_attempts := 1 } outage).map (fun action =>
    match action with
    | .post number response => (number, response.status)
    | .unlink entry _ => (entry.invocation, 0)
    | .write entry => (entry.invocation, 1)) =
      [(0, 503), (0, 1), (0, 503), (1, 503), (0, 0), (1, 1), (1, 202), (1, 0), (2, 202)] := by
  decide +kernel

end SocTriage.SpoolAccounting
