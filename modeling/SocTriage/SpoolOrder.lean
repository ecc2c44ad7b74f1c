import SocTriage.SpoolAccounting

/-!
The order of the spool: processes of the integrator that enqueue and flush, one after the
other. The name of a file is built from a millisecond, the counter of its process and a
random id, so the names are in the order the files were enqueued in exactly when no file
that is still there has a name built to come after a later one.
-/
namespace SocTriage.SpoolOrder
open Integrator

/-! ### Stamps -/

/-- What the name of a file is built from. -/
structure Stamp where
  millis : Nat
  sequence : Nat
  uuid : Hex
deriving DecidableEq

def stamp (self : Invocation) : Stamp where
  millis := (self.name_now / 1000).toNat
  sequence := self.sequence
  uuid := self.uuid

def Stamp.name (stamp : Stamp) : String :=
  Text.zero_padded 15 stamp.millis ++ "-" ++ Text.zero_padded 9 stamp.sequence ++ "-" ++ stamp.uuid.text ++ ".json"

theorem file_name_stamp (self : Invocation) : file_name self = (stamp self).name := rfl

/-- The first field in which two stamps differ is the smaller text in the first of them. -/
def Precedes (a b : Stamp) : Prop :=
  Text.zero_padded 15 a.millis < Text.zero_padded 15 b.millis ∨
    a.millis = b.millis ∧ (Text.zero_padded 9 a.sequence < Text.zero_padded 9 b.sequence ∨
      a.sequence = b.sequence ∧ a.uuid.text ++ ".json" < b.uuid.text ++ ".json")

instance (a b : Stamp) : Decidable (Precedes a b) := inferInstanceAs (Decidable (_ ∨ _))

private theorem zero_padded_inj {width m n : Nat}
    (same : (Text.zero_padded width m).toList = (Text.zero_padded width n).toList) :
    m = n := by
  have read := Text.parse_decimal_zero_padded width m
  rw [same, Text.parse_decimal_zero_padded] at read
  cases read
  rfl

private theorem dash_lt_digits (width n : Nat) : ∀ c ∈ (Text.zero_padded width n).toList, '-' < c := by
  intro c inside
  have digit := Text.zero_padded_digits width n c inside
  rw [Char.isDigit, Bool.and_eq_true, decide_eq_true_eq, decide_eq_true_eq] at digit
  have dash : '-'.val < '0'.val := by decide
  exact lt_of_lt_of_le dash digit.1

/-- Names are in the order of what they are built from. -/
theorem name_lt_iff {a b : Stamp} : a.name < b.name ↔ Precedes a b := by
  have fields : ∀ c : Stamp, c.name.toList = (Text.zero_padded 15 c.millis).toList ++ '-' ::
      ((Text.zero_padded 9 c.sequence).toList ++ '-' :: (c.uuid.text ++ ".json").toList) := by
    intro c
    have dash : "-".toList = ['-'] := by decide
    simp only [Stamp.name, String.toList_append, dash, List.append_assoc, List.cons_append, List.nil_append]
  show a.name.toList < b.name.toList ↔ _
  rw [fields a, fields b, Text.separated_lt_iff (dash_lt_digits 15 _) (dash_lt_digits 15 _),
    Text.separated_lt_iff (dash_lt_digits 9 _) (dash_lt_digits 9 _)]
  constructor
  · rintro (earlier | ⟨same, earlier | ⟨same', earlier⟩⟩)
    · exact .inl earlier
    · exact .inr ⟨zero_padded_inj same, .inl earlier⟩
    · exact .inr ⟨zero_padded_inj same, .inr ⟨zero_padded_inj same', earlier⟩⟩
  · rintro (earlier | ⟨same, earlier | ⟨same', earlier⟩⟩)
    · exact .inl earlier
    · exact .inr ⟨by rw [same], .inl earlier⟩
    · exact .inr ⟨by rw [same], .inr ⟨by rw [same'], earlier⟩⟩

/-- Fields that fit their widths compare as numbers. -/
theorem precedes_iff_of_fits {a b : Stamp} (a_millis : a.millis < 10 ^ 15) (b_millis : b.millis < 10 ^ 15)
    (a_sequence : a.sequence < 10 ^ 9) (b_sequence : b.sequence < 10 ^ 9) :
    Precedes a b ↔ a.millis < b.millis ∨ a.millis = b.millis ∧ (a.sequence < b.sequence ∨
      a.sequence = b.sequence ∧ a.uuid.text ++ ".json" < b.uuid.text ++ ".json") := by
  have millis := Text.zero_padded_lt_iff a_millis b_millis (by decide)
  have sequence := Text.zero_padded_lt_iff a_sequence b_sequence (by decide)
  unfold Precedes
  show (Text.zero_padded 15 a.millis).toList < (Text.zero_padded 15 b.millis).toList ∨ _ ∧
    ((Text.zero_padded 9 a.sequence).toList < (Text.zero_padded 9 b.sequence).toList ∨ _) ↔ _
  rw [millis, sequence]

/-! ### Processes -/

/-- The spool, the counter of the running process, and everything that was enqueued, oldest first. -/
structure Host where
  spool : Spool := Table.empty
  sequence : Nat := 0
  enqueued : List (Stamp × Entry) := []

inductive Event where
  | start
  | enqueue (self : Invocation) (raw : String) (written : Bool)
  | flush (now : Int) (senders : Nat → Nat → SenderResponse)

/-- What `enqueue` removes before it writes. -/
def make_room (config : IntegratorConfig) (self : Invocation) (spool : Spool) : List Action :=
  let pruned := prune config self.enqueue_now spool
  pruned ++ enforce_capacity config 1 (Runs.run perform spool pruned)

/-- The counter goes up before the file is written, whether or not the write succeeds. -/
def counted (host : Host) (self : Invocation) : Invocation := { self with sequence := host.sequence + 1 }

def step (config : IntegratorConfig) (host : Host) : Event → Host
  | .start => { host with sequence := 0 }
  | .enqueue self raw true =>
    let number := host.enqueued.length
    { spool := Runs.run perform host.spool (enqueue config number (counted host self) raw host.spool)
      sequence := host.sequence + 1
      enqueued := host.enqueued ++ [(stamp (counted host self), new_entry number (counted host self) raw)] }
  | .enqueue self _ false =>
    { host with spool := Runs.run perform host.spool (make_room config self host.spool), sequence := host.sequence + 1 }
  | .flush now senders => { host with spool := Runs.run perform host.spool (flush_spool config now senders host.spool) }

def readings : Event → List Int
  | .start => []
  | .enqueue self _ _ => [self.enqueue_now, self.name_now]
  | .flush now _ => [now]

/-- The clock never goes back. -/
def Clocked (events : List Event) : Prop := (events.flatMap readings).Pairwise (· ≤ ·)

instance (events : List Event) : Decidable (Clocked events) := inferInstanceAs (Decidable (List.Pairwise _ _))

/-! ### Chronology -/

/-- What was enqueued and is still there, oldest first. -/
def survivors (host : Host) : List Entry :=
  (host.enqueued.map Prod.snd).filter (fun entry => entry ∈ host.spool.rows)

/-- The survivors that are not too old. -/
def unexpired (config : IntegratorConfig) (now : Int) (host : Host) : List Entry :=
  (survivors host).filter (fun entry => ¬ entry.mtime < cutoff config now)

/-- The spool lists the survivors in the order they were enqueued in. -/
def Listed (host : Host) : Prop := entries host.spool = survivors host

/-- The cap drops the oldest files, and a flush goes through the files from the oldest on. -/
def OldestFirst (config : IntegratorConfig) (host : Host) : Event → Prop
  | .start => True
  | .enqueue self _ _ =>
    let kept := unexpired config self.enqueue_now host
    make_room config self host.spool = prune config self.enqueue_now host.spool ++
      (kept.take (kept.length + 1 - max 1 config.spool_max_entries)).map (Action.unlink · .overflow)
  | .flush now senders =>
    ∃ actions, flush_spool config now senders host.spool = prune config now host.spool ++ actions ∧
      InOrder config senders ((unexpired config now host).take config.spool_flush_batch) actions

/-- The spool is chronological in every state of a run, and so is whatever the run takes from it. -/
def Chronological (config : IntegratorConfig) (events : List Event) : Prop :=
  (∀ first, first <+: events → Listed (Runs.run (step config) {} first)) ∧
    Runs.Along (step config) (OldestFirst config) {} events

/-- No file that an enqueue leaves in the spool is to come after the one it writes. -/
def Ascending (config : IntegratorConfig) (host : Host) : Event → Prop
  | .enqueue self _ true => ∀ written ∈ host.enqueued,
      written.2 ∈ (Runs.run perform host.spool (make_room config self host.spool)).rows →
        ¬ Precedes (stamp (counted host self)) written.1
  | _ => True

/-! ### Removals -/

/-- What only posts and removes leaves the files of a condition. -/
private theorem run_removals {actions : List Action} (silent : ∀ entry, .write entry ∉ actions) (spool : Spool) :
    ∃ p, Runs.run perform spool actions = spool.filter p := by
  induction actions generalizing spool with
  | nil => exact ⟨fun _ => true, Table.ext_rows (List.filter_eq_self.mpr (fun _ _ => rfl)).symm⟩
  | cons action rest ih =>
    have quiet : ∀ entry, .write entry ∉ rest := fun entry inside => silent entry (List.mem_cons_of_mem _ inside)
    cases action with
    | post number response => exact ih quiet spool
    | unlink entry reason =>
      obtain ⟨p, left⟩ := ih quiet (spool.filter (fun other => other.name ≠ entry.name))
      refine ⟨fun other => other.name ≠ entry.name && p other, ?_⟩
      show Runs.run perform (spool.filter (fun other => other.name ≠ entry.name)) rest = _
      rw [left]
      apply Table.ext_rows
      rw [Table.rows_filter, Table.rows_filter, Table.rows_filter, List.filter_filter]
      simp only [Bool.and_comm]
    | write entry => exact absurd List.mem_cons_self (silent entry)

private theorem run_unlinks (gone : List Entry) (reason : Reason) (spool : Spool) :
    Runs.run perform spool (gone.map (Action.unlink · reason)) =
      spool.filter (fun entry => entry.name ∉ gone.map Entry.name) := by
  induction gone generalizing spool with
  | nil => exact Table.ext_rows (List.filter_eq_self.mpr (fun _ _ => by simp)).symm
  | cons entry rest ih =>
    show Runs.run perform (spool.filter (fun other => other.name ≠ entry.name)) (rest.map (Action.unlink · reason)) = _
    rw [ih]
    apply Table.ext_rows
    rw [Table.rows_filter, Table.rows_filter, Table.rows_filter, List.filter_filter]
    congr 1
    funext other
    simp [Bool.and_comm]

/-- A pruned spool lists the files that are not too old. -/
private theorem entries_pruned (config : IntegratorConfig) (now : Int) (spool : Spool) :
    entries (Runs.run perform spool (prune config now spool)) =
      (entries spool).filter (fun entry => ¬ entry.mtime < cutoff config now) := by
  unfold prune
  rw [run_unlinks, SpoolAccounting.entries_filter]
  apply List.filter_congr
  intro entry inside
  have own : entry.name ∈ ((entries spool).filter (fun entry => entry.mtime < cutoff config now)).map Entry.name ↔
      entry.mtime < cutoff config now := by
    constructor
    · intro named
      obtain ⟨other, old, same⟩ := List.mem_map.mp named
      obtain ⟨listed, old⟩ := List.mem_filter.mp old
      obtain rfl := Table.eq_of_key (SpoolAccounting.mem_entries.mp listed) (SpoolAccounting.mem_entries.mp inside) same
      exact of_decide_eq_true old
    · intro old
      exact List.mem_map_of_mem (List.mem_filter.mpr ⟨inside, decide_eq_true old⟩)
  rw [decide_eq_decide, own]

private theorem make_room_silent (config : IntegratorConfig) (self : Invocation) (spool : Spool) :
    ∀ entry, .write entry ∉ make_room config self spool := by
  intro entry inside
  unfold make_room at inside
  rcases List.mem_append.mp inside with pruned | dropped
  · obtain ⟨_, _, same⟩ := List.mem_map.mp pruned
    cases same
  · obtain ⟨_, _, same⟩ := List.mem_map.mp dropped
    cases same

private theorem flush_spool_silent (config : IntegratorConfig) (now : Int) (senders : Nat → Nat → SenderResponse)
    (spool : Spool) : ∀ entry, .write entry ∉ flush_spool config now senders spool := by
  intro entry inside
  obtain ⟨actions, whole, tried, _, did, _⟩ := flush_spool_in_order config now senders spool
  rw [whole] at inside
  rcases List.mem_append.mp inside with pruned | posted
  · obtain ⟨_, _, same⟩ := List.mem_map.mp pruned
    cases same
  · rw [did] at posted
    obtain ⟨⟨file, n⟩, _, posted⟩ := List.mem_flatMap.mp posted
    rcases List.mem_append.mp posted with answer | removal
    · obtain ⟨_, _, same⟩ := List.mem_map.mp answer
      cases same
    · split at removal
      · cases List.mem_singleton.mp removal
      split at removal
      · cases removal
      · cases List.mem_singleton.mp removal

/-! ### The invariant -/

/-- Every file that is there was enqueued, under the name of its stamp, and each enqueue has a file of its own. -/
structure Inv (host : Host) : Prop where
  named : ∀ written ∈ host.enqueued, written.2.name = written.1.name
  numbered : host.enqueued.map (fun written => written.2.invocation) = List.range host.enqueued.length
  stored : ∀ entry ∈ host.spool.rows, entry ∈ host.enqueued.map Prod.snd

private theorem Inv.nodup {host : Host} (inv : Inv host) : (host.enqueued.map Prod.snd).Nodup := by
  refine List.Nodup.of_map Entry.invocation ?_
  rw [List.map_map]
  show (host.enqueued.map (fun written => written.2.invocation)).Nodup
  rw [inv.numbered]
  exact List.nodup_range

private theorem Inv.filter {host : Host} (inv : Inv host) (p : Entry → Bool) (sequence : Nat) :
    Inv { host with spool := host.spool.filter p, sequence } where
  named := inv.named
  numbered := inv.numbered
  stored entry inside := inv.stored entry (List.mem_filter.mp inside).1

theorem mem_put {spool : Spool} {entry other : Entry} :
    other ∈ (spool.put entry).rows ↔ other = entry ∨ (other ∈ spool.rows ∧ other.name ≠ entry.name) := by
  have found : other ∈ (spool.put entry).rows ↔ (spool.put entry).get other.name = some other :=
    ⟨Table.get_of_mem, Table.get_mem⟩
  rw [found, Table.get_put]
  by_cases same : entry.name = other.name
  · rw [if_pos same]
    simp [same, eq_comm]
  · rw [if_neg same, Table.get_eq_some]
    have differs : other ≠ entry := fun equal => same (by rw [equal])
    simp [differs, Ne.symm same]

private theorem Inv.write {host : Host} (inv : Inv host) (self : Invocation) (raw : String) (spool : Spool) (sequence : Nat)
    (stored : ∀ entry ∈ spool.rows, entry ∈ host.enqueued.map Prod.snd) :
    Inv { spool := spool.put (new_entry host.enqueued.length self raw), sequence
          enqueued := host.enqueued ++ [(stamp self, new_entry host.enqueued.length self raw)] } where
  named written inside := by
    rcases List.mem_append.mp inside with old | new
    · exact inv.named written old
    · rw [List.mem_singleton.mp new]
      exact file_name_stamp self
  numbered := by
    rw [List.map_append, inv.numbered, List.length_append, List.length_singleton, List.range_succ]
    rfl
  stored entry inside := by
    rw [List.map_append]
    rcases mem_put.mp inside with rfl | ⟨old, _⟩
    · exact List.mem_append_right _ List.mem_cons_self
    · exact List.mem_append_left _ (stored entry old)

/-- The listing is the order of enqueueing when the survivors are in the order of their names. -/
private theorem listed_iff {host : Host} (inv : Inv host) : Listed host ↔ (survivors host).Pairwise by_name := by
  have same_files : (entries host.spool).Perm (survivors host) := by
    refine (List.perm_insertionSort by_name _).trans ?_
    refine (List.perm_ext_iff_of_nodup (host.spool.unique.of_map _) (inv.nodup.filter _)).mpr fun entry => ?_
    rw [List.mem_filter, decide_eq_true_eq]
    exact ⟨fun there => ⟨inv.stored entry there, there⟩, And.right⟩
  constructor
  · intro listed
    rw [← listed]
    exact List.pairwise_insertionSort by_name _
  · intro sorted
    refine same_files.eq_of_pairwise ?_ (List.pairwise_insertionSort by_name _) sorted
    intro a b left right least greatest
    have right := SpoolAccounting.mem_entries.mp (same_files.mem_iff.mpr right)
    exact Table.eq_of_key (SpoolAccounting.mem_entries.mp left) right (String.le_antisymm least greatest)

private theorem Listed.filter {host : Host} (listed : Listed host) (p : Entry → Bool) (sequence : Nat) :
    Listed { host with spool := host.spool.filter p, sequence } := by
  unfold Listed survivors at listed ⊢
  dsimp only
  rw [SpoolAccounting.entries_filter, listed, List.filter_filter]
  apply List.filter_congr
  intro entry _
  rw [Table.rows_filter, Bool.eq_iff_iff, Bool.and_eq_true, decide_eq_true_eq, decide_eq_true_eq, List.mem_filter]
  exact and_comm

/-! ### One step -/

/-- After a write the survivors are those before it whose names differ, and the new file. -/
private theorem survivors_write {host : Host} (inv : Inv host) (self : Invocation) (raw : String) (spool : Spool)
    (sequence : Nat) :
    survivors { spool := spool.put (new_entry host.enqueued.length self raw), sequence
                enqueued := host.enqueued ++ [(stamp self, new_entry host.enqueued.length self raw)] } =
      (survivors { host with spool }).filter (fun entry => entry.name ≠ (stamp self).name) ++
        [new_entry host.enqueued.length self raw] := by
  unfold survivors
  dsimp only
  rw [List.map_append, List.filter_append, List.map_singleton, List.filter_filter]
  have there : new_entry host.enqueued.length self raw ∈ (spool.put (new_entry host.enqueued.length self raw)).rows :=
    mem_put.mpr (.inl rfl)
  have new : [new_entry host.enqueued.length self raw].filter (fun entry =>
      entry ∈ (spool.put (new_entry host.enqueued.length self raw)).rows) = [new_entry host.enqueued.length self raw] := by
    rw [List.filter_cons_of_pos (by rw [decide_eq_true_eq]; exact there), List.filter_nil]
  rw [new]
  congr 1
  apply List.filter_congr
  intro entry old
  have other : entry ≠ new_entry host.enqueued.length self raw := by
    rintro rfl
    obtain ⟨written, inside, same⟩ := List.mem_map.mp old
    have number : written.2.invocation ∈ List.range host.enqueued.length := by
      rw [← inv.numbered]
      exact List.mem_map_of_mem inside
    rw [same] at number
    exact absurd (List.mem_range.mp number) (Nat.lt_irrefl _)
  rw [Bool.eq_iff_iff, Bool.and_eq_true, decide_eq_true_eq, decide_eq_true_eq, decide_eq_true_eq, mem_put]
  constructor
  · rintro (same | ⟨there, differs⟩)
    · exact absurd same other
    · exact ⟨differs, there⟩
  · rintro ⟨differs, there⟩
    exact .inr ⟨there, differs⟩

theorem step_inv {config : IntegratorConfig} {host : Host} (inv : Inv host) (event : Event) :
    Inv (step config host event) := by
  cases event with
  | start => exact ⟨inv.named, inv.numbered, inv.stored⟩
  | flush now senders =>
    obtain ⟨p, left⟩ := run_removals (flush_spool_silent config now senders host.spool) host.spool
    unfold step
    dsimp only
    rw [left]
    exact inv.filter p host.sequence
  | enqueue self raw written =>
    obtain ⟨p, left⟩ := run_removals (make_room_silent config self host.spool) host.spool
    cases written with
    | false =>
      unfold step
      dsimp only
      rw [left]
      exact inv.filter p (host.sequence + 1)
    | true =>
      have wrote : Runs.run perform host.spool (enqueue config host.enqueued.length (counted host self) raw host.spool) =
          (Runs.run perform host.spool (make_room config self host.spool)).put
            (new_entry host.enqueued.length (counted host self) raw) := Runs.run_append ..
      unfold step
      dsimp only
      rw [wrote, left]
      exact inv.write (counted host self) raw _ _ (inv.filter p host.sequence).stored

/-- Only a file that is written can be out of order. -/
theorem step_listed {config : IntegratorConfig} {host : Host} (inv : Inv host) (listed : Listed host) (event : Event) :
    Listed (step config host event) ↔ Ascending config host event := by
  cases event with
  | start => exact iff_of_true listed trivial
  | flush now senders =>
    obtain ⟨p, left⟩ := run_removals (flush_spool_silent config now senders host.spool) host.spool
    refine iff_of_true ?_ trivial
    unfold step
    dsimp only
    rw [left]
    exact listed.filter p host.sequence
  | enqueue self raw written =>
    obtain ⟨p, left⟩ := run_removals (make_room_silent config self host.spool) host.spool
    cases written with
    | false =>
      refine iff_of_true ?_ trivial
      unfold step
      dsimp only
      rw [left]
      exact listed.filter p (host.sequence + 1)
    | true =>
      have wrote : Runs.run perform host.spool (enqueue config host.enqueued.length (counted host self) raw host.spool) =
          (Runs.run perform host.spool (make_room config self host.spool)).put
            (new_entry host.enqueued.length (counted host self) raw) := Runs.run_append ..
      have room := inv.filter p host.sequence
      have sorted : (survivors { host with spool := host.spool.filter p }).Pairwise by_name :=
        (listed_iff room).mp (listed.filter p host.sequence)
      have stepped := listed_iff (inv.write (counted host self) raw (host.spool.filter p) (host.sequence + 1) room.stored)
      unfold step Ascending
      dsimp only
      rw [wrote, left, stepped, survivors_write inv, List.pairwise_append]
      constructor
      · rintro ⟨_, _, below⟩ written inside there precedes
        have before := name_lt_iff.mpr precedes
        rw [← inv.named written inside] at before
        have kept : written.2 ∈ (survivors { host with spool := host.spool.filter p }).filter
            (fun entry => entry.name ≠ (stamp (counted host self)).name) := by
          refine List.mem_filter.mpr ⟨?_, decide_eq_true fun same => String.lt_irrefl _ (same ▸ before)⟩
          exact List.mem_filter.mpr ⟨List.mem_map_of_mem inside, decide_eq_true there⟩
        exact below written.2 kept _ List.mem_cons_self before
      · intro ascending
        refine ⟨sorted.filter _, List.pairwise_singleton .., ?_⟩
        intro entry kept new inside
        rw [List.mem_singleton.mp inside]
        obtain ⟨survives, _⟩ := List.mem_filter.mp kept
        obtain ⟨enqueued, there⟩ := List.mem_filter.mp survives
        obtain ⟨written, inside, rfl⟩ := List.mem_map.mp enqueued
        have later := ascending written inside (of_decide_eq_true there)
        rw [← name_lt_iff, ← inv.named written inside] at later
        exact String.not_lt.mp later

/-- What a listing in order is cut to, and gone through, begins with the oldest. -/
theorem oldest_first {config : IntegratorConfig} {host : Host} (listed : Listed host) (event : Event) :
    OldestFirst config host event := by
  have kept : ∀ now, entries (Runs.run perform host.spool (prune config now host.spool)) = unexpired config now host := by
    intro now
    rw [entries_pruned, listed]
    rfl
  cases event with
  | start => trivial
  | enqueue self raw written =>
    unfold OldestFirst make_room enforce_capacity
    dsimp only
    rw [kept]
  | flush now senders =>
    obtain ⟨actions, whole, in_order⟩ := flush_spool_in_order config now senders host.spool
    unfold batch at in_order
    rw [kept] at in_order
    exact ⟨actions, whole, in_order⟩

private theorem initial_inv : Inv {} where
  named _ inside := absurd inside List.not_mem_nil
  numbered := rfl
  stored _ inside := absurd inside List.not_mem_nil

private theorem listed_along {config : IntegratorConfig} {host : Host} (inv : Inv host) (listed : Listed host)
    (events : List Event) :
    (∀ first, first <+: events → Listed (Runs.run (step config) host first)) ↔
      Runs.Along (step config) (Ascending config) host events := by
  induction events generalizing host with
  | nil =>
    refine iff_of_true (fun first inside => ?_) trivial
    rw [List.prefix_nil.mp inside]
    exact listed
  | cons event rest ih =>
    constructor
    · intro each
      have next := each [event] ⟨rest, rfl⟩
      refine ⟨(step_listed inv listed event).mp next, (ih (step_inv inv event) next).mp fun first inside => ?_⟩
      exact each (event :: first) ((List.prefix_cons_inj event).mpr inside)
    · rintro ⟨ascending, later⟩ first inside
      have next := (step_listed inv listed event).mpr ascending
      cases first with
      | nil => exact listed
      | cons other first =>
        obtain ⟨rfl, shorter⟩ := List.cons_prefix_cons.mp inside
        exact (ih (step_inv inv other) next).mpr later first shorter

/-- A run is chronological exactly when each enqueue writes a file that is not to come before one it leaves there. -/
theorem chronological_iff (config : IntegratorConfig) (events : List Event) :
    Chronological config events ↔ Runs.Along (step config) (Ascending config) {} events := by
  have in_order := @listed_along config {} initial_inv rfl events
  constructor
  · rintro ⟨each, _⟩
    exact in_order.mp each
  · intro ascending
    have each := in_order.mpr ascending
    refine ⟨each, Runs.along_iff.mpr fun first event rest split => ?_⟩
    exact oldest_first (each first (split ▸ List.prefix_append ..)) event

/-- Two processes that enqueue one alert each within one millisecond: the random ids decide. -/
private def hurried (uuid : Hex) : Invocation where
  file := .error "alert_unreadable"
  flush_now := 1700000000000000
  enqueue_now := 1700000000000000
  name_now := 1700000000000000
  mtime := 1700000000000000
  uuid
  spooled := fun _ _ => ⟨503, none⟩
  sender := fun _ => ⟨503, none⟩

private theorem first_plain : '-' ∉ "f3b1c2d4e5a64b7c8d9e0f1a2b3c4d5e".toList := by decide

private theorem second_plain : '-' ∉ "03b1c2d4e5a64b7c8d9e0f1a2b3c4d5e".toList := by decide

private def same_millisecond : List Event :=
  [.start, .enqueue (hurried ⟨"f3b1c2d4e5a64b7c8d9e0f1a2b3c4d5e", first_plain⟩) "first" true,
    .start, .enqueue (hurried ⟨"03b1c2d4e5a64b7c8d9e0f1a2b3c4d5e", second_plain⟩) "second" true]

/-- The file of the second process is listed before that of the first. -/
theorem second_listed_first :
    ¬ ∀ (config : IntegratorConfig) (events : List Event), Clocked events → Chronological config events := by
  intro claimed
  have listed := (claimed {} same_millisecond (by decide)).1 same_millisecond List.prefix_rfl
  have bodies := congrArg (List.map Entry.body) listed
  exact absurd bodies (by decide)

/-! ### Where the order is lost -/

/-- What a run enqueued was enqueued by one of its events, as one of the files of its process. -/
private theorem enqueued_by {config : IntegratorConfig} (events : List Event) (host : Host) :
    (Runs.run (step config) host events).sequence ≤ host.sequence + events.length ∧
      ∀ written ∈ (Runs.run (step config) host events).enqueued, written ∈ host.enqueued ∨
        ∃ self raw, .enqueue self raw true ∈ events ∧ written.1.millis = (stamp self).millis ∧
          written.1.sequence ≤ host.sequence + events.length := by
  induction events generalizing host with
  | nil => exact ⟨Nat.le_refl _, fun _ inside => .inl inside⟩
  | cons event rest ih =>
    obtain ⟨bounded, origin⟩ := ih (step config host event)
    have next : (step config host event).sequence ≤ host.sequence + 1 := by
      cases event with
      | start => exact Nat.zero_le _
      | flush => exact Nat.le_succ _
      | enqueue _ _ written => cases written <;> exact Nat.le_refl _
    have longer : host.sequence + (event :: rest).length = host.sequence + 1 + rest.length := by
      rw [List.length_cons]
      omega
    rw [longer]
    refine ⟨bounded.trans (Nat.add_le_add_right next _), fun written inside => ?_⟩
    rcases origin written inside with earlier | ⟨self, raw, event, millis, sequence⟩
    · cases event with
      | start => exact .inl earlier
      | flush => exact .inl earlier
      | enqueue self raw wrote =>
        cases wrote with
        | false => exact .inl earlier
        | true =>
          rcases List.mem_append.mp earlier with old | new
          · exact .inl old
          · refine .inr ⟨self, raw, List.mem_cons_self, ?_⟩
            rw [List.mem_singleton.mp new]
            exact ⟨rfl, Nat.le_add_right ..⟩
    · exact .inr ⟨self, raw, List.mem_cons_of_mem _ event, millis, sequence.trans (Nat.add_le_add_right next _)⟩

/-- Within the widths of the fields and under a clock that never goes back, a new file comes before an old one only within
    the millisecond of the old one, and with a counter that is no greater. -/
theorem disorder_within_millisecond {config : IntegratorConfig} {first rest : List Event} {self : Invocation} {raw : String}
    (clocked : Clocked (first ++ .enqueue self raw true :: rest)) (short : first.length + 1 < 10 ^ 9)
    (fits : (stamp self).millis < 10 ^ 15)
    (disorder : ¬ Ascending config (Runs.run (step config) {} first) (.enqueue self raw true)) :
    ∃ written ∈ (Runs.run (step config) {} first).enqueued, written.1.millis = (stamp self).millis ∧
      (Runs.run (step config) {} first).sequence < written.1.sequence := by
  unfold Ascending at disorder
  push Not at disorder
  obtain ⟨written, inside, _, precedes⟩ := disorder
  obtain ⟨bounded, origin⟩ := @enqueued_by config first {}
  rcases origin written inside with none | ⟨earlier, _, event, millis, sequence⟩
  · cases none
  have before : earlier.name_now ≤ self.name_now := by
    unfold Clocked at clocked
    rw [List.flatMap_append, List.pairwise_append] at clocked
    refine clocked.2.2 _ (List.mem_flatMap.mpr ⟨_, event, ?_⟩) _ ?_
    · exact List.mem_cons_of_mem _ List.mem_cons_self
    · rw [List.flatMap_cons]
      exact List.mem_append_left _ (List.mem_cons_of_mem _ List.mem_cons_self)
  have not_later : written.1.millis ≤ (stamp self).millis := by
    rw [millis]
    unfold stamp
    dsimp only
    omega
  have start : (0 : Nat) + first.length = first.length := Nat.zero_add _
  have sequence : written.1.sequence ≤ first.length := start ▸ sequence
  have bounded : (Runs.run (step config) {} first).sequence ≤ first.length := start ▸ bounded
  rw [precedes_iff_of_fits (a := stamp (counted _ self)) fits (not_later.trans_lt fits) (by show _ + 1 < _; omega)
    (by omega)] at precedes
  rcases precedes with earlier | ⟨same, earlier | ⟨equal, _⟩⟩
  · exact absurd not_later (Nat.not_le.mpr earlier)
  · have counter : (Runs.run (step config) {} first).sequence + 1 < written.1.sequence := earlier
    exact ⟨written, inside, same.symm, by omega⟩
  · have counter : (Runs.run (step config) {} first).sequence + 1 = written.1.sequence := equal
    exact ⟨written, inside, same.symm, by omega⟩

end SocTriage.SpoolOrder
