import SocTriage.DedupeHistory

/-!
Groups under clocks that step backwards. A recurrence sets the time a group was last seen
to the time of its own reception, also where that is the earlier one.
-/
namespace SocTriage.RecurrenceOrder
open Deduplication DedupeHistory

/-- A tracked group counts an event, and its span does not end before it begins. -/
structure Spanned (group : GroupState) : Prop where
  occurs : 1 ≤ group.occurrences
  span : ∃ first last, group.first_seen = some first ∧ group.last_seen = some last ∧ first.instant ≤ last.instant

/-- Neither the generation nor the time last seen goes back. -/
structure Advances (before after : GroupState) : Prop where
  generation : before.generation ≤ after.generation
  last_seen : ∀ last last', before.last_seen = some last → after.last_seen = some last' → last.instant ≤ last'.instant

/-- Every group is spanned after a step, and each one tracked before it has advanced. -/
structure Kept (before after : InMemoryDeduplicator) : Prop where
  spanned : ∀ key group, after.group_state key = some group → Spanned group
  advances : ∀ key group, before.group_state key = some group →
    ∃ next, after.group_state key = some next ∧ Advances group next

/-- An event that a tracked group does not know was not received before the group was last seen. -/
def InOrder (sha256 : Json → String) (self : InMemoryDeduplicator) (delivery : Delivery) : Prop :=
  ∀ identity group_key fingerprint group last,
    delivery_keys sha256 delivery.alert = .ok (identity, group_key, fingerprint) → delivery.received_at.aware = true →
    self.group_state group_key = some group → group.last_seen = some last →
    (prune_expired group delivery.received_at self.window).events.get identity = none →
    last.instant ≤ delivery.received_at.instant

/-- What a delivery makes of its group. -/
inductive Moved (window : Window) (identity : String) (received : Datetime) : Option GroupState → GroupState → Prop
  | started {after : GroupState} (occurrences : after.occurrences = 1) (first_seen : after.first_seen = some received)
      (last_seen : after.last_seen = some received) : Moved window identity received none after
  | absorbed {before after : GroupState} (known : (prune_expired before received window).events.get identity ≠ none)
      (generation : after.generation = before.generation) (occurrences : after.occurrences = before.occurrences)
      (first_seen : after.first_seen = before.first_seen) (last_seen : after.last_seen = before.last_seen) :
      Moved window identity received (some before) after
  | restarted {before after : GroupState} {last : Datetime} (seen : before.last_seen = some last)
      (expired : received.instant - last.instant > window.delta) (generation : after.generation = before.generation + 1)
      (occurrences : after.occurrences = 1) (first_seen : after.first_seen = some received)
      (last_seen : after.last_seen = some received) : Moved window identity received (some before) after
  | continued {before after : GroupState} {last : Datetime} (seen : before.last_seen = some last)
      (unknown : (prune_expired before received window).events.get identity = none)
      (generation : after.generation = before.generation) (occurrences : after.occurrences = before.occurrences + 1)
      (first_seen : after.first_seen = before.first_seen) (last_seen : after.last_seen = some received) :
      Moved window identity received (some before) after

private theorem decide_delivery_moves {group : Option GroupState} (spanned : ∀ g, group = some g → Spanned g)
    (group_key identity fingerprint : String) (received : Datetime) (window : Window) (canonical : CanonicalAlert) :
    ∃ decision dedupe, decide_delivery group group_key identity fingerprint received window canonical = .ok decision ∧
      dedupe_info decision.group identity = .ok dedupe ∧
      decision.group.group_key = (group.map GroupState.group_key).getD group_key ∧
      Moved window identity received group decision.group := by
  cases group with
  | none =>
    exact ⟨_, _, decide_delivery_none group_key identity fingerprint received window canonical,
      dedupe_info_ok identity rfl rfl, rfl, .started rfl rfl rfl⟩
  | some before =>
    obtain ⟨first, last, begun, seen, _⟩ := (spanned before rfl).span
    cases known : (prune_expired before received window).events.get identity with
    | some existing =>
      refine ⟨_, _, classify_known known fingerprint received window canonical, dedupe_info_ok identity begun seen, rfl, ?_⟩
      exact .absorbed (by rw [known]; exact Option.some_ne_none existing) rfl rfl rfl rfl
    | none =>
      have decided := classify_new known begun seen fingerprint received window canonical
      by_cases expired : received.instant - last.instant > window.delta
      · rw [recurred_expired _ expired] at decided
        exact ⟨_, _, decided, dedupe_info_ok identity rfl rfl, rfl, .restarted seen expired rfl rfl rfl rfl⟩
      · rw [recurred_within _ expired] at decided
        exact ⟨_, _, decided, dedupe_info_ok identity begun rfl, rfl, .continued seen known rfl rfl rfl rfl⟩

/-- The group a delivery leaves is spanned and has advanced exactly when the delivery did not come out of order. -/
private theorem Moved.kept_iff {window : Window} {identity : String} {received : Datetime} {before after : GroupState}
    (moved : Moved window identity received (some before) after) (spanned : Spanned before) :
    Spanned after ∧ Advances before after ↔ ∀ last, before.last_seen = some last →
      (prune_expired before received window).events.get identity = none → last.instant ≤ received.instant := by
  obtain ⟨occurs, first, last, begun, seen, span⟩ := spanned
  cases moved with
  | absorbed known generation occurrences first_seen last_seen =>
    refine iff_of_true ⟨⟨by omega, first, last, first_seen.trans begun, last_seen.trans seen, span⟩, by omega, ?_⟩ ?_
    · intro old new was now
      rw [last_seen, was] at now
      cases now
      exact le_refl _
    · intro _ _ unknown
      exact absurd unknown known
  | restarted seen' expired generation occurrences first_seen last_seen =>
    rw [seen] at seen'
    cases seen'
    have later : last.instant ≤ received.instant := by
      have positive : 0 ≤ window.delta := Int.mul_nonneg (Int.natCast_nonneg _) (by decide)
      omega
    refine iff_of_true ⟨⟨by omega, received, received, first_seen, last_seen, le_refl _⟩, by omega, ?_⟩ ?_
    · intro old new was now
      cases seen.symm.trans was
      cases last_seen.symm.trans now
      exact later
    · intro old was _
      cases seen.symm.trans was
      exact later
  | continued seen' unknown generation occurrences first_seen last_seen =>
    rw [seen] at seen'
    cases seen'
    constructor
    · rintro ⟨_, _, advanced⟩ old was _
      exact advanced old received was last_seen
    · intro ordered
      have later := ordered last seen unknown
      refine ⟨⟨by omega, first, received, first_seen.trans begun, last_seen, by omega⟩, by omega, ?_⟩
      intro old new was now
      cases seen.symm.trans was
      cases last_seen.symm.trans now
      exact later

private theorem Advances.refl (group : GroupState) : Advances group group := by
  refine ⟨le_refl _, ?_⟩
  intro last last' was now
  cases was.symm.trans now
  exact le_refl _

private theorem kept_self {self : InMemoryDeduplicator}
    (spanned : ∀ key group, self.group_state key = some group → Spanned group) :
    Kept self self := ⟨spanned, fun _ group found => ⟨group, found, .refl group⟩⟩

section
variable {sha256 : Json → String} {self : InMemoryDeduplicator} {delivery : Delivery}

/-- A delivery with keys and an offset moves the group of its key only. -/
private theorem deliver_moves (spanned : ∀ key group, self.group_state key = some group → Spanned group)
    {identity group_key fingerprint : String}
    (keys : delivery_keys sha256 delivery.alert = .ok (identity, group_key, fingerprint))
    (zoned : delivery.received_at.aware = true) :
    ∃ after, Moved self.window identity delivery.received_at.as_utc (self.group_state group_key) after ∧
      ∀ key, (deliver sha256 self delivery).2.group_state key =
        if group_key = key then some after else self.group_state key := by
  obtain ⟨decision, dedupe, decided, info, key, moved⟩ := @decide_delivery_moves (self.groups.get group_key)
    (spanned group_key) group_key identity fingerprint delivery.received_at.as_utc self.window delivery.canonical
  have same : decision.group.group_key = group_key := by
    rw [key]
    cases found : self.groups.get group_key with
    | none => rfl
    | some group =>
      show group.group_key = group_key
      exact Table.get_key found
  refine ⟨decision.group, moved, ?_⟩
  intro key
  rw [deliver, process_ok keys zoned decided info]
  show (self.groups.put decision.group).get key = _
  rw [Table.get_put, same]
  rfl

private theorem deliver_kept_iff (spanned : ∀ key group, self.group_state key = some group → Spanned group) :
    Kept self (deliver sha256 self delivery).2 ↔ InOrder sha256 self delivery := by
  cases keys : delivery_keys sha256 delivery.alert with
  | error e =>
    have refused : (deliver sha256 self delivery).2 = self := by rw [deliver, process_refused keys]
    rw [refused]
    refine iff_of_true (kept_self spanned) ?_
    intro _ _ _ _ _ given
    rw [keys] at given
    cases given
  | ok value =>
    obtain ⟨identity, group_key, fingerprint⟩ := value
    cases zoned : delivery.received_at.aware with
    | false =>
      have refused : (deliver sha256 self delivery).2 = self := by rw [deliver, process_naive keys zoned]
      rw [refused]
      refine iff_of_true (kept_self spanned) ?_
      intro _ _ _ _ _ _ aware
      rw [zoned] at aware
      cases aware
    | true =>
      obtain ⟨after, moved, groups⟩ := deliver_moves spanned keys zoned
      have pruned (group : GroupState) : prune_expired group delivery.received_at.as_utc self.window =
          prune_expired group delivery.received_at self.window := by
        rw [prune_expired, prune_expired, Datetime.instant_as_utc]
      have ordered : InOrder sha256 self delivery ↔ ∀ group last, self.group_state group_key = some group →
          group.last_seen = some last →
          (prune_expired group delivery.received_at.as_utc self.window).events.get identity = none →
          last.instant ≤ delivery.received_at.as_utc.instant := by
        unfold InOrder
        rw [Datetime.instant_as_utc, keys, zoned]
        simp only [pruned]
        constructor
        · intro each group last
          exact each identity group_key fingerprint group last rfl trivial
        · rintro each _ _ _ group last ⟨⟩ _
          exact each group last
      have others {key : String} (other : group_key ≠ key) :
          (deliver sha256 self delivery).2.group_state key = self.group_state key := (groups key).trans (if_neg other)
      have mine : (deliver sha256 self delivery).2.group_state group_key = some after := (groups group_key).trans (if_pos rfl)
      have kept : Kept self (deliver sha256 self delivery).2 ↔ Spanned after ∧
          ∀ before, self.group_state group_key = some before → Advances before after := by
        constructor
        · rintro ⟨spanned, advances⟩
          refine ⟨spanned group_key after mine, ?_⟩
          intro before tracked
          obtain ⟨next, found, advanced⟩ := advances group_key before tracked
          cases mine.symm.trans found
          exact advanced
        · rintro ⟨ok, advances⟩
          constructor
          · intro key group found
            by_cases same : group_key = key
            · subst same
              cases mine.symm.trans found
              exact ok
            · exact spanned key group ((others same).symm.trans found)
          · intro key group tracked
            by_cases same : group_key = key
            · subst same
              exact ⟨after, mine, advances group tracked⟩
            · exact ⟨group, (others same).trans tracked, .refl group⟩
      rw [kept, ordered]
      cases tracked : self.group_state group_key with
      | none =>
        rw [tracked] at moved
        refine iff_of_true ⟨?_, fun _ none_tracked => by cases none_tracked⟩ (fun _ _ none_tracked => by cases none_tracked)
        cases moved with
        | started occurrences first_seen last_seen => exact ⟨by omega, _, _, first_seen, last_seen, le_refl _⟩
      | some before =>
        rw [tracked] at moved
        have one := moved.kept_iff (spanned group_key before tracked)
        constructor
        · rintro ⟨ok, advances⟩ _ last ⟨⟩ seen unknown
          exact one.mp ⟨ok, advances before rfl⟩ last seen unknown
        · intro each
          obtain ⟨ok, advanced⟩ := one.mpr (fun last seen unknown => each before last rfl seen unknown)
          refine ⟨ok, ?_⟩
          rintro _ ⟨⟩
          exact advanced
end

/-- Each delivery of a run keeps the groups spanned and moves none of them back exactly when no event that is new to a
    tracked group comes before the group was last seen. -/
theorem kept_along_iff (sha256 : Json → String) (window : Window) (deliveries : List Delivery) :
    Runs.Along (fun self delivery => (deliver sha256 self delivery).2)
        (fun self delivery => Kept self (deliver sha256 self delivery).2) { window } deliveries ↔
      Runs.Along (fun self delivery => (deliver sha256 self delivery).2) (InOrder sha256) { window } deliveries := by
  refine @Runs.along_congr _ _ _ _ _ (fun self => ∀ key group, self.group_state key = some group → Spanned group)
    (fun _ _ spanned => deliver_kept_iff spanned) (fun _ _ _ kept => kept.spanned) _ _ ?_
  intro key group tracked
  cases tracked

/-- Two failed logins of an agent, of which the second is received a second before the first. -/
def stepped_back : List Delivery :=
  [("1", 60), ("2", 59)].map (fun (id, at_seconds) =>
    { alert := { failed_login 1 with id := some id }
      canonical := failed_login_alert id (Datetime.of_instant (seconds at_seconds))
      received_at := Datetime.of_instant (seconds at_seconds) })

/-- The group's span then ends before it begins. -/
theorem span_inverted : ¬ ∀ (sha256 : Json → String) (window : Window) (deliveries : List Delivery),
    (∀ delivery ∈ deliveries, delivery.received_at.aware = true) →
    Runs.Along (fun self delivery => (deliver sha256 self delivery).2)
      (fun self delivery => Kept self (deliver sha256 self delivery).2) { window } deliveries := by
  intro always
  obtain ⟨_, second, _⟩ := always failed_login_digest ⟨60, by decide⟩ stepped_back (by decide)
  have inverted : ((Runs.run (fun self delivery => (deliver failed_login_digest self delivery).2)
      { window := ⟨60, by decide⟩ } stepped_back).group_state "wazuh:5710:001").map (fun group =>
        (group.first_seen, group.last_seen)) =
      some (some (Datetime.of_instant (seconds 60)), some (Datetime.of_instant (seconds 59))) := by decide
  obtain ⟨group, tracked, span⟩ := Option.map_eq_some_iff.mp inverted
  obtain ⟨_, first, last, begun, seen, ordered⟩ := second.spanned _ group tracked
  rw [begun, seen] at span
  cases span
  exact absurd ordered (by decide)

end SocTriage.RecurrenceOrder
