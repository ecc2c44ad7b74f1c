import SocTriage.Correlation
import SocTriage.Incidents
import SocTriage.Runs

/-!
The numbered identifiers of a date. The next number is read off the greatest existing
identifier as text, and four digits of padding keep that order the order of the numbers
only as long as the numbers have the same length.
-/
namespace SocTriage.Sequences

/-- The identifier with a number on a date. -/
def numbered (start day : String) (n : Nat) : String := start ++ "-" ++ day ++ "-" ++ Text.zero_padded 4 n

/-- An identifier the repository makes at some time. -/
def Generated (start id : String) : Prop := ∃ time n, id = numbered start (Text.wall_day time) n

/-- The identifiers of a date, as its prefix selects them. -/
def of_day (start day : String) (ids : List String) : List String :=
  ids.filter (Text.starts_with (start ++ "-" ++ day ++ "-"))

/-- The number of the greatest identifier of a date, as text; 0 when there is none. -/
def last_number (start day : String) (ids : List String) : Nat :=
  match (of_day start day ids).max? with
  | none => 0
  | some last => (Text.parse_decimal (Text.after_last '-' last.toList)).getD 0

/-- The identifiers after one creation: an identifier that is taken fails on the primary key. -/
def created (start : String) (ids : List String) (occurred_at : Int) : List String :=
  match next_sequence_id start ids occurred_at with
  | .error _ => ids
  | .ok id => if id ∈ ids then ids else ids ++ [id]

/-- The next identifier is held by no existing row. -/
def Fresh (start : String) (ids : List String) (occurred_at : Int) : Prop :=
  ∃ id, next_sequence_id start ids occurred_at = .ok id ∧ id ∉ ids

/-- The next identifier comes after every existing one of its date. -/
def Latest (start : String) (ids : List String) (occurred_at : Int) : Prop :=
  ∃ id, next_sequence_id start ids occurred_at = .ok id ∧
    ∀ old ∈ of_day start (Text.wall_day occurred_at) ids, old < id

/-- Over a run of creations the order of the identifiers is their creation order. -/
def CreationOrder (start : String) (ids : List String) (times : List Int) : Prop :=
  Runs.Along (created start) (Latest start) ids times

/-! ### The identifiers of a date -/

private theorem toList_numbered (start day : String) (n : Nat) :
    (numbered start day n).toList = (start ++ "-" ++ day ++ "-").toList ++ (Text.zero_padded 4 n).toList := by
  rw [numbered, String.toList_append]

private theorem no_dash (width n : Nat) : '-' ∉ (Text.zero_padded width n).toList := by
  intro inside
  exact absurd (Text.zero_padded_digits width n '-' inside) (by decide)

/-- The number is what follows the last dash. -/
theorem number_of_numbered (start day : String) (n : Nat) :
    Text.parse_decimal (Text.after_last '-' (numbered start day n).toList) = some n := by
  have dash : "-".toList = ['-'] := by decide
  rw [toList_numbered, String.toList_append, dash, List.append_assoc, List.singleton_append,
    Text.after_last_append _ (no_dash 4 n), Text.parse_decimal_zero_padded]

theorem numbered_lt {start day : String} {m n : Nat} :
    numbered start day m < numbered start day n ↔ (Text.zero_padded 4 m).toList < (Text.zero_padded 4 n).toList := by
  rw [String.lt_iff_toList_lt, toList_numbered, toList_numbered, Text.append_lt_append_iff]

/-- A date is three groups of digits, so no other date followed by a dash starts with it. -/
private theorem day_of_prefix {time time' : Int} {rest tail : List Char}
    (same : (Text.wall_day time).toList ++ '-' :: rest = (Text.wall_day time').toList ++ '-' :: tail) :
    Text.wall_day time = Text.wall_day time' ∧ rest = tail := by
  have dash : "-".toList = ['-'] := by decide
  simp only [Text.wall_day, String.toList_append, dash, List.append_assoc, List.singleton_append] at same
  obtain ⟨years, same⟩ := Text.split_at_separator (no_dash _ _) (no_dash _ _) same
  obtain ⟨months, same⟩ := Text.split_at_separator (no_dash _ _) (no_dash _ _) same
  obtain ⟨days, same⟩ := Text.split_at_separator (no_dash _ _) (no_dash _ _) same
  refine ⟨?_, same⟩
  simp only [Text.wall_day, String.toList_inj.mp years, String.toList_inj.mp months, String.toList_inj.mp days]

/-- Of the generated identifiers the prefix of a date selects those numbered on it. -/
theorem mem_of_day {start : String} {ids : List String} (generated : ∀ id ∈ ids, Generated start id) {time : Int}
    {id : String} :
    id ∈ of_day start (Text.wall_day time) ids ↔ id ∈ ids ∧ ∃ n, id = numbered start (Text.wall_day time) n := by
  rw [of_day, List.mem_filter]
  refine and_congr_right (fun stored => ?_)
  rw [Text.starts_with, List.isPrefixOf_iff_prefix]
  constructor
  · rintro ⟨rest, whole⟩
    obtain ⟨time', n, rfl⟩ := generated id stored
    have dash : "-".toList = ['-'] := by decide
    simp only [toList_numbered, String.toList_append, dash, List.append_assoc, List.cons_append,
      List.append_cancel_left_eq, List.cons.injEq, true_and] at whole
    obtain ⟨days, -⟩ := day_of_prefix whole
    exact ⟨n, by rw [days]⟩
  · rintro ⟨n, rfl⟩
    exact ⟨_, (toList_numbered ..).symm⟩

/-! ### The next identifier -/

/-- Of generated identifiers the date's greatest is the one with the last number, and the next takes the number after it. -/
theorem next_sequence_id_numbered {start : String} {ids : List String} (generated : ∀ id ∈ ids, Generated start id)
    (time : Int) :
    next_sequence_id start ids time =
        .ok (numbered start (Text.wall_day time) (last_number start (Text.wall_day time) ids + 1)) ∧
      ((of_day start (Text.wall_day time) ids = [] ∧ last_number start (Text.wall_day time) ids = 0) ∨
        (of_day start (Text.wall_day time) ids).max? =
          some (numbered start (Text.wall_day time) (last_number start (Text.wall_day time) ids))) := by
  rw [next_sequence_id, last_number]
  cases greatest : (of_day start (Text.wall_day time) ids).max? with
  | none =>
    rw [of_day] at greatest
    refine ⟨by simp only [greatest]; rfl, .inl ⟨List.max?_eq_none_iff.mp greatest, rfl⟩⟩
  | some last =>
    obtain ⟨_, n, rfl⟩ := (mem_of_day generated).mp (List.max?_mem greatest)
    rw [of_day] at greatest
    simp only [greatest, number_of_numbered, Option.getD_some, or_true, and_true]
    rfl

/-- Every identifier of the date is at most its greatest. -/
private theorem le_greatest {ids : List String} {last id : String} (greatest : ids.max? = some last) (inside : id ∈ ids) :
    id ≤ last :=
  (List.max?_eq_some_iff.mp greatest).2 id inside

/-- The next identifier is the greatest unless its number takes a digit more than there is padding and than the last took. -/
theorem latest_iff {start : String} {ids : List String} (generated : ∀ id ∈ ids, Generated start id) (time : Int) :
    Latest start ids time ↔ ∀ k ≥ 4, last_number start (Text.wall_day time) ids + 1 ≠ 10 ^ k := by
  obtain ⟨next, ⟨empty, zero⟩ | greatest⟩ := next_sequence_id_numbered generated time
  · refine iff_of_true ⟨_, next, by rw [empty]; simp⟩ ?_
    intro k wide
    have large : 10 ≤ 10 ^ k := Nat.le_self_pow (by omega) 10
    omega
  · rw [← Text.zero_padded_succ_lt_iff (by decide), ← @numbered_lt start (Text.wall_day time)]
    constructor
    · rintro ⟨id, same, above⟩
      cases next.symm.trans same
      exact above _ (List.max?_mem greatest)
    · intro below
      exact ⟨_, next, fun old inside => lt_of_le_of_lt (le_greatest greatest inside) below⟩

/-- The next identifier is taken exactly when the sequence has passed the end of the padding before. -/
theorem fresh_iff {start : String} {ids : List String} (generated : ∀ id ∈ ids, Generated start id) (time : Int) :
    Fresh start ids time ↔ ∀ k ≥ 4, last_number start (Text.wall_day time) ids + 1 = 10 ^ k →
      numbered start (Text.wall_day time) (10 ^ k) ∉ ids := by
  obtain ⟨next, _⟩ := next_sequence_id_numbered generated time
  constructor
  · rintro ⟨id, same, free⟩ k wide power
    cases next.symm.trans same
    rwa [power] at free
  · intro unpassed
    refine ⟨_, next, ?_⟩
    by_cases room : ∀ k ≥ 4, last_number start (Text.wall_day time) ids + 1 ≠ 10 ^ k
    · obtain ⟨id, same, above⟩ := (latest_iff generated time).mpr room
      cases next.symm.trans same
      intro inside
      exact lt_irrefl _ (above _ ((mem_of_day generated).mpr ⟨inside, _, rfl⟩))
    · push Not at room
      obtain ⟨k, wide, power⟩ := room
      rw [power]
      exact unpassed k wide power

/-! ### The repositories -/

/-- A committed or failed `create_context` leaves the context ids of one creation. -/
theorem create_context_ids (db : Database) (occurred_at : Int) :
    (db.session_scope (fun db => Correlation.create_context db occurred_at)).2.correlation_contexts.rows.map
        CorrelationContext.context_id =
      created "CORR" (db.correlation_contexts.rows.map CorrelationContext.context_id) occurred_at := by
  rw [created]
  cases next : next_sequence_id "CORR" (db.correlation_contexts.rows.map CorrelationContext.context_id) occurred_at with
  | error e =>
    have failed : Correlation.create_context db occurred_at = .error e := by rw [Correlation.create_context, next]; rfl
    rw [Database.session_scope_error failed]
  | ok id =>
    by_cases taken : id ∈ db.correlation_contexts.rows.map CorrelationContext.context_id
    · have refused : db.correlation_contexts.insert (Correlation.founded id occurred_at) = none :=
        Table.insert_eq_none.mpr (Table.has_iff.mpr (List.mem_map.mp taken))
      have failed : Correlation.create_context db occurred_at = .error .database := by
        rw [Correlation.create_context, next]
        show (db.correlation_contexts.insertOrFail _ >>= _) = _
        rw [Table.insertOrFail, refused]
        rfl
      rw [Database.session_scope_error failed]
      exact (if_pos taken).symm
    · have free : db.correlation_contexts.get (Correlation.founded id occurred_at).context_id = none :=
        Table.get_eq_none.mpr (fun row stored same => taken (List.mem_map.mpr ⟨row, stored, same⟩))
      obtain ⟨contexts, inserted⟩ := Table.insert_of_fresh free
      have done : Correlation.create_context db occurred_at = .ok (id, { db with correlation_contexts := contexts }) := by
        rw [Correlation.create_context, next]
        show (db.correlation_contexts.insertOrFail _ >>= _) = _
        rw [Table.insertOrFail, inserted]
        rfl
      rw [Database.session_scope_ok done]
      simp only [Table.insert_rows inserted, List.map_append, List.map_singleton, if_neg taken]
      rfl

/-- So does a creation of an incident for an alert of the database that no incident has as its primary alert. -/
theorem create_incident_ids {db : Database} {alert_id : UUID} {alert : Alert} (known : db.alerts.get alert_id = some alert)
    (unopened : ∀ old ∈ db.incidents.rows, old.primary_alert_id ≠ alert_id) (severity : DecisionSeverity)
    (group_key : String) (occurred_at : Int) :
    (db.session_scope (fun db => Incidents.create db alert_id severity group_key occurred_at)).2.incidents.rows.map
        Incident.incident_id =
      created "INC" (db.incidents.rows.map Incident.incident_id) occurred_at := by
  rw [created]
  cases next : next_sequence_id "INC" (db.incidents.rows.map Incident.incident_id) occurred_at with
  | error e =>
    have failed : Incidents.create db alert_id severity group_key occurred_at = .error e := by
      simp only [Incidents.create, known, next]; rfl
    rw [Database.session_scope_error failed]
  | ok id =>
    by_cases taken : id ∈ db.incidents.rows.map Incident.incident_id
    · have refused : db.incidents.insertUnique Incident.primary_alert_id
          (Incidents.opened id alert_id severity group_key occurred_at) = none := by
        rw [Option.eq_none_iff_forall_not_mem]
        intro incidents inserted
        have occupied : db.incidents.insert (Incidents.opened id alert_id severity group_key occurred_at) = none :=
          Table.insert_eq_none.mpr (Table.has_iff.mpr (List.mem_map.mp taken))
        rw [(Table.insertUnique_eq_some.mp inserted).2] at occupied
        contradiction
      have failed : Incidents.create db alert_id severity group_key occurred_at = .error .database := by
        simp only [Incidents.create, known, next, Bind.bind, Except.bind, refused]
      rw [Database.session_scope_error failed]
      exact (if_pos taken).symm
    · have free : db.incidents.get (Incidents.opened id alert_id severity group_key occurred_at).incident_id = none :=
        Table.get_eq_none.mpr (fun row stored same => taken (List.mem_map.mpr ⟨row, stored, same⟩))
      obtain ⟨incidents, inserted⟩ := Table.insert_of_fresh free
      have accepted := Table.insertUnique_eq_some.mpr ⟨unopened, inserted⟩
      have done : Incidents.create db alert_id severity group_key occurred_at =
          .ok (Incidents.opened id alert_id severity group_key occurred_at,
            { db with incidents, alerts := db.alerts.modify alert_id (Incidents.linked id) }) := by
        simp only [Incidents.create, known, next, Bind.bind, Except.bind, accepted, Incidents.link_alert]
        rfl
      rw [Database.session_scope_ok done]
      simp only [Table.insert_rows inserted, List.map_append, List.map_singleton, if_neg taken]
      rfl

/-! ### Runs of creations -/

theorem created_generated {start : String} {ids : List String} (generated : ∀ id ∈ ids, Generated start id) (time : Int) :
    ∀ id ∈ created start ids time, Generated start id := by
  rw [created, (next_sequence_id_numbered generated time).1]
  dsimp only
  split
  · exact generated
  · intro id inside
    rcases List.mem_append.mp inside with old | new
    · exact generated id old
    · rw [List.mem_singleton] at new
      exact ⟨time, _, new⟩

/-- A creation in order takes the number after the last. -/
private theorem created_last {start : String} {ids : List String} (generated : ∀ id ∈ ids, Generated start id) {time : Int}
    (latest : Latest start ids time) :
    last_number start (Text.wall_day time) (created start ids time) = last_number start (Text.wall_day time) ids + 1 := by
  obtain ⟨next, _⟩ := next_sequence_id_numbered generated time
  obtain ⟨id, same, above⟩ := latest
  cases next.symm.trans same
  have free : numbered start (Text.wall_day time) (last_number start (Text.wall_day time) ids + 1) ∉ ids := fun inside =>
    lt_irrefl _ (above _ ((mem_of_day generated).mpr ⟨inside, _, rfl⟩))
  have grown : created start ids time =
      ids ++ [numbered start (Text.wall_day time) (last_number start (Text.wall_day time) ids + 1)] := by
    rw [created, next]
    simp only [if_neg free]
  have generated' := created_generated generated time
  rw [grown] at generated' ⊢
  generalize last_number start (Text.wall_day time) ids + 1 = n at *
  have greatest : (of_day start (Text.wall_day time) (ids ++ [numbered start (Text.wall_day time) n])).max? =
      some (numbered start (Text.wall_day time) n) := by
    refine List.max?_eq_some_iff.mpr ⟨(mem_of_day generated').mpr ⟨by simp, n, rfl⟩, ?_⟩
    intro id inside
    obtain ⟨stored, numbered_id⟩ := (mem_of_day generated').mp inside
    rcases List.mem_append.mp stored with old | new
    · exact le_of_lt (above id ((mem_of_day generated).mpr ⟨old, numbered_id⟩))
    · rw [List.mem_singleton.mp new]
  rw [last_number, greatest]
  simp only [number_of_numbered, Option.getD_some]

/-- A creation at the end of the padding goes below the last number, and every creation after it fails. -/
theorem blocked {start : String} {ids : List String} (generated : ∀ id ∈ ids, Generated start id) {time : Int} {k : Nat}
    (wide : k ≥ 4) (passed : last_number start (Text.wall_day time) ids + 1 = 10 ^ k) :
    ¬Fresh start (created start ids time) time := by
  obtain ⟨next, greatest⟩ := next_sequence_id_numbered generated time
  have filled : ¬(of_day start (Text.wall_day time) ids = [] ∧ last_number start (Text.wall_day time) ids = 0) := by
    have large : 10 ≤ 10 ^ k := Nat.le_self_pow (by omega) 10
    rintro ⟨_, zero⟩
    omega
  have greatest := greatest.resolve_left filled
  rw [passed] at next
  by_cases taken : numbered start (Text.wall_day time) (10 ^ k) ∈ ids
  · have kept : created start ids time = ids := by
      rw [created, next]
      simp only [if_pos taken]
    rw [kept, fresh_iff generated]
    intro unpassed
    exact unpassed k wide passed taken
  · have grown : created start ids time = ids ++ [numbered start (Text.wall_day time) (10 ^ k)] := by
      rw [created, next]
      simp only [if_neg taken]
    have generated' := created_generated generated time
    have below : numbered start (Text.wall_day time) (10 ^ k) ≤
        numbered start (Text.wall_day time) (last_number start (Text.wall_day time) ids) := by
      refine le_of_not_gt (fun above => ?_)
      rw [← passed, numbered_lt, Text.zero_padded_succ_lt_iff (by decide)] at above
      exact above k wide passed
    rw [grown] at generated' ⊢
    have same : (of_day start (Text.wall_day time) (ids ++ [numbered start (Text.wall_day time) (10 ^ k)])).max? =
        some (numbered start (Text.wall_day time) (last_number start (Text.wall_day time) ids)) := by
      obtain ⟨stored, held⟩ := (mem_of_day generated).mp (List.max?_mem greatest)
      refine List.max?_eq_some_iff.mpr ⟨(mem_of_day generated').mpr ⟨List.mem_append_left _ stored, held⟩, ?_⟩
      intro id inside
      obtain ⟨stored, numbered_id⟩ := (mem_of_day generated').mp inside
      rcases List.mem_append.mp stored with old | new
      · exact le_greatest greatest ((mem_of_day generated).mpr ⟨old, numbered_id⟩)
      · rwa [List.mem_singleton.mp new]
    have last : last_number start (Text.wall_day time) (ids ++ [numbered start (Text.wall_day time) (10 ^ k)]) =
        last_number start (Text.wall_day time) ids := by
      rw [last_number, same]
      simp only [number_of_numbered, Option.getD_some]
    rw [fresh_iff generated']
    intro unpassed
    exact unpassed k wide (by rw [last, passed]) (List.mem_append_right _ (List.mem_singleton.mpr rfl))

/-- From any generated identifiers, the creations of one date are in order exactly when no power of ten from 10000 on
    lies among their numbers. -/
private theorem creation_order_iff {start day : String} {times : List Int}
    (one_day : ∀ time ∈ times, Text.wall_day time = day)
    {ids : List String} (generated : ∀ id ∈ ids, Generated start id) :
    CreationOrder start ids times ↔
      ∀ k ≥ 4, ¬(last_number start day ids < 10 ^ k ∧ 10 ^ k ≤ last_number start day ids + times.length) := by
  induction times generalizing ids with
  | nil => exact iff_of_true trivial (by simp)
  | cons time rest ih =>
    have here : Text.wall_day time = day := one_day time List.mem_cons_self
    have tail := ih (fun later inside => one_day later (List.mem_cons_of_mem _ inside)) (created_generated generated time)
    have head := latest_iff generated time
    rw [here] at head
    rw [List.length_cons]
    constructor
    · rintro ⟨latest, ordered⟩ k wide
      have last := created_last generated latest
      rw [here] at last
      have first := head.mp latest k wide
      have others := tail.mp ordered k wide
      rw [last] at others
      omega
    · intro room
      have latest : Latest start ids time := by
        rw [head]
        intro k wide power
        exact room k wide (by omega)
      have last := created_last generated latest
      rw [here] at last
      refine ⟨latest, tail.mpr ?_⟩
      intro k wide
      have others := room k wide
      rw [last]
      omega

/-- Creations in order leave the identifiers of the date in the order of their rows. -/
theorem creation_order_sorted {start day : String} {times : List Int} (one_day : ∀ time ∈ times, Text.wall_day time = day)
    {ids : List String} (sorted : (of_day start day ids).Pairwise (· < ·)) (ordered : CreationOrder start ids times) :
    (of_day start day (Runs.run (created start) ids times)).Pairwise (· < ·) := by
  induction times generalizing ids with
  | nil => exact sorted
  | cons time rest ih =>
    obtain ⟨⟨id, next, above⟩, ordered⟩ := ordered
    rw [one_day time List.mem_cons_self] at above
    refine ih (fun later inside => one_day later (List.mem_cons_of_mem _ inside)) ?_ ordered
    rw [created, next]
    dsimp only
    split
    · exact sorted
    · rw [of_day, List.filter_append, List.pairwise_append]
      refine ⟨sorted, List.Pairwise.sublist List.filter_sublist (List.pairwise_singleton _ _),
        fun old inside new latest => ?_⟩
      rw [List.mem_singleton.mp (List.mem_filter.mp latest).1]
      exact above old inside

/-- The next identifier of any generated identifiers of a date is free, and a run of creations on it keeps the
    identifiers in creation order, exactly as long as the numbers do not reach five digits while the date's greatest
    identifier as text still has four; and likewise for each further digit. -/
theorem sequence_holds_iff {start : String} {ids : List String} (generated : ∀ id ∈ ids, Generated start id) {time : Int}
    {times : List Int} (one_day : ∀ later ∈ times, Text.wall_day later = Text.wall_day time) :
    (Fresh start ids time ↔ ∀ k ≥ 4, last_number start (Text.wall_day time) ids + 1 = 10 ^ k →
      numbered start (Text.wall_day time) (10 ^ k) ∉ ids) ∧
    (CreationOrder start ids times ↔ ∀ k ≥ 4, ¬(last_number start (Text.wall_day time) ids < 10 ^ k ∧
      10 ^ k ≤ last_number start (Text.wall_day time) ids + times.length)) :=
  ⟨fresh_iff generated time, creation_order_iff one_day generated⟩

theorem sequence_holds_third_incident :
    Fresh "INC" ["INC-1970-01-01-0001", "INC-1970-01-01-0002"] 0 ∧
    CreationOrder "INC" ["INC-1970-01-01-0001", "INC-1970-01-01-0002"] [0, 3600000000] := by
  have generated : ∀ id ∈ ["INC-1970-01-01-0001", "INC-1970-01-01-0002"], Generated "INC" id := by
    intro id inside
    rcases List.mem_pair.mp inside with rfl | rfl
    · exact ⟨0, 1, by decide⟩
    · exact ⟨0, 2, by decide⟩
  have last : last_number "INC" (Text.wall_day 0) ["INC-1970-01-01-0001", "INC-1970-01-01-0002"] = 2 := by decide
  obtain ⟨fresh, ordered⟩ := @sequence_holds_iff "INC" _ generated 0 [0, 3600000000] (by decide)
  rw [last] at fresh ordered
  have large : ∀ k ≥ 4, 10000 ≤ 10 ^ k := fun k wide => Nat.pow_le_pow_right (n := 10) (by decide) wide
  refine ⟨fresh.mpr (fun k wide power => ?_), ordered.mpr (fun k wide reached => ?_)⟩
  · have := large k wide; omega
  · have := large k wide
    have two : [0, 3600000000].length = 2 := rfl
    omega

private theorem run_generated {start : String} (times : List Int) :
    ∀ id ∈ Runs.run (created start) [] times, Generated start id :=
  @Runs.invariant _ _ (created start) (fun ids => ∀ id ∈ ids, Generated start id)
    (fun _ time generated => created_generated generated time) [] (fun _ none => absurd none List.not_mem_nil) times

private theorem run_last {start day : String} {times : List Int} (one_day : ∀ time ∈ times, Text.wall_day time = day)
    {ids : List String} (generated : ∀ id ∈ ids, Generated start id) (ordered : CreationOrder start ids times) :
    last_number start day (Runs.run (created start) ids times) = last_number start day ids + times.length := by
  induction times generalizing ids with
  | nil => rfl
  | cons time rest ih =>
    have here : Text.wall_day time = day := one_day time List.mem_cons_self
    have last := created_last generated ordered.1
    rw [here] at last
    have tail := ih (fun later inside => one_day later (List.mem_cons_of_mem _ inside))
      (created_generated generated time) ordered.2
    rw [Runs.run, tail, last, List.length_cons]
    omega

/-- A date of as many incidents as the padding has numbers and one is over: the last one is out of order, and every further
    creation fails. -/
private theorem full_date {start : String} {n : Nat} (full : n + 1 = 10 ^ 4) (time : Int) :
    ¬Fresh start (Runs.run (created start) [] (List.replicate (n + 1) time)) time ∧
      ¬CreationOrder start [] (List.replicate (n + 1) time) := by
  have one_day : ∀ m, ∀ later ∈ List.replicate m time, Text.wall_day later = Text.wall_day time :=
    fun m later inside => by rw [List.eq_of_mem_replicate inside]
  have none_yet : last_number start (Text.wall_day time) [] = 0 := rfl
  have nothing : ∀ id ∈ ([] : List String), Generated start id := fun _ none => absurd none List.not_mem_nil
  constructor
  · have ordered : CreationOrder start [] (List.replicate n time) := by
      rw [creation_order_iff (one_day n) nothing, none_yet, List.length_replicate]
      intro k wide
      have large : 10 ^ 4 ≤ 10 ^ k := Nat.pow_le_pow_right (by decide) wide
      omega
    have last := run_last (one_day n) nothing ordered
    rw [none_yet, List.length_replicate, Nat.zero_add] at last
    have generated : ∀ id ∈ Runs.run (created start) [] (List.replicate n time), Generated start id :=
      run_generated (List.replicate n time)
    rw [List.replicate_succ', Runs.run_append]
    exact blocked generated (k := 4) (by decide) (by rw [last, full])
  · rw [creation_order_iff (one_day _) nothing, none_yet, List.length_replicate, full]
    intro none
    exact none 4 (by decide) (by decide)

/-- Ten thousand incidents of one date leave `…-9999` the greatest identifier as text: `…-10000` is out of order, and every
    further creation takes it again and fails. -/
theorem ten_thousand_incidents_block_the_date :
    (∀ id ∈ Runs.run (created "INC") [] (List.replicate 10000 0), Generated "INC" id) ∧
      ¬Fresh "INC" (Runs.run (created "INC") [] (List.replicate 10000 0)) 0 ∧
      ¬CreationOrder "INC" [] (List.replicate 10000 0) := by
  obtain ⟨n, many⟩ : ∃ n, n + 1 = 10000 := ⟨9999, rfl⟩
  rw [← many]
  exact ⟨run_generated _, full_date many 0⟩

end SocTriage.Sequences
