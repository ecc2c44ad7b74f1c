import SocTriage.IncidentMigration
import SocTriage.Runs

/-!
Runs of the migration that are interrupted, and runs after them. From the copy of the rows
to the restoring of the pragma the batch is one transaction, so an interruption leaves the
table as it was or whole, and the next run completes with everything an uninterrupted run
leaves (`interrupted_runs_recover`). The recovery rests on that transaction: with each
statement durable by itself rows are still never lost, but the indexes that an interrupted
run has not created again are reflected by no later run, and no check misses them
(`durably_recovers_iff`).
-/
namespace SocTriage.MigrationRecovery
open Durable Durable.Program IncidentMigration

/-! ### What a run has to leave -/

/-- The rows of a table in the columns of another are the rows of the other. -/
def SameRows (t u : Relation) : Prop := u.rows.map (restrict t.names) = t.rows.map (restrict t.names)

/-- The rows of `alerts` are in `alerts` or in the scratch table. -/
def Kept (start db : Database) : Prop :=
  ∃ t u, start.alerts = some t ∧ (db.alerts = some u ∨ db.scratch = some u) ∧ SameRows t u

/-- The database is what an uninterrupted run leaves, with every index that `alerts` had and the rows of every table. -/
structure Complete (alembic : Alembic) (start db : Database) : Prop where
  uninterrupted : ∀ foreign_keys, db = ((upgrade alembic).final ⟨start, foreign_keys, none⟩).toDatabase
  alerts : ∃ t u, start.alerts = some t ∧ db.alerts = some u ∧ t.indexes ⊆ u.indexes ∧ SameRows t u
  others : db.others = start.others

/-- A run raises and keeps the rows, or completes, in what is durable of its last state. -/
structure Recovers (durable : Connection → Database) (alembic : Alembic) (start db : Database) : Prop where
  refused : ∀ foreign_keys error, ((upgrade alembic).run ⟨db, foreign_keys, none⟩).2 = .error error →
    Kept start (durable ((upgrade alembic).final ⟨db, foreign_keys, none⟩))
  completed : ∀ foreign_keys, ((upgrade alembic).run ⟨db, foreign_keys, none⟩).2 = .ok () →
    Complete alembic start (durable ((upgrade alembic).final ⟨db, foreign_keys, none⟩))

/-! ### Interruptions -/

/-- A run on a new connection that is interrupted after some statements. -/
structure Interruption where
  foreign_keys : Bool
  statements : Nat

/-- What an interruption leaves is what is durable of the state: with `Connection.left` an open transaction is rolled back,
    by the database when the process is killed and by the handler of the batch when it raises; with `Connection.toDatabase`
    each statement would be durable by itself, those of a transaction too. -/
def attempt (durable : Connection → Database) (alembic : Alembic) (db : Database) (cut : Interruption) : Database :=
  durable ((upgrade alembic).interrupted ⟨db, cut.foreign_keys, none⟩ cut.statements)

/-- How many statements complete `incidents`. -/
def to_create : Option Relation → Nat
  | none => 1 + INCIDENT_INDEXES.length
  | some t => (INCIDENT_INDEXES.filter (fun index => (index_def t index.name).isNone)).length

/-- How many statements come before the batch: the orphaned scratch table is dropped, `incidents` and its indexes are
    created as far as they are missing, and, with a commit before, the enforcement of foreign keys is switched off. -/
def before_batch (db : Database) : Nat := (if db.scratch.isSome then 1 else 0) + to_create db.incidents + 2

/-- The batch puts a new table in the place of the table. -/
def Recreated (alembic : Alembic) (t : Relation) : Prop :=
  alert_link_fk_present t = false ∨ alembic.recreates = true ∧
    ((column_def t ALERT_LINK_COLUMN.name).isSome = false ∨ alert_link_index_present t = false)

/-- The interruption comes after the renaming of the scratch table, the fourth statement of the batch, and before the last
    of the indexes that the table had is created again. -/
def Midway (alembic : Alembic) (db : Database) (statements : Nat) : Prop :=
  ∃ t, db.alerts = some t ∧ Recreated alembic t ∧ before_batch db + 4 ≤ statements ∧
    statements < before_batch db + 4 + t.indexes.length

/-! ### Indexes -/

/-- The names of some indexes of `alerts`, of the indexes of `incidents` and of those of the other tables are different. -/
def Distinct (indexes : List Index) (others : List (String × Relation)) : Prop :=
  ((indexes ++ (INCIDENT_INDEXES ++ others.flatMap (fun other => other.2.indexes))).map Index.name).Nodup

private theorem Distinct.sublist {indexes fewer : List Index} {others : List (String × Relation)}
    (distinct : Distinct indexes others) (sub : fewer.Sublist indexes) : Distinct fewer others :=
  List.Nodup.sublist ((sub.append_right _).map Index.name) distinct

private theorem index_free {db : Database} {before later : List Index} {index : Index}
    (distinct : ((before ++ index :: later).map Index.name).Nodup)
    (inside : ∀ relation ∈ db.relations, ∀ other ∈ relation.2.indexes, other ∈ before ++ later) :
    index_taken db index.name = false := by
  rw [List.map_append, List.map_cons, List.nodup_middle] at distinct
  have other_name := (List.nodup_cons.mp distinct).1
  cases taken : index_taken db index.name with
  | false => rfl
  | true =>
    obtain ⟨relation, member, found⟩ := List.any_eq_true.mp taken
    obtain ⟨other, listed, same⟩ := List.any_eq_true.mp found
    have there := List.mem_map_of_mem (f := Index.name) (inside relation member other listed)
    rw [beq_iff_eq.mp same, List.map_append] at there
    exact absurd there other_name

/-- `incidents` with the first of its indexes. -/
def incidents_at (n : Nat) : Relation := { INCIDENTS with indexes := INCIDENT_INDEXES.take n }

/-- A database with `incidents` complete. -/
abbrev prepared (t : Relation) (others : List (String × Relation)) : Database := ⟨some t, none, some (incidents_at 6), others⟩

private theorem take_succ_of_get {xs : List Index} {n : Nat} {index : Index} (found : xs[n]? = some index) :
    xs.take (n + 1) = xs.take n ++ [index] ∧ xs = xs.take n ++ index :: xs.drop (n + 1) := by
  obtain ⟨short, rfl⟩ := List.getElem?_eq_some_iff.mp found
  refine ⟨(List.take_append_getElem short).symm, ?_⟩
  rw [← List.drop_eq_getElem_cons short, List.take_append_drop]

private theorem create_incidents_index {t : Relation} {others : List (String × Relation)} {foreign_keys : Bool} {n : Nat}
    {index : Index} (distinct : Distinct t.indexes others) (found : INCIDENT_INDEXES[n]? = some index) :
    create_index .incidents index ⟨⟨some t, none, some (incidents_at n), others⟩, foreign_keys, none⟩ =
      .ok ⟨⟨some t, none, some (incidents_at (n + 1)), others⟩, foreign_keys, none⟩ := by
  obtain ⟨next, split⟩ := take_succ_of_get found
  have free : index_taken ⟨some t, none, some (incidents_at n), others⟩ index.name = false := by
    unfold Distinct at distinct
    rw [split, List.append_assoc, ← List.append_assoc t.indexes, List.cons_append] at distinct
    refine index_free distinct fun relation member other listed => ?_
    simp only [Database.relations, Option.toList_some, Option.toList_none, List.map_cons, List.map_nil, List.append_nil,
      List.cons_append, List.nil_append, List.mem_cons] at member
    rcases member with rfl | rfl | member
    · exact List.mem_append_left _ (List.mem_append_left _ listed)
    · exact List.mem_append_left _ (List.mem_append_right _ listed)
    · exact List.mem_append_right _ (List.mem_append_right _ (List.mem_flatMap.mpr ⟨relation, member, listed⟩))
  unfold create_index
  dsimp only [Database.get]
  rw [if_neg (by rw [free]; exact Bool.false_ne_true)]
  unfold incidents_at
  rw [next]
  rfl

private theorem create_alerts_index {t : Relation} {indexes : List Index} {others : List (String × Relation)}
    {foreign_keys : Bool} {transaction : Option Database} {n : Nat} {index : Index} (distinct : Distinct indexes others)
    (found : indexes[n]? = some index) :
    create_index .alerts index ⟨prepared { t with indexes := indexes.take n } others, foreign_keys, transaction⟩ =
      .ok ⟨prepared { t with indexes := indexes.take (n + 1) } others, foreign_keys, transaction⟩ := by
  obtain ⟨next, split⟩ := take_succ_of_get found
  have free : index_taken (prepared { t with indexes := indexes.take n } others) index.name = false := by
    unfold Distinct at distinct
    rw [split, List.append_assoc, List.cons_append] at distinct
    refine index_free distinct fun relation member other listed => ?_
    simp only [Database.relations, Option.toList_some, Option.toList_none, List.map_cons, List.map_nil, List.append_nil,
      List.cons_append, List.nil_append, List.mem_cons] at member
    rcases member with rfl | rfl | member
    · exact List.mem_append_left _ listed
    · exact List.mem_append_right _ (List.mem_append_right _ (List.mem_append_left _ listed))
    · refine List.mem_append_right _ (List.mem_append_right _ (List.mem_append_right _ ?_))
      exact List.mem_flatMap.mpr ⟨relation, member, listed⟩
  unfold create_index
  dsimp only [Database.get]
  rw [if_neg (by rw [free]; exact Bool.false_ne_true), next]
  rfl

/-! ### Up to the batch -/

/-- What an earlier run may have left of `incidents`. -/
def Incidents (incidents : Option Relation) : Prop := incidents = none ∨ ∃ n ≤ 6, incidents = some (incidents_at n)

private theorem incidents_compatible : ∀ n < 7, incidents_compatibility_problems (incidents_at n) = [] := by
  decide +kernel

private theorem missing_indexes : ∀ n < 7,
    INCIDENT_INDEXES.filter (fun index => (index_def (incidents_at n) index.name).isNone) = INCIDENT_INDEXES.drop n := by
  decide +kernel

private theorem to_create_left : ∀ n < 7, to_create (some (incidents_at n)) = 6 - n := by
  decide +kernel

private theorem ensure_indexes_passes {t : Relation} {others : List (String × Relation)}
    (distinct : Distinct t.indexes others)
    (foreign_keys : Bool) {n : Nat} (few : n ≤ 6) :
    ensure_incident_indexes.run ⟨⟨some t, none, some (incidents_at n), others⟩, foreign_keys, none⟩ =
      ((List.range (6 - n)).map (fun k => ⟨⟨some t, none, some (incidents_at (n + (k + 1))), others⟩, foreign_keys, none⟩),
        .ok ()) := by
  have reflected : (reflect .incidents).run ⟨⟨some t, none, some (incidents_at n), others⟩, foreign_keys, none⟩ =
      ([], .ok (incidents_at n)) := rfl
  have steps := @each_passes Connection String Index (create_index .incidents) (INCIDENT_INDEXES.drop n)
    (fun k => ⟨⟨some t, none, some (incidents_at (n + k)), others⟩, foreign_keys, none⟩) (fun k index found =>
      create_incidents_index distinct (by rw [← found, List.getElem?_drop]))
  have missing : (INCIDENT_INDEXES.drop n).length = 6 - n := by
    rw [List.length_drop]
    rfl
  rw [missing, ← missing_indexes n (by omega)] at steps
  unfold ensure_incident_indexes
  rw [bind_silent reflected]
  exact (each_filter _ _ _ _).trans steps

/-- An orphaned scratch table is dropped. -/
private theorem drop_passes {t : Relation} {incidents : Option Relation} {others : List (String × Relation)}
    (unreferenced : ∀ u, referenced ⟨some t, some u, incidents, others⟩ .scratch u = false) (foreign_keys : Bool)
    (scratch : Option Relation) :
    ∃ first, drop_orphaned_batch_scratch_table.run ⟨⟨some t, scratch, incidents, others⟩, foreign_keys, none⟩ =
        (first, .ok ()) ∧
      after ⟨⟨some t, scratch, incidents, others⟩, foreign_keys, none⟩ first =
        ⟨⟨some t, none, incidents, others⟩, foreign_keys, none⟩ ∧
      first.length = (if scratch.isSome then 1 else 0) ∧
      ∀ c ∈ first, c = ⟨⟨some t, none, incidents, others⟩, foreign_keys, none⟩ := by
  cases scratch with
  | none => exact ⟨[], rfl, rfl, rfl, fun _ none => absurd none List.not_mem_nil⟩
  | some u =>
    have dropped : drop_table .scratch ⟨⟨some t, some u, incidents, others⟩, foreign_keys, none⟩ =
        .ok ⟨⟨some t, none, incidents, others⟩, foreign_keys, none⟩ := by
      unfold drop_table
      dsimp only [Database.get]
      rw [unreferenced u, Bool.and_false, if_neg Bool.false_ne_true]
      rfl
    exact ⟨[_], statement_ok dropped, rfl, rfl, fun c inside => List.mem_singleton.mp inside⟩

/-- `incidents` is completed. -/
private theorem ensure_passes {t : Relation} {incidents : Option Relation} {others : List (String × Relation)}
    (distinct : Distinct t.indexes others) (known : Incidents incidents) (foreign_keys : Bool) :
    ∃ second, ensure_incidents.run ⟨⟨some t, none, incidents, others⟩, foreign_keys, none⟩ = (second, .ok ()) ∧
      after ⟨⟨some t, none, incidents, others⟩, foreign_keys, none⟩ second = ⟨prepared t others, foreign_keys, none⟩ ∧
      second.length = to_create incidents ∧
      ∀ c ∈ second, ∃ incidents', Incidents incidents' ∧ c = ⟨⟨some t, none, incidents', others⟩, foreign_keys, none⟩ := by
  have later : ∀ {n : Nat}, n ≤ 6 → ∀ c ∈ (List.range (6 - n)).map (fun k =>
      (⟨⟨some t, none, some (incidents_at (n + (k + 1))), others⟩, foreign_keys, none⟩ : Connection)),
      ∃ incidents', Incidents incidents' ∧ c = ⟨⟨some t, none, incidents', others⟩, foreign_keys, none⟩ := by
    intro n few c inside
    obtain ⟨k, short, rfl⟩ := List.mem_map.mp inside
    have short := List.mem_range.mp short
    exact ⟨_, .inr ⟨n + (k + 1), by omega, rfl⟩, rfl⟩
  have last : ∀ {n : Nat}, n ≤ 6 → after ⟨⟨some t, none, some (incidents_at n), others⟩, foreign_keys, none⟩
      ((List.range (6 - n)).map (fun k =>
        (⟨⟨some t, none, some (incidents_at (n + (k + 1))), others⟩, foreign_keys, none⟩ : Connection))) =
      ⟨prepared t others, foreign_keys, none⟩ := by
    intro n few
    have states := after_states (fun k =>
      (⟨⟨some t, none, some (incidents_at (n + k)), others⟩, foreign_keys, none⟩ : Connection)) (6 - n)
    dsimp only [Nat.add_zero] at states
    rw [states, Nat.add_sub_cancel' few]
  rcases known with rfl | ⟨n, few, rfl⟩
  · have created : create_table .incidents INCIDENTS ⟨⟨some t, none, none, others⟩, foreign_keys, none⟩ =
        .ok ⟨⟨some t, none, some (incidents_at 0), others⟩, foreign_keys, none⟩ := rfl
    unfold ensure_incidents
    rw [inspect_bind]
    dsimp only
    refine ⟨_, statement_bind created (ensure_indexes_passes distinct foreign_keys (Nat.zero_le 6)), ?_, ?_, ?_⟩
    · rw [after_cons]
      exact last (Nat.zero_le 6)
    · rw [List.length_cons, List.length_map, List.length_range]
      rfl
    · exact List.forall_mem_cons.mpr ⟨⟨_, .inr ⟨0, Nat.zero_le 6, rfl⟩, rfl⟩, later (Nat.zero_le 6)⟩
  · have compatible : (verify_incidents_table (incidents_at n)).run
        ⟨⟨some t, none, some (incidents_at n), others⟩, foreign_keys, none⟩ = ([], .ok ()) := by
      unfold verify_incidents_table
      dsimp only
      rw [if_pos (incidents_compatible n (by omega))]
      rfl
    unfold ensure_incidents
    rw [inspect_bind]
    dsimp only
    refine ⟨_, bind_passes compatible rfl (ensure_indexes_passes distinct foreign_keys few), last few, ?_, later few⟩
    rw [to_create_left n (by omega), List.nil_append, List.length_map, List.length_range]

/-! ### The link -/

/-- What the migration asks of `alerts` and of the tables that it does not touch. -/
structure Previous (a : Relation) (others : List (String × Relation)) : Prop where
  unlinked : ALERT_LINK_COLUMN.name ∉ a.names
  keyless : a.foreign_keys = []
  distinct : Distinct (a.indexes ++ [ALERT_LINK_INDEX]) others
  apart : ∀ other ∈ others, ∀ fk ∈ other.2.foreign_keys, fk.referred_table ≠ TableName.scratch.text

/-- `alerts` with the column and the foreign key, the rows without a value beyond the old columns. -/
def linked (a : Relation) (indexes : List Index) : Relation :=
  { a with
    columns := a.columns ++ [ALERT_LINK_COLUMN]
    foreign_keys := [ALERT_LINK_FK]
    indexes := indexes
    rows := a.rows.map (restrict a.names) }

/-- `alerts` before the batch, or after a batch that was interrupted before the index of the link. -/
inductive Unfinished (a : Relation) : List Index → Relation → Prop
  | original : Unfinished a a.indexes a
  | linked {indexes : List Index} (some_left : indexes <+: a.indexes) : Unfinished a indexes (linked a indexes)

section
variable {a t : Relation} {indexes : List Index} {others : List (String × Relation)}

private theorem Unfinished.indexes_eq (unfinished : Unfinished a indexes t) :
    t.indexes = indexes ∧ indexes <+: a.indexes := by
  cases unfinished with
  | original => exact ⟨rfl, List.prefix_rfl⟩
  | linked some_left => exact ⟨rfl, some_left⟩

private theorem column_def_original (previous : Previous a others) : column_def a ALERT_LINK_COLUMN.name = none := by
  refine List.find?_eq_none.mpr fun column inside same => previous.unlinked ?_
  rw [← of_decide_eq_true same]
  exact List.mem_map_of_mem inside

private theorem column_def_linked (previous : Previous a others) :
    column_def (linked a indexes) ALERT_LINK_COLUMN.name = some ALERT_LINK_COLUMN := by
  have before : a.columns.find? (fun column => column.name = ALERT_LINK_COLUMN.name) = none := column_def_original previous
  unfold column_def linked
  dsimp only
  rw [List.find?_append, before]
  rfl

private theorem index_def_none {t : Relation} (distinct : Distinct (t.indexes ++ [ALERT_LINK_INDEX]) others) :
    index_def t ALERT_LINK_INDEX.name = none := by
  refine List.find?_eq_none.mpr fun index inside same => ?_
  unfold Distinct at distinct
  rw [List.append_assoc, List.map_append] at distinct
  refine List.disjoint_of_nodup_append distinct (List.mem_map_of_mem inside) ?_
  rw [of_decide_eq_true same]
  exact List.mem_cons_self

private theorem index_def_linked (distinct : Distinct (indexes ++ [ALERT_LINK_INDEX]) others) :
    index_def (linked a (indexes ++ [ALERT_LINK_INDEX])) ALERT_LINK_INDEX.name = some ALERT_LINK_INDEX := by
  have before : indexes.find? (fun index => index.name = ALERT_LINK_INDEX.name) = none :=
    @index_def_none others (linked a indexes) distinct
  unfold index_def linked
  dsimp only
  rw [List.find?_append, before]
  rfl

private theorem Previous.fewer (previous : Previous a others) (some_left : indexes <+: a.indexes) :
    Distinct (indexes ++ [ALERT_LINK_INDEX]) others :=
  previous.distinct.sublist (some_left.sublist.append_right _)

private theorem Unfinished.distinct (previous : Previous a others) (unfinished : Unfinished a indexes t) :
    Distinct (t.indexes ++ [ALERT_LINK_INDEX]) others := by
  obtain ⟨same, some_left⟩ := unfinished.indexes_eq
  rw [same]
  exact previous.fewer some_left

/-- The state of the link is compatible. -/
private theorem link_state_ok (column : column_def t ALERT_LINK_COLUMN.name = none ∨
      column_def t ALERT_LINK_COLUMN.name = some ALERT_LINK_COLUMN)
    (index : index_def t ALERT_LINK_INDEX.name = none ∨ index_def t ALERT_LINK_INDEX.name = some ALERT_LINK_INDEX)
    (keys : t.foreign_keys = [] ∨ t.foreign_keys = [ALERT_LINK_FK]) (c : Connection) :
    (verify_alert_link_state t).run c = ([], .ok ()) := by
  have key : t.foreign_keys.find? (fun fk => fk.name = ALERT_LINK_FK.name && fk ≠ ALERT_LINK_FK) = none := by
    rcases keys with keys | keys
    · rw [keys]
      rfl
    · rw [keys]
      decide
  unfold verify_alert_link_state
  rw [key]
  rcases column with column | column
  · rw [column]
    rcases index with index | index
    · rw [index]
      rfl
    · rw [index]
      rfl
  · rw [column]
    rcases index with index | index
    · rw [index]
      rfl
    · rw [index]
      rfl

/-- The column, the foreign key and the index of the link are found. -/
private theorem link_complete (previous : Previous a others) (some_left : indexes <+: a.indexes) :
    column_def (linked a (indexes ++ [ALERT_LINK_INDEX])) ALERT_LINK_COLUMN.name = some ALERT_LINK_COLUMN ∧
    alert_link_fk_present (linked a (indexes ++ [ALERT_LINK_INDEX])) = true ∧
    alert_link_index_present (linked a (indexes ++ [ALERT_LINK_INDEX])) = true := by
  refine ⟨column_def_linked previous, ?_, ?_⟩
  · unfold alert_link_fk_present fk_present linked
    dsimp only
    decide
  · unfold alert_link_index_present
    rw [index_def_linked (previous.fewer some_left)]
    rfl

private theorem restrict_restrict {names more : List String} (inside : ∀ name ∈ names, name ∈ more) (row : Row) :
    restrict more (restrict names row) = restrict names row := by
  funext column
  unfold restrict
  by_cases known : column ∈ names
  · rw [if_pos (inside column known)]
  · rw [if_neg known, ite_self]

private theorem filter_contains {names more : List String} (inside : ∀ name ∈ names, name ∈ more) :
    names.filter (fun column => more.contains column) = names :=
  List.filter_eq_self.mpr fun name member => List.contains_iff_mem.mpr (inside name member)

/-- The scratch table of a batch that recreates `alerts`, before the rows are copied. -/
def scratch_table (a : Relation) : Relation := { linked a [] with rows := [] }

private theorem scratch_names : (scratch_table a).names = a.names ++ [ALERT_LINK_COLUMN.name] := by
  unfold scratch_table linked Relation.names
  rw [List.map_append]
  rfl

/-- The copy leaves nothing out, whether the link column is new or was there. -/
private theorem copied (unfinished : Unfinished a indexes t) (incidents : Option Relation) (foreign_keys : Bool) :
    copy_rows .alerts .scratch ⟨⟨some t, some (scratch_table a), incidents, others⟩, foreign_keys, none⟩ =
      .ok ⟨⟨some t, some (linked a []), incidents, others⟩, foreign_keys,
        some ⟨some t, some (scratch_table a), incidents, others⟩⟩ := by
  have rows : t.rows.map (restrict (t.names.filter (fun column => (scratch_table a).names.contains column))) =
      a.rows.map (restrict a.names) := by
    cases unfinished with
    | original =>
      rw [filter_contains (fun name member => scratch_names ▸ List.mem_append_left _ member)]
    | linked _ =>
      have names : (linked a indexes).names = a.names ++ [ALERT_LINK_COLUMN.name] := scratch_names
      rw [filter_contains (fun name member => by rw [scratch_names, ← names]; exact member), names]
      unfold linked
      dsimp only
      rw [List.map_map]
      refine List.map_congr_left fun row _ => ?_
      exact restrict_restrict (fun name member => List.mem_append_left _ member) row
  unfold copy_rows
  dsimp only [Database.get]
  rw [rows]
  rfl

/-- The foreign key and the column are missing together. -/
private theorem batch_arguments (previous : Previous a others) (unfinished : Unfinished a indexes t) :
    alert_link_index_present t = false ∧
    batch_table t (if (column_def t ALERT_LINK_COLUMN.name).isSome then none else some ALERT_LINK_COLUMN)
      (if !alert_link_fk_present t then some ALERT_LINK_FK else none) = scratch_table a := by
  have index := index_def_none (unfinished.distinct previous)
  refine ⟨?_, ?_⟩
  · unfold alert_link_index_present
    rw [index]
    rfl
  · cases unfinished with
    | original =>
      have key : alert_link_fk_present a = false := by
        unfold alert_link_fk_present fk_present
        rw [previous.keyless]
        rfl
      rw [column_def_original previous, key]
      unfold batch_table scratch_table linked
      rw [previous.keyless]
      rfl
    | linked _ =>
      have key : alert_link_fk_present (linked a indexes) = true := by
        unfold alert_link_fk_present fk_present linked
        dsimp only
        decide
      rw [column_def_linked previous, key]
      unfold batch_table scratch_table linked
      simp

private theorem set_foreign_keys_passes (enabled : Bool) (c : Connection) :
    (set_sqlite_foreign_keys enabled).run c =
      ([{ c with transaction := none }, { c with foreign_keys := enabled, transaction := none }], .ok ()) := by
  have switched : pragma_foreign_keys enabled { c with transaction := none } =
      .ok { c with foreign_keys := enabled, transaction := none } := rfl
  unfold set_sqlite_foreign_keys
  refine statement_bind rfl (statement_bind switched ?_)
  rw [inspect_bind]
  dsimp only
  rw [if_neg (not_not.mpr rfl)]
  rfl

/-- The database that the copy of the rows opens a transaction on. -/
abbrev begun (a t : Relation) (others : List (String × Relation)) : Database :=
  ⟨some t, some (scratch_table a), some (incidents_at 6), others⟩

/-- The states of a batch that recreates `alerts`, up to the renaming of the scratch table. -/
def to_rename (a t : Relation) (others : List (String × Relation)) : List Connection :=
  [⟨begun a t others, false, none⟩,
    ⟨⟨some t, some (linked a []), some (incidents_at 6), others⟩, false, some (begun a t others)⟩,
    ⟨⟨none, some (linked a []), some (incidents_at 6), others⟩, false, some (begun a t others)⟩]

/-- From the renaming on, with one index more in each. -/
def indexing (a t : Relation) (indexes : List Index) (others : List (String × Relation)) : List Connection :=
  (List.range (indexes.length + 2)).map (fun n =>
    ⟨prepared (linked a ((indexes ++ [ALERT_LINK_INDEX]).take n)) others, false, some (begun a t others)⟩)

private theorem create_indexes_passes (distinct : Distinct indexes others) :
    (each (fun index => statement (create_index .alerts index)) indexes).run
        ⟨prepared (linked a []) others, false, some (begun a t others)⟩ =
      ((List.range indexes.length).map (fun n =>
        (⟨prepared (linked a (indexes.take (n + 1))) others, false, some (begun a t others)⟩ : Connection)), .ok ()) :=
  @each_passes Connection String Index (create_index .alerts) indexes
    (fun n => ⟨prepared (linked a (indexes.take n)) others, false, some (begun a t others)⟩)
    (fun _ _ found => @create_alerts_index (linked a []) _ _ _ _ _ _ distinct found)

private theorem recreate_passes (previous : Previous a others) (unfinished : Unfinished a indexes t) {alembic : Alembic}
    {column : Option Column} {foreign_key : Option ForeignKey} (recreates : (foreign_key.isSome || alembic.recreates) = true)
    (table : batch_table t column foreign_key = scratch_table a) :
    (batch_alter_table alembic column foreign_key (some ALERT_LINK_INDEX)).run
        ⟨prepared t others, false, none⟩ = (to_rename a t others ++ indexing a t indexes others, .ok ()) := by
  have reflected : (reflect .alerts).run ⟨prepared t others, false, none⟩ = ([], .ok t) := rfl
  have created : create_table .scratch (scratch_table a) ⟨prepared t others, false, none⟩ =
      .ok ⟨⟨some t, some (scratch_table a), some (incidents_at 6), others⟩, false, none⟩ := rfl
  have dropped : drop_table .alerts
      ⟨⟨some t, some (linked a []), some (incidents_at 6), others⟩, false, some (begun a t others)⟩ =
      .ok ⟨⟨none, some (linked a []), some (incidents_at 6), others⟩, false, some (begun a t others)⟩ := rfl
  have renamed : rename_table .scratch .alerts
      ⟨⟨none, some (linked a []), some (incidents_at 6), others⟩, false, some (begun a t others)⟩ =
      .ok ⟨prepared (linked a []) others, false, some (begun a t others)⟩ := rfl
  obtain ⟨same, some_left⟩ := unfinished.indexes_eq
  have indexed := @create_indexes_passes a t (indexes ++ [ALERT_LINK_INDEX]) others (previous.fewer some_left)
  have split : (List.range (indexes.length + 2)).map (fun n =>
      (⟨prepared (linked a ((indexes ++ [ALERT_LINK_INDEX]).take n)) others, false, some (begun a t others)⟩ :
        Connection)) = ⟨prepared (linked a []) others, false, some (begun a t others)⟩ ::
      (List.range (indexes ++ [ALERT_LINK_INDEX]).length).map (fun n =>
        ⟨prepared (linked a ((indexes ++ [ALERT_LINK_INDEX]).take (n + 1))) others, false, some (begun a t others)⟩) := by
    rw [List.length_append, List.range_succ_eq_map, List.map_cons, List.map_map]
    rfl
  unfold batch_alter_table
  unfold to_rename indexing
  rw [split]
  rw [bind_silent reflected, if_pos recreates, table, same]
  exact statement_bind created (statement_bind (copied unfinished _ false) (statement_bind dropped
    (statement_bind renamed indexed)))

/-- Without a value in the link column no row of `alerts` refers to an incident. -/
private theorem alerts_clean (previous : Previous a others) (db : Database) : violated db (linked a indexes) = false := by
  have unlinked : ∀ row ∈ (linked a indexes).rows, row ALERT_LINK_COLUMN.name = .null := by
    intro row inside
    obtain ⟨original, _, rfl⟩ := List.mem_map.mp inside
    exact if_neg previous.unlinked
  cases found : violated db (linked a indexes) with
  | false => rfl
  | true =>
    obtain ⟨fk, inside, found⟩ := List.any_eq_true.mp found
    obtain ⟨row, member, found⟩ := List.any_eq_true.mp found
    rw [List.mem_singleton.mp inside] at found
    have value := List.all_eq_true.mp (Bool.and_eq_true_iff.mp found).1 ALERT_LINK_COLUMN.name List.mem_cons_self
    rw [unlinked row member] at value
    exact absurd value (by decide)

private theorem clean_passes (previous : Previous a others) (foreign_keys : Bool) :
    (do
      assert_foreign_keys_clean .alerts
      assert_foreign_keys_clean .incidents).run ⟨prepared (linked a indexes) others, foreign_keys, none⟩ = ([], .ok ()) := by
  have alerts : (assert_foreign_keys_clean .alerts).run
      ⟨prepared (linked a indexes) others, foreign_keys, none⟩ = ([], .ok ()) := by
    have reflected : (reflect .alerts).run ⟨prepared (linked a indexes) others, foreign_keys, none⟩ =
        ([], .ok (linked a indexes)) := rfl
    unfold assert_foreign_keys_clean
    rw [bind_silent reflected, inspect_bind, alerts_clean previous]
    rfl
  have incidents : (assert_foreign_keys_clean .incidents).run
      ⟨prepared (linked a indexes) others, foreign_keys, none⟩ = ([], .ok ()) := by
    have reflected : (reflect .incidents).run
        ⟨prepared (linked a indexes) others, foreign_keys, none⟩ = ([], .ok (incidents_at 6)) := rfl
    have clean : ∀ db, violated db (incidents_at 6) = false := fun _ => rfl
    unfold assert_foreign_keys_clean
    rw [bind_silent reflected, inspect_bind, clean]
    rfl
  rw [bind_silent alerts]
  exact incidents

/-- The states of the batch in either way of carrying it out. -/
def link_path (alembic : Alembic) (a t : Relation) (indexes : List Index) (others : List (String × Relation)) :
    List Connection :=
  if !alert_link_fk_present t || alembic.recreates then to_rename a t others ++ indexing a t indexes others
  else [⟨prepared (linked a (indexes ++ [ALERT_LINK_INDEX])) others, false, none⟩]

private theorem batch_passes (previous : Previous a others) (unfinished : Unfinished a indexes t) (alembic : Alembic) :
    (batch_alter_table alembic (if (column_def t ALERT_LINK_COLUMN.name).isSome then none else some ALERT_LINK_COLUMN)
        (if !alert_link_fk_present t then some ALERT_LINK_FK else none) (some ALERT_LINK_INDEX)).run
        ⟨prepared t others, false, none⟩ = (link_path alembic a t indexes others, .ok ()) := by
  obtain ⟨_, table⟩ := batch_arguments previous unfinished
  unfold link_path
  by_cases recreates : (!alert_link_fk_present t || alembic.recreates) = true
  · rw [if_pos recreates]
    refine recreate_passes previous unfinished ?_ table
    cases key : alert_link_fk_present t with
    | false => rfl
    | true =>
      rw [key] at recreates
      exact recreates
  · rw [if_neg recreates]
    obtain ⟨key, stays⟩ := Bool.or_eq_false_iff.mp (Bool.not_eq_true _ ▸ recreates)
    have present : alert_link_fk_present t = true := by simpa using key
    cases unfinished with
    | original =>
      rw [alert_link_fk_present, fk_present, previous.keyless] at present
      cases present
    | linked some_left =>
      have reflected : (reflect .alerts).run ⟨prepared (linked a indexes) others, false, none⟩ =
          ([], .ok (linked a indexes)) := rfl
      have last : (indexes ++ [ALERT_LINK_INDEX])[indexes.length]? = some ALERT_LINK_INDEX := by simp
      have created := @create_alerts_index (linked a []) _ others false none _ _ (previous.fewer some_left) last
      rw [List.take_left' rfl, List.take_of_length_le (by simp)] at created
      have indexed : (each (fun index => statement (create_index .alerts index)) [ALERT_LINK_INDEX]).run
          ⟨prepared (linked a indexes) others, false, none⟩ =
          ([⟨prepared (linked a (indexes ++ [ALERT_LINK_INDEX])) others, false, none⟩], .ok ()) :=
        statement_bind created rfl
      unfold batch_alter_table
      rw [bind_silent reflected, present, stays, column_def_linked previous]
      exact indexed

/-- The batch ends with the index of the link, in its transaction where the table was recreated. -/
private theorem after_link_path (alembic : Alembic) (c : Connection) :
    after c (link_path alembic a t indexes others) =
      ⟨prepared (linked a (indexes ++ [ALERT_LINK_INDEX])) others, false,
        if !alert_link_fk_present t || alembic.recreates then some (begun a t others) else none⟩ := by
  unfold link_path
  by_cases recreates : (!alert_link_fk_present t || alembic.recreates) = true
  · rw [if_pos recreates, if_pos recreates]
    unfold indexing
    rw [List.range_succ, List.map_append, ← List.append_assoc]
    refine (after_append_cons c _ _ []).trans ?_
    dsimp only
    rw [after_nil, List.take_of_length_le (by simp)]
  · rw [if_neg recreates, if_neg recreates]
    exact after_singleton _ _

/-- The transaction is committed and the enforcement of foreign keys is switched back. -/
def restoring (a : Relation) (indexes : List Index) (others : List (String × Relation)) (foreign_keys : Bool) :
    List Connection :=
  [⟨prepared (linked a (indexes ++ [ALERT_LINK_INDEX])) others, false, none⟩,
    ⟨prepared (linked a (indexes ++ [ALERT_LINK_INDEX])) others, foreign_keys, none⟩]

/-- The third step of a run that has something left to do. -/
private theorem link_passes (previous : Previous a others) (unfinished : Unfinished a indexes t) (alembic : Alembic)
    (foreign_keys : Bool) :
    (link_alerts alembic).run ⟨prepared t others, foreign_keys, none⟩ =
      (⟨prepared t others, foreign_keys, none⟩ :: ⟨prepared t others, false, none⟩ ::
        (link_path alembic a t indexes others ++ restoring a indexes others foreign_keys), .ok ()) := by
  have reflected : (reflect .alerts).run ⟨prepared t others, foreign_keys, none⟩ = ([], .ok t) := rfl
  have column : column_def t ALERT_LINK_COLUMN.name = none ∨
    column_def t ALERT_LINK_COLUMN.name = some ALERT_LINK_COLUMN := by
    cases unfinished with
    | original => exact .inl (column_def_original previous)
    | linked _ => exact .inr (column_def_linked previous)
  have keys : t.foreign_keys = [] ∨ t.foreign_keys = [ALERT_LINK_FK] := by
    cases unfinished with
    | original => exact .inl previous.keyless
    | linked _ => exact .inr rfl
  have state := link_state_ok column (.inl (index_def_none (unfinished.distinct previous))) keys
    ⟨prepared t others, foreign_keys, none⟩
  have index := (batch_arguments previous unfinished).1
  have switched : (set_sqlite_foreign_keys false).run ⟨prepared t others, foreign_keys, none⟩ =
      ([⟨prepared t others, foreign_keys, none⟩, ⟨prepared t others, false, none⟩], .ok ()) :=
    set_foreign_keys_passes false _
  have restored := set_foreign_keys_passes foreign_keys (⟨prepared (linked a (indexes ++ [ALERT_LINK_INDEX])) others, false,
    if !alert_link_fk_present t || alembic.recreates then some (begun a t others) else none⟩ : Connection)
  have batch := batch_passes previous unfinished alembic
  unfold link_alerts
  rw [bind_silent reflected, bind_silent state]
  dsimp only
  rw [index, if_pos (by simp), inspect_bind]
  have ended : ∀ c, after c ([⟨prepared t others, foreign_keys, none⟩, ⟨prepared t others, false, none⟩] ++
      link_path alembic a t indexes others) = _ := fun c =>
    (after_append_cons c _ [_] _).trans (after_link_path alembic _)
  have switched_back : ∀ c, after c (([⟨prepared t others, foreign_keys, none⟩, ⟨prepared t others, false, none⟩] ++
      link_path alembic a t indexes others) ++ restoring a indexes others foreign_keys) = _ := fun c =>
    (after_append_cons c _ _ [_]).trans (after_singleton _ _)
  refine (bind_passes (always_passes (on_error_passes (bind_passes switched rfl batch)) (ended _) restored)
    (switched_back _) (clean_passes previous foreign_keys)).trans ?_
  rw [List.append_nil]
  rfl

/-- The link is complete: nothing is left to do. -/
private theorem link_finished (previous : Previous a others) (some_left : indexes <+: a.indexes) (alembic : Alembic)
    (foreign_keys : Bool) :
    (link_alerts alembic).run ⟨prepared (linked a (indexes ++ [ALERT_LINK_INDEX])) others, foreign_keys, none⟩ =
      ([], .ok ()) := by
  have reflected : (reflect .alerts).run ⟨prepared (linked a (indexes ++ [ALERT_LINK_INDEX])) others, foreign_keys, none⟩ =
      ([], .ok (linked a (indexes ++ [ALERT_LINK_INDEX]))) := rfl
  have index := @index_def_linked a _ _ (previous.fewer some_left)
  have state := link_state_ok (.inr (column_def_linked previous)) (.inr index) (.inr rfl)
    ⟨prepared (linked a (indexes ++ [ALERT_LINK_INDEX])) others, foreign_keys, none⟩
  obtain ⟨column, key, present⟩ := link_complete previous some_left
  unfold link_alerts
  rw [bind_silent reflected, bind_silent state]
  dsimp only
  rw [column, key, present, if_neg (by simp)]
  rfl

private theorem schema_complete (previous : Previous a others) (some_left : indexes <+: a.indexes) :
    schema_problems (linked a (indexes ++ [ALERT_LINK_INDEX])) (some (incidents_at 6)) = [] := by
  obtain ⟨column, key, present⟩ := link_complete previous some_left
  unfold schema_problems
  rw [column, key, present]
  decide +kernel

private theorem verify_passes (previous : Previous a others) (some_left : indexes <+: a.indexes) (foreign_keys : Bool) :
    verify_complete_schema.run ⟨prepared (linked a (indexes ++ [ALERT_LINK_INDEX])) others, foreign_keys, none⟩ =
      ([], .ok ()) := by
  have reflected : (reflect .alerts).run ⟨prepared (linked a (indexes ++ [ALERT_LINK_INDEX])) others, foreign_keys, none⟩ =
      ([], .ok (linked a (indexes ++ [ALERT_LINK_INDEX]))) := rfl
  unfold verify_complete_schema
  rw [bind_silent reflected, inspect_bind]
  dsimp only
  rw [schema_complete previous some_left, if_neg (not_not.mpr rfl)]
  rfl

/-! ### Whole runs -/

/-- No row of a table refers to the scratch table. -/
private theorem scratch_unreferenced (previous : Previous a others) (unfinished : Unfinished a indexes t)
    {incidents : Option Relation} (known : Incidents incidents) (u : Relation) :
    referenced ⟨some t, some u, incidents, others⟩ .scratch u = false := by
  cases found : referenced ⟨some t, some u, incidents, others⟩ .scratch u with
  | false => rfl
  | true =>
    exfalso
    obtain ⟨other, member, found⟩ := List.any_eq_true.mp found
    obtain ⟨named, found⟩ := Bool.and_eq_true_iff.mp found
    obtain ⟨fk, inside, found⟩ := List.any_eq_true.mp found
    have target : fk.referred_table = TableName.scratch.text := beq_iff_eq.mp (Bool.and_eq_true_iff.mp found).1
    simp only [Database.relations, Option.toList_some, List.map_cons, List.map_nil, List.cons_append, List.nil_append,
      List.mem_cons, List.mem_append, Option.mem_toList, List.mem_map] at member
    rcases member with rfl | rfl | ⟨i, here, rfl⟩ | member
    · cases unfinished with
      | original =>
        rw [previous.keyless] at inside
        exact List.not_mem_nil inside
      | linked _ =>
        rw [List.mem_singleton.mp inside] at target
        exact absurd target (by decide)
    · exact absurd named (by simp [TableName.text])
    · rcases known with rfl | ⟨n, _, rfl⟩
      · cases here
      · cases here
        rw [List.mem_singleton.mp inside] at target
        exact absurd target (by decide)
    · exact previous.apart other member fk inside target

/-- A run from an unfinished state completes: it gets the database ready for the batch, goes through the batch and switches
    the enforcement of foreign keys back. -/
theorem upgrade_passes (previous : Previous a others) (unfinished : Unfinished a indexes t) (alembic : Alembic)
    (foreign_keys : Bool) (scratch : Option Relation) {incidents : Option Relation} (known : Incidents incidents) :
    ∃ lead, (upgrade alembic).run ⟨⟨some t, scratch, incidents, others⟩, foreign_keys, none⟩ =
        (lead ++ (link_path alembic a t indexes others ++ restoring a indexes others foreign_keys), .ok ()) ∧
      lead.length = before_batch ⟨some t, scratch, incidents, others⟩ ∧
      ∀ c ∈ lead, ∃ incidents' foreign_keys', Incidents incidents' ∧
        c = ⟨⟨some t, none, incidents', others⟩, foreign_keys', none⟩ := by
  have distinct : Distinct t.indexes others := (unfinished.distinct previous).sublist (List.sublist_append_left _ _)
  obtain ⟨first, drops, dropped, one, at_first⟩ :=
    drop_passes (scratch_unreferenced previous unfinished known) foreign_keys scratch
  obtain ⟨second, ensures, ensured, few, at_second⟩ := ensure_passes distinct known foreign_keys
  have links := link_passes previous unfinished alembic foreign_keys
  have verifies := verify_passes previous unfinished.indexes_eq.2 foreign_keys
  have linked_after : ∀ c, after c (⟨prepared t others, foreign_keys, none⟩ :: ⟨prepared t others, false, none⟩ ::
      (link_path alembic a t indexes others ++ restoring a indexes others foreign_keys)) = _ := fun c =>
    (after_append_cons c _ (_ :: _ :: link_path alembic a t indexes others) [_]).trans (after_singleton _ _)
  refine ⟨first ++ (second ++ [⟨prepared t others, foreign_keys, none⟩, ⟨prepared t others, false, none⟩]), ?_, ?_, ?_⟩
  · unfold upgrade
    refine (bind_passes drops dropped (bind_passes ensures ensured (bind_passes links (linked_after _) verifies))).trans ?_
    simp
  · unfold before_batch
    rw [List.length_append, List.length_append, one, few, Nat.add_assoc]
    rfl
  · have known' : Incidents (some (incidents_at 6)) := .inr ⟨6, Nat.le_refl 6, rfl⟩
    intro c inside
    simp only [List.mem_append, List.mem_cons, List.not_mem_nil, or_false] at inside
    rcases inside with inside | inside | rfl | rfl
    · exact ⟨incidents, foreign_keys, known, at_first c inside⟩
    · obtain ⟨incidents', known', same⟩ := at_second c inside
      exact ⟨incidents', foreign_keys, known', same⟩
    · exact ⟨_, foreign_keys, known', rfl⟩
    · exact ⟨_, false, known', rfl⟩

/-- A run on a complete link passes no state. -/
theorem upgrade_finished (previous : Previous a others) (some_left : indexes <+: a.indexes) (alembic : Alembic)
    (foreign_keys : Bool) :
    (upgrade alembic).run ⟨prepared (linked a (indexes ++ [ALERT_LINK_INDEX])) others, foreign_keys, none⟩ =
      ([], .ok ()) := by
  have dropped : drop_orphaned_batch_scratch_table.run
      ⟨prepared (linked a (indexes ++ [ALERT_LINK_INDEX])) others, foreign_keys, none⟩ = ([], .ok ()) := rfl
  have distinct : Distinct (linked a (indexes ++ [ALERT_LINK_INDEX])).indexes others := previous.fewer some_left
  obtain ⟨second, ensures, _, few, _⟩ := ensure_passes distinct (.inr ⟨6, Nat.le_refl 6, rfl⟩) foreign_keys
  rw [to_create_left 6 (by decide)] at few
  rw [List.eq_nil_of_length_eq_zero few] at ensures
  unfold upgrade
  rw [bind_silent dropped, bind_silent ensures, bind_silent (link_finished previous some_left alembic foreign_keys)]
  exact verify_passes previous some_left foreign_keys

/-- Without `alerts` a run raises, and the scratch table stays. -/
theorem upgrade_refused (alembic : Alembic) (u : Relation) (incidents : Option Relation) (foreign_keys : Bool) :
    ∃ error, (upgrade alembic).run ⟨⟨none, some u, incidents, others⟩, foreign_keys, none⟩ = ([], .error error) := by
  have refused : ∃ error, drop_orphaned_batch_scratch_table.run ⟨⟨none, some u, incidents, others⟩, foreign_keys, none⟩ =
      ([], .error error) := by
    unfold drop_orphaned_batch_scratch_table
    rw [inspect_bind]
    dsimp only
    exact ⟨_, rfl⟩
  obtain ⟨error, refused⟩ := refused
  exact ⟨error, bind_of_error refused⟩

/-- What a run can be interrupted in, with the indexes of `alerts` that are left or will be created again. -/
inductive Reached (a : Relation) (others : List (String × Relation)) (indexes : List Index) : Database → Prop
  | unfinished {t : Relation} {scratch incidents : Option Relation} (left : Unfinished a indexes t)
      (known : Incidents incidents) : Reached a others indexes ⟨some t, scratch, incidents, others⟩
  | moved (some_left : indexes <+: a.indexes) :
      Reached a others indexes ⟨none, some (linked a []), some (incidents_at 6), others⟩
  | finished (some_left : indexes <+: a.indexes) :
    Reached a others indexes (prepared (linked a (indexes ++ [ALERT_LINK_INDEX])) others)

private theorem recreated_iff (previous : Previous a others) (unfinished : Unfinished a indexes t) (alembic : Alembic) :
    Recreated alembic t ↔ (!alert_link_fk_present t || alembic.recreates) = true := by
  have index := (batch_arguments previous unfinished).1
  unfold Recreated
  rw [index, Bool.or_eq_true, Bool.not_eq_true']
  constructor
  · rintro (missing | ⟨recreates, _⟩)
    · exact .inl missing
    · exact .inr recreates
  · rintro (missing | recreates)
    · exact .inl missing
    · exact .inr ⟨recreates, .inr rfl⟩

/-- Up to the renaming, a run passes states that it can be interrupted in without loss. -/
private theorem reached_front (unfinished : Unfinished a indexes t) {lead : List Connection}
    (at_lead : ∀ c ∈ lead, ∃ incidents foreign_keys, Incidents incidents ∧
      c = ⟨⟨some t, none, incidents, others⟩, foreign_keys, none⟩) :
    ∀ c ∈ lead ++ to_rename a t others, Reached a others indexes c.toDatabase := by
  intro c inside
  rcases List.mem_append.mp inside with inside | inside
  · obtain ⟨incidents, foreign_keys, known, rfl⟩ := at_lead c inside
    exact .unfinished unfinished known
  · unfold to_rename at inside
    simp only [List.mem_cons, List.not_mem_nil, or_false] at inside
    have known : Incidents (some (incidents_at 6)) := .inr ⟨6, Nat.le_refl 6, rfl⟩
    rcases inside with rfl | rfl | rfl
    · exact .unfinished unfinished known
    · exact .unfinished unfinished known
    · exact .moved unfinished.indexes_eq.2

/-- From the renaming on, an index is missing until the last that the table had is created. -/
private theorem reached_indexing (some_left : indexes <+: a.indexes) {foreign_keys : Bool} {n : Nat} {c : Connection}
    (found : (indexing a t indexes others ++ restoring a indexes others foreign_keys)[n]? = some c) :
    (n < indexes.length → c.toDatabase = prepared (linked a (indexes.take n)) others) ∧
    (indexes.length ≤ n → Reached a others indexes c.toDatabase) := by
  have known : Incidents (some (incidents_at 6)) := .inr ⟨6, Nat.le_refl 6, rfl⟩
  have size : (indexing a t indexes others).length = indexes.length + 2 := by
    unfold indexing
    rw [List.length_map, List.length_range]
  by_cases short : n < indexes.length + 2
  · rw [List.getElem?_append_left (by omega)] at found
    unfold indexing at found
    rw [List.getElem?_map, List.getElem?_range short, Option.map_some, Option.some_inj] at found
    subst found
    dsimp only
    refine ⟨fun few => ?_, fun many => ?_⟩
    · rw [List.take_append_of_le_length (Nat.le_of_lt few)]
    · rcases Nat.eq_or_lt_of_le many with rfl | more
      · rw [List.take_left' rfl]
        exact .unfinished (.linked some_left) known
      · rw [List.take_of_length_le (by rw [List.length_append, List.length_singleton]; omega)]
        exact .finished some_left
  · refine ⟨fun few => absurd few (by omega), fun _ => ?_⟩
    rw [List.getElem?_append_right (by omega)] at found
    have inside := List.mem_of_getElem? found
    simp only [restoring, List.mem_cons, List.not_mem_nil, or_false] at inside
    rcases inside with rfl | rfl
    · exact .finished some_left
    · exact .finished some_left

private theorem midway_iff {alembic : Alembic} {scratch incidents : Option Relation} {statements : Nat} :
    Midway alembic ⟨some t, scratch, incidents, others⟩ statements ↔ Recreated alembic t ∧
      before_batch ⟨some t, scratch, incidents, others⟩ + 4 ≤ statements ∧
      statements < before_batch ⟨some t, scratch, incidents, others⟩ + 4 + t.indexes.length := by
  constructor
  · rintro ⟨u, same, cut⟩
    cases same
    exact cut
  · intro cut
    exact ⟨t, rfl, cut⟩

/-- What an interruption of a run that recreates `alerts` leaves. -/
private theorem recreated_cases (some_left : indexes <+: a.indexes) {start : Connection} {front : List Connection}
    {foreign_keys : Bool} {statements : Nat} {left : Connection} (reached : Reached a others indexes start.toDatabase)
    (at_front : ∀ c ∈ front, Reached a others indexes c.toDatabase)
    (interrupted : after start ((front ++ (indexing a t indexes others ++
      restoring a indexes others foreign_keys)).take statements) = left) :
    (statements ≤ front.length ∨ front.length + indexes.length < statements) ∧ Reached a others indexes left.toDatabase ∨
    (front.length < statements ∧ statements ≤ front.length + indexes.length) ∧ ∃ n < indexes.length,
      left.toDatabase = prepared (linked a (indexes.take n)) others := by
  have size : (indexing a t indexes others).length = indexes.length + 2 := by
    unfold indexing
    rw [List.length_map, List.length_range]
  have cases := after_take_cases start (front ++ (indexing a t indexes others ++
    restoring a indexes others foreign_keys)) statements
  rw [interrupted] at cases
  rcases cases with ⟨rfl, none⟩ | ⟨last, found, counted⟩
  · have zero : statements = 0 := none.resolve_right (by simp [restoring])
    exact .inl ⟨.inl (by omega), reached⟩
  · have two : (restoring a indexes others foreign_keys).length = 2 := rfl
    simp only [List.length_append, two, size] at counted
    by_cases early : last < front.length
    · rw [List.getElem?_append_left early] at found
      exact .inl ⟨.inl (by omega), at_front left (List.mem_of_getElem? found)⟩
    · rw [List.getElem?_append_right (by omega)] at found
      obtain ⟨missing, whole⟩ := reached_indexing some_left found
      by_cases few : last - front.length < indexes.length
      · exact .inr ⟨by omega, _, few, missing few⟩
      · exact .inl ⟨.inr (by omega), whole (by omega)⟩

/-- With each statement durable by itself an interruption leaves a state with the same indexes, or, midway, with fewer. -/
theorem durably_cases (previous : Previous a others) (alembic : Alembic) {db : Database}
    (reached : Reached a others indexes db) (cut : Interruption) :
    ¬ Midway alembic db cut.statements ∧
      Reached a others indexes (attempt Connection.toDatabase alembic db cut) ∨
    Midway alembic db cut.statements ∧ ∃ n < indexes.length,
      attempt Connection.toDatabase alembic db cut = prepared (linked a (indexes.take n)) others := by
  have here := reached
  cases reached with
  | @unfinished t scratch incidents left known =>
    obtain ⟨lead, passes, counted, at_lead⟩ :=
      upgrade_passes previous left alembic cut.foreign_keys scratch known
    obtain ⟨same, some_left⟩ := left.indexes_eq
    have at_front := reached_front left at_lead
    unfold attempt Program.interrupted
    rw [passes, midway_iff, recreated_iff previous left, ← counted, same]
    unfold link_path
    dsimp only
    by_cases recreates : (!alert_link_fk_present t || alembic.recreates) = true
    · have size : (lead ++ to_rename a t others).length = lead.length + 3 := List.length_append
      rw [if_pos recreates, List.append_assoc (to_rename ..), ← List.append_assoc lead]
      rcases @recreated_cases a t indexes others some_left ⟨⟨some t, scratch, incidents, others⟩, cut.foreign_keys, none⟩
        _ _ _ _ here at_front rfl with ⟨outside, kept⟩ | ⟨inside, lost⟩
      · rw [size] at outside
        exact .inl ⟨fun midway => by omega, kept⟩
      · rw [size] at inside
        exact .inr ⟨⟨recreates, by omega, by omega⟩, lost⟩
    · refine .inl ⟨fun midway => recreates midway.1, ?_⟩
      rw [if_neg recreates]
      have at_any : ∀ c ∈ lead ++ ([⟨prepared (linked a (indexes ++ [ALERT_LINK_INDEX])) others, false, none⟩] ++
          restoring a indexes others cut.foreign_keys), Reached a others indexes c.toDatabase := by
        intro c inside
        rcases List.mem_append.mp inside with inside | inside
        · exact at_front c (List.mem_append_left _ inside)
        · simp only [restoring, List.cons_append, List.nil_append, List.mem_cons, List.not_mem_nil, or_false] at inside
          rcases inside with rfl | rfl | rfl
          · exact .finished some_left
          · exact .finished some_left
          · exact .finished some_left
      rcases List.mem_cons.mp (after_take_mem _ _ _) with same | inside
      · rw [same]
        exact here
      · exact at_any _ inside
  | moved some_left =>
    refine .inl ⟨?_, ?_⟩
    · rintro ⟨u, none, _⟩
      cases none
    · obtain ⟨error, refused⟩ := @upgrade_refused others alembic (linked a []) (some (incidents_at 6)) cut.foreign_keys
      unfold attempt Program.interrupted
      rw [refused, List.take_nil]
      exact here
  | finished some_left =>
    refine .inl ⟨?_, ?_⟩
    · obtain ⟨column, key, present⟩ := link_complete previous some_left
      rw [midway_iff]
      unfold Recreated
      rw [column, key, present]
      simp
    · unfold attempt Program.interrupted
      rw [upgrade_finished previous some_left, List.take_nil]
      exact here

/-- Whatever a run passes, the database it has committed has `alerts` in its place with all of its indexes: from the copy of
    the rows to the commit that is the database before the copy. -/
private theorem left_reached (unfinished : Unfinished a indexes t) {lead : List Connection}
    (at_lead : ∀ c ∈ lead, ∃ incidents foreign_keys, Incidents incidents ∧
      c = ⟨⟨some t, none, incidents, others⟩, foreign_keys, none⟩) (alembic : Alembic) (foreign_keys : Bool) :
    ∀ c ∈ lead ++ (link_path alembic a t indexes others ++ restoring a indexes others foreign_keys),
      Reached a others indexes c.left ∧ c.left.alerts.isSome = true := by
  have known : Incidents (some (incidents_at 6)) := .inr ⟨6, Nat.le_refl 6, rfl⟩
  have before_copy : Reached a others indexes (begun a t others) := .unfinished unfinished known
  have finished : Reached a others indexes (prepared (linked a (indexes ++ [ALERT_LINK_INDEX])) others) :=
    .finished unfinished.indexes_eq.2
  intro c inside
  rcases List.mem_append.mp inside with inside | inside
  · obtain ⟨incidents, enforced, known, rfl⟩ := at_lead c inside
    exact ⟨.unfinished unfinished known, rfl⟩
  rcases List.mem_append.mp inside with inside | inside
  · unfold link_path at inside
    split at inside
    · rcases List.mem_append.mp inside with inside | inside
      · simp only [to_rename, List.mem_cons, List.not_mem_nil, or_false] at inside
        rcases inside with rfl | rfl | rfl
        · exact ⟨before_copy, rfl⟩
        · exact ⟨before_copy, rfl⟩
        · exact ⟨before_copy, rfl⟩
      · obtain ⟨n, _, rfl⟩ := List.mem_map.mp inside
        exact ⟨before_copy, rfl⟩
    · rw [List.mem_singleton.mp inside]
      exact ⟨finished, rfl⟩
  · simp only [restoring, List.mem_cons, List.not_mem_nil, or_false] at inside
    rcases inside with rfl | rfl
    · exact ⟨finished, rfl⟩
    · exact ⟨finished, rfl⟩

/-- With the transaction of the batch rolled back an interruption leaves all indexes, and `alerts` in its place. -/
theorem attempt_left (previous : Previous a others) (alembic : Alembic) {db : Database}
    (reached : Reached a others indexes db) (there : db.alerts.isSome = true) (cut : Interruption) :
    Reached a others indexes (attempt Connection.left alembic db cut) ∧
    (attempt Connection.left alembic db cut).alerts.isSome = true := by
  have here := reached
  cases reached with
  | unfinished left known =>
    obtain ⟨lead, passes, _, at_lead⟩ := upgrade_passes previous left alembic cut.foreign_keys _ known
    unfold attempt Program.interrupted
    rw [passes]
    rcases List.mem_cons.mp (after_take_mem _ _ _) with same | inside
    · rw [same]
      exact ⟨here, rfl⟩
    · exact left_reached left at_lead alembic cut.foreign_keys _ inside
  | moved _ => cases there
  | finished some_left =>
    unfold attempt Program.interrupted
    rw [upgrade_finished previous some_left, List.take_nil]
    exact ⟨here, rfl⟩

/-- A run from an unfinished state completes with the indexes there are, and its transaction is committed. -/
private theorem unfinished_ends (previous : Previous a others) (unfinished : Unfinished a indexes t) (alembic : Alembic)
    (foreign_keys : Bool) (scratch : Option Relation) {incidents : Option Relation} (known : Incidents incidents) :
    ((upgrade alembic).run ⟨⟨some t, scratch, incidents, others⟩, foreign_keys, none⟩).2 = .ok () ∧
    (upgrade alembic).final ⟨⟨some t, scratch, incidents, others⟩, foreign_keys, none⟩ =
      ⟨prepared (linked a (indexes ++ [ALERT_LINK_INDEX])) others, foreign_keys, none⟩ := by
  obtain ⟨lead, passes, _⟩ := upgrade_passes previous unfinished alembic foreign_keys scratch known
  unfold Program.final
  rw [passes, ← List.append_assoc]
  refine ⟨rfl, ?_⟩
  unfold restoring
  rw [after_append_cons, after_singleton]

/-- What an uninterrupted run comes to: without `alerts` it refuses, else it completes with the indexes there are. -/
theorem upgrade_ends (previous : Previous a others) (alembic : Alembic) {db : Database}
    (reached : Reached a others indexes db) (foreign_keys : Bool) :
    db.alerts = none ∧ (∃ error, ((upgrade alembic).run ⟨db, foreign_keys, none⟩).2 = .error error) ∧
      (upgrade alembic).final ⟨db, foreign_keys, none⟩ = ⟨db, foreign_keys, none⟩ ∨
    ((upgrade alembic).run ⟨db, foreign_keys, none⟩).2 = .ok () ∧ (upgrade alembic).final ⟨db, foreign_keys, none⟩ =
      ⟨prepared (linked a (indexes ++ [ALERT_LINK_INDEX])) others, foreign_keys, none⟩ := by
  cases reached with
  | unfinished left known => exact .inr (unfinished_ends previous left alembic foreign_keys _ known)
  | moved some_left =>
    obtain ⟨error, refused⟩ := @upgrade_refused others alembic (linked a []) (some (incidents_at 6)) foreign_keys
    unfold Program.final
    rw [refused]
    exact .inl ⟨rfl, ⟨error, rfl⟩, rfl⟩
  | finished some_left =>
    unfold Program.final
    rw [upgrade_finished previous some_left]
    exact .inr ⟨rfl, rfl⟩

private theorem linked_rows (indexes : List Index) : SameRows a (linked a indexes) := by
  unfold SameRows linked
  dsimp only
  rw [List.map_map]
  exact List.map_congr_left fun row _ => restrict_restrict (fun _ member => member) row

private theorem Reached.some_left {db : Database} (reached : Reached a others indexes db) : indexes <+: a.indexes := by
  cases reached with
  | unfinished left _ => exact left.indexes_eq.2
  | moved some_left => exact some_left
  | finished some_left => exact some_left

private theorem Reached.others_eq {db : Database} (reached : Reached a others indexes db) : db.others = others := by
  cases reached with
  | unfinished _ _ => rfl
  | moved _ => rfl
  | finished _ => rfl

private theorem Reached.kept {start db : Database} (original : start.alerts = some a)
    (reached : Reached a others indexes db) :
    Kept start db := by
  cases reached with
  | unfinished left _ =>
    cases left with
    | original => exact ⟨a, a, original, .inl rfl, rfl⟩
    | linked _ => exact ⟨a, _, original, .inl rfl, linked_rows _⟩
  | moved _ => exact ⟨a, _, original, .inr rfl, linked_rows _⟩
  | finished _ => exact ⟨a, _, original, .inl rfl, linked_rows _⟩

end

section
variable {a : Relation} {others : List (String × Relation)}

private theorem reached_start : Reached a others a.indexes ⟨some a, none, none, others⟩ :=
  .unfinished .original (.inl rfl)

/-- With all indexes left a later run recovers. -/
private theorem recovers_of_reached (previous : Previous a others) {durable : Connection → Database}
    (settled : ∀ db foreign_keys, durable ⟨db, foreign_keys, none⟩ = db) (alembic : Alembic) {db : Database}
    (reached : Reached a others a.indexes db) : Recovers durable alembic ⟨some a, none, none, others⟩ db where
  refused := by
    intro foreign_keys error raised
    rcases upgrade_ends previous alembic reached foreign_keys with ⟨_, _, unchanged⟩ | ⟨done, _⟩
    · rw [unchanged, settled]
      exact reached.kept rfl
    · rw [done] at raised
      cases raised
  completed := by
    intro foreign_keys done
    rcases upgrade_ends previous alembic reached foreign_keys with ⟨_, ⟨error, raised⟩, _⟩ | ⟨_, final⟩
    · rw [raised] at done
      cases done
    · rw [final, settled]
      refine ⟨fun state => ?_, ⟨a, linked a (a.indexes ++ [ALERT_LINK_INDEX]), rfl, rfl, ?_, linked_rows _⟩, rfl⟩
      · rw [(unfinished_ends previous .original alembic state none (.inl rfl)).2]
      · exact List.subset_append_left _ _

/-- With an index of `alerts` lost a later run completes without it. -/
private theorem not_recovers_of_lost (previous : Previous a others) (alembic : Alembic) {n : Nat}
    (fewer : n < a.indexes.length) :
    ¬ Recovers Connection.toDatabase alembic ⟨some a, none, none, others⟩
      ⟨some (linked a (a.indexes.take n)), none, some (incidents_at 6), others⟩ := by
  intro recovers
  have known : Incidents (some (incidents_at 6)) := .inr ⟨6, Nat.le_refl 6, rfl⟩
  obtain ⟨done, final⟩ := unfinished_ends previous (.linked (List.take_prefix n a.indexes)) alembic false none known
  have same := (recovers.completed false done).uninterrupted false
  rw [final, (unfinished_ends previous .original alembic false none (.inl rfl)).2] at same
  have sizes := congrArg (fun db : Database => db.alerts.map (fun t => t.indexes.length)) same
  simp only [linked, Option.map_some, Option.some_inj, List.length_append, List.length_take, List.length_singleton] at sizes
  omega

/-- Whatever the interruptions, with the transaction of the batch rolled back nothing is lost. -/
private theorem left_along (previous : Previous a others) (alembic : Alembic) {db : Database}
    (reached : Reached a others a.indexes db) (there : db.alerts.isSome = true) (history : List Interruption) :
    Reached a others a.indexes (Runs.run (attempt Connection.left alembic) db history) ∧
    (Runs.run (attempt Connection.left alembic) db history).alerts.isSome = true := by
  induction history generalizing db with
  | nil => exact ⟨reached, there⟩
  | cons cut rest ih =>
    obtain ⟨reached, there⟩ := attempt_left previous alembic reached there cut
    exact ih reached there

/-- Whatever the interruptions, with each statement durable by itself all but indexes is left. -/
private theorem durably_along (previous : Previous a others) (alembic : Alembic) {db : Database} {indexes : List Index}
    (reached : Reached a others indexes db) (history : List Interruption) :
    ∃ left, Reached a others left (Runs.run (attempt Connection.toDatabase alembic) db history) := by
  induction history generalizing db indexes with
  | nil => exact ⟨indexes, reached⟩
  | cons cut rest ih =>
    rw [Runs.run]
    rcases durably_cases previous alembic reached cut with ⟨_, kept⟩ | ⟨_, n, _, lost⟩
    · exact ih kept
    · rw [lost]
      have some_left := (List.take_prefix n indexes).trans reached.some_left
      exact ih (.unfinished (.linked some_left) (.inr ⟨6, Nat.le_refl 6, rfl⟩))

private theorem durably_recovers_along (previous : Previous a others) (alembic : Alembic) {db : Database}
    (reached : Reached a others a.indexes db) (history : List Interruption) :
    (∀ earlier, earlier <+: history → Recovers Connection.toDatabase alembic ⟨some a, none, none, others⟩
      (Runs.run (attempt Connection.toDatabase alembic) db earlier)) ↔
    Runs.Along (attempt Connection.toDatabase alembic) (fun db cut => ¬ Midway alembic db cut.statements) db history := by
  have settled : ∀ db foreign_keys, Connection.toDatabase ⟨db, foreign_keys, none⟩ = db := fun _ _ => rfl
  induction history generalizing db with
  | nil =>
    refine ⟨fun _ => trivial, fun _ earlier early => ?_⟩
    rw [List.prefix_nil.mp early]
    exact recovers_of_reached previous settled alembic reached
  | cons cut rest ih =>
    rcases durably_cases previous alembic reached cut with ⟨outside, kept⟩ | ⟨midway, n, fewer, lost⟩
    · constructor
      · intro recovers
        refine ⟨outside, (ih kept).mp fun earlier early => ?_⟩
        exact recovers (cut :: earlier) (List.cons_prefix_cons.mpr ⟨rfl, early⟩)
      · rintro ⟨_, later⟩ earlier early
        cases earlier with
        | nil => exact recovers_of_reached previous settled alembic reached
        | cons first earlier =>
          obtain ⟨rfl, earlier_still⟩ := List.cons_prefix_cons.mp early
          exact (ih kept).mpr later earlier earlier_still
    · constructor
      · intro recovers
        have after_cut := recovers [cut] (List.cons_prefix_cons.mpr ⟨rfl, List.nil_prefix⟩)
        rw [Runs.run, Runs.run, lost] at after_cut
        exact absurd after_cut (not_recovers_of_lost previous alembic fewer)
      · rintro ⟨outside, _⟩
        exact absurd midway outside

end

/-! ### From the previous revision -/

private theorem previous_holds (rows : String → List Row) :
    ∃ a, IncidentMigration.previous rows = ⟨some a, none, none, (IncidentMigration.previous rows).others⟩ ∧
      Previous a (IncidentMigration.previous rows).others := by
  have unlinked : ALERT_LINK_COLUMN.name ∉ (IncidentMigration.previous fun _ => []).alerts.elim [] Relation.names := by
    decide
  have distinct : Distinct ((IncidentMigration.previous fun _ => []).alerts.elim [] Relation.indexes ++ [ALERT_LINK_INDEX])
      (IncidentMigration.previous fun _ => []).others := by
    unfold Distinct
    decide +kernel
  have apart : (IncidentMigration.previous rows).others.all (fun other =>
      other.2.foreign_keys.all (fun fk => fk.referred_table != TableName.scratch.text)) = true := rfl
  refine ⟨_, rfl, unlinked, rfl, distinct, fun other member fk inside => ?_⟩
  exact bne_iff_ne.mp (List.all_eq_true.mp (List.all_eq_true.mp apart other member) fk inside)

/-- Whatever runs were interrupted before it, and wherever, a run completes with everything an uninterrupted run leaves; until
    then the rows of `alerts` and every other table are kept. -/
theorem interrupted_runs_recover (alembic : Alembic) (rows : String → List Row) (history : List Interruption) :
    let db := Runs.run (attempt Connection.left alembic) (previous rows) history
    (Kept (previous rows) db ∧ db.others = (previous rows).others) ∧ Recovers Connection.left alembic (previous rows) db ∧
    ∀ foreign_keys, ((upgrade alembic).run ⟨db, foreign_keys, none⟩).2 = .ok () := by
  obtain ⟨a, same, holds⟩ := previous_holds rows
  dsimp only
  rw [same]
  obtain ⟨reached, there⟩ := left_along holds alembic reached_start rfl history
  refine ⟨⟨reached.kept rfl, reached.others_eq⟩, recovers_of_reached holds (fun _ _ => rfl) alembic reached, ?_⟩
  intro foreign_keys
  rcases upgrade_ends holds alembic reached foreign_keys with ⟨missing, _⟩ | ⟨done, _⟩
  · rw [missing] at there
    cases there
  · exact done

/-- With each statement durable by itself a run recovers from whatever happened before it exactly when no earlier run was
    interrupted between the renaming of the scratch table and the last of the indexes that `alerts` had. -/
theorem durably_recovers_iff (alembic : Alembic) (rows : String → List Row) (history : List Interruption) :
    (∀ earlier, earlier <+: history → Recovers Connection.toDatabase alembic (previous rows)
      (Runs.run (attempt Connection.toDatabase alembic) (previous rows) earlier)) ↔
    Runs.Along (attempt Connection.toDatabase alembic) (fun db cut => ¬ Midway alembic db cut.statements) (previous rows)
      history := by
  obtain ⟨a, same, holds⟩ := previous_holds rows
  rw [same]
  exact durably_recovers_along holds alembic reached_start history

/-- Even then the rows are never lost. -/
theorem durably_kept (alembic : Alembic) (rows : String → List Row) (history : List Interruption) :
    Kept (previous rows) (Runs.run (attempt Connection.toDatabase alembic) (previous rows) history) ∧
    (Runs.run (attempt Connection.toDatabase alembic) (previous rows) history).others = (previous rows).others := by
  obtain ⟨a, same, holds⟩ := previous_holds rows
  rw [same]
  obtain ⟨left, reached⟩ := durably_along holds alembic reached_start history
  exact ⟨reached.kept rfl, reached.others_eq⟩

/-- With each statement durable by itself the run after one that was interrupted once the scratch table had its new name
    completes without the indexes of `alerts`. -/
theorem renamed_loses_indexes : ¬ ∀ alembic rows history, Recovers Connection.toDatabase alembic (previous rows)
    (Runs.run (attempt Connection.toDatabase alembic) (previous rows) history) := by
  intro recovers
  have lost := recovers ⟨false⟩ (fun _ => []) [⟨true, 13⟩]
  obtain ⟨t, u, before, left, kept, _⟩ := (lost.completed true (by decide +kernel)).alerts
  have few : u.indexes = [ALERT_LINK_INDEX] := Option.some_inj.mp ((congrArg (Option.map Relation.indexes) left).symm.trans
    (by decide +kernel))
  have six := Option.some_inj.mp ((congrArg (Option.map Relation.indexes) before).symm)
  rw [few, six] at kept
  exact absurd kept (by decide)

end SocTriage.MigrationRecovery
