import Mathlib.Data.List.Perm.Basic
import Mathlib.Logic.Function.Basic
import SocTriage.AsyncLock
import SocTriage.Runs
import SocTriage.Tables

/-!
The export locks of incidents. Tasks run one at a time between their await points: a task enters the
context manager up to the wait for the lock, goes on when its future is done, and leaves the block, with
an exception or without; a task that waits may be cancelled. Lock objects are by reference, so that two
tasks of one incident could hold different ones; the number of users sees to it that they never do.
-/
namespace SocTriage.ExportLock
open AsyncLock (Lock Sound sound_new)
open Runs (run)

/-- A task between the first line of the context manager and its last, with the lock object that it has. -/
structure Task (α : Type) where
  id : α
  incident_id : String
  lock : Nat
  inside : Bool
deriving DecidableEq

structure System (α : Type) where
  objects : Nat → Lock α := fun _ => {}
  created : Nat := 0
  export_locks : Table (Prod.fst : String × Nat → String) := Table.empty
  export_lock_users : Table (Prod.fst : String × Nat → String) := Table.empty
  tasks : Table (Task.id : Task α → α) := Table.empty

inductive Event (α : Type) where
  | enter (task : α) (incident_id : String)
  | cancel (task : α)
  | resume (task : α)
  | leave (task : α)

section
variable {α : Type}

/-- The lock object of an incident. -/
def lock_of (s : System α) (incident_id : String) : Option Nat := (s.export_locks.get incident_id).map Prod.snd

/-- The number of users of the lock of an incident. -/
def users_of (s : System α) (incident_id : String) : Option Nat := (s.export_lock_users.get incident_id).map Prod.snd

/-- `_export_locks.setdefault(incident_id, asyncio.Lock())`; the new object is there either way. -/
def setdefault (s : System α) (incident_id : String) : System α × Nat :=
  let s' := { s with objects := Function.update s.objects s.created {}, created := s.created + 1 }
  match lock_of s incident_id with
  | some lock => (s', lock)
  | none => ({ s' with export_locks := s.export_locks.put (incident_id, s.created) }, s.created)

/-- The `finally` clause. -/
def release_user (s : System α) (incident_id : String) : System α :=
  let remaining := (users_of s incident_id).getD 1 - 1
  if remaining > 0 then { s with export_lock_users := s.export_lock_users.put (incident_id, remaining) }
  else
    { s with
      export_lock_users := s.export_lock_users.filter (fun row => row.1 ≠ incident_id)
      export_locks := s.export_locks.filter (fun row => row.1 ≠ incident_id) }

variable [DecidableEq α]

/-- Up to the block, or to the wait for the lock. -/
def enter (s : System α) (id : α) (incident_id : String) : System α :=
  let (s, lock) := setdefault s incident_id
  let users := (users_of s incident_id).getD 0 + 1
  let (object, inside) := (s.objects lock).acquire id
  { s with
    export_lock_users := s.export_lock_users.put (incident_id, users)
    objects := Function.update s.objects lock object
    tasks := s.tasks.put { id, incident_id, lock, inside } }

/-- The state without the task, with what it has made of its lock object. -/
def without (s : System α) (task : Task α) (object : Lock α) : System α :=
  { s with
    objects := Function.update s.objects task.lock object
    tasks := s.tasks.filter (fun other => other.id ≠ task.id) }

/-- What is not possible changes nothing. To cancel a task in the block raises in the block, which may leave for it. -/
def step (s : System α) : Event α → System α
  | .enter id incident_id => if s.tasks.has id then s else enter s id incident_id
  | .cancel id =>
    match s.tasks.get id with
    | some task =>
      if task.inside then s
      else { s with objects := Function.update s.objects task.lock ((s.objects task.lock).cancel id) }
    | none => s
  | .resume id =>
    match s.tasks.get id with
    | some task =>
      match task.inside, (s.objects task.lock).resume id with
      | false, some (object, true) =>
        let s := without s task object
        { s with tasks := s.tasks.put { task with inside := true } }
      | false, some (object, false) => release_user (without s task object) task.incident_id
      | _, _ => s
    | none => s
  | .leave id =>
    match s.tasks.get id with
    | some task =>
      if task.inside then release_user (without s task (s.objects task.lock).release) task.incident_id else s
    | none => s

end

/-! ### One lock and its tasks -/

section
variable {α : Type}

def holders (tasks : List (Task α)) : Nat := tasks.countP Task.inside

def waiting (tasks : List (Task α)) : List α := (tasks.filter (fun task => !task.inside)).map Task.id

/-- The lock object serves these tasks: those that are not inside wait for it. -/
structure Served (object : Lock α) (lock : Nat) (tasks : List (Task α)) : Prop where
  same : ∀ task ∈ tasks, task.lock = lock
  sound : Sound object (holders tasks)
  queue : object.queue.Perm (waiting tasks)

private theorem served_new (lock : Nat) : Served ({} : Lock α) lock [] where
  same _ none := absurd none List.not_mem_nil
  sound := sound_new
  queue := .refl _

variable {object next : Lock α} {lock : Nat} {tasks rest : List (Task α)} {task : Task α}

private theorem waiting_cons (task : Task α) (rest : List (Task α)) :
    waiting (task :: rest) = if task.inside then waiting rest else task.id :: waiting rest := by
  rw [waiting, List.filter_cons]
  cases task.inside with
  | true => rfl
  | false => rfl

private theorem holders_cons (task : Task α) (rest : List (Task α)) :
    holders (task :: rest) = if task.inside then holders rest + 1 else holders rest := by
  rw [holders, List.countP_cons]
  cases task.inside with
  | true => rfl
  | false => rfl

private theorem Served.perm (served : Served object lock tasks) (perm : tasks.Perm rest) : Served object lock rest where
  same task inside := served.same task (perm.symm.subset inside)
  sound := by
    have sound := served.sound
    rwa [holders, perm.countP_eq] at sound
  queue := served.queue.trans ((perm.filter _).map _)

private theorem Served.enters (served : Served object lock tasks) {id : α} (new : id ∉ tasks.map Task.id)
    (incident_id : String) :
    Served (object.acquire id).1 lock ({ id, incident_id, lock, inside := (object.acquire id).2 } :: tasks) := by
  have same : ∀ task ∈ { id, incident_id, lock, inside := (object.acquire id).2 } :: tasks, task.lock = lock := by
    intro task inside
    rcases List.mem_cons.mp inside with rfl | before
    · rfl
    · exact served.same task before
  cases at_once : (object.acquire id).2 with
  | true =>
    obtain ⟨sound, queue⟩ := served.sound.acquired at_once
    rw [at_once] at same
    refine ⟨same, ?_, ?_⟩
    · rw [holders_cons]
      exact sound
    · rw [waiting_cons, queue]
      exact served.queue
  | false =>
    have unlisted : id ∉ object.queue := by
      intro listed
      obtain ⟨task, inside, own⟩ := List.mem_map.mp (served.queue.subset listed)
      exact new (own ▸ List.mem_map_of_mem (List.mem_filter.mp inside).1)
    obtain ⟨sound, queue⟩ := served.sound.enqueued unlisted at_once
    rw [at_once] at same
    refine ⟨same, ?_, ?_⟩
    · rw [holders_cons]
      exact sound
    · rw [waiting_cons, queue]
      exact (List.perm_append_singleton id object.queue).trans (served.queue.cons id)

private theorem Served.leaves (served : Served object lock (task :: rest)) (inside : task.inside = true) :
    Served object.release lock rest := by
  have sound := served.sound
  have queue := served.queue
  rw [holders_cons, if_pos inside] at sound
  rw [waiting_cons, if_pos inside] at queue
  have alone : holders rest = 0 := Nat.le_zero.mp (Nat.le_of_succ_le_succ sound.exclusive)
  rw [alone] at sound
  obtain ⟨released, same_queue⟩ := sound.released
  refine ⟨fun other later => served.same other (List.mem_cons_of_mem _ later), ?_, ?_⟩
  · rw [alone]
    exact released
  · rw [same_queue]
    exact queue

variable [DecidableEq α]

private theorem Served.cancels (served : Served object lock tasks) (id : α) : Served (object.cancel id) lock tasks := by
  obtain ⟨sound, queue⟩ := served.sound.cancelled id
  exact ⟨served.same, sound, queue ▸ served.queue⟩

/-- A task goes on: it is inside, or it is gone. -/
private theorem Served.resumes (served : Served object lock (task :: rest)) (waits : task.inside = false) {got : Bool}
    (went_on : object.resume task.id = some (next, got)) :
    Served next lock (if got then { task with inside := true } :: rest else rest) := by
  have sound := served.sound
  have queue := served.queue
  rw [holders_cons, waits] at sound
  rw [waiting_cons, waits] at queue
  obtain ⟨resumed, left⟩ := sound.resumed went_on
  have queue' : next.queue.Perm (waiting rest) := by
    rw [left]
    have erased := queue.erase task.id
    rwa [if_neg Bool.false_ne_true, List.erase_cons_head] at erased
  cases got with
  | true =>
    refine ⟨fun other inside => ?_, ?_, ?_⟩
    · rcases List.mem_cons.mp inside with rfl | later
      · exact served.same task List.mem_cons_self
      · exact served.same other (List.mem_cons_of_mem _ later)
    · rw [if_pos rfl, holders_cons]
      exact resumed
    · rw [if_pos rfl, waiting_cons]
      exact queue'
  | false => exact ⟨fun other later => served.same other (List.mem_cons_of_mem _ later), resumed, queue'⟩
end

/-! ### The maps -/

section
variable {α : Type}

def tasks_of (s : System α) (incident_id : String) : List (Task α) :=
  s.tasks.rows.filter (fun task => task.incident_id = incident_id)

/-- The incident is the same to its tasks. -/
structure Unaffected (s s' : System α) (incident_id : String) : Prop where
  lock : lock_of s' incident_id = lock_of s incident_id
  users : users_of s' incident_id = users_of s incident_id
  tasks : tasks_of s' incident_id = tasks_of s incident_id
  object : ∀ lock, lock_of s incident_id = some lock → s'.objects lock = s.objects lock

/-- The lock of an incident with tasks. -/
private structure Used (s : System α) (incident_id : String) (lock : Nat) : Prop where
  known : lock < s.created
  served : Served (s.objects lock) lock (tasks_of s incident_id)
  counted : users_of s incident_id = some (tasks_of s incident_id).length
  used : tasks_of s incident_id ≠ []

private def Kept (s : System α) (incident_id : String) : Prop :=
  match lock_of s incident_id with
  | some lock => Used s incident_id lock
  | none => users_of s incident_id = none ∧ tasks_of s incident_id = []

/-- Every incident with tasks has a lock object of its own, and the others have none. -/
private structure Inv (s : System α) : Prop where
  apart : ∀ i j lock, lock_of s i = some lock → lock_of s j = some lock → i = j
  kept : ∀ i, Kept s i

variable {s s' : System α} {incident_id : String} {lock : Nat}

private theorem Used.kept (used : Used s incident_id lock) (found : lock_of s incident_id = some lock) :
    Kept s incident_id := by
  rw [Kept, found]
  exact used

private theorem kept_unused (none : lock_of s incident_id = none) (users : users_of s incident_id = Option.none)
    (tasks : tasks_of s incident_id = []) : Kept s incident_id := by
  rw [Kept, none]
  exact ⟨users, tasks⟩

private theorem Inv.used (inv : Inv s) (found : lock_of s incident_id = some lock) : Used s incident_id lock := by
  have kept := inv.kept incident_id
  rwa [Kept, found] at kept

private theorem Inv.unused (inv : Inv s) (none : lock_of s incident_id = none) :
    users_of s incident_id = Option.none ∧ tasks_of s incident_id = [] := by
  have kept := inv.kept incident_id
  rwa [Kept, none] at kept

private theorem Unaffected.kept (same : Unaffected s s' incident_id) (later : s.created ≤ s'.created)
    (kept : Kept s incident_id) : Kept s' incident_id := by
  unfold Kept at kept ⊢
  rw [same.lock]
  cases found : lock_of s incident_id with
  | none =>
    rw [found] at kept
    rw [same.users, same.tasks]
    exact kept
  | some lock =>
    rw [found] at kept
    refine ⟨Nat.lt_of_lt_of_le kept.known later, ?_, ?_, ?_⟩
    · rw [same.object lock found, same.tasks]
      exact kept.served
    · rw [same.users, same.tasks]
      exact kept.counted
    · rw [same.tasks]
      exact kept.used

/-- A step of one incident keeps the invariant if it does so for the incident, whose lock is the old one or new. -/
private theorem Inv.step (inv : Inv s) (later : s.created ≤ s'.created) (j : String)
    (others : ∀ i, i ≠ j → Unaffected s s' i) (kept : Kept s' j)
    (known : ∀ lock, lock_of s' j = some lock → lock_of s j = some lock ∨ lock = s.created) : Inv s' := by
  have own (i : String) (other : i ≠ j) (lock : Nat) (found : lock_of s' i = some lock) : lock_of s' j ≠ some lock := by
    intro mine
    rw [(others i other).lock] at found
    rcases known lock mine with old | new
    · exact other (inv.apart i j lock found old)
    · exact Nat.lt_irrefl _ (new ▸ (inv.used found).known)
  constructor
  · intro i i' lock found found'
    by_cases mine : i = j
    · by_cases mine' : i' = j
      · rw [mine, mine']
      · exact absurd (mine ▸ found) (own i' mine' lock found')
    · by_cases mine' : i' = j
      · exact absurd (mine' ▸ found') (own i mine lock found)
      · rw [(others i mine).lock] at found
        rw [(others i' mine').lock] at found'
        exact inv.apart i i' lock found found'
  · intro i
    by_cases mine : i = j
    · exact mine ▸ kept
    · exact (others i mine).kept later (inv.kept i)

private theorem inv_start : Inv ({} : System α) where
  apart _ _ _ none := by cases none
  kept _ := ⟨rfl, rfl⟩

private theorem Unaffected.refl (s : System α) (incident_id : String) : Unaffected s s incident_id :=
  ⟨rfl, rfl, rfl, fun _ _ => rfl⟩

private theorem Unaffected.trans {s'' : System α} (first : Unaffected s s' incident_id)
    (second : Unaffected s' s'' incident_id) : Unaffected s s'' incident_id where
  lock := second.lock.trans first.lock
  users := second.users.trans first.users
  tasks := second.tasks.trans first.tasks
  object lock found := (second.object lock (first.lock.trans found)).trans (first.object lock found)

/-! ### The `finally` clause -/

private theorem get_pop {t : Table (Prod.fst : String × Nat → String)} {i j : String} (other : i ≠ j) :
    (t.filter (fun row => row.1 ≠ j)).get i = t.get i := by
  rw [Table.get_filter]
  cases found : t.get i with
  | none => rfl
  | some row =>
    have key : row.1 = i := Table.get_key found
    rw [Option.filter_some, if_pos]
    rw [key]
    exact decide_eq_true other

private theorem get_popped {t : Table (Prod.fst : String × Nat → String)} {j : String} :
    (t.filter (fun row => row.1 ≠ j)).get j = none := by
  rw [Table.get_filter]
  cases found : t.get j with
  | none => rfl
  | some row =>
    have key : row.1 = j := Table.get_key found
    rw [Option.filter_some, if_neg]
    rw [key]
    simp

private theorem release_user_unaffected {i j : String} (other : i ≠ j) : Unaffected s (release_user s j) i := by
  unfold release_user
  dsimp only
  split
  · refine ⟨rfl, ?_, rfl, fun _ _ => rfl⟩
    rw [users_of, Table.get_put, if_neg other.symm, ← users_of]
  · refine ⟨?_, ?_, rfl, fun _ _ => rfl⟩
    · rw [lock_of, get_pop other, ← lock_of]
    · rw [users_of, get_pop other, ← users_of]

/-- The last user takes the lock with it, and any other leaves it to those who are still there. -/
private theorem release_user_kept {j : String} (found : lock_of s j = some lock) (known : lock < s.created)
    (served : Served (s.objects lock) lock (tasks_of s j)) (counted : users_of s j = some ((tasks_of s j).length + 1)) :
    Kept (release_user s j) j ∧ ∀ lock, lock_of (release_user s j) j = some lock → lock_of s j = some lock := by
  have remaining : (users_of s j).getD 1 - 1 = (tasks_of s j).length := by rw [counted]; rfl
  unfold release_user
  rw [remaining]
  by_cases used : (tasks_of s j).length > 0
  · rw [if_pos used]
    refine ⟨Used.kept ⟨known, served, ?_, List.ne_nil_of_length_pos used⟩ found, fun _ same => same⟩
    rw [users_of, Table.get_put, if_pos rfl]
    rfl
  · rw [if_neg used]
    have gone {users locks : Table (Prod.fst : String × Nat → String)} : lock_of { s with
        export_lock_users := users, export_locks := locks.filter (fun row => row.1 ≠ j) } j = none := by
      rw [lock_of, get_popped]
      rfl
    refine ⟨kept_unused gone ?_ (List.eq_nil_of_length_eq_zero (Nat.le_zero.mp (Nat.not_lt.mp used))), fun _ same => ?_⟩
    · rw [users_of, get_popped]
      rfl
    · rw [gone] at same
      cases same

/-! ### The steps -/

/-- The lock of a task is that of its incident. -/
private theorem Inv.has_lock (inv : Inv s) {task : Task α} (inside : task ∈ s.tasks.rows) :
    lock_of s task.incident_id = some task.lock := by
  have listed : task ∈ tasks_of s task.incident_id := List.mem_filter.mpr ⟨inside, decide_eq_true rfl⟩
  cases found : lock_of s task.incident_id with
  | none =>
    rw [(inv.unused found).2] at listed
    cases listed
  | some lock => rw [(inv.used found).served.same task listed]

private theorem mem_tasks_of {task : Task α} : task ∈ tasks_of s incident_id ↔ task ∈ s.tasks.rows ∧
    task.incident_id = incident_id := by
  rw [tasks_of, List.mem_filter, decide_eq_true_eq]

private theorem Inv.alone (inv : Inv s) {t u : Task α} (left : t ∈ s.tasks.rows) (right : u ∈ s.tasks.rows)
    (same : t.incident_id = u.incident_id) (inside : t.inside = true) (inside' : u.inside = true) : t = u := by
  have few := (inv.used (inv.has_lock left)).served.sound.exclusive
  rw [holders, List.countP_eq_length_filter] at few
  have first : t ∈ (tasks_of s t.incident_id).filter Task.inside :=
    List.mem_filter.mpr ⟨mem_tasks_of.mpr ⟨left, rfl⟩, inside⟩
  have second : u ∈ (tasks_of s t.incident_id).filter Task.inside :=
    List.mem_filter.mpr ⟨mem_tasks_of.mpr ⟨right, same.symm⟩, inside'⟩
  obtain ⟨only, single⟩ := List.length_eq_one_iff.mp (Nat.le_antisymm few (List.length_pos_of_mem first))
  rw [single, List.mem_singleton] at first second
  rw [first, second]

private theorem Inv.used_iff (inv : Inv s) (i : String) :
    ((lock_of s i).isSome = true ↔ ∃ t ∈ s.tasks.rows, t.incident_id = i) ∧
      ((users_of s i).isSome = true ↔ ∃ t ∈ s.tasks.rows, t.incident_id = i) := by
  have listed : (∃ t ∈ s.tasks.rows, t.incident_id = i) ↔ tasks_of s i ≠ [] := by
    constructor
    · rintro ⟨t, inside, own⟩
      exact List.ne_nil_of_mem (mem_tasks_of.mpr ⟨inside, own⟩)
    · intro some_task
      obtain ⟨t, inside⟩ := List.exists_mem_of_ne_nil _ some_task
      exact ⟨t, mem_tasks_of.mp inside⟩
  rw [listed]
  cases found : lock_of s i with
  | some lock =>
    have used := inv.used found
    rw [used.counted]
    exact ⟨iff_of_true rfl used.used, iff_of_true rfl used.used⟩
  | none =>
    obtain ⟨users, tasks⟩ := inv.unused found
    rw [users, tasks]
    exact ⟨iff_of_false Bool.false_ne_true (fun some => some rfl), iff_of_false Bool.false_ne_true (fun some => some rfl)⟩

/-- Another incident has another lock. -/
private theorem Inv.other_lock (inv : Inv s) {task : Task α} (inside : task ∈ s.tasks.rows) {i : String}
    (other : i ≠ task.incident_id) {lock : Nat} (found : lock_of s i = some lock) : lock ≠ task.lock := by
  rintro rfl
  exact other (inv.apart _ _ _ found (inv.has_lock inside))

/-- A step of one incident keeps the invariant and leaves the others alone. -/
private structure Concerns (s s' : System α) (incident_id : String) : Prop where
  inv : Inv s'
  others : ∀ i, i ≠ incident_id → Unaffected s s' i

/-- The incident has a lock, its own or a new one, before a task asks for it. -/
private structure Ready (s s' : System α) (incident_id : String) (lock : Nat) : Prop where
  found : lock_of s' incident_id = some lock
  known : lock < s'.created
  old : lock_of s incident_id = some lock ∨ lock = s.created
  served : Served (s'.objects lock) lock (tasks_of s incident_id)
  users : s'.export_lock_users = s.export_lock_users
  tasks : s'.tasks = s.tasks
  others : ∀ i, i ≠ incident_id → Unaffected s s' i ∧ lock_of s' i ≠ some lock
  later : s.created ≤ s'.created

private theorem Inv.ready (inv : Inv s) (j : String) : Ready s (setdefault s j).1 j (setdefault s j).2 := by
  have unchanged {i : String} {lock : Nat} (found : lock_of s i = some lock) :
      Function.update s.objects s.created {} lock = s.objects lock :=
    Function.update_of_ne (Nat.ne_of_lt (inv.used found).known) ..
  unfold setdefault
  dsimp only
  cases mine : lock_of s j with
  | some lock =>
    refine ⟨mine, Nat.lt_succ_of_lt (inv.used mine).known, .inl mine, ?_, rfl, rfl, fun i other => ⟨?_, ?_⟩, Nat.le_succ _⟩
    · dsimp only
      rw [unchanged mine]
      exact (inv.used mine).served
    · exact ⟨rfl, rfl, rfl, fun _ found => unchanged found⟩
    · exact fun found => other (inv.apart i j lock found mine)
  | none =>
    have mapped (i : String) (other : i ≠ j) : (s.export_locks.put (j, s.created)).get i = s.export_locks.get i := by
      rw [Table.get_put, if_neg other.symm]
    refine ⟨?_, Nat.lt_succ_self _, .inr rfl, ?_, rfl, rfl, fun i other => ⟨?_, ?_⟩, Nat.le_succ _⟩
    · rw [lock_of, Table.get_put, if_pos rfl]
      rfl
    · dsimp only
      rw [Function.update_self, (inv.unused mine).2]
      exact served_new _
    · refine ⟨?_, rfl, rfl, fun _ found => unchanged found⟩
      rw [lock_of, mapped i other, ← lock_of]
    · rw [lock_of, mapped i other, ← lock_of]
      exact fun found => Nat.lt_irrefl _ (inv.used found).known

private theorem Inv.users (inv : Inv s) (j : String) : (users_of s j).getD 0 = (tasks_of s j).length := by
  cases found : lock_of s j with
  | some lock => rw [(inv.used found).counted, Option.getD_some]
  | none =>
    rw [(inv.unused found).1, (inv.unused found).2]
    rfl

variable [DecidableEq α]

private theorem without_unaffected (inv : Inv s) {task : Task α} (inside : task ∈ s.tasks.rows) (object : Lock α)
    {i : String} (other : i ≠ task.incident_id) : Unaffected s (without s task object) i where
  lock := rfl
  users := rfl
  tasks := by
    rw [tasks_of, tasks_of, without, Table.rows_filter, List.filter_filter]
    refine List.filter_congr (fun row listed => ?_)
    by_cases same : row.id = task.id
    · have equal := Table.eq_of_key listed inside same
      subst equal
      simp [other.symm]
    · simp [same]
  object lock found := Function.update_of_ne (inv.other_lock inside other found) ..

private theorem objects_without (s : System α) (task : Task α) (object : Lock α) :
    (without s task object).objects task.lock = object := Function.update_self ..

private theorem tasks_without {task : Task α} (inside : task ∈ s.tasks.rows) (object : Lock α) :
    (tasks_of s task.incident_id).Perm (task :: tasks_of (without s task object) task.incident_id) := by
  have perm := (Table.rows_perm inside).filter (fun other => other.incident_id = task.incident_id)
  have own : (fun other : Task α => decide (other.incident_id = task.incident_id)) task = true := decide_eq_true rfl
  rwa [List.filter_cons, if_pos own] at perm

/-- A task that is gone from the lock goes through the `finally` clause. -/
private theorem Inv.departs (inv : Inv s) {task : Task α} (inside : task ∈ s.tasks.rows) {object : Lock α}
    (served : ∀ rest, Served (s.objects task.lock) task.lock (task :: rest) → Served object task.lock rest) :
    Concerns s (release_user (without s task object) task.incident_id) task.incident_id := by
  have found := inv.has_lock inside
  have used := inv.used found
  have perm := tasks_without inside object
  have left : Served ((without s task object).objects task.lock) task.lock
      (tasks_of (without s task object) task.incident_id) := by
    rw [objects_without]
    exact served _ (used.served.perm perm)
  have counted : users_of (without s task object) task.incident_id =
      some ((tasks_of (without s task object) task.incident_id).length + 1) := by
    rw [← List.length_cons, ← perm.length_eq]
    exact used.counted
  obtain ⟨kept, known⟩ := release_user_kept (s := without s task object) found used.known left counted
  have others : ∀ i, i ≠ task.incident_id → Unaffected s (release_user (without s task object) task.incident_id) i :=
    fun i other => (without_unaffected inv inside object other).trans (release_user_unaffected other)
  have created : (release_user (without s task object) task.incident_id).created = s.created := by
    unfold release_user
    dsimp only
    split
    · rfl
    · rfl
  exact ⟨inv.step (Nat.le_of_eq created.symm) task.incident_id others kept (fun lock same => .inl (known lock same)), others⟩

private theorem tasks_of_put {task : Task α} (puts : s'.tasks = s.tasks.put task)
    (fresh : ∀ old ∈ s.tasks.rows, old.id ≠ task.id) (i : String) :
    tasks_of s' i = if task.incident_id = i then tasks_of s i ++ [task] else tasks_of s i := by
  rw [tasks_of, puts, Table.rows_put fresh, List.filter_append, ← tasks_of]
  split
  · rename_i same
    rw [List.filter_cons, if_pos (decide_eq_true same)]
    rfl
  · rename_i other
    rw [List.filter_cons, if_neg (by simpa using other)]
    exact List.append_nil _

/-- A task that has got the lock is inside. -/
private theorem Inv.goes_in (inv : Inv s) {task : Task α} (inside : task ∈ s.tasks.rows) {object : Lock α}
    (served : ∀ rest, Served (s.objects task.lock) task.lock (task :: rest) →
      Served object task.lock ({ task with inside := true } :: rest)) :
    Concerns s { without s task object with tasks := (without s task object).tasks.put { task with inside := true } }
      task.incident_id := by
  have found := inv.has_lock inside
  have used := inv.used found
  have perm := tasks_without inside object
  have fresh : ∀ old ∈ (without s task object).tasks.rows, old.id ≠ ({ task with inside := true } : Task α).id := by
    intro old listed
    exact of_decide_eq_true (List.mem_filter.mp listed).2
  have others : ∀ i, i ≠ task.incident_id → Unaffected s
      { without s task object with tasks := (without s task object).tasks.put { task with inside := true } } i := by
    intro i other
    refine (without_unaffected inv inside object other).trans ⟨rfl, rfl, ?_, fun _ _ => rfl⟩
    rw [tasks_of_put rfl fresh, if_neg other.symm]
  refine ⟨inv.step (Nat.le_refl _) task.incident_id others (Used.kept ⟨used.known, ?_, ?_, ?_⟩ found)
    (fun lock same => .inl same), others⟩
  · rw [tasks_of_put rfl fresh, if_pos rfl]
    refine Served.perm ?_ (List.perm_append_singleton _ _).symm
    rw [objects_without]
    exact served _ (used.served.perm perm)
  · rw [tasks_of_put rfl fresh, if_pos rfl, List.length_append, List.length_singleton, ← List.length_cons, ← perm.length_eq]
    exact used.counted
  · rw [tasks_of_put rfl fresh, if_pos rfl]
    exact List.concat_ne_nil _ _

/-- A task that is cancelled keeps its place. -/
private theorem Inv.cancels (inv : Inv s) {task : Task α} (inside : task ∈ s.tasks.rows) :
    Concerns s { s with objects := Function.update s.objects task.lock ((s.objects task.lock).cancel task.id) }
      task.incident_id := by
  have found := inv.has_lock inside
  have used := inv.used found
  have others : ∀ i, i ≠ task.incident_id → Unaffected s
      { s with objects := Function.update s.objects task.lock ((s.objects task.lock).cancel task.id) } i :=
    fun i other => ⟨rfl, rfl, rfl, fun _ found => Function.update_of_ne (inv.other_lock inside other found) ..⟩
  refine ⟨inv.step (Nat.le_refl _) task.incident_id others (Used.kept ⟨used.known, ?_, used.counted, used.used⟩ found)
    (fun lock same => .inl same), others⟩
  dsimp only
  rw [Function.update_self]
  exact used.served.cancels task.id

/-- A task that enters is one more user of the lock, and has it or waits for it. -/
private theorem Inv.enters (inv : Inv s) {id : α} (new : ∀ old ∈ s.tasks.rows, old.id ≠ id) (j : String) :
    Concerns s (enter s id j) j := by
  have ready := inv.ready j
  unfold enter
  dsimp only
  generalize setdefault s j = prepared at ready
  obtain ⟨s', lock⟩ := prepared
  dsimp only at ready ⊢
  let task : Task α := { id, incident_id := j, lock, inside := ((s'.objects lock).acquire id).2 }
  let last : System α := { s' with
    export_lock_users := s'.export_lock_users.put (j, (users_of s' j).getD 0 + 1)
    objects := Function.update s'.objects lock ((s'.objects lock).acquire id).1
    tasks := s'.tasks.put task }
  show Concerns s last j
  have put : last.tasks = s.tasks.put task := by rw [← ready.tasks]
  have tasks (i : String) : tasks_of last i = if j = i then tasks_of s i ++ [task] else tasks_of s i :=
    tasks_of_put put new i
  have users (i : String) : users_of last i = if j = i then some ((tasks_of s j).length + 1) else users_of s i := by
    have count : (users_of s' j).getD 0 = (tasks_of s j).length := by rw [users_of, ready.users, ← users_of, inv.users]
    have counted : last.export_lock_users = s.export_lock_users.put (j, (tasks_of s j).length + 1) := by
      rw [← count, ← ready.users]
    rw [users_of, counted, Table.get_put, users_of]
    split
    · rfl
    · rfl
  have others : ∀ i, i ≠ j → Unaffected s last i := by
    intro i other
    obtain ⟨same, apart⟩ := ready.others i other
    refine ⟨same.lock, (users i).trans (if_neg other.symm), (tasks i).trans (if_neg other.symm), fun lock' found => ?_⟩
    have different : lock' ≠ lock := fun equal => apart (same.lock.trans (equal ▸ found))
    exact (Function.update_of_ne different ..).trans (same.object lock' found)
  refine ⟨inv.step ready.later j others (Used.kept ⟨ready.known, ?_, ?_, ?_⟩ ready.found) (fun lock' found => ?_), others⟩
  · rw [tasks, if_pos rfl]
    refine Served.perm ?_ (List.perm_append_singleton _ _).symm
    have fresh : id ∉ (tasks_of s j).map Task.id := by
      intro taken
      obtain ⟨old, listed, same⟩ := List.mem_map.mp taken
      exact new old (List.mem_filter.mp listed).1 same
    have object : last.objects lock = ((s'.objects lock).acquire id).1 := Function.update_self ..
    rw [object]
    exact ready.served.enters fresh j
  · rw [users, if_pos rfl, tasks, if_pos rfl, List.length_append, List.length_singleton]
  · rw [tasks, if_pos rfl]
    exact List.concat_ne_nil _ _
  · cases Option.some.inj (found.symm.trans ready.found)
    exact ready.old

/-! ### Runs -/

/-- The incident of the task that moves. -/
def incident_of (s : System α) : Event α → Option String
  | .enter _ incident_id => some incident_id
  | .cancel id => (s.tasks.get id).map Task.incident_id
  | .resume id => (s.tasks.get id).map Task.incident_id
  | .leave id => (s.tasks.get id).map Task.incident_id

/-- A step keeps the invariant, and an incident whose task it is not stays the same. -/
private theorem step_spec (inv : Inv s) (e : Event α) :
    Inv (step s e) ∧ ∀ i, incident_of s e ≠ some i → Unaffected s (step s e) i := by
  have still : Inv s ∧ ∀ i, incident_of s e ≠ some i → Unaffected s s i := ⟨inv, fun i _ => .refl s i⟩
  have moves {s' : System α} {j : String} (mine : incident_of s e = some j) (concerns : Concerns s s' j) :
      Inv s' ∧ ∀ i, incident_of s e ≠ some i → Unaffected s s' i :=
    ⟨concerns.inv, fun i other => concerns.others i (fun same => other (same ▸ mine))⟩
  cases e with
  | enter id j =>
    rw [step]
    split
    · exact still
    · rename_i free
      exact moves rfl (inv.enters (fun old listed same => free (Table.has_iff.mpr ⟨old, listed, same⟩)) j)
  | cancel id =>
    rw [step]
    cases found : s.tasks.get id with
    | none => exact still
    | some task =>
      have mine : incident_of s (.cancel id) = some task.incident_id := by rw [incident_of, found]; rfl
      obtain ⟨listed, rfl⟩ := Table.get_eq_some.mp found
      dsimp only
      split
      · exact still
      · exact moves mine (inv.cancels listed)
  | resume id =>
    rw [step]
    cases found : s.tasks.get id with
    | none => exact still
    | some task =>
      have mine : incident_of s (.resume id) = some task.incident_id := by rw [incident_of, found]; rfl
      obtain ⟨listed, rfl⟩ := Table.get_eq_some.mp found
      dsimp only
      split
      · rename_i object waits went_on
        exact moves mine (inv.goes_in listed (fun rest served => served.resumes waits went_on))
      · rename_i object waits went_on
        exact moves mine (inv.departs listed (fun rest served => served.resumes waits went_on))
      · exact still
  | leave id =>
    rw [step]
    cases found : s.tasks.get id with
    | none => exact still
    | some task =>
      have mine : incident_of s (.leave id) = some task.incident_id := by rw [incident_of, found]; rfl
      obtain ⟨listed, rfl⟩ := Table.get_eq_some.mp found
      dsimp only
      split
      · rename_i inside
        exact moves mine (inv.departs listed (fun rest served => served.leaves inside))
      · exact still

/-- The task waits, and its future is not done. -/
def Blocked (s : System α) (task : Task α) : Prop := task.inside = false ∧ (s.objects task.lock).resume task.id = none

/-- The task is in the block, or its future is done. -/
def CanMove (s : System α) (task : Task α) : Prop :=
  task.inside = true ∨ ((s.objects task.lock).resume task.id).isSome = true

/-- One task of an incident is in the block; tasks have one lock object if and only if they have one incident, so that
who is blocked waits for a task of its own incident, and what the tasks of an incident do changes nothing for another;
and the maps hold the incidents that have tasks. -/
structure Serialised (s : System α) : Prop where
  alone : ∀ t ∈ s.tasks.rows, ∀ u ∈ s.tasks.rows, t.incident_id = u.incident_id →
    t.inside = true → u.inside = true → t = u
  lock : ∀ t ∈ s.tasks.rows, ∀ u ∈ s.tasks.rows, t.lock = u.lock ↔ t.incident_id = u.incident_id
  moves : ∀ t ∈ s.tasks.rows, Blocked s t → ∃ u ∈ s.tasks.rows, u.incident_id = t.incident_id ∧ CanMove s u
  others : ∀ e i, incident_of s e ≠ some i → Unaffected s (step s e) i
  locks : ∀ i, s.export_locks.has i = true ↔ ∃ t ∈ s.tasks.rows, t.incident_id = i
  users : ∀ i, s.export_lock_users.has i = true ↔ ∃ t ∈ s.tasks.rows, t.incident_id = i

private theorem Inv.moves (inv : Inv s) {t : Task α} (listed : t ∈ s.tasks.rows) (waits : t.inside = false) :
    ∃ u ∈ s.tasks.rows, u.incident_id = t.incident_id ∧ CanMove s u := by
  have served := (inv.used (inv.has_lock listed)).served
  have waiter : t.id ∈ waiting (tasks_of s t.incident_id) :=
    List.mem_map_of_mem (List.mem_filter.mpr ⟨mem_tasks_of.mpr ⟨listed, rfl⟩, by rw [waits]; rfl⟩)
  obtain ⟨w, queued, own⟩ := List.mem_map.mp (served.queue.symm.subset waiter)
  rcases served.sound.moves queued with held | ⟨first, queued, goes_on⟩
  · obtain ⟨u, inside, holds⟩ := List.countP_pos_iff.mp (held ▸ Nat.one_pos)
    exact ⟨u, (mem_tasks_of.mp inside).1, (mem_tasks_of.mp inside).2, .inl holds⟩
  · obtain ⟨u, inside, same⟩ := List.mem_map.mp (served.queue.subset (List.mem_map_of_mem queued))
    obtain ⟨inside, incident⟩ := mem_tasks_of.mp (List.mem_filter.mp inside).1
    refine ⟨u, inside, incident, .inr ?_⟩
    rw [same, served.same u (mem_tasks_of.mpr ⟨inside, incident⟩)]
    exact goes_on


private theorem Inv.serialised (inv : Inv s) : Serialised s where
  alone t left u right same inside inside' := inv.alone left right same inside inside'
  lock t left u right := by
    constructor
    · intro same
      have found := inv.has_lock right
      rw [← same] at found
      exact inv.apart _ _ _ (inv.has_lock left) found
    · intro same
      have found := inv.has_lock right
      rw [← same, inv.has_lock left] at found
      exact Option.some.inj found
  moves t listed blocked := inv.moves listed blocked.1
  others e i other := (step_spec inv e).2 i other
  locks i := by
    have used := (inv.used_iff i).1
    rwa [lock_of, Option.isSome_map] at used
  users i := by
    have used := (inv.used_iff i).2
    rwa [users_of, Option.isSome_map] at used

/-- However the tasks interleave, the exports of an incident run one at a time, those of different incidents do not wait
for each other, and the maps hold the incidents that are being exported. -/
theorem exports_serialised (events : List (Event α)) : Serialised (run step ({} : System α) events) := by
  have inv : Inv (run step ({} : System α) events) :=
    @Runs.invariant (System α) (Event α) step Inv (fun _ e inv => (step_spec inv e).1) {} inv_start events
  exact inv.serialised
end

/-- The first task leaves and wakes the second, which is cancelled before it goes on; so the third gets the lock. -/
example :
    let s := run step ({} : System Nat) [.enter 1 "a", .enter 2 "a", .enter 3 "a", .leave 1, .cancel 2, .resume 2, .resume 3]
    s.tasks.rows = [⟨3, "a", 0, true⟩] ∧ s.export_locks.rows = [("a", 0)] ∧ s.export_lock_users.rows = [("a", 1)] := by
  decide

end SocTriage.ExportLock
