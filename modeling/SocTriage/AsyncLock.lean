import Mathlib.Data.List.Nodup

/-!
`asyncio.Lock`, with the futures of the tasks that wait for it. A release wakes the first task that
waits, and the lock stays free until that task goes on; a task that is cancelled after it was woken
wakes the next one. So a free lock that is waited for has woken somebody (`Sound`), which no operation
loses, and no more than one task takes it.
-/
namespace SocTriage.AsyncLock

/-- The state of a future. -/
inductive Future where
  | PENDING
  | CANCELLED
  | FINISHED
deriving DecidableEq

/-- A task with the future it awaits; `must_cancel` if it was cancelled when the future was done already. -/
structure Waiter (α : Type) where
  task : α
  future : Future := .PENDING
  must_cancel : Bool := false

structure Lock (α : Type) where
  locked : Bool := false
  waiters : List (Waiter α) := []

section
variable {α : Type}

/-- The first task that waits is to go on, unless it is about to. -/
def Lock.wake_up_first (self : Lock α) : Lock α :=
  match self.waiters with
  | [] => self
  | first :: rest =>
    if first.future = .PENDING then { self with waiters := { first with future := .FINISHED } :: rest } else self

/-- The lock is taken at once when it is free and nobody is before the task; otherwise the task waits. -/
def Lock.acquire (self : Lock α) (task : α) : Lock α × Bool :=
  if !self.locked && self.waiters.all (fun w => w.future = .CANCELLED) then ({ self with locked := true }, true)
  else ({ self with waiters := self.waiters ++ [{ task := task }] }, false)

/-- `RuntimeError` if it is not taken, which changes nothing. -/
def Lock.release (self : Lock α) : Lock α :=
  if self.locked then { self with locked := false }.wake_up_first else self

/-- `task.cancel()` of a task that awaits the future. -/
def Waiter.cancel (self : Waiter α) : Waiter α :=
  if self.future = .PENDING then { self with future := .CANCELLED } else { self with must_cancel := true }

variable [DecidableEq α]

def Lock.cancel (self : Lock α) (task : α) : Lock α :=
  { self with waiters := self.waiters.map (fun w => if w.task = task then w.cancel else w) }

/-- A task goes on when its future is done. It takes the lock, or it was cancelled and somebody else may have to go on. -/
def Lock.resume (self : Lock α) (task : α) : Option (Lock α × Bool) :=
  match self.waiters.find? (fun w => w.task = task) with
  | none => none
  | some w =>
    let left := { self with waiters := self.waiters.eraseP (fun w => w.task = task) }
    match w.future, w.must_cancel with
    | .PENDING, _ => none
    | .FINISHED, false => some ({ left with locked := true }, true)
    | _, _ => some (if left.locked then left else left.wake_up_first, false)
end

/-! ### What holds of a lock -/

/-- The tasks that wait, in order. -/
def Lock.queue {α : Type} (self : Lock α) : List α := self.waiters.map Waiter.task

/-- So many tasks hold the lock: one if it is taken and none if it is free. Only the first that waits can have been
woken, and only if the lock is free; and then it was woken or cancelled. -/
structure Sound {α : Type} (lock : Lock α) (holders : Nat) : Prop where
  held : holders = if lock.locked then 1 else 0
  taken : lock.locked = true → ∀ w ∈ lock.waiters, w.future ≠ .FINISHED
  first : ∀ w ∈ lock.waiters.tail, w.future ≠ .FINISHED
  awake : lock.locked = false → ∀ w ∈ lock.waiters.head?, w.future ≠ .PENDING
  once : lock.queue.Nodup

section
variable {α : Type} {self : Lock α} {holders : Nat}

theorem sound_new : Sound ({} : Lock α) 0 where
  held := rfl
  taken taken := by cases taken
  first _ none := absurd none List.not_mem_nil
  awake _ _ none := by cases none
  once := List.nodup_nil

/-- No more than one task holds a lock. -/
theorem Sound.exclusive (sound : Sound self holders) : holders ≤ 1 := by
  rw [sound.held]
  split
  · exact Nat.le_refl 1
  · exact Nat.zero_le 1

theorem Sound.free (sound : Sound self holders) (free : self.locked = false) : holders = 0 := by
  rw [sound.held, if_neg (by rw [free]; exact Bool.false_ne_true)]

theorem queue_wake_up_first : self.wake_up_first.queue = self.queue := by
  unfold Lock.wake_up_first Lock.queue
  split
  · rfl
  · rename_i first rest waiters
    split
    · rw [waiters]; rfl
    · rfl

theorem locked_wake_up_first : self.wake_up_first.locked = self.locked := by
  unfold Lock.wake_up_first
  split
  · rfl
  · split
    · rfl
    · rfl

/-- To wake the first waiter is all it takes to make a free lock sound. -/
theorem sound_wake_up_first (free : self.locked = false) (first : ∀ w ∈ self.waiters.tail, w.future ≠ .FINISHED)
    (once : self.queue.Nodup) : Sound self.wake_up_first 0 where
  held := by rw [locked_wake_up_first, free]; rfl
  taken taken := by rw [locked_wake_up_first, free] at taken; cases taken
  first := by
    unfold Lock.wake_up_first
    split
    · exact first
    · rename_i head rest waiters
      rw [waiters] at first
      split
      · exact first
      · rw [waiters]
        exact first
  awake _ := by
    unfold Lock.wake_up_first
    split
    · rename_i waiters
      rw [waiters]
      exact fun w none => by cases none
    · rename_i head rest waiters
      split
      · intro w same
        cases same
        exact Future.noConfusion
      · rename_i done
        intro w same
        rw [waiters] at same
        cases same
        exact done
  once := by rw [queue_wake_up_first]; exact once

/-- A task that takes the lock at once is its only holder. -/
theorem Sound.acquired {task : α} (sound : Sound self holders) (at_once : (self.acquire task).2 = true) :
    Sound (self.acquire task).1 (holders + 1) ∧ (self.acquire task).1.queue = self.queue := by
  unfold Lock.acquire at at_once ⊢
  split at at_once
  · rename_i free
    rw [if_pos free]
    simp only [Bool.and_eq_true, Bool.not_eq_true', List.all_eq_true, decide_eq_true_eq] at free
    obtain ⟨free, cancelled⟩ := free
    have none_woken : ∀ w ∈ self.waiters, w.future ≠ .FINISHED := by
      intro w inside
      rw [cancelled w inside]
      exact Future.noConfusion
    exact ⟨⟨by rw [sound.free free]; rfl, fun _ => none_woken, sound.first, fun taken => (by cases taken), sound.once⟩, rfl⟩
  · cases at_once

/-- A task that does not get the lock at once waits behind all others, and the one before it will go on. -/
theorem Sound.enqueued {task : α} (sound : Sound self holders) (new : task ∉ self.queue)
    (waits : (self.acquire task).2 = false) :
    Sound (self.acquire task).1 holders ∧ (self.acquire task).1.queue = self.queue ++ [task] := by
  unfold Lock.acquire at waits ⊢
  split at waits
  · cases waits
  · rename_i busy
    rw [if_neg busy]
    have queue : ({ self with waiters := self.waiters ++ [{ task := task }] } : Lock α).queue = self.queue ++ [task] := by
      rw [Lock.queue, List.map_append, List.map_singleton, ← Lock.queue]
    have last : ∀ w ∈ [({ task := task } : Waiter α)], w.future ≠ .FINISHED := by
      intro w inside
      rw [List.mem_singleton.mp inside]
      exact Future.noConfusion
    refine ⟨⟨sound.held, fun taken w inside => ?_, fun w inside => ?_, fun free w first => ?_, ?_⟩, queue⟩
    · rcases List.mem_append.mp inside with before | new
      · exact sound.taken taken w before
      · exact last w new
    · cases waiters : self.waiters with
      | nil => rw [waiters] at inside; cases inside
      | cons head rest =>
        rw [waiters] at inside
        rcases List.mem_append.mp (show w ∈ rest ++ [_] from inside) with before | new
        · exact sound.first w (by rw [waiters]; exact before)
        · exact last w new
    · cases waiters : self.waiters with
      | nil => exact absurd (by rw [show self.locked = false from free, waiters]; rfl) busy
      | cons head rest =>
        rw [waiters] at first
        exact sound.awake free w (by rw [waiters]; exact first)
    · rw [queue]
      exact List.nodup_append.mpr ⟨sound.once, List.nodup_singleton _, fun a before b same equal =>
        new (by rw [← List.mem_singleton.mp same, ← equal]; exact before)⟩

theorem Sound.released (sound : Sound self 1) : Sound self.release 0 ∧ self.release.queue = self.queue := by
  have locked : self.locked = true := by
    cases free : self.locked with
    | true => rfl
    | false => exact absurd (sound.free free) Nat.one_ne_zero
  rw [Lock.release, if_pos locked]
  exact ⟨sound_wake_up_first rfl sound.first sound.once, queue_wake_up_first⟩

private theorem future_cancel (w : Waiter α) :
    w.cancel.future ≠ .PENDING ∧ (w.cancel.future = .FINISHED → w.future = .FINISHED) := by
  unfold Waiter.cancel
  split
  · exact ⟨Future.noConfusion, fun finished => by cases finished⟩
  · rename_i done
    exact ⟨done, fun finished => finished⟩

private theorem task_cancel (w : Waiter α) : w.cancel.task = w.task := by
  unfold Waiter.cancel
  split
  · rfl
  · rfl

/-- Without a task that waited, nobody but the first has been woken still. -/
private theorem tail_eraseP {waiters : List (Waiter α)} {p : Waiter α → Bool}
    (first : ∀ w ∈ waiters.tail, w.future ≠ .FINISHED) : ∀ w ∈ (waiters.eraseP p).tail, w.future ≠ .FINISHED := by
  cases waiters with
  | nil => exact first
  | cons head rest =>
    intro w inside
    rw [List.eraseP_cons] at inside
    cases gone : p head with
    | true =>
      rw [gone] at inside
      exact first w (List.mem_of_mem_tail inside)
    | false =>
      rw [gone] at inside
      exact first w (List.mem_of_mem_eraseP inside)

/-- A woken task is the first in the queue. -/
private theorem Sound.woken (sound : Sound self holders) {w : Waiter α} (inside : w ∈ self.waiters)
    (woken : w.future = .FINISHED) : self.locked = false ∧ ∃ rest, self.waiters = w :: rest := by
  constructor
  · cases locked : self.locked with
    | false => rfl
    | true => exact absurd woken (sound.taken locked w inside)
  · cases waiters : self.waiters with
    | nil => rw [waiters] at inside; cases inside
    | cons head rest =>
      rw [waiters] at inside
      rcases List.mem_cons.mp inside with rfl | later
      · exact ⟨rest, rfl⟩
      · exact absurd woken (sound.first w (by rw [waiters]; exact later))

variable [DecidableEq α]

/-- A cancelled task keeps its place until it goes on. -/
theorem Sound.cancelled (sound : Sound self holders) (task : α) :
    Sound (self.cancel task) holders ∧ (self.cancel task).queue = self.queue := by
  let change (w : Waiter α) : Waiter α := if w.task = task then w.cancel else w
  have finished (w : Waiter α) (woken : (change w).future = .FINISHED) : w.future = .FINISHED := by
    dsimp only [change] at woken
    split at woken
    · exact (future_cancel w).2 woken
    · exact woken
  have done (w : Waiter α) (done : w.future ≠ .PENDING) : (change w).future ≠ .PENDING := by
    dsimp only [change]
    split
    · exact (future_cancel w).1
    · exact done
  have queue : (self.cancel task).queue = self.queue := by
    rw [Lock.queue, Lock.cancel, List.map_map, Lock.queue]
    refine List.map_congr_left (fun w _ => ?_)
    show (change w).task = w.task
    dsimp only [change]
    split
    · exact task_cancel w
    · rfl
  refine ⟨⟨sound.held, fun taken v inside => ?_, fun v inside => ?_, fun free v first => ?_, queue ▸ sound.once⟩, queue⟩
  · obtain ⟨w, before, rfl⟩ := List.mem_map.mp inside
    exact fun woken => sound.taken taken w before (finished w woken)
  · rw [Lock.cancel, ← List.map_tail] at inside
    obtain ⟨w, before, rfl⟩ := List.mem_map.mp inside
    exact fun woken => sound.first w before (finished w woken)
  · rw [Lock.cancel, List.head?_map] at first
    obtain ⟨w, before, rfl⟩ := Option.map_eq_some_iff.mp first
    exact done w (sound.awake free w before)

private theorem queue_eraseP (task : α) :
    (self.waiters.eraseP (fun w => w.task = task)).map Waiter.task = self.queue.erase task := by
  have same : (fun w : Waiter α => decide (w.task = task)) = (fun other => other == task) ∘ Waiter.task := rfl
  rw [Lock.queue, List.erase_eq_eraseP', List.eraseP_map, same]

/-- A task that goes on leaves the queue, and is the only holder if it was not cancelled. -/
theorem Sound.resumed {task : α} {next : Lock α} {got : Bool} (sound : Sound self holders)
    (went_on : self.resume task = some (next, got)) :
    Sound next (if got then holders + 1 else holders) ∧ next.queue = self.queue.erase task := by
  unfold Lock.resume at went_on
  cases found : self.waiters.find? (fun w => w.task = task) with
  | none => rw [found] at went_on; cases went_on
  | some w =>
    rw [found] at went_on
    have inside := List.mem_of_find?_eq_some found
    have own := List.find?_some found
    rw [decide_eq_true_eq] at own
    have once : (self.queue.erase task).Nodup := sound.once.erase task
    have left_queue (locked : Bool) : ({ locked, waiters := self.waiters.eraseP (fun w => w.task = task) } : Lock α).queue =
        self.queue.erase task := queue_eraseP task
    dsimp only at went_on
    split at went_on
    · cases went_on
    · -- woken: all others in the queue come after it
      rename_i woken _
      cases went_on
      obtain ⟨free, rest, waiters⟩ := sound.woken inside woken
      have left : self.waiters.eraseP (fun w => w.task = task) = rest := by
        rw [waiters, List.eraseP_cons, own, decide_eq_true rfl]
        rfl
      have others : ∀ v ∈ rest, v.future ≠ .FINISHED := by
        have first := sound.first
        rwa [waiters] at first
      refine ⟨⟨?_, fun _ => ?_, tail_eraseP sound.first, fun free => (by cases free), ?_⟩, left_queue true⟩
      · rw [if_pos rfl, sound.free free]
        rfl
      · rw [left]
        exact others
      · rw [left_queue]
        exact once
    · -- cancelled: whoever is first now has to be woken if the lock is free
      cases went_on
      rw [if_neg Bool.false_ne_true]
      cases locked : self.locked with
      | true =>
        rw [if_pos rfl]
        refine ⟨⟨?_, fun _ v before => ?_, tail_eraseP sound.first, fun free => (by cases free), ?_⟩, left_queue true⟩
        · rw [sound.held, locked]
        · exact sound.taken locked v (List.mem_of_mem_eraseP before)
        · rw [left_queue]
          exact once
      | false =>
        rw [if_neg Bool.false_ne_true, sound.free locked, queue_wake_up_first]
        refine ⟨sound_wake_up_first rfl (tail_eraseP sound.first) ?_, left_queue false⟩
        rw [left_queue]
        exact once

/-- A task goes on once its future is done. -/
theorem Sound.resumes (sound : Sound self holders) {w : Waiter α} (inside : w ∈ self.waiters)
    (done : w.future ≠ .PENDING) : (self.resume w.task).isSome := by
  have some_waiter := (@List.find?_isSome _ self.waiters (fun v => decide (v.task = w.task))).mpr
    ⟨w, inside, decide_eq_true rfl⟩
  obtain ⟨v, found⟩ := Option.isSome_iff_exists.mp some_waiter
  have own := List.find?_some found
  rw [decide_eq_true_eq] at own
  have same : v = w := List.inj_on_of_nodup_map sound.once (List.mem_of_find?_eq_some found) inside own
  rw [Lock.resume, found, same]
  dsimp only
  split
  · rename_i pending
    exact absurd pending done
  · rfl
  · rfl

/-- While somebody waits, somebody holds the lock or goes on next. -/
theorem Sound.moves (sound : Sound self holders) {w : Waiter α} (inside : w ∈ self.waiters) :
    holders = 1 ∨ ∃ first ∈ self.waiters, (self.resume first.task).isSome := by
  cases locked : self.locked with
  | true =>
    left
    rw [sound.held, locked]
    rfl
  | false =>
    right
    cases waiters : self.waiters with
    | nil => rw [waiters] at inside; cases inside
    | cons first rest =>
      have listed : first ∈ self.waiters := by rw [waiters]; exact List.mem_cons_self
      exact ⟨first, List.mem_cons_self, sound.resumes listed (sound.awake locked first (by rw [waiters]; rfl))⟩
end

end SocTriage.AsyncLock
