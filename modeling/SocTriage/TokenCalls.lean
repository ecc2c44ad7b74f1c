import SocTriage.RateLimit
import SocTriage.Runs

/-!
Any sequence of calls on one token bucket, at readings of a clock that does not go back. The calls
that succeed keep to the allowance in every window, and none is refused that would have kept to it.
-/
namespace SocTriage.TokenCalls
open Allowance (within Allowed Paid)
open RateLimit

/-- The bucket after calls at the readings. -/
def after (bucket : TokenBucket) (readings : List ℚ) : TokenBucket :=
  Runs.run (fun bucket now => (bucket.try_acquire now).2) bucket readings

/-- The readings at which a call succeeds. -/
def granted : TokenBucket → List ℚ → List ℚ
  | _, [] => []
  | bucket, now :: rest =>
    let (acquired, bucket) := bucket.try_acquire now
    if acquired then now :: granted bucket rest else granted bucket rest

/-- The tokens there are at a reading, were the capacity no limit. -/
def accrued (bucket : TokenBucket) (now : ℚ) : ℚ := bucket.tokens + bucket.refill * (now - bucket.updated)

/-! ### One call -/

section
variable (bucket : TokenBucket) (now : ℚ)

/-- A call is refused when less than a token is there, and else takes one of at most so many as the capacity. -/
private theorem try_acquire_cases :
    (min (bucket.capacity : ℚ) (accrued bucket now) < 1 ∧ bucket.try_acquire now =
      (false, { bucket with tokens := min (bucket.capacity : ℚ) (accrued bucket now), updated := now })) ∨
    (1 ≤ min (bucket.capacity : ℚ) (accrued bucket now) ∧ bucket.try_acquire now =
      (true, { bucket with tokens := min (bucket.capacity : ℚ) (accrued bucket now) - 1, updated := now })) := by
  rw [TokenBucket.try_acquire, accrued, mul_comm bucket.refill]
  split
  · rename_i short
    exact .inl ⟨short, rfl⟩
  · rename_i enough
    exact .inr ⟨not_lt.mp enough, rfl⟩

private theorem try_acquire_limits : (bucket.try_acquire now).2.capacity = bucket.capacity ∧
    (bucket.try_acquire now).2.refill = bucket.refill ∧ (bucket.try_acquire now).2.updated = now := by
  rcases try_acquire_cases bucket now with ⟨_, asked⟩ | ⟨_, asked⟩
  · rw [asked]
    exact ⟨rfl, rfl, rfl⟩
  · rw [asked]
    exact ⟨rfl, rfl, rfl⟩

private theorem one_le_capacity : (1 : ℚ) ≤ bucket.capacity := by exact_mod_cast bucket.has_capacity

/-- A call is refused exactly when fewer than one token has accrued: the capacity is never the reason. -/
theorem try_acquire_refused_iff : (bucket.try_acquire now).1 = false ↔ accrued bucket now < 1 := by
  have room := one_le_capacity bucket
  rcases try_acquire_cases bucket now with ⟨short, asked⟩ | ⟨enough, asked⟩
  · rw [asked]
    refine iff_of_true rfl ?_
    rcases min_lt_iff.mp short with full | few
    · exact absurd full (not_lt.mpr room)
    · exact few
  · rw [asked]
    exact iff_of_false Bool.noConfusion (not_lt.mpr (le_min_iff.mp enough).2)
end

/-! ### Any sequence of calls -/

section
variable {bucket : TokenBucket}

private theorem granted_cons (now : ℚ) (rest : List ℚ) :
    granted bucket (now :: rest) = granted bucket [now] ++ granted (after bucket [now]) rest := by
  rw [granted, granted]
  show _ = _ ++ granted (bucket.try_acquire now).2 rest
  dsimp only
  split
  · rfl
  · rfl

private theorem granted_append (earlier later : List ℚ) :
    granted bucket (earlier ++ later) = granted bucket earlier ++ granted (after bucket earlier) later := by
  induction earlier generalizing bucket with
  | nil => rfl
  | cons now rest ih =>
    rw [List.cons_append, granted_cons, ih, @granted_cons bucket now rest, List.append_assoc]
    rfl

/-- The limits of a bucket stay, and it knows the reading of its last call. -/
private theorem after_limits (readings : List ℚ) : (after bucket readings).capacity = bucket.capacity ∧
    (after bucket readings).refill = bucket.refill ∧
      (after bucket readings).updated ∈ bucket.updated :: readings := by
  induction readings generalizing bucket with
  | nil => exact ⟨rfl, rfl, List.mem_cons_self⟩
  | cons now rest ih =>
    obtain ⟨capacity, refill, updated⟩ := @ih (bucket.try_acquire now).2
    obtain ⟨kept_capacity, kept_refill, read⟩ := try_acquire_limits bucket now
    rw [read] at updated
    exact ⟨capacity.trans kept_capacity, refill.trans kept_refill, List.mem_cons_of_mem _ updated⟩

/-- The clock never goes back, from the last reading of the bucket. -/
def Ordered (bucket : TokenBucket) (readings : List ℚ) : Prop := (bucket.updated :: readings).Pairwise (· ≤ ·)

private theorem Ordered.first {now : ℚ} {rest : List ℚ} (ordered : Ordered bucket (now :: rest)) : bucket.updated ≤ now :=
  (List.pairwise_cons.mp ordered).1 now List.mem_cons_self

private theorem Ordered.rest {now : ℚ} {rest : List ℚ} (ordered : Ordered bucket (now :: rest)) :
    Ordered (bucket.try_acquire now).2 rest := by
  rw [Ordered, (try_acquire_limits bucket now).2.2]
  exact (List.pairwise_cons.mp ordered).2

private theorem Ordered.left {earlier later : List ℚ} (ordered : Ordered bucket (earlier ++ later)) :
    Ordered bucket earlier := by
  rw [Ordered, ← List.cons_append] at ordered
  exact (List.pairwise_append.mp ordered).1

/-- A call comes after those before it. -/
private theorem Ordered.next {earlier : List ℚ} {now : ℚ} (ordered : Ordered bucket (earlier ++ [now])) :
    (after bucket earlier).updated ≤ now := by
  rw [Ordered, ← List.cons_append] at ordered
  exact (List.pairwise_append.mp ordered).2.2 _ (after_limits earlier).2.2 now List.mem_cons_self

/-- The calls that succeed are paid for out of the bucket. -/
private theorem granted_paid {readings : List ℚ} (ordered : Ordered bucket readings) :
    Paid (bucket.capacity : ℚ) bucket.refill bucket.tokens bucket.updated (granted bucket readings) := by
  induction readings generalizing bucket with
  | nil => exact .none
  | cons now rest ih =>
    have later := ih ordered.rest
    obtain ⟨capacity, refill, -⟩ := try_acquire_limits bucket now
    rw [capacity, refill] at later
    cases asked : bucket.try_acquire now with
    | mk acquired left =>
      rw [asked] at later
      rw [granted, asked]
      cases acquired with
      | false => exact (refused_pays asked ordered.first).paid _ later
      | true => exact (acquired_pays asked ordered.first).paid _ later

/-- The level of the bucket is between nothing and the capacity. -/
def Level (bucket : TokenBucket) : Prop := 0 ≤ bucket.tokens ∧ bucket.tokens ≤ bucket.capacity

private theorem try_acquire_level {now : ℚ} (level : Level bucket) (later : bucket.updated ≤ now) :
    Level (bucket.try_acquire now).2 := by
  obtain ⟨solvent, -⟩ := level
  have accrues : 0 ≤ accrued bucket now :=
    add_nonneg solvent (mul_nonneg bucket.refills.le (sub_nonneg.mpr later))
  have room := one_le_capacity bucket
  have capped := min_le_left (bucket.capacity : ℚ) (accrued bucket now)
  rcases try_acquire_cases bucket now with ⟨_, asked⟩ | ⟨enough, asked⟩
  · rw [asked]
    exact ⟨le_min (by linarith) accrues, capped⟩
  · rw [asked]
    exact ⟨sub_nonneg.mpr enough, by linarith⟩

private theorem after_level {readings : List ℚ} (level : Level bucket) (ordered : Ordered bucket readings) :
    Level (after bucket readings) := by
  induction readings generalizing bucket with
  | nil => exact level
  | cons now rest ih => exact ih (try_acquire_level level ordered.first) ordered.rest

/-- The level is no less than what the capacity and the rate give since some instant, less what was granted since. -/
def Explained (bucket : TokenBucket) (grants : List ℚ) : Prop :=
  ∃ first ≤ bucket.updated, bucket.capacity + bucket.refill * (bucket.updated - first) ≤
    bucket.tokens + (within first bucket.updated grants).length

private theorem within_grows (first last later : ℚ) (grants : List ℚ) (ordered : last ≤ later) :
    (within first last grants).length ≤ (within first later grants).length := by
  refine (List.monotone_filter_right grants (fun grant inside => ?_)).length_le
  obtain ⟨from_first, until_last⟩ := of_decide_eq_true inside
  exact decide_eq_true ⟨from_first, until_last.trans ordered⟩

/-- So is the level at the next reading, which is the full capacity or has accrued since. -/
private theorem Explained.accrue {grants : List ℚ} {now : ℚ} (explained : Explained bucket grants)
    (later : bucket.updated ≤ now) :
    ∃ first ≤ now, bucket.capacity + bucket.refill * (now - first) ≤
      min (bucket.capacity : ℚ) (accrued bucket now) + (within first now grants).length := by
  rcases min_choice (bucket.capacity : ℚ) (accrued bucket now) with full | partly
  · refine ⟨now, le_rfl, ?_⟩
    rw [full, sub_self, mul_zero, add_zero]
    exact le_add_of_nonneg_right (Nat.cast_nonneg _)
  · obtain ⟨first, before, enough⟩ := explained
    refine ⟨first, before.trans later, ?_⟩
    have grows : ((within first bucket.updated grants).length : ℚ) ≤ (within first now grants).length := by
      exact_mod_cast within_grows first bucket.updated now grants later
    have split : bucket.refill * (now - first) =
        bucket.refill * (bucket.updated - first) + bucket.refill * (now - bucket.updated) := by ring
    rw [partly, accrued, split]
    linarith

private theorem Explained.step {grants : List ℚ} {now : ℚ} (explained : Explained bucket grants)
    (later : bucket.updated ≤ now) :
    Explained (bucket.try_acquire now).2 (grants ++ granted bucket [now]) := by
  obtain ⟨first, before, enough⟩ := explained.accrue later
  rcases try_acquire_cases bucket now with ⟨_, asked⟩ | ⟨_, asked⟩
  · rw [granted, asked]
    refine ⟨first, before, ?_⟩
    show _ ≤ _ + ((within first now (grants ++ [])).length : ℚ)
    rw [List.append_nil]
    exact enough
  · rw [granted, asked]
    refine ⟨first, before, ?_⟩
    have one : within first now [now] = [now] := List.filter_cons_of_pos (decide_eq_true ⟨before, le_rfl⟩)
    show _ ≤ _ + ((within first now (grants ++ [now])).length : ℚ)
    rw [Allowance.within_append, one, List.length_append, List.length_singleton, Nat.cast_add, Nat.cast_one]
    show (bucket.capacity : ℚ) + bucket.refill * (now - first) ≤ _
    linarith

private theorem Explained.run {grants readings : List ℚ} (explained : Explained bucket grants)
    (ordered : Ordered bucket readings) : Explained (after bucket readings) (grants ++ granted bucket readings) := by
  induction readings generalizing bucket grants with
  | nil =>
    rw [granted, List.append_nil]
    exact explained
  | cons now rest ih =>
    rw [granted_cons, ← List.append_assoc]
    exact ih (explained.step ordered.first) ordered.rest
end

/-! ### A bucket that starts full -/

section
variable {capacity : Int} {refill_per_second opened : ℚ} {bucket : TokenBucket} {readings : List ℚ}

private theorem new_full (built : TokenBucket.new capacity refill_per_second opened = .ok bucket) :
    bucket.tokens = bucket.capacity := by
  unfold TokenBucket.new at built
  split at built
  · cases built
  split at built
  · cases built
  · cases built
    rfl

private theorem new_level (built : TokenBucket.new capacity refill_per_second opened = .ok bucket) : Level bucket := by
  have room := one_le_capacity bucket
  rw [Level, new_full built]
  exact ⟨by linarith, le_rfl⟩

/-- Whenever the calls come: the ones that succeed keep to the allowance in every window, the level stays between nothing
    and the capacity, and a call fails exactly when fewer than one token has accrued. -/
theorem calls_limited (built : TokenBucket.new capacity refill_per_second opened = .ok bucket)
    (ordered : (opened :: readings).Pairwise (· ≤ ·)) :
    (∀ first last, first ≤ last → ((within first last (granted bucket readings)).length : ℚ) ≤
      capacity + refill_per_second * (last - first)) ∧
    (∀ earlier, earlier <+: readings →
      0 ≤ (after bucket earlier).tokens ∧ (after bucket earlier).tokens ≤ capacity) ∧
    ∀ earlier now, earlier ++ [now] <+: readings →
      (((after bucket earlier).try_acquire now).1 = false ↔ accrued (after bucket earlier) now < 1) := by
  obtain ⟨rfl, rfl, rfl⟩ := new_spec built
  have has_capacity : (0 : ℚ) ≤ bucket.capacity := by exact_mod_cast bucket.has_capacity.le
  refine ⟨(granted_paid ordered).allowed has_capacity bucket.refills.le, ?_, ?_⟩
  · rintro earlier ⟨later, rfl⟩
    obtain ⟨solvent, capped⟩ := after_level (new_level built) (Ordered.left ordered)
    rw [(after_limits earlier).1] at capped
    exact ⟨solvent, capped⟩
  · intro earlier now _
    exact try_acquire_refused_iff (after bucket earlier) now

/-- Six calls on the bucket of the public quota; the fifth comes too early. -/
theorem public_calls_limited :
    (∀ first last, first ≤ last → ((within first last (granted public_bucket [0, 1, 2, 3, 4, 30])).length : ℚ) ≤
      VT_PUBLIC_CAPACITY + VT_PUBLIC_REFILL_PER_SECOND * (last - first)) ∧
    (∀ earlier, earlier <+: [0, 1, 2, 3, 4, 30] →
      0 ≤ (after public_bucket earlier).tokens ∧ (after public_bucket earlier).tokens ≤ VT_PUBLIC_CAPACITY) ∧
    ∀ earlier now, earlier ++ [now] <+: [0, 1, 2, 3, 4, 30] →
      (((after public_bucket earlier).try_acquire now).1 = false ↔ accrued (after public_bucket earlier) now < 1) :=
  calls_limited public_bucket_built (by decide +kernel)

example : granted public_bucket [0, 1, 2, 3, 4, 30] = [0, 1, 2, 3, 30] := by decide +kernel

/-- No call is refused without need: one that fails would have exceeded the allowance of a window that ends with it. -/
theorem refused_iff {now : ℚ} (built : TokenBucket.new capacity refill_per_second opened = .ok bucket)
    (ordered : (opened :: (readings ++ [now])).Pairwise (· ≤ ·)) :
    ((after bucket readings).try_acquire now).1 = false ↔
      ¬ Allowed (capacity : ℚ) refill_per_second (granted bucket readings ++ [now]) := by
  obtain ⟨rfl, rfl, rfl⟩ := new_spec built
  have explained : Explained bucket [] := ⟨bucket.updated, le_rfl, by
    rw [sub_self, mul_zero, add_zero, new_full built]
    exact le_add_of_nonneg_right (Nat.cast_nonneg _)⟩
  have past := explained.run (Ordered.left ordered)
  rw [List.nil_append] at past
  obtain ⟨same_capacity, same_refill, -⟩ := @after_limits bucket readings
  constructor
  · intro refused allowed
    obtain ⟨first, before, enough⟩ := past.accrue (Ordered.next ordered)
    have within_now := allowed first now before
    have one : within first now [now] = [now] := List.filter_cons_of_pos (decide_eq_true ⟨before, le_rfl⟩)
    rw [Allowance.within_append, one, List.length_append, List.length_singleton, Nat.cast_add, Nat.cast_one] at within_now
    rw [same_capacity, same_refill] at enough
    have few := (try_acquire_refused_iff (after bucket readings) now).mp refused
    have level := min_le_right (bucket.capacity : ℚ) (accrued (after bucket readings) now)
    linarith
  · intro exceeds
    by_contra acquired
    rw [Bool.not_eq_false] at acquired
    have taken : granted bucket (readings ++ [now]) = granted bucket readings ++ [now] := by
      rw [granted_append, granted]
      dsimp only
      rw [acquired]
      rfl
    have has_capacity : (0 : ℚ) ≤ bucket.capacity := by exact_mod_cast bucket.has_capacity.le
    have allowed := (granted_paid ordered).allowed has_capacity bucket.refills.le
    rw [taken] at allowed
    exact exceeds allowed
end

end SocTriage.TokenCalls
