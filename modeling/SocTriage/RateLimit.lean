import SocTriage.Allowance
import SocTriage.Enrichment

/-!
The requests of an HTTP provider: the token bucket in front of a lookup, the retries
within one, the lookups of an enrichment and the enrichments of a run, with the clock
readings at which a token is asked for and a request is sent. One token pays for one
lookup, not for one request: a run keeps to the quota in every window that holds no retry
(`quota_kept`), and retries exceed it (`quota_exceeded`).
-/
namespace SocTriage.RateLimit
open Enrichment
open Allowance (within Allowed Paid)

/-! ### The token bucket -/

structure TokenBucket where
  capacity : Int
  refill : ℚ
  tokens : ℚ
  updated : ℚ
  has_capacity : 0 < capacity
  refills : 0 < refill

/-- The bucket built when the clock reads `now`. -/
def TokenBucket.new (capacity : Int) (refill_per_second now : ℚ) : Except String TokenBucket :=
  if no_capacity : capacity ≤ 0 then .error "capacity must be positive"
  else if no_refill : refill_per_second ≤ 0 then .error "refill_per_second must be positive"
  else .ok { capacity, refill := refill_per_second, tokens := capacity, updated := now
             has_capacity := not_le.mp no_capacity, refills := not_le.mp no_refill }

theorem new_spec {capacity : Int} {refill_per_second now : ℚ} {bucket : TokenBucket}
    (built : TokenBucket.new capacity refill_per_second now = .ok bucket) :
    capacity = bucket.capacity ∧ refill_per_second = bucket.refill ∧ now = bucket.updated := by
  unfold TokenBucket.new at built
  split at built
  · cases built
  split at built
  · cases built
  · cases built
    exact ⟨rfl, rfl, rfl⟩

def TokenBucket.try_acquire (self : TokenBucket) (now : ℚ) : Bool × TokenBucket :=
  let elapsed := now - self.updated
  let tokens := min (self.capacity : ℚ) (self.tokens + elapsed * self.refill)
  if tokens < 1 then (false, { self with tokens, updated := now })
  else (true, { self with tokens := tokens - 1, updated := now })

/-! ### One lookup -/

/-- The retry policy; how long an attempt is put off shows in the readings of the clock alone. -/
structure RetryConfig where
  max_attempts : Nat := 3
  at_least : 1 ≤ max_attempts
  at_most : max_attempts ≤ 10

/-- What an attempt is answered: an `httpx` exception (a timeout, one that is safe to retry, another), an exception of
    another kind, or a response with its JSON body, if it is one, and with a `Retry-After` header that may be an integer
    past every float, or a negative one, which no sleep takes. -/
inductive Answer where
  | timeout
  | transient
  | http_error
  | raises
  | response (status_code : Nat) (body : Option Json) (retry_after_overflows : Bool)

def RETRYABLE_STATUS_CODES : List Nat := [429, 500, 502, 503, 504]

def Answer.retryable : Answer → Bool
  | .timeout | .transient => true
  | .http_error | .raises => false
  | .response status_code _ _ => RETRYABLE_STATUS_CODES.contains status_code

/-- `_retry_after_or` raises `OverflowError`, or the sleep on its seconds `ValueError`. -/
def Answer.overflows : Answer → Bool
  | .response _ _ retry_after_overflows => retry_after_overflows
  | _ => false

/-- What the lookup makes of its last answer; `none` for an exception it does not catch. -/
def Answer.outcome : Answer → Option Upstream
  | .timeout => some .timeout
  | .transient | .http_error => some .http_error
  | .raises => none
  | .response status_code body _ => some (.response status_code body)

structure Attempt where
  time : ℚ
  answer : Answer

/-- What one lookup meets: the clock when it asks for a token, its attempts, and whether building the request or reading
    the final response raises an exception that is not caught. -/
structure Lookup where
  reading : ℚ
  unbuildable : Bool := false
  attempts : Nat → Attempt
  unreadable : Bool := false

inductive Event where
  | acquired (time : ℚ)
  | refused (time : ℚ)
  | sent (time : ℚ)
deriving DecidableEq

def Event.time : Event → ℚ
  | .acquired time | .refused time | .sent time => time

/-- The attempts of `_get` when so many are left. -/
def get_from (max_attempts : Nat) (attempts : Nat → Attempt) : Nat → List Event × Option Upstream
  | 0 => ([], none)
  | left + 1 =>
    let attempt := attempts (max_attempts - (left + 1))
    let rest :=
      if attempt.answer.retryable && left != 0 then
        if attempt.answer.overflows then ([], none) else get_from max_attempts attempts left
      else ([], attempt.answer.outcome)
    (.sent attempt.time :: rest.1, rest.2)

def get (retry : RetryConfig) (attempts : Nat → Attempt) : List Event × Option Upstream :=
  get_from retry.max_attempts attempts retry.max_attempts

/-- The request of a lookup and what comes of it. -/
def request (retry : RetryConfig) (lookup : Lookup) : List Event × Option Upstream :=
  if lookup.unbuildable then ([], none)
  else
    let (sent, outcome) := get retry lookup.attempts
    (sent, if lookup.unreadable then none else outcome)

/-- `_lookup_one` up to the record: the limiter it leaves, what it did, and what it met. -/
def lookup_one (retry : RetryConfig) (rate_limiter : Option TokenBucket) (lookup : Lookup) :
    Option TokenBucket × List Event × Option Upstream :=
  match rate_limiter with
  | none => (none, request retry lookup)
  | some bucket =>
    match bucket.try_acquire lookup.reading with
    | (false, bucket) => (some bucket, [.refused lookup.reading], some .exhausted)
    | (true, bucket) =>
      let (sent, outcome) := request retry lookup
      (some bucket, .acquired lookup.reading :: sent, outcome)

/-! ### Enrichments -/

/-- One call of `enrich`: the indicators, the cache and the clock it finds, and what its lookups meet, in their order. -/
structure Call where
  iocs : List IOC
  cached : IOC → Option LookupRecord := fun _ => none
  now : IOC → String := fun _ => ""
  lookups : Nat → Lookup

/-- The indicators a call looks up, with what each meets. -/
def Call.pending (self : HTTPProvider) (call : Call) : List (IOC × Lookup) :=
  if !self.enabled then []
  else
    let handled := call.iocs.filter (fun ioc => self.handled_types.contains ioc.type)
    (handled.filter (fun ioc => (call.cached ioc).isNone)).mapIdx (fun index ioc => (ioc, call.lookups index))

theorem mem_pending {self : HTTPProvider} {call : Call} {asked : IOC × Lookup} (pending : asked ∈ call.pending self) :
    ∃ index, asked.2 = call.lookups index := by
  unfold Call.pending at pending
  split at pending
  · cases pending
  · obtain ⟨index, inside, rfl⟩ := List.mem_mapIdx.mp pending
    exact ⟨index, rfl⟩

/-- What a pass over lookups leaves and did, with its records; an exception that is not caught ends it. -/
structure Pass where
  rate_limiter : Option TokenBucket
  trace : List Event := []
  records : List (String × LookupRecord) := []

def look_up (self : HTTPProvider) (retry : RetryConfig) : Option TokenBucket → List (IOC × Lookup) → Pass
  | rate_limiter, [] => { rate_limiter }
  | rate_limiter, (ioc, lookup) :: rest =>
    match lookup_one retry rate_limiter lookup with
    | (rate_limiter, trace, none) => { rate_limiter, trace }
    | (rate_limiter, trace, some upstream) =>
      let pass := look_up self retry rate_limiter rest
      { pass with
        trace := trace ++ pass.trace
        records := (ioc_key ioc, Enrichment.lookup_one { self with upstream := fun _ => upstream } ioc) :: pass.records }

/-- One call of `enrich`, up to the records of what was not cached. -/
def enrich (self : HTTPProvider) (retry : RetryConfig) (rate_limiter : Option TokenBucket) (call : Call) : Pass :=
  look_up { self with cached := call.cached, now := call.now } retry rate_limiter (call.pending self)

/-- Calls one after another, on one bucket. -/
def run (self : HTTPProvider) (retry : RetryConfig) : Option TokenBucket → List Call → Option TokenBucket × List Event
  | rate_limiter, [] => (rate_limiter, [])
  | rate_limiter, call :: rest =>
    let pass := enrich self retry rate_limiter call
    let later := run self retry pass.rate_limiter rest
    (later.1, pass.trace ++ later.2)

/-! ### The tokens of a run -/

def grants (trace : List Event) : List ℚ :=
  trace.filterMap (fun event => match event with | .acquired time => some time | _ => none)

def requests (trace : List Event) : List ℚ :=
  trace.filterMap (fun event => match event with | .sent time => some time | _ => none)

theorem grants_append (earlier later : List Event) : grants (earlier ++ later) = grants earlier ++ grants later :=
  List.filterMap_append

theorem requests_append (earlier later : List Event) : requests (earlier ++ later) = requests earlier ++ requests later :=
  List.filterMap_append

/-- The clock never goes back, from the instant the bucket was last read at. -/
def Clocked (opened : ℚ) (trace : List Event) : Prop :=
  (opened :: trace.map Event.time).Pairwise (· ≤ ·)

instance (opened : ℚ) (trace : List Event) : Decidable (Clocked opened trace) :=
  inferInstanceAs (Decidable (List.Pairwise _ _))

theorem Clocked.left {opened : ℚ} {earlier later : List Event} (clocked : Clocked opened (earlier ++ later)) :
    Clocked opened earlier := by
  unfold Clocked at clocked ⊢
  rw [List.map_append, ← List.cons_append] at clocked
  exact (List.pairwise_append.mp clocked).1

/-- After a part of the trace the clock runs on from any instant of that part. -/
theorem Clocked.right {opened reached : ℚ} {earlier later : List Event} (clocked : Clocked opened (earlier ++ later))
    (inside : reached ∈ opened :: earlier.map Event.time) : Clocked reached later := by
  unfold Clocked at clocked ⊢
  rw [List.map_append, ← List.cons_append] at clocked
  obtain ⟨_, ordered, across⟩ := List.pairwise_append.mp clocked
  exact List.pairwise_cons.mpr ⟨fun time later => across reached inside time later, ordered⟩

/-- A part of a run on a bucket: it leaves the limits as they are, and what is paid for after it, the run pays for with
    the grants of the part before. -/
structure Pays (before after : TokenBucket) (trace : List Event) : Prop where
  capacity : after.capacity = before.capacity
  refill : after.refill = before.refill
  reached : after.updated ∈ before.updated :: trace.map Event.time
  paid : ∀ later, Paid (before.capacity : ℚ) before.refill after.tokens after.updated later →
    Paid (before.capacity : ℚ) before.refill before.tokens before.updated (grants trace ++ later)

theorem Pays.refl (bucket : TokenBucket) : Pays bucket bucket [] where
  capacity := rfl
  refill := rfl
  reached := List.mem_cons_self
  paid _ paid := paid

theorem Pays.trans {before between after : TokenBucket} {earlier later : List Event} (first : Pays before between earlier)
    (second : Pays between after later) : Pays before after (earlier ++ later) where
  capacity := second.capacity.trans first.capacity
  refill := second.refill.trans first.refill
  reached := by
    rw [List.map_append, ← List.cons_append]
    rcases List.mem_cons.mp second.reached with same | inside
    · rw [same]
      exact List.mem_append_left _ first.reached
    · exact List.mem_append_right _ inside
  paid rest paid := by
    rw [← first.capacity, ← first.refill] at paid
    have granted := second.paid rest paid
    rw [first.capacity, first.refill] at granted
    rw [grants_append, List.append_assoc]
    exact first.paid _ granted

/-- What follows the token of a lookup grants nothing. -/
theorem Pays.append_sent {before after : TokenBucket} {trace sent : List Event} (pays : Pays before after trace)
    (none : grants sent = []) : Pays before after (trace ++ sent) where
  capacity := pays.capacity
  refill := pays.refill
  reached := by
    rw [List.map_append, ← List.cons_append]
    exact List.mem_append_left _ pays.reached
  paid later paid := by
    rw [grants_append, none, List.append_nil]
    exact pays.paid later paid

/-- A refused token: the level is no more than has accrued. -/
theorem refused_pays {before after : TokenBucket} {now : ℚ} (asked : before.try_acquire now = (false, after))
    (later : before.updated ≤ now) : Pays before after [.refused now] := by
  unfold TokenBucket.try_acquire at asked
  dsimp only at asked
  split at asked
  · cases asked
    refine ⟨rfl, rfl, List.mem_cons_of_mem _ List.mem_cons_self, fun rest paid => ?_⟩
    have accrued : min (before.capacity : ℚ) (before.tokens + (now - before.updated) * before.refill) ≤
        before.tokens + before.refill * (now - before.updated) := by
      rw [mul_comm before.refill]
      exact min_le_right _ _
    exact paid.of_accrued later accrued
  · cases asked

/-- A token taken: it was there, within the capacity. -/
theorem acquired_pays {before after : TokenBucket} {now : ℚ} (asked : before.try_acquire now = (true, after))
    (later : before.updated ≤ now) : Pays before after [.acquired now] := by
  unfold TokenBucket.try_acquire at asked
  dsimp only at asked
  split at asked
  · cases asked
  · rename_i enough
    cases asked
    have capped := min_le_left (before.capacity : ℚ) (before.tokens + (now - before.updated) * before.refill)
    have accrued := min_le_right (before.capacity : ℚ) (before.tokens + (now - before.updated) * before.refill)
    refine ⟨rfl, rfl, List.mem_cons_of_mem _ List.mem_cons_self, fun rest paid => ?_⟩
    refine .grant later ?_ ?_ ?_ paid
    · linarith
    · linarith
    · rw [mul_comm before.refill]
      linarith

/-! ### The requests of a lookup -/

private theorem get_from_sends (max_attempts : Nat) (attempts : Nat → Attempt) (left : Nat) :
    grants (get_from max_attempts attempts left).1 = [] := by
  induction left with
  | zero => rfl
  | succ left ih =>
    unfold get_from
    dsimp only
    split
    · split
      · rfl
      · exact ih
    · rfl

private theorem request_sends (retry : RetryConfig) (lookup : Lookup) : grants (request retry lookup).1 = [] := by
  unfold request
  split
  · rfl
  · exact get_from_sends retry.max_attempts lookup.attempts retry.max_attempts

theorem lookup_one_pays {retry : RetryConfig} {before : TokenBucket} {lookup : Lookup}
    (clocked : Clocked before.updated (lookup_one retry (some before) lookup).2.1) :
    ∃ after, (lookup_one retry (some before) lookup).1 = some after ∧
      Pays before after (lookup_one retry (some before) lookup).2.1 := by
  unfold lookup_one at clocked ⊢
  dsimp only at clocked ⊢
  cases asked : before.try_acquire lookup.reading with
  | mk acquired after =>
    rw [asked] at clocked
    cases acquired with
    | false =>
      have later : before.updated ≤ lookup.reading := (List.pairwise_cons.mp clocked).1 _ List.mem_cons_self
      exact ⟨after, rfl, refused_pays asked later⟩
    | true =>
      have later : before.updated ≤ lookup.reading := (List.pairwise_cons.mp clocked).1 _ List.mem_cons_self
      exact ⟨after, rfl, (acquired_pays asked later).append_sent (request_sends retry lookup)⟩

/-- Every request a lookup sends in a window is its first attempt, and it takes its token in the window too. -/
def PaidWithin (first last : ℚ) (retry : RetryConfig) (lookup : Lookup) : Prop :=
  ∀ k < retry.max_attempts, (∀ earlier < k, (lookup.attempts earlier).answer.retryable = true) →
    first ≤ (lookup.attempts k).time → (lookup.attempts k).time ≤ last → k = 0 ∧ first ≤ lookup.reading

/-- Of the attempts from one on, none is in a window if none that is reached is. -/
private theorem get_from_outside {max_attempts : Nat} {attempts : Nat → Attempt} {first last : ℚ} {left : Nat}
    (some_left : left ≤ max_attempts)
    (reached : ∀ earlier < max_attempts - left, (attempts earlier).answer.retryable = true)
    (outside : ∀ k, max_attempts - left ≤ k → k < max_attempts →
      (∀ earlier < k, (attempts earlier).answer.retryable = true) →
      ¬ (first ≤ (attempts k).time ∧ (attempts k).time ≤ last)) :
    within first last (requests (get_from max_attempts attempts left).1) = [] := by
  induction left with
  | zero => rfl
  | succ left ih =>
    have now := outside (max_attempts - (left + 1)) (Nat.le_refl _) (by omega) reached
    have sent : ∀ later, within first last (requests (.sent (attempts (max_attempts - (left + 1))).time :: later)) =
        within first last (requests later) := fun later => List.filter_cons_of_neg (by simpa using now)
    rw [get_from]
    dsimp only
    rw [sent]
    split
    · rename_i again
      split
      · rfl
      · refine ih (by omega) ?_ (fun k from_next => outside k (by omega))
        intro earlier before
        rcases Nat.lt_or_ge earlier (max_attempts - (left + 1)) with old | new
        · exact reached earlier old
        · have this_one : earlier = max_attempts - (left + 1) := by omega
          rw [this_one]
          exact (Bool.and_eq_true_iff.mp again).1
    · rfl

/-- Of the requests of a lookup that pays for those in a window, only the first can be in it. -/
private theorem get_paid {retry : RetryConfig} {lookup : Lookup} {first last : ℚ}
    (paid : PaidWithin first last retry lookup) :
    ∃ retries, (get retry lookup.attempts).1 = .sent (lookup.attempts 0).time :: retries ∧
      within first last (requests retries) = [] := by
  obtain ⟨left, exactly⟩ : ∃ left, retry.max_attempts = left + 1 := ⟨retry.max_attempts - 1, by have := retry.at_least; omega⟩
  unfold get
  rw [exactly, get_from]
  dsimp only
  rw [Nat.sub_self]
  refine ⟨_, rfl, ?_⟩
  split
  · rename_i again
    split
    · rfl
    · refine get_from_outside (Nat.le_succ left) ?_ ?_
      · intro earlier before
        have zeroth : earlier = 0 := by omega
        rw [zeroth]
        exact (Bool.and_eq_true_iff.mp again).1
      · intro k later below reached inside
        have start := (paid k (exactly ▸ below) reached inside.1 inside.2).1
        omega
  · rfl

/-- A lookup that pays for its requests in a window sends no more in it than it takes tokens there. -/
private theorem lookup_one_covered {retry : RetryConfig} {before : TokenBucket} {lookup : Lookup} {first last : ℚ}
    (clocked : Clocked before.updated (lookup_one retry (some before) lookup).2.1)
    (paid : PaidWithin first last retry lookup) :
    (within first last (requests (lookup_one retry (some before) lookup).2.1)).length ≤
      (within first last (grants (lookup_one retry (some before) lookup).2.1)).length := by
  unfold lookup_one at clocked ⊢
  dsimp only at clocked ⊢
  cases asked : before.try_acquire lookup.reading with
  | mk acquired after =>
    rw [asked] at clocked
    cases acquired with
    | false => exact Nat.le_refl _
    | true =>
      dsimp only at clocked ⊢
      have none : grants (request retry lookup).1 = [] := request_sends retry lookup
      have taken : grants (.acquired lookup.reading :: (request retry lookup).1) = [lookup.reading] := by
        rw [← List.singleton_append, grants_append, none]
        rfl
      rw [taken]
      unfold request at clocked ⊢
      split
      · exact Nat.zero_le _
      · rename_i buildable
        rw [if_neg buildable] at clocked
        dsimp only at clocked ⊢
        obtain ⟨retries, sent, outside⟩ := get_paid paid
        rw [sent] at clocked ⊢
        have after_token : lookup.reading ≤ (lookup.attempts 0).time :=
          (List.pairwise_cons.mp (List.pairwise_cons.mp clocked).2).1 _ List.mem_cons_self
        have one : requests (.acquired lookup.reading :: .sent (lookup.attempts 0).time :: retries) =
            [(lookup.attempts 0).time] ++ requests retries := rfl
        rw [one, Allowance.within_append, outside, List.append_nil]
        unfold within
        rw [List.filter_singleton, List.filter_singleton]
        by_cases inside : first ≤ (lookup.attempts 0).time ∧ (lookup.attempts 0).time ≤ last
        · have token_inside : first ≤ lookup.reading ∧ lookup.reading ≤ last :=
            ⟨(paid 0 retry.at_least (fun _ below => absurd below (Nat.not_lt_zero _)) inside.1 inside.2).2,
              after_token.trans inside.2⟩
          simp [inside, token_inside]
        · simp [inside]

/-! ### Runs -/

/-- A pass over lookups that pay: it pays for its grants, and sends no more in a window than it is granted. -/
private theorem look_up_covered {self : HTTPProvider} {retry : RetryConfig} {first last : ℚ}
    (pending : List (IOC × Lookup)) {before : TokenBucket}
    (clocked : Clocked before.updated (look_up self retry (some before) pending).trace)
    (paying : ∀ asked ∈ pending, PaidWithin first last retry asked.2) :
    ∃ after, (look_up self retry (some before) pending).rate_limiter = some after ∧
      Pays before after (look_up self retry (some before) pending).trace ∧
      (within first last (requests (look_up self retry (some before) pending).trace)).length ≤
        (within first last (grants (look_up self retry (some before) pending).trace)).length := by
  induction pending generalizing before with
  | nil => exact ⟨before, rfl, .refl before, Nat.le_refl _⟩
  | cons asked rest ih =>
    obtain ⟨ioc, lookup⟩ := asked
    unfold look_up at clocked ⊢
    dsimp only at clocked ⊢
    have own := @lookup_one_covered retry before lookup first last
    have pays := @lookup_one_pays retry before lookup
    cases met : lookup_one retry (some before) lookup with
    | mk rate_limiter did =>
      obtain ⟨trace, outcome⟩ := did
      rw [met] at clocked own pays
      cases outcome with
      | none =>
        obtain ⟨after, left, paid⟩ := pays clocked
        exact ⟨after, left, paid, own clocked (paying _ List.mem_cons_self)⟩
      | some upstream =>
        dsimp only at clocked own pays ⊢
        obtain ⟨between, left, paid⟩ := pays clocked.left
        subst left
        obtain ⟨after, final, later, covered⟩ := ih (clocked.right paid.reached)
          (fun asked inside => paying asked (List.mem_cons_of_mem _ inside))
        refine ⟨after, final, paid.trans later, ?_⟩
        have first_covered := own clocked.left (paying _ List.mem_cons_self)
        rw [requests_append, grants_append, Allowance.within_append, Allowance.within_append, List.length_append,
          List.length_append]
        omega

/-- A run of lookups that pay: it pays for its grants, and sends no more in a window than it is granted. -/
private theorem run_covered {self : HTTPProvider} {retry : RetryConfig} {first last : ℚ} (calls : List Call)
    {before : TokenBucket} (clocked : Clocked before.updated (run self retry (some before) calls).2)
    (paying : ∀ call ∈ calls, ∀ asked ∈ call.pending self, PaidWithin first last retry asked.2) :
    ∃ after, Pays before after (run self retry (some before) calls).2 ∧
      (within first last (requests (run self retry (some before) calls).2)).length ≤
        (within first last (grants (run self retry (some before) calls).2)).length := by
  induction calls generalizing before with
  | nil => exact ⟨before, .refl before, Nat.le_refl _⟩
  | cons call rest ih =>
    unfold run at clocked ⊢
    dsimp only at clocked ⊢
    obtain ⟨between, left, paid, covered⟩ := look_up_covered (call.pending self) clocked.left
      (paying call List.mem_cons_self)
    change (enrich self retry (some before) call).rate_limiter = some between at left
    rw [left] at clocked ⊢
    obtain ⟨after, later, later_covered⟩ := ih (clocked.right paid.reached)
      (fun call inside => paying call (List.mem_cons_of_mem _ inside))
    refine ⟨after, paid.trans later, ?_⟩
    rw [requests_append, grants_append, Allowance.within_append, Allowance.within_append, List.length_append,
      List.length_append]
    exact Nat.add_le_add covered later_covered

/-- A run keeps to the quota in every window in which no request is a retry, or of a lookup that took its token before the
    window began. -/
theorem quota_kept {self : HTTPProvider} {retry : RetryConfig} {capacity : Int} {refill_per_second opened : ℚ}
    {bucket : TokenBucket} {calls : List Call} {first last : ℚ}
    (built : TokenBucket.new capacity refill_per_second opened = .ok bucket)
    (clocked : Clocked opened (run self retry (some bucket) calls).2)
    (ordered : first ≤ last) (paying : ∀ call ∈ calls, ∀ asked ∈ call.pending self, PaidWithin first last retry asked.2) :
    ((within first last (requests (run self retry (some bucket) calls).2)).length : ℚ) ≤
      capacity + refill_per_second * (last - first) := by
  obtain ⟨rfl, rfl, rfl⟩ := new_spec built
  obtain ⟨after, pays, covered⟩ := run_covered calls clocked paying
  have paid := pays.paid [] .none
  rw [List.append_nil] at paid
  have has_capacity : (0 : ℚ) ≤ bucket.capacity := by exact_mod_cast bucket.has_capacity.le
  have allowed := paid.allowed has_capacity bucket.refills.le first last ordered
  calc ((within first last (requests (run self retry (some bucket) calls).2)).length : ℚ)
      ≤ (within first last (grants (run self retry (some bucket) calls).2)).length := by exact_mod_cast covered
    _ ≤ bucket.capacity + bucket.refill * (last - first) := allowed

/-! ### The public quota -/

/-- Four requests a minute, in bursts of four. -/
def VT_PUBLIC_CAPACITY : Int := 4

def VT_PUBLIC_REFILL_PER_SECOND : ℚ := 4 / 60

/-- The default policy: one attempt and two retries. -/
def default_retry : RetryConfig where
  at_least := Nat.le_add_left 1 2
  at_most := Nat.le_add_left 3 7

def virustotal : HTTPProvider where
  name := "virustotal"
  handled_types := [.MD5, .SHA1, .SHA256, .IPV4, .DOMAIN, .URL]
  sanitize := fun _ _ => .no_record
  upstream := fun _ => .exhausted
  now := fun _ => ""

private theorem refill_positive : 0 < VT_PUBLIC_REFILL_PER_SECOND := by
  unfold VT_PUBLIC_REFILL_PER_SECOND
  norm_num

private theorem four_positive : 0 < VT_PUBLIC_CAPACITY := Int.lt_add_one_of_le (Int.natCast_nonneg 3)

/-- The bucket of the public quota, full when the clock reads zero. -/
def public_bucket : TokenBucket where
  capacity := VT_PUBLIC_CAPACITY
  refill := VT_PUBLIC_REFILL_PER_SECOND
  tokens := 4
  updated := 0
  has_capacity := four_positive
  refills := refill_positive

theorem public_bucket_built :
    TokenBucket.new VT_PUBLIC_CAPACITY VT_PUBLIC_REFILL_PER_SECOND 0 = .ok public_bucket := by
  unfold TokenBucket.new
  rw [dif_neg (not_le.mpr four_positive), dif_neg (not_le.mpr refill_positive)]
  rfl

/-- Four addresses looked up three seconds apart; each attempt is answered the same, a second after the one before. -/
private def burst (status_code : Nat) : Call where
  iocs := ["203.0.113.1", "203.0.113.2", "203.0.113.3", "203.0.113.4"].map (fun value => { type := .IPV4, value })
  lookups index :=
    { reading := 3 * index
      attempts := fun attempt => { time := 3 * index + attempt, answer := .response status_code none false } }

theorem quota_kept_not_found :
    ((within 0 11 (requests (run virustotal default_retry (some public_bucket) [burst 404]).2)).length : ℚ) ≤
      VT_PUBLIC_CAPACITY + VT_PUBLIC_REFILL_PER_SECOND * (11 - 0) := by
  refine quota_kept public_bucket_built (by decide +kernel) (by norm_num) ?_
  intro call inside asked pending k _ retried _ _
  rw [List.mem_singleton.mp inside] at pending
  obtain ⟨index, same⟩ := mem_pending pending
  rw [same] at retried ⊢
  refine ⟨?_, by simp [burst]⟩
  -- a second attempt would follow an answer that is not retried
  by_contra later
  cases retried 0 (Nat.pos_of_ne_zero later)

/-- Four lookups answered with 503 take four tokens and send twelve requests. -/
theorem quota_exceeded :
    ¬ ∀ (self : HTTPProvider) (retry : RetryConfig) (capacity : Int) (refill_per_second opened : ℚ) (bucket : TokenBucket)
      (calls : List Call), TokenBucket.new capacity refill_per_second opened = .ok bucket →
      Clocked opened (run self retry (some bucket) calls).2 →
      Allowed (capacity : ℚ) refill_per_second (requests (run self retry (some bucket) calls).2) := by
  intro kept
  have allowed := kept virustotal default_retry VT_PUBLIC_CAPACITY VT_PUBLIC_REFILL_PER_SECOND 0 public_bucket [burst 503]
    public_bucket_built (by decide +kernel) 0 11 (by norm_num)
  have twelve : (within 0 11 (requests (run virustotal default_retry (some public_bucket) [burst 503]).2)).length = 12 := by
    decide +kernel
  rw [twelve] at allowed
  unfold VT_PUBLIC_CAPACITY VT_PUBLIC_REFILL_PER_SECOND at allowed
  norm_num at allowed

end SocTriage.RateLimit
