import SocTriage.LookupIsolation
import SocTriage.N8NPayload

/-!
The webhook client of the notifications: its retries, the waits between them and the result it
reports. A call never posts again after an answer that settles it; it ends with a result exactly
when the payload can be written and no post raises what no clause names or asks for a wait
nobody can keep.
-/
namespace SocTriage.N8NClient
open Notifications (NotificationResult)
open N8NPayload (N8NAlertPayload)
open ThreatIntel (Exn Conversions int_text float_overflows sleep)

/-! ### The client -/

def RETRYABLE_STATUS : List Nat := [429, 500, 502, 503, 504]

def RETRYABLE_EXCEPTIONS : List Exn := [.TimeoutException, .ConnectError, .ReadError, .WriteError, .RemoteProtocolError]

/-- What the client rests on: whether the dictionaries of a payload are followed by `model_dump`, the text `json.dumps`
    makes of the dump with sorted keys unless it raises, the first digits of its SHA-256, and the host of a URL. -/
structure Library where
  conversions : Conversions
  dumpable : N8NAlertPayload → Bool
  dumps : JsonObject → Option String
  digest : String → String
  hostname : String → Option String

/-- A client as the settings make it; `supplied` says that it was given an `httpx.Client` of its own. -/
structure N8NWebhookClient where
  webhook_url : String
  enabled : Bool
  max_retries : Nat := 3
  retry_backoff_seconds : ℚ := 1 / 2
  supplied : Bool := false
  retries : 1 ≤ max_retries ∧ max_retries ≤ 10 := by decide
  backoff : 0 ≤ retry_backoff_seconds ∧ retry_backoff_seconds ≤ 10 := by norm_num

/-- What one post meets: an exception and the name of its type, or a status with the `Retry-After` header. -/
inductive Outcome where
  | raised (exception : Exn) (type_name : String)
  | response (status_code : Nat) (retry_after : Option String)

/-- What one call meets: the outcomes of its posts, counted from 1, the draws that spread its waits, the exceptions of
    opening and closing a client for it, and the milliseconds it takes. -/
structure Webhook where
  outcomes : Nat → Outcome
  draws : Nat → ℚ
  drawn : ∀ n, 1 / 2 ≤ draws n ∧ draws n ≤ 1
  opening : Option Exn := none
  closing : Option Exn := none
  elapsed_ms : Nat := 0

section
variable (lib : Library)

/-- The payload, if `model_dump` can follow it. -/
def model_dump (payload : N8NAlertPayload) : Except Exn JsonObject :=
  if lib.dumpable payload then .ok payload.model_dump else .error .ValueError

def payload_hash (payload : N8NAlertPayload) : Except Exn String := do
  let data ← model_dump lib payload
  match lib.dumps data with
  | none => .error .RecursionError
  | some canonical => return lib.digest canonical

/-- A result of a client with the values that are the same for all of them. -/
def result (self : N8NWebhookClient) (payload : N8NAlertPayload) (hash : String) (webhook : Webhook) (delivered : Bool)
    (status_code : Option Nat) (error_type : Option String) (attempts : Nat) : NotificationResult where
  alert_id := payload.alert_id
  attempted := true
  delivered := delivered
  skipped := false
  status_code := status_code.map Int.ofNat
  error_type := error_type
  attempts := attempts
  duration_ms := webhook.elapsed_ms
  webhook_host := lib.hostname self.webhook_url
  payload_hash := hash

/-- The seconds `Retry-After` sets the delay to. -/
def honoured (retry_after : Option String) (delay : ℚ) : Except Exn ℚ :=
  match (retry_after.filter (· ≠ "")).bind (int_text lib.conversions) with
  | none => .ok delay
  | some n => if float_overflows n then .error .OverflowError else .ok (min (n : ℚ) 8)

section
variable (self : N8NWebhookClient) (payload : N8NAlertPayload) (hash : String) (webhook : Webhook)

/-- The posts from one on, with the number that may follow it: how many were made in all, and how they ended. -/
def posts_from : Nat → Nat → ℚ → Option Nat → Nat × Except Exn NotificationResult
  | left, attempt, delay, last_status =>
    match webhook.outcomes attempt with
    | .response status_code retry_after =>
      if 200 ≤ status_code ∧ status_code < 300 then
        (attempt, .ok (result lib self payload hash webhook true (some status_code) none attempt))
      else
        match RETRYABLE_STATUS.contains status_code, left with
        | true, left + 1 =>
          match honoured lib retry_after delay with
          | .error exception => (attempt, .error exception)
          | .ok delay =>
            match sleep (delay * webhook.draws attempt) with
            | .error exception => (attempt, .error exception)
            | .ok () => posts_from left (attempt + 1) (min (delay * 2) 8) (some status_code)
        | _, _ => (attempt, .ok (result lib self payload hash webhook false (some status_code)
            (some ("http_" ++ toString status_code)) attempt))
    | .raised exception type_name =>
      match RETRYABLE_EXCEPTIONS.contains exception, left with
      | true, left + 1 =>
        match sleep (delay * webhook.draws attempt) with
        | .error exception => (attempt, .error exception)
        | .ok () => posts_from left (attempt + 1) (min (delay * 2) 8) last_status
      | retryable, _ =>
        if retryable || ThreatIntel.HTTP_ERRORS.contains exception then
          (attempt, .ok (result lib self payload hash webhook false last_status (some type_name) attempt))
        else (attempt, .error exception)
end

/-- The posts of a client, which is opened and closed around them unless it was supplied. -/
def posts (self : N8NWebhookClient) (payload : N8NAlertPayload) (hash : String) (webhook : Webhook) :
    Nat × Except Exn NotificationResult :=
  let made := posts_from lib self payload hash webhook (self.max_retries - 1) 1 self.retry_backoff_seconds none
  if self.supplied then made
  else
    match webhook.opening, webhook.closing with
    | some exception, _ => (0, .error exception)
    | none, some exception => (made.1, .error exception)
    | none, none => made

/-- `N8NWebhookClient.send`, with the number of posts it makes. -/
def send (self : N8NWebhookClient) (payload : N8NAlertPayload) (webhook : Webhook) : Nat × Except Exn NotificationResult :=
  match payload_hash lib payload with
  | .error exception => (0, .error exception)
  | .ok hash =>
    if !self.enabled || self.webhook_url = "" then
      (0, .ok { result lib self payload hash webhook false none none 0 with
        attempted := false, skipped := true, duration_ms := 0 })
    else
      match model_dump lib payload with
      | .error _ => (0, .ok (result lib self payload hash webhook false none (some "PydanticSerializationError") 0))
      | .ok _ => posts lib self payload hash webhook

end

/-! ### What a call should do -/

/-- A post that was answered 2xx. -/
def Outcome.succeeded : Outcome → Bool
  | .raised _ _ => false
  | .response status_code _ => 200 ≤ status_code && status_code < 300

/-- A post that is made again, as long as there are retries. -/
def Outcome.retried : Outcome → Bool
  | .raised exception _ => RETRYABLE_EXCEPTIONS.contains exception
  | .response status_code _ => RETRYABLE_STATUS.contains status_code

/-- The call ends with a result, after no more posts than it may make, none of them after an answer that settles the
    call; it says that it delivered exactly when one of them succeeded. -/
def Reliable (lib : Library) (self : N8NWebhookClient) (payload : N8NAlertPayload) (webhook : Webhook) : Prop :=
  ∃ result, (send lib self payload webhook).2 = .ok result ∧ (send lib self payload webhook).1 ≤ self.max_retries ∧
    (∀ k, 1 ≤ k → k < (send lib self payload webhook).1 → (webhook.outcomes k).retried = true ∧
      (webhook.outcomes k).succeeded = false) ∧
    (result.delivered = true ↔
      ∃ k, 1 ≤ k ∧ k ≤ (send lib self payload webhook).1 ∧ (webhook.outcomes k).succeeded = true)

/-- An exception is one of `httpx`; a `Retry-After` that is going to be waited for is, where it is an integer, neither
    negative nor past every float. -/
def Tolerated (lib : Library) (waited : Prop) : Outcome → Prop
  | .raised exception _ => exception ∈ ThreatIntel.HTTP_ERRORS
  | .response status_code retry_after => waited → status_code ∈ RETRYABLE_STATUS →
      ∀ n, (retry_after.filter (· ≠ "")).bind (int_text lib.conversions) = some n → 0 ≤ n ∧ float_overflows n = false

/-- From a post on, all that come before another one are made again. -/
def Reached (outcomes : Nat → Outcome) (first k : Nat) : Prop := ∀ j, first ≤ j → j < k → (outcomes j).retried = true

/-- The payload can be written; and if the client is enabled, it can be opened and closed, and every post that is
    reached is tolerated. -/
def Tolerable (lib : Library) (self : N8NWebhookClient) (payload : N8NAlertPayload) (webhook : Webhook) : Prop :=
  (∃ text, lib.dumpable payload = true ∧ lib.dumps payload.model_dump = some text) ∧
    (self.enabled = true → self.webhook_url ≠ "" →
      (self.supplied = false → webhook.opening = none ∧ webhook.closing = none) ∧
      ∀ k, 1 ≤ k → k ≤ self.max_retries → Reached webhook.outcomes 1 k →
        Tolerated lib (k < self.max_retries) (webhook.outcomes k))

/-! ### One post -/

section
variable {lib : Library} {self : N8NWebhookClient} {payload : N8NAlertPayload} {hash : String} {webhook : Webhook}

private theorem retryable_fails {status_code : Nat} (retryable : RETRYABLE_STATUS.contains status_code = true) :
    ¬ (200 ≤ status_code ∧ status_code < 300) := by
  have listed := List.contains_iff_mem.mp retryable
  simp only [RETRYABLE_STATUS, List.mem_cons, List.not_mem_nil, or_false] at listed
  omega

theorem retried_not_succeeded {outcome : Outcome} (retried : outcome.retried = true) : outcome.succeeded = false := by
  cases outcome with
  | raised exception type_name => rfl
  | response status_code retry_after =>
    have fails := retryable_fails retried
    rw [Outcome.succeeded, Bool.and_eq_false_iff, decide_eq_false_iff_not, decide_eq_false_iff_not]
    omega

private theorem retryable_listed {exception : Exn} (retryable : RETRYABLE_EXCEPTIONS.contains exception = true) :
    exception ∈ ThreatIntel.HTTP_ERRORS := List.mem_cons_of_mem _ (List.contains_iff_mem.mp retryable)

private theorem slept {delay : ℚ} (later : 0 ≤ delay) (n : Nat) : sleep (delay * webhook.draws n) = .ok () := by
  have drawn := (webhook.drawn n).1
  rw [sleep, if_neg (not_lt.mpr (mul_nonneg later (le_trans (by norm_num) drawn)))]

/-- A wait that is asked for can be kept exactly when it is an integer that is neither negative nor too large. -/
private theorem honoured_iff {retry_after : Option String} {delay : ℚ} (later : 0 ≤ delay) (n : Nat) :
    (∃ next, honoured lib retry_after delay = .ok next ∧ 0 ≤ next ∧ sleep (next * webhook.draws n) = .ok ()) ∧
        (∀ n, (retry_after.filter (· ≠ "")).bind (int_text lib.conversions) = some n → 0 ≤ n ∧ float_overflows n = false) ∨
      (∃ exception, (honoured lib retry_after delay >>= fun next => sleep (next * webhook.draws n)) = .error exception) ∧
        ¬ (∀ n, (retry_after.filter (· ≠ "")).bind (int_text lib.conversions) = some n → 0 ≤ n ∧
          float_overflows n = false) := by
  rw [honoured]
  cases asked : (retry_after.filter (· ≠ "")).bind (int_text lib.conversions) with
  | none => exact .inl ⟨⟨delay, rfl, later, slept later n⟩, by rintro _ ⟨⟩⟩
  | some seconds =>
    dsimp only
    cases overflow : float_overflows seconds with
    | true => exact .inr ⟨⟨.OverflowError, rfl⟩, fun fine => by cases (fine seconds rfl).2.symm.trans overflow⟩
    | false =>
      by_cases positive : 0 ≤ seconds
      · have capped : (0 : ℚ) ≤ min (seconds : ℚ) 8 := le_min (by exact_mod_cast positive) (by norm_num)
        refine .inl ⟨⟨_, rfl, capped, slept capped n⟩, ?_⟩
        rintro _ ⟨⟩
        exact ⟨positive, overflow⟩
      · refine .inr ⟨⟨.ValueError, ?_⟩, fun fine => positive (fine seconds rfl).1⟩
        have below : min (seconds : ℚ) 8 * webhook.draws n < 0 := by
          have negative : (seconds : ℚ) < 0 := by exact_mod_cast not_le.mp positive
          exact mul_neg_of_neg_of_pos (lt_of_le_of_lt (min_le_left _ _) negative)
            (lt_of_lt_of_le (by norm_num) (webhook.drawn n).1)
        show sleep _ = _
        rw [sleep, if_pos below]

/-! ### The posts of a call -/

/-- Every post that is reached, from one on and with the number that may follow it, is tolerated. -/
private def AllTolerated (lib : Library) (outcomes : Nat → Outcome) (left attempt : Nat) : Prop :=
  ∀ k, attempt ≤ k → k ≤ attempt + left → Reached outcomes attempt k → Tolerated lib (k < attempt + left) (outcomes k)

/-- A post that is the last leads to the result of its own outcome, unless it raises what no clause names. -/
private theorem posts_from_last {left attempt : Nat} {delay : ℚ} {last_status : Option Nat} (waited : Prop)
    (final : left = 0 ∧ ¬ waited ∨ (webhook.outcomes attempt).retried = false) :
    (∃ r, posts_from lib self payload hash webhook left attempt delay last_status = (attempt, .ok r) ∧
        r.delivered = (webhook.outcomes attempt).succeeded) ∧ Tolerated lib waited (webhook.outcomes attempt) ∨
      (∃ exception, posts_from lib self payload hash webhook left attempt delay last_status = (attempt, .error exception)) ∧
        ¬ Tolerated lib waited (webhook.outcomes attempt) := by
  unfold posts_from
  cases met : webhook.outcomes attempt with
  | response status_code retry_after =>
    left
    have tolerated : Tolerated lib waited (.response status_code retry_after) := by
      intro waits listed
      rcases final with ⟨-, last⟩ | other
      · exact absurd waits last
      · rw [met, Outcome.retried, List.contains_iff_mem.mpr listed] at other; cases other
    refine ⟨?_, tolerated⟩
    by_cases success : 200 ≤ status_code ∧ status_code < 300
    · refine ⟨_, by dsimp only; rw [if_pos success], ?_⟩
      simp [result, Outcome.succeeded, success]
    · have failed : Outcome.succeeded (.response status_code retry_after) = false := by
        rw [Outcome.succeeded, Bool.and_eq_false_iff, decide_eq_false_iff_not, decide_eq_false_iff_not]; omega
      rw [failed]
      dsimp only
      rw [if_neg success]
      rcases final with ⟨rfl, -⟩ | other
      · cases RETRYABLE_STATUS.contains status_code <;> exact ⟨_, rfl, rfl⟩
      · rw [met, Outcome.retried] at other
        rw [other]
        exact ⟨_, rfl, rfl⟩
  | raised exception type_name =>
    dsimp only
    cases retryable : RETRYABLE_EXCEPTIONS.contains exception with
    | true =>
      rcases final with ⟨rfl, -⟩ | other
      · exact .inl ⟨⟨result lib self payload hash webhook false last_status (some type_name) attempt, rfl, rfl⟩,
          retryable_listed retryable⟩
      · rw [met, Outcome.retried, retryable] at other; cases other
    | false =>
      by_cases listed : exception ∈ ThreatIntel.HTTP_ERRORS
      · refine .inl ⟨⟨result lib self payload hash webhook false last_status (some type_name) attempt, ?_, rfl⟩, listed⟩
        cases left <;> simp [listed]
      · refine .inr ⟨⟨exception, ?_⟩, listed⟩
        cases left <;> simp [listed]

/-- A post that is made again leads to the posts after it, unless its wait cannot be kept. -/
private theorem posts_from_retried {left attempt : Nat} {delay : ℚ} {last_status : Option Nat} (waited : Prop)
    (waits : waited)
    (later : 0 ≤ delay) (retried : (webhook.outcomes attempt).retried = true) :
    (∃ next status, posts_from lib self payload hash webhook (left + 1) attempt delay last_status =
        posts_from lib self payload hash webhook left (attempt + 1) next status ∧ 0 ≤ next) ∧
        Tolerated lib waited (webhook.outcomes attempt) ∨
      (∃ exception, posts_from lib self payload hash webhook (left + 1) attempt delay last_status =
        (attempt, .error exception)) ∧ ¬ Tolerated lib waited (webhook.outcomes attempt) := by
  have doubled : ∀ {delay : ℚ}, 0 ≤ delay → 0 ≤ min (delay * 2) 8 := fun later =>
    le_min (mul_nonneg later (by norm_num)) (by norm_num)
  rw [posts_from]
  cases met : webhook.outcomes attempt with
  | response status_code retry_after =>
    rw [met, Outcome.retried] at retried
    dsimp only
    rw [if_neg (retryable_fails retried), retried]
    have listed := List.contains_iff_mem.mp retried
    rcases @honoured_iff lib webhook retry_after delay later attempt with ⟨⟨next, asked, positive, kept⟩, fine⟩ |
      ⟨⟨exception, raised⟩, refused⟩
    · refine .inl ⟨⟨_, some status_code, ?_, doubled positive⟩, fun _ _ => fine⟩
      dsimp only
      rw [asked]
      dsimp only
      rw [kept]
    · refine .inr ⟨?_, fun tolerated => refused (tolerated waits listed)⟩
      dsimp only
      cases asked : honoured lib retry_after delay with
      | error exception' => exact ⟨exception', rfl⟩
      | ok next =>
        rw [asked] at raised
        have overslept : sleep (next * webhook.draws attempt) = .error exception := raised
        dsimp only
        rw [overslept]
        exact ⟨exception, rfl⟩
  | raised exception type_name =>
    rw [met, Outcome.retried] at retried
    refine .inl ⟨⟨_, last_status, ?_, doubled later⟩, retryable_listed retried⟩
    dsimp only
    rw [retried, slept later]

/-- The posts that were made stop at the first that is not made again, and end with a result exactly when all that are
    reached are tolerated. -/
private structure Ends (lib : Library) (outcomes : Nat → Outcome) (left attempt : Nat)
    (made : Nat × Except Exn NotificationResult) : Prop where
  first : attempt ≤ made.1
  last : made.1 ≤ attempt + left
  reached : Reached outcomes attempt made.1
  ended : (∃ r, made.2 = .ok r ∧ r.delivered = (outcomes made.1).succeeded) ∧ AllTolerated lib outcomes left attempt ∨
    (∃ exception, made.2 = .error exception) ∧ ¬ AllTolerated lib outcomes left attempt

private theorem reached_self {outcomes : Nat → Outcome} {attempt : Nat} : Reached outcomes attempt attempt :=
  fun j first before => absurd first (by omega)

/-- A post after which none is reached ends the call. -/
private theorem last_ends {left attempt : Nat} {delay : ℚ} {last_status : Option Nat}
    (final : left = 0 ∨ (webhook.outcomes attempt).retried = false) :
    Ends lib webhook.outcomes left attempt (posts_from lib self payload hash webhook left attempt delay last_status) := by
  have decides : AllTolerated lib webhook.outcomes left attempt ↔
      Tolerated lib (attempt < attempt + left) (webhook.outcomes attempt) := by
    refine ⟨fun all => all attempt (Nat.le_refl _) (Nat.le_add_right _ _) reached_self,
      fun tolerated k first last reached => ?_⟩
    rcases Nat.eq_or_lt_of_le first with rfl | after
    · exact tolerated
    · rcases final with rfl | other
      · omega
      · cases (reached attempt (Nat.le_refl _) after).symm.trans other
  have final' : left = 0 ∧ ¬ attempt < attempt + left ∨ (webhook.outcomes attempt).retried = false :=
    final.imp_left (fun none_left => ⟨none_left, by omega⟩)
  rcases @posts_from_last lib self payload hash webhook left attempt delay last_status _ final' with
    ⟨⟨r, ended, delivered⟩, tolerated⟩ | ⟨⟨exception, ended⟩, refused⟩
  · rw [ended]
    exact ⟨Nat.le_refl _, Nat.le_add_right _ _, reached_self, .inl ⟨⟨r, rfl, delivered⟩, decides.mpr tolerated⟩⟩
  · rw [ended]
    exact ⟨Nat.le_refl _, Nat.le_add_right _ _, reached_self, .inr ⟨⟨exception, rfl⟩, fun all => refused (decides.mp all)⟩⟩

/-- After a post that is made again, the posts that follow decide. -/
private theorem all_tolerated_succ {left attempt : Nat} (retried : (webhook.outcomes attempt).retried = true) :
    AllTolerated lib webhook.outcomes (left + 1) attempt ↔
      Tolerated lib (attempt < attempt + (left + 1)) (webhook.outcomes attempt) ∧
        AllTolerated lib webhook.outcomes left (attempt + 1) := by
  have shift : attempt + 1 + left = attempt + (left + 1) := by omega
  constructor
  · intro all
    refine ⟨all attempt (Nat.le_refl _) (Nat.le_add_right _ _) reached_self, fun k first last reached => ?_⟩
    rw [shift] at last ⊢
    refine all k (by omega) last (fun j after before => ?_)
    rcases Nat.eq_or_lt_of_le after with rfl | later
    · exact retried
    · exact reached j later before
  · rintro ⟨tolerated, all⟩ k first last reached
    rcases Nat.eq_or_lt_of_le first with rfl | after
    · exact tolerated
    · rw [← shift] at last ⊢
      exact all k after last (fun j from_next before => reached j (by omega) before)

private theorem posts_from_ends (left attempt : Nat) {delay : ℚ} {last_status : Option Nat} (later : 0 ≤ delay) :
    Ends lib webhook.outcomes left attempt (posts_from lib self payload hash webhook left attempt delay last_status) := by
  induction left generalizing attempt delay last_status with
  | zero => exact last_ends (.inl rfl)
  | succ left ih =>
    cases retried : (webhook.outcomes attempt).retried with
    | false => exact last_ends (.inr retried)
    | true =>
      rcases @posts_from_retried lib self payload hash webhook left attempt delay last_status (attempt < attempt + (left + 1))
        (by omega) later retried with ⟨⟨next, status, goes_on, positive⟩, tolerated⟩ | ⟨⟨exception, stopped⟩, refused⟩
      · obtain ⟨first, last, reached, ended⟩ := @ih (attempt + 1) next status positive
        rw [goes_on]
        refine ⟨by omega, by omega, fun j after before => ?_, ?_⟩
        · rcases Nat.eq_or_lt_of_le after with rfl | from_next
          · exact retried
          · exact reached j from_next before
        · rw [all_tolerated_succ retried, and_iff_right tolerated]
          exact ended
      · rw [stopped]
        refine ⟨Nat.le_refl _, Nat.le_add_right _ _, reached_self, .inr ⟨⟨exception, rfl⟩, fun all => ?_⟩⟩
        exact refused ((all_tolerated_succ retried).mp all).1
end

/-! ### A call -/

section
variable {lib : Library} {self : N8NWebhookClient} {payload : N8NAlertPayload} {webhook : Webhook}

private theorem payload_hash_ok : (∃ hash, payload_hash lib payload = .ok hash) ↔
    ∃ text, lib.dumpable payload = true ∧ lib.dumps payload.model_dump = some text := by
  unfold payload_hash model_dump
  cases lib.dumpable payload with
  | false => exact iff_of_false (by rintro ⟨_, ⟨⟩⟩) (by rintro ⟨_, ⟨⟩, -⟩)
  | true =>
    simp only [↓reduceIte, bind, Except.bind]
    cases lib.dumps payload.model_dump with
    | none => exact iff_of_false (by rintro ⟨_, ⟨⟩⟩) (by rintro ⟨_, -, ⟨⟩⟩)
    | some text => exact iff_of_true ⟨_, rfl⟩ ⟨text, trivial, rfl⟩

/-- The posts of an enabled client. -/
private theorem send_enabled {hash : String} (hashed : payload_hash lib payload = .ok hash) (enabled : self.enabled = true)
    (url : self.webhook_url ≠ "") : send lib self payload webhook = posts lib self payload hash webhook := by
  obtain ⟨text, dumpable, -⟩ := payload_hash_ok.mp ⟨hash, hashed⟩
  rw [send, hashed]
  dsimp only
  rw [if_neg (by simp [enabled, url]), model_dump, dumpable]
  rfl

/-- A call that ends as its posts do. -/
private theorem reliable_of_posts {made : Nat × Except Exn NotificationResult}
    (ends : Ends lib webhook.outcomes (self.max_retries - 1) 1 made) (sent : send lib self payload webhook = made) :
    Reliable lib self payload webhook ↔ ∀ k, 1 ≤ k → k ≤ self.max_retries → Reached webhook.outcomes 1 k →
      Tolerated lib (k < self.max_retries) (webhook.outcomes k) := by
  have most : 1 + (self.max_retries - 1) = self.max_retries := by have := self.retries.1; omega
  obtain ⟨first, last, reached, ended⟩ := ends
  rw [AllTolerated, most] at ended
  rw [most] at last
  rw [Reliable, sent]
  rcases ended with ⟨⟨r, ended, delivered⟩, tolerated⟩ | ⟨⟨exception, ended⟩, refused⟩
  · refine iff_of_true ⟨r, ended, last, fun k from_first before => ?_, ?_⟩ tolerated
    · have retried := reached k from_first before
      exact ⟨retried, retried_not_succeeded retried⟩
    · rw [delivered]
      refine ⟨fun succeeded => ⟨made.1, first, Nat.le_refl _, succeeded⟩, ?_⟩
      rintro ⟨k, from_first, upto, succeeded⟩
      rcases Nat.eq_or_lt_of_le upto with rfl | before
      · exact succeeded
      · cases (retried_not_succeeded (reached k from_first before)).symm.trans succeeded
  · refine iff_of_false (fun reliable => ?_) refused
    obtain ⟨r, returned, -⟩ := reliable
    cases ended.symm.trans returned

private theorem unreliable {posts : Nat} {exception : Exn}
    (sent : send lib self payload webhook = (posts, .error exception)) :
    ¬ Reliable lib self payload webhook := by
  rintro ⟨r, returned, -⟩
  rw [sent] at returned
  cases returned

/-- A client that opens and closes leaves the posts as they end. -/
private theorem posts_opened {hash : String}
    (opened : self.supplied = false → webhook.opening = none ∧ webhook.closing = none) :
    posts lib self payload hash webhook =
      posts_from lib self payload hash webhook (self.max_retries - 1) 1 self.retry_backoff_seconds none := by
  rw [posts]
  cases supplied : self.supplied with
  | true => rw [if_pos rfl]
  | false =>
    obtain ⟨opening, closing⟩ := opened supplied
    rw [if_neg (by decide), opening, closing]

private theorem posts_unopened {hash : String}
    (unopened : ¬ (self.supplied = false → webhook.opening = none ∧ webhook.closing = none)) :
    ∃ made exception, posts lib self payload hash webhook = (made, .error exception) := by
  obtain ⟨supplied, failed⟩ := Classical.not_imp.mp unopened
  rw [posts, supplied, if_neg (by decide)]
  cases opening : webhook.opening with
  | some exception => exact ⟨_, exception, rfl⟩
  | none =>
    cases closing : webhook.closing with
    | some exception => exact ⟨_, exception, rfl⟩
    | none => exact absurd ⟨opening, closing⟩ failed

/-- A call of a client that is disabled. -/
private theorem disabled_reliable {hash : String} (hashed : payload_hash lib payload = .ok hash)
    (inactive : ¬ (self.enabled = true ∧ self.webhook_url ≠ "")) : Reliable lib self payload webhook := by
  have skipped : (!self.enabled || decide (self.webhook_url = "")) = true := by
    rw [Bool.or_eq_true, Bool.not_eq_true', decide_eq_true_iff]
    by_cases enabled : self.enabled = true
    · exact .inr (by_contra fun url => inactive ⟨enabled, url⟩)
    · exact .inl (Bool.eq_false_iff.mpr enabled)
  rw [Reliable, send, hashed]
  dsimp only
  rw [if_pos skipped]
  refine ⟨_, rfl, Nat.zero_le _, fun k first before => absurd before (Nat.not_lt_zero _), ?_⟩
  exact iff_of_false (by rintro ⟨⟩) (by rintro ⟨k, first, upto, -⟩; omega)

/-- A call is reliable exactly when what it meets is tolerable. -/
theorem send_reliable_iff (lib : Library) (self : N8NWebhookClient) (payload : N8NAlertPayload) (webhook : Webhook) :
    Reliable lib self payload webhook ↔ Tolerable lib self payload webhook := by
  by_cases written : ∃ text, lib.dumpable payload = true ∧ lib.dumps payload.model_dump = some text
  · obtain ⟨hash, hashed⟩ := payload_hash_ok.mpr written
    rw [Tolerable, and_iff_right written]
    by_cases active : self.enabled = true ∧ self.webhook_url ≠ ""
    · rw [imp_iff_right active.1, imp_iff_right active.2]
      have sent := @send_enabled lib self payload webhook hash hashed active.1 active.2
      by_cases opened : self.supplied = false → webhook.opening = none ∧ webhook.closing = none
      · have ends := @posts_from_ends lib self payload hash webhook (self.max_retries - 1) 1 self.retry_backoff_seconds none
          self.backoff.1
        rw [and_iff_right opened]
        exact reliable_of_posts ends (sent.trans (posts_opened opened))
      · obtain ⟨made, exception, raised⟩ := @posts_unopened lib self payload webhook hash opened
        exact iff_of_false (unreliable (sent.trans raised)) (fun tolerable => opened tolerable.1)
    · exact iff_of_true (disabled_reliable hashed active) (fun enabled url => absurd ⟨enabled, url⟩ active)
  · refine iff_of_false ?_ (fun tolerable => written tolerable.1)
    cases hashed : payload_hash lib payload with
    | error exception => exact unreliable (by rw [send, hashed])
    | ok hash => exact absurd (payload_hash_ok.mp ⟨hash, hashed⟩) written

end

/-! ### What a result is about -/

section
variable {lib : Library} {self : N8NWebhookClient} {payload : N8NAlertPayload} {hash : String} {webhook : Webhook}
  {result : NotificationResult}

private theorem posts_from_named {left attempt : Nat} {delay : ℚ} {last_status : Option Nat}
    (ended : (posts_from lib self payload hash webhook left attempt delay last_status).2 = .ok result) :
    result.alert_id = payload.alert_id := by
  induction left generalizing attempt delay last_status with
  | zero =>
    rw [posts_from] at ended
    cases met : webhook.outcomes attempt with
    | response status_code retry_after =>
      rw [met] at ended
      dsimp only at ended
      split at ended
      · cases ended
        rfl
      · split at ended
        · rename_i none_left
          cases none_left
        · cases ended
          rfl
    | raised exception type_name =>
      rw [met] at ended
      dsimp only at ended
      split at ended
      · rename_i none_left
        cases none_left
      · split at ended
        · cases ended
          rfl
        · cases ended
  | succ left ih =>
    rw [posts_from] at ended
    cases met : webhook.outcomes attempt with
    | response status_code retry_after =>
      rw [met] at ended
      dsimp only at ended
      split at ended
      · cases ended
        rfl
      · split at ended
        · rename_i same
          cases same
          split at ended
          · cases ended
          · split at ended
            · cases ended
            · exact ih ended
        · cases ended
          rfl
    | raised exception type_name =>
      rw [met] at ended
      dsimp only at ended
      split at ended
      · rename_i same
        cases same
        split at ended
        · cases ended
        · exact ih ended
      · split at ended
        · cases ended
          rfl
        · cases ended

private theorem posts_named (made : (posts lib self payload hash webhook).2 = .ok result) :
    result.alert_id = payload.alert_id := by
  rw [posts] at made
  split at made
  · exact posts_from_named made
  · split at made
    · cases made
    · cases made
    · exact posts_from_named made

/-- Whatever a call meets, a result is about the alert of the payload. -/
theorem send_named (sent : (send lib self payload webhook).2 = .ok result) : result.alert_id = payload.alert_id := by
  rw [send] at sent
  split at sent
  · cases sent
  · split at sent
    · cases sent
      rfl
    · split at sent
      · cases sent
        rfl
      · exact posts_named sent

end

/-! ### A wait into the past -/

/-- A payload can be written, as the text of its id. -/
def plain_library : Library where
  conversions := ThreatIntel.ascii_conversions
  dumpable _ := true
  dumps _ := some ""
  digest text := text
  hostname _ := some "n8n.example"

private theorem shipped_retries : 1 ≤ 3 ∧ 3 ≤ 10 := by decide

def shipped_client : N8NWebhookClient where
  webhook_url := "https://n8n.example/webhook/alert"
  enabled := true
  retries := shipped_retries

private theorem no_jitter : ∀ _ : Nat, (1 : ℚ) / 2 ≤ 1 ∧ (1 : ℚ) ≤ 1 := fun _ => ⟨by norm_num, le_refl _⟩

/-- The webhook is unavailable and says to come back a second ago. -/
def hasty : Webhook where
  outcomes _ := .response 503 (some "-1")
  draws _ := 1
  drawn := no_jitter

def notified : N8NAlertPayload where
  alert_id := "a1"
  received_at := "2026-01-02T00:00:00Z"
  source := "wazuh"
  risk := { score := 81, tier := "high", engine_version := "scoring.v2" }
  decision := { action := "open_incident" }
  rule := { id := "5710", level := 10, description := "sshd: invalid user" }
  agent := { id := "001", name := "web-01" }
  recurrence := { group_key := "5710:001", occurrences := 1, generation := 1, dedupe_status := "new_generation" }
  enrichment := { status := "skipped" }
  investigation_links := { alert_api := "/alerts/a1" }
  severity := "SEV2"
  score := 81
  dedupe_status := "new_generation"

/-- A negative `Retry-After` makes the call raise. -/
theorem negative_retry_after_raises :
    ¬ ∀ (lib : Library) (self : N8NWebhookClient) (payload : N8NAlertPayload) (webhook : Webhook),
      Reliable lib self payload webhook := by
  intro always
  have sent := (@send_enabled plain_library shipped_client notified hasty _ rfl rfl (by decide)).trans
    (posts_opened (fun _ => ⟨rfl, rfl⟩))
  have ends := @posts_from_ends plain_library shipped_client notified (plain_library.digest "") hasty
    (shipped_client.max_retries - 1) 1 shipped_client.retry_backoff_seconds none shipped_client.backoff.1
  have tolerated := (reliable_of_posts ends sent).mp (always _ _ _ _) 1 (Nat.le_refl 1) (by decide) reached_self
  have asked : int_text ThreatIntel.ascii_conversions "-1" = some (-1) := by decide +kernel
  have read : ((some "-1").filter (· ≠ "")).bind (int_text plain_library.conversions) = some (-1) := by
    rw [Option.filter_some, if_pos (by decide)]
    exact asked
  have positive := (tolerated (by decide) (by decide) (-1) read).1
  omega

end SocTriage.N8NClient
