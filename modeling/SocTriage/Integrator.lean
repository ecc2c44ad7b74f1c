import Mathlib.Data.List.Sort
import SocTriage.Datetime
import SocTriage.Json
import SocTriage.Runs
import SocTriage.Tables

/-!
The integrator script: the filter, the delivery of one alert with its retries, the spool
on disk, and one invocation. The file system works: what is listed can be read and
removed, what is written is there. An invocation is described by what it does outside
itself, in order: the answers it gets from the API, and the spool files it removes and
writes. Every invocation with an alert file and a valid configuration exits with 0.
-/
namespace SocTriage.Integrator

/-! ### Configuration and filter -/

/-- What `load_config` accepts, short of the fields that only the transport reads. -/
structure IntegratorConfig where
  min_rule_level : Int := 5
  excluded_rule_ids : List String := []
  excluded_groups : List String := []
  max_attempts : Nat := 3
  spool_max_entries : Nat := 1000
  spool_max_age_seconds : Nat := 604800
  spool_flush_batch : Nat := 25
  some_attempt : 1 ≤ max_attempts := by decide
  some_entry : 1 ≤ spool_max_entries := by decide

/-- `int` and `str` of a JSON value; a value that `int` refuses has no number. -/
structure Builtins where
  int : Json → Option Int
  str : Json → String

def should_forward (builtins : Builtins) (alert : JsonObject) (config : IntegratorConfig) : Bool × String :=
  match Json.lookup "rule" alert with
  | some (.obj rule) =>
    match builtins.int ((Json.lookup "level" rule).getD .null) with
    | none => (false, "invalid_level")
    | some level =>
      if level < config.min_rule_level then (false, "below_min_level")
      else
        let rule_id := Text.strip (builtins.str ((Json.lookup "id" rule).getD (.str "")))
        if rule_id ≠ "" ∧ config.excluded_rule_ids.contains rule_id then (false, "excluded_rule_id")
        else
          match Json.lookup "groups" rule with
          | some (.arr groups) =>
            if groups.any (fun group => config.excluded_groups.contains (builtins.str group)) then (false, "excluded_group")
            else (true, "forward")
          | _ => (true, "forward")
  | _ => (false, "missing_rule")

/-! ### Delivery -/

def RETRYABLE_STATUS : List Nat := [408, 429, 500, 502, 503, 504]

/-- An answer of the API; status 0 is a transport error or an exception. -/
structure SenderResponse where
  status : Nat
  error_type : Option String := none
deriving DecidableEq, Repr

/-- Answered 2xx. -/
def SenderResponse.ok (response : SenderResponse) : Bool := 200 ≤ response.status && response.status < 300

def SenderResponse.transient (response : SenderResponse) : Bool :=
  response.status = 0 || RETRYABLE_STATUS.contains response.status

structure DeliveryOutcome where
  delivered : Bool
  retryable : Bool
  status : Nat
  attempts : Nat
  error_type : Option String := none
deriving DecidableEq, Repr

/-- The loop of `deliver` from one attempt on, with the answers it gets. -/
def deliver_from (config : IntegratorConfig) (sender : Nat → SenderResponse) :
    Nat → Nat → SenderResponse → List SenderResponse × DeliveryOutcome
  | 0, _, last =>
    ([], { delivered := false, retryable := true, status := last.status, attempts := config.max_attempts
           error_type := last.error_type })
  | left + 1, attempt, _ =>
    let last := sender attempt
    if last.ok then ([last], { delivered := true, retryable := false, status := last.status, attempts := attempt })
    else if !last.transient then
      ([last], { delivered := false, retryable := false, status := last.status, attempts := attempt
                 error_type := last.error_type })
    else
      let (answers, outcome) := deliver_from config sender left (attempt + 1) last
      (last :: answers, outcome)

def deliver (config : IntegratorConfig) (sender : Nat → SenderResponse) : List SenderResponse × DeliveryOutcome :=
  deliver_from config sender config.max_attempts 1 ⟨0, some "not_attempted"⟩

/-! ### The spool -/

/-- The text of a `uuid4` in hexadecimal. -/
structure Hex where
  text : String
  plain : '-' ∉ text.toList
deriving DecidableEq

/-- A file of the spool. The invocation that wrote it is there for the statements only. -/
structure Entry where
  name : String
  mtime : Int
  body : String
  invocation : Nat
deriving DecidableEq, Repr

abbrev Spool := Table Entry.name

/-- Why a file of the spool is removed; a file that is too old is so at a reading of the clock. -/
inductive Reason where
  | answered | rejected
  | expired (now : Int)
  | overflow
deriving DecidableEq, Repr

/-- What an invocation does outside itself. -/
inductive Action where
  | post (invocation : Nat) (response : SenderResponse)
  | unlink (entry : Entry) (reason : Reason)
  | write (entry : Entry)
deriving DecidableEq, Repr

def perform (spool : Spool) : Action → Spool
  | .post _ _ => spool
  | .unlink entry _ => spool.filter (fun other => other.name ≠ entry.name)
  | .write entry => spool.put entry

def by_name (a b : Entry) : Prop := a.name ≤ b.name

instance : DecidableRel by_name := fun _ _ => inferInstanceAs (Decidable (_ ≤ _))

/-- The files in the order of their names. -/
def entries (spool : Spool) : List Entry := spool.rows.insertionSort by_name

/-- The modification time before which a file is too old. -/
def cutoff (config : IntegratorConfig) (now : Int) : Int := now - seconds (max 1 config.spool_max_age_seconds)

def prune (config : IntegratorConfig) (now : Int) (spool : Spool) : List Action :=
  ((entries spool).filter (fun entry => entry.mtime < cutoff config now)).map (Action.unlink · (.expired now))

def enforce_capacity (config : IntegratorConfig) (incoming : Nat) (spool : Spool) : List Action :=
  ((entries spool).take ((entries spool).length + incoming - max 1 config.spool_max_entries)).map (Action.unlink · .overflow)

/-- One invocation: the alert file, the readings of the clock, and what the API answers to each attempt of each delivery. -/
structure Invocation where
  file : Except String (JsonObject × String)
  flush_now : Int
  enqueue_now : Int
  name_now : Int
  mtime : Int
  sequence : Nat := 1
  uuid : Hex
  spooled : Nat → Nat → SenderResponse
  sender : Nat → SenderResponse

/-- The name of the file an invocation writes: milliseconds, counter and uuid. -/
def file_name (self : Invocation) : String :=
  Text.zero_padded 15 (self.name_now / 1000).toNat ++ "-" ++ Text.zero_padded 9 self.sequence ++ "-" ++ self.uuid.text ++
    ".json"

/-- The file that the invocation of a number writes for its alert. -/
def new_entry (number : Nat) (self : Invocation) (raw : String) : Entry where
  name := file_name self
  mtime := self.mtime
  body := raw
  invocation := number

def enqueue (config : IntegratorConfig) (number : Nat) (self : Invocation) (raw : String) (spool : Spool) : List Action :=
  let pruned := prune config self.enqueue_now spool
  pruned ++ enforce_capacity config 1 (Runs.run perform spool pruned) ++ [.write (new_entry number self raw)]

/-- The loop of the flush over the listed files; `n` have been tried before. -/
def flush_entries (config : IntegratorConfig) (senders : Nat → Nat → SenderResponse) : Nat → List Entry → List Action
  | _, [] => []
  | n, entry :: rest =>
    let (answers, outcome) := deliver config (senders n)
    let posted := answers.map (Action.post entry.invocation)
    if outcome.delivered then posted ++ .unlink entry .answered :: flush_entries config senders (n + 1) rest
    else if !outcome.retryable then posted ++ .unlink entry .rejected :: flush_entries config senders (n + 1) rest
    else posted

/-- The files a flush goes through, of a spool without expired ones. -/
def batch (config : IntegratorConfig) (spool : Spool) : List Entry := (entries spool).take config.spool_flush_batch

def flush_spool (config : IntegratorConfig) (now : Int) (senders : Nat → Nat → SenderResponse) (spool : Spool) :
    List Action :=
  let pruned := prune config now spool
  pruned ++ flush_entries config senders 0 (batch config (Runs.run perform spool pruned))

/-- The invocation of a number. -/
def run (builtins : Builtins) (config : IntegratorConfig) (number : Nat) (self : Invocation) (spool : Spool) : List Action :=
  let flushed := flush_spool config self.flush_now self.spooled spool
  match self.file with
  | .error _ => flushed
  | .ok (alert, raw) =>
    if !(should_forward builtins alert config).1 then flushed
    else
      let (answers, outcome) := deliver config self.sender
      let posted := answers.map (Action.post number)
      if outcome.delivered then flushed ++ posted
      else if outcome.retryable then flushed ++ posted ++ enqueue config number self raw (Runs.run perform spool flushed)
      else flushed ++ posted

/-! ### What a delivery does -/

theorem ok_of_transient {response : SenderResponse} (transient : response.transient = true) : response.ok = false := by
  rw [SenderResponse.transient, Bool.or_eq_true, decide_eq_true_eq, List.contains_iff_mem] at transient
  rw [SenderResponse.ok, Bool.and_eq_false_iff, decide_eq_false_iff_not, decide_eq_false_iff_not]
  simp only [RETRYABLE_STATUS, List.mem_cons, List.not_mem_nil, or_false] at transient
  omega

/-- The three ends of a delivery. Every answer but the last is a transient failure. -/
inductive Delivered : List SenderResponse × DeliveryOutcome → Prop
  | answered {before last outcome} (retried : ∀ r ∈ before, SenderResponse.transient r = true) (ok : last.ok = true)
      (delivered : outcome.delivered = true) (final : outcome.retryable = false) : Delivered (before ++ [last], outcome)
  | rejected {before last outcome} (retried : ∀ r ∈ before, SenderResponse.transient r = true) (refused : last.ok = false)
      (permanent : last.transient = false) (undelivered : outcome.delivered = false) (final : outcome.retryable = false) :
      Delivered (before ++ [last], outcome)
  | postponed {answers outcome} (retried : ∀ r ∈ answers, SenderResponse.transient r = true)
      (undelivered : outcome.delivered = false) (retryable : outcome.retryable = true) : Delivered (answers, outcome)

private theorem Delivered.retry {last : SenderResponse} {answers : List SenderResponse} {outcome : DeliveryOutcome}
    (transient : last.transient = true) (rest : Delivered (answers, outcome)) : Delivered (last :: answers, outcome) := by
  have all : ∀ {before : List SenderResponse}, (∀ r ∈ before, r.transient = true) →
    ∀ r ∈ last :: before, r.transient = true := by
    intro before retried r inside
    rcases List.mem_cons.mp inside with rfl | later
    · exact transient
    · exact retried r later
  cases rest with
  | @answered before _ _ retried ok delivered final =>
      exact @Delivered.answered (last :: before) _ _ (all retried) ok delivered final
  | @rejected before _ _ retried refused permanent undelivered final =>
    exact @Delivered.rejected (last :: before) _ _ (all retried) refused permanent undelivered final
  | postponed retried undelivered retryable => exact .postponed (all retried) undelivered retryable

private theorem deliver_from_delivered (config : IntegratorConfig) (sender : Nat → SenderResponse) (left attempt : Nat)
    (last : SenderResponse) : Delivered (deliver_from config sender left attempt last) := by
  induction left generalizing attempt last with
  | zero => exact .postponed (fun _ none => absurd none List.not_mem_nil) rfl rfl
  | succ left ih =>
    rw [deliver_from]
    split
    · rename_i ok
      exact @Delivered.answered [] _ _ (fun _ none => absurd none List.not_mem_nil) ok rfl rfl
    split
    · rename_i refused permanent
      exact @Delivered.rejected [] _ _ (fun _ none => absurd none List.not_mem_nil) (by simpa using refused)
        (by simpa using permanent)
        rfl rfl
    · rename_i transient
      exact (ih (attempt + 1) (sender attempt)).retry (by simpa using transient)

theorem deliver_delivered (config : IntegratorConfig) (sender : Nat → SenderResponse) : Delivered (deliver config sender) :=
  deliver_from_delivered ..

/-! ### What a flush does -/

/-- What a flush does about one file. -/
def attempted (config : IntegratorConfig) (sender : Nat → SenderResponse) (entry : Entry) : List Action :=
  (deliver config sender).1.map (Action.post entry.invocation) ++
    (if (deliver config sender).2.delivered then [.unlink entry .answered]
      else if (deliver config sender).2.retryable then [] else [.unlink entry .rejected])

theorem flush_entries_cons (config : IntegratorConfig) (senders : Nat → Nat → SenderResponse) (n : Nat) (entry : Entry)
    (rest : List Entry) : flush_entries config senders n (entry :: rest) = attempted config (senders n) entry ++
      (if (deliver config (senders n)).2.retryable then [] else flush_entries config senders (n + 1) rest) := by
  rw [flush_entries, attempted]
  have ends := deliver_delivered config (senders n)
  generalize deliver config (senders n) = delivery at *
  cases ends with
  | answered _ _ delivered final => simp [delivered, final]
  | rejected _ _ _ undelivered final => simp [undelivered, final]
  | postponed _ undelivered retryable => simp [undelivered, retryable]

/-- The flush tries files in the order of the list, the `n`-th with the `n`-th sender,
    and stops at the first transient failure. -/
def InOrder (config : IntegratorConfig) (senders : Nat → Nat → SenderResponse) (listed : List Entry)
    (actions : List Action) : Prop :=
  ∃ tried, tried <+: listed ∧
    actions = (tried.zipIdx.flatMap (fun (entry, n) => attempted config (senders n) entry)) ∧
    (∀ n < tried.length, (deliver config (senders n)).2.retryable = true → n + 1 = tried.length) ∧
    (tried = listed ∨ ∃ n, n + 1 = tried.length ∧ (deliver config (senders n)).2.retryable = true)

private theorem flush_entries_in_order (config : IntegratorConfig) (senders : Nat → Nat → SenderResponse) (n : Nat)
    (listed : List Entry) : ∃ tried, tried <+: listed ∧
      flush_entries config senders n listed =
        ((tried.zipIdx n).flatMap (fun (entry, n) => attempted config (senders n) entry)) ∧
      (∀ i < tried.length, (deliver config (senders (n + i))).2.retryable = true → i + 1 = tried.length) ∧
      (tried = listed ∨ ∃ i, i + 1 = tried.length ∧ (deliver config (senders (n + i))).2.retryable = true) := by
  induction listed generalizing n with
  | nil => exact ⟨[], List.prefix_rfl, rfl, fun i short => absurd short (Nat.not_lt_zero i), .inl rfl⟩
  | cons entry rest ih =>
    rw [flush_entries_cons]
    by_cases transient : (deliver config (senders n)).2.retryable = true
    · refine ⟨[entry], ⟨rest, rfl⟩, ?_, ?_, .inr ⟨0, rfl, transient⟩⟩
      · simp [transient]
      · intro i short _
        rw [List.length_singleton] at short ⊢
        omega
    · obtain ⟨tried, first, actions, stops, ends⟩ := ih (n + 1)
      refine ⟨entry :: tried, List.prefix_cons_inj entry |>.mpr first, ?_, ?_, ?_⟩
      · simp [transient, actions]
      · intro i short failed
        cases i with
        | zero => exact absurd failed transient
        | succ i =>
          rw [show n + (i + 1) = n + 1 + i by omega] at failed
          exact congrArg (· + 1) (stops i (Nat.lt_of_succ_lt_succ short) failed)
      · rcases ends with rfl | ⟨i, last, failed⟩
        · exact .inl rfl
        · refine .inr ⟨i + 1, congrArg (· + 1) last, ?_⟩
          rw [show n + (i + 1) = n + 1 + i by omega]
          exact failed

/-- Every flush is such a flush of the first files that are not expired. -/
theorem flush_spool_in_order (config : IntegratorConfig) (now : Int) (senders : Nat → Nat → SenderResponse) (spool : Spool) :
    ∃ actions, flush_spool config now senders spool = prune config now spool ++ actions ∧
      InOrder config senders (batch config (Runs.run perform spool (prune config now spool))) actions := by
  refine ⟨_, rfl, ?_⟩
  obtain ⟨tried, first, actions, stops, ends⟩ :=
    flush_entries_in_order config senders 0 (batch config (Runs.run perform spool (prune config now spool)))
  simp only [Nat.zero_add] at stops ends
  exact ⟨tried, first, actions, stops, ends⟩

end SocTriage.Integrator
