import SocTriage.Lifecycle
import SocTriage.ThreatIntel

/-!
Which answers keep an enrichment from returning. An indicator is harmless when nothing it meets
raises an exception that no clause names; an enrichment returns, with one record for each
indicator and each made of what that indicator met, exactly when all its indicators are harmless.
-/
namespace SocTriage.ThreatIntel
open Enrichment

/-! ### What one indicator meets -/

section
variable (py : Conversions)

/-- The attempt is followed by another one, if one is left. -/
def Attempt.retried : Attempt → Bool
  | .raised exception => RETRYABLE_EXCEPTIONS.contains exception
  | .response got => RETRYABLE_STATUS_CODES.contains got.status_code

/-- The last attempt made, from one on and with the number that may follow it. -/
def last_from (attempts : Nat → Attempt) : Nat → Nat → Nat
  | 0, attempt => attempt
  | left + 1, attempt => if (attempts attempt).retried then last_from attempts left (attempt + 1) else attempt

def last_attempt (retry : RetryConfig) (behaviour : Behaviour) : Nat :=
  last_from behaviour.attempts (retry.max_attempts - 1) 0

/-- A `Retry-After` that is an integer is neither negative nor past every float. -/
def Honourable : Attempt → Prop
  | .raised _ => True
  | .response response => ∀ n, response.retry_after.bind (int_text py) = some n → 0 ≤ n ∧ float_overflows n = false

/-- An attempt no other follows leads to a record: an error of `httpx`, an error status, or a body
    that cannot be read or sanitized for a reason some clause names, or that can. -/
def Settles (self : BaseHTTPThreatIntelProvider) (ioc : IOC) : Attempt → Prop
  | .raised exception => exception ∈ HTTP_ERRORS
  | .response response => 400 ≤ response.status_code ∨
      match response.body with
      | .error exception => exception = .ValueError
      | .ok body =>
        match self.sanitize ioc body with
        | .error exception => exception ∈ SANITIZE_EXCEPTIONS
        | .ok none => True
        | .ok (some metadata) => py.dumpable metadata = true

/-- Nothing the lookup of the indicator meets raises an exception that no clause names. -/
def Harmless (self : BaseHTTPThreatIntelProvider) (ioc : IOC) (behaviour : Behaviour) : Prop :=
  match behaviour.cached with
  | some record => py.dumpable record.result = true
  | none => behaviour.acquired = true →
    match self.build_request ioc with
    | .error exception => exception ∈ HTTP_ERRORS
    | .ok _ => (∀ k < last_attempt self.retry behaviour, Honourable py (behaviour.attempts k)) ∧
        Settles py self ioc (behaviour.attempts (last_attempt self.retry behaviour))

/-- The record of an indicator, by what it meets and nothing else. -/
def own_record (self : BaseHTTPThreatIntelProvider) (ioc : IOC) (behaviour : Behaviour) : Except Exn LookupRecord :=
  match behaviour.cached with
  | some record => .ok record
  | none => lookup_one py self ioc behaviour

/-- One record for each indicator of a handled type and none for another, each the indicator's own. -/
structure Reports (self : BaseHTTPThreatIntelProvider) (behaviour : IOC → Behaviour) (iocs : List IOC)
    (result : ProviderEnrichment) : Prop where
  each : (result.results.rows.map Prod.fst).Perm
    ((iocs.filter (fun ioc => self.handled_types.contains ioc.type)).map ioc_key)
  own : ∀ ioc ∈ iocs, self.handled_types.contains ioc.type = true → ∃ record,
    own_record py self ioc (behaviour ioc) = .ok record ∧
      result.results.get (ioc_key ioc) = some (ioc_key ioc, record.model_dump)
end

/-! ### Sleeping -/

variable {py : Conversions}

private theorem sleep_ok {delay : ℚ} (later : 0 ≤ delay) : sleep delay = .ok () := by
  rw [sleep, if_neg (not_lt.mpr later)]

private theorem wait_ok {response : Response} (honourable : Honourable py (.response response)) {fallback draw cap : ℚ}
    (delay : 0 ≤ fallback) (drawn : 0 ≤ draw) (capped : 0 ≤ cap) :
    (retry_after_or py response fallback draw cap >>= sleep) = .ok () := by
  rw [retry_after_or]
  cases asked : response.retry_after.bind (int_text py) with
  | none => exact sleep_ok (le_min (mul_nonneg delay drawn) capped)
  | some n =>
    obtain ⟨positive, fits⟩ := honourable n asked
    simp only [fits, Bool.false_eq_true, ↓reduceIte]
    exact sleep_ok (le_min (by exact_mod_cast positive) capped)

/-- The wait a response asks for and nobody can keep raises an exception that is none of `httpx`. -/
private theorem wait_raises {response : Response} (refused : ¬ Honourable py (.response response))
    (fallback draw cap : ℚ) :
    ∃ exception, (retry_after_or py response fallback draw cap >>= sleep) = .error exception ∧ exception ∉ HTTP_ERRORS := by
  rw [Honourable] at refused
  push Not at refused
  obtain ⟨n, asked, refused⟩ := refused
  rw [retry_after_or, asked]
  dsimp only
  cases overflow : float_overflows n with
  | true => exact ⟨.OverflowError, rfl, by decide⟩
  | false =>
    have negative : n < 0 := not_le.mp (fun positive => refused positive overflow)
    have below : min (n : ℚ) cap < 0 := lt_of_le_of_lt (min_le_left _ _) (by exact_mod_cast negative)
    refine ⟨.ValueError, ?_, by decide⟩
    simp only [Bool.false_eq_true, ↓reduceIte, bind, Except.bind, sleep, if_pos below]

/-! ### Retries -/

/-- What the last attempt gives. -/
def Attempt.answer : Attempt → Except Exn Response
  | .raised exception => .error exception
  | .response got => .ok got

private theorem last_from_ge (attempts : Nat → Attempt) (left attempt : Nat) : attempt ≤ last_from attempts left attempt := by
  induction left generalizing attempt with
  | zero => exact Nat.le_refl _
  | succ left ih =>
    rw [last_from]
    split
    · exact (Nat.le_succ _).trans (ih (attempt + 1))
    · exact Nat.le_refl _

section
variable {retry : RetryConfig} {behaviour : Behaviour}

private theorem doubled {delay : ℚ} (later : 0 ≤ delay) : 0 ≤ min (delay * 2) retry.max_delay :=
  le_min (mul_nonneg later (by norm_num)) retry.delays.2

/-- One retry: what is slept on it, then the attempts that follow. -/
private theorem get_from_retried {left attempt : Nat} {delay : ℚ} (retried : (behaviour.attempts attempt).retried = true)
    (later : 0 ≤ delay) :
    (Honourable py (behaviour.attempts attempt) → get_from py retry behaviour (left + 1) attempt delay =
      get_from py retry behaviour left (attempt + 1) (min (delay * 2) retry.max_delay)) ∧
    (¬ Honourable py (behaviour.attempts attempt) → ∃ exception,
      get_from py retry behaviour (left + 1) attempt delay = .error exception ∧ exception ∉ HTTP_ERRORS) := by
  rw [get_from]
  cases met : behaviour.attempts attempt with
  | raised exception =>
    rw [met, Attempt.retried] at retried
    refine ⟨fun _ => ?_, fun refused => absurd trivial refused⟩
    simp only [retried, ↓reduceIte, sleep_ok (mul_nonneg later (behaviour.drawn attempt))]
    rfl
  | response response =>
    rw [met, Attempt.retried] at retried
    simp only [retried, ↓reduceIte, ← bind_assoc]
    constructor
    · intro honourable
      rw [wait_ok honourable later (behaviour.drawn attempt) retry.delays.2]
      rfl
    · intro refused
      obtain ⟨exception, raised, foreign⟩ := wait_raises refused delay (behaviour.draws attempt) retry.max_delay
      exact ⟨exception, by rw [raised]; rfl, foreign⟩

private theorem get_from_last {left attempt : Nat} {delay : ℚ} (retried : (behaviour.attempts attempt).retried = false) :
    get_from py retry behaviour (left + 1) attempt delay = (behaviour.attempts attempt).answer := by
  rw [get_from]
  cases met : behaviour.attempts attempt with
  | raised exception => rw [met, Attempt.retried] at retried; simp only [retried, Bool.false_eq_true, ↓reduceIte]; rfl
  | response response => rw [met, Attempt.retried] at retried; simp only [retried, Bool.false_eq_true, ↓reduceIte]; rfl

/-- The attempts lead to the answer of the last, unless a wait between them raises. -/
private theorem get_from_spec (left attempt : Nat) {delay : ℚ} (later : 0 ≤ delay) :
    ((∀ k, attempt ≤ k → k < last_from behaviour.attempts left attempt → Honourable py (behaviour.attempts k)) →
      get_from py retry behaviour left attempt delay =
        (behaviour.attempts (last_from behaviour.attempts left attempt)).answer) ∧
    (¬ (∀ k, attempt ≤ k → k < last_from behaviour.attempts left attempt → Honourable py (behaviour.attempts k)) →
      ∃ exception, get_from py retry behaviour left attempt delay = .error exception ∧ exception ∉ HTTP_ERRORS) := by
  induction left generalizing attempt delay with
  | zero =>
    refine ⟨fun _ => ?_, fun refused => absurd (fun k first last => ?_) refused⟩
    · rw [get_from, last_from]
      cases behaviour.attempts attempt <;> rfl
    · rw [last_from] at last
      omega
  | succ left ih =>
    rw [last_from]
    cases retried : (behaviour.attempts attempt).retried with
    | false =>
      simp only [Bool.false_eq_true, ↓reduceIte]
      exact ⟨fun _ => get_from_last retried, fun refused => absurd (fun k first last => by omega) refused⟩
    | true =>
      simp only [↓reduceIte]
      have reached := last_from_ge behaviour.attempts left (attempt + 1)
      obtain ⟨go, stop⟩ := @get_from_retried py retry behaviour left attempt delay retried later
      by_cases honourable : Honourable py (behaviour.attempts attempt)
      · rw [go honourable]
        obtain ⟨answered, raised⟩ := ih (attempt + 1) (doubled later)
        constructor
        · exact fun all => answered (fun k first last => all k (by omega) last)
        · refine fun some_refused => raised (fun rest => some_refused (fun k first last => ?_))
          rcases Nat.eq_or_lt_of_le first with rfl | after
          · exact honourable
          · exact rest k after last
      · refine ⟨fun all => absurd (all attempt (Nat.le_refl _) (by omega)) honourable, fun _ => stop honourable⟩
end

/-! ### One lookup -/

section
variable {self : BaseHTTPThreatIntelProvider} {ioc : IOC} {behaviour : Behaviour}

/-- A record that `model_dump` can follow. -/
def Recorded (py : Conversions) (self : BaseHTTPThreatIntelProvider) (ioc : IOC) (behaviour : Behaviour) : Prop :=
  ∃ record, lookup_one py self ioc behaviour = .ok record ∧ py.dumpable record.result = true

private theorem recorded_unless_acquired (refused : behaviour.acquired = false) : Recorded py self ioc behaviour := by
  refine ⟨_, by rw [lookup_one, refused]; rfl, py.dumpable_nil⟩

/-- An exception before any response leads to a record exactly when it is one of `httpx`. -/
private theorem recorded_of_error (acquired : behaviour.acquired = true) {exception : Exn}
    (raised : (self.build_request ioc >>= fun _ => get py self.retry behaviour) = .error exception) :
    Recorded py self ioc behaviour ↔ exception ∈ HTTP_ERRORS := by
  rw [Recorded, lookup_one, acquired, raised]
  simp only [Bool.not_true, Bool.false_eq_true, ↓reduceIte]
  constructor
  · rintro ⟨record, looked_up, -⟩
    split at looked_up
    · rename_i timeout; rw [timeout]; decide
    · split at looked_up
      · rename_i listed; exact List.contains_iff_mem.mp listed
      · cases looked_up
  · intro listed
    split
    · exact ⟨_, rfl, py.dumpable_nil⟩
    · rw [if_pos (List.contains_iff_mem.mpr listed)]
      exact ⟨_, rfl, py.dumpable_nil⟩

/-- A response leads to a record exactly when it settles the lookup. -/
private theorem recorded_of_response (acquired : behaviour.acquired = true) {response : Response}
    (answered : (self.build_request ioc >>= fun _ => get py self.retry behaviour) = .ok response) :
    Recorded py self ioc behaviour ↔ Settles py self ioc (.response response) := by
  rw [Recorded, lookup_one, acquired, answered, Settles]
  simp only [Bool.not_true, Bool.false_eq_true, ↓reduceIte]
  by_cases failed : 400 ≤ response.status_code
  · refine iff_of_true ?_ (.inl failed)
    split
    · exact ⟨_, rfl, py.dumpable_nil⟩
    · split
      · exact ⟨_, rfl, py.dumpable_nil⟩
      · exact ⟨_, rfl, py.dumpable_nil⟩
  · rw [if_neg (by omega), if_neg (by omega), if_neg (by omega), or_iff_right failed]
    cases response.body with
    | error exception =>
      dsimp only
      by_cases value : exception = .ValueError
      · rw [if_pos value]; exact iff_of_true ⟨_, rfl, py.dumpable_nil⟩ value
      · rw [if_neg value]; exact iff_of_false (by rintro ⟨_, none, -⟩; cases none) value
    | ok body =>
      dsimp only
      cases self.sanitize ioc body with
      | error exception =>
        dsimp only
        by_cases named : exception ∈ SANITIZE_EXCEPTIONS
        · rw [if_pos (List.contains_iff_mem.mpr named)]; exact iff_of_true ⟨_, rfl, py.dumpable_nil⟩ named
        · rw [if_neg (fun listed => named (List.contains_iff_mem.mp listed))]
          exact iff_of_false (by rintro ⟨_, none, -⟩; cases none) named
      | ok metadata =>
        cases metadata with
        | none => exact iff_of_true ⟨_, rfl, py.dumpable_nil⟩ trivial
        | some metadata =>
          constructor
          · rintro ⟨record, looked_up, dumpable⟩
            cases looked_up; exact dumpable
          · exact fun dumpable => ⟨_, rfl, dumpable⟩

/-- A lookup gives a record that can be dumped exactly when the indicator is harmless. -/
theorem recorded_iff (uncached : behaviour.cached = none) :
    Recorded py self ioc behaviour ↔ Harmless py self ioc behaviour := by
  rw [Harmless, uncached]
  dsimp only
  cases acquired : behaviour.acquired with
  | false => exact iff_of_true (recorded_unless_acquired acquired) (fun token => absurd token Bool.false_ne_true)
  | true =>
    simp only [forall_const]
    cases built : self.build_request ioc with
    | error exception => exact recorded_of_error acquired (by rw [built]; rfl)
    | ok request =>
      have sent : (self.build_request ioc >>= fun _ => get py self.retry behaviour) = get py self.retry behaviour := by
        rw [built]; rfl
      obtain ⟨answered, raised⟩ :=
        @get_from_spec py self.retry behaviour (self.retry.max_attempts - 1) 0 _ self.retry.delays.1
      by_cases honourable : ∀ k < last_attempt self.retry behaviour, Honourable py (behaviour.attempts k)
      · rw [and_iff_right honourable]
        have got := sent.trans (answered (fun k _ before => honourable k before))
        rw [← last_attempt] at got
        cases last : behaviour.attempts (last_attempt self.retry behaviour) with
        | raised exception => rw [last] at got; exact recorded_of_error acquired got
        | response response => rw [last] at got; exact recorded_of_response acquired got
      · obtain ⟨exception, failed, foreign⟩ := raised (fun all => honourable (fun k before => all k (Nat.zero_le k) before))
        rw [recorded_of_error acquired (sent.trans failed)]
        exact iff_of_false foreign (fun both => honourable both.1)
end

/-! ### The provider that raises nothing -/

/-- What a lookup meets, once its attempts are over. -/
def met (py : Conversions) (self : BaseHTTPThreatIntelProvider) (ioc : IOC) (behaviour : Behaviour) : Upstream :=
  if !behaviour.acquired then .exhausted
  else
    match self.build_request ioc >>= fun _ => get py self.retry behaviour with
    | .error exception => if exception = .TimeoutException then .timeout else .http_error
    | .ok response => .response response.status_code response.body.toOption

/-- The provider as the rest of the system sees it while no lookup raises. -/
def quiet (py : Conversions) (self : BaseHTTPThreatIntelProvider) (behaviour : IOC → Behaviour) : HTTPProvider where
  name := self.name
  enabled := self.enabled
  handled_types := self.handled_types
  sanitize ioc body := match self.sanitize ioc body with
    | .error _ => .malformed
    | .ok none => .no_record
    | .ok (some metadata) => .metadata metadata
  cached ioc := (behaviour ioc).cached
  upstream ioc := met py self ioc (behaviour ioc)
  now ioc := (behaviour ioc).now

section
variable {self : BaseHTTPThreatIntelProvider} {behaviour : IOC → Behaviour} {ioc : IOC}

private theorem lookup_one_quiet {record : LookupRecord} (looked_up : lookup_one py self ioc (behaviour ioc) = .ok record) :
    record = Enrichment.lookup_one (quiet py self behaviour) ioc := by
  rw [lookup_one] at looked_up
  simp only [Enrichment.lookup_one, Enrichment.lookup_status, quiet, met]
  cases acquired : (behaviour ioc).acquired with
  | false => rw [acquired] at looked_up; cases looked_up; rfl
  | true =>
    rw [acquired] at looked_up
    simp only [Bool.not_true, Bool.false_eq_true, ↓reduceIte] at looked_up ⊢
    cases got : self.build_request ioc >>= fun _ => get py self.retry (behaviour ioc) with
    | error exception =>
      rw [got] at looked_up
      dsimp only at looked_up ⊢
      by_cases timeout : exception = .TimeoutException
      · rw [if_pos timeout] at looked_up ⊢; cases looked_up; rfl
      · rw [if_neg timeout] at looked_up ⊢
        split at looked_up
        · cases looked_up; rfl
        · cases looked_up
    | ok response =>
      rw [got] at looked_up
      dsimp only at looked_up ⊢
      by_cases limited : response.status_code = 429
      · rw [if_pos limited] at looked_up; simp only [if_pos limited]; cases looked_up; rfl
      rw [if_neg limited] at looked_up; simp only [if_neg limited]
      by_cases missing : response.status_code = 404
      · rw [if_pos missing] at looked_up; simp only [if_pos missing]; cases looked_up; rfl
      rw [if_neg missing] at looked_up; simp only [if_neg missing]
      by_cases failed : response.status_code ≥ 400
      · rw [if_pos failed] at looked_up; simp only [if_pos failed]; cases looked_up; rfl
      rw [if_neg failed] at looked_up; simp only [if_neg failed]
      cases read : response.body with
      | error exception =>
        rw [read] at looked_up
        dsimp only at looked_up
        split at looked_up
        · cases looked_up; rfl
        · cases looked_up
      | ok body =>
        rw [read] at looked_up
        dsimp only [Except.toOption] at looked_up ⊢
        cases sanitized : self.sanitize ioc body with
        | error exception =>
          rw [sanitized] at looked_up
          dsimp only at looked_up
          split at looked_up
          · cases looked_up; rfl
          · cases looked_up
        | ok metadata =>
          rw [sanitized] at looked_up
          cases metadata <;> (cases looked_up; rfl)

/-- The record of an indicator, once it is harmless, is the one of the quiet provider. -/
private theorem own_record_quiet (harmless : Harmless py self ioc (behaviour ioc)) :
    own_record py self ioc (behaviour ioc) =
        .ok (((quiet py self behaviour).cached ioc).getD (Enrichment.lookup_one (quiet py self behaviour) ioc)) ∧
      py.dumpable (((quiet py self behaviour).cached ioc).getD
        (Enrichment.lookup_one (quiet py self behaviour) ioc)).result = true := by
  rw [own_record, show (quiet py self behaviour).cached ioc = (behaviour ioc).cached from rfl]
  cases stored : (behaviour ioc).cached with
  | some record =>
    rw [Harmless, stored] at harmless
    exact ⟨rfl, harmless⟩
  | none =>
    obtain ⟨record, looked_up, dumpable⟩ := (recorded_iff stored).mpr harmless
    obtain rfl := lookup_one_quiet looked_up
    exact ⟨looked_up, dumpable⟩
end

/-! ### The records of an enrichment -/

section
variable {ε α β : Type}

private theorem mapM_eq_map {f : α → Except ε β} {g : α → β} {items : List α} (each : ∀ item ∈ items, f item = .ok (g item)) :
    items.mapM f = .ok (items.map g) := by
  induction items with
  | nil => rfl
  | cons item rest ih =>
    rw [List.mapM_cons, each item (by simp), ih (fun other inside => each other (List.mem_cons_of_mem _ inside))]
    rfl

private theorem mapM_each {f : α → Except ε β} {items : List α} {results : List β} (done : items.mapM f = .ok results) :
    ∀ item ∈ items, ∃ result, f item = .ok result := by
  induction items generalizing results with
  | nil => intro item inside; cases inside
  | cons first rest ih =>
    rw [List.mapM_cons] at done
    obtain ⟨result, head, done⟩ := bind_ok.mp done
    obtain ⟨results', tail, -⟩ := bind_ok.mp done
    intro item inside
    rcases List.mem_cons.mp inside with rfl | later
    · exact ⟨result, head⟩
    · exact ih tail item later
end

/-- The record the quiet provider has for an indicator. -/
def quiet_record (provider : HTTPProvider) (ioc : IOC) : LookupRecord :=
  (provider.cached ioc).getD (Enrichment.lookup_one provider ioc)

private theorem looked_up_then_cached (provider : HTTPProvider) (handled : List IOC) :
    (handled.filter (fun ioc => (provider.cached ioc).isNone)).map
        (fun ioc => (ioc_key ioc, Enrichment.lookup_one provider ioc)) ++
        handled.filterMap (fun ioc => (provider.cached ioc).map (fun record => (ioc_key ioc, record))) =
      (handled.filter (fun ioc => (provider.cached ioc).isNone) ++
        handled.filter (fun ioc => !(provider.cached ioc).isNone)).map
      (fun ioc => (ioc_key ioc, quiet_record provider ioc)) := by
  rw [List.map_append]
  congr 1
  · apply List.map_congr_left
    intro ioc inside
    rw [quiet_record, Option.isNone_iff_eq_none.mp (List.mem_filter.mp inside).2, Option.getD_none]
  · induction handled with
    | nil => rfl
    | cons ioc rest ih =>
      rw [List.filterMap_cons, ih]
      cases stored : provider.cached ioc with
      | none => rw [Option.map_none, List.filter_cons_of_neg (by simp [stored])]
      | some record =>
        rw [Option.map_some, List.filter_cons_of_pos (by simp [stored]), List.map_cons, quiet_record, stored,
          Option.getD_some]

/-- Indicators with distinct keys have one record each. -/
private theorem records_perm {provider : HTTPProvider} {handled : List IOC} (distinct : Distinct handled) :
    (records provider handled).rows.Perm (handled.map (fun ioc => (ioc_key ioc, quiet_record provider ioc))) := by
  have split := List.filter_append_perm (fun ioc => (provider.cached ioc).isNone) handled
  have keys : ((handled.filter (fun ioc => (provider.cached ioc).isNone) ++
      handled.filter (fun ioc => !(provider.cached ioc).isNone)).map ioc_key).Nodup :=
    ((split.map ioc_key).nodup_iff).mpr distinct
  rw [records, looked_up_then_cached, Table.rows_foldl_put]
  · exact split.map _
  · rw [Table.rows_empty, List.nil_append, List.map_map]
    exact keys

section
variable {py : Conversions} {self : BaseHTTPThreatIntelProvider} {behaviour : IOC → Behaviour} {iocs : List IOC}

private theorem hits_length (handled : List IOC) :
    (handled.filterMap (fun ioc => (behaviour ioc).cached.map (fun record => (ioc_key ioc, record)))).length =
      (handled.filter (fun ioc => (behaviour ioc).cached.isSome)).length := by
  induction handled with
  | nil => rfl
  | cons ioc rest ih =>
    rw [List.filterMap_cons]
    cases stored : (behaviour ioc).cached with
    | none => rw [Option.map_none, List.filter_cons_of_neg (by simp [stored]), ih]
    | some record => rw [Option.map_some, List.filter_cons_of_pos (by simp [stored]), List.length_cons, List.length_cons, ih]

private theorem dumped_results (provider : HTTPProvider) (handled : List IOC) :
    (((records provider handled).rows.map (fun entry => (entry.1, entry.2.model_dump))).foldl Table.put
        Table.empty : Results).rows =
      (records provider handled).rows.map (fun entry => (entry.1, entry.2.model_dump)) := by
  apply Table.rows_foldl_put
  rw [Table.rows_empty, List.nil_append, List.map_map]
  exact (records provider handled).unique

/-- What the quiet provider answers when no indicator is of a handled type. -/
private theorem quiet_skipped (enabled : self.enabled = true)
    (none_handled : iocs.filter (fun ioc => self.handled_types.contains ioc.type) = []) :
    (quiet py self behaviour).enrich iocs =
      { provider := self.name, status := .SKIPPED, notes := [self.name ++ ": no indicators of a handled type"] } := by
  have handled_quiet : iocs.filter (fun ioc => (quiet py self behaviour).handled_types.contains ioc.type) = [] :=
    none_handled
  rw [HTTPProvider.enrich]
  simp only [handled_quiet, show (quiet py self behaviour).enabled = true from enabled]
  rfl

/-- What the quiet provider answers, put together as the enrichment does. -/
private theorem quiet_enrich (enabled : self.enabled = true) {handled : List IOC}
    (handled_eq : iocs.filter (fun ioc => self.handled_types.contains ioc.type) = handled) (some_handled : handled ≠ []) :
    (quiet py self behaviour).enrich iocs =
      { provider := self.name
        status := aggregate_status ((records (quiet py self behaviour) handled).rows.map Prod.snd)
        results := ((records (quiet py self behaviour) handled).rows.map
          (fun entry => (entry.1, entry.2.model_dump))).foldl Table.put Table.empty
        notes := (if (handled.filterMap (fun ioc => (behaviour ioc).cached.map (fun record => (ioc_key ioc, record)))).isEmpty
            then [] else [self.name ++ ": " ++ toString (handled.filterMap (fun ioc =>
              (behaviour ioc).cached.map (fun record => (ioc_key ioc, record)))).length ++ " served from cache"]) ++
          build_notes self.name ((records (quiet py self behaviour) handled).rows.map Prod.snd) } := by
  have hits := @hits_length behaviour handled
  have handled_quiet : iocs.filter (fun ioc => (quiet py self behaviour).handled_types.contains ioc.type) = handled :=
    handled_eq
  have enabled_quiet : (quiet py self behaviour).enabled = true := enabled
  rw [HTTPProvider.enrich]
  simp only [handled_quiet, enabled_quiet, Bool.not_true, Bool.false_eq_true, ↓reduceIte, List.isEmpty_iff, some_handled]
  rw [ProviderEnrichment.mk.injEq]
  refine ⟨rfl, rfl, ?_, ?_⟩
  · apply Table.ext_rows
    rw [dumped_results]
    show List.filterMap (some ∘ fun entry : String × LookupRecord => (entry.1, entry.2.model_dump)) _ = _
    rw [List.filterMap_eq_map]
  · rw [show (quiet py self behaviour).name = self.name from rfl, hits,
      show (fun ioc => ((quiet py self behaviour).cached ioc).isSome) = fun ioc => (behaviour ioc).cached.isSome from rfl]
    congr 1
    rw [← hits]
    simp only [List.length_eq_zero_iff]

/-- One lookup of the comprehension. -/
private def keyed (py : Conversions) (self : BaseHTTPThreatIntelProvider) (behaviour : IOC → Behaviour) (ioc : IOC) :
    Except Exn (String × LookupRecord) := do
  let record ← lookup_one py self ioc (behaviour ioc)
  return (ioc_key ioc, record)

private theorem keyed_ok {ioc : IOC} {entry : String × LookupRecord} (done : keyed py self behaviour ioc = .ok entry) :
    lookup_one py self ioc (behaviour ioc) = .ok (Enrichment.lookup_one (quiet py self behaviour) ioc) ∧
      entry = (ioc_key ioc, Enrichment.lookup_one (quiet py self behaviour) ioc) := by
  obtain ⟨record, looked_up, made⟩ := bind_ok.mp done
  obtain rfl := lookup_one_quiet looked_up
  exact ⟨looked_up, (Except.ok.inj made).symm⟩

private theorem keyed_quiet {ioc : IOC} {record : LookupRecord}
    (looked_up : lookup_one py self ioc (behaviour ioc) = .ok record) :
    keyed py self behaviour ioc = .ok (ioc_key ioc, Enrichment.lookup_one (quiet py self behaviour) ioc) := by
  obtain rfl := lookup_one_quiet looked_up
  rw [keyed, looked_up]; rfl

/-- One payload of the comprehension. -/
private def dumped (py : Conversions) (entry : String × LookupRecord) : Except Exn (String × JsonObject) := do
  let payload ← model_dump py entry.2
  return (entry.1, payload)

private theorem dumped_ok {entry : String × LookupRecord} {result : String × JsonObject} :
    dumped py entry = .ok result ↔ py.dumpable entry.2.result = true ∧ result = (entry.1, entry.2.model_dump) := by
  rw [dumped, model_dump]
  cases py.dumpable entry.2.result with
  | false => exact iff_of_false (fun none => by cases none) (fun both => Bool.false_ne_true both.1)
  | true => exact ⟨fun made => ⟨rfl, (Except.ok.inj made).symm⟩, fun both => congrArg Except.ok both.2.symm⟩

/-- An enrichment returns exactly when every lookup gives a record and every record can be
    dumped, and it then returns what the quiet provider does. -/
private theorem enrich_quiet (enabled : self.enabled = true) {handled : List IOC}
    (handled_eq : iocs.filter (fun ioc => self.handled_types.contains ioc.type) = handled) (result : ProviderEnrichment) :
    enrich py self behaviour iocs = .ok result ↔
      (∀ ioc ∈ handled, (behaviour ioc).cached = none → ∃ record, lookup_one py self ioc (behaviour ioc) = .ok record) ∧
      (∀ entry ∈ (records (quiet py self behaviour) handled).rows, py.dumpable entry.2.result = true) ∧
      result = (quiet py self behaviour).enrich iocs := by
  rw [enrich]
  simp only [enabled, handled_eq, Bool.not_true, Bool.false_eq_true, ↓reduceIte]
  by_cases some_handled : handled = []
  · subst some_handled
    rw [quiet_skipped enabled handled_eq]
    constructor
    · intro returned
      cases returned
      exact ⟨fun _ inside => absurd inside List.not_mem_nil, fun _ inside => absurd inside List.not_mem_nil, rfl⟩
    · rintro ⟨-, -, rfl⟩; rfl
  · rw [if_neg (by simpa using some_handled), quiet_enrich enabled handled_eq some_handled]
    constructor
    · intro returned
      obtain ⟨looked_up, mapped, returned⟩ := bind_ok.mp returned
      obtain ⟨results, written, returned⟩ := bind_ok.mp returned
      have each := @mapM_each _ _ _ (keyed py self behaviour) _ _ mapped
      have quietly : looked_up = (handled.filter (fun ioc => (behaviour ioc).cached.isNone)).map
          (fun ioc => (ioc_key ioc, Enrichment.lookup_one (quiet py self behaviour) ioc)) := by
        refine Except.ok.inj (mapped.symm.trans (@mapM_eq_map _ _ _ (keyed py self behaviour) _ _ (fun ioc inside => ?_)))
        obtain ⟨entry, done⟩ := each ioc inside
        rw [done, (keyed_ok done).2]
      subst quietly
      have payloads := @mapM_each _ _ _ (dumped py) _ _ written
      have written' : results = (records (quiet py self behaviour) handled).rows.map
          (fun entry => (entry.1, entry.2.model_dump)) := by
        refine Except.ok.inj (written.symm.trans (@mapM_eq_map _ _ _ (dumped py) _ _ (fun entry inside => ?_)))
        obtain ⟨payload, done⟩ := payloads entry inside
        rw [done, (dumped_ok.mp done).2]
      subst written'
      refine ⟨fun ioc inside uncached => ?_, fun entry inside => ?_, (Except.ok.inj returned).symm⟩
      · obtain ⟨entry, done⟩ := each ioc (List.mem_filter.mpr ⟨inside, by rw [uncached]; rfl⟩)
        exact ⟨_, (keyed_ok done).1⟩
      · obtain ⟨payload, done⟩ := payloads entry inside
        exact (dumped_ok.mp done).1
    · rintro ⟨looked_up, dumpable, rfl⟩
      refine bind_ok.mpr ⟨_, @mapM_eq_map _ _ _ (keyed py self behaviour)
        (fun ioc => (ioc_key ioc, Enrichment.lookup_one (quiet py self behaviour) ioc)) _ (fun ioc inside => ?_), ?_⟩
      · obtain ⟨member, uncached⟩ := List.mem_filter.mp inside
        obtain ⟨record, done⟩ := looked_up ioc member (Option.isNone_iff_eq_none.mp uncached)
        exact keyed_quiet done
      · exact bind_ok.mpr ⟨_, @mapM_eq_map _ _ _ (dumped py) (fun entry => (entry.1, entry.2.model_dump)) _
          (fun entry inside => dumped_ok.mpr ⟨dumpable entry inside, rfl⟩), rfl⟩

/-- An enabled provider returns, with one record for each indicator of a handled type and each made of
    what that indicator met, exactly when all of them are harmless. -/
theorem enrich_returns_iff (enabled : self.enabled = true) (distinct : Distinct iocs) :
    (∃ result, enrich py self behaviour iocs = .ok result ∧ Reports py self behaviour iocs result) ↔
      ∀ ioc ∈ iocs, self.handled_types.contains ioc.type = true → Harmless py self ioc (behaviour ioc) := by
  have distinct_handled : Distinct (iocs.filter (fun ioc => self.handled_types.contains ioc.type)) :=
    distinct.sublist (List.filter_sublist.map ioc_key)
  have perm := @records_perm (quiet py self behaviour) _ distinct_handled
  constructor
  · rintro ⟨result, returned, -⟩ ioc inside handled
    obtain ⟨looked_up, dumpable, -⟩ := (enrich_quiet enabled rfl result).mp returned
    have member : ioc ∈ iocs.filter (fun ioc => self.handled_types.contains ioc.type) := List.mem_filter.mpr ⟨inside, handled⟩
    have entry := dumpable _ (perm.mem_iff.mpr (List.mem_map_of_mem member))
    dsimp only [quiet_record] at entry
    cases stored : (behaviour ioc).cached with
    | some record =>
      rw [show (quiet py self behaviour).cached ioc = some record from stored] at entry
      rw [Harmless, stored]
      exact entry
    | none =>
      rw [show (quiet py self behaviour).cached ioc = none from stored] at entry
      obtain ⟨record, done⟩ := looked_up ioc member stored
      have same := lookup_one_quiet done
      exact (recorded_iff stored).mp ⟨record, done, same ▸ entry⟩
  · intro harmless
    have quietly : ∀ ioc ∈ iocs.filter (fun ioc => self.handled_types.contains ioc.type),
        Harmless py self ioc (behaviour ioc) := by
      intro ioc inside
      obtain ⟨member, handled⟩ := List.mem_filter.mp inside
      exact harmless ioc member handled
    refine ⟨_, (enrich_quiet enabled rfl _).mpr ⟨fun ioc inside uncached => ?_, fun entry inside => ?_, rfl⟩, ?_, ?_⟩
    · obtain ⟨record, done, -⟩ := (recorded_iff uncached).mpr (quietly ioc inside)
      exact ⟨record, done⟩
    · obtain ⟨ioc, member, rfl⟩ := List.mem_map.mp (perm.mem_iff.mp inside)
      exact (own_record_quiet (quietly ioc member)).2
    · by_cases some_handled : iocs.filter (fun ioc => self.handled_types.contains ioc.type) = []
      · rw [quiet_skipped enabled some_handled, some_handled]
        exact List.Perm.refl _
      · rw [quiet_enrich enabled rfl some_handled, dumped_results, List.map_map]
        refine (perm.map (fun entry => entry.1)).trans ?_
        rw [List.map_map]
        exact List.Perm.refl _
    · intro ioc inside handled
      have member : ioc ∈ iocs.filter (fun ioc => self.handled_types.contains ioc.type) :=
        List.mem_filter.mpr ⟨inside, handled⟩
      refine ⟨_, (own_record_quiet (harmless ioc inside handled)).1, ?_⟩
      rw [quiet_enrich enabled rfl (List.ne_nil_of_mem member)]
      have row : (ioc_key ioc, (quiet_record (quiet py self behaviour) ioc).model_dump) ∈
          (((records (quiet py self behaviour) (iocs.filter (fun ioc => self.handled_types.contains ioc.type))).rows.map
            (fun entry => (entry.1, entry.2.model_dump))).foldl Table.put Table.empty : Results).rows := by
        rw [dumped_results]
        exact List.mem_map.mpr ⟨_, perm.mem_iff.mpr (List.mem_map_of_mem member), rfl⟩
      exact Table.get_of_mem row
end

/-! ### Two addresses at VirusTotal -/

/-- Conversions for ASCII digits and floats below one. -/
def ascii_conversions : Conversions where
  digit c := if c.isDigit then some (c.toNat - 48) else none
  truncated _ := 0
  str
    | .str text => .ok text
    | _ => .ok ""
  base64url text := text
  dumpable _ := true
  dumpable_nil := rfl

def known_address : IOC := { type := .IPV4, value := "203.0.113.7" }
def other_address : IOC := { type := .IPV4, value := "198.51.100.9" }

/-- A report with a number of engines that call the indicator malicious. -/
def reported (malicious : Json) : Json :=
  .obj [("data", .obj [("attributes", .obj [("last_analysis_stats", .obj [("malicious", malicious)])])])]

private theorem no_jitter : ∀ _ : Nat, (0 : ℚ) ≤ 1 := fun _ => zero_le_one

/-- The other address gets one answer to every attempt, and the known one is reported with 57. -/
def at_virustotal (other : Attempt) (ioc : IOC) : Behaviour where
  attempts _ := if ioc = other_address then other else .response { status_code := 200, body := .ok (reported (.int 57)) }
  draws _ := 1
  drawn := no_jitter

/-- While the other address cannot be reached, each still has its own record. -/
theorem unreachable_address_isolated :
    ∃ result, enrich ascii_conversions (VirusTotalProvider ascii_conversions) (at_virustotal (.raised .ConnectError))
        [known_address, other_address] = .ok result ∧
      Reports ascii_conversions (VirusTotalProvider ascii_conversions) (at_virustotal (.raised .ConnectError))
        [known_address, other_address] result := by
  refine (enrich_returns_iff rfl (by decide)).mpr (fun ioc inside _ => ?_)
  rcases List.mem_pair.mp inside with rfl | rfl
  · exact fun _ => ⟨fun k before => absurd before (Nat.not_lt_zero k), .inr rfl⟩
  · exact fun _ => ⟨fun _ _ => trivial, show Exn.ConnectError ∈ HTTP_ERRORS by decide⟩

/-- A report of infinitely many engines for the other address ends the enrichment. -/
theorem infinite_count_ends_enrichment :
    ¬ ∀ (py : Conversions) (self : BaseHTTPThreatIntelProvider) (behaviour : IOC → Behaviour) (iocs : List IOC),
      self.enabled = true → Distinct iocs →
      ∃ result, enrich py self behaviour iocs = .ok result ∧ Reports py self behaviour iocs result := by
  intro always
  obtain ⟨result, returned, -⟩ := always ascii_conversions (VirusTotalProvider ascii_conversions)
    (at_virustotal (.response { status_code := 200, body := .ok (reported (.float "inf")) }))
    [known_address, other_address] rfl (by decide)
  cases returned

end SocTriage.ThreatIntel
