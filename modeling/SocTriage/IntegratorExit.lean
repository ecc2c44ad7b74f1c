import SocTriage.IntegratorRun

/-!
When an invocation of the integrator ends with an exit code and accounts for its alert.
The exceptions that nothing catches come from `json.loads` (an integer of too many digits,
too deep nesting), from `int` of an infinite level, from `str` of a deeply nested id or
group, from the port of the configured URL, and from listing the spool.
-/
namespace SocTriage.IntegratorExit
open IntegratorRun
open Integrator (Spool Invocation IntegratorConfig SenderResponse deliver deliver_from)

/-! ### The condition -/

/-- A float that `int` does not convert and does not refuse with a `ValueError`. -/
def Infinite (value : Json) : Prop := value = .float "inf" ∨ value = .float "-inf"

/-- The `id` of a mapping of the alert can be shown. -/
def Named (py : Interpreter) (key : String) (alert : JsonObject) : Prop :=
  ∀ fields, Json.lookup key alert = some (.obj fields) → Shown py ((Json.lookup "id" fields).getD (.str ""))

/-- The id of the rule is one of the excluded ones. -/
def ExcludedId (py : Interpreter) (config : IntegratorConfig) (rule : JsonObject) : Prop :=
  Text.strip (py.str ((Json.lookup "id" rule).getD (.str ""))) ≠ "" ∧
    config.excluded_rule_ids.contains (Text.strip (py.str ((Json.lookup "id" rule).getD (.str ""))))

/-- The groups of a rule that is filtered by neither its level nor its id can be shown. -/
def Grouped (py : Interpreter) (config : IntegratorConfig) (alert : JsonObject) : Prop :=
  ∀ rule level groups, Json.lookup "rule" alert = some (.obj rule) →
    int py ((Json.lookup "level" rule).getD .null) = .ok level → config.min_rule_level ≤ level →
    ¬ ExcludedId py config rule → Json.lookup "groups" rule = some (.arr groups) → ∀ group ∈ groups, Shown py group

/-- No filter holds the alert back. -/
def Passes (py : Interpreter) (config : IntegratorConfig) (alert : JsonObject) : Prop :=
  ∃ rule level, Json.lookup "rule" alert = some (.obj rule) ∧ int py ((Json.lookup "level" rule).getD .null) = .ok level ∧
    config.min_rule_level ≤ level ∧ ¬ ExcludedId py config rule ∧
    ∀ groups, Json.lookup "groups" rule = some (.arr groups) → ∀ group ∈ groups, py.str group ∉ config.excluded_groups

/-- Every attempt ends in a transient failure. -/
def Postponed (config : IntegratorConfig) (sender : Nat → SenderResponse) : Prop :=
  ∀ attempt, 1 ≤ attempt → attempt ≤ config.max_attempts → (sender attempt).transient = true

/-- The configured URL has a port that `urlparse` reads, if it has one. -/
def PortValid (py : Interpreter) (url : String) : Prop :=
  ∀ parsed, UrlSplit.urlsplit py.unicode url.toList = some parsed → parsed.hostname py.unicode ≠ [] → parsed.port ≠ none

/-- An enqueue gets through: the directory is there, both listings work, and so does the write. -/
def Writable (disk : Disk) : Prop :=
  disk.makes_dir = true ∧ disk.lists 3 = true ∧ disk.lists 4 = true ∧ disk.writes = true

/-- An alert that is read raises nothing on its way, and is written if every attempt ends in a transient failure. -/
structure Tame (py : Interpreter) (disk : Disk) (config : Config) (invocation : Invocation) (alert : JsonObject) : Prop where
  finite : ∀ rule, Json.lookup "rule" alert = some (.obj rule) → ¬ Infinite ((Json.lookup "level" rule).getD .null)
  rule_named : Named py "rule" alert
  agent_named : Named py "agent" alert
  grouped : Grouped py config.toIntegratorConfig alert
  port : Passes py config.toIntegratorConfig alert → PortValid py config.ingest_url
  buffered : Passes py config.toIntegratorConfig alert → Postponed config.toIntegratorConfig invocation.sender →
    Writable disk ∧ disk.lists 5 = true

/-- The listings of the flush work, `json.loads` raises at most a `JSONDecodeError`, and an alert that is read is tame. -/
structure Sound (py : Interpreter) (disk : Disk) (config : Config) (file : AlertFile) (invocation : Invocation) : Prop where
  flushed : disk.lists 0 = true ∧ disk.lists 1 = true ∧ disk.lists 2 = true
  loaded : ∀ raw text, file = .content raw → raw.size ≤ MAX_ALERT_BYTES → String.fromUTF8? raw = some text →
    JsonText.loads py.decoder text ≠ .error .digits ∧ JsonText.loads py.decoder text ≠ .error .recursion
  tame : ∀ alert raw, read_alert_file py file = .ok (.ok (alert, raw)) → Tame py disk config invocation alert

/-- An alert is filtered with a reason, delivered, buffered or rejected. -/
def Settled (report : Report) : Prop :=
  (∃ reason, report = .filtered reason) ∨ report = .forwarded ∨ report = .buffered ∨ report = .rejected

/-- The invocation returns an exit code, and an alert that parses as an object with a rule is settled. -/
def Accounted (py : Interpreter) (disk : Disk) (config : Config) (file : AlertFile) (number : Nat) (self : Invocation)
    (spool : Spool) : Prop :=
  ∃ code report left, run py disk (.ok config) (some file) number self spool = .ok (code, report, left) ∧
    ∀ alert raw rule, read_alert_file py file = .ok (.ok (alert, raw)) → Json.lookup "rule" alert = some rule → Settled report

/-! ### What raises -/

private theorem logged_id_ok {py : Interpreter} {key : String} {alert : JsonObject} :
    (∃ id, logged_id py key alert = .ok id) ↔ Named py key alert := by
  unfold logged_id Named
  constructor
  · rintro ⟨id, logged⟩ fields found
    rw [found] at logged
    exact (str_ok.mp logged).1
  · intro named
    split
    · rename_i fields found
      exact ⟨_, str_ok.mpr ⟨named fields found, rfl⟩⟩
    · exact ⟨"", rfl⟩

/-- `int` raises what the filter does not catch exactly for an infinite float. -/
private theorem int_escapes {py : Interpreter} {value : Json} {raised : Raised} (refused : int py value = .error raised) :
    (raised = .type_error ∨ raised = .value_error) ∧ ¬ Infinite value ∨ raised = .overflow_error ∧ Infinite value := by
  unfold Infinite
  cases value with
  | float repr =>
    rw [int] at refused
    split at refused
    · rename_i infinite
      cases refused
      exact .inr ⟨rfl, by simpa using infinite⟩
    · rename_i finite
      split at refused
      · cases refused
        exact .inl ⟨.inr rfl, by simpa using finite⟩
      · cases refused
  | str s =>
    rw [int] at refused
    split at refused
    · cases refused
      exact .inl ⟨.inr rfl, by simp⟩
    · cases refused
  | null | arr | obj =>
    cases refused
    exact .inl ⟨.inl rfl, by simp⟩
  | bool | int => cases refused

private theorem int_finite {py : Interpreter} {value : Json} {n : Int} (converted : int py value = .ok n) :
    ¬ Infinite value := by
  rintro (rfl | rfl) <;> cases converted

private theorem sanitize_url_ok {py : Interpreter} {url : String} :
    (∃ text, sanitize_url py url = .ok text) ↔ PortValid py url := by
  unfold sanitize_url PortValid
  cases parts : UrlSplit.urlsplit py.unicode url.toList with
  | none => exact iff_of_true ⟨_, rfl⟩ (fun parsed none => by cases none)
  | some parsed =>
    dsimp only
    by_cases nameless : parsed.hostname py.unicode = []
    · rw [if_pos nameless]
      refine iff_of_true ⟨_, rfl⟩ ?_
      intro other same named
      cases same
      exact absurd nameless named
    · rw [if_neg nameless]
      cases port : parsed.port with
      | none =>
        refine iff_of_false (fun ⟨_, nothing⟩ => by cases nothing) ?_
        intro valid
        exact valid parsed rfl nameless port
      | some port' =>
        refine iff_of_true ⟨_, rfl⟩ ?_
        intro other same _
        cases same
        rw [port]
        exact Option.some_ne_none port'

private theorem entries_ok {disk : Disk} {listing : Nat} {spool : Spool} :
    (∃ listed, entries disk listing spool = .ok listed) ↔ disk.lists listing = true := by
  unfold entries
  by_cases lists : disk.lists listing = true
  · rw [if_pos lists]
    exact iff_of_true ⟨_, rfl⟩ lists
  · rw [if_neg lists]
    exact iff_of_false (fun ⟨_, nothing⟩ => by cases nothing) lists

private theorem prune_ok {disk : Disk} {listing : Nat} {config : IntegratorConfig} {now : Int} {spool : Spool} :
    (∃ pruned, prune disk listing config now spool = .ok pruned) ↔ disk.lists listing = true := by
  unfold prune
  rw [← @entries_ok disk listing spool]
  constructor
  · rintro ⟨pruned, done⟩
    obtain ⟨listed, found, _⟩ := bind_ok.mp done
    exact ⟨listed, found⟩
  · rintro ⟨listed, found⟩
    exact ⟨_, bind_ok.mpr ⟨listed, found, rfl⟩⟩

private theorem flush_spool_ok {disk : Disk} {config : IntegratorConfig} {now : Int} {senders : Nat → Nat → SenderResponse}
    {spool : Spool} : (∃ flushed, flush_spool disk config now senders spool = .ok flushed) ↔
      disk.lists 0 = true ∧ disk.lists 1 = true ∧ disk.lists 2 = true := by
  unfold flush_spool
  constructor
  · rintro ⟨flushed, done⟩
    obtain ⟨pruned, first, done⟩ := bind_ok.mp done
    obtain ⟨listed, second, done⟩ := bind_ok.mp done
    obtain ⟨pending, third, _⟩ := bind_ok.mp done
    exact ⟨prune_ok.mp ⟨pruned, first⟩, entries_ok.mp ⟨listed, second⟩, entries_ok.mp ⟨pending, third⟩⟩
  · rintro ⟨first, second, third⟩
    obtain ⟨pruned, first⟩ := prune_ok.mpr first
    obtain ⟨listed, second⟩ := entries_ok.mpr second
    obtain ⟨pending, third⟩ := entries_ok.mpr third
    exact ⟨_, bind_ok.mpr ⟨pruned, first, bind_ok.mpr ⟨listed, second, bind_ok.mpr ⟨pending, third, rfl⟩⟩⟩⟩

private theorem enqueue_writes {disk : Disk} {config : IntegratorConfig} {number : Nat} {self : Invocation} {raw : String}
    {spool : Spool} : (enqueue disk config number self raw spool).1 = true ↔ Writable disk := by
  unfold enqueue Writable
  cases made : disk.makes_dir with
  | false => simp
  | true =>
    rw [if_neg (by simp)]
    cases pruned : prune disk 3 config self.enqueue_now spool with
    | error raised =>
      refine iff_of_false Bool.false_ne_true ?_
      rintro ⟨_, lists, _⟩
      obtain ⟨_, done⟩ := (@prune_ok disk 3 config self.enqueue_now spool).mpr lists
      rw [pruned] at done
      cases done
    | ok left =>
      have third := prune_ok.mp ⟨left, pruned⟩
      dsimp only
      cases listed : entries disk 4 left with
      | error raised =>
        refine iff_of_false Bool.false_ne_true ?_
        rintro ⟨_, _, lists, _⟩
        obtain ⟨_, done⟩ := (@entries_ok disk 4 left).mpr lists
        rw [listed] at done
        cases done
      | ok files =>
        have fourth := entries_ok.mp ⟨files, listed⟩
        dsimp only
        cases written : disk.writes <;> simp [third, fourth]

/-- The filter on an alert with a rule raises nothing exactly for a level that is not infinite and groups, where they are
    looked at, that can be shown. -/
private theorem filter_rule {py : Interpreter} {config : IntegratorConfig} {alert rule : JsonObject}
    (found : Json.lookup "rule" alert = some (.obj rule)) (named : Shown py ((Json.lookup "id" rule).getD (.str ""))) :
    (∃ answer, should_forward py alert config = .ok answer) ↔
      ¬ Infinite ((Json.lookup "level" rule).getD .null) ∧
        ∀ level groups, int py ((Json.lookup "level" rule).getD .null) = .ok level → config.min_rule_level ≤ level →
          ¬ ExcludedId py config rule → Json.lookup "groups" rule = some (.arr groups) →
            ∀ group ∈ groups, Shown py group := by
  have id_shown := (@str_ok _ _ (py.str ((Json.lookup "id" rule).getD (.str "")))).mpr ⟨named, rfl⟩
  unfold should_forward
  rw [found]
  dsimp only
  cases converted : int py ((Json.lookup "level" rule).getD .null) with
  | error raised =>
    rcases int_escapes converted with ⟨rfl | rfl, finite⟩ | ⟨rfl, infinite⟩
    · exact iff_of_true ⟨_, rfl⟩ ⟨finite, fun level groups nothing => by cases nothing⟩
    · exact iff_of_true ⟨_, rfl⟩ ⟨finite, fun level groups nothing => by cases nothing⟩
    · exact iff_of_false (fun ⟨_, nothing⟩ => by cases nothing) (fun both => both.1 infinite)
  | ok level =>
    have finite := int_finite converted
    dsimp only
    by_cases low : level < config.min_rule_level
    · rw [if_pos low]
      refine iff_of_true ⟨_, rfl⟩ ⟨finite, fun level' groups same high => ?_⟩
      cases same
      exact absurd low (not_lt.mpr high)
    rw [if_neg low, id_shown]
    simp only [bind, Except.bind]
    by_cases excluded : Text.strip (py.str ((Json.lookup "id" rule).getD (.str ""))) ≠ "" ∧
        config.excluded_rule_ids.contains (Text.strip (py.str ((Json.lookup "id" rule).getD (.str ""))))
    · rw [if_pos excluded]
      exact iff_of_true ⟨_, rfl⟩ ⟨finite, fun level' groups _ _ kept => absurd excluded kept⟩
    rw [if_neg excluded]
    split
    · rename_i groups listed
      constructor
      · rintro ⟨answer, done⟩
        refine ⟨finite, fun level' groups' _ _ _ same => ?_⟩
        rw [listed] at same
        cases same
        cases names : group_names py groups with
        | error raised =>
          rw [names] at done
          cases done
        | ok names' => exact (group_names_ok.mp names).1
      · rintro ⟨_, shown⟩
        have all := shown level groups rfl (not_lt.mp low) excluded listed
        rw [group_names_ok.mpr ⟨all, rfl⟩]
        dsimp only
        split
        · exact ⟨_, rfl⟩
        · exact ⟨_, rfl⟩
    · rename_i other
      exact iff_of_true ⟨_, rfl⟩ ⟨finite, fun level' groups _ _ _ listed => absurd listed (other groups)⟩

/-- The filter raises nothing exactly for a level that is not infinite and groups that can be shown. -/
private theorem should_forward_ok {py : Interpreter} {config : IntegratorConfig} {alert : JsonObject}
    (named : Named py "rule" alert) : (∃ answer, should_forward py alert config = .ok answer) ↔
      (∀ rule, Json.lookup "rule" alert = some (.obj rule) → ¬ Infinite ((Json.lookup "level" rule).getD .null)) ∧
        Grouped py config alert := by
  by_cases mapping : ∃ rule, Json.lookup "rule" alert = some (.obj rule)
  · obtain ⟨rule, found⟩ := mapping
    have only : ∀ other, Json.lookup "rule" alert = some (.obj other) → rule = other := by
      intro other same
      rw [found] at same
      cases same
      rfl
    rw [filter_rule found (named rule found)]
    constructor
    · rintro ⟨finite, shown⟩
      refine ⟨fun other same => only other same ▸ finite, fun other level groups same => ?_⟩
      obtain rfl := only other same
      exact shown level groups
    · rintro ⟨finite, grouped⟩
      exact ⟨finite rule found, fun level groups => grouped rule level groups found⟩
  · have other : ∀ rule, Json.lookup "rule" alert ≠ some (.obj rule) := fun rule found => mapping ⟨rule, found⟩
    refine iff_of_true ⟨(false, "missing_rule"), ?_⟩ ⟨fun rule found => absurd found (other rule), ?_⟩
    · unfold should_forward
      split
      · rename_i rule found
        exact absurd found (other rule)
      · rfl
    · intro rule level groups found
      exact absurd found (other rule)

/-- An alert is forwarded exactly when no filter holds it back. -/
private theorem forwards_iff {py : Interpreter} {config : IntegratorConfig} {alert : JsonObject} {answer : Bool × String}
    (filtered : should_forward py alert config = .ok answer) : answer.1 = true ↔ Passes py config alert := by
  unfold should_forward at filtered
  split at filtered
  · rename_i rule found
    have only : ∀ other, Json.lookup "rule" alert = some (.obj other) → rule = other := by
      intro other same
      rw [found] at same
      cases same
      rfl
    have unconverted : ∀ raised, int py ((Json.lookup "level" rule).getD .null) = .error raised →
      ¬ Passes py config alert := by
      rintro raised refused ⟨other, level, found', converted, _⟩
      obtain rfl := only other found'
      rw [refused] at converted
      cases converted
    split at filtered
    · rename_i refused
      cases filtered
      exact iff_of_false Bool.false_ne_true (unconverted _ refused)
    · rename_i refused
      cases filtered
      exact iff_of_false Bool.false_ne_true (unconverted _ refused)
    · cases filtered
    rename_i level converted
    split at filtered
    · rename_i low
      cases filtered
      refine iff_of_false Bool.false_ne_true ?_
      rintro ⟨other, level', found', converted', high, _⟩
      obtain rfl := only other found'
      rw [converted] at converted'
      cases converted'
      exact absurd low (not_lt.mpr high)
    rename_i high
    obtain ⟨rule_id, shown, filtered⟩ := bind_ok.mp filtered
    obtain ⟨_, rfl⟩ := str_ok.mp shown
    split at filtered
    · rename_i excluded
      cases filtered
      refine iff_of_false Bool.false_ne_true ?_
      rintro ⟨other, _, found', _, _, kept, _⟩
      obtain rfl := only other found'
      exact kept excluded
    rename_i kept
    split at filtered
    · rename_i groups listed
      obtain ⟨names, named, filtered⟩ := bind_ok.mp filtered
      obtain ⟨_, rfl⟩ := group_names_ok.mp named
      split at filtered
      · rename_i held
        cases filtered
        refine iff_of_false Bool.false_ne_true ?_
        rintro ⟨other, _, found', _, _, _, free⟩
        obtain rfl := only other found'
        obtain ⟨name, inside, held⟩ := List.any_eq_true.mp held
        obtain ⟨group, member, rfl⟩ := List.mem_map.mp inside
        exact free groups listed group member (List.contains_iff_mem.mp held)
      · rename_i free
        cases filtered
        refine iff_of_true rfl ⟨rule, level, found, converted, not_lt.mp high, kept, ?_⟩
        intro others listed' group inside held
        rw [listed] at listed'
        cases listed'
        exact free (List.any_eq_true.mpr ⟨_, List.mem_map_of_mem inside, List.contains_iff_mem.mpr held⟩)
    · rename_i other
      cases filtered
      exact iff_of_true rfl ⟨rule, level, found, converted, not_lt.mp high, kept,
        fun groups listed => absurd listed (other groups)⟩
  · rename_i other
    cases filtered
    exact iff_of_false Bool.false_ne_true (fun ⟨rule, _, found, _⟩ => other rule found)

private theorem deliver_from_retryable (config : IntegratorConfig) (sender : Nat → SenderResponse) (left attempt : Nat)
    (last : SenderResponse) : (deliver_from config sender left attempt last).2.retryable = true ↔
      ∀ n, attempt ≤ n → n < attempt + left → (sender n).transient = true := by
  induction left generalizing attempt last with
  | zero =>
    refine iff_of_true rfl ?_
    intro n low high
    omega
  | succ left ih =>
    rw [deliver_from]
    dsimp only
    by_cases ok : (sender attempt).ok = true
    · rw [if_pos ok]
      refine iff_of_false Bool.false_ne_true fun all => ?_
      have refused := Integrator.ok_of_transient (all attempt (le_refl attempt) (by omega))
      rw [ok] at refused
      cases refused
    rw [if_neg ok]
    by_cases transient : (sender attempt).transient = true
    · rw [if_neg (by simp [transient])]
      refine (ih (attempt + 1) (sender attempt)).trans ⟨fun later n low high => ?_, fun all n low high => ?_⟩
      · rcases Nat.eq_or_lt_of_le low with rfl | next
        · exact transient
        · exact later n next (by omega)
      · exact all n (by omega) (by omega)
    · rw [if_pos (by simpa using transient)]
      exact iff_of_false Bool.false_ne_true fun all => transient (all attempt (le_refl attempt) (by omega))

/-- A delivery is left for later exactly when every attempt ends in a transient failure. -/
private theorem retryable_iff {config : IntegratorConfig} {sender : Nat → SenderResponse} :
    (deliver config sender).2.retryable = true ↔ Postponed config sender := by
  unfold deliver Postponed
  rw [deliver_from_retryable]
  refine forall_congr' fun attempt => forall_congr' fun _ => ?_
  rw [Nat.add_comm, Nat.lt_succ_iff]

/-! ### The exit -/

/-- A forwarded alert is settled exactly when the port is valid and, where it has to be buffered, it is. -/
private theorem deliver_alert_settled {py : Interpreter} {disk : Disk} {config : Config} {number : Nat} {self : Invocation}
    {raw : String} {spool : Spool} :
    (∃ report left, deliver_alert py disk config number self raw spool = .ok (report, left) ∧ Settled report) ↔
      PortValid py config.ingest_url ∧ (Postponed config.toIntegratorConfig self.sender →
        Writable disk ∧ disk.lists 5 = true) := by
  rw [← retryable_iff]
  have endpoint := @sanitize_url_ok py config.ingest_url
  have ends := Integrator.deliver_delivered config.toIntegratorConfig self.sender
  unfold deliver_alert
  dsimp only
  generalize deliver config.toIntegratorConfig self.sender = delivery at *
  have final : ∀ report, Settled report → ((∃ report' left', ((sanitize_url py config.ingest_url >>= fun _ =>
      pure (report, spool)) : Except Raised (Report × Spool)) = .ok (report', left') ∧ Settled report') ↔
        PortValid py config.ingest_url) := by
    intro report settled
    rw [← endpoint]
    constructor
    · rintro ⟨report', left', done, _⟩
      obtain ⟨text, shown, _⟩ := bind_ok.mp done
      exact ⟨text, shown⟩
    · rintro ⟨text, shown⟩
      exact ⟨report, spool, bind_ok.mpr ⟨text, shown, rfl⟩, settled⟩
  cases ends with
  | answered _ _ delivered final_answer =>
    rw [if_pos delivered, final .forwarded (.inr (.inl rfl)), final_answer]
    simp
  | rejected _ _ _ undelivered final_answer =>
    rw [if_neg (by rw [undelivered]; exact Bool.false_ne_true), if_neg (by rw [final_answer]; exact Bool.false_ne_true),
      final .rejected (.inr (.inr (.inr rfl))), final_answer]
    simp
  | postponed _ undelivered retryable =>
    rw [if_neg (by rw [undelivered]; exact Bool.false_ne_true), if_pos retryable]
    have written := @enqueue_writes disk config.toIntegratorConfig number self raw spool
    have listings := @entries_ok disk 5 (enqueue disk config.toIntegratorConfig number self raw spool).2
    rcases put : enqueue disk config.toIntegratorConfig number self raw spool with ⟨buffered, left⟩
    rw [put] at written listings
    dsimp only at written listings ⊢
    constructor
    · rintro ⟨report, left', done, settled⟩
      obtain ⟨pending, listed, done⟩ := bind_ok.mp done
      obtain ⟨text, shown, done⟩ := bind_ok.mp done
      cases done
      refine ⟨endpoint.mp ⟨text, shown⟩, fun _ => ⟨written.mp ?_, listings.mp ⟨pending, listed⟩⟩⟩
      cases buffered with
      | true => rfl
      | false => rcases settled with ⟨_, same⟩ | same | same | same <;> cases same
    · rintro ⟨valid, buffers⟩
      obtain ⟨writable, lists⟩ := buffers retryable
      obtain ⟨pending, listed⟩ := listings.mpr lists
      obtain ⟨text, shown⟩ := endpoint.mpr valid
      refine ⟨.buffered, left, bind_ok.mpr ⟨pending, listed, bind_ok.mpr ⟨text, shown, ?_⟩⟩, .inr (.inr (.inl rfl))⟩
      rw [written.mpr writable]
      rfl

/-- An alert that is read is settled exactly when it is tame. -/
private theorem handle_alert_settled {py : Interpreter} {disk : Disk} {config : Config} {number : Nat} {self : Invocation}
    {alert : JsonObject} {raw : String} {spool : Spool} :
    (∃ report left, handle_alert py disk config number self alert raw spool = .ok (report, left) ∧ Settled report) ↔
      Tame py disk config self alert := by
  unfold handle_alert
  constructor
  · rintro ⟨report, left, done, settled⟩
    obtain ⟨⟨forward, reason⟩, filtered, done⟩ := bind_ok.mp done
    obtain ⟨rule_id, rule_logged, done⟩ := bind_ok.mp done
    obtain ⟨agent_id, agent_logged, done⟩ := bind_ok.mp done
    have rule_named := logged_id_ok.mp ⟨rule_id, rule_logged⟩
    have agent_named := logged_id_ok.mp ⟨agent_id, agent_logged⟩
    obtain ⟨finite, grouped⟩ := (should_forward_ok rule_named).mp ⟨_, filtered⟩
    cases forward with
    | false =>
      have stays : ¬ Passes py config.toIntegratorConfig alert := fun passes =>
        Bool.false_ne_true ((forwards_iff filtered).mpr passes)
      exact ⟨finite, rule_named, agent_named, grouped, fun passes => absurd passes stays, fun passes => absurd passes stays⟩
    | true =>
      obtain ⟨port, buffered⟩ := deliver_alert_settled.mp ⟨report, left, done, settled⟩
      exact ⟨finite, rule_named, agent_named, grouped, fun _ => port, fun _ => buffered⟩
  · intro tame
    obtain ⟨⟨forward, reason⟩, filtered⟩ := (should_forward_ok tame.rule_named).mpr ⟨tame.finite, tame.grouped⟩
    obtain ⟨rule_id, rule_logged⟩ := logged_id_ok.mpr tame.rule_named
    obtain ⟨agent_id, agent_logged⟩ := logged_id_ok.mpr tame.agent_named
    rw [filtered, rule_logged, agent_logged]
    cases forward with
    | false => exact ⟨.filtered reason, spool, rfl, .inl ⟨reason, rfl⟩⟩
    | true =>
      have passes := (forwards_iff filtered).mp rfl
      exact deliver_alert_settled.mpr ⟨tame.port passes, tame.buffered passes⟩

/-- An alert without a rule is filtered. -/
private theorem handle_alert_ruleless {py : Interpreter} {disk : Disk} {config : Config} {number : Nat} {self : Invocation}
    {alert : JsonObject} {raw : String} {spool : Spool} {done : Report × Spool} (ruleless : Json.lookup "rule" alert = none)
    (handled : handle_alert py disk config number self alert raw spool = .ok done) : Settled done.1 := by
  have filtered : should_forward py alert config.toIntegratorConfig = .ok (false, "missing_rule") := by
    unfold should_forward
    rw [ruleless]
  obtain ⟨answer, answered, handled⟩ := bind_ok.mp handled
  rw [filtered] at answered
  cases answered
  obtain ⟨_, _, handled⟩ := bind_ok.mp handled
  obtain ⟨_, _, handled⟩ := bind_ok.mp handled
  cases handled
  exact .inl ⟨"missing_rule", rfl⟩

/-- Reading the file raises exactly what `json.loads` raises besides a `JSONDecodeError`. -/
private theorem read_alert_file_ok {py : Interpreter} {file : AlertFile} :
    (∃ read, read_alert_file py file = .ok read) ↔
      ∀ raw text, file = .content raw → raw.size ≤ MAX_ALERT_BYTES → String.fromUTF8? raw = some text →
        JsonText.loads py.decoder text ≠ .error .digits ∧ JsonText.loads py.decoder text ≠ .error .recursion := by
  cases file with
  | unreadable error_type => exact iff_of_true ⟨_, rfl⟩ (fun raw text nothing => by cases nothing)
  | content raw =>
    unfold read_alert_file
    dsimp only
    by_cases large : MAX_ALERT_BYTES < raw.size
    · rw [if_pos large]
      refine iff_of_true ⟨_, rfl⟩ fun raw' text same small => ?_
      cases same
      exact absurd large (not_lt.mpr small)
    rw [if_neg large]
    cases decoded : String.fromUTF8? raw with
    | none =>
      refine iff_of_true ⟨_, rfl⟩ fun raw' text same _ found => ?_
      cases same
      rw [decoded] at found
      cases found
    | some text =>
      have only : ∀ raw' text', AlertFile.content raw = .content raw' → String.fromUTF8? raw' = some text' →
        text' = text := by
        intro raw' text' same found
        cases same
        rw [decoded] at found
        cases found
        rfl
      dsimp only
      cases loaded : JsonText.loads py.decoder text with
      | error raised =>
        cases raised with
        | decode =>
          refine iff_of_true ⟨_, rfl⟩ fun raw' text' same _ found => ?_
          rw [only raw' text' same found, loaded]
          exact ⟨(fun same => by cases same), (fun same => by cases same)⟩
        | digits =>
          refine iff_of_false (fun ⟨_, nothing⟩ => by cases nothing) fun all => ?_
          exact (all raw text rfl (not_lt.mp large) decoded).1 loaded
        | recursion =>
          refine iff_of_false (fun ⟨_, nothing⟩ => by cases nothing) fun all => ?_
          exact (all raw text rfl (not_lt.mp large) decoded).2 loaded
      | ok value =>
        refine iff_of_true ?_ fun raw' text' same _ found => ?_
        · cases value <;> exact ⟨_, rfl⟩
        · rw [only raw' text' same found, loaded]
          exact ⟨(fun same => by cases same), (fun same => by cases same)⟩

/-- An invocation returns an exit code and accounts for its alert exactly when it is sound. -/
theorem accounted_iff (py : Interpreter) (disk : Disk) (config : Config) (file : AlertFile) (number : Nat) (self : Invocation)
    (spool : Spool) : Accounted py disk config file number self spool ↔ Sound py disk config file self := by
  unfold Accounted run
  constructor
  · rintro ⟨code, report, left, done, settled⟩
    obtain ⟨flushed, flush_done, done⟩ := bind_ok.mp done
    obtain ⟨read, read_done, done⟩ := bind_ok.mp done
    refine ⟨flush_spool_ok.mp ⟨flushed, flush_done⟩, read_alert_file_ok.mp ⟨read, read_done⟩, fun alert raw found => ?_⟩
    rw [found] at read_done
    cases read_done
    obtain ⟨⟨report', left'⟩, handled, done⟩ := bind_ok.mp done
    cases done
    refine handle_alert_settled.mp ⟨report, left, handled, ?_⟩
    cases ruled : Json.lookup "rule" alert with
    | none => exact handle_alert_ruleless ruled handled
    | some rule => exact settled alert raw rule found ruled
  · intro sound
    obtain ⟨flushed, flush_done⟩ := flush_spool_ok.mpr sound.flushed
    obtain ⟨read, read_done⟩ := read_alert_file_ok.mpr sound.loaded
    cases read with
    | error reason =>
      refine ⟨EXIT_OK, .unreadable reason, flushed,
        bind_ok.mpr ⟨flushed, flush_done, bind_ok.mpr ⟨_, read_done, rfl⟩⟩, fun alert raw rule found _ => ?_⟩
      rw [read_done] at found
      cases found
    | ok pair =>
      obtain ⟨alert, raw⟩ := pair
      obtain ⟨report, left, handled, settled⟩ := handle_alert_settled.mpr (sound.tame alert raw read_done)
      exact ⟨EXIT_OK, report, left, bind_ok.mpr ⟨flushed, flush_done, bind_ok.mpr ⟨_, read_done,
        bind_ok.mpr ⟨_, handled, rfl⟩⟩⟩, fun _ _ _ _ _ => settled⟩

/-- Everything works, and the file has the level `1e400`. -/
private def unlimited : String := "\x7b\"rule\": \x7b\"level\": 1e400\x7d\x7d"

private def python : Interpreter where
  decoder := ⟨1000, some 4300, fun repr => repr⟩
  int_text := fun _ => none
  int_float := fun _ => 0
  str := fun value => match value with
    | .str s => s
    | _ => ""
  str_recursion := 1000
  unicode := ⟨fun cs => cs.map Char.toLower, fun _ => true, fun _ _ => rfl⟩

private theorem unlimited_read : read_alert_file python (.content unlimited.toByteArray) =
    .ok (.ok ([("rule", .obj [("level", .float "inf")])], unlimited)) := by
  have decoded : String.fromUTF8? unlimited.toByteArray = some unlimited := dif_pos unlimited.isValidUTF8
  have loaded : JsonText.loads python.decoder unlimited = .ok (.obj [("rule", .obj [("level", .float "inf")])]) := by
    decide +kernel
  unfold read_alert_file
  dsimp only
  rw [if_neg (by decide), decoded]
  dsimp only
  rw [loaded]

/-- The level `1e400` is an infinite float, and `int` of it raises what the filter does not catch. -/
theorem level_escapes : ¬ ∀ (py : Interpreter) (config : Config) (file : AlertFile) (number : Nat) (self : Invocation)
    (spool : Spool), Accounted py working config file number self spool := by
  intro all
  obtain ⟨code, report, left, done, _⟩ := all python ⟨{}, "https://triage.example/api/v1/alerts/wazuh"⟩
    (.content unlimited.toByteArray) 0
    ⟨.error "", 0, 0, 0, 0, 1, ⟨"", by decide⟩, fun _ _ => ⟨202, none⟩, fun _ => ⟨202, none⟩⟩ Table.empty
  unfold run at done
  obtain ⟨flushed, _, done⟩ := bind_ok.mp done
  obtain ⟨read, read_done, done⟩ := bind_ok.mp done
  rw [unlimited_read] at read_done
  cases read_done
  cases done

end SocTriage.IntegratorExit
