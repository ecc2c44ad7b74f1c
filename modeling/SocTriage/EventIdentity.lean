import SocTriage.Deduplication

/-!
What an event identity says about the event: deliveries that share one belong to the same
deduplication group, by the quoted components of the key or by the digest of the payload.
-/
namespace SocTriage.Deduplication

/-! ### Stripping -/

private theorem dropWhile_rdropWhile {α : Type} (p : α → Bool) (l : List α) :
    ((l.dropWhile p).rdropWhile p).dropWhile p = (l.dropWhile p).rdropWhile p := by
  have kept : (l.dropWhile p).dropWhile p = l.dropWhile p := List.dropWhile_idempotent p l
  generalize l.dropWhile p = rest at kept ⊢
  cases rest with
  | nil => simp
  | cons c tail =>
    have plain : p c = false := by
      by_contra space
      have shorter := (List.dropWhile_sublist (l := tail) p).length_le
      rw [List.dropWhile_cons_of_pos (by simpa using space)] at kept
      rw [kept] at shorter
      simp at shorter
    obtain ⟨dropped, whole⟩ := List.rdropWhile_prefix p (c :: tail)
    cases stripped : (c :: tail).rdropWhile p with
    | nil => rfl
    | cons d others =>
      rw [stripped, List.cons_append, List.cons.injEq] at whole
      rw [whole.1, List.dropWhile_cons_of_neg (by simp [plain])]

/-- Stripping twice is stripping once. -/
theorem strip_strip (s : String) : Text.strip (Text.strip s) = Text.strip s := by
  have unfolded : ∀ cs : List Char, Text.strip (String.ofList cs) =
      String.ofList ((cs.dropWhile Text.is_space).rdropWhile Text.is_space) := by
    intro cs; simp [Text.strip, List.rdropWhile]
  have whole : Text.strip s = String.ofList ((s.toList.dropWhile Text.is_space).rdropWhile Text.is_space) := by
    simp [Text.strip, List.rdropWhile]
  rw [whole, unfolded, dropWhile_rdropWhile, List.rdropWhile_idempotent]

/-! ### Keys -/

theorem require_non_empty_ok {value field cleaned : String} :
    require_non_empty value field = .ok cleaned ↔ cleaned = Text.strip value ∧ cleaned ≠ "" := by
  rw [require_non_empty]
  by_cases blank : Text.strip value = ""
  · simp only [blank, ↓reduceIte, reduceCtorEq, false_iff]
    rintro ⟨rfl, filled⟩; exact filled rfl
  · simp only [blank, ↓reduceIte, Except.ok.injEq]
    constructor
    · rintro rfl; exact ⟨rfl, blank⟩
    · rintro ⟨same, _⟩; exact same.symm

theorem quote_component_ok {value quoted : String} :
    quote_component value = .ok quoted ↔ quoted = Text.quote (Text.strip value) ∧ Text.strip value ≠ "" := by
  simp only [quote_component, bind_ok, require_non_empty_ok, pure, Except.pure, Except.ok.injEq]
  constructor
  · rintro ⟨_, ⟨rfl, filled⟩, rfl⟩; exact ⟨rfl, filled⟩
  · rintro ⟨rfl, filled⟩; exact ⟨_, ⟨rfl, filled⟩, rfl⟩

/-- A group key is built from the two stripped and quoted ids, when neither is blank. -/
theorem compute_group_key_ok {rule_id agent_id key : String} :
    compute_group_key rule_id agent_id = .ok key ↔
      key = "wazuh:" ++ Text.quote (Text.strip rule_id) ++ ":" ++ Text.quote (Text.strip agent_id) ∧
        Text.strip rule_id ≠ "" ∧ Text.strip agent_id ≠ "" := by
  simp only [compute_group_key, bind_ok, quote_component_ok, pure, Except.pure, Except.ok.injEq]
  constructor
  · rintro ⟨_, ⟨rfl, rule⟩, _, ⟨rfl, agent⟩, rfl⟩; exact ⟨rfl, rule, agent⟩
  · rintro ⟨rfl, rule, agent⟩; exact ⟨_, ⟨rfl, rule⟩, _, ⟨rfl, agent⟩, rfl⟩

/-- The two forms of an identity: the quoted event, rule and agent ids, or the digest of
    the payload when the event id is blank. -/
theorem compute_event_identity_ok {sha256 : Json → String} {alert : WazuhAlert} {identity : String} :
    compute_event_identity sha256 alert = .ok identity ↔
      Text.strip alert.rule.id ≠ "" ∧ Text.strip alert.agent.id ≠ "" ∧
      ((Text.strip (alert.id.getD "") ≠ "" ∧
          identity = "wazuh:" ++ Text.quote (Text.strip (alert.id.getD "")) ++ ":" ++
            Text.quote (Text.strip alert.rule.id) ++ ":" ++ Text.quote (Text.strip alert.agent.id)) ∨
        (Text.strip (alert.id.getD "") = "" ∧
          identity = "wazuh-h1:" ++ sha256 (Json.canonical (.obj (identity_payload alert))))) := by
  simp only [compute_event_identity, bind_ok, require_non_empty_ok]
  by_cases event : Text.strip (alert.id.getD "") = ""
  · simp only [event, ne_eq, not_true_eq_false, ↓reduceIte, pure, Except.pure, Except.ok.injEq, false_and,
      true_and, false_or]
    constructor
    · rintro ⟨_, ⟨rfl, rule⟩, _, ⟨rfl, agent⟩, rfl⟩; exact ⟨rule, agent, rfl⟩
    · rintro ⟨rule, agent, rfl⟩; exact ⟨_, ⟨rfl, rule⟩, _, ⟨rfl, agent⟩, rfl⟩
  · simp only [event, ne_eq, not_false_eq_true, ↓reduceIte, bind_ok, quote_component_ok, strip_strip, pure,
      Except.pure, Except.ok.injEq, true_and, false_and, or_false]
    constructor
    · rintro ⟨_, ⟨rfl, rule⟩, _, ⟨rfl, agent⟩, _, ⟨rfl, _⟩, _, ⟨rfl, _⟩, _, ⟨rfl, _⟩, rfl⟩
      exact ⟨rule, agent, by simp only [strip_strip]⟩
    · rintro ⟨rule, agent, rfl⟩
      exact ⟨_, ⟨rfl, rule⟩, _, ⟨rfl, agent⟩, _, ⟨rfl, trivial⟩, _, ⟨rfl, by rwa [strip_strip]⟩, _,
        ⟨rfl, by rwa [strip_strip]⟩, by simp only [strip_strip]⟩

/-! ### An identity determines the group -/

private theorem lookup_pop_path_rule (payload : JsonObject) (rule : JsonObject)
    (found : Json.lookup "rule" payload = some (.obj rule)) :
    Json.lookup "rule" (pop_path ["rule", "firedtimes"] payload) = some (.obj (Json.pop "firedtimes" rule)) := by
  induction payload with
  | nil => simp [Json.lookup] at found
  | cons first rest ih =>
    obtain ⟨k, v⟩ := first
    simp only [pop_path, List.map_cons, Json.lookup] at found ih ⊢
    by_cases same : k = "rule"
    · rw [if_pos same] at found
      simp [Option.some.inj found, same]
    · rw [if_neg same] at found
      have skipped := ih found
      cases v <;> simp [same, skipped]

private theorem lookup_pop_path_other (payload : JsonObject) {key : String} (other : key ≠ "rule")
    {block : JsonObject} (found : Json.lookup key payload = some (.obj block)) :
    Json.lookup key (pop_path ["rule", "firedtimes"] payload) = some (.obj block) := by
  induction payload with
  | nil => simp [Json.lookup] at found
  | cons first rest ih =>
    obtain ⟨k, v⟩ := first
    simp only [pop_path, List.map_cons, Json.lookup] at found ih ⊢
    by_cases same : k = key
    · rw [if_pos same] at found
      simp [Option.some.inj found, same, other]
    · rw [if_neg same] at found
      have skipped := ih found
      cases v <;> simp [same, skipped]

/-- The identity payload keeps the rule id. -/
private theorem payload_rule_id (alert : WazuhAlert) :
    (Json.field "rule" (.obj (identity_payload alert))).bind (Json.field "id") = some (.str alert.rule.id) := by
  have rule : Json.lookup "rule" alert.model_dump = some (.obj alert.rule.model_dump) := by
    simp [WazuhAlert.model_dump, Json.lookup]
  have popped := lookup_pop_path_rule _ _ rule
  have kept : Json.lookup "rule" (identity_payload alert) = some (.obj (Json.pop "firedtimes" alert.rule.model_dump)) := by
    rw [identity_payload, VOLATILE_IDENTITY_FIELDS, List.foldl_cons, List.foldl_cons, List.foldl_nil]
    rw [show pop_path ["id"] _ = Json.pop "id" _ from rfl, Json.lookup_pop_ne (by decide), popped]
  have id : Json.lookup "id" (Json.pop "firedtimes" alert.rule.model_dump) = some (.str alert.rule.id) := by
    rw [Json.lookup_pop_ne (by decide)]; simp [WazuhRule.model_dump, Json.lookup]
  simp [Json.field, kept, id]

/-- The identity payload keeps the agent id. -/
private theorem payload_agent_id (alert : WazuhAlert) :
    (Json.field "agent" (.obj (identity_payload alert))).bind (Json.field "id") = some (.str alert.agent.id) := by
  have agent : Json.lookup "agent" alert.model_dump = some (.obj alert.agent.model_dump) := by
    simp [WazuhAlert.model_dump, Json.lookup]
  have id : Json.lookup "id" alert.agent.model_dump = some (.str alert.agent.id) := by
    simp [WazuhAgent.model_dump, Json.lookup]
  have kept : Json.lookup "agent" (identity_payload alert) = some (.obj alert.agent.model_dump) := by
    rw [identity_payload, VOLATILE_IDENTITY_FIELDS, List.foldl_cons, List.foldl_cons, List.foldl_nil]
    rw [show pop_path ["id"] _ = Json.pop "id" _ from rfl, Json.lookup_pop_ne (by decide)]
    exact lookup_pop_path_other _ (by decide) agent
  simp [Json.field, kept, id]

private theorem canonical_field_id {key value : String} {payload : Json}
    (kept : (Json.field key payload).bind (Json.field "id") = some (.str value)) :
    (Json.field key (Json.canonical payload)).bind (Json.field "id") = some (.str value) := by
  obtain ⟨block, outer, inner⟩ := Option.bind_eq_some_iff.mp kept
  rw [Json.field_canonical, outer, Option.map_some, Option.bind_some, Json.field_canonical, inner]
  rfl

private theorem separator : ":".toList = [':'] := by decide

/-- The components of a group key are read back from it. -/
private theorem quoted_pair {rule rule' agent agent' : String}
    (same : "wazuh:" ++ Text.quote rule ++ ":" ++ Text.quote agent =
      "wazuh:" ++ Text.quote rule' ++ ":" ++ Text.quote agent') : rule = rule' ∧ agent = agent' := by
  have letters := congrArg String.toList same
  simp only [String.toList_append, Text.toList_quote, List.append_assoc] at letters
  have tails := List.append_cancel_left letters
  rw [separator, List.singleton_append, List.singleton_append] at tails
  obtain ⟨rules, agents⟩ := Text.split_at_separator (Text.quote_chars_no_colon _) (Text.quote_chars_no_colon _) tails
  exact ⟨Text.quote_chars_inj rules, Text.quote_chars_inj agents⟩

/-- The components of an identity are read back from it. -/
private theorem quoted_ids {event event' rule rule' agent agent' : String}
    (same : "wazuh:" ++ Text.quote event ++ ":" ++ Text.quote rule ++ ":" ++ Text.quote agent =
      "wazuh:" ++ Text.quote event' ++ ":" ++ Text.quote rule' ++ ":" ++ Text.quote agent') :
    event = event' ∧ rule = rule' ∧ agent = agent' := by
  have letters := congrArg String.toList same
  simp only [String.toList_append, Text.toList_quote, List.append_assoc] at letters
  have tails := List.append_cancel_left letters
  rw [separator, List.singleton_append, List.singleton_append, List.singleton_append, List.singleton_append] at tails
  obtain ⟨events, rest⟩ := Text.split_at_separator (Text.quote_chars_no_colon _) (Text.quote_chars_no_colon _) tails
  obtain ⟨rules, agents⟩ := Text.split_at_separator (Text.quote_chars_no_colon _) (Text.quote_chars_no_colon _) rest
  exact ⟨Text.quote_chars_inj events, Text.quote_chars_inj rules, Text.quote_chars_inj agents⟩

private theorem tags_differ (tail tail' : String) : "wazuh:" ++ tail ≠ "wazuh-h1:" ++ tail' := by
  intro same
  have letters := congrArg String.toList same
  simp only [String.toList_append] at letters
  have left : "wazuh:".toList = ['w', 'a', 'z', 'u', 'h', ':'] := by decide
  have right : "wazuh-h1:".toList = ['w', 'a', 'z', 'u', 'h', '-', 'h', '1', ':'] := by decide
  simp [left, right] at letters

/-- Deliveries with one event identity have one group key. -/
theorem identity_determines_group {sha256 : Json → String} {alerts : List WazuhAlert}
    (collision_free : CollisionFree sha256 alerts) {a b : WazuhAlert} (first : a ∈ alerts) (second : b ∈ alerts)
    {identity key key' : String}
    (left : compute_event_identity sha256 a = .ok identity) (right : compute_event_identity sha256 b = .ok identity)
    (leftKey : compute_group_key a.rule.id a.agent.id = .ok key)
    (rightKey : compute_group_key b.rule.id b.agent.id = .ok key') : key = key' := by
  obtain ⟨rfl, -, -⟩ := compute_group_key_ok.mp leftKey
  obtain ⟨rfl, -, -⟩ := compute_group_key_ok.mp rightKey
  obtain ⟨-, -, leftForm⟩ := compute_event_identity_ok.mp left
  obtain ⟨-, -, rightForm⟩ := compute_event_identity_ok.mp right
  rcases leftForm with ⟨-, leftForm⟩ | ⟨-, leftForm⟩ <;> rcases rightForm with ⟨-, rightForm⟩ | ⟨-, rightForm⟩
  · obtain ⟨-, rules, agents⟩ := quoted_ids (leftForm.symm.trans rightForm)
    rw [rules, agents]
  · simp only [String.append_assoc] at leftForm
    exact absurd (leftForm.symm.trans rightForm) (tags_differ _ _)
  · simp only [String.append_assoc] at rightForm
    exact absurd (rightForm.symm.trans leftForm) (tags_differ _ _)
  · have letters := congrArg String.toList (leftForm.symm.trans rightForm)
    simp only [String.toList_append] at letters
    have digests := String.toList_inj.mp (List.append_cancel_left letters)
    have payloads := collision_free a first b second digests
    have rules := canonical_field_id (payload_rule_id a)
    have agents := canonical_field_id (payload_agent_id a)
    rw [payloads, canonical_field_id (payload_rule_id b)] at rules
    rw [payloads, canonical_field_id (payload_agent_id b)] at agents
    simp only [Option.some.injEq, Json.str.injEq] at rules agents
    rw [rules, agents]

/-! ### Keys of two alerts -/

/-- The event id an identity is built from: blank where the alert has none. -/
def event_id (alert : WazuhAlert) : String := Text.strip (alert.id.getD "")

/-- An alert whose rule and agent ids are not blank has a group key and an identity. -/
private theorem keys_exist (sha256 : Json → String) {alert : WazuhAlert} (rule : Text.strip alert.rule.id ≠ "")
    (agent : Text.strip alert.agent.id ≠ "") :
    (∃ key, compute_group_key alert.rule.id alert.agent.id = .ok key) ∧
      ∃ identity, compute_event_identity sha256 alert = .ok identity := by
  refine ⟨⟨_, compute_group_key_ok.mpr ⟨rfl, rule, agent⟩⟩, ?_⟩
  by_cases event : Text.strip (alert.id.getD "") = ""
  · exact ⟨_, compute_event_identity_ok.mpr ⟨rule, agent, .inr ⟨event, rfl⟩⟩⟩
  · exact ⟨_, compute_event_identity_ok.mpr ⟨rule, agent, .inl ⟨event, rfl⟩⟩⟩

/-- Keys say which ids they were built from: group keys the rule and agent ids, identities the
    event id as well, and an identity taken from a digest is none that an event id gives. -/
theorem keys_separate {sha256 : Json → String} {a b : WazuhAlert} (collision_free : CollisionFree sha256 [a, b])
    (ruleA : Text.strip a.rule.id ≠ "") (agentA : Text.strip a.agent.id ≠ "") (ruleB : Text.strip b.rule.id ≠ "")
    (agentB : Text.strip b.agent.id ≠ "") :
    ∃ key key' identity identity', compute_group_key a.rule.id a.agent.id = .ok key ∧
      compute_group_key b.rule.id b.agent.id = .ok key' ∧ compute_event_identity sha256 a = .ok identity ∧
      compute_event_identity sha256 b = .ok identity' ∧
      (key = key' ↔ Text.strip a.rule.id = Text.strip b.rule.id ∧ Text.strip a.agent.id = Text.strip b.agent.id) ∧
      (event_id a ≠ "" → event_id b ≠ "" → (identity = identity' ↔ event_id a = event_id b ∧
        Text.strip a.rule.id = Text.strip b.rule.id ∧ Text.strip a.agent.id = Text.strip b.agent.id)) ∧
      (event_id a ≠ "" → event_id b = "" → identity ≠ identity') ∧
      (event_id a = "" → event_id b ≠ "" → identity ≠ identity') ∧
      (identity = identity' → key = key') := by
  obtain ⟨⟨key, keyed⟩, identity, identified⟩ := keys_exist sha256 ruleA agentA
  obtain ⟨⟨key', keyed'⟩, identity', identified'⟩ := keys_exist sha256 ruleB agentB
  obtain ⟨keyForm, -, -⟩ := compute_group_key_ok.mp keyed
  obtain ⟨keyForm', -, -⟩ := compute_group_key_ok.mp keyed'
  obtain ⟨-, -, form⟩ := compute_event_identity_ok.mp identified
  obtain ⟨-, -, form'⟩ := compute_event_identity_ok.mp identified'
  refine ⟨key, key', identity, identity', keyed, keyed', identified, identified', ?_, ?_, ?_, ?_, ?_⟩
  · rw [keyForm, keyForm']
    refine ⟨quoted_pair, ?_⟩
    rintro ⟨rules, agents⟩
    rw [rules, agents]
  · intro event event'
    rcases form with ⟨-, form⟩ | ⟨blank, -⟩
    · rcases form' with ⟨-, form'⟩ | ⟨blank, -⟩
      · rw [form, form']
        refine ⟨quoted_ids, ?_⟩
        rintro ⟨events, rules, agents⟩
        unfold event_id at events
        rw [events, rules, agents]
      · exact absurd blank event'
    · exact absurd blank event
  · intro event blank'
    rcases form with ⟨-, form⟩ | ⟨blank, -⟩
    · rcases form' with ⟨event', -⟩ | ⟨-, form'⟩
      · exact absurd blank' event'
      · rw [form, form', String.append_assoc, String.append_assoc, String.append_assoc, String.append_assoc]
        exact tags_differ _ _
    · exact absurd blank event
  · intro blank event'
    rcases form' with ⟨-, form'⟩ | ⟨blank', -⟩
    · rcases form with ⟨event, -⟩ | ⟨-, form⟩
      · exact absurd blank event
      · rw [form, form', String.append_assoc, String.append_assoc, String.append_assoc, String.append_assoc]
        exact (tags_differ _ _).symm
    · exact absurd blank' event'
  · rintro rfl
    exact identity_determines_group collision_free (by simp) (by simp) identified identified' keyed keyed'

/-! ### The keys of a delivery -/

/-- An identity one of the alerts has, and its group. -/
def Owned (sha256 : Json → String) (delivered : List WazuhAlert) (identity group_key : String) : Prop :=
  ∃ alert ∈ delivered, compute_event_identity sha256 alert = .ok identity ∧
    compute_group_key alert.rule.id alert.agent.id = .ok group_key

/-- A computation whose only exception is a refused input. -/
def Refuses {α : Type} (x : Except Error α) : Prop := Raises (fun e => ∃ message, e = .invalid_input message) x

private theorem refuses_require_non_empty (value field : String) : Refuses (require_non_empty value field) := by
  intro e failed
  rw [require_non_empty] at failed
  split at failed
  · cases failed; exact ⟨_, rfl⟩
  · contradiction

private theorem refuses_quote_component (value : String) : Refuses (quote_component value) :=
  raises_bind (refuses_require_non_empty _ _) (fun _ _ => raises_ok _)

theorem refuses_delivery_keys (sha256 : Json → String) (alert : WazuhAlert) :
    Refuses (delivery_keys sha256 alert) := by
  refine raises_bind ?_ (fun identity _ => raises_bind ?_ (fun group_key _ => raises_ok _))
  · refine raises_bind (refuses_require_non_empty _ _) (fun rule_id _ =>
      raises_bind (refuses_require_non_empty _ _) (fun agent_id _ => ?_))
    dsimp only
    split
    · exact raises_bind (refuses_quote_component _) (fun _ _ => raises_bind (refuses_quote_component _)
        (fun _ _ => raises_bind (refuses_quote_component _) (fun _ _ => raises_ok _)))
    · exact raises_ok _
  · exact raises_bind (refuses_quote_component _) (fun _ _ => raises_bind (refuses_quote_component _)
      (fun _ _ => raises_ok _))

theorem delivery_keys_ok {sha256 : Json → String} {delivered : List WazuhAlert} {alert : WazuhAlert}
    {identity group_key fingerprint : String} (inside : alert ∈ delivered)
    (keys : delivery_keys sha256 alert = .ok (identity, group_key, fingerprint)) :
    Owned sha256 delivered identity group_key := by
  obtain ⟨_, computed, keys⟩ := bind_ok.mp keys
  obtain ⟨_, grouped, keys⟩ := bind_ok.mp keys
  cases keys
  exact ⟨alert, inside, computed, grouped⟩

/-! ### A payload without an event id -/

/-- A failed login as Wazuh reports it, with the counter of its rule. -/
def failed_login (firedtimes : Nat) : WazuhAlert where
  rule := { id := "5710", level := 5, description := "sshd: invalid user", firedtimes
            fields := [("groups", .arr []), ("mitre", .null), ("mail", .bool false)] }
  agent := { id := "001", name := "web-1", fields := [("ip", .null), ("labels", .null)] }
  fields := [("timestamp", .null), ("data", .null), ("manager", .null), ("decoder", .null), ("location", .null),
    ("full_log", .null), ("syscheck", .null)]

/-- The alert of record a failed login becomes, before deduplication. -/
def failed_login_alert (alert_id : UUID) (received_at : Datetime) : CanonicalAlert where
  alert_id := alert_id
  received_at := received_at
  source_event := {
    rule := { id := "5710", level := 5, description := "sshd: invalid user" }
    agent := { id := "001", name := "web-1" } }

/-- The SHA-256 digest of that payload's canonical text, which the counter is not part of. -/
def failed_login_digest : Json → String :=
  fun _ => "9a4bb0250f5f6ee0a104ac05a59b6264c6675b392461db6233413fc122f9a125"

theorem failed_login_collision_free (firedtimes : List Nat) :
    CollisionFree failed_login_digest (firedtimes.map failed_login) := by
  intro a first b second _
  obtain ⟨_, _, rfl⟩ := List.mem_map.mp first
  obtain ⟨_, _, rfl⟩ := List.mem_map.mp second
  rfl

/-- Two reports of one failed login, neither with an event id, share their keys. -/
theorem failed_logins_share_keys :
    ∃ key key' identity identity', compute_group_key "5710" "001" = .ok key ∧
      compute_group_key "5710" "001" = .ok key' ∧
      compute_event_identity failed_login_digest (failed_login 3) = .ok identity ∧
      compute_event_identity failed_login_digest (failed_login 4) = .ok identity' ∧ identity = identity' ∧ key = key' := by
  obtain ⟨key, key', identity, identity', keyed, keyed', identified, identified', groups, -⟩ :=
    keys_separate (failed_login_collision_free [3, 4]) (a := failed_login 3) (b := failed_login 4)
      (by decide) (by decide) (by decide) (by decide)
  refine ⟨key, key', identity, identity', keyed, keyed', identified, identified', ?_, groups.mpr ⟨rfl, rfl⟩⟩
  exact Except.ok.inj (identified.symm.trans (Eq.trans (by decide) identified'))

example : delivery_keys failed_login_digest (failed_login 3) =
    .ok ("wazuh-h1:9a4bb0250f5f6ee0a104ac05a59b6264c6675b392461db6233413fc122f9a125", "wazuh:5710:001",
      "9a4bb0250f5f6ee0a104ac05a59b6264c6675b392461db6233413fc122f9a125") := by decide

end SocTriage.Deduplication
