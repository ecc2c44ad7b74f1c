import SocTriage.N8NPayload

/-!
Which alerts are notified. The last check of the payload reads the text of the whole, so an
alert whose own text mentions `full_log`, in either case and with the escapes of `repr`,
raises; every other alert has a payload, in which no field is called `full_log`
(`payload_built_iff`).
-/
namespace SocTriage.PayloadSafety
open PythonRepr N8NPayload
open Audit (optional_text)

/-! ### The condition -/

/-- One of the texts mentions `full_log`. -/
def AnyMentions (printable : Char → Bool) (texts : List String) : Prop := ∃ text ∈ texts, TextMentions printable FULL_LOG text

/-- The texts of an alert that its payload takes, and the base of its links. -/
def taken_texts (alert : CanonicalAlert) (risk : RiskAssessment) (decision : Decision) (dedupe_status base : String) :
    List String :=
  [alert.alert_id, alert.source, risk.engine_version, risk.summary, alert.source_event.rule.id,
    alert.source_event.rule.description, alert.source_event.agent.id, alert.source_event.agent.name, dedupe_status, base] ++
  risk.factors.flatMap (fun factor => [factor.name, factor.detail]) ++ decision.reasons ++ decision.runbook.toList ++
  alert.source_event.rule.groups ++ alert.source_event.agent.ip.toList ++
  alert.asset.toList.flatMap (fun asset => asset.name.toList ++ asset.tier.toList ++ asset.owner.toList) ++
  alert.dedupe.toList.flatMap (fun dedupe => dedupe.group_key :: dedupe.event_identity.toList) ++
  alert.iocs.map IOC.value ++ alert.enrichment_status.toList

section
variable (py : Python) (alert : CanonicalAlert) (risk : RiskAssessment) (decision : Decision) (dedupe_status base : String)

/-- Some text of the alert mentions `full_log`: one of those taken, one of its MITRE block, or one of what is let through of
    an enrichment. -/
def Mentioned : Prop :=
  AnyMentions py.printable (taken_texts alert risk decision dedupe_status base) ∨
    FieldsMention py.printable FULL_LOG alert.source_event.rule.mitre ∨
    ∃ ioc ∈ alert.iocs, FieldsMention py.printable FULL_LOG (build_ioc_summary ioc).enrichment

/-- The dictionaries the payload takes can be dumped and written. -/
def Writable : Prop :=
  py.dumpable alert.source_event.rule.mitre = true ∧ ∀ ioc ∈ alert.iocs, py.dumpable (build_ioc_summary ioc).enrichment = true
end

mutual
/-- Some dictionary in the value has the key. -/
def HasField (key : String) : Json → Prop
  | .arr items => SomeHasField key items
  | .obj fields => FieldsHave key fields
  | _ => False
def SomeHasField (key : String) : List Json → Prop
  | [] => False
  | item :: rest => HasField key item ∨ SomeHasField key rest
def FieldsHave (key : String) : JsonObject → Prop
  | [] => False
  | (name, value) :: rest => name = key ∨ HasField key value ∨ FieldsHave key rest
end

/-! ### Texts that mention nothing -/

section
variable {printable : Char → Bool}

/-- Printable ASCII without quotes, backslashes and `full_log`. -/
def quiet (text : String) : Bool :=
  text.toList.all (fun c => 32 ≤ c.toNat && c.toNat ≤ 126 && c ≠ '\'' && c ≠ '\\') && !decide (Mentions FULL_LOG text.toList)

/-- What a payload says of its own: names of fields, values of enumerations, parts of routes. -/
def CONSTANTS : List String :=
  ["id", "level", "description", "groups", "mitre", "name", "ip", "group_key", "occurrences", "generation",
    "first_seen", "last_seen", "duplicate_deliveries", "dedupe_status", "event_identity", "type", "value", "enrichment",
    "status", "providers", "ioc_count", "action", "severity", "reasons", "runbook", "decided_at", "score", "tier",
    "engine_version", "factors", "summary", "degraded", "alert_api", "alert_console", "feedback_url", "ioc_links",
    "alert_id", "received_at", "source", "risk", "decision", "rule", "agent", "asset", "recurrence", "iocs",
    "investigation_links", "points", "max", "detail", "owner", "informational", "low", "medium", "high", "critical",
    "suppress", "monitor", "queue_l1", "open_incident", "SEV1", "SEV2", "ipv4", "domain", "url", "md5", "sha1", "sha256",
    "email", "", "skipped", "api/v1/alerts", "alerts", "feedback"]

private theorem constants_quiet : ∀ text ∈ CONSTANTS, quiet text = true := by decide +kernel

theorem constant_silent {text : String} (constant : text ∈ CONSTANTS) : ¬ TextMentions printable FULL_LOG text := by
  have plain := constants_quiet text constant
  rw [quiet, Bool.and_eq_true, Bool.not_eq_true', decide_eq_false_iff_not] at plain
  obtain ⟨verbatim, absent⟩ := plain
  rw [text_verbatim full_log_compound (fun c inside => ?_)]
  · exact absent
  · have each := List.all_eq_true.mp verbatim c inside
    simpa [and_assoc] using each

theorem silent {text : String} (constant : text ∈ CONSTANTS) : TextMentions printable FULL_LOG text ↔ False :=
  iff_false_intro (constant_silent constant)

private theorem padded_plain (width n : Nat) : '_' ∉ (Text.zero_padded width n).toList :=
  fun inside => absurd (Text.zero_padded_digits width n '_' inside) (by decide)

private theorem append_plain {left right : String} (first : '_' ∉ left.toList) (second : '_' ∉ right.toList) :
    '_' ∉ (left ++ right).toList := by
  rw [String.toList_append, List.mem_append, not_or]
  exact ⟨first, second⟩

private theorem day_plain (wall : Int) : '_' ∉ (Text.wall_day wall).toList := by
  rw [Text.wall_day]
  exact append_plain (append_plain (append_plain (append_plain (padded_plain _ _) (by decide)) (padded_plain _ _))
    (by decide)) (padded_plain _ _)

private theorem fraction_plain (sign : String) (ends : '_' ∉ sign.toList) (hide : Prop) [Decidable hide] (width n : Nat) :
    '_' ∉ (if hide then "" else sign ++ Text.zero_padded width n).toList := by
  split
  · decide
  · exact append_plain ends (padded_plain width n)

private theorem offset_plain (offset : Int) : '_' ∉ (Datetime.offset_text offset).toList := by
  have sign : '_' ∉ (if offset < 0 then "-" else "+").toList := by
    split <;> decide
  rw [Datetime.offset_text]
  exact append_plain (append_plain (append_plain (append_plain (append_plain sign (padded_plain _ _)) (by decide))
    (padded_plain _ _)) (fraction_plain ":" (by decide) _ _ _)) (fraction_plain "." (by decide) _ _ _)

theorem isoformat_quiet (time : Datetime) : ¬ TextMentions printable FULL_LOG time.isoformat := by
  refine text_plain full_log_compound ?_
  have wall : '_' ∉ (Text.wall_isoformat time.wall).toList := by
    rw [Text.wall_isoformat]
    exact append_plain (append_plain (append_plain (append_plain (append_plain (append_plain (append_plain (day_plain _)
      (by decide)) (padded_plain _ _)) (by decide)) (padded_plain _ _)) (by decide)) (padded_plain _ _))
      (fraction_plain "." (by decide) _ _ _)
  rw [Datetime.isoformat]
  refine append_plain wall ?_
  split
  · decide
  · exact offset_plain _

theorem tier_constant (tier : RiskTier) : tier.value ∈ CONSTANTS := by
  cases tier <;> decide

theorem action_constant (action : DecisionAction) : action.value ∈ CONSTANTS := by
  cases action <;> decide

theorem severity_constant (severity : DecisionSeverity) : severity.value ∈ CONSTANTS := by
  cases severity <;> decide

theorem type_constant (type : IOCType) : type.value ∈ CONSTANTS := by
  cases type <;> decide

/-! ### The parts of a payload -/

@[simp] theorem any_nil : ¬ AnyMentions printable [] := by simp [AnyMentions]

@[simp] theorem any_cons {text : String} {rest : List String} :
    AnyMentions printable (text :: rest) ↔ TextMentions printable FULL_LOG text ∨ AnyMentions printable rest := by
  simp [AnyMentions]

@[simp] theorem any_append {first others : List String} :
    AnyMentions printable (first ++ others) ↔ AnyMentions printable first ∨ AnyMentions printable others := by
  simp [AnyMentions, or_and_right, exists_or]

theorem optional_mentions {text : Option String} : ValueMentions printable FULL_LOG (optional_text text) ↔
    AnyMentions printable text.toList := by
  cases text <;> simp [optional_text, ValueMentions]

theorem texts_mention {items : List String} : ValueMentions printable FULL_LOG (texts items) ↔
    AnyMentions printable items := by
  simp [texts, ValueMentions, items_mention_iff, AnyMentions]

private theorem rule_mentions (rule : RuleInfo) : FieldsMention printable FULL_LOG rule.model_dump ↔
    TextMentions printable FULL_LOG rule.id ∨ TextMentions printable FULL_LOG rule.description ∨
      AnyMentions printable rule.groups ∨ FieldsMention printable FULL_LOG rule.mitre := by
  simp (disch := decide) only [RuleInfo.model_dump, FieldsMention, ValueMentions, silent, texts_mention, false_or,
    or_false]

private theorem agent_mentions (agent : AgentInfo) : FieldsMention printable FULL_LOG agent.model_dump ↔
    TextMentions printable FULL_LOG agent.id ∨ TextMentions printable FULL_LOG agent.name ∨
      AnyMentions printable agent.ip.toList := by
  simp (disch := decide) only [AgentInfo.model_dump, FieldsMention, ValueMentions, silent, optional_mentions,
    false_or, or_false]

private theorem asset_mentions (asset : CanonicalAsset) : FieldsMention printable FULL_LOG (asset_entry asset) ↔
    AnyMentions printable (asset.name.toList ++ asset.tier.toList ++ asset.owner.toList) := by
  simp (disch := decide) only [asset_entry, FieldsMention, silent, optional_mentions, false_or, or_false]
  rw [any_append, any_append, or_assoc]

private theorem factor_mentions (factor : ScoreFactor) : FieldsMention printable FULL_LOG (factor_entry factor) ↔
    TextMentions printable FULL_LOG factor.name ∨ TextMentions printable FULL_LOG factor.detail := by
  simp (disch := decide) only [factor_entry, FieldsMention, ValueMentions, silent, false_or, or_false]

private theorem ioc_mentions (ioc : IOC) : FieldsMention printable FULL_LOG (build_ioc_summary ioc).model_dump ↔
    TextMentions printable FULL_LOG ioc.value ∨ FieldsMention printable FULL_LOG (build_ioc_summary ioc).enrichment := by
  simp (disch := decide) only [IOCSummary.model_dump, FieldsMention, ValueMentions, silent, false_or, or_false]
  rw [show (build_ioc_summary ioc).type = ioc.type.value from rfl, show (build_ioc_summary ioc).value = ioc.value from rfl,
    silent (type_constant ioc.type), false_or]

private theorem recurrence_mentions (dedupe : Option CanonicalDedupe) (dedupe_status : String) :
    FieldsMention printable FULL_LOG (recurrence_info dedupe dedupe_status).model_dump ↔
      AnyMentions printable (dedupe.toList.flatMap (fun dedupe => dedupe.group_key :: dedupe.event_identity.toList)) ∨
        TextMentions printable FULL_LOG dedupe_status := by
  simp (disch := decide) only [RecurrenceInfo.model_dump, FieldsMention, ValueMentions, silent, optional_mentions,
    false_or, or_false]
  cases dedupe with
  | none =>
    simp (disch := decide) [recurrence_info, silent]
  | some dedupe =>
    simp only [recurrence_info, Option.map_some, Option.getD_some, Option.bind_some, Option.toList_some, any_cons, any_nil,
      isoformat_quiet, false_or, or_false, List.flatMap_singleton]
    rw [or_assoc]
    exact or_congr_right or_comm

/-- The status of the enrichment, or the constant for an alert without one. -/
private theorem status_mentions (status : Option String) :
    TextMentions printable FULL_LOG ((status.filter (· ≠ "")).getD "skipped") ↔
      AnyMentions printable status.toList := by
  have constants : ¬ TextMentions printable FULL_LOG "skipped" ∧ ¬ TextMentions printable FULL_LOG "" :=
    ⟨constant_silent (by decide), constant_silent (by decide)⟩
  cases status with
  | none => simp [constants]
  | some status =>
    by_cases empty : status = ""
    · simp [Option.filter, empty, constants]
    · simp [Option.filter, empty]

private theorem decision_mentions (decision : Decision) (runbook : Option String) :
    FieldsMention printable FULL_LOG (DecisionInfo.model_dump
      { action := decision.action.value, severity := decision.severity.map DecisionSeverity.value, reasons := decision.reasons
        runbook, decided_at := some decision.decided_at.isoformat }) ↔
      AnyMentions printable decision.reasons ∨ AnyMentions printable runbook.toList := by
  have severity : ¬ AnyMentions printable (decision.severity.map DecisionSeverity.value).toList := by
    cases decision.severity with
    | none => simp
    | some severity => simp [constant_silent (severity_constant severity)]
  have decided : ¬ AnyMentions printable (some decision.decided_at.isoformat).toList := by
    simp [isoformat_quiet]
  simp (disch := decide) only [DecisionInfo.model_dump, FieldsMention, ValueMentions, silent, texts_mention,
    optional_mentions, severity, decided, silent (action_constant decision.action), false_or, or_false]

private theorem risk_mentions (risk : RiskAssessment) :
    FieldsMention printable FULL_LOG (RiskInfo.model_dump
      { score := risk.score, tier := risk.tier.value, engine_version := risk.engine_version
        factors := risk.factors.map factor_entry, summary := risk.summary, degraded := risk.degraded }) ↔
      TextMentions printable FULL_LOG risk.engine_version ∨
        AnyMentions printable (risk.factors.flatMap (fun factor => [factor.name, factor.detail])) ∨
        TextMentions printable FULL_LOG risk.summary := by
  have factors : ItemsMention printable FULL_LOG ((risk.factors.map factor_entry).map Json.obj) ↔
      AnyMentions printable (risk.factors.flatMap (fun factor => [factor.name, factor.detail])) := by
    rw [items_mention_iff]
    constructor
    · rintro ⟨item, listed, mentioned⟩
      rw [List.map_map] at listed
      obtain ⟨factor, own, rfl⟩ := List.mem_map.mp listed
      rw [Function.comp_apply, ValueMentions, factor_mentions] at mentioned
      rcases mentioned with name | detail
      · exact ⟨factor.name, List.mem_flatMap.mpr ⟨factor, own, List.mem_cons_self⟩, name⟩
      · exact ⟨factor.detail, List.mem_flatMap.mpr ⟨factor, own, List.mem_cons_of_mem _ List.mem_cons_self⟩, detail⟩
    · rintro ⟨text, listed, mentioned⟩
      obtain ⟨factor, listed, own⟩ := List.mem_flatMap.mp listed
      refine ⟨.obj (factor_entry factor), List.mem_map_of_mem (List.mem_map_of_mem listed), ?_⟩
      rw [ValueMentions, factor_mentions]
      rcases List.mem_pair.mp own with rfl | rfl
      · exact .inl mentioned
      · exact .inr mentioned
  simp (disch := decide) only [RiskInfo.model_dump, FieldsMention, ValueMentions, silent, factors,
    silent (tier_constant risk.tier), false_or, or_false]

/-! ### Links -/

private theorem mentions_slash (left right : String) : TextMentions printable FULL_LOG (left ++ "/" ++ right) ↔
    TextMentions printable FULL_LOG left ∨ TextMentions printable FULL_LOG right := by
  have split := @text_mentions_slash printable FULL_LOG full_log_compound left.toList right.toList
  have joined : String.ofList (left.toList ++ '/' :: right.toList) = left ++ "/" ++ right := by
    apply String.toList_injective
    rw [String.toList_ofList, String.toList_append, String.toList_append]
    simp
  rw [joined, String.ofList_toList, String.ofList_toList] at split
  exact split

/-- The word is not in the name of a route, nor across its ends. -/
private theorem route_mentions (name : String) {route : String} (same : route = "/" ++ name ++ "/")
    (constant : name ∈ CONSTANTS) (left right : String) : TextMentions printable FULL_LOG (left ++ route ++ right) ↔
      TextMentions printable FULL_LOG left ∨ TextMentions printable FULL_LOG right := by
  have parts : left ++ route ++ right = left ++ "/" ++ name ++ "/" ++ right := by
    rw [same, ← String.append_assoc, ← String.append_assoc]
  rw [parts, mentions_slash, mentions_slash, silent constant, or_false]

/-- Slashes in front of a text mention nothing. -/
private theorem lstrip_mentions {text : List Char}
    (mentioned : TextMentions printable FULL_LOG (String.ofList (text.dropWhile (· = '/')))) :
    TextMentions printable FULL_LOG (String.ofList text) := by
  induction text with
  | nil => exact mentioned
  | cons c rest ih =>
    by_cases slash : c = '/'
    · rw [slash, List.dropWhile_cons_of_pos (by decide)] at mentioned
      rw [slash]
      exact (text_mentions_slash full_log_compound [] rest).mpr (.inr (ih mentioned))
    · rwa [List.dropWhile_cons_of_neg (by simpa using slash)] at mentioned

private theorem runbook_mentions {base : String} {runbook : Option String}
    (mentioned : AnyMentions printable (runbook_link base runbook).toList) :
    TextMentions printable FULL_LOG base ∨ AnyMentions printable runbook.toList := by
  cases runbook with
  | none => simp [runbook_link] at mentioned
  | some runbook =>
    simp only [runbook_link, Option.map_some, Option.toList_some, any_cons, any_nil, or_false] at mentioned ⊢
    split at mentioned
    · rcases (mentions_slash _ _).mp mentioned with own | stripped
      · exact .inl own
      · have whole := lstrip_mentions stripped
        rw [String.ofList_toList] at whole
        exact .inr whole
    · exact .inr mentioned

private theorem links_mention (base : String) (alert_id : UUID) (runbook : Option String) :
    FieldsMention printable FULL_LOG (investigation_links base alert_id runbook).model_dump ↔
      TextMentions printable FULL_LOG base ∨ TextMentions printable FULL_LOG alert_id ∨
        AnyMentions printable (runbook_link base runbook).toList := by
  have api : TextMentions printable FULL_LOG (base ++ "/api/v1/alerts/" ++ alert_id) ↔
      TextMentions printable FULL_LOG base ∨ TextMentions printable FULL_LOG alert_id :=
    route_mentions "api/v1/alerts" (by decide) (by decide) base alert_id
  have feedback : TextMentions printable FULL_LOG (base ++ "/api/v1/alerts/" ++ alert_id ++ "/feedback") ↔
      TextMentions printable FULL_LOG base ∨ TextMentions printable FULL_LOG alert_id := by
    have parts : base ++ "/api/v1/alerts/" ++ alert_id ++ "/feedback" =
        base ++ "/api/v1/alerts/" ++ alert_id ++ "/" ++ "feedback" := by
      rw [show "/feedback" = "/" ++ "feedback" by decide, ← String.append_assoc]
    rw [parts, mentions_slash, api, or_iff_left (constant_silent (by decide))]
  have console (shown : AnyMentions printable (if base ≠ "" then some (base ++ "/alerts/" ++ alert_id) else none).toList) :
      TextMentions printable FULL_LOG base ∨ TextMentions printable FULL_LOG alert_id := by
    split at shown
    · rw [Option.toList_some, any_cons, or_iff_left any_nil] at shown
      exact (route_mentions "alerts" (by decide) (by decide) base alert_id).mp shown
    · exact absurd shown any_nil
  simp (disch := decide) only [InvestigationLinks.model_dump, investigation_links, FieldsMention, ValueMentions,
    silent, optional_mentions, Option.toList_some, any_cons, any_nil, api, feedback, List.map_nil,
    false_or, or_false]
  constructor
  · rintro ((own | own) | shown | linked | (own | own))
    · exact .inl own
    · exact .inr (.inl own)
    · rcases console shown with own | own
      · exact .inl own
      · exact .inr (.inl own)
    · exact .inr (.inr linked)
    · exact .inl own
    · exact .inr (.inl own)
  · rintro (own | own | linked)
    · exact .inl (.inl own)
    · exact .inl (.inr own)
    · exact .inr (.inr (.inl linked))

/-! ### The whole -/

private theorem asset_part (asset : Option CanonicalAsset) :
    ValueMentions printable FULL_LOG (((asset.map asset_entry).map Json.obj).getD .null) ↔
      AnyMentions printable (asset.toList.flatMap (fun asset =>
        asset.name.toList ++ asset.tier.toList ++ asset.owner.toList)) := by
  cases asset with
  | none => simp [ValueMentions]
  | some asset =>
    rw [Option.map_some, Option.map_some, Option.getD_some, ValueMentions, asset_mentions, Option.toList_some,
      List.flatMap_singleton]

private theorem iocs_part (iocs : List IOC) :
    ItemsMention printable FULL_LOG ((iocs.map build_ioc_summary).map (fun ioc => Json.obj ioc.model_dump)) ↔
      AnyMentions printable (iocs.map IOC.value) ∨
        ∃ ioc ∈ iocs, FieldsMention printable FULL_LOG (build_ioc_summary ioc).enrichment := by
  rw [items_mention_iff]
  simp only [List.map_map, List.mem_map, Function.comp_apply, exists_exists_and_eq_and, ValueMentions, ioc_mentions,
    and_or_left, exists_or, AnyMentions]

end

section
variable {py : Python} {alert : CanonicalAlert} {risk : RiskAssessment} {decision : Decision} {dedupe_status base : String}

/-- The text of the payload has `full_log` in it exactly when one of the texts it is made of mentions it. -/
theorem payload_mentions_iff : Mentions FULL_LOG (repr py.printable
    (.obj (payload_of alert risk decision dedupe_status base).model_dump)) ↔
      Mentioned py alert risk decision dedupe_status base := by
  rw [mentions_repr full_log_compound, ValueMentions]
  simp (disch := decide) only [payload_of, N8NAlertPayload.model_dump, FieldsMention, ValueMentions, silent,
    isoformat_quiet, risk_mentions, decision_mentions, rule_mentions, agent_mentions, asset_part, recurrence_mentions,
    iocs_part, EnrichmentSummary.model_dump, status_mentions, List.map_nil, ItemsMention, links_mention,
    silent (tier_constant risk.tier), false_or, or_false]
  simp only [Mentioned, taken_texts, any_append, any_cons, any_nil, or_false]
  have absolute := @runbook_mentions py.printable base decision.runbook
  grind only

mutual
/-- The key of a field is one of the texts of the whole. -/
private theorem mentions_key {key : String} (mentioned : TextMentions py.printable FULL_LOG key) : ∀ value : Json,
    HasField key value → ValueMentions py.printable FULL_LOG value
  | .null, has | .bool _, has | .int _, has | .float _, has | .str _, has => by cases has
  | .arr items, has => by
    rw [HasField] at has
    rw [ValueMentions]
    exact items_key mentioned items has
  | .obj fields, has => by
    rw [HasField] at has
    rw [ValueMentions]
    exact fields_key mentioned fields has
private theorem items_key {key : String} (mentioned : TextMentions py.printable FULL_LOG key) : ∀ items : List Json,
    SomeHasField key items → ItemsMention py.printable FULL_LOG items
  | [], has => by cases has
  | item :: rest, has => by
    rw [SomeHasField] at has
    rw [ItemsMention]
    exact has.imp (mentions_key mentioned item) (items_key mentioned rest)
private theorem fields_key {key : String} (mentioned : TextMentions py.printable FULL_LOG key) : ∀ fields : JsonObject,
    FieldsHave key fields → FieldsMention py.printable FULL_LOG fields
  | [], has => by cases has
  | (name, value) :: rest, has => by
    rw [FieldsHave] at has
    rw [FieldsMention]
    rcases has with same | inner | later
    · exact .inl (same.symm ▸ mentioned)
    · exact .inr (.inl (mentions_key mentioned value inner))
    · exact .inr (.inr (fields_key mentioned rest later))
end

/-- A payload that is built has no field called `full_log`. -/
theorem no_full_log_field (absent : ¬ Mentioned py alert risk decision dedupe_status base) :
    ¬ FieldsHave "full_log" (payload_of alert risk decision dedupe_status base).model_dump := by
  intro has
  have key : TextMentions py.printable FULL_LOG "full_log" := by
    rw [text_verbatim full_log_compound (by decide)]
    exact List.infix_iff_prefix_suffix.mpr ⟨_, List.prefix_rfl, by decide⟩
  have whole := fields_key key _ has
  rw [← ValueMentions, ← mentions_repr full_log_compound] at whole
  exact absent (payload_mentions_iff.mp whole)

/-- The dump is checked on what the alert gives. -/
private theorem dumpable_iff : (py.dumpable (payload_of alert risk decision dedupe_status base).rule.mitre &&
    (payload_of alert risk decision dedupe_status base).iocs.all (fun ioc => py.dumpable ioc.enrichment)) = true ↔
      Writable py alert := by
  rw [Bool.and_eq_true, List.all_eq_true]
  refine and_congr Iff.rfl ?_
  show (∀ ioc ∈ alert.iocs.map build_ioc_summary, _) ↔ _
  rw [List.forall_mem_map]

private theorem build_checked {investigation_base_url : Option String} (scored : alert.risk = some risk)
    (decided : alert.decision = some decision) : build_n8n_payload py alert dedupe_status investigation_base_url =
      (payload_of alert risk decision dedupe_status (base_url investigation_base_url)).model_dump_sanitized py >>=
        fun _ => .ok (payload_of alert risk decision dedupe_status (base_url investigation_base_url)) := by
  rw [build_n8n_payload, scored, decided]
  rfl

/-- A scored and decided alert has a payload exactly when none of its texts mentions `full_log` and its dictionaries can be
    written; then no field of it is called `full_log`. -/
theorem payload_built_iff {investigation_base_url : Option String} (scored : alert.risk = some risk)
    (decided : alert.decision = some decision) :
    (∃ payload, build_n8n_payload py alert dedupe_status investigation_base_url = .ok payload ∧
      ¬ FieldsHave "full_log" payload.model_dump) ↔
      Writable py alert ∧ ¬ Mentioned py alert risk decision dedupe_status (base_url investigation_base_url) := by
  have built := @build_checked py alert risk decision dedupe_status investigation_base_url scored decided
  constructor
  · rintro ⟨payload, ran, -⟩
    rw [built, N8NAlertPayload.model_dump_sanitized] at ran
    split_ifs at ran with stuck mentioned
    · cases ran
    · cases ran
    · rw [Bool.not_eq_true, Bool.not_eq_false'] at stuck
      exact ⟨dumpable_iff.mp stuck, fun some_text => mentioned (payload_mentions_iff.mpr some_text)⟩
  · rintro ⟨writable, absent⟩
    refine ⟨_, ?_, no_full_log_field absent⟩
    rw [built, N8NAlertPayload.model_dump_sanitized, dumpable_iff.mpr writable, if_neg (by decide),
      if_neg (fun mentioned => absent (payload_mentions_iff.mp mentioned))]
    rfl
end

/-! ### Two alerts -/

/-- An alert of one rule and one agent. -/
def alert_of (description : String) : CanonicalAlert where
  alert_id := "0d7f2c1e-5a64-4d3b-9d0c-8f1e2a3b4c5d"
  received_at := .of_instant 1767312000000000
  source_event := { rule := { id := "5710", level := 10, description }, agent := { id := "001", name := "web-01" } }
  risk := some { score := 81, tier := .HIGH, engine_version := "1.0", factors := [], summary := "" }
  decision := some { action := .OPEN_INCIDENT, decided_at := .of_instant 1767312000000000 }

/-- No character beyond ASCII is printable, and every dictionary can be written. -/
def ascii : Python where
  printable _ := false
  dumpable _ := true

theorem plain_description_built : ∃ payload,
    build_n8n_payload ascii (alert_of "sshd: authentication failure") "new_generation" none = .ok payload ∧
      ¬ FieldsHave "full_log" payload.model_dump := by
  refine (payload_built_iff rfl rfl).mpr ⟨⟨rfl, fun _ inside => absurd inside List.not_mem_nil⟩, ?_⟩
  rintro (⟨text, taken, mentioned⟩ | mitre | ⟨ioc, listed, -⟩)
  · revert text
    decide +kernel
  · exact mitre
  · cases listed

/-- The rule `Full_log_forwarding disabled` is notified to nobody. -/
theorem mention_suppresses_notification :
    (alert_of "Full_log_forwarding disabled").risk.isSome ∧ (alert_of "Full_log_forwarding disabled").decision.isSome ∧
      build_n8n_payload ascii (alert_of "Full_log_forwarding disabled") "new_generation" none =
        .error (.AssertionError "payload must not contain full_log") ∧
      builder ascii none (alert_of "Full_log_forwarding disabled") "new_generation" = none := by
  have raised : build_n8n_payload ascii (alert_of "Full_log_forwarding disabled") "new_generation" none =
      .error (.AssertionError "payload must not contain full_log") := by
    rw [build_checked rfl rfl, N8NAlertPayload.model_dump_sanitized, if_neg (by decide), if_pos]
    · rfl
    · exact payload_mentions_iff.mpr (.inl ⟨"Full_log_forwarding disabled", by decide, by decide +kernel⟩)
  refine ⟨rfl, rfl, raised, ?_⟩
  rw [builder, raised]

end SocTriage.PayloadSafety
