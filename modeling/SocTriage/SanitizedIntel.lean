import SocTriage.LookupIsolation

/-!
What is stored of an upstream answer. MISP's is always of one form; VirusTotal's is unless
its reputation is neither an integer nor null, since this one field is copied as it comes
(`stored_shape_iff`).
-/
namespace SocTriage.SanitizedIntel
open ThreatIntel

/-! ### The fields of a body -/

/-- The value at the end of a path of keys. -/
def at_path : List String → Json → Option Json
  | [], value => some value
  | key :: rest, value => (Json.field key value).bind (at_path rest)

def VERDICTS : List String := ["malicious", "suspicious", "harmless", "undetected"]

/-- A verdict count of a VirusTotal report. -/
def verdict (key : String) (body : Json) : Option Json := at_path ["data", "attributes", "last_analysis_stats", key] body

def reputation (body : Json) : Option Json := at_path ["data", "attributes", "reputation"] body

/-- The attributes of a MISP answer that are dictionaries. -/
def matched (body : Json) : List JsonObject :=
  match at_path ["response", "Attribute"] body with
  | some (.arr items) => items.filterMap (fun item => match item with | .obj fields => some fields | _ => none)
  | _ => []

def event_id (fields : JsonObject) : Option Json :=
  match Json.lookup "event_id" fields with
  | none | some .null => none
  | some event_id => some event_id

/-- The names of the tags of an attribute, as far as they are dictionaries. -/
def names (fields : JsonObject) : List (Option Json) :=
  match Json.lookup "tags" fields with
  | some (.arr items) => items.map (Json.field "name")
  | _ => []

/-! ### The form of what is stored -/

inductive IntelProvider where
  | virustotal | misp
deriving DecidableEq

section
variable (py : Conversions)

def IntelProvider.self (retry : RetryConfig) : IntelProvider → BaseHTTPThreatIntelProvider
  | .virustotal => { VirusTotalProvider py with retry }
  | .misp => { MISPProvider py with retry }

/-- Four integer counts and a reputation that is an integer or null. -/
def VirusTotalShape (result : JsonObject) : Prop :=
  ∃ malicious suspicious harmless undetected reputation, result = [("malicious", .int malicious),
    ("suspicious", .int suspicious), ("harmless", .int harmless), ("undetected", .int undetected),
    ("reputation", reputation)] ∧
    (reputation = .null ∨ ∃ n, reputation = .int n)

/-- An integer count, and two capped lists of texts. -/
def MispShape (result : JsonObject) : Prop :=
  ∃ (match_count : Int) (event_ids tags : List String), result = [("match_count", .int match_count),
    ("event_ids", .arr (event_ids.map Json.str)), ("tags", .arr (tags.map Json.str))] ∧
    event_ids.length ≤ 20 ∧ tags.length ≤ 50

def IntelProvider.Shape : IntelProvider → JsonObject → Prop
  | .virustotal => VirusTotalShape
  | .misp => MispShape

/-- The bodies have the same in the fields that are stored. -/
def IntelProvider.Agree : IntelProvider → Json → Json → Prop
  | .virustotal, body, body' => (∀ key ∈ VERDICTS, verdict key body' = verdict key body) ∧ reputation body' = reputation body
  | .misp, body, body' => (matched body').map (fun fields => (event_id fields, names fields)) =
      (matched body).map (fun fields => (event_id fields, names fields))

/-- A reputation, if there is one, is an integer or null. -/
def IntelProvider.Clear : IntelProvider → Json → Prop
  | .virustotal, body => ∀ value, reputation body = some value → value = .null ∨ ∃ n, value = .int n
  | .misp, _ => True

/-- The lookup of an indicator was answered with status 2xx and the body. -/
structure Answered (self : BaseHTTPThreatIntelProvider) (ioc : IOC) (behaviour : Behaviour) (body : Json) : Prop where
  acquired : behaviour.acquired = true
  response : ∃ response, (self.build_request ioc >>= fun _ => get py self.retry behaviour) = .ok response ∧
    200 ≤ response.status_code ∧ response.status_code < 300 ∧ response.body = .ok body
end

/-! ### VirusTotal -/

section
variable {py : Conversions}

/-- `_int_or_zero` of a value that may be missing. -/
private def count_of (py : Conversions) : Option Json → Except Exn Int
  | none | some .null => .ok 0
  | some value => int_value py value

/-- What is made of the attributes, given the statistics in them. -/
private def metadata (py : Conversions) (attributes stats : JsonObject) : Except Exn (Option JsonObject) := do
  let malicious ← int_or_zero py stats "malicious"
  let suspicious ← int_or_zero py stats "suspicious"
  let harmless ← int_or_zero py stats "harmless"
  let undetected ← int_or_zero py stats "undetected"
  return some [("malicious", .int malicious), ("suspicious", .int suspicious), ("harmless", .int harmless),
    ("undetected", .int undetected), ("reputation", (Json.lookup "reputation" attributes).getD .null)]

private theorem metadata_some {attributes stats result : JsonObject}
    (made : metadata py attributes stats = .ok (some result)) :
    ∃ malicious suspicious harmless undetected, int_or_zero py stats "malicious" = .ok malicious ∧
      int_or_zero py stats "suspicious" = .ok suspicious ∧ int_or_zero py stats "harmless" = .ok harmless ∧
      int_or_zero py stats "undetected" = .ok undetected ∧
      result = [("malicious", .int malicious), ("suspicious", .int suspicious), ("harmless", .int harmless),
        ("undetected", .int undetected), ("reputation", (Json.lookup "reputation" attributes).getD .null)] := by
  unfold metadata at made
  obtain ⟨malicious, first, made⟩ := bind_ok.mp made
  obtain ⟨suspicious, second, made⟩ := bind_ok.mp made
  obtain ⟨harmless, third, made⟩ := bind_ok.mp made
  obtain ⟨undetected, fourth, made⟩ := bind_ok.mp made
  cases made
  exact ⟨malicious, suspicious, harmless, undetected, first, second, third, fourth, rfl⟩

/-- What is stored of a report, field by field. -/
theorem virustotal_sanitize_some (ioc : IOC) {body : Json} {result : JsonObject}
    (accepted : virustotal_sanitize py ioc body = .ok (some result)) :
    ∃ malicious suspicious harmless undetected, count_of py (verdict "malicious" body) = .ok malicious ∧
      count_of py (verdict "suspicious" body) = .ok suspicious ∧ count_of py (verdict "harmless" body) = .ok harmless ∧
      count_of py (verdict "undetected" body) = .ok undetected ∧
      result = [("malicious", .int malicious), ("suspicious", .int suspicious), ("harmless", .int harmless),
        ("undetected", .int undetected), ("reputation", (reputation body).getD .null)] := by
  cases body with
  | obj body =>
    simp only [virustotal_sanitize] at accepted
    split at accepted
    · cases accepted
    · cases accepted
    · rename_i data data_found
      split at accepted
      · rename_i attributes attributes_found
        have reputed : reputation (.obj body) = Json.lookup "reputation" attributes := by
          simp only [reputation, at_path, Json.field, data_found, attributes_found, Option.bind_some, Option.bind_fun_some]
        have counted : ∀ key, verdict key (.obj body) =
            (Json.lookup "last_analysis_stats" attributes).bind (fun stats => Json.field key stats) := by
          intro key
          simp only [verdict, at_path, data_found, attributes_found, Option.bind_some, Option.bind_fun_some, Json.field]
        rw [reputed]
        simp only [counted]
        split at accepted
        · rename_i missing
          rw [missing]
          exact metadata_some accepted
        · rename_i missing
          rw [missing]
          exact metadata_some accepted
        · rename_i stats found
          rw [found]
          exact metadata_some accepted
        · cases accepted
      · cases accepted
    · cases accepted
  | null => cases accepted
  | bool _ => cases accepted
  | int _ => cases accepted
  | float _ => cases accepted
  | str _ => cases accepted
  | arr _ => cases accepted

end

/-! ### MISP -/

section
variable (py : Conversions)

/-- The text of a name that is kept: one that is there and not empty. -/
def tag_text (name : Option Json) : Option String :=
  name.bind (fun name => if name.truthy then (py.str name).toOption else none)

/-- The tags of all matching attributes. -/
def tags (body : Json) : List String := (matched body).flatMap (fun fields => (names fields).filterMap (tag_text py))

/-- The event ids of all matching attributes. -/
def event_ids (body : Json) : List String := (matched body).filterMap (fun fields =>
  (event_id fields).bind (fun event_id => (py.str event_id).toOption))
end

section
variable {py : Conversions}

/-- The attributes among the elements of a list that are dictionaries. -/
private def dictionaries (items : List Json) : List JsonObject :=
  items.filterMap (fun item => match item with | .obj fields => some fields | _ => none)

private theorem tag_name_text {tag : Json} {name : Option String} (named : tag_name py tag = .ok name) :
    name = tag_text py (Json.field "name" tag) := by
  unfold tag_name at named
  cases found : Json.field "name" tag with
  | none => rw [found] at named; cases named; rfl
  | some value =>
    rw [found] at named
    dsimp only at named
    by_cases empty : value.truthy = true
    · rw [if_pos empty] at named
      cases written : py.str value with
      | error exception => rw [written] at named; cases named
      | ok text =>
        rw [written] at named
        cases named
        rw [tag_text, Option.bind_some, if_pos empty, written]
        rfl
    · rw [if_neg empty] at named
      cases named
      rw [tag_text, Option.bind_some, if_neg empty]

/-- The tags of one attribute. -/
private theorem gathered_tags {fields : JsonObject} {items : List Json} {found : List (Option String)}
    (iterable : iterated (Json.lookup "tags" fields) = .ok items) (named : items.mapM (tag_name py) = .ok found) :
    found.filterMap id = (names fields).filterMap (tag_text py) := by
  have each : ∀ (items : List Json) (found : List (Option String)), items.mapM (tag_name py) = .ok found →
      found = items.map (fun tag => tag_text py (Json.field "name" tag)) := by
    intro items
    induction items with
    | nil => intro found named; cases named; rfl
    | cons tag rest ih =>
      intro found named
      rw [List.mapM_cons] at named
      obtain ⟨name, first, named⟩ := bind_ok.mp named
      obtain ⟨others, later, named⟩ := bind_ok.mp named
      cases named
      rw [List.map_cons, tag_name_text first, ih others later]
  rw [each items found named, List.filterMap_map]
  unfold iterated at iterable
  unfold names
  split at iterable
  · rename_i found
    cases iterable
    rw [found]
    dsimp only
    rw [List.filterMap_map]
    rfl
  · rename_i found; cases iterable; rw [found]; rfl
  · rename_i found; cases iterable; rw [found]; rfl
  · rename_i value listed _ _ found
    rw [found]
    split at iterable
    · cases iterable
    · cases iterable
      cases value with
      | arr items => exact absurd rfl (listed items)
      | _ => rfl
  · rename_i found; cases iterable; rw [found]; rfl

/-- What the loop over the attributes adds to what it had. -/
private theorem add_match_fold {items : List Json} {before after : Matches}
    (folded : items.foldlM (add_match py) before = .ok after) :
    after.match_count = before.match_count + (dictionaries items).length ∧
      after.event_ids = before.event_ids ++ (dictionaries items).filterMap event_id ∧
      after.tags = before.tags ++ (dictionaries items).flatMap (fun fields => (names fields).filterMap (tag_text py)) := by
  induction items generalizing before with
  | nil => cases folded; simp [dictionaries]
  | cons item rest ih =>
    rw [List.foldlM_cons] at folded
    obtain ⟨next, added, folded⟩ := bind_ok.mp folded
    obtain ⟨count, ids, all⟩ := ih folded
    cases item with
    | obj fields =>
      unfold add_match at added
      dsimp only at added
      obtain ⟨items, iterable, added⟩ := bind_ok.mp added
      obtain ⟨found, named, added⟩ := bind_ok.mp added
      cases added
      have split : dictionaries (.obj fields :: rest) = fields :: dictionaries rest := rfl
      rw [split, count, ids, all, gathered_tags iterable named]
      refine ⟨?_, ?_, ?_⟩
      · rw [List.length_cons]; exact Nat.add_right_comm _ _ _
      · rw [List.filterMap_cons]
        unfold event_id
        cases Json.lookup "event_id" fields with
        | none => rfl
        | some value =>
          cases value with
          | null => rfl
          | _ => exact List.append_assoc _ _ _
      · rw [List.flatMap_cons, List.append_assoc]
    | null => cases added; exact ⟨count, ids, all⟩
    | bool _ => cases added; exact ⟨count, ids, all⟩
    | int _ => cases added; exact ⟨count, ids, all⟩
    | float _ => cases added; exact ⟨count, ids, all⟩
    | str _ => cases added; exact ⟨count, ids, all⟩
    | arr _ => cases added; exact ⟨count, ids, all⟩

private theorem matched_of {body : Json} {items : List Json}
    (found : at_path ["response", "Attribute"] body = some (.arr items)) :
    matched body = dictionaries items := by
  rw [matched, found]; rfl

/-- The identifiers as texts. -/
private theorem written_ids {ids : List Json} {texts : List String} (written : ids.mapM py.str = .ok texts) :
    texts = ids.filterMap (fun event_id => (py.str event_id).toOption) := by
  induction ids generalizing texts with
  | nil => cases written; rfl
  | cons id rest ih =>
    rw [List.mapM_cons] at written
    obtain ⟨text, first, written⟩ := bind_ok.mp written
    obtain ⟨others, later, written⟩ := bind_ok.mp written
    cases written
    rw [List.filterMap_cons, first, ih later]
    rfl

/-- What is stored of an answer: how many attributes match, and the first of their event ids and of their tags. -/
theorem misp_sanitize_some (ioc : IOC) {body : Json} {result : JsonObject}
    (accepted : misp_sanitize py ioc body = .ok (some result)) :
    result = [("match_count", .int (matched body).length),
      ("event_ids", .arr (((Evidence.sorted_set (event_ids py body)).take MAX_EVENT_IDS).map Json.str)),
      ("tags", .arr (((Evidence.sorted_set (tags py body)).take MAX_TAGS).map Json.str))] := by
  cases body with
  | obj body =>
    simp only [misp_sanitize] at accepted
    split at accepted
    · cases accepted
    · rename_i response response_found
      obtain ⟨attributes, listed, accepted⟩ := bind_ok.mp accepted
      split at accepted
      · cases accepted
      · rename_i filled
        have found : at_path ["response", "Attribute"] (.obj body) = some (.arr attributes) := by
          simp only [at_path, Json.field, response_found, Option.bind_some]
          split at listed
          · cases listed; exact absurd rfl filled
          · rename_i found; cases listed; rw [found]; rfl
          · split at listed
            · cases listed
            · cases listed; exact absurd rfl filled
        obtain ⟨gathered, folded, accepted⟩ := bind_ok.mp accepted
        obtain ⟨texts, written, accepted⟩ := bind_ok.mp accepted
        cases accepted
        obtain ⟨count, ids, all⟩ := add_match_fold folded
        have ids_written : texts = event_ids py (.obj body) := by
          rw [written_ids written, ids, event_ids, matched_of found, List.nil_append, List.filterMap_filterMap]
        have all_tags : gathered.tags = tags py (.obj body) := by
          rw [all, tags, matched_of found, List.nil_append]
        rw [ids_written, all_tags, count, matched_of found, Nat.zero_add]
    · cases accepted
  | null => cases accepted
  | bool _ => cases accepted
  | int _ => cases accepted
  | float _ => cases accepted
  | str _ => cases accepted
  | arr _ => cases accepted

/-- An answer that is no match has no attribute that is a dictionary. -/
theorem misp_sanitize_none (ioc : IOC) {body : Json} (accepted : misp_sanitize py ioc body = .ok none) :
    matched body = [] := by
  cases body with
  | obj body =>
    simp only [misp_sanitize] at accepted
    split at accepted
    · rename_i response_found
      simp only [matched, at_path, Json.field, response_found, Option.bind_some]
      rfl
    · rename_i response response_found
      obtain ⟨attributes, listed, accepted⟩ := bind_ok.mp accepted
      split at accepted
      · rename_i empty
        rw [List.isEmpty_iff.mp empty] at listed
        simp only [matched, at_path, Json.field, response_found, Option.bind_some]
        split at listed
        · rename_i missing; rw [missing]; rfl
        · rename_i found; cases listed; rw [found]; rfl
        · rename_i value no_list found
          rw [found]
          cases value with
          | arr items => exact absurd rfl (no_list items)
          | _ => rfl
      · obtain ⟨gathered, -, accepted⟩ := bind_ok.mp accepted
        obtain ⟨texts, -, accepted⟩ := bind_ok.mp accepted
        cases accepted
    · cases accepted
  | null => rfl
  | bool _ => rfl
  | int _ => rfl
  | float _ => rfl
  | str _ => rfl
  | arr _ => rfl

/-! ### What is stored -/

/-- An accepted answer is stored as it was sanitized, or as no match. -/
theorem lookup_one_accepted {self : BaseHTTPThreatIntelProvider} {ioc : IOC} {behaviour : Behaviour} {body : Json}
    {metadata : Option JsonObject} (answered : Answered py self ioc behaviour body)
    (accepted : self.sanitize ioc body = .ok metadata) :
    ∃ record, lookup_one py self ioc behaviour = .ok record ∧ record.result = metadata.getD [] ∧
      record.lookup_status = if metadata.isSome then .FOUND else .NOT_FOUND := by
  obtain ⟨acquired, response, asked, low, high, parsed⟩ := answered
  rw [lookup_one, acquired, asked]
  simp only [Bool.not_true, Bool.false_eq_true, ↓reduceIte]
  rw [if_neg (by omega), if_neg (by omega), if_neg (by omega), parsed]
  dsimp only
  rw [accepted]
  cases metadata with
  | none => exact ⟨_, rfl, rfl, rfl⟩
  | some result => exact ⟨_, rfl, rfl, rfl⟩

private theorem virustotal_agree (ioc ioc' : IOC) {body body' : Json} {result result' : JsonObject}
    (agree : IntelProvider.virustotal.Agree body body') (accepted : virustotal_sanitize py ioc body = .ok (some result))
    (accepted' : virustotal_sanitize py ioc' body' = .ok (some result')) : result' = result := by
  obtain ⟨counts, reputed⟩ := agree
  obtain ⟨malicious, suspicious, harmless, undetected, first, second, third, fourth, rfl⟩ :=
    virustotal_sanitize_some ioc accepted
  obtain ⟨malicious', suspicious', harmless', undetected', first', second', third', fourth', rfl⟩ :=
    virustotal_sanitize_some ioc' accepted'
  rw [counts _ (by decide)] at first' second' third' fourth'
  rw [reputed]
  cases first.symm.trans first'
  cases second.symm.trans second'
  cases third.symm.trans third'
  cases fourth.symm.trans fourth'
  rfl

private theorem misp_agree (ioc ioc' : IOC) {body body' : Json} {result result' : JsonObject}
    (agree : IntelProvider.misp.Agree body body') (accepted : misp_sanitize py ioc body = .ok (some result))
    (accepted' : misp_sanitize py ioc' body' = .ok (some result')) : result' = result := by
  have same_count : (matched body').length = (matched body).length := by
    have := congrArg List.length agree
    rwa [List.length_map, List.length_map] at this
  have same_ids : event_ids py body' = event_ids py body := by
    have := congrArg (List.filterMap (fun entry => entry.1.bind (fun event_id => (py.str event_id).toOption))) agree
    rwa [List.filterMap_map, List.filterMap_map] at this
  have same_tags : tags py body' = tags py body := by
    have := congrArg (List.flatMap (fun entry => entry.2.filterMap (tag_text py))) agree
    rwa [List.flatMap_map, List.flatMap_map] at this
  rw [misp_sanitize_some ioc accepted, misp_sanitize_some ioc' accepted', same_count, same_ids, same_tags]

/-- What is stored of the answer has the form, or nothing is stored as there is no match; and any answer to a lookup
    with the same in the stored fields leaves the same, if both are matches or neither is. -/
def Closed (py : Conversions) (retry : RetryConfig) (provider : IntelProvider) (ioc : IOC) (behaviour : Behaviour)
    (body : Json) :
    Prop :=
  ∃ record, lookup_one py (provider.self py retry) ioc behaviour = .ok record ∧
    (record.lookup_status = .FOUND ∧ provider.Shape record.result ∨ record.lookup_status = .NOT_FOUND ∧ record.result = []) ∧
    ∀ ioc' behaviour' body' metadata' record', Answered py (provider.self py retry) ioc' behaviour' body' →
      (provider.self py retry).sanitize ioc' body' = .ok metadata' →
      lookup_one py (provider.self py retry) ioc' behaviour' = .ok record' →
      provider.Agree body body' → record'.lookup_status = record.lookup_status → record'.result = record.result

/-- Where the fields determine what is stored, only the form is left. -/
private theorem closed_iff {retry : RetryConfig} {provider : IntelProvider} {ioc : IOC} {behaviour : Behaviour} {body : Json}
    {metadata : Option JsonObject} (answered : Answered py (provider.self py retry) ioc behaviour body)
    (accepted : (provider.self py retry).sanitize ioc body = .ok metadata)
    (agree : ∀ ioc' body' result result', metadata = some result →
      (provider.self py retry).sanitize ioc' body' = .ok (some result') → provider.Agree body body' → result' = result) :
    Closed py retry provider ioc behaviour body ↔ ∀ result, metadata = some result → provider.Shape result := by
  obtain ⟨record, looked_up, stored, status⟩ := lookup_one_accepted answered accepted
  constructor
  · rintro ⟨record', looked_up', form, -⟩ result rfl
    cases looked_up.symm.trans looked_up'
    rcases form with ⟨-, shape⟩ | ⟨missing, -⟩
    · rwa [stored] at shape
    · cases status.symm.trans missing
  · intro shape
    refine ⟨record, looked_up, ?_, ?_⟩
    · cases metadata with
      | none => exact .inr ⟨status, stored⟩
      | some result => exact .inl ⟨status, by rw [stored]; exact shape result rfl⟩
    · intro ioc' behaviour' body' metadata' record' answered' accepted' looked_up' same same_status
      obtain ⟨stored_record, looked_up'', stored', status'⟩ := lookup_one_accepted answered' accepted'
      cases looked_up'.symm.trans looked_up''
      rw [stored, stored']
      cases metadata with
      | none =>
        cases metadata' with
        | none => rfl
        | some result' => cases (status'.symm.trans same_status).trans status
      | some result =>
        cases metadata' with
        | none => cases (status'.symm.trans same_status).trans status
        | some result' => exact agree ioc' body' result result' rfl accepted' same

/-- Without a report there is no reputation. -/
private theorem virustotal_sanitize_none (ioc : IOC) {body : Json} (accepted : virustotal_sanitize py ioc body = .ok none) :
    reputation body = none := by
  cases body with
  | obj body =>
    simp only [virustotal_sanitize] at accepted
    split at accepted
    · rename_i missing; simp only [reputation, at_path, Json.field, missing]; rfl
    · rename_i missing; simp only [reputation, at_path, Json.field, missing]; rfl
    · rename_i data data_found
      have never : ∀ attributes stats : JsonObject, metadata py attributes stats ≠ .ok none := by
        intro attributes stats made
        unfold metadata at made
        obtain ⟨malicious, -, made⟩ := bind_ok.mp made
        obtain ⟨suspicious, -, made⟩ := bind_ok.mp made
        obtain ⟨harmless, -, made⟩ := bind_ok.mp made
        obtain ⟨undetected, -, made⟩ := bind_ok.mp made
        cases made
      split at accepted
      · split at accepted
        · exact absurd accepted (never _ _)
        · exact absurd accepted (never _ _)
        · exact absurd accepted (never _ _)
        · cases accepted
      · cases accepted
    · cases accepted
  | null => rfl
  | bool _ => rfl
  | int _ => rfl
  | float _ => rfl
  | str _ => rfl
  | arr _ => rfl

/-- What is stored of any accepted answer is of the closed form exactly when a VirusTotal report has no reputation
    that is neither an integer nor null. -/
theorem stored_shape_iff (py : Conversions) (retry : RetryConfig) (provider : IntelProvider) (ioc : IOC)
    (behaviour : Behaviour)
    (body : Json) (metadata : Option JsonObject) (answered : Answered py (provider.self py retry) ioc behaviour body)
    (accepted : (provider.self py retry).sanitize ioc body = .ok metadata) :
    Closed py retry provider ioc behaviour body ↔ provider.Clear body := by
  cases provider with
  | virustotal =>
    refine (closed_iff answered accepted ?_).trans ?_
    · rintro ioc' body' result result' rfl accepted' same
      exact virustotal_agree ioc ioc' same accepted accepted'
    · cases metadata with
      | none =>
        have missing : reputation body = none := virustotal_sanitize_none ioc accepted
        refine iff_of_true (by rintro result ⟨⟩) (fun value found => ?_)
        cases missing.symm.trans found
      | some result =>
        obtain ⟨malicious, suspicious, harmless, undetected, -, -, -, -, rfl⟩ := virustotal_sanitize_some ioc accepted
        constructor
        · intro shape value found
          obtain ⟨_, _, _, _, stored, same, form⟩ := shape _ rfl
          rw [found] at same
          cases same
          exact form
        · intro clear _ same
          cases same
          refine ⟨malicious, suspicious, harmless, undetected, _, rfl, ?_⟩
          cases found : reputation body with
          | none => exact .inl rfl
          | some value => exact clear value found
  | misp =>
    refine (closed_iff answered accepted ?_).trans (iff_of_true ?_ trivial)
    · rintro ioc' body' result result' rfl accepted' same
      exact misp_agree ioc ioc' same accepted accepted'
    · rintro result rfl
      refine ⟨_, _, _, misp_sanitize_some ioc accepted, ?_, ?_⟩
      · exact (List.length_take_le _ _)
      · exact (List.length_take_le _ _)

end

/-! ### Two reports -/

/-- A report with a reputation. -/
def reputed (reputation : Json) : Json := .obj [("data", .obj [("attributes", .obj [("reputation", reputation)])])]

private theorem undrawn : ∀ _ : Nat, (0 : ℚ) ≤ 1 := fun _ => zero_le_one

/-- The first attempt is answered with the body. -/
def answering (body : Json) : Behaviour where
  attempts _ := .response { status_code := 200, body := .ok body }
  draws _ := 1
  drawn := undrawn

/-- An integer reputation is stored in the form. -/
theorem integer_reputation_closed :
    Closed ascii_conversions default_retry .virustotal known_address (answering (reputed (.int (-3))))
      (reputed (.int (-3))) := by
  refine (stored_shape_iff ascii_conversions default_retry .virustotal known_address (answering (reputed (.int (-3))))
    (reputed (.int (-3))) _ ⟨rfl, ?_⟩ rfl).mpr ?_
  · exact ⟨{ status_code := 200, body := .ok (reputed (.int (-3))) }, rfl, by decide, by decide, rfl⟩
  · rintro value found
    cases found
    exact .inr ⟨-3, rfl⟩

/-- A reputation that is an object is stored with all it holds. -/
theorem nested_reputation_stored :
    ¬ ∀ (py : Conversions) (retry : RetryConfig) (provider : IntelProvider) (ioc : IOC) (behaviour : Behaviour) (body : Json)
      (metadata : Option JsonObject), Answered py (provider.self py retry) ioc behaviour body →
      (provider.self py retry).sanitize ioc body = .ok metadata → Closed py retry provider ioc behaviour body := by
  intro always
  obtain ⟨record, looked_up, form, -⟩ := always ascii_conversions default_retry .virustotal known_address
    (answering (reputed (.obj [("note", .str "raw")]))) (reputed (.obj [("note", .str "raw")])) _
    ⟨rfl, { status_code := 200, body := .ok (reputed (.obj [("note", .str "raw")])) }, rfl, by decide, by decide, rfl⟩ rfl
  cases looked_up
  rcases form with ⟨-, _, _, _, _, _, stored, plain⟩ | ⟨missing, -⟩
  · cases stored
    rcases plain with null | ⟨n, integer⟩
    · cases null
    · cases integer
  · cases missing

end SocTriage.SanitizedIntel
