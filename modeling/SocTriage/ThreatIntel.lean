import Mathlib.Algebra.Order.Field.Rat
import Mathlib.Tactic.NormNum
import SocTriage.Enrichment
import SocTriage.Evidence

/-!
The lookups of an HTTP provider with the exceptions they meet: building the request, the retries
with their sleeps, reading the response and sanitizing its body, for VirusTotal and for MISP. The
exceptions are told apart as far as an `except` clause does. An exception that no clause names
ends the enrichment.
-/
namespace SocTriage.ThreatIntel
open Enrichment

/-! ### Exceptions and conversions -/

/-- `HTTPError` stands for the `httpx.HTTPError` classes that have no case of their own. -/
inductive Exn where
  | TimeoutException | ConnectError | ReadError | WriteError | RemoteProtocolError | HTTPError
  | ValueError | KeyError | TypeError | OverflowError | RecursionError
  | other (name : String)
deriving DecidableEq, Repr

/-- The exceptions `_get` sleeps on before it asks again. -/
def RETRYABLE_EXCEPTIONS : List Exn := [.TimeoutException, .ConnectError, .ReadError, .WriteError, .RemoteProtocolError]

/-- The instances of `httpx.HTTPError`. -/
def HTTP_ERRORS : List Exn := .HTTPError :: RETRYABLE_EXCEPTIONS

def SANITIZE_EXCEPTIONS : List Exn := [.ValueError, .KeyError, .TypeError]

def RETRYABLE_STATUS_CODES : List Nat := [429, 500, 502, 503, 504]

/-- What Python's conversions rest on: the decimal digits of Unicode, the integer part of a float by its text, `str` of
    a JSON value, unpadded base64, and the nesting that `model_dump` follows. -/
structure Conversions where
  digit : Char → Option Nat
  truncated : String → Int
  str : Json → Except Exn String
  base64url : String → String
  dumpable : JsonObject → Bool
  dumpable_nil : dumpable [] = true

section
variable (py : Conversions)

/-- `int(text)`, absent for a `ValueError`: a sign, then at most 4300 digits with single underscores between them. -/
def int_text (text : String) : Option Int :=
  let cs := (Text.strip text).toList
  let (sign, rest) : Int × List Char := match cs with
    | '-' :: rest => (-1, rest)
    | '+' :: rest => (1, rest)
    | rest => (1, rest)
  let groups := rest.splitOn '_'
  if groups.any List.isEmpty then none
  else
    match groups.flatten.mapM py.digit with
    | none => none
    | some digits => if 4300 < digits.length then none else some (sign * (digits.foldl (fun n d => 10 * n + d) 0 : Nat))

/-- `float(n)` raises: the nearest float is past the largest. -/
def float_overflows (n : Int) : Bool := 2 ^ 1024 - 2 ^ 970 ≤ n.natAbs

/-- `int(value)`. -/
def int_value : Json → Except Exn Int
  | .int n => .ok n
  | .bool b => .ok (if b then 1 else 0)
  | .float "nan" => .error .ValueError
  | .float "inf" => .error .OverflowError
  | .float "-inf" => .error .OverflowError
  | .float text => .ok (py.truncated text)
  | .str text => match int_text py text with
    | none => .error .ValueError
    | some n => .ok n
  | .null => .error .TypeError
  | .arr _ => .error .TypeError
  | .obj _ => .error .TypeError

/-! ### Responses and retries -/

structure RetryConfig where
  max_attempts : Nat
  base_delay : ℚ
  max_delay : ℚ
  attempts : 1 ≤ max_attempts ∧ max_attempts ≤ 10
  delays : 0 ≤ base_delay ∧ 0 ≤ max_delay

def default_retry : RetryConfig where
  max_attempts := 3
  base_delay := 1 / 2
  max_delay := 8
  attempts := by decide
  delays := by norm_num

/-- A response: its status, its `Retry-After` header and what `response.json()` makes of its body. -/
structure Response where
  status_code : Nat
  retry_after : Option String := none
  body : Except Exn Json

/-- What `client.get` does. -/
inductive Attempt where
  | raised (exception : Exn)
  | response (response : Response)

/-- What one indicator meets: its cache entry, its token, the time of its lookup, the answers to its
    attempts, and the draws that spread its retries. -/
structure Behaviour where
  cached : Option LookupRecord := none
  acquired : Bool := true
  now : String := "1970-01-01T00:00:00+00:00"
  attempts : Nat → Attempt
  draws : Nat → ℚ
  drawn : ∀ n, 0 ≤ draws n

/-- `time.sleep`. -/
def sleep (delay : ℚ) : Except Exn Unit := if delay < 0 then .error .ValueError else .ok ()

/-- The seconds to wait; `draw` is the factor `_jittered` draws. -/
def retry_after_or (response : Response) (fallback draw cap : ℚ) : Except Exn ℚ :=
  match response.retry_after.bind (int_text py) with
  | some n => if float_overflows n then .error .OverflowError else .ok (min (n : ℚ) cap)
  | none => .ok (min (fallback * draw) cap)

/-- The attempts of `_get` from one on, with the number that may follow it. -/
def get_from (retry : RetryConfig) (behaviour : Behaviour) : Nat → Nat → ℚ → Except Exn Response
  | 0, attempt, _ =>
    match behaviour.attempts attempt with
    | .raised exception => .error exception
    | .response response => .ok response
  | left + 1, attempt, delay =>
    match behaviour.attempts attempt with
    | .raised exception =>
      if RETRYABLE_EXCEPTIONS.contains exception then do
        sleep (delay * behaviour.draws attempt)
        get_from retry behaviour left (attempt + 1) (min (delay * 2) retry.max_delay)
      else .error exception
    | .response response =>
      if RETRYABLE_STATUS_CODES.contains response.status_code then do
        let seconds ← retry_after_or py response delay (behaviour.draws attempt) retry.max_delay
        sleep seconds
        get_from retry behaviour left (attempt + 1) (min (delay * 2) retry.max_delay)
      else .ok response

def get (retry : RetryConfig) (behaviour : Behaviour) : Except Exn Response :=
  get_from py retry behaviour (retry.max_attempts - 1) 0 retry.base_delay

/-! ### Lookups -/

/-- A provider: its request for an indicator, as a path and parameters, and its sanitizer. -/
structure BaseHTTPThreatIntelProvider where
  name : String
  enabled : Bool := true
  handled_types : List IOCType
  retry : RetryConfig := default_retry
  build_request : IOC → Except Exn (String × List (String × String))
  sanitize : IOC → Json → Except Exn (Option JsonObject)

def lookup_one (self : BaseHTTPThreatIntelProvider) (ioc : IOC) (behaviour : Behaviour) : Except Exn LookupRecord :=
  let record (lookup_status : LookupStatus) (result : JsonObject) : LookupRecord :=
    { provider := self.name, indicator_type := ioc.type.value, timestamp := behaviour.now, lookup_status, result }
  if !behaviour.acquired then .ok (record .RATE_LIMITED [])
  else
    match self.build_request ioc >>= fun _ => get py self.retry behaviour with
    | .error exception =>
      if exception = .TimeoutException then .ok (record .TIMEOUT [])
      else if HTTP_ERRORS.contains exception then .ok (record .ERROR [])
      else .error exception
    | .ok response =>
      if response.status_code = 429 then .ok (record .RATE_LIMITED [])
      else if response.status_code = 404 then .ok (record .NOT_FOUND [])
      else if response.status_code ≥ 400 then .ok (record .ERROR [])
      else
        match response.body with
        | .error exception => if exception = .ValueError then .ok (record .ERROR []) else .error exception
        | .ok body =>
          match self.sanitize ioc body with
          | .error exception =>
            if SANITIZE_EXCEPTIONS.contains exception then .ok (record .ERROR []) else .error exception
          | .ok none => .ok (record .NOT_FOUND [])
          | .ok (some metadata) => .ok (record .FOUND metadata)

/-- `record.model_dump(mode="json")`. -/
def model_dump (record : LookupRecord) : Except Exn JsonObject :=
  if py.dumpable record.result then .ok record.model_dump else .error .ValueError

def enrich (self : BaseHTTPThreatIntelProvider) (behaviour : IOC → Behaviour) (iocs : List IOC) :
    Except Exn ProviderEnrichment :=
  let handled := iocs.filter (fun ioc => self.handled_types.contains ioc.type)
  if !self.enabled then
    .ok { provider := self.name, status := .SKIPPED, notes := [self.name ++ ": provider disabled"] }
  else if handled.isEmpty then
    .ok { provider := self.name, status := .SKIPPED, notes := [self.name ++ ": no indicators of a handled type"] }
  else do
    let hits := handled.filterMap (fun ioc => (behaviour ioc).cached.map (fun record => (ioc_key ioc, record)))
    let looked_up ← (handled.filter (fun ioc => (behaviour ioc).cached.isNone)).mapM (fun ioc => do
      let record ← lookup_one py self ioc (behaviour ioc)
      return (ioc_key ioc, record))
    let records := (looked_up ++ hits).foldl Table.put (Table.empty : Table (Prod.fst : String × LookupRecord → String))
    let results ← records.rows.mapM (fun entry => do
      let payload ← model_dump py entry.2
      return (entry.1, payload))
    let record_list := records.rows.map Prod.snd
    return { provider := self.name
             status := aggregate_status record_list
             results := results.foldl Table.put Table.empty
             notes := (if hits.isEmpty then [] else [self.name ++ ": " ++ toString hits.length ++ " served from cache"]) ++
               build_notes self.name record_list }

/-! ### VirusTotal -/

def VT_TYPES : List IOCType := [.MD5, .SHA1, .SHA256, .IPV4, .DOMAIN, .URL]

def virustotal_request (ioc : IOC) : Except Exn (String × List (String × String)) :=
  match ioc.type with
  | .MD5 | .SHA1 | .SHA256 => .ok ("/files/" ++ ioc.value, [])
  | .IPV4 => .ok ("/ip_addresses/" ++ ioc.value, [])
  | .DOMAIN => .ok ("/domains/" ++ ioc.value, [])
  | .URL => .ok ("/urls/" ++ py.base64url ioc.value, [])
  | .EMAIL => .error .ValueError

/-- `_int_or_zero` of `stats.get(key)`. -/
def int_or_zero (stats : JsonObject) (key : String) : Except Exn Int :=
  match Json.lookup key stats with
  | none | some .null => .ok 0
  | some value => int_value py value

def virustotal_sanitize (_ : IOC) : Json → Except Exn (Option JsonObject)
  | .obj body =>
    match Json.lookup "data" body with
    | none | some .null => .ok none
    | some (.obj data) =>
      match Json.lookup "attributes" data with
      | some (.obj attributes) =>
        let metadata (stats : JsonObject) : Except Exn (Option JsonObject) := do
          let malicious ← int_or_zero py stats "malicious"
          let suspicious ← int_or_zero py stats "suspicious"
          let harmless ← int_or_zero py stats "harmless"
          let undetected ← int_or_zero py stats "undetected"
          return some [("malicious", .int malicious), ("suspicious", .int suspicious), ("harmless", .int harmless),
            ("undetected", .int undetected), ("reputation", (Json.lookup "reputation" attributes).getD .null)]
        match Json.lookup "last_analysis_stats" attributes with
        | none | some .null => metadata []
        | some (.obj stats) => metadata stats
        | some _ => .error .ValueError
      | _ => .error .ValueError
    | some _ => .error .ValueError
  | _ => .error .ValueError

def VirusTotalProvider : BaseHTTPThreatIntelProvider where
  name := "virustotal"
  handled_types := VT_TYPES
  build_request := virustotal_request py
  sanitize := virustotal_sanitize py

/-! ### MISP -/

def MAX_EVENT_IDS : Nat := 20
def MAX_TAGS : Nat := 50

/-- `value or []`, iterated over: the elements of a list; the characters of text and the keys of a dictionary are no
    dictionaries, so they add nothing. -/
def iterated : Option Json → Except Exn (List Json)
  | some (.arr items) => .ok items
  | some (.str _) => .ok []
  | some (.obj _) => .ok []
  | some value => if value.truthy then .error .TypeError else .ok []
  | none => .ok []

/-- The name of a tag, when it has one. -/
def tag_name (tag : Json) : Except Exn (Option String) :=
  match Json.field "name" tag with
  | some name => if name.truthy then (py.str name).map some else .ok none
  | none => .ok none

/-- What the loop over the attributes has gathered. -/
structure Matches where
  match_count : Nat := 0
  event_ids : List Json := []
  tags : List String := []

def add_match (found : Matches) (item : Json) : Except Exn Matches :=
  match item with
  | .obj fields => do
    let event_ids := match Json.lookup "event_id" fields with
      | none | some .null => found.event_ids
      | some event_id => found.event_ids ++ [event_id]
    let items ← iterated (Json.lookup "tags" fields)
    let names ← items.mapM (tag_name py)
    return { match_count := found.match_count + 1, event_ids, tags := found.tags ++ names.filterMap id }
  | _ => .ok found

def misp_sanitize (_ : IOC) : Json → Except Exn (Option JsonObject)
  | .obj body =>
    match Json.lookup "response" body with
    | some (.arr []) => .ok none
    | some (.obj response) =>
      let attributes : Except Exn (List Json) := match Json.lookup "Attribute" response with
        | none => .ok []
        | some (.arr items) => .ok items
        | some value => if value.truthy then .error .ValueError else .ok []
      do
        let attributes ← attributes
        if attributes.isEmpty then return none
        else
          let found ← attributes.foldlM (add_match py) {}
          let event_ids ← found.event_ids.mapM py.str
          return some [("match_count", .int found.match_count),
            ("event_ids", .arr (((Evidence.sorted_set event_ids).take MAX_EVENT_IDS).map Json.str)),
            ("tags", .arr (((Evidence.sorted_set found.tags).take MAX_TAGS).map Json.str))]
    | _ => .error .ValueError
  | _ => .error .ValueError

def MISPProvider : BaseHTTPThreatIntelProvider where
  name := "misp"
  handled_types := [.IPV4, .DOMAIN, .URL, .MD5, .SHA1, .SHA256, .EMAIL]
  build_request ioc := .ok ("/attributes/restSearch", [("value", ioc.value), ("returnFormat", "json")])
  sanitize := misp_sanitize py

end
end SocTriage.ThreatIntel
