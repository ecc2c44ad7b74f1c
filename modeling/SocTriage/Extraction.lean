import Mathlib.Data.Prod.Lex
import SocTriage.Audit
import SocTriage.CredentialScan
import SocTriage.Enrichment
import SocTriage.Grouping
import SocTriage.KeyOrder

/-!
The indicators of an alert: what its typed fields hold as a whole, and what is found in the
texts of its nested blocks and in the optional fields, merged by type and value.
-/
namespace SocTriage.Extraction
open Normalize Extractor
open Audit (optional_text)
open Enrichment (by_key)

/-! ### What is read -/

/-- The policy with the fields that say what is read and how much of it is kept. -/
structure ExtractionPolicy extends IOCExtractionPolicy where
  include_full_log : Bool := false
  include_location : Bool := false
  include_unknown_data_fields : Bool := true
  max_iocs : Nat := 200
  at_least_one : 1 ≤ max_iocs := by decide

def TYPED_FIELDS : List (String × IOCType) :=
  [("source_event.agent.ip", .IPV4), ("source_event.data.srcip", .IPV4), ("source_event.data.dstip", .IPV4),
    ("source_event.data.srcuser", .EMAIL), ("source_event.data.dstuser", .EMAIL), ("source_event.data.hostname", .DOMAIN),
    ("source_event.data.url", .URL), ("source_event.data.virustotal.md5", .MD5),
    ("source_event.data.virustotal.sha1", .SHA1), ("source_event.data.virustotal.sha256", .SHA256),
    ("source_event.data.virustotal.permalink", .URL), ("source_event.syscheck.md5_before", .MD5),
    ("source_event.syscheck.md5_after", .MD5), ("source_event.syscheck.sha1_before", .SHA1),
    ("source_event.syscheck.sha1_after", .SHA1), ("source_event.syscheck.sha256_before", .SHA256),
    ("source_event.syscheck.sha256_after", .SHA256)]

def OPTIONAL_SCAN_FIELDS : List (String × (ExtractionPolicy → Bool)) :=
  [("source_event.full_log", ExtractionPolicy.include_full_log), ("source_event.location", ExtractionPolicy.include_location)]

def AUTO_SCAN_ROOTS : List String := ["source_event.data", "source_event.syscheck"]

def typed_paths : List String := TYPED_FIELDS.map Prod.fst

/-- The attributes that the paths of the tables go through. -/
def attributes (alert : CanonicalAlert) : Json :=
  .obj [("source_event", .obj
    [("agent", .obj [("ip", optional_text alert.source_event.agent.ip)]),
      ("location", optional_text alert.source_event.location), ("full_log", optional_text alert.source_event.full_log),
      ("data", .obj alert.source_event.data), ("syscheck", .obj alert.source_event.syscheck)])]

/-- `path.split(".")`. -/
def split_path (path : String) : List String := (path.toList.splitOn '.').map String.ofList

/-- A node from one to the next; `None` ends the path. -/
def follow : List String → Json → Option Json
  | [], node => if node = .null then none else some node
  | part :: rest, node => (Json.field part node).bind (follow rest)

def resolve (alert : CanonicalAlert) (path : String) : Option Json := follow (split_path path) (attributes alert)

/-- A value that is a text. -/
def text_of : Option Json → Option String
  | some (.str text) => some text
  | _ => none

mutual
/-- The texts of a node with their paths, dictionaries in the order of their keys. -/
def string_leaves (path : String) : Json → List (String × String)
  | .str text => [(path, text)]
  | .obj fields =>
    ((field_leaves path fields).insertionSort (fun a b : String × List (String × String) => a.1 ≤ b.1)).flatMap Prod.snd
  | .null | .bool _ | .int _ | .float _ | .arr _ => []
/-- Each key with the texts of its value. -/
def field_leaves (path : String) : JsonObject → List (String × List (String × String))
  | [] => []
  | (key, value) :: rest => (key, string_leaves (path ++ "." ++ key) value) :: field_leaves path rest
end

/-- A text as an indicator of a type. -/
def normalize_as (library : Library) (policy : IOCExtractionPolicy) (kind : IOCType) (text : List Char) :
    Option (List Char) :=
  match kind with
  | .IPV4 => normalize_ipv4 library policy text
  | .DOMAIN => normalize_domain library text
  | .URL => normalize_url library text
  | .EMAIL => normalize_email library text
  | .MD5 | .SHA1 | .SHA256 => normalize_hash library text (some kind)

def scan_typed_field (library : Library) (policy : IOCExtractionPolicy) (kind : IOCType) (value : String) :
    Option (List Char) :=
  let text := strip_of Text.is_space value.toList
  if text = [] then none else normalize_as library policy kind text

/-! ### Merging -/

/-- `_provenance_sort_key`. -/
def provenance_sort_key (provenance : IOCProvenance) : String ×ₗ Int ×ₗ String ×ₗ String ×ₗ String :=
  toLex (provenance.field, toLex ((provenance.offset.map Int.ofNat).getD (-1), toLex (provenance.raw_value,
    toLex (provenance.extractor, provenance.location.getD ""))))

def by_provenance (a b : IOCProvenance) : Prop := provenance_sort_key a ≤ provenance_sort_key b

instance : DecidableRel by_provenance := fun _ _ => inferInstanceAs (Decidable (_ ≤ _))

/-- The indicator of a group of candidates; a value may not be empty. -/
def ioc_of (row : (IOCType × String) × List IOCProvenance) : Option IOC :=
  if row.1.2 = "" then none
  else some { type := row.1.1, value := row.1.2, provenance := row.2.insertionSort by_provenance }

/-- `none` for the `ValidationError` of an indicator. -/
def merge (candidates : List Candidate) (policy : ExtractionPolicy) : Option (List IOC) := do
  let merged := Grouping.group (candidates.map (fun candidate => ((candidate.type, candidate.value), candidate.provenance)))
  let iocs ← merged.mapM ioc_of
  return (iocs.insertionSort by_key).take policy.max_iocs

/-! ### Extraction -/

section
variable (library : Library) (policy : ExtractionPolicy) (alert : CanonicalAlert)

/-- The whole value of a typed field; of a URL only the normal form is recorded. -/
def typed_candidate (path : String) (kind : IOCType) (value : String) (normalized : List Char) : Candidate where
  type := kind
  value := String.ofList normalized
  provenance :=
    { field := path
      extractor := "typed_field"
      raw_value := if kind = .URL then String.ofList normalized else value
      location := alert.source_event.location }

def typed_candidates : List Candidate :=
  TYPED_FIELDS.filterMap (fun entry => (text_of (resolve alert entry.1)).bind (fun value =>
    (scan_typed_field library policy.toIOCExtractionPolicy entry.2 value).map (typed_candidate alert entry.1 entry.2 value)))

/-- The texts of the nested blocks that no typed field names. -/
def auto_texts : List (String × String) :=
  if policy.include_unknown_data_fields then
    AUTO_SCAN_ROOTS.flatMap (fun root =>
      match resolve alert root with
      | some node => if node.truthy then (string_leaves root node).filter (fun leaf => leaf.1 ∉ typed_paths) else []
      | none => [])
  else []

def optional_texts : List (String × String) :=
  OPTIONAL_SCAN_FIELDS.filterMap (fun entry =>
    if !entry.2 policy then none else (text_of (resolve alert entry.1)).map (fun value => (entry.1, value)))

def source_of (field : String) : Source where
  field := field
  location := alert.source_event.location
  policy := policy.toIOCExtractionPolicy

def candidates : List Candidate :=
  typed_candidates library policy alert ++
    (auto_texts policy alert ++ optional_texts policy alert).flatMap (fun leaf =>
      scan_text library (source_of policy alert leaf.1) leaf.2.toList)

def extract_iocs : Option (List IOC) := merge (candidates library policy alert) policy
end

end SocTriage.Extraction
