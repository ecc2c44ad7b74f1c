import SocTriage.Normalize
import SocTriage.Scanning

/-!
The extraction of indicators from free text: five patterns over the same text, and the
parts of its URLs that the scan for two of them leaves alone.
-/
namespace SocTriage.Extractor
open Patterns Scanning Normalize

/-! ### Patterns -/

/-- A dot, also in brackets. -/
def DOT : Pattern :=
  .alt (.one (· = '.')) (.alt (.literal ['[', '.', ']']) (.alt (.literal ['(', '.', ')']) (.literal ['\x7b', '.', '\x7d'])))

def digit_between (low high c : Char) : Bool := low ≤ c && c ≤ high

/-- A number up to 255. -/
def OCTET : Pattern :=
  .alt (.seq (.literal ['2', '5']) (.one (digit_between '0' '5')))
    (.alt (.seq (.one (· = '2')) (.seq (.one (digit_between '0' '4')) (.one Char.isDigit)))
      (.alt (.seq (.one (· = '1')) (.seq (.one Char.isDigit) (.one Char.isDigit)))
        (.seq (.run (digit_between '1' '9') 0 (some 1)) (.one Char.isDigit))))

def HASH_RE : Pattern :=
  .seq (.unpreceded Char.isAlphanum)
    (.seq (.alt (.run is_hex 64 (some 64)) (.alt (.run is_hex 40 (some 40)) (.run is_hex 32 (some 32))))
      (.unfollowed (.one Char.isAlphanum)))

/-- What may not stand in front of an address or a domain. -/
def name_char (c : Char) : Bool := c.isAlphanum || ['.', '_', '-'].contains c

def IPV4_RE : Pattern :=
  .seq (.unpreceded name_char)
    (.seq (.seq OCTET (.seq DOT (.seq OCTET (.seq DOT (.seq OCTET (.seq DOT OCTET))))))
      (.unfollowed (.alt (.one (fun c => c.isAlphanum || c = '_' || c = '-'))
        (.seq (.one (· = '.')) (.one Char.isAlphanum)))))

/-- Labels with dots between them, and a last one of letters. -/
def HOST : Pattern :=
  .seq (.plus (.seq (label Char.isAlphanum) DOT))
    (.seq (.run Char.isAlpha 2 (some 63)) (.unfollowed (.one (fun c => c.isAlphanum || c = '_'))))

def DOMAIN_RE : Pattern := .seq (.unpreceded name_char) HOST

/-- What may not stand in front of a scheme; the pattern ignores case, so four letters beyond ASCII are letters too. -/
def scheme_before (c : Char) : Bool :=
  c.isAlphanum || ['+', '.', '-'].contains c || [0x130, 0x131, 0x17f, 0x212a].contains c.toNat

/-- A word in either case. -/
def folded : List Char → Pattern
  | [] => .literal []
  | c :: rest => .seq (.one (folds c)) (folded rest)

def URL_SCHEME : Pattern :=
  .alt (.seq (folded "http".toList) (.optional (.one (folds 's'))))
    (.alt (folded "ftp".toList) (.seq (folded "hxxp".toList) (.optional (.one (folds 's')))))

def url_char (c : Char) : Bool := !(Text.is_space c || ['<', '>', '"', '\''].contains c)

def URL_RE : Pattern :=
  .seq (.unpreceded scheme_before) (.seq URL_SCHEME (.seq (.literal "://".toList) (.run url_char 1 none)))

def EMAIL_RE : Pattern :=
  .seq (.unpreceded (fun c => c.isAlphanum || ['.', '_', '%', '+', '-'].contains c))
    (.seq EMAIL_LOCAL (.seq (.one (· = '@')) HOST))

/-- A match without the punctuation at its edges. -/
def clean_match (raw : List Char) : List Char :=
  rstrip_of ['\'', '"', '.', ',', ';', ':', '!', '?', ')', ']', '\x7d', '>'].contains
    ((strip_of Text.is_space raw).dropWhile ['\'', '"', '(', '<', '[', '\x7b'].contains)

/-! ### The authorities of URLs -/

/-- `text.find(word)`. -/
def find (word : List Char) : List Char → Option Nat
  | [] => if word = [] then some 0 else none
  | c :: rest => if word.isPrefixOf (c :: rest) then some 0 else (find word rest).map (· + 1)

/-- `text.rfind(c)`. -/
def rfind (c : Char) (cs : List Char) : Option Nat :=
  if c ∈ cs then some (cs.length - (Text.after_last c cs).length - 1) else none

/-- Where the authority and the userinfo of a URL match are. -/
def authority_span (m : Cursor × Cursor) : Option ((Nat × Nat) × Option (Nat × Nat)) :=
  let raw := between m.1 m.2
  match find "://".toList raw with
  | none => none
  | some scheme_idx =>
    let authority := (raw.drop (scheme_idx + 3)).takeWhile (fun c => !delimits c)
    let authority_start := m.1.behind.length + (scheme_idx + 3)
    some ((authority_start, authority_start + authority.length),
      (rfind '@' authority).map (fun last => (authority_start, authority_start + last)))

def url_authority_spans (text : List Char) : List (Nat × Nat) × List (Nat × Nat) :=
  let spans := (finditer URL_RE text).filterMap authority_span
  (spans.map Prod.fst, spans.filterMap Prod.snd)

/-! ### The scan -/

/-- A domain is not part of a path, unless it is the authority of a URL. The empty string in front of the text is in
    `"/\\"`. -/
def domain_boundary_ok (m : Cursor × Cursor) : Bool :=
  let path_like := match m.1.behind with
    | [] => true
    | previous :: _ => previous = '/' || previous = '\\'
  if path_like && m.1.behind[1]? != some '/' then false
  else m.2.ahead.head? != some '\\'

structure Candidate where
  type : IOCType
  value : String
  provenance : IOCProvenance
deriving DecidableEq

/-- The field the text is from, the location of the alert, and the policy. -/
structure Source where
  field : String
  location : Option String := none
  policy : IOCExtractionPolicy := {}

def add (source : Source) (kind : IOCType) (raw value : List Char) (offset : Nat) : Candidate where
  type := kind
  value := String.ofList value
  provenance :=
    { field := source.field
      extractor := "text_scan"
      raw_value := String.ofList raw
      offset := some offset
      location := source.location }

def overlaps (spans : List (Nat × Nat)) (start stop : Nat) : Bool := spans.any (fun span => span.1 < stop && start < span.2)

def within (spans : List (Nat × Nat)) (offset : Nat) : Bool := spans.any (fun span => span.1 ≤ offset && offset < span.2)

def scan_url (library : Library) (source : Source) (m : Cursor × Cursor) : Option Candidate :=
  (normalize_url library (clean_match (between m.1 m.2))).map (fun value =>
    add source .URL value value m.1.behind.length)

def scan_email (library : Library) (source : Source) (authority_spans : List (Nat × Nat)) (m : Cursor × Cursor) :
    Option Candidate :=
  if overlaps authority_spans m.1.behind.length m.2.behind.length then none
  else (normalize_email library (clean_match (between m.1 m.2))).map (fun value =>
    add source .EMAIL (between m.1 m.2) value m.1.behind.length)

def scan_domain (library : Library) (source : Source) (userinfo_spans : List (Nat × Nat)) (m : Cursor × Cursor) :
    Option Candidate :=
  if within userinfo_spans m.1.behind.length then none
  else if !domain_boundary_ok m then none
  else (normalize_domain library (clean_match (between m.1 m.2))).map (fun value =>
    add source .DOMAIN (between m.1 m.2) value m.1.behind.length)

def scan_ipv4 (library : Library) (source : Source) (m : Cursor × Cursor) : Option Candidate :=
  (normalize_ipv4 library source.policy (clean_match (between m.1 m.2))).map (fun value =>
    add source .IPV4 (between m.1 m.2) value m.1.behind.length)

def scan_hash (library : Library) (source : Source) (m : Cursor × Cursor) : Option Candidate :=
  let trimmed := clean_match (between m.1 m.2)
  match hash_type_for trimmed with
  | none => none
  | some kind => (normalize_hash library trimmed (some kind)).map (fun value =>
      add source kind (between m.1 m.2) value m.1.behind.length)

def scan_text (library : Library) (source : Source) (text : List Char) : List Candidate :=
  let (authority_spans, userinfo_spans) := url_authority_spans text
  (finditer URL_RE text).filterMap (scan_url library source) ++
    (finditer EMAIL_RE text).filterMap (scan_email library source authority_spans) ++
    (finditer DOMAIN_RE text).filterMap (scan_domain library source userinfo_spans) ++
    (finditer IPV4_RE text).filterMap (scan_ipv4 library source) ++
    (finditer HASH_RE text).filterMap (scan_hash library source)

theorem mem_scan_text {library : Library} {source : Source} {text : List Char} {candidate : Candidate} :
    candidate ∈ scan_text library source text ↔
      (∃ m ∈ finditer URL_RE text, scan_url library source m = some candidate) ∨
      (∃ m ∈ finditer EMAIL_RE text, scan_email library source (url_authority_spans text).1 m = some candidate) ∨
      (∃ m ∈ finditer Extractor.DOMAIN_RE text,
        scan_domain library source (url_authority_spans text).2 m = some candidate) ∨
      (∃ m ∈ finditer IPV4_RE text, scan_ipv4 library source m = some candidate) ∨
      (∃ m ∈ finditer HASH_RE text, scan_hash library source m = some candidate) := by
  unfold scan_text
  simp only [List.mem_append, List.mem_filterMap, or_assoc]

end SocTriage.Extractor
