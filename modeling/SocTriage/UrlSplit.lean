import SocTriage.Text

/-!
`urllib.parse`: a URL split into its five parts, the host and the port in its network
location, and the parts put together again. What only text beyond ASCII or in brackets
asks of the Unicode database and of `ipaddress` is a parameter.
-/
namespace SocTriage.UrlSplit

/-- `str.lower`, and whether a network location with brackets or beyond ASCII passes the checks of `urlsplit`. -/
structure Unicode where
  lower : List Char → List Char
  netloc_valid : List Char → Bool
  lower_ascii : ∀ cs : List Char, (∀ c ∈ cs, c.toNat < 128) → lower cs = cs.map Char.toLower

structure SplitResult where
  scheme : List Char := []
  netloc : List Char := []
  path : List Char := []
  query : List Char := []
  fragment : List Char := []
deriving DecidableEq

def scheme_char (c : Char) : Bool := c.isAlphanum || ['+', '-', '.'].contains c

/-- What ends the network location. -/
def delimits (c : Char) : Bool := ['/', '?', '#'].contains c

/-- What is left of the first occurrence of a separator, and what is right of it if there is one: `partition`. -/
def partition (sep : Char) (cs : List Char) : List Char × List Char :=
  (cs.takeWhile (· ≠ sep), (cs.dropWhile (· ≠ sep)).drop 1)

/-- The scheme in lower case, if the text has one, and what follows it. -/
def split_scheme (url : List Char) : List Char × List Char :=
  let start := url.takeWhile (· ≠ ':')
  if ':' ∈ url ∧ start.head?.any Char.isAlpha ∧ start.all scheme_char then
    (start.map Char.toLower, url.drop (start.length + 1))
  else ([], url)

/-- The network location behind two slashes, and what follows it. -/
def split_netloc (url : List Char) : List Char × List Char :=
  if ['/', '/'].isPrefixOf url then
    ((url.drop 2).takeWhile (fun c => !delimits c), (url.drop 2).dropWhile (fun c => !delimits c))
  else ([], url)

/-- The network location is refused: brackets that do not pair, or a failed check. -/
def refused (unicode : Unicode) (netloc : List Char) : Bool :=
  decide ('[' ∈ netloc) != decide (']' ∈ netloc) ||
    ((decide ('[' ∈ netloc) || netloc.any (fun c => 128 ≤ c.toNat)) && !unicode.netloc_valid netloc)

/-- `urlsplit`; `none` for `ValueError`. -/
def urlsplit (unicode : Unicode) (raw : List Char) : Option SplitResult :=
  let url := (raw.dropWhile (fun c => c.toNat ≤ 32)).filter (fun c => !(['\t', '\r', '\n'].contains c))
  let (scheme, url) := split_scheme url
  let (netloc, url) := split_netloc url
  if refused unicode netloc then none
  else
    let (url, fragment) := partition '#' url
    let (path, query) := partition '?' url
    some { scheme, netloc, path, query, fragment }

/-- The host and the port, as they stand in a network location. -/
def hostinfo (netloc : List Char) : List Char × List Char :=
  let hostinfo := if '@' ∈ netloc then Text.after_last '@' netloc else netloc
  if '[' ∈ hostinfo then
    let (hostname, rest) := partition ']' (partition '[' hostinfo).2
    (hostname, (partition ':' rest).2)
  else partition ':' hostinfo

/-- `hostname`, empty where it is `None`: in lower case up to a zone. -/
def SplitResult.hostname (unicode : Unicode) (self : SplitResult) : List Char :=
  let hostname := (hostinfo self.netloc).1
  unicode.lower (hostname.takeWhile (· ≠ '%')) ++ hostname.dropWhile (· ≠ '%')

/-- `port`; `none` for `ValueError`. -/
def SplitResult.port (self : SplitResult) : Option (Option Nat) :=
  match (hostinfo self.netloc).2 with
  | [] => some none
  | port =>
    match Text.parse_decimal port with
    | none => none
    | some port => if port ≤ 65535 then some (some port) else none

/-- `urlunsplit` of parts with a scheme and a network location. -/
def urlunsplit (parts : SplitResult) : List Char :=
  let path := if parts.path ≠ [] ∧ parts.path.head? ≠ some '/' then '/' :: parts.path else parts.path
  parts.scheme ++ "://".toList ++ parts.netloc ++ path ++ (if parts.query = [] then [] else '?' :: parts.query) ++
    (if parts.fragment = [] then [] else '#' :: parts.fragment)

end SocTriage.UrlSplit
