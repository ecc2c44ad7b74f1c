import SocTriage.DomainPattern
import SocTriage.DottedQuad
import SocTriage.Trimming

/-!
What the normalizers make of their own answers. The forms that a normal value has are stated
without the code; a value has the form, and normalizes to itself, exactly when the text it was
read off is clear of what trimming and the pattern for domains do not see (`normal_iff`).
-/
namespace SocTriage.NormalForms
open Patterns Normalize Trimming DomainPattern DottedQuad

/-! ### Forms -/

inductive Normalizer where
  | domain
  | url
  | email
  | ipv4 (policy : IOCExtractionPolicy)
  | hash (expected : Option IOCType)

/-- What the standard library documents: the `idna` codec answers in ASCII, and only a line feed has a line feed for its
    lower case. -/
structure Documented (library : Library) : Prop where
  idna_ascii : ∀ host out, library.idna host = some out → ∀ c ∈ out, c.toNat < 128
  lower_feed : ∀ cs, '\n' ∈ library.unicode.lower cs → '\n' ∈ cs

def port_text : Option Nat → List Char
  | none => []
  | some port => ':' :: decimal port

/-- A known scheme, a domain or an address, a port other than the default one, and a path with a query; no userinfo and no
    fragment. -/
def Url (cs : List Char) : Prop :=
  ∃ (scheme host : List Char) (port : Option Nat) (rest : List Char), scheme ∈ ALLOWED_URL_SCHEMES ∧
    (Domain host ∨ Address host) ∧ (∀ p, port = some p → p ≤ 65535 ∧ DEFAULT_PORTS scheme ≠ some p) ∧ '#' ∉ rest ∧
    cs = scheme ++ "://".toList ++ (host ++ port_text port) ++ '/' :: rest

/-- One `@`, and a domain behind it. -/
def Email (cs : List Char) : Prop := ∃ name domain, cs = name ++ '@' :: domain ∧ name ≠ [] ∧ '@' ∉ name ∧ Domain domain

/-- Lower-case hexadecimal digits, as many as a hash of the type has. -/
def Hash (expected : Option IOCType) (cs : List Char) : Prop :=
  (∀ c ∈ cs, c.isDigit = true ∨ ('a' ≤ c ∧ c ≤ 'f')) ∧
    ∃ kind, HASH_BY_LENGTH cs.length = some kind ∧ ∀ other, expected = some other → other = kind

section
variable (library : Library)

def Normalizer.normalize : Normalizer → List Char → Option (List Char)
  | .domain, raw => normalize_domain library raw
  | .url, raw => normalize_url library raw
  | .email, raw => normalize_email library raw
  | .ipv4 policy, raw => normalize_ipv4 library policy raw
  | .hash expected, raw => normalize_hash library raw expected

def Normalizer.Form : Normalizer → List Char → Prop
  | .domain, cs => Domain cs
  | .url, cs => Url cs
  | .email, cs => Email cs
  | .ipv4 policy, cs => ∃ address < 2 ^ 32, ipv4_allowed library policy address = true ∧ cs = ipv4_str address
  | .hash expected, cs => Hash expected cs

/-! ### The condition -/

/-- Trimmed, without the dots at its end and in ASCII, the text ends in a line feed. -/
def EndsLine (raw : List Char) : Prop :=
  ∃ host, as_ascii_domain library (rstrip_of (· = '.') (trimmed (String.ofList raw))) = some host ∧
    host.getLast? = some '\n'

/-- The path and the query have no bracketed separators, and what there is of them does not end in white space or quotes. -/
def UrlClear (raw : List Char) : Prop :=
  ∀ parts, UrlSplit.urlsplit library.unicode (trimmed (String.ofList raw)) = some parts →
    ¬ Marked parts.path ∧ ¬ Marked parts.query ∧ ∀ c, (parts.path ++ parts.query).getLast? = some c → Tight c

/-- The local part has no bracketed separators and does not begin with a quote, and no line feed ends the domain. -/
def EmailClear (raw : List Char) : Prop :=
  let (name, domain) := UrlSplit.partition '@' (trimmed (String.ofList raw))
  ¬ Marked name ∧ (∀ c, name.head? = some c → wraps c = false) ∧ ¬ EndsLine library domain

def Normalizer.Clear : Normalizer → List Char → Prop
  | .domain, raw => ¬ EndsLine library raw
  | .url, raw => UrlClear library raw
  | .email, raw => EmailClear library raw
  | .ipv4 _, _ => True
  | .hash _, _ => True
end

/-! ### Characters -/

private theorem lower_range {c : Char} (lower : lower_alnum c = true) :
    (48 ≤ c.toNat ∧ c.toNat ≤ 57) ∨ (97 ≤ c.toNat ∧ c.toNat ≤ 122) := by
  change ((decide (c.val ≥ 97) && decide (c.val ≤ 122)) || (decide (c.val ≥ 48) && decide (c.val ≤ 57))) = true at lower
  simp only [Bool.or_eq_true, Bool.and_eq_true, decide_eq_true_eq, ge_iff_le, UInt32.le_iff_toNat_le] at lower
  have bounds : (97 : UInt32).toNat = 97 ∧ (122 : UInt32).toNat = 122 ∧ (48 : UInt32).toNat = 48 ∧
      (57 : UInt32).toNat = 57 := by
    decide
  change (48 ≤ c.val.toNat ∧ c.val.toNat ≤ 57) ∨ (97 ≤ c.val.toNat ∧ c.val.toNat ≤ 122)
  omega

theorem domain_range {c : Char} (plain : domain_char c = true) :
    c.toNat = 45 ∨ c.toNat = 46 ∨ (48 ≤ c.toNat ∧ c.toNat ≤ 57) ∨ (97 ≤ c.toNat ∧ c.toNat ≤ 122) := by
  simp only [domain_char, Bool.or_eq_true, decide_eq_true_eq] at plain
  rcases plain with (lower | rfl) | rfl
  · exact .inr (.inr (lower_range lower))
  · exact .inl rfl
  · exact .inr (.inl rfl)

/-- What a class accepts that is none of some characters. -/
private theorem not_mem_of_range {c : Char} {ds : List Char} {ok : Nat → Prop} (range : ok c.toNat)
    (others : ∀ d ∈ ds, ¬ ok d.toNat) : ds.contains c = false := by
  cases inside : ds.contains c with
  | false => rfl
  | true => exact absurd range (others c (List.contains_iff_mem.mp inside))

theorem tight_domain {c : Char} (plain : domain_char c = true) : Tight c := by
  have range := domain_range plain
  constructor
  · simp only [Text.is_space, Bool.or_eq_false_iff, Bool.and_eq_false_iff, decide_eq_false_iff_not, beq_eq_false_iff_ne]
    omega
  · exact @not_mem_of_range c _ (fun n => n = 45 ∨ n = 46 ∨ (48 ≤ n ∧ n ≤ 57) ∨ (97 ≤ n ∧ n ≤ 122)) range (by decide)

theorem unbracketed_domain {c : Char} (plain : domain_char c = true) : opens c = false ∧ closes c = false := by
  have range := domain_range plain
  exact ⟨@not_mem_of_range c _ (fun n => n = 45 ∨ n = 46 ∨ (48 ≤ n ∧ n ≤ 57) ∨ (97 ≤ n ∧ n ≤ 122)) range (by decide),
    @not_mem_of_range c _ (fun n => n = 45 ∨ n = 46 ∨ (48 ≤ n ∧ n ≤ 57) ∨ (97 ≤ n ∧ n ≤ 122)) range (by decide)⟩

private theorem lower_domain {c : Char} (plain : domain_char c = true) : c.toLower = c := by
  have range := domain_range plain
  delta Char.toLower
  rw [dif_neg]
  rintro ⟨low, high⟩
  rw [ge_iff_le, UInt32.le_iff_toNat_le] at low
  rw [UInt32.le_iff_toNat_le] at high
  change c.val.toNat = 45 ∨ c.val.toNat = 46 ∨ (48 ≤ c.val.toNat ∧ c.val.toNat ≤ 57) ∨
    (97 ≤ c.val.toNat ∧ c.val.toNat ≤ 122) at range
  have bounds : ('A'.val).toNat = 65 ∧ ('Z'.val).toNat = 90 := by decide
  omega

theorem lower_plain {library : Library} {cs : List Char} (plain : ∀ c ∈ cs, domain_char c = true) :
    library.unicode.lower cs = cs := by
  rw [library.unicode.lower_ascii cs (fun c inside => by have range := domain_range (plain c inside); omega)]
  exact (List.map_congr_left (fun c inside => lower_domain (plain c inside))).trans (List.map_id _)

/-! ### Domains -/

section
variable {library : Library} {cs : List Char}

theorem snug_domain (domain : Domain cs) : Snug cs := by
  constructor
  · rintro ⟨middle, -, before, a, b, after, rfl, opening, -⟩
    have plain := (unbracketed_domain (domain.chars a (by simp))).1
    rw [opening] at plain
    cases plain
  · intro c head
    exact tight_domain (domain.chars c (List.mem_of_head? head))
  · intro c last
    exact tight_domain (domain.chars c (List.mem_of_getLast? last))

private theorem no_colon_domain (domain : Domain cs) : ':' ∉ cs :=
  fun inside => absurd (domain.chars ':' inside) (by decide)

theorem rstrip_domain (domain : Domain cs) : rstrip_of (· = '.') cs = cs := by
  refine rstrip_of_eq_iff.mpr (fun c last => ?_)
  obtain ⟨d, ending, letter⟩ := domain.last
  rw [ending] at last
  cases last
  rw [decide_eq_false_iff_not]
  rintro rfl
  exact absurd letter (by decide)

/-- A domain that the pattern matches is its own normal form. -/
private theorem normalize_domain_fixed (domain : Domain cs) (matched : is_match Normalize.DOMAIN_RE cs = true) :
    normalize_domain library cs = some cs := by
  have text := trimmed_snug (rewrite_scheme_no_colon (no_colon_domain domain)) (snug_domain domain)
  obtain ⟨c, rest, whole, -⟩ := domain.first
  have nonempty : cs ≠ [] := by
    rw [whole]
    exact List.cons_ne_nil c rest
  have ascii : cs.all (fun c => c.toNat < 128) = true := by
    rw [List.all_eq_true]
    intro c inside
    have range := domain_range (domain.chars c inside)
    rw [decide_eq_true_eq]
    omega
  rw [normalize_domain]
  simp only [text, rstrip_domain domain, as_ascii_domain, ascii, ↓reduceIte, lower_plain domain.chars, matched]
  rw [if_neg (not_or.mpr ⟨nonempty, not_not.mpr domain.dotted⟩), if_neg]
  rintro (long | unmatched)
  · exact absurd domain.1 (by rw [MAX_DOMAIN_LENGTH] at long; omega)
  · cases unmatched

/-- What a domain was read off. -/
private theorem normalize_domain_some {raw : List Char} (normal : normalize_domain library raw = some cs) :
    ∃ host, as_ascii_domain library (rstrip_of (· = '.') (trimmed (String.ofList raw))) = some host ∧
      cs = library.unicode.lower host ∧ is_match Normalize.DOMAIN_RE cs = true := by
  rw [normalize_domain] at normal
  dsimp only at normal
  split at normal
  · cases normal
  · split at normal
    · cases normal
    · rename_i host ascii
      split at normal
      · cases normal
      · rename_i fine
        cases normal
        rw [not_or, Bool.not_eq_false] at fine
        exact ⟨host, ascii, rfl, fine.2⟩

private theorem ascii_host (documented : Documented library) {text host : List Char}
    (ascii : as_ascii_domain library text = some host) : ∀ c ∈ host, c.toNat < 128 := by
  rw [as_ascii_domain] at ascii
  split at ascii
  · rename_i all
    cases ascii
    intro c inside
    exact of_decide_eq_true (List.all_eq_true.mp all c inside)
  · exact documented.idna_ascii _ _ ascii

/-- A normal form of a domain is one, unless a line feed ends what it was read off. -/
theorem domain_normal_iff (documented : Documented library) {raw : List Char}
    (normal : normalize_domain library raw = some cs) : Domain cs ↔ ¬ EndsLine library raw := by
  obtain ⟨host, ascii, rfl, matched⟩ := normalize_domain_some normal
  have last : (library.unicode.lower host).getLast? = some '\n' ↔ host.getLast? = some '\n' := by
    rw [library.unicode.lower_ascii host (ascii_host documented ascii), List.getLast?_map, Option.map_eq_some_iff]
    constructor
    · rintro ⟨c, ending, feed⟩
      rw [ending, (Text.toLower_eq_iff (by decide)).mp feed]
    · intro ending
      exact ⟨'\n', ending, rfl⟩
  constructor
  · rintro domain ⟨host', ascii', ending⟩
    rw [ascii] at ascii'
    cases ascii'
    exact domain.no_feed (List.mem_of_getLast? (last.mpr ending))
  · intro clear
    obtain ⟨domain, is_domain, same | broken⟩ := domain_of_match matched
    · rw [same]
      exact is_domain
    · refine absurd ⟨host, ascii, last.mp ?_⟩ clear
      rw [broken, List.getLast?_append_of_ne_nil _ (List.cons_ne_nil _ _)]
      rfl

/-- It then is its own normal form. -/
theorem domain_normal_fixed_iff (documented : Documented library) {raw : List Char}
    (normal : normalize_domain library raw = some cs) :
    (normalize_domain library cs = some cs ∧ Domain cs) ↔ ¬ EndsLine library raw := by
  obtain ⟨-, -, -, matched⟩ := normalize_domain_some normal
  rw [← domain_normal_iff documented normal]
  exact ⟨And.right, fun domain => ⟨normalize_domain_fixed domain matched, domain⟩⟩
end

/-! ### Addresses of mail -/

/-- The characters that a local part is made of, besides a line feed at its end. -/
private theorem atom_range {c : Char} (atom : atom_char c = true ∨ c = '.') :
    33 ≤ c.toNat ∧ c.toNat ≤ 126 ∧ c.toNat ≠ 58 ∧ c.toNat ≠ 64 := by
  have listed : ∀ d ∈ ['!', '#', '$', '%', '&', '\'', '*', '+', '/', '=', '?', '^', '_', Char.ofNat 96, '\x7b', '|', '\x7d',
      '~', '-'], 33 ≤ d.toNat ∧ d.toNat ≤ 126 ∧ d.toNat ≠ 58 ∧ d.toNat ≠ 64 := by decide
  rcases atom with atom | rfl
  · rw [atom_char, Bool.or_eq_true] at atom
    rcases atom with letter | other
    · change ((decide (c.val ≥ 65 ∧ c.val ≤ 90) || (decide (c.val ≥ 97) && decide (c.val ≤ 122))) ||
        (decide (c.val ≥ 48) && decide (c.val ≤ 57))) = true at letter
      simp only [Bool.or_eq_true, Bool.and_eq_true, decide_eq_true_eq, ge_iff_le, UInt32.le_iff_toNat_le] at letter
      have bounds : (97 : UInt32).toNat = 97 ∧ (122 : UInt32).toNat = 122 ∧ (48 : UInt32).toNat = 48 ∧
        (57 : UInt32).toNat = 57 ∧ (65 : UInt32).toNat = 65 ∧ (90 : UInt32).toNat = 90 := by decide
      change 33 ≤ c.val.toNat ∧ c.val.toNat ≤ 126 ∧ c.val.toNat ≠ 58 ∧ c.val.toNat ≠ 64
      omega
    · exact listed c (List.contains_iff_mem.mp other)
  · decide

/-- A local part: atoms and dots, the first of them at its beginning, and perhaps a line feed at its end. -/
private theorem local_part {name : List Char} (matched : is_match (.seq EMAIL_LOCAL .finish) name = true) :
    (∀ c ∈ name, atom_char c = true ∨ c = '.' ∨ c = '\n') ∧ ∃ c rest, name = c :: rest ∧ atom_char c = true := by
  rw [is_match] at matched
  obtain ⟨d, found⟩ : ∃ d, d ∈ (Pattern.seq EMAIL_LOCAL .finish).ends (.start name) :=
    List.exists_mem_of_ne_nil _ (by simpa using matched)
  obtain ⟨e, parts, last⟩ := List.mem_flatMap.mp found
  obtain ⟨f, atoms, more⟩ := List.mem_flatMap.mp parts
  obtain ⟨word, passes, some_atom, -, plain⟩ := mem_run.mp atoms
  obtain ⟨word', passes', mentioned⟩ := mem_ends more
  obtain ⟨rfl, rest⟩ := mem_finish.mp last
  have whole : name = word ++ word' ++ d.ahead := (passes.trans passes').1
  constructor
  · intro c inside
    rw [whole] at inside
    rcases List.mem_append.mp inside with inside | inside
    · rcases List.mem_append.mp inside with inside | inside
      · exact .inl (plain c inside)
      · have either := mentioned c inside
        simp only [Pattern.mentions, Pattern.one, Bool.or_eq_true, decide_eq_true_eq] at either
        rcases either with dot | atom
        · exact .inr (.inl dot)
        · exact .inl atom
    · rcases rest with rest | rest
      · rw [rest] at inside
        cases inside
      · rw [rest] at inside
        exact .inr (.inr (List.mem_singleton.mp inside))
  · cases word with
    | nil => cases some_atom
    | cons c word => exact ⟨c, _, whole, plain c List.mem_cons_self⟩

section
variable {library : Library} {raw cs : List Char}

/-- The text at its first `@`. -/
private theorem partition_at {text : List Char} (listed : '@' ∈ text) :
    text = (UrlSplit.partition '@' text).1 ++ '@' :: (UrlSplit.partition '@' text).2 ∧
      '@' ∉ (UrlSplit.partition '@' text).1 := by
  have absent : '@' ∉ text.takeWhile (· ≠ '@') := by
    intro inside
    have other := List.all_eq_true.mp (List.all_takeWhile ..) _ inside
    simp at other
  refine ⟨?_, absent⟩
  rw [UrlSplit.partition]
  have whole := List.takeWhile_append_dropWhile (p := (· ≠ '@')) (l := text)
  cases rest : text.dropWhile (· ≠ '@') with
  | nil =>
    rw [rest, List.append_nil] at whole
    rw [← whole] at listed
    exact absurd listed absent
  | cons c after =>
    have head := List.head_dropWhile_not (· ≠ '@') (by rw [rest]; exact List.cons_ne_nil c after)
    simp only [rest, List.head_cons] at head
    have found : c = '@' := by simpa using head
    rw [rest, found] at whole
    exact whole.symm

/-- The parts of a normalized address of mail. -/
private theorem normalize_email_some (normal : normalize_email library raw = some cs) :
    ∃ name domain value, trimmed (String.ofList raw) = name ++ '@' :: domain ∧
      UrlSplit.partition '@' (trimmed (String.ofList raw)) = (name, domain) ∧ '@' ∉ name ∧
      is_match (.seq EMAIL_LOCAL .finish) name = true ∧
      ¬ (name = [] ∨ name.head? = some '.' ∨ name.getLast? = some '.' ∨ ['.', '.'] <:+: name) ∧
      normalize_domain library domain = some value ∧ cs = name ++ '@' :: value := by
  rw [normalize_email] at normal
  dsimp only at normal
  by_cases single : (trimmed (String.ofList raw)).count '@' = 1
  · rw [if_neg (not_not.mpr single)] at normal
    obtain ⟨whole, absent⟩ := partition_at (List.count_pos_iff.mp (by omega : 0 < (trimmed (String.ofList raw)).count '@'))
    generalize UrlSplit.partition '@' (trimmed (String.ofList raw)) = parts at *
    obtain ⟨name, domain⟩ := parts
    dsimp only at normal whole absent
    split at normal
    · cases normal
    rename_i fine
    split at normal
    · cases normal
    rename_i matched
    obtain ⟨value, found, rfl⟩ := Option.map_eq_some_iff.mp normal
    exact ⟨name, domain, value, whole, rfl, absent, by simpa using matched, fine, found, rfl⟩
  · rw [if_pos single] at normal
    cases normal

/-- Of ASCII text the domain is no longer than the text. -/
private theorem normalize_domain_length (no_colon : ':' ∉ raw) (ascii : ∀ c ∈ raw, c.toNat < 128)
    (normal : normalize_domain library raw = some cs) : cs.length ≤ raw.length := by
  obtain ⟨host, found, rfl, -⟩ := normalize_domain_some normal
  have text : ∀ c ∈ rstrip_of (· = '.') (trimmed (String.ofList raw)), c.toNat < 128 := by
    intro c inside
    rw [rstrip_of] at inside
    exact trimmed_all no_colon ascii c
      (List.mem_reverse.mp ((List.dropWhile_sublist _).subset (List.mem_reverse.mp inside)))
  have plain : (rstrip_of (· = '.') (trimmed (String.ofList raw))).all (fun c => c.toNat < 128) = true :=
    List.all_eq_true.mpr (fun c inside => decide_eq_true (text c inside))
  rw [as_ascii_domain, if_pos plain] at found
  obtain rfl := Option.some.inj found
  have shorter := UrlUserinfo.length_trimmed (String.ofList raw)
  have stripped := (List.dropWhile_sublist (fun c => decide (c = '.')) (l := (trimmed (String.ofList raw)).reverse)).length_le
  rw [String.toList_ofList] at shorter
  rw [List.length_reverse] at stripped
  rw [library.unicode.lower_ascii _ text, List.length_map, rstrip_of, List.length_reverse]
  omega

section
variable {name value : List Char}

private theorem email_iff (nonempty : name ≠ []) (absent : '@' ∉ name) : Email (name ++ '@' :: value) ↔ Domain value := by
  constructor
  · rintro ⟨name', value', same, -, absent', domain⟩
    obtain ⟨-, rfl⟩ := Text.split_at_separator absent absent' same
    exact domain
  · exact fun domain => ⟨name, value, rfl, nonempty, absent, domain⟩

private theorem email_no_colon (plain : ∀ c ∈ name, atom_char c = true ∨ c = '.' ∨ c = '\n') (domain : Domain value) :
    ':' ∉ name ++ '@' :: value := by
  intro inside
  rcases List.mem_append.mp inside with inside | inside
  · rcases plain ':' inside with atom | dot | feed
    · exact absurd atom (by decide)
    · cases dot
    · cases feed
  · rcases List.mem_cons.mp inside with same | inside
    · cases same
    · exact no_colon_domain domain inside

private theorem email_ascii (plain : ∀ c ∈ name, atom_char c = true ∨ c = '.' ∨ c = '\n') (domain : Domain value) :
    ∀ c ∈ name ++ '@' :: value, c.toNat < 128 := by
  intro c inside
  rcases List.mem_append.mp inside with inside | inside
  · rcases plain c inside with atom | dot | rfl
    · have range := atom_range (.inl atom)
      omega
    · have range := atom_range (.inr dot)
      omega
    · decide
  · rcases List.mem_cons.mp inside with rfl | inside
    · decide
    · have range := domain_range (domain.chars c inside)
      omega

/-- An address of mail with a domain is snug unless its local part is not. -/
private theorem email_snug_iff {first : Char} {rest : List Char} (begins : name = first :: rest)
    (atom : atom_char first = true)
    (domain : Domain value) :
    Snug (name ++ '@' :: value) ↔ ¬ Marked name ∧ ∀ c, name.head? = some c → wraps c = false := by
  have unclosed : ∀ c ∈ '@' :: value, closes c = false := by
    rw [List.forall_mem_cons]
    exact ⟨by decide, fun c inside => (unbracketed_domain (domain.chars c inside)).2⟩
  have head : (name ++ '@' :: value).head? = name.head? := by
    rw [begins]
    rfl
  have not_space : Text.is_space first = false := by
    have range := atom_range (.inl atom)
    simp only [Text.is_space, Bool.or_eq_false_iff, Bool.and_eq_false_iff, decide_eq_false_iff_not, beq_eq_false_iff_ne]
    omega
  constructor
  · rintro ⟨plain, tight, -⟩
    exact ⟨fun marked => plain ((marked_append_left unclosed).mpr marked), fun c same => (tight c (head.trans same)).2⟩
  · rintro ⟨plain, quoteless⟩
    refine ⟨fun marked => plain ((marked_append_left unclosed).mp marked), fun c same => ?_, fun c same => ?_⟩
    · rw [head] at same
      refine ⟨?_, quoteless c same⟩
      rw [begins] at same
      cases same
      exact not_space
    · obtain ⟨d, ending, letter⟩ := domain.last
      rw [List.getLast?_append_of_ne_nil _ (List.cons_ne_nil _ _), List.getLast?_cons, ending] at same
      rw [← Option.some.inj same]
      exact tight_domain (by rw [domain_char, lower_alnum, Option.getD_some, letter]; rfl)
end

/-- An address of mail with a domain normalizes to itself unless trimming takes something of its local part. -/
private theorem email_fixed_iff {name value : List Char} (absent : '@' ∉ name)
    (matched : is_match (.seq EMAIL_LOCAL .finish) name = true)
    (fine : ¬ (name = [] ∨ name.head? = some '.' ∨ name.getLast? = some '.' ∨ ['.', '.'] <:+: name))
    (domain : Domain value) (matches_domain : is_match Normalize.DOMAIN_RE value = true) :
    normalize_email library (name ++ '@' :: value) = some (name ++ '@' :: value) ↔
      ¬ Marked name ∧ ∀ c, name.head? = some c → wraps c = false := by
  obtain ⟨plain, first, rest, begins, atom⟩ := local_part matched
  have scheme := rewrite_scheme_no_colon (email_no_colon plain domain)
  rw [← email_snug_iff begins atom domain]
  constructor
  · intro fixed
    by_contra loose
    have shorter := trimmed_shorter scheme loose
    obtain ⟨name', domain', value', whole, -, -, -, -, normal, same⟩ := normalize_email_some fixed
    have kept := @trimmed_all _ (fun c => c ≠ ':' ∧ c.toNat < 128) (email_no_colon plain domain)
      (fun c inside => ⟨fun colon => email_no_colon plain domain (colon ▸ inside), email_ascii plain domain c inside⟩)
    rw [whole] at kept shorter
    have part : ∀ c ∈ domain', c ≠ ':' ∧ c.toNat < 128 :=
      fun c inside => kept c (List.mem_append_right _ (List.mem_cons_of_mem _ inside))
    have no_longer :=
      normalize_domain_length (fun inside => (part ':' inside).1 rfl) (fun c inside => (part c inside).2) normal
    rw [same] at shorter
    simp only [List.length_append, List.length_cons] at shorter
    omega
  · intro snug
    have single : (name ++ '@' :: value).count '@' = 1 := by
      have after : '@' ∉ value := fun inside => absurd (domain.chars '@' inside) (by decide)
      rw [List.count_append, List.count_cons_self, List.count_eq_zero.mpr absent, List.count_eq_zero.mpr after]
    have parts : UrlSplit.partition '@' (name ++ '@' :: value) = (name, value) := by
      have before : ∀ c ∈ name, decide (c ≠ '@') = true := by
        intro c inside
        rw [decide_eq_true_eq]
        rintro rfl
        exact absent inside
      rw [UrlSplit.partition, List.takeWhile_append_of_pos before, List.dropWhile_append_of_pos before]
      simp
    rw [normalize_email]
    simp only [trimmed_snug scheme snug, single, parts, matched, normalize_domain_fixed domain matches_domain]
    rw [if_neg (by simp), if_neg fine, if_neg (by simp)]
    rfl

theorem email_normal_iff (documented : Documented library) (normal : normalize_email library raw = some cs) :
    (normalize_email library cs = some cs ∧ Email cs) ↔ EmailClear library raw := by
  obtain ⟨name, domain, value, -, parts, absent, matched, fine, found, rfl⟩ := normalize_email_some normal
  obtain ⟨-, -, -, matches_domain⟩ := normalize_domain_some found
  have nonempty : name ≠ [] := fun empty => fine (.inl empty)
  rw [email_iff nonempty absent, EmailClear, parts]
  dsimp only
  rw [← domain_normal_iff documented found, ← and_assoc]
  exact and_congr_left (fun is_domain => email_fixed_iff absent matched fine is_domain matches_domain)
end

/-! ### Addresses and hashes -/

section
variable {library : Library} {raw cs : List Char}

/-- An address is spelled with characters of domains. -/
theorem address_plain (address : Address cs) : ∀ c ∈ cs, domain_char c = true := by
  intro c inside
  rcases address.chars.1 c inside with digit | dot
  · rw [domain_char, lower_alnum, digit, Bool.or_true]
    rfl
  · rw [dot]
    decide

theorem rstrip_address (address : Address cs) : rstrip_of (· = '.') cs = cs := by
  refine rstrip_of_eq_iff.mpr (fun c last => ?_)
  obtain ⟨-, -, d, ending, digit⟩ := address.chars
  rw [ending] at last
  cases last
  rw [decide_eq_false_iff_not]
  rintro rfl
  exact absurd digit (by decide)

theorem ipv4_normal {policy : IOCExtractionPolicy} (normal : normalize_ipv4 library policy raw = some cs) :
    normalize_ipv4 library policy cs = some cs ∧ (Normalizer.ipv4 policy).Form library cs := by
  rw [normalize_ipv4] at normal
  split at normal
  · cases normal
  · rename_i n read
    split at normal
    · rename_i allowed
      cases normal
      have bounded := IPv4Address_lt read
      have address : Address (ipv4_str n) := ⟨n, bounded, rfl⟩
      have stripped : strip_of Text.is_space (ipv4_str n) = ipv4_str n :=
        strip_of_eq_iff.mpr ⟨fun c head => (tight_domain (address_plain address c (List.mem_of_head? head))).1,
          fun c last => (tight_domain (address_plain address c (List.mem_of_getLast? last))).1⟩
      refine ⟨?_, n, bounded, allowed, rfl⟩
      rw [normalize_ipv4]
      simp only [stripped, rstrip_address address, IPv4Address_str bounded, allowed, ↓reduceIte]
    · cases normal

private theorem hex_range {c : Char} (hex : is_hex c = true) : c.toNat < 103 := by
  unfold is_hex Char.isDigit at hex
  simp only [Bool.or_eq_true, Bool.and_eq_true, decide_eq_true_eq, Char.le_def, UInt32.le_iff_toNat_le] at hex
  have high : '9'.val.toNat = 57 ∧ 'f'.val.toNat = 102 ∧ 'F'.val.toNat = 70 := by decide
  show c.val.toNat < 103
  omega

private theorem lower_hex {c : Char} (hex : is_hex c = true) :
    (c.toLower.isDigit = true ∨ ('a' ≤ c.toLower ∧ c.toLower ≤ 'f')) ∧ c.toLower.toLower = c.toLower := by
  have listed : ∀ n < 103, is_hex (Char.ofNat n) = true →
      ((Char.ofNat n).toLower.isDigit = true ∨ ('a' ≤ (Char.ofNat n).toLower ∧ (Char.ofNat n).toLower ≤ 'f')) ∧
        (Char.ofNat n).toLower.toLower = (Char.ofNat n).toLower := by decide +kernel
  have small := hex_range hex
  have same : Char.ofNat c.toNat = c := Char.ofNat_toNat c
  rw [← same] at hex ⊢
  exact listed c.toNat small hex

/-- What is accepted as a hash is a word of hexadecimal digits with the length of one. -/
private theorem hash_word {text : List Char} {kind : IOCType} (stripped : strip_of Text.is_space text = text)
    (typed : hash_type_for text = some kind) :
    (∀ c ∈ text, is_hex c = true) ∧ 1 ≤ text.length ∧ HASH_BY_LENGTH text.length = some kind := by
  rw [hash_type_for] at typed
  rw [stripped] at typed
  split at typed
  · rename_i matched
    have no_feed : text.getLast? ≠ some '\n' := by
      rw [← stripped]
      exact UrlUserinfo.strip_of_last (by decide) text
    exact ⟨(hex_of_match matched no_feed).1, (hex_of_match matched no_feed).2, typed⟩
  · cases typed

theorem hash_normal {expected : Option IOCType} (normal : normalize_hash library raw expected = some cs) :
    normalize_hash library cs expected = some cs ∧ Hash expected cs := by
  have text := strip_of_idem Text.is_space raw
  rw [normalize_hash] at normal
  split at normal
  · cases normal
  rename_i kind typed
  obtain ⟨hex, some_digit, length⟩ := hash_word text typed
  have ascii : ∀ word : List Char, (∀ c ∈ word, is_hex c = true) → ∀ c ∈ word, c.toNat < 128 :=
    fun word hex c inside => (hex_range (hex c inside)).trans (by decide)
  split at normal
  · cases normal
  rename_i pinned
  cases normal
  rw [library.unicode.lower_ascii _ (ascii _ hex)]
  have lowered : ∀ c ∈ (strip_of Text.is_space raw).map Char.toLower,
      (c.isDigit = true ∨ ('a' ≤ c ∧ c ≤ 'f')) ∧ c.toLower = c := by
    intro c inside
    obtain ⟨d, member, rfl⟩ := List.mem_map.mp inside
    exact lower_hex (hex d member)
  have lower_hex_digit : ∀ c ∈ (strip_of Text.is_space raw).map Char.toLower, is_hex c = true := by
    intro c inside
    rcases (lowered c inside).1 with digit | ⟨low, high⟩
    · rw [is_hex, digit]
      rfl
    · rw [is_hex, decide_eq_true low, decide_eq_true high]
      simp
  have size : ((strip_of Text.is_space raw).map Char.toLower).length = (strip_of Text.is_space raw).length :=
    List.length_map _
  obtain ⟨stripped, type⟩ := hex_word lower_hex_digit (by omega)
  rw [size, length] at type
  refine ⟨?_, fun c inside => (lowered c inside).1, kind, by rw [size, length], fun other same => ?_⟩
  · rw [normalize_hash, stripped, type]
    dsimp only
    rw [if_neg pinned, library.unicode.lower_ascii _ (ascii _ lower_hex_digit),
      (List.map_congr_left (fun c inside => (lowered c inside).2)).trans
      (List.map_id _)]
  · subst same
    simpa using pinned
end

end SocTriage.NormalForms
