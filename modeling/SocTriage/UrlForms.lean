import Mathlib.Data.List.TakeWhile
import SocTriage.NormalForms

/-!
The normal form of a URL read again. A normal URL is a scheme, a network location and a rest
that begins with a slash; trimming can only change the rest, and never makes it longer
(`url_normal_iff`). With it every normalizer is settled (`normal_iff`).
-/
namespace SocTriage.UrlForms
open Patterns Normalize Trimming DomainPattern DottedQuad NormalForms

/-! ### The parts of a split URL -/

/-- What `urlsplit` removes wherever it stands. -/
def unsafe_char (c : Char) : Bool := ['\t', '\r', '\n'].contains c

/-- Neither a separator of the parts nor what is removed. -/
structure Inert (separators cs : List Char) : Prop where
  apart : ∀ c ∈ cs, c ∉ separators
  safe : ∀ c ∈ cs, unsafe_char c = false

private theorem mem_partition_left {sep c : Char} {cs : List Char} (inside : c ∈ (UrlSplit.partition sep cs).1) :
    c ∈ cs ∧ c ≠ sep := by
  refine ⟨(List.takeWhile_sublist _).subset inside, ?_⟩
  have other := List.all_eq_true.mp (List.all_takeWhile ..) c inside
  simpa using other

private theorem mem_partition_right {sep c : Char} {cs : List Char} (inside : c ∈ (UrlSplit.partition sep cs).2) : c ∈ cs :=
  (List.dropWhile_sublist _).subset ((List.drop_sublist 1 _).subset inside)

private theorem split_scheme_sublist (url : List Char) : (UrlSplit.split_scheme url).2.Sublist url := by
  rw [UrlSplit.split_scheme]
  split
  · exact List.drop_sublist _ _
  · exact List.Sublist.refl _

private theorem split_netloc_sublist (url : List Char) :
    (UrlSplit.split_netloc url).1.Sublist url ∧ (UrlSplit.split_netloc url).2.Sublist url := by
  rw [UrlSplit.split_netloc]
  split
  · exact ⟨(List.takeWhile_sublist _).trans (List.drop_sublist _ _), (List.dropWhile_sublist _).trans (List.drop_sublist _ _)⟩
  · exact ⟨List.nil_sublist url, List.Sublist.refl _⟩

private theorem split_netloc_delimited (url : List Char) : (UrlSplit.split_netloc url).1 = [] ∨
    (UrlSplit.split_netloc url).2 = [] ∨
      ∃ c rest, (UrlSplit.split_netloc url).2 = c :: rest ∧ UrlSplit.delimits c = true := by
  rw [UrlSplit.split_netloc]
  split
  · cases left : (url.drop 2).dropWhile (fun c => !UrlSplit.delimits c) with
    | nil => exact .inr (.inl rfl)
    | cons c rest =>
      have head := List.head_dropWhile_not (fun c => !UrlSplit.delimits c) (by rw [left]; exact List.cons_ne_nil c rest)
      simp only [left, List.head_cons] at head
      exact .inr (.inr ⟨c, rest, rfl, by simpa using head⟩)
  · exact .inl rfl

/-- The parts have neither separators nor line feeds, and behind a network location the path is empty or begins
    with a slash. -/
theorem split_parts {unicode : UrlSplit.Unicode} {raw : List Char} {parts : UrlSplit.SplitResult}
    (split : UrlSplit.urlsplit unicode raw = some parts) :
    Inert ['#', '?'] parts.path ∧ Inert ['#'] parts.query ∧ '\n' ∉ parts.netloc ∧
      (parts.netloc = [] ∨ parts.path = [] ∨ parts.path.head? = some '/') := by
  rw [UrlSplit.urlsplit] at split
  dsimp only at split
  have kept : ∀ c ∈ (raw.dropWhile (fun c => decide (c.toNat ≤ 32))).filter (fun c => !(['\t', '\r', '\n'].contains c)),
      unsafe_char c = false := by
    intro c inside
    have other := (List.mem_filter.mp inside).2
    simpa [unsafe_char] using other
  generalize (raw.dropWhile (fun c => decide (c.toNat ≤ 32))).filter (fun c => !(['\t', '\r', '\n'].contains c)) = url at *
  have after := split_scheme_sublist url
  generalize (UrlSplit.split_scheme url).2 = url' at *
  have parted := split_netloc_sublist url'
  have delimited := split_netloc_delimited url'
  generalize (UrlSplit.split_netloc url').1 = netloc at *
  generalize (UrlSplit.split_netloc url').2 = rest at *
  have safe : ∀ c ∈ rest, unsafe_char c = false := fun c inside => kept c (after.subset (parted.2.subset inside))
  split at split
  · cases split
  · cases split
    refine ⟨⟨fun c inside => ?_, fun c inside => ?_⟩, ⟨fun c inside => ?_, fun c inside => ?_⟩, fun inside => ?_, ?_⟩
    · obtain ⟨inside, query⟩ := mem_partition_left inside
      obtain ⟨-, fragment⟩ := mem_partition_left inside
      simp [query, fragment]
    · exact safe c (mem_partition_left (mem_partition_left inside).1).1
    · obtain ⟨-, fragment⟩ := mem_partition_left (mem_partition_right inside)
      simp [fragment]
    · exact safe c (mem_partition_left (mem_partition_right inside)).1
    · exact absurd (kept '\n' (after.subset (parted.1.subset inside))) (by decide)
    · rcases delimited with none | none | ⟨c, more, rfl, delimiter⟩
      · exact .inl none
      · rw [none]
        exact .inr (.inl rfl)
      · have listed : c ∈ ['/', '?', '#'] := List.contains_iff_mem.mp delimiter
        simp only [List.mem_cons, List.not_mem_nil, or_false] at listed
        rcases listed with rfl | rfl | rfl
        · exact .inr (.inr rfl)
        · exact .inr (.inl rfl)
        · exact .inr (.inl rfl)

/-! ### A normal URL split again -/

/-- A scheme, a host, a port that shows, and the slash behind them. -/
structure Begins (scheme host : List Char) (port : Option Nat) : Prop where
  known : scheme ∈ ALLOWED_URL_SCHEMES
  plain : ∀ c ∈ host, domain_char c = true
  shown : ∀ p, port = some p → p ≤ 65535 ∧ DEFAULT_PORTS scheme ≠ some p

/-- What stands in front of the slash. -/
def origin (scheme host : List Char) (port : Option Nat) : List Char := scheme ++ "://".toList ++ (host ++ port_text port)

section
variable {scheme host : List Char} {port : Option Nat}

/-- The characters in front of the slash. -/
private theorem netloc_char (begins : Begins scheme host port) :
    ∀ c ∈ host ++ port_text port, domain_char c = true ∨ c = ':' := by
  intro c inside
  rcases List.mem_append.mp inside with inside | inside
  · exact .inl (begins.plain c inside)
  · cases port with
    | none => cases inside
    | some p =>
      rcases List.mem_cons.mp inside with rfl | inside
      · exact .inr rfl
      · rw [domain_char, lower_alnum, decimal_digits p c inside, Bool.or_true]
        exact .inl rfl

private theorem scheme_letters (known : scheme ∈ ALLOWED_URL_SCHEMES) :
    (∀ c ∈ scheme, c.isLower = true) ∧ scheme ≠ [] := by
  have all : ∀ scheme ∈ ALLOWED_URL_SCHEMES, (∀ c ∈ scheme, c.isLower = true) ∧ scheme ≠ [] := by decide
  exact all scheme known

private theorem letter_plain {c : Char} (letter : c.isLower = true) : domain_char c = true := by
  rw [domain_char, lower_alnum, letter]
  rfl

private theorem origin_char (begins : Begins scheme host port) :
    ∀ c ∈ origin scheme host port, domain_char c = true ∨ c = ':' ∨ c = '/' := by
  intro c inside
  rcases List.mem_append.mp inside with inside | inside
  · rcases List.mem_append.mp inside with inside | inside
    · exact .inl (letter_plain ((scheme_letters begins.known).1 c inside))
    · have colon : "://".toList = [':', '/', '/'] := by decide
      rw [colon] at inside
      simp only [List.mem_cons, List.not_mem_nil, or_false] at inside
      rcases inside with rfl | rfl | rfl
      · exact .inr (.inl rfl)
      · exact .inr (.inr rfl)
      · exact .inr (.inr rfl)
  · rcases netloc_char begins c inside with plain | colon
    · exact .inl plain
    · exact .inr (.inl colon)

private theorem plain_safe {c : Char} (plain : domain_char c = true) :
    unsafe_char c = false ∧ UrlSplit.delimits c = false := by
  have range := domain_range plain
  constructor
  · cases inside : unsafe_char c with
    | false => rfl
    | true =>
      have listed : c ∈ ['\t', '\r', '\n'] := List.contains_iff_mem.mp inside
      simp only [List.mem_cons, List.not_mem_nil, or_false] at listed
      rcases listed with rfl | rfl | rfl <;> exact absurd plain (by decide)
  · cases inside : UrlSplit.delimits c with
    | false => rfl
    | true =>
      have listed : c ∈ ['/', '?', '#'] := List.contains_iff_mem.mp inside
      simp only [List.mem_cons, List.not_mem_nil, or_false] at listed
      rcases listed with rfl | rfl | rfl <;> exact absurd plain (by decide)

/-- The rest of a URL without what `urlsplit` removes. -/
def safe_text (rest : List Char) : List Char := rest.filter (fun c => !(['\t', '\r', '\n'].contains c))

private theorem split_scheme_known (known : scheme ∈ ALLOWED_URL_SCHEMES) (after : List Char) :
    UrlSplit.split_scheme (scheme ++ ':' :: after) = (scheme, after) := by
  have all : ∀ scheme ∈ ALLOWED_URL_SCHEMES, (∀ c ∈ scheme, decide (c ≠ ':') = true) ∧
      scheme.head?.any Char.isAlpha = true ∧ scheme.all UrlSplit.scheme_char = true ∧ scheme.map Char.toLower = scheme := by
    decide
  obtain ⟨apart, first, spelled, lower⟩ := all scheme known
  have start : (scheme ++ ':' :: after).takeWhile (· ≠ ':') = scheme := by
    rw [List.takeWhile_append_of_pos apart]
    simp
  rw [UrlSplit.split_scheme, start, if_pos ⟨by simp, first, spelled⟩, lower, ← List.length_cons (a := ':'), List.drop_append]
  simp

private theorem split_netloc_known (begins : Begins scheme host port) (after : List Char) :
    UrlSplit.split_netloc ('/' :: '/' :: (host ++ port_text port ++ '/' :: after)) =
      (host ++ port_text port, '/' :: after) := by
  have undelimited : ∀ c ∈ host ++ port_text port, (!UrlSplit.delimits c) = true := by
    intro c inside
    rcases netloc_char begins c inside with plain | rfl
    · rw [(plain_safe plain).2]
      rfl
    · decide
  have slashes : ['/', '/'].isPrefixOf ('/' :: '/' :: (host ++ port_text port ++ '/' :: after)) = true := rfl
  rw [UrlSplit.split_netloc, if_pos slashes]
  show ((host ++ port_text port ++ '/' :: after).takeWhile _, (host ++ port_text port ++ '/' :: after).dropWhile _) = _
  rw [List.takeWhile_append_of_pos undelimited, List.dropWhile_append_of_pos undelimited]
  simp [UrlSplit.delimits]

private theorem accepted (unicode : UrlSplit.Unicode) (begins : Begins scheme host port) :
    UrlSplit.refused unicode (host ++ port_text port) = false := by
  have ascii : ∀ c ∈ host ++ port_text port, c.toNat < 128 ∧ c ≠ '[' ∧ c ≠ ']' := by
    intro c inside
    rcases netloc_char begins c inside with plain | rfl
    · have range := domain_range plain
      refine ⟨by omega, ?_, ?_⟩
      · rintro rfl
        exact absurd plain (by decide)
      · rintro rfl
        exact absurd plain (by decide)
    · decide
  have opening : '[' ∉ host ++ port_text port := fun inside => (ascii '[' inside).2.1 rfl
  have closing : ']' ∉ host ++ port_text port := fun inside => (ascii ']' inside).2.2 rfl
  have beyond : (host ++ port_text port).any (fun c => decide (128 ≤ c.toNat)) = false := by
    rw [List.any_eq_false]
    intro c inside
    have range := (ascii c inside).1
    rw [decide_eq_true_eq]
    omega
  rw [UrlSplit.refused, decide_eq_false opening, decide_eq_false closing, beyond]
  rfl

/-- A normal URL is split into what it was put together of, whatever stands behind the slash. -/
theorem urlsplit_origin (unicode : UrlSplit.Unicode) (begins : Begins scheme host port) (rest : List Char) :
    UrlSplit.urlsplit unicode (origin scheme host port ++ '/' :: rest) = some
      { scheme, netloc := host ++ port_text port
        path := (UrlSplit.partition '?' (UrlSplit.partition '#' ('/' :: safe_text rest)).1).1
        query := (UrlSplit.partition '?' (UrlSplit.partition '#' ('/' :: safe_text rest)).1).2
        fragment := (UrlSplit.partition '#' ('/' :: safe_text rest)).2 } := by
  have colon : "://".toList = [':', '/', '/'] := by decide
  have started : (origin scheme host port ++ '/' :: rest).dropWhile (fun c => decide (c.toNat ≤ 32)) =
      origin scheme host port ++ '/' :: rest := by
    refine dropWhile_eq_iff.mpr (fun c head => ?_)
    obtain ⟨letters, nonempty⟩ := scheme_letters begins.known
    obtain ⟨d, tail, rfl⟩ := List.exists_cons_of_ne_nil nonempty
    have same : d = c := Option.some.inj head
    have range := domain_range (letter_plain (letters d List.mem_cons_self))
    rw [same] at range
    rw [decide_eq_false_iff_not]
    omega
  have kept : (origin scheme host port ++ '/' :: rest).filter (fun c => !(['\t', '\r', '\n'].contains c)) =
      scheme ++ ':' :: '/' :: '/' :: (host ++ port_text port ++ '/' :: safe_text rest) := by
    have own : (origin scheme host port).filter (fun c => !(['\t', '\r', '\n'].contains c)) = origin scheme host port := by
      refine List.filter_eq_self.mpr (fun c inside => ?_)
      rcases origin_char begins c inside with plain | rfl | rfl
      · have safe := (plain_safe plain).1
        rw [unsafe_char] at safe
        rw [safe]
        rfl
      · decide
      · decide
    rw [List.filter_append, own, origin, colon]
    simp [safe_text]
  rw [UrlSplit.urlsplit]
  dsimp only
  rw [started, kept, split_scheme_known begins.known, split_netloc_known begins, accepted unicode begins]
  rfl
private theorem hostinfo_known (begins : Begins scheme host port) :
    UrlSplit.hostinfo (host ++ port_text port) = (host, (port.map decimal).getD []) := by
  have absent : ∀ c, domain_char c = false → c ≠ ':' → c ∉ host ++ port_text port := by
    intro c foreign other inside
    rcases netloc_char begins c inside with plain | colon
    · rw [foreign] at plain
      cases plain
    · exact other colon
  have before : ∀ c ∈ host, decide (c ≠ ':') = true := by
    intro c inside
    rw [decide_eq_true_eq]
    rintro rfl
    exact absurd (begins.plain ':' inside) (by decide)
  rw [UrlSplit.hostinfo, if_neg (absent '@' (by decide) (by decide)), if_neg (absent '[' (by decide) (by decide)),
    UrlSplit.partition, List.takeWhile_append_of_pos before, List.dropWhile_append_of_pos before]
  cases port with
  | none => simp [port_text]
  | some p => simp [port_text]

variable {library : Library} {parts : UrlSplit.SplitResult}

private theorem port_known (begins : Begins scheme host port) (netloc : parts.netloc = host ++ port_text port) :
    parts.port = some port := by
  rw [UrlSplit.SplitResult.port, netloc, hostinfo_known begins]
  cases port with
  | none => rfl
  | some p =>
    have nonempty := decimal_ne_nil p
    dsimp only [Option.map_some, Option.getD_some]
    split
    · contradiction
    · rw [parse_decimal_decimal]
      dsimp only
      rw [if_pos (begins.shown p rfl).1]

private theorem hostname_known (begins : Begins scheme host port) (netloc : parts.netloc = host ++ port_text port) :
    parts.hostname library.unicode = host := by
  have whole : ∀ c ∈ host, decide (c ≠ '%') = true := by
    intro c inside
    rw [decide_eq_true_eq]
    rintro rfl
    exact absurd (begins.plain '%' inside) (by decide)
  have nothing : host.dropWhile (· ≠ '%') = [] := List.dropWhile_eq_nil_iff.mpr whole
  have all : host.takeWhile (· ≠ '%') = host := List.takeWhile_eq_self_iff.mpr whole
  rw [UrlSplit.SplitResult.hostname, netloc, hostinfo_known begins]
  dsimp only
  rw [all, nothing, List.append_nil, lower_plain begins.plain]

private theorem with_port_shown (begins : Begins scheme host port) : with_port scheme host port = host ++ port_text port := by
  cases port with
  | none => exact (List.append_nil host).symm
  | some p => exact if_neg (fun same => (begins.shown p rfl).2 same.symm)

/-- The path and the query behind the slash, put together again. -/
def reassembled (rest : List Char) : List Char :=
  let (path, query) := UrlSplit.partition '?' (UrlSplit.partition '#' ('/' :: safe_text rest)).1
  path ++ if query = [] then [] else '?' :: query

/-- What stands in front of the slash stays, whatever stands behind it. -/
private theorem normalize_url_origin (begins : Begins scheme host port) (nonempty : host ≠ [])
    (host_normal : normalize_host library host = some host) {raw rest : List Char}
    (text : trimmed (String.ofList raw) = origin scheme host port ++ '/' :: rest) :
    normalize_url library raw = some (origin scheme host port ++ reassembled rest) := by
  have scheme_lower : library.unicode.lower scheme = scheme :=
    lower_plain (fun c inside => letter_plain ((scheme_letters begins.known).1 c inside))
  have slash : ∃ tail, (UrlSplit.partition '?' (UrlSplit.partition '#' ('/' :: safe_text rest)).1).1 = '/' :: tail := by
    exact ⟨_, rfl⟩
  rw [normalize_url]
  dsimp only
  rw [text, if_neg (by simp), urlsplit_origin library.unicode begins]
  dsimp only
  rw [port_known begins rfl]
  dsimp only
  rw [hostname_known begins rfl, scheme_lower, if_neg (not_or.mpr ⟨not_not.mpr begins.known, nonempty⟩), host_normal]
  dsimp only
  obtain ⟨tail, path⟩ := slash
  rw [with_port_shown begins, if_neg (by rw [path]; exact List.cons_ne_nil _ _), UrlSplit.urlunsplit, reassembled, origin]
  dsimp only
  rw [path]
  simp

private theorem length_reassembled (rest : List Char) : (reassembled rest).length ≤ rest.length + 1 := by
  have kept : (safe_text rest).length ≤ rest.length := List.length_filter_le _ rest
  have before := (List.takeWhile_sublist (· ≠ '#') (l := '/' :: safe_text rest)).length_le
  have parted := List.takeWhile_append_dropWhile (p := (· ≠ '?')) (l := (UrlSplit.partition '#' ('/' :: safe_text rest)).1)
  have lengths := congrArg List.length parted
  rw [List.length_append] at lengths
  rw [List.length_cons] at before
  rw [reassembled]
  dsimp only [UrlSplit.partition] at lengths ⊢
  split
  · rw [List.append_nil]
    omega
  · rename_i some_query
    have long := List.length_pos_iff.mpr some_query
    rw [List.length_drop] at long
    rw [List.length_append, List.length_cons, List.length_drop]
    omega

/-- A rest that is a path and a query already is put together as it was. -/
private theorem reassembled_fixed {path query rest : List Char} (path_inert : Inert ['#', '?'] path)
    (query_inert : Inert ['#'] query) (whole : '/' :: rest = path ++ if query = [] then [] else '?' :: query) :
    reassembled rest = '/' :: rest := by
  have spelled : ∀ c ∈ '/' :: rest, unsafe_char c = false ∧ c ≠ '#' := by
    intro c inside
    rw [whole] at inside
    rcases List.mem_append.mp inside with inside | inside
    · exact ⟨path_inert.safe c inside, fun same => path_inert.apart c inside (by rw [same]; decide)⟩
    · split at inside
      · cases inside
      · rcases List.mem_cons.mp inside with rfl | inside
        · decide
        · exact ⟨query_inert.safe c inside, fun same => query_inert.apart c inside (by rw [same]; decide)⟩
  have safe : safe_text rest = rest := by
    refine List.filter_eq_self.mpr (fun c inside => ?_)
    have own := (spelled c (List.mem_cons_of_mem _ inside)).1
    rw [unsafe_char] at own
    rw [own]
    rfl
  have line : ∀ c ∈ '/' :: rest, decide (c ≠ '#') = true := fun c inside => decide_eq_true (spelled c inside).2
  have kept : (UrlSplit.partition '#' ('/' :: rest)).1 = '/' :: rest := List.takeWhile_eq_self_iff.mpr line
  have before : ∀ c ∈ path, decide (c ≠ '?') = true := by
    intro c inside
    rw [decide_eq_true_eq]
    exact fun same => path_inert.apart c inside (by rw [same]; decide)
  rw [reassembled, safe, kept, whole]
  dsimp only [UrlSplit.partition]
  rw [List.takeWhile_append_of_pos before, List.dropWhile_append_of_pos before]
  by_cases none : query = []
  · simp [none]
  · simp [none]

/-! ### A normal URL trimmed again -/

private theorem rewrite_scheme_other {a b c d : Char} {rest : List Char} (other : (folds 'h' a && folds 'x' b) = false) :
    rewrite_scheme (a :: b :: c :: d :: rest) = a :: b :: c :: d :: rest := by
  unfold rewrite_scheme
  dsimp only
  rw [other]
  rfl

private theorem scheme_kept (known : scheme ∈ ALLOWED_URL_SCHEMES) (after : List Char) :
    rewrite_scheme (scheme ++ "://".toList ++ after) = scheme ++ "://".toList ++ after := by
  have listed : scheme = ['h', 't', 't', 'p'] ∨ scheme = ['h', 't', 't', 'p', 's'] ∨ scheme = ['f', 't', 'p'] := by
    simpa [ALLOWED_URL_SCHEMES] using known
  have colon : "://".toList = [':', '/', '/'] := by decide
  rw [colon]
  rcases listed with rfl | rfl | rfl
  · exact rewrite_scheme_other (by decide)
  · exact rewrite_scheme_other (by decide)
  · exact rewrite_scheme_other (by decide)

private theorem origin_head (begins : Begins scheme host port) :
    ∃ first word, origin scheme host port = first :: word ∧ Tight first := by
  obtain ⟨letters, nonempty⟩ := scheme_letters begins.known
  obtain ⟨first, tail, rfl⟩ := List.exists_cons_of_ne_nil nonempty
  exact ⟨first, _, rfl, tight_domain (letter_plain (letters first List.mem_cons_self))⟩

private theorem origin_unopened (begins : Begins scheme host port) : ∀ c ∈ origin scheme host port, opens c = false := by
  intro c inside
  rcases origin_char begins c inside with plain | rfl | rfl
  · exact (unbracketed_domain plain).1
  · decide
  · decide

private theorem not_marked_short {cs : List Char} (short : cs.length ≤ 1) : ¬ Marked cs := by
  rintro ⟨middle, -, before, a, b, after, rfl, -, -⟩
  simp only [List.length_append, List.length_cons] at short
  omega

/-- The path, or a slash, and the query behind a question mark. -/
def path_and_query (path query : List Char) : List Char :=
  (if path = [] then ['/'] else path) ++ if query = [] then [] else '?' :: query

private theorem marked_rest (path query : List Char) :
    Marked (path_and_query path query) ↔ Marked path ∨ Marked query := by
  have start : Marked (if path = [] then ['/'] else path) ↔ Marked path := by
    split
    · rename_i empty
      rw [empty]
      exact iff_of_false (not_marked_short (Nat.le_refl 1)) (not_marked_short (Nat.zero_le 1))
    · exact Iff.rfl
  by_cases no_query : query = []
  · rw [path_and_query, if_pos no_query, List.append_nil, start, no_query,
      or_iff_left (@not_marked_short [] (Nat.zero_le 1))]
  · rw [path_and_query, if_neg no_query, marked_apart ⟨by decide, by decide, by decide⟩, start]

private theorem last_rest (path query : List Char) :
    (∀ c, (path_and_query path query).getLast? = some c → Tight c) ↔ ∀ c, (path ++ query).getLast? = some c → Tight c := by
  rw [path_and_query]
  by_cases no_query : query = []
  · rw [if_pos no_query, no_query, List.append_nil, List.append_nil]
    by_cases no_path : path = []
    · rw [if_pos no_path, no_path]
      refine iff_of_true (fun c same => ?_) (fun c none => by cases none)
      cases same
      exact ⟨by decide, by decide⟩
    · rw [if_neg no_path]
  · rw [if_neg no_query, List.getLast?_append_of_ne_nil _ (List.cons_ne_nil _ _),
      List.getLast?_append_of_ne_nil _ no_query, ← List.singleton_append, List.getLast?_append_of_ne_nil _ no_query]

/-- A normal URL is snug unless its path or its query is not. -/
private theorem snug_iff (begins : Begins scheme host port) {path query rest : List Char}
    (whole : '/' :: rest = path_and_query path query) : Snug (origin scheme host port ++ '/' :: rest) ↔
      ¬ Marked path ∧ ¬ Marked query ∧ ∀ c, (path ++ query).getLast? = some c → Tight c := by
  obtain ⟨first, word, starts, tight⟩ := origin_head begins
  have marked : Marked (origin scheme host port ++ '/' :: rest) ↔ Marked path ∨ Marked query := by
    rw [marked_append_right (origin_unopened begins), whole, marked_rest]
  have last : (origin scheme host port ++ '/' :: rest).getLast? = (path_and_query path query).getLast? := by
    rw [List.getLast?_append_of_ne_nil _ (List.cons_ne_nil _ _), whole]
  rw [← last_rest, ← and_assoc, ← not_or, ← marked, ← last]
  constructor
  · exact fun snug => ⟨snug.plain, snug.last⟩
  · rintro ⟨plain, ending⟩
    refine ⟨plain, fun c head => ?_, ending⟩
    rw [starts] at head
    cases head
    exact tight

/-- A normal URL normalizes to itself exactly when it is snug. -/
private theorem url_fixed_iff (begins : Begins scheme host port) (nonempty : host ≠ [])
    (host_normal : normalize_host library host = some host) {path query rest : List Char}
    (path_inert : Inert ['#', '?'] path) (query_inert : Inert ['#'] query)
    (whole : '/' :: rest = path_and_query path query) :
    normalize_url library (origin scheme host port ++ '/' :: rest) = some (origin scheme host port ++ '/' :: rest) ↔
      Snug (origin scheme host port ++ '/' :: rest) := by
  have kept : ∀ after, rewrite_scheme (origin scheme host port ++ after) = origin scheme host port ++ after := by
    intro after
    rw [origin, List.append_assoc _ _ after]
    exact scheme_kept begins.known _
  constructor
  · intro fixed
    by_contra loose
    obtain ⟨first, word, starts, tight⟩ := origin_head begins
    have unopened : ∀ c ∈ first :: word ++ ['/'], opens c = false := by
      rw [← starts]
      intro c inside
      rcases List.mem_append.mp inside with inside | inside
      · exact origin_unopened begins c inside
      · rw [List.mem_singleton.mp inside]
        decide
    obtain ⟨left, text⟩ := trimmed_append unopened tight ⟨by decide, by decide⟩ (fun after => by rw [← starts, kept]) rest
    rw [← starts] at text
    have shorter := trimmed_shorter (kept _) loose
    rw [normalize_url_origin begins nonempty host_normal text, Option.some.injEq] at fixed
    rw [text] at shorter
    have lengths := congrArg List.length fixed
    have bound := length_reassembled left
    simp only [List.length_append, List.length_cons] at lengths shorter
    omega
  · intro snug
    rw [normalize_url_origin begins nonempty host_normal (trimmed_snug (kept _) snug)]
    have spelled : Inert ['#', '?'] (if path = [] then ['/'] else path) := by
      split
      · exact ⟨by decide, by decide⟩
      · exact path_inert
    rw [reassembled_fixed spelled query_inert whole]
end

/-! ### Hosts -/

section
variable {library : Library} {host : List Char}

/-- A host that is its own normal form. -/
def Host (host : List Char) : Prop := (Domain host ∧ is_match Normalize.DOMAIN_RE host = true) ∨ Address host

theorem Host.plain (valid : Host host) : (∀ c ∈ host, domain_char c = true) ∧ host ≠ [] := by
  rcases valid with ⟨domain, -⟩ | address
  · obtain ⟨c, rest, rfl, -⟩ := domain.first
    exact ⟨domain.chars, List.cons_ne_nil c rest⟩
  · obtain ⟨-, ⟨c, rest, same, -⟩, -⟩ := address.chars
    exact ⟨address_plain address, by rw [same]; exact List.cons_ne_nil c rest⟩

private theorem address_unmatched (address : Address host) : is_match Normalize.DOMAIN_RE host = false := by
  by_contra matched
  obtain ⟨domain, is_domain, same | broken⟩ := domain_of_match (Bool.not_eq_false _ ▸ matched)
  · obtain ⟨c, ending, letter⟩ := is_domain.last
    obtain ⟨-, -, d, ending', digit⟩ := address.chars
    rw [← same, ending'] at ending
    cases ending
    delta Char.isLower Char.isDigit at letter digit
    simp only [Bool.and_eq_true, decide_eq_true_eq, ge_iff_le, UInt32.le_iff_toNat_le] at letter digit
    have bounds : 'a'.val.toNat = 97 ∧ '9'.val.toNat = 57 := by decide
    omega
  · have plain := address_plain address '\n' (by rw [broken]; simp)
    exact absurd plain (by decide)

theorem Host.normal (valid : Host host) : normalize_host library host = some host := by
  rw [normalize_host, lower_plain valid.plain.1]
  rcases valid with ⟨domain, matched⟩ | address
  · rw [rstrip_domain domain, if_pos matched]
  · rw [rstrip_address address, address_unmatched address, if_neg Bool.false_ne_true]
    obtain ⟨n, bounded, rfl⟩ := address
    rw [IPv4Address_str bounded]
    rfl

/-- What a host without line feeds is normalized to. -/
private theorem host_of_normal (documented : Documented library) {raw : List Char} (line : '\n' ∉ raw)
    (normal : normalize_host library raw = some host) : Host host := by
  rw [normalize_host] at normal
  split at normal
  · rename_i matched
    cases normal
    obtain ⟨domain, is_domain, same | broken⟩ := domain_of_match matched
    · exact .inl ⟨same ▸ is_domain, matched⟩
    · have inside : '\n' ∈ rstrip_of (· = '.') (library.unicode.lower raw) := by
        rw [broken]
        simp
      rw [rstrip_of] at inside
      have lowered := List.mem_reverse.mp ((List.dropWhile_sublist _).subset (List.mem_reverse.mp inside))
      exact absurd (documented.lower_feed raw lowered) line
  · obtain ⟨n, read, rfl⟩ := Option.map_eq_some_iff.mp normal
    exact .inr ⟨n, IPv4Address_lt read, rfl⟩

private theorem hostinfo_subset {c : Char} {netloc : List Char} (inside : c ∈ (UrlSplit.hostinfo netloc).1) : c ∈ netloc := by
  have behind : (if '@' ∈ netloc then Text.after_last '@' netloc else netloc).Sublist netloc := by
    split
    · rw [Text.after_last]
      have shorter := (List.takeWhile_sublist (· ≠ '@') (l := netloc.reverse)).reverse
      rwa [List.reverse_reverse] at shorter
    · exact List.Sublist.refl _
  rw [UrlSplit.hostinfo] at inside
  generalize (if '@' ∈ netloc then Text.after_last '@' netloc else netloc) = info at behind inside
  split at inside
  · exact behind.subset (mem_partition_right (mem_partition_left inside).1)
  · exact behind.subset (mem_partition_left inside).1

private theorem hostname_line (documented : Documented library) {parts : UrlSplit.SplitResult} (line : '\n' ∉ parts.netloc) :
    '\n' ∉ parts.hostname library.unicode := by
  rw [UrlSplit.SplitResult.hostname]
  intro inside
  rcases List.mem_append.mp inside with inside | inside
  · exact line (hostinfo_subset ((List.takeWhile_sublist _).subset (documented.lower_feed _ inside)))
  · exact line (hostinfo_subset ((List.dropWhile_sublist _).subset inside))
end

/-! ### Normal values -/

section
variable {library : Library} {raw cs : List Char}

/-- The port that shows behind a host. -/
private theorem with_port_some {scheme host : List Char} {port : Option Nat} (bounded : ∀ p, port = some p → p ≤ 65535) :
    ∃ shown, (∀ p, shown = some p → p ≤ 65535 ∧ DEFAULT_PORTS scheme ≠ some p) ∧
      with_port scheme host port = host ++ port_text shown := by
  cases port with
  | none => exact ⟨none, (fun p same => by cases same), (List.append_nil host).symm⟩
  | some p =>
    by_cases hidden : some p = DEFAULT_PORTS scheme
    · exact ⟨none, (fun p same => by cases same), (if_pos hidden).trans (List.append_nil host).symm⟩
    · refine ⟨some p, fun q same => ?_, if_neg hidden⟩
      cases same
      exact ⟨bounded p rfl, fun same => hidden same.symm⟩

private theorem port_bounded {parts : UrlSplit.SplitResult} {port : Option Nat} (read : parts.port = some port) :
    ∀ p, port = some p → p ≤ 65535 := by
  rw [UrlSplit.SplitResult.port] at read
  split at read
  · cases read
    intro p same
    cases same
  · split at read
    · cases read
    · split at read
      · cases read
        intro p same
        cases same
        assumption
      · cases read

/-- What a normal URL is put together of. -/
private theorem normalize_url_some (documented : Documented library) (normal : normalize_url library raw = some cs) :
    ∃ parts scheme host port rest, UrlSplit.urlsplit library.unicode (trimmed (String.ofList raw)) = some parts ∧
      Begins scheme host port ∧ Host host ∧ Inert ['#', '?'] parts.path ∧ Inert ['#'] parts.query ∧
      '/' :: rest = path_and_query parts.path parts.query ∧ cs = origin scheme host port ++ '/' :: rest := by
  rw [normalize_url] at normal
  dsimp only at normal
  split at normal
  · cases normal
  split at normal
  · cases normal
  rename_i parts split_text
  split at normal
  · cases normal
  rename_i port read_port
  split at normal
  · cases normal
  rename_i accepted_parts
  split at normal
  · cases normal
  rename_i host host_normal
  rw [not_or, not_not] at accepted_parts
  obtain ⟨known, named⟩ := accepted_parts
  obtain ⟨path_inert, query_inert, line, slash⟩ := split_parts split_text
  have valid := host_of_normal documented (hostname_line documented line) host_normal
  obtain ⟨shown, fitting, netloc⟩ := @with_port_some (library.unicode.lower parts.scheme) host port (port_bounded read_port)
  have located : parts.netloc ≠ [] := by
    intro empty
    refine named ?_
    rw [UrlSplit.SplitResult.hostname, empty]
    exact (List.append_nil _).trans (lower_plain (fun c inside => by cases inside))
  have first : (if parts.path = [] then ['/'] else parts.path).head? = some '/' := by
    rcases slash with empty | empty | first
    · exact absurd empty located
    · rw [if_pos empty]
      rfl
    · rw [if_neg (fun empty => by rw [empty] at first; cases first), first]
  obtain ⟨rest, whole⟩ : ∃ rest, path_and_query parts.path parts.query = '/' :: rest := by
    rw [path_and_query]
    cases same : (if parts.path = [] then ['/'] else parts.path) with
    | nil =>
      rw [same] at first
      cases first
    | cons c tail =>
      rw [same] at first
      cases first
      exact ⟨_, rfl⟩
  refine ⟨parts, library.unicode.lower parts.scheme, host, shown, rest, split_text, ⟨known, valid.plain.1, fitting⟩, valid,
    path_inert, query_inert, whole.symm, ?_⟩
  cases normal
  rw [UrlSplit.urlunsplit, netloc, origin, ← whole, path_and_query]
  dsimp only
  rw [if_neg (fun both => both.2 first), if_pos rfl]
  simp only [List.append_assoc, List.append_nil]

private theorem url_form {scheme host rest : List Char} {port : Option Nat} (begins : Begins scheme host port)
    (valid : Host host) (line : '#' ∉ rest) : Url (origin scheme host port ++ '/' :: rest) :=
  ⟨scheme, host, port, rest, begins.known, valid.imp And.left id, begins.shown, line, rfl⟩

private theorem url_normal_iff (documented : Documented library) (normal : normalize_url library raw = some cs) :
    (normalize_url library cs = some cs ∧ Url cs) ↔ UrlClear library raw := by
  obtain ⟨parts, scheme, host, port, rest, split_text, begins, valid, path_inert, query_inert, whole, rfl⟩ :=
    normalize_url_some documented normal
  have line : '#' ∉ rest := by
    intro inside
    have member : '#' ∈ path_and_query parts.path parts.query := whole ▸ List.mem_cons_of_mem _ inside
    rw [path_and_query] at member
    rcases List.mem_append.mp member with member | member
    · split at member
      · exact absurd member (by decide)
      · exact path_inert.apart '#' member (by decide)
    · split at member
      · cases member
      · rcases List.mem_cons.mp member with same | member
        · cases same
        · exact query_inert.apart '#' member (by decide)
  rw [and_iff_left (url_form begins valid line), url_fixed_iff begins valid.plain.2 valid.normal path_inert query_inert whole,
    snug_iff begins whole]
  constructor
  · intro clear parts' split_text'
    rw [split_text] at split_text'
    cases split_text'
    exact clear
  · exact fun clear => clear parts split_text

/-- A normal value has its normal form and is its own normal form exactly when the text it was read off was clear. -/
theorem normal_iff (documented : Documented library) (normalizer : Normalizer)
    (normal : normalizer.normalize library raw = some cs) :
    (normalizer.normalize library cs = some cs ∧ normalizer.Form library cs) ↔ normalizer.Clear library raw := by
  cases normalizer <;> dsimp only [Normalizer.normalize, Normalizer.Form, Normalizer.Clear] at normal ⊢
  case domain => exact domain_normal_fixed_iff documented normal
  case url => exact url_normal_iff documented normal
  case email => exact email_normal_iff documented normal
  case ipv4 policy => exact iff_of_true (ipv4_normal normal) trivial
  case hash expected => exact iff_of_true (hash_normal normal) trivial
end

/-! ### Two spellings of a domain -/

private theorem lowered (cs : List Char) : (∀ c ∈ cs, c.toNat < 128) → cs.map Char.toLower = cs.map Char.toLower :=
  fun _ => rfl

/-- The library on ASCII text alone. -/
def ascii_library : Library := ⟨⟨fun cs => cs.map Char.toLower, fun _ => true, lowered⟩, fun _ => true, fun _ => none⟩

theorem ascii_documented : Documented ascii_library where
  idna_ascii host out none := by cases none
  lower_feed cs inside := by
    obtain ⟨c, member, feed⟩ := List.mem_map.mp inside
    rwa [(Text.toLower_eq_iff (by decide)).mp feed] at member

/-- A domain at the end of a sentence is read, and read again. -/
theorem sentence_end_domain :
    Normalizer.domain.normalize ascii_library "evil.example".toList = some "evil.example".toList ∧
      Normalizer.domain.Form ascii_library "evil.example".toList := by
  refine (@normal_iff _ "Evil[.]Example.".toList _ ascii_documented .domain (by decide +kernel)).mpr ?_
  rintro ⟨host, ascii, last⟩
  have read : as_ascii_domain ascii_library (rstrip_of (· = '.') (trimmed (String.ofList "Evil[.]Example.".toList))) =
    some "Evil.Example".toList := by decide +kernel
  rw [read] at ascii
  cases ascii
  exact absurd last (by decide)

/-- A line feed in front of the dot stays in the value, which then is another indicator when it is read again. -/
theorem line_feed_in_domain :
    ¬ ∀ (library : Library) (normalizer : Normalizer) (raw cs : List Char), Documented library →
      normalizer.normalize library raw = some cs →
      normalizer.normalize library cs = some cs ∧ normalizer.Form library cs := by
  intro all
  have value : Normalizer.domain.normalize ascii_library "evil.com\n.".toList = some "evil.com\n".toList := by decide +kernel
  have again : Normalizer.domain.normalize ascii_library "evil.com\n".toList = some "evil.com".toList := by decide +kernel
  have fixed := (all ascii_library .domain "evil.com\n.".toList "evil.com\n".toList ascii_documented value).1
  exact absurd (again.symm.trans fixed) (by decide)

example : normalize_url ascii_library "http://evil.com/a #x".toList = some "http://evil.com/a ".toList ∧
    normalize_email ascii_library "a\x7b[.]\x7db@evil.com".toList = some "a\x7b.\x7db@evil.com".toList := by decide +kernel

end SocTriage.UrlForms
