import SocTriage.UrlUserinfo

/-!
What trimming and defanging leave alone. A text is snug when it has no bracketed separator and
neither begins nor ends in white space or quotes; a snug text stays as it is, and every other
text gets shorter (`trimmed_eq_iff`, `trimmed_shorter`).
-/
namespace SocTriage.Trimming
open Patterns Normalize UrlUserinfo

/-! ### Snug texts -/

/-- An opening bracket, the separator and a closing bracket somewhere in the text. -/
def Bracketed (middle cs : List Char) : Prop :=
  ∃ before a b after, cs = before ++ a :: (middle ++ b :: after) ∧ opens a = true ∧ closes b = true

/-- What defanging rewrites between brackets. -/
def SEPARATORS : List (List Char) := [['.'], [':'], ['@'], ['/', '/']]

def Marked (cs : List Char) : Prop := ∃ middle ∈ SEPARATORS, Bracketed middle cs

/-- Neither white space nor a quote. -/
def Tight (c : Char) : Prop := Text.is_space c = false ∧ wraps c = false

structure Snug (cs : List Char) : Prop where
  plain : ¬ Marked cs
  first : ∀ c, cs.head? = some c → Tight c
  last : ∀ c, cs.getLast? = some c → Tight c

/-! ### Stripping -/

section
variable {accepts : Char → Bool} {cs : List Char}

theorem dropWhile_eq_iff : cs.dropWhile accepts = cs ↔ ∀ c, cs.head? = some c → accepts c = false := by
  cases cs with
  | nil => exact iff_of_true rfl (fun c none => by cases none)
  | cons first rest =>
    by_cases dropped : accepts first = true
    · rw [List.dropWhile_cons_of_pos dropped]
      refine iff_of_false (fun same => ?_) (fun kept => ?_)
      · have shorter := (List.dropWhile_sublist accepts (l := rest)).length_le
        rw [same, List.length_cons] at shorter
        omega
      · rw [kept first rfl] at dropped
        cases dropped
    · rw [List.dropWhile_cons_of_neg dropped]
      refine iff_of_true rfl (fun c same => ?_)
      cases same
      exact Bool.not_eq_true _ ▸ dropped

theorem rstrip_of_eq_iff : rstrip_of accepts cs = cs ↔ ∀ c, cs.getLast? = some c → accepts c = false := by
  rw [rstrip_of, List.reverse_eq_iff, dropWhile_eq_iff, List.head?_reverse]

theorem strip_of_sublist (accepts : Char → Bool) (cs : List Char) : (strip_of accepts cs).Sublist cs := by
  have inner := (List.dropWhile_sublist accepts (l := (cs.dropWhile accepts).reverse)).reverse
  rw [List.reverse_reverse] at inner
  exact inner.trans (List.dropWhile_sublist accepts)

/-- A text that is stripped of nothing begins and ends in what is kept. -/
theorem strip_of_eq_iff : strip_of accepts cs = cs ↔
    (∀ c, cs.head? = some c → accepts c = false) ∧ ∀ c, cs.getLast? = some c → accepts c = false := by
  constructor
  · intro same
    have inner := (List.dropWhile_sublist accepts (l := (cs.dropWhile accepts).reverse)).length_le
    have outer := List.dropWhile_sublist accepts (l := cs)
    have lengths := congrArg List.length same
    rw [strip_of, List.length_reverse] at lengths
    rw [List.length_reverse] at inner
    have kept : cs.dropWhile accepts = cs := outer.eq_of_length (Nat.le_antisymm outer.length_le (by omega))
    rw [strip_of, kept] at same
    exact ⟨dropWhile_eq_iff.mp kept, rstrip_of_eq_iff.mp same⟩
  · rintro ⟨first, last⟩
    rw [strip_of, dropWhile_eq_iff.mpr first]
    exact rstrip_of_eq_iff.mpr last

/-- A second time nothing is stripped. -/
theorem strip_of_idem (accepts : Char → Bool) (cs : List Char) :
    strip_of accepts (strip_of accepts cs) = strip_of accepts cs := by
  refine strip_of_eq_iff.mpr ⟨fun c head => ?_, fun c last => ?_⟩
  · obtain ⟨rest, whole⟩ := List.reverse_prefix.mpr (List.dropWhile_suffix accepts (l := (cs.dropWhile accepts).reverse))
    rw [List.reverse_reverse, ← strip_of] at whole
    have kept := List.head?_dropWhile_not accepts cs
    rw [← whole, List.head?_append, head] at kept
    exact kept
  · cases dropped : accepts c with
    | false => rfl
    | true => exact absurd last (strip_of_last dropped cs)
end

/-! ### Hexadecimal words -/

private theorem hex_not_space {c : Char} (hex : is_hex c = true) : Text.is_space c = false := by
  have range : 48 ≤ c.toNat ∧ c.toNat ≤ 102 := by
    unfold is_hex Char.isDigit at hex
    simp only [Bool.or_eq_true, Bool.and_eq_true, decide_eq_true_eq, Char.le_def, UInt32.le_iff_toNat_le] at hex
    have low : '0'.val.toNat = 48 ∧ 'a'.val.toNat = 97 ∧ 'A'.val.toNat = 65 := by decide
    have high : '9'.val.toNat = 57 ∧ 'f'.val.toNat = 102 ∧ 'F'.val.toNat = 70 := by decide
    show 48 ≤ c.val.toNat ∧ c.val.toNat ≤ 102
    omega
  unfold Text.is_space
  simp only [Bool.or_eq_false_iff, Bool.and_eq_false_iff, decide_eq_false_iff_not, beq_eq_false_iff_ne]
  omega

/-- A word of hexadecimal digits stays as it is, and its length says what it is a hash of. -/
theorem hex_word {word : List Char} (hex : ∀ c ∈ word, is_hex c = true) (some_digit : 1 ≤ word.length) :
    strip_of Text.is_space word = word ∧ hash_type_for word = HASH_BY_LENGTH word.length := by
  have stripped : strip_of Text.is_space word = word :=
    strip_of_eq_iff.mpr ⟨fun c head => hex_not_space (hex c (List.mem_of_head? head)),
      fun c last => hex_not_space (hex c (List.mem_of_getLast? last))⟩
  have matched : is_match HEX_RE word = true := by
    have found : (⟨word.reverse, []⟩ : Cursor) ∈ HEX_RE.ends (.start word) := by
      refine List.mem_flatMap.mpr ⟨⟨word.reverse, []⟩, mem_run.mpr ⟨word, ⟨?_, ?_⟩, some_digit, ?_, hex⟩, ?_⟩
      · exact (List.append_nil word).symm
      · exact (List.append_nil word.reverse).symm
      · intro bound none
        cases none
      · exact List.mem_cons_self
    unfold is_match
    cases choices : HEX_RE.ends (.start word) with
    | nil =>
      rw [choices] at found
      cases found
    | cons => rfl
  refine ⟨stripped, ?_⟩
  unfold hash_type_for
  dsimp only
  rw [stripped, if_pos matched]

/-- What the pattern for hashes matches is a word of hexadecimal digits, short of a line feed at its end. -/
theorem hex_of_match {word : List Char} (matched : is_match HEX_RE word = true) (no_feed : word.getLast? ≠ some '\n') :
    (∀ c ∈ word, is_hex c = true) ∧ 1 ≤ word.length := by
  rw [is_match] at matched
  obtain ⟨d, found⟩ : ∃ d, d ∈ HEX_RE.ends (.start word) := List.exists_mem_of_ne_nil _ (by simpa using matched)
  obtain ⟨c, digits, last⟩ := List.mem_flatMap.mp found
  obtain ⟨passed, passes, some_digit, -, hex⟩ := mem_run.mp digits
  obtain ⟨-, rest⟩ := mem_finish.mp last
  have whole : word = passed ++ c.ahead := passes.1
  rcases rest with rest | rest
  · rw [rest, List.append_nil] at whole
    rw [whole]
    exact ⟨hex, some_digit⟩
  · refine absurd ?_ no_feed
    rw [whole, rest, List.getLast?_append_of_ne_nil _ (List.cons_ne_nil _ _)]
    rfl

/-! ### Defanging -/

private theorem bracketed_cons {middle : List Char} {a : Char} {cs : List Char} :
    Bracketed middle (a :: cs) ↔
      (opens a = true ∧ ∃ b after, cs = middle ++ b :: after ∧ closes b = true) ∨ Bracketed middle cs := by
  constructor
  · rintro ⟨before, a', b, after, whole, opening, closing⟩
    cases before with
    | nil => cases whole; exact .inl ⟨opening, b, after, rfl, closing⟩
    | cons first before =>
      rw [List.cons_append, List.cons.injEq] at whole
      exact .inr ⟨before, a', b, after, whole.2, opening, closing⟩
  · rintro (⟨opening, b, after, rfl, closing⟩ | ⟨before, a', b, after, rfl, opening, closing⟩)
    · exact ⟨[], a, b, after, rfl, opening, closing⟩
    · exact ⟨a :: before, a', b, after, rfl, opening, closing⟩

/-- A character at which no bracketed separator starts is passed over. -/
private theorem spec_after {middle : List Char} {a : Char} {rest written : List Char}
    (here : ¬ (opens a = true ∧ ∃ b after, rest = middle ++ b :: after ∧ closes b = true))
    (spec : (¬ Bracketed middle rest → written = rest) ∧ (Bracketed middle rest → written.length < rest.length)) :
    (¬ Bracketed middle (a :: rest) → a :: written = a :: rest) ∧
      (Bracketed middle (a :: rest) → (a :: written).length < (a :: rest).length) := by
  rw [bracketed_cons, or_iff_right here]
  refine ⟨fun none => congrArg (a :: ·) (spec.1 none), fun some => ?_⟩
  have shorter := spec.2 some
  simp only [List.length_cons]
  omega

/-- A text without the separator in brackets is not rewritten, and another gets shorter. -/
private theorem rewrite_marker_spec (middle : Char) (cs : List Char) :
    (¬ Bracketed [middle] cs → rewrite_marker middle cs = cs) ∧
      (Bracketed [middle] cs → (rewrite_marker middle cs).length < cs.length) := by
  fun_induction rewrite_marker middle cs with
  | case1 a b c rest marker ih =>
    rw [Bool.and_eq_true, Bool.and_eq_true, decide_eq_true_eq] at marker
    obtain ⟨⟨opening, rfl⟩, closing⟩ := marker
    have shorter := length_rewrite_marker b rest
    refine ⟨fun plain => absurd (bracketed_cons.mpr (.inl ⟨opening, c, rest, rfl, closing⟩)) plain, fun _ => ?_⟩
    simp only [List.length_cons]
    omega
  | case2 a b c rest plain ih =>
    have here : ¬ (opens a = true ∧ ∃ d after, b :: c :: rest = [middle] ++ d :: after ∧ closes d = true) := by
      rintro ⟨opening, d, after, same, closing⟩
      rw [List.singleton_append, List.cons.injEq, List.cons.injEq] at same
      obtain ⟨rfl, rfl, -⟩ := same
      rw [opening, closing, decide_eq_true rfl] at plain
      exact plain rfl
    exact spec_after here ih
  | case3 few short =>
    refine ⟨fun _ => rfl, fun found => ?_⟩
    obtain ⟨before, a, b, after, rfl, -, -⟩ := found
    cases before with
    | nil => exact absurd rfl (short a middle b after)
    | cons first before =>
      cases before with
      | nil => exact absurd rfl (short first a middle (b :: after))
      | cons second before =>
        cases before with
        | nil => exact absurd rfl (short first second a (middle :: b :: after))
        | cons third before => exact absurd rfl (short first second third (before ++ a :: ([middle] ++ b :: after)))

private theorem rewrite_slashes_spec (cs : List Char) :
    (¬ Bracketed ['/', '/'] cs → rewrite_slashes cs = cs) ∧
      (Bracketed ['/', '/'] cs → (rewrite_slashes cs).length < cs.length) := by
  fun_induction rewrite_slashes cs with
  | case1 a b c d rest marker ih =>
    rw [Bool.and_eq_true, Bool.and_eq_true, Bool.and_eq_true, decide_eq_true_eq, decide_eq_true_eq] at marker
    obtain ⟨⟨⟨opening, rfl⟩, rfl⟩, closing⟩ := marker
    have shorter := length_rewrite_slashes rest
    refine ⟨fun plain => absurd (bracketed_cons.mpr (.inl ⟨opening, d, rest, rfl, closing⟩)) plain, fun _ => ?_⟩
    simp only [List.length_cons]
    omega
  | case2 a b c d rest plain ih =>
    have here : ¬ (opens a = true ∧ ∃ e after, b :: c :: d :: rest = ['/', '/'] ++ e :: after ∧ closes e = true) := by
      rintro ⟨opening, e, after, same, closing⟩
      cases same
      rw [opening, closing] at plain
      exact plain rfl
    exact spec_after here ih
  | case3 few short =>
    refine ⟨fun _ => rfl, fun found => ?_⟩
    obtain ⟨before, a, b, after, rfl, -, -⟩ := found
    rcases before with _ | ⟨first, _ | ⟨second, _ | ⟨third, _ | ⟨fourth, before⟩⟩⟩⟩
    · exact absurd rfl (short a '/' '/' b after)
    · exact absurd rfl (short first a '/' '/' (b :: after))
    · exact absurd rfl (short first second a '/' ('/' :: b :: after))
    · exact absurd rfl (short first second third a ('/' :: '/' :: b :: after))
    · exact absurd rfl (short first second third fourth (before ++ a :: (['/', '/'] ++ b :: after)))

/-- A text without bracketed separators has at most its scheme rewritten. -/
theorem defang_plain {cs : List Char} (plain : ¬ Marked cs) : defang_to_plain cs = rewrite_scheme cs := by
  have none : ∀ middle ∈ SEPARATORS, ¬ Bracketed middle cs := fun middle listed found => plain ⟨middle, listed, found⟩
  rw [defang_to_plain, (rewrite_marker_spec '.' cs).1 (none _ (by decide)),
    (rewrite_marker_spec ':' cs).1 (none _ (by decide)), (rewrite_marker_spec '@' cs).1 (none _ (by decide)),
    (rewrite_slashes_spec cs).1 (none _ (by decide))]

/-- Each bracketed separator costs a text its brackets. -/
theorem defang_shorter {cs : List Char} (marked : Marked cs) : (defang_to_plain cs).length < cs.length := by
  rw [defang_to_plain, length_rewrite_scheme]
  have dots := length_rewrite_marker '.' cs
  have colons := length_rewrite_marker ':' (rewrite_marker '.' cs)
  have ats := length_rewrite_marker '@' (rewrite_marker ':' (rewrite_marker '.' cs))
  have slashes := length_rewrite_slashes (rewrite_marker '@' (rewrite_marker ':' (rewrite_marker '.' cs)))
  by_cases dot : Bracketed ['.'] cs
  · have fewer := (rewrite_marker_spec '.' cs).2 dot
    omega
  rw [(rewrite_marker_spec '.' cs).1 dot] at *
  by_cases colon : Bracketed [':'] cs
  · have fewer := (rewrite_marker_spec ':' cs).2 colon
    omega
  rw [(rewrite_marker_spec ':' cs).1 colon] at *
  by_cases at_sign : Bracketed ['@'] cs
  · have fewer := (rewrite_marker_spec '@' cs).2 at_sign
    omega
  rw [(rewrite_marker_spec '@' cs).1 at_sign] at *
  obtain ⟨middle, listed, found⟩ := marked
  have slash : middle = ['/', '/'] := by
    simp only [SEPARATORS, List.mem_cons, List.not_mem_nil, or_false] at listed
    rcases listed with rfl | rfl | rfl | rfl
    · exact absurd found dot
    · exact absurd found colon
    · exact absurd found at_sign
    · rfl
  rw [slash] at found
  exact (rewrite_slashes_spec cs).2 found

/-! ### Markers in a part of a text -/

private theorem not_separates {c : Char} (apart : opens c = false ∧ closes c = false ∧ ∀ middle ∈ SEPARATORS, c ∉ middle)
    {a b : Char} {middle : List Char} (listed : middle ∈ SEPARATORS) (opening : opens a = true) (closing : closes b = true) :
    c ∉ a :: (middle ++ [b]) := by
  intro inside
  simp only [List.mem_cons, List.mem_append, List.not_mem_nil, or_false] at inside
  rcases inside with rfl | inside | rfl
  · rw [apart.1] at opening
    cases opening
  · exact apart.2.2 middle listed inside
  · rw [apart.2.1] at closing
    cases closing

theorem marked_iff {cs : List Char} : Marked cs ↔ ∃ middle ∈ SEPARATORS, ∃ a b before after,
    opens a = true ∧ closes b = true ∧ cs = before ++ (a :: (middle ++ [b])) ++ after := by
  constructor
  · rintro ⟨middle, listed, before, a, b, after, rfl, opening, closing⟩
    exact ⟨middle, listed, a, b, before, after, opening, closing, by simp⟩
  · rintro ⟨middle, listed, a, b, before, after, opening, closing, rfl⟩
    exact ⟨middle, listed, before, a, b, after, by simp, opening, closing⟩

/-- No marker reaches over a character that stands in none. -/
theorem marked_apart {c : Char} {left right : List Char}
    (apart : opens c = false ∧ closes c = false ∧ ∀ middle ∈ SEPARATORS, c ∉ middle) :
    Marked (left ++ c :: right) ↔ Marked left ∨ Marked right := by
  constructor
  · intro marked
    obtain ⟨middle, listed, a, b, before, after, opening, closing, same⟩ := marked_iff.mp marked
    rcases (Text.infix_apart (not_separates apart listed opening closing)).mp ⟨before, after, same.symm⟩ with
      ⟨before, after, whole⟩ | ⟨before, after, whole⟩
    · exact .inl (marked_iff.mpr ⟨middle, listed, a, b, before, after, opening, closing, whole.symm⟩)
    · exact .inr (marked_iff.mpr ⟨middle, listed, a, b, before, after, opening, closing, whole.symm⟩)
  · rintro (marked | marked)
    · obtain ⟨middle, listed, a, b, before, after, opening, closing, rfl⟩ := marked_iff.mp marked
      exact marked_iff.mpr ⟨middle, listed, a, b, before, after ++ c :: right, opening, closing, by simp⟩
    · obtain ⟨middle, listed, a, b, before, after, opening, closing, rfl⟩ := marked_iff.mp marked
      exact marked_iff.mpr ⟨middle, listed, a, b, left ++ c :: before, after, opening, closing, by simp⟩

/-- What opens no bracket begins no marker. -/
theorem marked_append_right {left right : List Char} (unopened : ∀ c ∈ left, opens c = false) :
    Marked (left ++ right) ↔ Marked right := by
  induction left with
  | nil => exact Iff.rfl
  | cons c left ih =>
    rw [List.forall_mem_cons] at unopened
    rw [List.cons_append, ← ih unopened.2]
    constructor
    · rintro ⟨middle, listed, found⟩
      rcases bracketed_cons.mp found with ⟨opening, -⟩ | found
      · rw [unopened.1] at opening
        cases opening
      · exact ⟨middle, listed, found⟩
    · rintro ⟨middle, listed, found⟩
      exact ⟨middle, listed, bracketed_cons.mpr (.inr found)⟩

/-- What closes no bracket ends no marker. -/
theorem marked_append_left {left right : List Char} (unclosed : ∀ c ∈ right, closes c = false) :
    Marked (left ++ right) ↔ Marked left := by
  constructor
  · intro marked
    obtain ⟨middle, listed, a, b, before, after, opening, closing, same⟩ := marked_iff.mp marked
    rcases List.append_eq_append_iff.mp same with ⟨rest', whole, tail⟩ | ⟨rest, whole, -⟩
    · rcases List.eq_nil_or_concat rest' with rfl | ⟨rest', last, rfl⟩
      · exact marked_iff.mpr ⟨middle, listed, a, b, before, [], opening, closing, by simpa using whole.symm⟩
      · have ending : (before ++ a :: middle) ++ [b] = (left ++ rest') ++ [last] := by simpa using whole
        cases (List.append_inj' ending rfl).2
        rw [unclosed b (by simp [tail])] at closing
        cases closing
    · exact marked_iff.mpr ⟨middle, listed, a, b, before, rest, opening, closing, whole⟩
  · intro marked
    obtain ⟨middle, listed, a, b, before, after, opening, closing, rfl⟩ := marked_iff.mp marked
    exact marked_iff.mpr ⟨middle, listed, a, b, before, after ++ right, opening, closing, by simp⟩

/-! ### Trimming -/

section
variable {cs : List Char}

/-- A snug text whose scheme is not rewritten stays as it is. -/
theorem trimmed_snug (scheme : rewrite_scheme cs = cs) (snug : Snug cs) : trimmed (String.ofList cs) = cs := by
  have spaces : strip_of Text.is_space cs = cs :=
    strip_of_eq_iff.mpr ⟨fun c head => (snug.first c head).1, fun c found => (snug.last c found).1⟩
  have quotes : strip_of wraps cs = cs :=
    strip_of_eq_iff.mpr ⟨fun c head => (snug.first c head).2, fun c found => (snug.last c found).2⟩
  rw [trimmed, String.toList_ofList, spaces, defang_plain snug.plain, scheme, quotes, spaces]

/-- Any other gets shorter. -/
theorem trimmed_shorter (scheme : rewrite_scheme cs = cs) (loose : ¬ Snug cs) :
    (trimmed (String.ofList cs)).length < cs.length := by
  by_contra kept
  rw [trimmed, String.toList_ofList] at kept
  have spaces := length_strip_of Text.is_space cs
  have defanged : (defang_to_plain (strip_of Text.is_space cs)).length ≤ (strip_of Text.is_space cs).length := by
    by_cases marked : Marked (strip_of Text.is_space cs)
    · exact (defang_shorter marked).le
    · rw [defang_plain marked, length_rewrite_scheme]
  have quotes := length_strip_of wraps (defang_to_plain (strip_of Text.is_space cs))
  have outer := length_strip_of Text.is_space (strip_of wraps (defang_to_plain (strip_of Text.is_space cs)))
  -- every step keeps the length, so every step keeps the text
  have first : strip_of Text.is_space cs = cs := (strip_of_sublist Text.is_space cs).eq_of_length (by omega)
  rw [first] at defanged quotes outer kept
  have plain : ¬ Marked cs := by
    intro marked
    have shorter := defang_shorter marked
    omega
  rw [defang_plain plain, scheme] at quotes outer kept
  have second : strip_of wraps cs = cs := (strip_of_sublist wraps cs).eq_of_length (by omega)
  have spaceless := strip_of_eq_iff.mp first
  have quoteless := strip_of_eq_iff.mp second
  exact loose ⟨plain, fun c head => ⟨spaceless.1 c head, quoteless.1 c head⟩,
    fun c last => ⟨spaceless.2 c last, quoteless.2 c last⟩⟩

/-! ### What trimming keeps of a text -/

private theorem rewrite_marker_all {ok : Char → Prop} {middle : Char} (all : ∀ c ∈ cs, ok c) :
    ∀ c ∈ rewrite_marker middle cs, ok c := by
  fun_induction rewrite_marker middle cs with
  | case1 a b c rest marker ih =>
    rw [Bool.and_eq_true, Bool.and_eq_true, decide_eq_true_eq] at marker
    rw [List.forall_mem_cons, List.forall_mem_cons, List.forall_mem_cons] at all
    rw [List.forall_mem_cons]
    exact ⟨marker.1.2 ▸ all.2.1, ih all.2.2.2⟩
  | case2 a b c rest plain ih =>
    rw [List.forall_mem_cons] at all ⊢
    exact ⟨all.1, ih all.2⟩
  | case3 few => exact all

private theorem rewrite_slashes_all {ok : Char → Prop} (all : ∀ c ∈ cs, ok c) : ∀ c ∈ rewrite_slashes cs, ok c := by
  fun_induction rewrite_slashes cs with
  | case1 a b c d rest marker ih =>
    rw [Bool.and_eq_true, Bool.and_eq_true, Bool.and_eq_true, decide_eq_true_eq, decide_eq_true_eq] at marker
    rw [List.forall_mem_cons, List.forall_mem_cons, List.forall_mem_cons, List.forall_mem_cons] at all
    rw [List.forall_mem_cons, List.forall_mem_cons]
    exact ⟨marker.1.1.2 ▸ all.2.1, marker.1.1.2 ▸ all.2.1, ih all.2.2.2.2⟩
  | case2 a b c d rest plain ih =>
    rw [List.forall_mem_cons] at all ⊢
    exact ⟨all.1, ih all.2⟩
  | case3 few => exact all

/-- Without a colon no scheme is rewritten. -/
theorem rewrite_scheme_no_colon (no_colon : ':' ∉ cs) : rewrite_scheme cs = cs := by
  have separator : ∀ later : List Char, "://".toList.isPrefixOf later = true → ':' ∈ later := by
    intro later found
    obtain ⟨rest, rfl⟩ := List.isPrefixOf_iff_prefix.mp found
    exact List.mem_append_left rest (by decide)
  unfold rewrite_scheme
  split
  · rename_i h x x' p rest
    split
    · split
      · rename_i s later
        split
        · rename_i found
          rw [Bool.and_eq_true] at found
          exact absurd (List.mem_append_right [h, x, x', p, s] (separator later found.2)) no_colon
        · split
          · rename_i found
            exact absurd (List.mem_append_right [h, x, x', p] (separator _ found)) no_colon
          · rfl
      · rfl
    · rfl
  · rfl

/-- A text without a colon keeps its characters. -/
theorem trimmed_all {ok : Char → Prop} (no_colon : ':' ∉ cs) (all : ∀ c ∈ cs, ok c) :
    ∀ c ∈ trimmed (String.ofList cs), ok c := by
  have rewritten : ∀ c ∈ rewrite_slashes (rewrite_marker '@' (rewrite_marker ':' (rewrite_marker '.'
      (strip_of Text.is_space cs)))), ok c ∧ c ≠ ':' := by
    refine rewrite_slashes_all (rewrite_marker_all (rewrite_marker_all (rewrite_marker_all (fun c inside => ?_))))
    have member := (strip_of_sublist Text.is_space cs).subset inside
    exact ⟨all c member, fun colon => no_colon (colon ▸ member)⟩
  rw [trimmed, String.toList_ofList, defang_to_plain,
    rewrite_scheme_no_colon (fun inside => (rewritten ':' inside).2 rfl)]
  intro c inside
  exact (rewritten c ((strip_of_sublist _ _).subset ((strip_of_sublist _ _).subset inside))).1

/-- What a text begins with stays where it opens no bracket and neither begins nor ends in what is trimmed. -/
theorem trimmed_append {first last : Char} {word : List Char} (unopened : ∀ c ∈ first :: word ++ [last], opens c = false)
    (head : Tight first) (end_kept : Tight last)
    (scheme : ∀ after, rewrite_scheme (first :: word ++ last :: after) = first :: word ++ last :: after) (after : List Char) :
    ∃ left, trimmed (String.ofList (first :: word ++ last :: after)) = first :: word ++ last :: left := by
  have joined : ∀ tail : List Char, first :: word ++ last :: tail = (first :: word ++ [last]) ++ tail := by simp
  obtain ⟨one, -, spaces⟩ := @strip_of_append Text.is_space first last word head.1 end_kept.1 after
  obtain ⟨two, -, quotes⟩ := @strip_of_append wraps first last word head.2 end_kept.2
    (rewrite_slashes (rewrite_marker '@' (rewrite_marker ':' (rewrite_marker '.' one))))
  obtain ⟨three, -, outer⟩ := @strip_of_append Text.is_space first last word head.1 end_kept.1 two
  refine ⟨three, ?_⟩
  rw [trimmed, String.toList_ofList, spaces, defang_to_plain, joined, rewrite_marker_append '.' unopened,
    rewrite_marker_append ':' unopened, rewrite_marker_append '@' unopened, rewrite_slashes_append unopened, ← joined, scheme,
    quotes, outer]
end

end SocTriage.Trimming
