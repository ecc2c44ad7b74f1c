import SocTriage.Normalize

/-!
The domains that the pattern of the normalizers accepts: labels of lower-case letters, digits
and inner hyphens, then a name of letters. The end of the pattern also admits a line feed
behind the domain (`domain_of_match`).
-/
namespace SocTriage.DomainPattern
open Patterns Normalize

/-! ### Domains -/

/-- One to 63 letters, digits and hyphens, the hyphens inside. -/
structure Label (cs : List Char) : Prop where
  nonempty : cs ≠ []
  short : cs.length ≤ 63
  chars : ∀ c ∈ cs, lower_alnum c = true ∨ c = '-'
  first : ∀ c, cs.head? = some c → lower_alnum c = true
  last : ∀ c, cs.getLast? = some c → lower_alnum c = true

/-- Labels with a dot behind each, then a name of two to 63 letters, and 253 characters in all. -/
def Domain (cs : List Char) : Prop :=
  cs.length ≤ 253 ∧ ∃ (labels : List (List Char)) (tld : List Char), labels ≠ [] ∧ (∀ name ∈ labels, Label name) ∧
    2 ≤ tld.length ∧ tld.length ≤ 63 ∧ (∀ c ∈ tld, c.isLower = true) ∧ cs = (labels.map (· ++ ['.'])).flatten ++ tld

/-! ### The pattern -/

/-- What a label of the pattern passes. -/
private theorem label_word {c d : Cursor} (found : d ∈ (label lower_alnum).ends c) :
    ∃ word, Passes c word d ∧ Label word := by
  obtain ⟨e, one, rest⟩ := List.mem_flatMap.mp found
  obtain ⟨x, passes, first⟩ := mem_one.mp one
  rcases List.mem_append.mp rest with more | none
  · obtain ⟨f, middle, last⟩ := List.mem_flatMap.mp more
    obtain ⟨word, passes', -, short, inner⟩ := mem_run.mp middle
    obtain ⟨y, passes'', closing⟩ := mem_one.mp last
    have short := short 61 rfl
    refine ⟨[x] ++ word ++ [y], (passes.trans passes').trans passes'', ?_, ?_, ?_, ?_, ?_⟩
    · simp
    · simp only [List.length_append, List.length_cons, List.length_nil]
      omega
    · intro z inside
      simp only [List.mem_append, List.mem_singleton] at inside
      rcases inside with (rfl | inside) | rfl
      · exact .inl first
      · have either := inner z inside
        rw [Bool.or_eq_true, decide_eq_true_eq] at either
        exact either
      · exact .inl closing
    · intro z same
      cases same
      exact first
    · intro z same
      rw [List.getLast?_append_of_ne_nil _ (List.cons_ne_nil y [])] at same
      cases same
      exact closing
  · obtain ⟨word, passes', -, short, -⟩ := mem_run.mp none
    obtain rfl := List.length_eq_zero_iff.mp (Nat.le_zero.mp (short 0 rfl))
    have only : ∀ z, some x = some z → lower_alnum z = true := by
      intro z same
      cases same
      exact first
    refine ⟨[x], by simpa using passes.trans passes', List.cons_ne_nil x [], by simp, fun z inside => ?_, only, only⟩
    rw [List.mem_singleton.mp inside]
    exact .inl first

private theorem dotted_word {c d : Cursor} (found : d ∈ (Pattern.seq (label lower_alnum) (.one (· = '.'))).ends c) :
    ∃ word, Passes c word d ∧ ∃ name, Label name ∧ word = name ++ ['.'] := by
  obtain ⟨e, first, dot⟩ := List.mem_flatMap.mp found
  obtain ⟨name, passes, is_label⟩ := label_word first
  obtain ⟨x, passes', same⟩ := mem_one.mp dot
  rw [decide_eq_true_eq] at same
  exact ⟨name ++ [x], passes.trans passes', name, is_label, by rw [same]⟩

private theorem dotted_words {c d : Cursor}
    (found : d ∈ (Pattern.plus (.seq (label lower_alnum) (.one (· = '.')))).ends c) :
    ∃ labels : List (List Char), labels ≠ [] ∧ (∀ name ∈ labels, Label name) ∧
      Passes c (labels.map (· ++ ['.'])).flatten d := by
  obtain ⟨e, first, rest⟩ := List.mem_flatMap.mp found
  obtain ⟨word, passes, name, is_label, rfl⟩ := dotted_word first
  obtain ⟨words, passes', all⟩ := mem_iterate (fun c d inside => dotted_word inside) _ e d rest
  obtain ⟨names, named, rfl⟩ : ∃ names : List (List Char), (∀ name ∈ names, Label name) ∧ words = names.map (· ++ ['.']) := by
    clear passes' rest
    induction words with
    | nil => exact ⟨[], fun _ inside => absurd inside List.not_mem_nil, rfl⟩
    | cons word words ih =>
      rw [List.forall_mem_cons] at all
      obtain ⟨⟨name, is_label, rfl⟩, all⟩ := all
      obtain ⟨names, named, rfl⟩ := ih all
      exact ⟨name :: names, List.forall_mem_cons.mpr ⟨is_label, named⟩, rfl⟩
  exact ⟨name :: names, List.cons_ne_nil _ _, List.forall_mem_cons.mpr ⟨is_label, named⟩, passes.trans passes'⟩

/-- The lookahead passes nothing and bounds what is ahead. -/
private theorem lookahead {body : Pattern} {c d : Cursor} (found : d ∈ (Pattern.unfollowed (.unfollowed body)).ends c) :
    d = c ∧ ∃ e, e ∈ body.ends c := by
  unfold Pattern.ends at found
  split at found
  · rename_i refused
    refine ⟨List.mem_singleton.mp found, ?_⟩
    unfold Pattern.ends at refused
    split at refused
    · cases refused
    · rename_i some_end
      exact List.exists_mem_of_ne_nil _ (by simpa using some_end)
  · cases found

/-! ### Characters of a domain -/

/-- What a domain is spelled with. -/
def domain_char (c : Char) : Bool := lower_alnum c || c = '-' || c = '.'

theorem Domain.chars {cs : List Char} (domain : Domain cs) : ∀ c ∈ cs, domain_char c = true := by
  obtain ⟨-, labels, tld, -, named, -, -, letters, rfl⟩ := domain
  intro c inside
  simp only [domain_char, Bool.or_eq_true, decide_eq_true_eq]
  rcases List.mem_append.mp inside with dotted | top
  · obtain ⟨word, listed, inside⟩ := List.mem_flatten.mp dotted
    obtain ⟨name, member, rfl⟩ := List.mem_map.mp listed
    rcases List.mem_append.mp inside with own | dot
    · exact .inl ((named name member).chars c own)
    · exact .inr (List.mem_singleton.mp dot)
  · exact .inl (.inl (by rw [lower_alnum, letters c top, Bool.true_or]))

/-- A domain begins with a letter or digit. -/
theorem Domain.first {cs : List Char} (domain : Domain cs) : ∃ c rest, cs = c :: rest ∧ lower_alnum c = true := by
  obtain ⟨-, labels, tld, some_label, named, -, -, -, rfl⟩ := domain
  cases labels with
  | nil => exact absurd rfl some_label
  | cons name names =>
    have is_label := named name List.mem_cons_self
    cases name with
    | nil => exact absurd rfl is_label.nonempty
    | cons c rest =>
      refine ⟨c, _, rfl, is_label.first c rfl⟩

/-- A domain ends in a letter. -/
theorem Domain.last {cs : List Char} (domain : Domain cs) : ∃ c, cs.getLast? = some c ∧ c.isLower = true := by
  obtain ⟨-, labels, tld, -, -, long, -, letters, rfl⟩ := domain
  have nonempty : tld ≠ [] := by
    rintro rfl
    cases long
  rw [List.getLast?_append_of_ne_nil _ nonempty]
  exact ⟨tld.getLast nonempty, List.getLast?_eq_some_getLast nonempty, letters _ (List.getLast_mem nonempty)⟩

/-- A domain has a dot. -/
theorem Domain.dotted {cs : List Char} (domain : Domain cs) : '.' ∈ cs := by
  obtain ⟨-, labels, tld, some_label, -, -, -, -, rfl⟩ := domain
  cases labels with
  | nil => exact absurd rfl some_label
  | cons name names => simp

theorem Domain.no_feed {cs : List Char} (domain : Domain cs) : '\n' ∉ cs :=
  fun inside => absurd (domain.chars '\n' inside) (by decide)

/-- What the pattern matches is a domain, by itself or in front of a line feed. -/
theorem domain_of_match {text : List Char} (matched : is_match Normalize.DOMAIN_RE text = true) :
    ∃ domain, Domain domain ∧ (text = domain ∨ text = domain ++ ['\n']) := by
  rw [is_match] at matched
  obtain ⟨d, found⟩ : ∃ d, d ∈ Normalize.DOMAIN_RE.ends (.start text) :=
    List.exists_mem_of_ne_nil _ (by simpa using matched)
  obtain ⟨c, ahead, found⟩ := List.mem_flatMap.mp found
  obtain ⟨rfl, e, bounded⟩ := lookahead ahead
  obtain ⟨f, dotted, found⟩ := List.mem_flatMap.mp found
  obtain ⟨g, top, last⟩ := List.mem_flatMap.mp found
  obtain ⟨labels, some_label, named, passes⟩ := dotted_words dotted
  obtain ⟨tld, passes', long, short, letters⟩ := mem_run.mp top
  obtain ⟨rfl, rest⟩ := mem_finish.mp last
  obtain ⟨h, line, stop⟩ := List.mem_flatMap.mp bounded
  obtain ⟨word, passes'', -, fits, in_line⟩ := mem_run.mp line
  obtain ⟨rfl, after⟩ := mem_finish.mp stop
  have whole : text = (labels.map (· ++ ['.'])).flatten ++ tld ++ d.ahead := (passes.trans passes').1
  have whole' : text = word ++ e.ahead := passes''.1
  have fits := fits 253 rfl
  have lengths := congrArg List.length (whole.symm.trans whole')
  simp only [List.length_append] at lengths
  have size : ((labels.map (· ++ ['.'])).flatten ++ tld).length ≤ 253 := by
    rw [List.length_append]
    rcases rest with rest | rest <;> rcases after with after | after <;> rw [rest, after] at lengths
    · simp only [List.length_nil] at lengths
      omega
    · -- the text would end both in a letter of the top-level name and in a line feed
      have nonempty : tld ≠ [] := by
        rintro rfl
        cases long
      have closing := congrArg List.getLast? (whole.symm.trans whole')
      rw [rest, after, List.append_nil, List.getLast?_append_of_ne_nil _ nonempty, List.getLast?_append_of_ne_nil _ (by simp),
        List.getLast?_eq_some_getLast nonempty, List.getLast?_singleton] at closing
      have letter := letters _ (List.getLast_mem nonempty)
      rw [Option.some.inj closing] at letter
      exact absurd letter (by decide)
    · simp only [List.length_nil, List.length_singleton] at lengths
      omega
    · simp only [List.length_singleton] at lengths
      omega
  refine ⟨_, ⟨size, labels, tld, some_label, named, long, short 63 rfl, letters, rfl⟩, ?_⟩
  rcases rest with rest | rest
  · exact .inl (by rw [whole, rest, List.append_nil])
  · exact .inr (by rw [whole, rest])

end SocTriage.DomainPattern
