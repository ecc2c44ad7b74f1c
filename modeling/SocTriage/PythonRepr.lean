import SocTriage.Json
import SocTriage.Text

/-!
`str` of nested dictionaries: `repr` of each text, number and constant, with brackets, commas
and colons between. A word that has none of these is found in the whole exactly when it is
found in `repr` of one of its texts (`mentions_repr`), which need not be in the text itself,
since an escape ends in hexadecimal digits.
-/
namespace SocTriage.PythonRepr

/-! ### The text of a value -/

/-- The last hexadecimal digits of a number, in lower case. -/
def hex_digits : Nat → Nat → List Char
  | 0, _ => []
  | width + 1, n => hex_digits width (n / 16) ++ ["0123456789abcdef".toList.getD (n % 16) '0']

section
variable (printable : Char → Bool)

/-- A character within quotes; what is beyond ASCII stays if it is printable. -/
def escape_char (quote c : Char) : List Char :=
  if c = quote ∨ c = '\\' then ['\\', c]
  else if c = '\t' then ['\\', 't']
  else if c = '\n' then ['\\', 'n']
  else if c = '\r' then ['\\', 'r']
  else if 32 ≤ c.toNat ∧ c.toNat ≤ 126 then [c]
  else if 128 ≤ c.toNat ∧ printable c = true then [c]
  else if c.toNat ≤ 0xff then '\\' :: 'x' :: hex_digits 2 c.toNat
  else if c.toNat ≤ 0xffff then '\\' :: 'u' :: hex_digits 4 c.toNat
  else '\\' :: 'U' :: hex_digits 8 c.toNat

/-- Double quotes are taken for a text with single quotes and no double ones. -/
def quote_of (text : List Char) : Char := if '\'' ∈ text ∧ '"' ∉ text then '"' else '\''

def repr_str (text : String) : List Char :=
  quote_of text.toList :: (text.toList.flatMap (escape_char printable (quote_of text.toList)) ++ [quote_of text.toList])

mutual
def repr : Json → List Char
  | .null => "None".toList
  | .bool b => if b then "True".toList else "False".toList
  | .int n => (toString n).toList
  | .float text => text.toList
  | .str text => repr_str printable text
  | .arr items => '[' :: (repr_items items ++ [']'])
  | .obj fields => '\x7b' :: (repr_fields fields ++ ['\x7d'])
def repr_items : List Json → List Char
  | [] => []
  | item :: rest => repr item ++ (if rest.isEmpty then [] else [',', ' ']) ++ repr_items rest
def repr_fields : JsonObject → List Char
  | [] => []
  | (key, value) :: rest =>
    repr_str printable key ++ ':' :: ' ' :: (repr value ++ (if rest.isEmpty then [] else [',', ' ']) ++ repr_fields rest)
end

/-! ### A word in a text -/

/-- `word in text.lower()`, for a word of lower-case letters that no character beyond ASCII has for its lower case. -/
def Mentions (word text : List Char) : Prop := word <:+: text.map Char.toLower

instance (word text : List Char) : Decidable (Mentions word text) := inferInstanceAs (Decidable (_ <:+: _))

/-- What stands between the texts of a value, within quotes and in escapes. -/
def DELIMITERS : List Char := ['\'', '"', '\\', '[', ']', '\x7b', '\x7d', ',', ':', ' ', '/']

/-- A word of several names: an underscore stands in it, and no delimiter. -/
structure Compound (word : List Char) : Prop where
  underscore : '_' ∈ word
  whole : ∀ c ∈ DELIMITERS, c ∉ word

def FULL_LOG : List Char := "full_log".toList

theorem full_log_compound : Compound FULL_LOG := ⟨by decide, by decide⟩

variable (word : List Char)

/-- `repr` of the text has the word in it. -/
def TextMentions (text : String) : Prop := Mentions word (repr_str printable text)

instance (text : String) : Decidable (TextMentions printable word text) := inferInstanceAs (Decidable (Mentions _ _))

mutual
/-- `repr` of some text in the value, or the spelling of a float, has the word in it. -/
def ValueMentions : Json → Prop
  | .null | .bool _ | .int _ => False
  | .float text => Mentions word text.toList
  | .str text => TextMentions printable word text
  | .arr items => ItemsMention items
  | .obj fields => FieldsMention fields
def ItemsMention : List Json → Prop
  | [] => False
  | item :: rest => ValueMentions item ∨ ItemsMention rest
def FieldsMention : JsonObject → Prop
  | [] => False
  | (key, value) :: rest => TextMentions printable word key ∨ ValueMentions value ∨ FieldsMention rest
end
end

/-! ### Delimiters -/

section
variable {word : List Char}

private theorem not_mentioned_nil (compound : Compound word) : ¬ Mentions word [] := by
  intro mentioned
  rw [Mentions, List.map_nil, List.infix_nil] at mentioned
  have inside := compound.underscore
  rw [mentioned] at inside
  cases inside

/-- A word is not found across a delimiter. -/
theorem mentions_apart (compound : Compound word) {c : Char} (delimiter : c ∈ DELIMITERS) (left right : List Char) :
    Mentions word (left ++ c :: right) ↔ Mentions word left ∨ Mentions word right := by
  have same : ∀ d ∈ DELIMITERS, d.toLower = d := by decide
  rw [Mentions, List.map_append, List.map_cons, same c delimiter, Text.infix_apart (compound.whole c delimiter)]
  exact Iff.rfl

theorem mentions_cons (compound : Compound word) {c : Char} (delimiter : c ∈ DELIMITERS) (right : List Char) :
    Mentions word (c :: right) ↔ Mentions word right := by
  have split := mentions_apart compound delimiter [] right
  rw [List.nil_append, or_iff_right (not_mentioned_nil compound)] at split
  exact split

theorem mentions_concat (compound : Compound word) {c : Char} (delimiter : c ∈ DELIMITERS) (left : List Char) :
    Mentions word (left ++ [c]) ↔ Mentions word left := by
  rw [mentions_apart compound delimiter, or_iff_left (not_mentioned_nil compound)]

/-- A text without underscores does not have the word. -/
theorem not_mentioned (compound : Compound word) {text : List Char} (plain : '_' ∉ text) : ¬ Mentions word text := by
  rintro ⟨before, after, same⟩
  have inside : '_' ∈ text.map Char.toLower := by
    rw [← same]
    exact List.mem_append_left _ (List.mem_append_right _ compound.underscore)
  obtain ⟨c, member, lower⟩ := List.mem_map.mp inside
  rw [(Text.toLower_eq_iff (by decide)).mp lower] at member
  exact plain member

private theorem mentions_over (compound : Compound word) {between : List Char} (nonempty : between ≠ [])
    (delimiters : ∀ c ∈ between, c ∈ DELIMITERS) (left right : List Char) :
    Mentions word (left ++ between ++ right) ↔ Mentions word left ∨ Mentions word right := by
  obtain ⟨first, rest, rfl⟩ := List.exists_cons_of_ne_nil nonempty
  rw [List.forall_mem_cons] at delimiters
  rw [List.append_assoc, List.cons_append, mentions_apart compound delimiters.1]
  refine or_congr_right ?_
  obtain ⟨-, delimiters⟩ := delimiters
  clear nonempty
  induction rest with
  | nil => exact Iff.rfl
  | cons c rest ih =>
    rw [List.forall_mem_cons] at delimiters
    rw [List.cons_append, mentions_cons compound delimiters.1, ih delimiters.2]
end

/-! ### Texts -/

section
variable {printable : Char → Bool} {word : List Char}

/-- Which quotes a text is put in makes no difference to what it mentions. -/
private theorem escape_quotes (c : Char) : escape_char printable '"' c = escape_char printable '\'' c ∨
    (∀ quote ∈ ['"', '\''], escape_char printable quote c ≠ [] ∧ ∀ d ∈ escape_char printable quote c, d ∈ DELIMITERS) := by
  by_cases double : c = '"'
  · subst double
    exact .inr (by simp [escape_char, DELIMITERS])
  by_cases single : c = '\''
  · subst single
    exact .inr (by simp [escape_char, DELIMITERS])
  refine .inl ?_
  rw [escape_char, escape_char]
  simp only [double, single, false_or]

private theorem mentions_escaped (compound : Compound word) {quote : Char} (listed : quote ∈ ['"', '\''])
    (start text : List Char) :
    Mentions word (start ++ text.flatMap (escape_char printable quote)) ↔
      Mentions word (start ++ text.flatMap (escape_char printable '\'')) := by
  induction text generalizing start with
  | nil => exact Iff.rfl
  | cons c rest ih =>
    have same_or : escape_char printable quote c = escape_char printable '\'' c ∨
        (∀ quote ∈ ['"', '\''], escape_char printable quote c ≠ [] ∧
          ∀ d ∈ escape_char printable quote c, d ∈ DELIMITERS) := by
      rcases List.mem_pair.mp listed with rfl | rfl
      · exact escape_quotes c
      · exact .inl rfl
    rw [List.flatMap_cons, List.flatMap_cons, ← List.append_assoc, ← List.append_assoc]
    rcases same_or with same | delimiters
    · rw [same]
      exact ih _
    · have single := delimiters '\'' (by decide)
      have own := delimiters quote listed
      have rest_same := ih []
      rw [List.nil_append, List.nil_append] at rest_same
      rw [mentions_over compound own.1 own.2, mentions_over compound single.1 single.2, rest_same]

/-- A text mentions what its characters do, escaped one by one. -/
theorem text_mentions_iff (compound : Compound word) (text : String) :
    TextMentions printable word text ↔ Mentions word (text.toList.flatMap (escape_char printable '\'')) := by
  have quotes : quote_of text.toList ∈ ['"', '\''] := by
    rw [quote_of]
    split <;> decide
  have delimiter : quote_of text.toList ∈ DELIMITERS := by
    rw [quote_of]
    split <;> decide
  have same := @mentions_escaped printable word compound _ quotes [] text.toList
  rw [List.nil_append, List.nil_append] at same
  rw [TextMentions, repr_str, mentions_cons compound delimiter, mentions_concat compound delimiter, same]

/-- Around a slash a text mentions what its parts do. -/
theorem text_mentions_slash (compound : Compound word) (left right : List Char) :
    TextMentions printable word (String.ofList (left ++ '/' :: right)) ↔
      TextMentions printable word (String.ofList left) ∨ TextMentions printable word (String.ofList right) := by
  have slash : escape_char printable '\'' '/' = ['/'] := by simp [escape_char]
  rw [text_mentions_iff compound, text_mentions_iff compound, text_mentions_iff compound, String.toList_ofList,
    String.toList_ofList, String.toList_ofList, List.flatMap_append, List.flatMap_cons, slash, List.singleton_append,
    mentions_apart compound (by decide)]

private theorem hex_digits_plain (width n : Nat) : '_' ∉ hex_digits width n := by
  induction width generalizing n with
  | zero => exact List.not_mem_nil
  | succ width ih =>
    have digits : ∀ k < 16, '_' ≠ "0123456789abcdef".toList.getD k '0' := by decide
    rw [hex_digits, List.mem_append, List.mem_singleton, not_or]
    exact ⟨ih _, digits (n % 16) (Nat.mod_lt _ (by decide))⟩

private theorem escape_plain {quote c : Char} (other : c ≠ '_') : '_' ∉ escape_char printable quote c := by
  have escaped := hex_digits_plain
  rw [escape_char]
  split
  · simp [Ne.symm other]
  · split_ifs <;> simp [Ne.symm other, escaped]

/-- A text without underscores mentions nothing. -/
theorem text_plain (compound : Compound word) {text : String} (plain : '_' ∉ text.toList) :
    ¬ TextMentions printable word text := by
  rw [text_mentions_iff compound]
  refine not_mentioned compound (fun inside => ?_)
  obtain ⟨c, member, inside⟩ := List.mem_flatMap.mp inside
  exact escape_plain (fun same => plain (same ▸ member)) inside

/-- Of printable ASCII without quotes and backslashes nothing is escaped. -/
theorem text_verbatim (compound : Compound word) {text : String}
    (verbatim : ∀ c ∈ text.toList, 32 ≤ c.toNat ∧ c.toNat ≤ 126 ∧ c ≠ '\'' ∧ c ≠ '\\') :
    TextMentions printable word text ↔ Mentions word text.toList := by
  have same : text.toList.flatMap (escape_char printable '\'') = text.toList := by
    generalize text.toList = cs at verbatim
    induction cs with
    | nil => rfl
    | cons c rest ih =>
      rw [List.forall_mem_cons] at verbatim
      obtain ⟨⟨low, high, quote, backslash⟩, verbatim⟩ := verbatim
      have control : c ≠ '\t' ∧ c ≠ '\n' ∧ c ≠ '\r' := by
        refine ⟨?_, ?_, ?_⟩ <;> rintro rfl <;> exact absurd low (by decide)
      rw [List.flatMap_cons, ih verbatim, escape_char, if_neg (not_or.mpr ⟨quote, backslash⟩), if_neg control.1,
        if_neg control.2.1, if_neg control.2.2, if_pos ⟨low, high⟩]
      rfl
  rw [text_mentions_iff compound, same]

/-! ### Values -/

private theorem int_plain (n : Int) : '_' ∉ (toString n).toList := by
  have digits : ∀ k : Nat, '_' ∉ (toString k).toList := by
    intro k inside
    have spelled : (toString k).toList = Nat.toDigits 10 k := Nat.toList_repr
    rw [spelled] at inside
    exact absurd (Nat.isDigit_of_mem_toDigits (by decide) (by decide) inside) (by decide)
  cases n with
  | ofNat k => exact digits k
  | negSucc k =>
    have sign : (toString (Int.negSucc k)).toList = '-' :: (toString (k + 1)).toList := by
      show ("-" ++ Nat.repr (k + 1)).toList = _
      rw [String.toList_append]
      rfl
    rw [sign, List.mem_cons, not_or]
    exact ⟨by decide, digits (k + 1)⟩

/-- A list is mentioned by one of its parts, whether or not more follows. -/
private theorem mentions_sequence {α : Type} (compound : Compound word) (rest : List α) (first others : List Char)
    (none_left : rest = [] → others = []) :
    Mentions word (first ++ (if rest.isEmpty then [] else [',', ' ']) ++ others) ↔
      Mentions word first ∨ Mentions word others := by
  cases rest with
  | nil =>
    rw [none_left rfl, or_iff_left (not_mentioned compound List.not_mem_nil)]
    simp
  | cons next rest => exact mentions_over compound (List.cons_ne_nil _ _) (by decide) first others

theorem items_mention_iff {items : List Json} :
    ItemsMention printable word items ↔ ∃ item ∈ items, ValueMentions printable word item := by
  induction items with
  | nil => simp [ItemsMention]
  | cons item rest ih => simp [ItemsMention, ih]

mutual
/-- The word is in the text of a value exactly when one of its texts mentions it. -/
theorem mentions_repr (compound : Compound word) : ∀ value : Json,
    Mentions word (repr printable value) ↔ ValueMentions printable word value
  | .null => iff_of_false (not_mentioned compound (show '_' ∉ "None".toList by decide)) id
  | .bool true => iff_of_false (not_mentioned compound (show '_' ∉ "True".toList by decide)) id
  | .bool false => iff_of_false (not_mentioned compound (show '_' ∉ "False".toList by decide)) id
  | .int n => iff_of_false (not_mentioned compound (int_plain n)) id
  | .float text => Iff.rfl
  | .str text => Iff.rfl
  | .arr items => by
    rw [repr, mentions_cons compound (by decide), mentions_concat compound (by decide)]
    exact mentions_items compound items
  | .obj fields => by
    rw [repr, mentions_cons compound (by decide), mentions_concat compound (by decide)]
    exact mentions_fields compound fields
theorem mentions_items (compound : Compound word) : ∀ items : List Json,
    Mentions word (repr_items printable items) ↔ ItemsMention printable word items
  | [] => iff_of_false (not_mentioned compound List.not_mem_nil) id
  | item :: rest => by
    rw [repr_items, mentions_sequence compound rest _ _ (fun empty => by rw [empty, repr_items]),
      mentions_repr compound item, mentions_items compound rest, ItemsMention]
theorem mentions_fields (compound : Compound word) : ∀ fields : JsonObject,
    Mentions word (repr_fields printable fields) ↔ FieldsMention printable word fields
  | [] => iff_of_false (not_mentioned compound List.not_mem_nil) id
  | (key, value) :: rest => by
    rw [repr_fields, mentions_apart compound (by decide), mentions_cons compound (by decide),
      mentions_sequence compound rest _ _ (fun empty => by rw [empty, repr_fields]), mentions_repr compound value,
      mentions_fields compound rest, FieldsMention]
    exact Iff.rfl
end
end

example : TextMentions (fun _ => false) FULL_LOG (String.ofList (Char.ofNat 0x9f :: "ull_log".toList)) := by decide +kernel

end SocTriage.PythonRepr
