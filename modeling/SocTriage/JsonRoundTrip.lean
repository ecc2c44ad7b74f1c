import SocTriage.Deduplication
import SocTriage.JsonDump
import SocTriage.KeyOrder

/-!
What `json.dumps` writes, `json.loads` reads back: the tokens of a text are those of the value, and
the machine of the parser closes each container with what was written into it. So a
canonical text spells its value without loss, and two of them are equal just for values that
differ in the order of keys.
-/
namespace SocTriage.JsonRoundTrip
open JsonText JsonDump

/-! ### Tokens -/

private theorem tokens_skip (decoder : Decoder) (cs rest : List Char) :
    tokens decoder cs.length (cs ++ rest) = tokens decoder 0 rest := by
  induction cs with
  | nil => rfl
  | cons c cs ih => rw [List.cons_append, List.length_cons, tokens, ih]

/-- A token that a text begins with is the first of its tokens. -/
private theorem tokens_cons {decoder : Decoder} {text rest : List Char} {token : Token} {c : Char}
    (first : text.head? = some c) (dark : whitespace c = false)
    (found : token_at decoder (text ++ rest) = (token, text.length)) :
    tokens decoder 0 (text ++ rest) = token :: tokens decoder 0 rest := by
  obtain ⟨cs, rfl⟩ : ∃ cs, text = c :: cs := by
    cases text with
    | nil => nomatch first
    | cons c' cs => exact ⟨cs, by rw [Option.some.inj first]⟩
  rw [List.cons_append] at found ⊢
  rw [tokens, if_neg (by rw [dark]; decide), found]
  exact congrArg (token :: ·) (tokens_skip decoder cs rest)

private theorem tokens_mark {decoder : Decoder} {c : Char} {token : Token} (dark : whitespace c = false) {rest : List Char}
    (found : token_at decoder (c :: rest) = (token, 1)) : tokens decoder 0 (c :: rest) = token :: tokens decoder 0 rest :=
  @tokens_cons decoder [c] rest token c rfl dark found

private theorem tokens_str (decoder : Decoder) (ensure_ascii : Bool) (s : String) (rest : List Char) :
    tokens decoder 0 (encode_str ensure_ascii s ++ rest) = .text s :: tokens decoder 0 rest := by
  refine tokens_cons (c := '"') rfl rfl ?_
  have scanned := scan_escapes ensure_ascii s.toList rest
  have behind : encode_str ensure_ascii s ++ rest = '"' :: (s.toList.flatMap (escape ensure_ascii) ++ '"' :: rest) := by
    simp only [encode_str, List.cons_append, List.append_assoc, List.nil_append]
  have length : (encode_str ensure_ascii s).length = (s.toList.flatMap (escape ensure_ascii)).length + 1 + 1 := by
    simp only [encode_str, List.length_cons, List.length_append, List.length_nil]
  rw [behind, length]
  simp only [token_at, scanned, String.ofList_toList]

private theorem number_head {numeral : Numeral} (valid : numeral.Valid) (rest : List Char) :
    ∃ c tail, c.isDigit = true ∧ (numeral.text ++ rest = c :: tail ∨ numeral.text ++ rest = '-' :: c :: tail) := by
  obtain ⟨c, whole, spelled⟩ := List.exists_cons_of_ne_nil valid.nonempty
  refine ⟨c, whole ++ (numeral.point ++ numeral.power) ++ rest, valid.whole c (spelled ▸ List.mem_cons_self), ?_⟩
  rw [Numeral.text, Numeral.sign, spelled]
  split_ifs
  · exact .inr rfl
  · exact .inl rfl

private theorem number_token (decoder : Decoder) {numeral : Numeral} (valid : numeral.Valid) {rest : List Char}
    (ended : Ended rest) : token_at decoder (numeral.text ++ rest) = (numeral.token decoder, numeral.text.length) := by
  obtain ⟨c, tail, digit, head⟩ := number_head valid rest
  have apart {other : Char} (no : other.isDigit = false) : c ≠ other := fun same => by
    rw [same, no] at digit
    exact absurd digit (by decide)
  have first {other : Char} (no : other.isDigit = false) (sign : '-' ≠ other) (after : List Char) :
      numeral.text ++ rest ≠ other :: after := by
    rcases head with plain | signed
    · rw [plain]
      exact fun same => apart no (List.cons.inj same).1
    · rw [signed]
      exact fun same => sign (List.cons.inj same).1
  have none : constants.find? (fun constant => constant.1.toList.isPrefixOf (numeral.text ++ rest)) = none := by
    rw [List.find?_eq_none]
    intro constant inside begins
    rw [List.isPrefixOf_iff_prefix] at begins
    obtain ⟨after, same⟩ := begins
    have spelled : ∃ a b more, constant.1.toList = a :: b :: more ∧ a.isDigit = false ∧ b.isDigit = false := by
      simp only [constants, List.mem_cons, List.not_mem_nil, or_false] at inside
      rcases inside with rfl | rfl | rfl | rfl | rfl | rfl
      · exact ⟨'n', 'u', ['l', 'l'], by decide⟩
      · exact ⟨'t', 'r', ['u', 'e'], by decide⟩
      · exact ⟨'f', 'a', ['l', 's', 'e'], by decide⟩
      · exact ⟨'N', 'a', ['N'], by decide⟩
      · exact ⟨'I', 'n', ['f', 'i', 'n', 'i', 't', 'y'], by decide⟩
      · exact ⟨'-', 'I', ['n', 'f', 'i', 'n', 'i', 't', 'y'], by decide⟩
    obtain ⟨a, b, more, text, no, also⟩ := spelled
    rw [text] at same
    rcases head with plain | signed
    · exact apart no (List.cons.inj (same.trans plain)).1.symm
    · exact apart also (List.cons.inj (List.cons.inj (same.trans signed)).2).1.symm
  rw [token_at.eq_8 decoder _ (first rfl (by decide)) (first rfl (by decide)) (first rfl (by decide)) (first rfl (by decide))
    (first rfl (by decide)) (first rfl (by decide)) (first rfl (by decide)), none, number_scanned decoder valid ended]
  rfl

private theorem tokens_number (decoder : Decoder) {numeral : Numeral} (valid : numeral.Valid) {rest : List Char}
    (ended : Ended rest) :
    tokens decoder 0 (numeral.text ++ rest) = numeral.token decoder :: tokens decoder 0 rest := by
  obtain ⟨c, tail, digit, head⟩ := number_head valid []
  rw [List.append_nil] at head
  rcases head with plain | signed
  · refine tokens_cons (c := c) (by rw [plain]; rfl) ?_ (number_token decoder valid ended)
    have dark : ∀ blank ∈ [' ', '\t', '\n', '\r'], ¬ blank.isDigit = true := by decide
    rw [whitespace, List.contains_eq_mem, decide_eq_false_iff_not]
    exact fun blank => dark c blank digit
  · exact tokens_cons (c := '-') (by rw [signed]; rfl) rfl (number_token decoder valid ended)

private theorem spelled_apart {decoder : Decoder} {repr name : String} {numeral : Numeral}
    (spelled : Spelled decoder repr numeral) (letters : (name.toList.take 2).any Char.isDigit = false) : repr ≠ name := by
  rintro rfl
  obtain ⟨c, tail, digit, head⟩ := number_head spelled.valid []
  rw [List.append_nil, ← spelled.text] at head
  have inside : c ∈ repr.toList.take 2 := by
    rcases head with plain | signed
    · rw [plain]
      exact List.mem_cons_self
    · rw [signed]
      exact List.mem_cons_of_mem _ List.mem_cons_self
  exact absurd digit (List.any_eq_false.mp letters c inside)

private theorem tokens_float {decoder : Decoder} {repr : String} (formed : FloatText decoder repr) {rest : List Char}
    (ended : Ended rest) :
    tokens decoder 0 (encode_float repr ++ rest) = .value (.float repr) :: tokens decoder 0 rest := by
  cases formed with
  | nan => exact @tokens_cons decoder "NaN".toList rest _ 'N' rfl rfl rfl
  | inf => exact @tokens_cons decoder "Infinity".toList rest _ 'I' rfl rfl rfl
  | minus_inf => exact @tokens_cons decoder "-Infinity".toList rest _ '-' rfl rfl rfl
  | @finite _ numeral spelled =>
    rw [encode_float, if_neg (spelled_apart spelled rfl), if_neg (spelled_apart spelled rfl),
      if_neg (spelled_apart spelled rfl), spelled.text, tokens_number decoder spelled.valid ended, spelled_token spelled]

mutual
def token_list : Json → List Token
  | .null => [.value .null]
  | .bool b => [.value (.bool b)]
  | .int n => [.value (.int n)]
  | .float repr => [.value (.float repr)]
  | .str s => [.text s]
  | .arr items => .open_array :: (item_tokens items ++ [.close_array])
  | .obj fields => .open_object :: (field_tokens fields ++ [.close_object])
def item_tokens : List Json → List Token
  | [] => []
  | item :: rest => token_list item ++ (if rest.isEmpty then [] else [.comma]) ++ item_tokens rest
def field_tokens : JsonObject → List Token
  | [] => []
  | (key, value) :: rest =>
    .text key :: .colon :: (token_list value ++ (if rest.isEmpty then [] else [.comma]) ++ field_tokens rest)
end

mutual
/-- The keys of an object are distinct, as those of a dictionary are, and a float is spelled by its `repr`. -/
def WellFormed (decoder : Decoder) : Json → Prop
  | .float repr => FloatText decoder repr
  | .arr items => WellFormedItems decoder items
  | .obj fields => (fields.map Prod.fst).Nodup ∧ WellFormedFields decoder fields
  | .null | .bool _ | .int _ | .str _ => True
def WellFormedItems (decoder : Decoder) : List Json → Prop
  | [] => True
  | item :: rest => WellFormed decoder item ∧ WellFormedItems decoder rest
def WellFormedFields (decoder : Decoder) : JsonObject → Prop
  | [] => True
  | (_, value) :: rest => WellFormed decoder value ∧ WellFormedFields decoder rest
end

private theorem ended_mark {c : Char} (mark : c.isDigit = false ∧ c ≠ '.' ∧ c ≠ 'e' ∧ c ≠ 'E') (rest : List Char) :
    Ended (c :: rest) := by
  intro c' first
  obtain rfl : c = c' := Option.some.inj first
  exact mark

private theorem tokens_comma (style : Style) (decoder : Decoder) (rest : List Char) :
    tokens decoder 0 (style.comma ++ rest) = .comma :: tokens decoder 0 rest := by
  rw [Style.comma]
  split_ifs
  · exact tokens_mark rfl rfl
  · exact tokens_mark rfl rfl

private theorem tokens_colon (style : Style) (decoder : Decoder) (rest : List Char) :
    tokens decoder 0 (style.colon ++ rest) = .colon :: tokens decoder 0 rest := by
  rw [Style.colon]
  split_ifs
  · exact tokens_mark rfl rfl
  · exact tokens_mark rfl rfl

private theorem comma_ended (style : Style) (rest : List Char) : Ended (style.comma ++ rest) := by
  rw [Style.comma]
  split_ifs
  · exact ended_mark (by decide) _
  · exact ended_mark (by decide) _

mutual
/-- The tokens of a text that was written are those of the value. -/
private theorem tokens_encode (style : Style) (decoder : Decoder) : ∀ (value : Json) {depth : Nat},
    refused decoder.recursion decoder.max_str_digits depth value = none → WellFormed decoder value →
    ∀ {rest : List Char}, Ended rest →
      tokens decoder 0 (encode style value ++ rest) = token_list value ++ tokens decoder 0 rest
  | .null, _, _, _, rest, _ => @tokens_cons decoder "null".toList rest _ 'n' rfl rfl rfl
  | .bool true, _, _, _, rest, _ => @tokens_cons decoder "true".toList rest _ 't' rfl rfl rfl
  | .bool false, _, _, _, rest, _ => @tokens_cons decoder "false".toList rest _ 'f' rfl rfl rfl
  | .int n, _, fits, _, rest, ended => by
    have few : ¬ decoder.max_str_digits.any (fun most => most < (toString n.natAbs).length) = true := fun many => by
      rw [refused, if_pos many] at fits
      exact nomatch fits
    rw [encode, ← numeral_of_text, tokens_number decoder (numeral_of_valid n) ended, numeral_of_token few]
    rfl
  | .float repr, _, _, formed, rest, ended => tokens_float formed ended
  | .str s, _, _, _, rest, _ => tokens_str decoder style.ensure_ascii s rest
  | .arr items, depth, fits, formed, rest, _ => by
    rw [refused] at fits
    split_ifs at fits
    have opened : encode style (.arr items) ++ rest = '[' :: (encode_items style items ++ (']' :: rest)) := by
      simp only [encode, List.cons_append, List.append_assoc, List.nil_append]
    rw [opened, tokens_mark rfl rfl, tokens_items style decoder items fits formed (ended_mark (by decide) _),
      tokens_mark rfl rfl]
    simp only [token_list, List.cons_append, List.append_assoc, List.nil_append]
  | .obj fields, depth, fits, formed, rest, _ => by
    rw [refused] at fits
    split_ifs at fits
    have opened : encode style (.obj fields) ++ rest = '\x7b' :: (encode_fields style fields ++ ('\x7d' :: rest)) := by
      simp only [encode, List.cons_append, List.append_assoc, List.nil_append]
    rw [opened, tokens_mark rfl rfl, tokens_fields style decoder fields fits formed.2 (ended_mark (by decide) _),
      tokens_mark rfl rfl]
    simp only [token_list, List.cons_append, List.append_assoc, List.nil_append]
private theorem tokens_items (style : Style) (decoder : Decoder) : ∀ (items : List Json) {depth : Nat},
    refused_items decoder.recursion decoder.max_str_digits depth items = none → WellFormedItems decoder items →
    ∀ {rest : List Char}, Ended rest →
      tokens decoder 0 (encode_items style items ++ rest) = item_tokens items ++ tokens decoder 0 rest
  | [], _, _, _, _, _ => rfl
  | [item], _, fits, formed, rest, ended => by
    rw [refused_items, Option.or_eq_none_iff] at fits
    simp only [encode_items, item_tokens, List.isEmpty_nil, if_true, List.append_nil]
    exact tokens_encode style decoder item fits.1 formed.1 ended
  | item :: next :: items, _, fits, formed, rest, ended => by
    rw [refused_items, Option.or_eq_none_iff] at fits
    rw [encode_items, item_tokens]
    simp only [List.isEmpty_cons, Bool.false_eq_true, if_false, List.append_assoc, List.cons_append, List.nil_append]
    rw [tokens_encode style decoder item fits.1 formed.1 (comma_ended style _), tokens_comma,
      tokens_items style decoder (next :: items) fits.2 formed.2 ended]
private theorem tokens_fields (style : Style) (decoder : Decoder) : ∀ (fields : JsonObject) {depth : Nat},
    refused_fields decoder.recursion decoder.max_str_digits depth fields = none → WellFormedFields decoder fields →
    ∀ {rest : List Char}, Ended rest →
      tokens decoder 0 (encode_fields style fields ++ rest) = field_tokens fields ++ tokens decoder 0 rest
  | [], _, _, _, _, _ => rfl
  | [(key, value)], _, fits, formed, rest, ended => by
    rw [refused_fields, Option.or_eq_none_iff] at fits
    simp only [encode_fields, field_tokens, List.isEmpty_nil, if_true, List.append_nil, List.append_assoc, List.cons_append]
    rw [tokens_str, tokens_colon, tokens_encode style decoder value fits.1 formed.1 ended]
  | (key, value) :: next :: fields, _, fits, formed, rest, ended => by
    rw [refused_fields, Option.or_eq_none_iff] at fits
    rw [encode_fields, field_tokens]
    simp only [List.isEmpty_cons, Bool.false_eq_true, if_false, List.append_assoc, List.cons_append, List.nil_append]
    rw [tokens_str, tokens_colon, tokens_encode style decoder value fits.1 formed.1 (comma_ended style _), tokens_comma,
      tokens_fields style decoder (next :: fields) fits.2 formed.2 ended]
end

/-! ### Values -/

private theorem foldlM_cons {state : Type} {step : state → Token → Except LoadError state} {s s' : state} {token : Token}
    (stepped : step s token = .ok s') (rest : List Token) : (token :: rest).foldlM step s = rest.foldlM step s' := by
  rw [List.foldlM_cons, stepped]
  rfl

private theorem foldlM_append_ok {state : Type} {step : state → Token → Except LoadError state} {s s' : state}
    {first : List Token} (ran : first.foldlM step s = .ok s') (rest : List Token) :
    (first ++ rest).foldlM step s = rest.foldlM step s' := by
  rw [List.foldlM_append, ran]
  rfl

/-- The first item of an array is read as any other. -/
private theorem first_item_read (decoder : Decoder) (value : Json) (before : List Json) (stack : List Frame)
    (rest : List Token) :
    (token_list value ++ rest).foldlM (machine_step decoder) { stack := .items before :: stack, awaits := .first_item } =
      (token_list value ++ rest).foldlM (machine_step decoder) { stack := .items before :: stack, awaits := .value } := by
  cases value <;> rfl

private theorem set_new {key : String} {fields : JsonObject} (absent : key ∉ fields.map Prod.fst) (value : Json) :
    Json.set key value fields = fields ++ [(key, value)] := by
  induction fields with
  | nil => rfl
  | cons field rest ih =>
    rw [List.map_cons, List.mem_cons, not_or] at absent
    rw [Json.set, if_neg (Ne.symm absent.1), ih absent.2]
    rfl

private theorem key_absent {before after : JsonObject} {key : String} {value : Json}
    (distinct : ((before ++ (key, value) :: after).map Prod.fst).Nodup) : key ∉ before.map Prod.fst := by
  rw [List.map_append, List.nodup_append] at distinct
  exact fun inside => distinct.2.2 key inside key List.mem_cons_self rfl

/-- The machine awaits a key of the object, its first or another. -/
private def AwaitsKey (awaits : Awaits) : Prop := awaits = .first_key ∨ awaits = .next_key

private theorem key_read (decoder : Decoder) {awaits : Awaits} (key_next : AwaitsKey awaits)
    (before : JsonObject) (last key : String) (stack : List Frame) (rest : List Token) :
    (.text key :: .colon :: rest).foldlM (machine_step decoder) { stack := .members before last :: stack, awaits } =
      rest.foldlM (machine_step decoder) { stack := .members before key :: stack, awaits := .value } := by
  rcases key_next with rfl | rfl
  · rfl
  · rfl

mutual
/-- The tokens of a value complete it. -/
private theorem value_read (decoder : Decoder) : ∀ (value : Json) (stack : List Frame),
    refused decoder.recursion decoder.max_str_digits stack.length value = none → WellFormed decoder value →
    (token_list value).foldlM (machine_step decoder) { stack, awaits := .value } = .ok (supply stack value)
  | .null, _, _, _ => rfl
  | .bool _, _, _, _ => rfl
  | .int _, _, _, _ => rfl
  | .float _, _, _, _ => rfl
  | .str _, _, _, _ => rfl
  | .arr items, stack, fits, formed => by
    rw [refused] at fits
    split_ifs at fits with deep
    have opened : machine_step decoder { stack, awaits := .value } .open_array =
        .ok { stack := .items [] :: stack, awaits := .first_item } := if_neg deep
    rw [token_list, foldlM_cons opened]
    cases items with
    | nil => rfl
    | cons item items =>
      rw [item_tokens, List.append_assoc, List.append_assoc, first_item_read, ← List.append_assoc, ← List.append_assoc,
        ← item_tokens]
      exact items_read decoder (item :: items) [] stack (List.cons_ne_nil _ _) fits formed
  | .obj fields, stack, fits, formed => by
    rw [refused] at fits
    split_ifs at fits with deep
    have opened : machine_step decoder { stack, awaits := .value } .open_object =
        .ok { stack := .members [] "" :: stack, awaits := .first_key } := if_neg deep
    rw [token_list, foldlM_cons opened]
    cases fields with
    | nil => rfl
    | cons field fields =>
      exact fields_read decoder (field :: fields) [] "" stack (.inl rfl) (List.cons_ne_nil _ _) fits formed.1 formed.2
private theorem items_read (decoder : Decoder) : ∀ (items before : List Json) (stack : List Frame), items ≠ [] →
    refused_items decoder.recursion decoder.max_str_digits (stack.length + 1) items = none → WellFormedItems decoder items →
    (item_tokens items ++ [Token.close_array]).foldlM (machine_step decoder)
      { stack := .items before :: stack, awaits := .value } = .ok (supply stack (.arr (before ++ items)))
  | [], _, _, some_item, _, _ => absurd rfl some_item
  | [item], before, stack, _, fits, formed => by
    rw [refused_items, Option.or_eq_none_iff] at fits
    have read := value_read decoder item (.items before :: stack) fits.1 formed.1
    simp only [item_tokens, List.isEmpty_nil, if_true, List.append_nil]
    rw [foldlM_append_ok read]
    rfl
  | item :: next :: items, before, stack, _, fits, formed => by
    rw [refused_items, Option.or_eq_none_iff] at fits
    have read := value_read decoder item (.items before :: stack) fits.1 formed.1
    have longer : (before ++ [item]) ++ next :: items = before ++ item :: next :: items := by simp
    have others := items_read decoder (next :: items) (before ++ [item]) stack (List.cons_ne_nil _ _) fits.2 formed.2
    rw [longer] at others
    rw [item_tokens]
    simp only [List.isEmpty_cons, Bool.false_eq_true, if_false, List.append_assoc, List.cons_append, List.nil_append]
    rw [foldlM_append_ok read]
    exact (foldlM_cons rfl _).trans others
private theorem fields_read (decoder : Decoder) : ∀ (fields before : JsonObject) (last : String) (stack : List Frame)
    {awaits : Awaits}, AwaitsKey awaits → fields ≠ [] →
    refused_fields decoder.recursion decoder.max_str_digits (stack.length + 1) fields = none →
    ((before ++ fields).map Prod.fst).Nodup → WellFormedFields decoder fields →
    (field_tokens fields ++ [Token.close_object]).foldlM (machine_step decoder)
      { stack := .members before last :: stack, awaits } = .ok (supply stack (.obj (before ++ fields)))
  | [], _, _, _, _, _, some_field, _, _, _ => absurd rfl some_field
  | [(key, value)], before, last, stack, awaits, key_next, _, fits, distinct, formed => by
    rw [refused_fields, Option.or_eq_none_iff] at fits
    have read := value_read decoder value (.members before key :: stack) fits.1 formed.1
    simp only [field_tokens, List.isEmpty_nil, if_true, List.append_nil, List.cons_append]
    rw [key_read decoder key_next, foldlM_append_ok read, supply, set_new (key_absent distinct)]
    rfl
  | (key, value) :: next :: fields, before, last, stack, awaits, key_next, _, fits, distinct, formed => by
    rw [refused_fields, Option.or_eq_none_iff] at fits
    have read := value_read decoder value (.members before key :: stack) fits.1 formed.1
    have longer : (before ++ [(key, value)]) ++ next :: fields = before ++ (key, value) :: next :: fields := by simp
    have others := fields_read decoder (next :: fields) (before ++ [(key, value)]) key stack (.inr rfl) (List.cons_ne_nil _ _)
      fits.2 (longer ▸ distinct) formed.2
    rw [longer] at others
    rw [field_tokens]
    simp only [List.isEmpty_cons, Bool.false_eq_true, if_false, List.append_assoc, List.cons_append, List.nil_append]
    rw [key_read decoder key_next, foldlM_append_ok read, supply, set_new (key_absent distinct)]
    exact (foldlM_cons rfl _).trans others
end

private theorem encode_head (style : Style) (decoder : Decoder) {value : Json} (formed : WellFormed decoder value) :
    (encode style value).head? ≠ some '\ufeff' := by
  have number {numeral : Numeral} (valid : numeral.Valid) : numeral.text.head? ≠ some '\ufeff' := by
    obtain ⟨c, tail, digit, head⟩ := number_head valid []
    rw [List.append_nil] at head
    rcases head with plain | signed
    · rw [plain]
      intro mark
      rw [Option.some.inj mark] at digit
      exact absurd digit (by decide)
    · rw [signed]
      exact fun mark => absurd (Option.some.inj mark) (by decide)
  cases value with
  | null => exact fun mark => absurd (Option.some.inj mark) (by decide)
  | bool b => cases b <;> exact fun mark => absurd (Option.some.inj mark) (by decide)
  | int n =>
    rw [encode, ← numeral_of_text]
    exact number (numeral_of_valid n)
  | float repr =>
    rw [WellFormed] at formed
    rw [encode, encode_float]
    split_ifs with nan inf minus_inf
    · decide
    · decide
    · decide
    · cases formed with
      | nan => exact absurd rfl nan
      | inf => exact absurd rfl inf
      | minus_inf => exact absurd rfl minus_inf
      | finite spelled => exact spelled.text ▸ number spelled.valid
  | str s => exact fun mark => absurd (Option.some.inj mark) (by decide)
  | arr items => exact fun mark => absurd (Option.some.inj mark) (by decide)
  | obj fields => exact fun mark => absurd (Option.some.inj mark) (by decide)

/-- A text that was written is read as the value that was. -/
private theorem loads_encode (style : Style) {decoder : Decoder} {value : Json} (formed : WellFormed decoder value)
    (fits : refused decoder.recursion decoder.max_str_digits 0 value = none) :
    loads decoder (String.ofList (encode style value)) = .ok value := by
  have scanned := @tokens_encode style decoder value 0 fits formed [] (fun _ first => nomatch first)
  have read := value_read decoder value [] fits formed
  rw [List.append_nil, tokens, List.append_nil] at scanned
  rw [loads, String.toList_ofList, if_neg (encode_head style decoder formed), scanned, read]
  rfl

/-! ### The order of keys -/

private theorem insertKey_perm {key : String} {fields : JsonObject} (absent : key ∉ fields.map Prod.fst) (value : Json) :
    (Json.insertKey key value fields).Perm ((key, value) :: fields) := by
  induction fields with
  | nil => exact .refl _
  | cons field rest ih =>
    rw [List.map_cons, List.mem_cons, not_or] at absent
    rw [Json.insertKey, if_neg absent.1]
    split_ifs
    · exact .refl _
    · exact ((ih absent.2).cons field).trans (.swap _ _ _)

/-- Keys are put in their places in any order. -/
private theorem insertKey_comm {key key' : String} (other : key ≠ key') (value value' : Json) (fields : JsonObject) :
    Json.insertKey key value (Json.insertKey key' value' fields) =
      Json.insertKey key' value' (Json.insertKey key value fields) := by
  induction fields with
  | nil => grind [Json.insertKey]
  | cons field rest ih => grind [Json.insertKey]

/-- Every value of an object in its canonical form. -/
private def canonical_values (fields : JsonObject) : JsonObject := fields.map (fun field => (field.1, Json.canonical field.2))

private theorem canonicalFields_perm {fields : JsonObject} (distinct : (fields.map Prod.fst).Nodup) :
    (Json.canonicalFields fields).Perm (canonical_values fields) := by
  induction fields with
  | nil => exact .refl _
  | cons field rest ih =>
    rw [List.map_cons, List.nodup_cons] at distinct
    have same := ih distinct.2
    have absent : field.1 ∉ (Json.canonicalFields rest).map Prod.fst := by
      rw [(same.map Prod.fst).mem_iff, canonical_values, List.map_map]
      exact distinct.1
    exact (insertKey_perm absent _).trans (same.cons _)

private theorem canonicalFields_eq (fields : JsonObject) :
    Json.canonicalFields fields =
      fields.foldr (fun field sorted => Json.insertKey field.1 (Json.canonical field.2) sorted) [] := by
  induction fields with
  | nil => rfl
  | cons field rest ih => rw [Json.canonicalFields, ih, List.foldr_cons]

private theorem canonicalItems_eq (items : List Json) : Json.canonicalItems items = items.map Json.canonical := by
  induction items with
  | nil => rfl
  | cons item rest ih => rw [Json.canonicalItems, ih, List.map_cons]

private theorem canonicalFields_reordered {fields fields' : JsonObject} (distinct : (fields.map Prod.fst).Nodup)
    (perm : fields'.Perm fields) : Json.canonicalFields fields' = Json.canonicalFields fields := by
  rw [canonicalFields_eq, canonicalFields_eq]
  refine (perm.symm.foldr_eq' ?_ []).symm
  intro field inside field' inside' sorted
  by_cases same : field.1 = field'.1
  · rw [List.inj_on_of_nodup_map distinct inside inside' same]
  · exact insertKey_comm (Ne.symm same) _ _ sorted

/-- The canonical form does not depend on the order of keys. -/
private theorem canonical_reordered {value value' : Json} (same : Json.Reordered value value') :
    Json.canonical value = Json.canonical value' := by
  induction same with
  | refl value => rfl
  | trans _ _ first second => exact first.trans second
  | keys distinct perm => exact congrArg Json.obj (canonicalFields_reordered distinct perm).symm
  | field _ inner =>
    rw [Json.canonical, Json.canonical, canonicalFields_eq, canonicalFields_eq]
    simp only [List.foldr_append, List.foldr_cons, inner]
  | item _ inner =>
    rw [Json.canonical, Json.canonical, canonicalItems_eq, canonicalItems_eq]
    simp only [List.map_append, List.map_cons, inner]

private theorem reordered_symm {value value' : Json} (same : Json.Reordered value value') : Json.Reordered value' value := by
  induction same with
  | refl value => exact .refl value
  | trans _ _ first second => exact second.trans first
  | keys distinct perm => exact .keys ((perm.map Prod.fst).nodup_iff.mpr distinct) perm.symm
  | field _ inner => exact .field inner
  | item _ inner => exact .item inner

private theorem fields_formed_iff {decoder : Decoder} {fields : JsonObject} :
    WellFormedFields decoder fields ↔ ∀ field ∈ fields, WellFormed decoder field.2 := by
  induction fields with
  | nil => simp [WellFormedFields]
  | cons field rest ih => rw [WellFormedFields, ih, List.forall_mem_cons]

mutual
/-- The canonical form is well formed, and differs in the order of keys only. -/
private theorem canonical_formed {decoder : Decoder} : ∀ {value : Json}, WellFormed decoder value →
    WellFormed decoder (Json.canonical value) ∧ Json.Reordered value (Json.canonical value)
  | .null, formed => ⟨formed, .refl _⟩
  | .bool _, formed => ⟨formed, .refl _⟩
  | .int _, formed => ⟨formed, .refl _⟩
  | .float _, formed => ⟨formed, .refl _⟩
  | .str _, formed => ⟨formed, .refl _⟩
  | .arr _, formed =>
    have items := items_formed formed
    ⟨items.1, items.2 []⟩
  | .obj fields, formed => by
    have values := fields_formed formed.2
    have perm := canonicalFields_perm formed.1
    have distinct : ((canonical_values fields).map Prod.fst).Nodup := by
      rw [canonical_values, List.map_map]
      exact formed.1
    refine ⟨⟨(perm.map Prod.fst).nodup_iff.mpr distinct, fields_formed_iff.mpr fun field inside => ?_⟩,
      (values.2 []).trans (.keys distinct perm)⟩
    exact fields_formed_iff.mp values.1 field (perm.mem_iff.mp inside)
private theorem items_formed {decoder : Decoder} : ∀ {items : List Json}, WellFormedItems decoder items →
    WellFormedItems decoder (Json.canonicalItems items) ∧
      ∀ before, Json.Reordered (.arr (before ++ items)) (.arr (before ++ Json.canonicalItems items))
  | [], formed => ⟨formed, fun _ => .refl _⟩
  | item :: rest, formed => by
    have first := canonical_formed formed.1
    have others := items_formed formed.2
    refine ⟨⟨first.1, others.1⟩, fun before => (Json.Reordered.item first.2).trans ?_⟩
    have inner := others.2 (before ++ [Json.canonical item])
    rwa [List.append_assoc, List.append_assoc] at inner
private theorem fields_formed {decoder : Decoder} : ∀ {fields : JsonObject}, WellFormedFields decoder fields →
    WellFormedFields decoder (canonical_values fields) ∧
      ∀ before, Json.Reordered (.obj (before ++ fields)) (.obj (before ++ canonical_values fields))
  | [], formed => ⟨formed, fun _ => .refl _⟩
  | (key, value) :: rest, formed => by
    have first := canonical_formed formed.1
    have others := fields_formed formed.2
    refine ⟨⟨first.1, others.1⟩, fun before => (Json.Reordered.field first.2).trans ?_⟩
    have inner := others.2 (before ++ [(key, Json.canonical value)])
    rwa [List.append_assoc, List.append_assoc] at inner
end

/-! ### Round trip -/

private theorem written_formed (style : Style) {decoder : Decoder} {value : Json} (formed : WellFormed decoder value) :
    WellFormed decoder (style.written value) := by
  rw [Style.written]
  split_ifs
  · exact (canonical_formed formed).1
  · exact formed

private theorem loads_written {style : Style} {decoder : Decoder} {value : Json} {text : String}
    (dumped : dumps style decoder value = .ok text) (formed : WellFormed decoder value) :
    loads decoder text = .ok (style.written value) := by
  rw [dumps] at dumped
  split at dumped
  · exact nomatch dumped
  · rename_i fits
    rw [← Except.ok.inj dumped]
    exact loads_encode style (written_formed style formed) fits

/-- What `json.dumps` writes, `json.loads` reads back. -/
theorem loads_dumps {style : Style} {decoder : Decoder} {value : Json} {text : String}
    (dumped : dumps style decoder value = .ok text) (formed : WellFormed decoder value) :
    loads decoder text = .ok (style.written value) := loads_written dumped formed

/-- A decoder that spells each float as the text has it. -/
private def faithful : Decoder := { recursion := 3, max_str_digits := some 4, float_repr := id }

private def reading : Json :=
  .obj [("score", .float "-1.5e+16"), ("é", .arr [.null, .int (-20), .str "a\"\n"]), ("Score", .float "inf")]

private theorem score_spelled : Spelled faithful "-1.5e+16"
    { negative := true, whole := ['1'], fraction := ['5'], exponent := some (false, ['1', '6']) } where
  valid := ⟨by decide, by decide, by decide, by decide, by rintro _ _ ⟨⟩; decide⟩
  text := by decide
  broken := by decide
  finite := by decide +kernel
  same := rfl

private theorem reading_formed : WellFormed faithful reading := by
  simp only [reading, WellFormed, WellFormedFields, WellFormedItems, and_true, true_and]
  exact ⟨by decide, .finite score_spelled, .inf⟩

theorem reading_loaded :
    loads faithful "\x7b\"Score\": Infinity, \"score\": -1.5e+16, \"é\": [null, -20, \"a\\\"\\n\"]\x7d" =
      .ok (Json.canonical reading) :=
  @loads_dumps { sort_keys := true, ensure_ascii := false } faithful reading _ (by decide +kernel) reading_formed

/-- Canonical texts are equal just where the canonical forms are. -/
private theorem canonical_texts {decoder : Decoder} {value value' : Json} {text text' : String}
    (dumped : dumps canonical_style decoder value = .ok text) (dumped' : dumps canonical_style decoder value' = .ok text')
    (formed : WellFormed decoder value) (formed' : WellFormed decoder value') :
    text = text' ↔ Json.canonical value = Json.canonical value' := by
  constructor
  · intro same
    exact Except.ok.inj ((loads_written dumped formed).symm.trans (same ▸ loads_written dumped' formed'))
  · intro same
    have written : canonical_style.written value = canonical_style.written value' := same
    rw [dumps, written] at dumped
    exact Except.ok.inj (dumped.symm.trans dumped')

/-- Canonical texts are equal just where the values differ in no more than the order of keys. -/
theorem canonical_texts_equal {decoder : Decoder} {value value' : Json} {text text' : String}
    (dumped : dumps canonical_style decoder value = .ok text) (dumped' : dumps canonical_style decoder value' = .ok text')
    (formed : WellFormed decoder value) (formed' : WellFormed decoder value') :
    text = text' ↔ Json.Reordered value value' := by
  rw [canonical_texts dumped dumped' formed formed']
  constructor
  · intro read
    exact (canonical_formed formed).2.trans (read ▸ reordered_symm (canonical_formed formed').2)
  · exact canonical_reordered

private def reversed : Json :=
  .obj [("Score", .float "inf"), ("é", .arr [.null, .int (-20), .str "a\"\n"]), ("score", .float "-1.5e+16")]

private theorem reversed_formed : WellFormed faithful reversed := by
  simp only [reversed, WellFormed, WellFormedFields, WellFormedItems, and_true, true_and]
  exact ⟨by decide, .inf, .finite score_spelled⟩

private def reading_text : String := "\x7b\"Score\":Infinity,\"score\":-1.5e+16,\"\\u00e9\":[null,-20,\"a\\\"\\n\"]\x7d"

theorem reading_reversed : Json.Reordered reading reversed :=
  (@canonical_texts_equal faithful reading reversed reading_text reading_text (by decide +kernel) (by decide +kernel)
    reading_formed reversed_formed).mp rfl

/-! ### What deduplication hashes -/

section
variable (hash : String → String)

/-- The hash of the text of a value that is in its canonical form already. -/
def digest (canonical : Json) : String := hash (String.ofList (encode canonical_style canonical))

/-- The payload fingerprint is the hash of what `_canonical_json` writes. -/
theorem fingerprint_of_text {decoder : Decoder} {alert : WazuhAlert} {text : String}
    (dumped : dumps canonical_style decoder (.obj (Deduplication.identity_payload alert)) = .ok text) :
    Deduplication.compute_payload_fingerprint (digest hash) alert = hash text := by
  rw [dumps] at dumped
  split at dumped
  · exact nomatch dumped
  · rw [← Except.ok.inj dumped]
    rfl

/-- A hash that does not collide on the texts of some alerts does not collide on their canonical forms. -/
theorem collision_free_of_texts {decoder : Decoder} {alerts : List WazuhAlert}
    (formed : ∀ alert ∈ alerts, WellFormed decoder (.obj (Deduplication.identity_payload alert)))
    (dumped : ∀ alert ∈ alerts, ∃ text,
      dumps canonical_style decoder (.obj (Deduplication.identity_payload alert)) = .ok text)
    (apart : ∀ a ∈ alerts, ∀ b ∈ alerts, ∀ text text',
      dumps canonical_style decoder (.obj (Deduplication.identity_payload a)) = .ok text →
      dumps canonical_style decoder (.obj (Deduplication.identity_payload b)) = .ok text' →
      hash text = hash text' → text = text') :
    Deduplication.CollisionFree (digest hash) alerts := by
  intro a inside b inside' same
  obtain ⟨text, written⟩ := dumped a inside
  obtain ⟨text', written'⟩ := dumped b inside'
  rw [fingerprint_of_text hash written, fingerprint_of_text hash written'] at same
  exact (canonical_texts written written' (formed a inside) (formed b inside')).mp
    (apart a inside b inside' text text' written written' same)
end

end SocTriage.JsonRoundTrip
