import SocTriage.JsonText
import SocTriage.PythonRepr

/-!
`json.dumps` with its escapes, which leave ASCII only if they are to, and how the scanner of
`json.loads` reads its strings and numbers: the escapes of a character are undone one by one, and a number ends
where its digits do.
-/
namespace SocTriage.JsonDump
open JsonText
open PythonRepr (hex_digits)

/-! ### The text of a value -/

/-- `\uXXXX` of a code unit. -/
def escaped_unit (unit : Nat) : List Char := '\\' :: 'u' :: hex_digits 4 unit

/-- `ESCAPE_ASCII` or `ESCAPE`, and `ESCAPE_DCT`; a character beyond the first plane is a pair of surrogates. -/
def escape (ensure_ascii : Bool) (c : Char) : List Char :=
  if c = '"' ∨ c = '\\' then ['\\', c]
  else if c = '\n' then ['\\', 'n']
  else if c = '\r' then ['\\', 'r']
  else if c = '\t' then ['\\', 't']
  else if c.toNat = 8 then ['\\', 'b']
  else if c.toNat = 12 then ['\\', 'f']
  else if 32 ≤ c.toNat ∧ (ensure_ascii = true → c.toNat ≤ 126) then [c]
  else if c.toNat < 0x10000 then escaped_unit c.toNat
  else
    let n := c.toNat - 0x10000
    escaped_unit (0xd800 + n / 1024 % 1024) ++ escaped_unit (0xdc00 + n % 1024)

def encode_str (ensure_ascii : Bool) (s : String) : List Char := '"' :: (s.toList.flatMap (escape ensure_ascii) ++ ['"'])

/-- A float is spelled by its `repr`, and the three that are no numbers by their names. -/
def encode_float (repr : String) : List Char :=
  if repr = "nan" then "NaN".toList
  else if repr = "inf" then "Infinity".toList
  else if repr = "-inf" then "-Infinity".toList
  else repr.toList

/-- The separators, `(", ", ": ")` or `(",", ":")`, whether keys are sorted, and whether only ASCII is left. -/
structure Style where
  spaced : Bool := true
  sort_keys : Bool := false
  ensure_ascii : Bool := true

def Style.comma (style : Style) : List Char := if style.spaced then [',', ' '] else [',']
def Style.colon (style : Style) : List Char := if style.spaced then [':', ' '] else [':']

section
variable (style : Style)

mutual
def encode : Json → List Char
  | .null => "null".toList
  | .bool b => if b then "true".toList else "false".toList
  | .int n => (toString n).toList
  | .float repr => encode_float repr
  | .str s => encode_str style.ensure_ascii s
  | .arr items => '[' :: (encode_items items ++ [']'])
  | .obj fields => '\x7b' :: (encode_fields fields ++ ['\x7d'])
def encode_items : List Json → List Char
  | [] => []
  | item :: rest => encode item ++ (if rest.isEmpty then [] else style.comma) ++ encode_items rest
def encode_fields : JsonObject → List Char
  | [] => []
  | (key, value) :: rest =>
    encode_str style.ensure_ascii key ++ style.colon ++ encode value ++ (if rest.isEmpty then [] else style.comma) ++
      encode_fields rest
end
end

section
variable (recursion : Nat) (max_str_digits : Option Nat)

mutual
/-- The exception a value ends in, with so many containers open: too many of them, or an integer of too many digits. -/
def refused (depth : Nat) : Json → Option LoadError
  | .int n => if max_str_digits.any (fun most => most < (toString n.natAbs).length) then some .digits else none
  | .arr items => if recursion ≤ depth then some .recursion else refused_items (depth + 1) items
  | .obj fields => if recursion ≤ depth then some .recursion else refused_fields (depth + 1) fields
  | _ => none
def refused_items (depth : Nat) : List Json → Option LoadError
  | [] => none
  | item :: rest => (refused depth item).or (refused_items depth rest)
def refused_fields (depth : Nat) : JsonObject → Option LoadError
  | [] => none
  | (_, value) :: rest => (refused depth value).or (refused_fields depth rest)
end
end

/-- The value as it is written, with its keys sorted if they are to be. -/
def Style.written (style : Style) (value : Json) : Json := if style.sort_keys then Json.canonical value else value

/-- `json.dumps`. -/
def dumps (style : Style) (decoder : Decoder) (value : Json) : Except LoadError String :=
  match refused decoder.recursion decoder.max_str_digits 0 (style.written value) with
  | some error => .error error
  | none => .ok (String.ofList (encode style (style.written value)))

/-- `_canonical_json`. -/
def canonical_style : Style := { spaced := false, sort_keys := true }

/-! ### Strings -/

private theorem hex_value_digit : ∀ n < 16, hex_value ("0123456789abcdef".toList.getD n '0') = some n := by decide

private theorem code_unit_hex {unit : Nat} (small : unit < 0x10000) : ∃ a b c d, hex_digits 4 unit = [a, b, c, d] ∧
    code_unit a b c d = some unit := by
  refine ⟨_, _, _, _, rfl, ?_⟩
  rw [code_unit, hex_value_digit _ (Nat.mod_lt _ (by decide)), hex_value_digit _ (Nat.mod_lt _ (by decide)),
    hex_value_digit _ (Nat.mod_lt _ (by decide)), hex_value_digit _ (Nat.mod_lt _ (by decide))]
  simp only [bind, Option.bind, pure, Option.some.injEq]
  omega

private theorem unit_unread {a b c d : Char} (unread : code_unit a b c d = none) (rest : List Char) :
    scan_string ('\\' :: 'u' :: a :: b :: c :: d :: rest) = none := by
  by_cases paired : ∃ e f g h tail, rest = '\\' :: 'u' :: e :: f :: g :: h :: tail
  · obtain ⟨e, f, g, h, tail, rfl⟩ := paired
    rw [scan_string.eq_1, unread]
  · rw [scan_string.eq_2 _ _ _ _ _ (fun e f g h tail same => paired ⟨e, f, g, h, tail, same⟩), unread]

/-- A code unit that begins no pair is read for itself, whatever follows. -/
private theorem scan_unit {a b c d : Char} {unit : Nat} (read : code_unit a b c d = some unit)
    (lone : ¬ (0xd800 ≤ unit ∧ unit < 0xdc00)) (rest : List Char) :
    scan_string ('\\' :: 'u' :: a :: b :: c :: d :: rest) = prepend (unit_char unit) 6 (scan_string rest) := by
  by_cases paired : ∃ e f g h tail, rest = '\\' :: 'u' :: e :: f :: g :: h :: tail
  · obtain ⟨e, f, g, h, tail, rfl⟩ := paired
    rw [scan_string.eq_1, read]
    cases second : code_unit e f g h with
    | none =>
      rw [unit_unread second]
      rfl
    | some low => exact if_neg (fun pair => lone ⟨pair.1, pair.2.1⟩)
  · rw [scan_string.eq_2 _ _ _ _ _ (fun e f g h tail same => paired ⟨e, f, g, h, tail, same⟩), read]

private theorem scan_simple {e c : Char} (simple : e ≠ 'u') (read : escaped e = some c) (rest : List Char) :
    scan_string ('\\' :: e :: rest) = prepend c 2 (scan_string rest) := by
  rw [scan_string.eq_3 _ _ (fun _ _ _ _ _ _ _ _ _ same _ => simple same) (fun _ _ _ _ _ same _ => simple same), read]

private theorem scan_plain {c : Char} (visible : ¬ c.toNat < 32) (slash : c ≠ '\\') (quote : c ≠ '"') (rest : List Char) :
    scan_string (c :: rest) = prepend c 1 (scan_string rest) := by
  rw [scan_string.eq_5 _ _ (fun _ _ _ _ _ _ _ _ _ same _ => slash same) (fun _ _ _ _ _ same _ => slash same)
    (fun _ _ same _ => slash same) quote, if_neg visible]

private theorem char_of_toNat {c d : Char} (same : c.toNat = d.toNat) : c = d := Char.toNat_inj.mp same

private theorem scan_bmp {c : Char} (small : c.toNat < 0x10000) (rest : List Char) :
    scan_string (escaped_unit c.toNat ++ rest) = prepend c (escaped_unit c.toNat).length (scan_string rest) := by
  obtain ⟨a, b, d, e, spelled, read⟩ := code_unit_hex small
  have valid : ¬ (0xd800 ≤ c.toNat ∧ c.toNat < 0xe000) := by
    have := c.valid
    simp only [UInt32.isValidChar, Nat.isValidChar] at this
    change c.toNat < 0xd800 ∨ 0xdfff < c.toNat ∧ _ at this
    omega
  have same : unit_char c.toNat = c := by rw [unit_char, if_neg valid, Char.ofNat_toNat]
  rw [escaped_unit, spelled]
  exact (scan_unit read (fun high => valid ⟨high.1, by omega⟩) rest).trans (by rw [same]; rfl)

private theorem scan_pair {c : Char} (large : ¬ c.toNat < 0x10000) (rest : List Char) :
    scan_string (escaped_unit (0xd800 + (c.toNat - 0x10000) / 1024 % 1024) ++
      escaped_unit (0xdc00 + (c.toNat - 0x10000) % 1024) ++ rest) = prepend c 12 (scan_string rest) := by
  have bound : c.toNat < 0x110000 := by
    have := c.valid
    simp only [UInt32.isValidChar, Nat.isValidChar] at this
    change c.toNat < 0xd800 ∨ 0xdfff < c.toNat ∧ c.toNat < 0x110000 at this
    omega
  obtain ⟨a, b, d, e, spelled, high⟩ := @code_unit_hex (0xd800 + (c.toNat - 0x10000) / 1024 % 1024) (by omega)
  obtain ⟨a', b', d', e', spelled', low⟩ := @code_unit_hex (0xdc00 + (c.toNat - 0x10000) % 1024) (by omega)
  have joined : 0x10000 + (0xd800 + (c.toNat - 0x10000) / 1024 % 1024 - 0xd800) * 0x400 +
      (0xdc00 + (c.toNat - 0x10000) % 1024 - 0xdc00) = c.toNat := by omega
  rw [escaped_unit, escaped_unit, spelled, spelled']
  simp only [List.cons_append, List.nil_append]
  rw [scan_string.eq_1, high, low]
  dsimp only
  rw [if_pos (by omega), joined, Char.ofNat_toNat]

/-- The scanner undoes the escapes of a character. -/
private theorem scan_escape (ensure_ascii : Bool) (c : Char) (rest : List Char) :
    scan_string (escape ensure_ascii c ++ rest) = prepend c (escape ensure_ascii c).length (scan_string rest) := by
  rw [escape]
  split_ifs with special newline carriage tab backspace feed visible small
  · rcases special with rfl | rfl
    · exact scan_simple (by decide) rfl rest
    · exact scan_simple (by decide) rfl rest
  · exact newline ▸ scan_simple (by decide) rfl rest
  · exact carriage ▸ scan_simple (by decide) rfl rest
  · exact tab ▸ scan_simple (by decide) rfl rest
  · exact (@char_of_toNat c (Char.ofNat 8) backspace) ▸ scan_simple (by decide) rfl rest
  · exact (@char_of_toNat c (Char.ofNat 12) feed) ▸ scan_simple (by decide) rfl rest
  · exact scan_plain (by omega) (fun same => special (.inr same)) (fun same => special (.inl same)) rest
  · exact scan_bmp small rest
  · exact scan_pair small rest

theorem scan_escapes (ensure_ascii : Bool) (cs rest : List Char) :
    scan_string (cs.flatMap (escape ensure_ascii) ++ '"' :: rest) =
      some (cs, (cs.flatMap (escape ensure_ascii)).length + 1) := by
  induction cs with
  | nil => exact scan_string.eq_4 rest
  | cons c cs ih =>
    rw [List.flatMap_cons, List.append_assoc, scan_escape, ih, List.length_append]
    simp only [prepend, Option.map_some, Option.some.injEq, Prod.mk.injEq, true_and]
    omega

/-! ### Numbers -/

/-- What follows goes on with no number. -/
def Ended (rest : List Char) : Prop := ∀ c, rest.head? = some c → c.isDigit = false ∧ c ≠ '.' ∧ c ≠ 'e' ∧ c ≠ 'E'

/-- A number as it is spelled, its exponent with a sign. -/
structure Numeral where
  negative : Bool := false
  whole : List Char
  fraction : List Char := []
  exponent : Option (Bool × List Char) := none

def Numeral.sign (numeral : Numeral) : List Char := if numeral.negative then ['-'] else []
def Numeral.point (numeral : Numeral) : List Char := if numeral.fraction = [] then [] else '.' :: numeral.fraction
def Numeral.power (numeral : Numeral) : List Char :=
  match numeral.exponent with
  | none => []
  | some (down, digits) => 'e' :: (if down then '-' else '+') :: digits
def Numeral.text (numeral : Numeral) : List Char := numeral.sign ++ (numeral.whole ++ (numeral.point ++ numeral.power))

/-- The power of ten its digits are multiplied with. -/
def Numeral.scale (numeral : Numeral) : Int :=
  (match numeral.exponent with
    | none => 0
    | some (down, digits) => if down then -(number_of digits : Int) else number_of digits) - numeral.fraction.length

structure Numeral.Valid (numeral : Numeral) : Prop where
  nonempty : numeral.whole ≠ []
  leading : numeral.whole.head? = some '0' → numeral.whole = ['0']
  whole : ∀ c ∈ numeral.whole, c.isDigit = true
  fraction : ∀ c ∈ numeral.fraction, c.isDigit = true
  exponent : ∀ down digits, numeral.exponent = some (down, digits) → digits ≠ [] ∧ ∀ c ∈ digits, c.isDigit = true

private theorem take_digits {digits rest : List Char} (all : ∀ c ∈ digits, c.isDigit = true)
    (ended : ∀ c, rest.head? = some c → c.isDigit = false) : (digits ++ rest).takeWhile Char.isDigit = digits := by
  rw [List.takeWhile_append_of_pos all]
  cases rest with
  | nil => simp
  | cons c rest => rw [List.takeWhile_cons_of_neg (by rw [ended c rfl]; decide), List.append_nil]

private theorem fraction_scanned {numeral : Numeral} (valid : numeral.Valid) {rest : List Char}
    (ended : ∀ c, rest.head? = some c → c.isDigit = false ∧ c ≠ '.') :
    scan_fraction (numeral.point ++ rest) = numeral.fraction := by
  rw [Numeral.point]
  split_ifs with none
  · rw [none, List.nil_append]
    cases rest with
    | nil => rfl
    | cons c rest => rw [scan_fraction.eq_2 _ (fun _ same => (ended c rfl).2 (List.cons.inj same).1)]
  · exact take_digits valid.fraction (fun c first => (ended c first).1)

private theorem exponent_scanned {numeral : Numeral} (valid : numeral.Valid) {rest : List Char} (ended : Ended rest) :
    scan_exponent (numeral.power ++ rest) =
      match numeral.exponent with
      | none => (false, [], 0)
      | some (down, digits) => (down, digits, numeral.power.length) := by
  rw [Numeral.power]
  cases spelled : numeral.exponent with
  | none =>
    cases rest with
    | nil => rfl
    | cons c rest =>
      have other := (ended c rfl).2.2
      exact if_neg (not_or.mpr other)
  | some exponent =>
    obtain ⟨down, digits⟩ := exponent
    obtain ⟨nonempty, all⟩ := valid.exponent down digits spelled
    have taken := take_digits all (fun c first => (ended c first).1)
    cases down
    · simp [scan_exponent, taken, nonempty]
    · simp [scan_exponent, taken, nonempty]

/-- The token of a number. -/
def Numeral.token (decoder : Decoder) (numeral : Numeral) : Token :=
  if numeral.fraction = [] ∧ numeral.exponent = none then
    if decoder.max_str_digits.any (fun most => most < numeral.whole.length) then .too_long
    else .value (.int (if numeral.negative then -(number_of numeral.whole) else number_of numeral.whole))
  else if infinite (numeral.whole ++ numeral.fraction) numeral.scale then
    .value (.float (if numeral.negative then "-inf" else "inf"))
  else .value (.float (decoder.float_repr (String.ofList numeral.text)))

private theorem whole_scanned {numeral : Numeral} (valid : numeral.Valid) {rest : List Char}
    (ended : ∀ c, rest.head? = some c → c.isDigit = false) :
    (if (numeral.whole ++ rest).head? = some '0' then ['0'] else (numeral.whole ++ rest).takeWhile Char.isDigit) =
      numeral.whole := by
  have first : (numeral.whole ++ rest).head? = numeral.whole.head? := List.head?_append_of_ne_nil _ valid.nonempty
  rw [first]
  split_ifs with zero
  · exact (valid.leading zero).symm
  · exact take_digits valid.whole ended

private theorem power_ended {numeral : Numeral} {rest : List Char} (ended : Ended rest) (c : Char)
    (first : (numeral.power ++ rest).head? = some c) : c.isDigit = false ∧ c ≠ '.' := by
  rw [Numeral.power] at first
  cases spelled : numeral.exponent with
  | none =>
    rw [spelled] at first
    exact ⟨(ended c first).1, (ended c first).2.1⟩
  | some exponent =>
    rw [spelled] at first
    obtain rfl : 'e' = c := Option.some.inj first
    decide

private theorem point_ended {numeral : Numeral} {rest : List Char} (ended : Ended rest) (c : Char)
    (first : (numeral.point ++ (numeral.power ++ rest)).head? = some c) : c.isDigit = false := by
  rw [Numeral.point] at first
  split_ifs at first with none
  · exact (power_ended ended c first).1
  · obtain rfl : '.' = c := Option.some.inj first
    rfl

/-- A number is scanned to its end, for what it is. -/
theorem number_scanned (decoder : Decoder) {numeral : Numeral} (valid : numeral.Valid) {rest : List Char}
    (ended : Ended rest) :
    scan_number decoder (numeral.text ++ rest) = some (numeral.token decoder, numeral.text.length) := by
  have body : numeral.text ++ rest = numeral.sign ++ (numeral.whole ++ (numeral.point ++ (numeral.power ++ rest))) := by
    simp only [Numeral.text, List.append_assoc]
  have signed : ((numeral.text ++ rest).head? = some '-') ↔ numeral.negative = true := by
    rw [body, Numeral.sign]
    split_ifs with negative
    · simp [negative]
    · obtain ⟨c, whole, spelled⟩ := List.exists_cons_of_ne_nil valid.nonempty
      have digit := valid.whole c (spelled ▸ List.mem_cons_self)
      have other : c ≠ '-' := fun same => absurd (same ▸ digit) (by decide)
      simp [spelled, other, negative]
  have unsigned : (if numeral.negative = true then (numeral.text ++ rest).drop 1 else numeral.text ++ rest) =
      numeral.whole ++ (numeral.point ++ (numeral.power ++ rest)) := by
    rw [body, Numeral.sign]
    split_ifs with negative
    · rfl
    · rfl
  have fraction : scan_fraction (numeral.point ++ (numeral.power ++ rest)) = numeral.fraction :=
    fraction_scanned valid (power_ended ended)
  have pointed : (if numeral.fraction = [] then 0 else numeral.fraction.length + 1) = numeral.point.length := by
    rw [Numeral.point]
    split_ifs with none
    · rfl
    · rfl
  have total : (if numeral.negative = true then 1 else 0) + numeral.whole.length + numeral.point.length +
      numeral.power.length = numeral.text.length := by
    simp only [Numeral.text, Numeral.sign, List.length_append]
    split_ifs
    · simp only [List.length_singleton]
      omega
    · simp only [List.length_nil]
      omega
  have behind : (numeral.whole ++ (numeral.point ++ (numeral.power ++ rest))).drop
      (numeral.whole.length + numeral.point.length) = numeral.power ++ rest := by
    rw [← List.append_assoc, ← List.length_append, List.drop_left]
  rw [scan_number]
  simp only [signed, unsigned, whole_scanned valid (point_ended ended), if_neg valid.nonempty, List.drop_left, fraction,
    pointed, behind, exponent_scanned valid ended]
  rw [Numeral.token, Numeral.scale]
  cases spelled : numeral.exponent with
  | none =>
    have none : numeral.power.length = 0 := by rw [Numeral.power, spelled]; rfl
    rw [none] at total
    simp only [total, List.take_left, number_of, List.foldl_nil, Bool.false_eq_true, if_false, Nat.cast_zero, and_true]
    split_ifs <;> rfl
  | some exponent =>
    obtain ⟨down, digits⟩ := exponent
    have nonempty := (valid.exponent down digits spelled).1
    simp only [total, List.take_left, nonempty, reduceCtorEq, and_false, if_false]
    split_ifs <;> rfl

private theorem leading_digit (n : Nat) : (Nat.toDigits 10 n).head? = some '0' → n = 0 := by
  induction n using Nat.strongRecOn with
  | ind n ih =>
    intro zero
    rcases Nat.lt_or_ge n 10 with single | many
    · rw [Nat.toDigits_of_lt_base single] at zero
      have digits : ∀ k < 10, Nat.digitChar k = '0' → k = 0 := by decide
      exact digits n single (Option.some.inj zero)
    · rw [Nat.toDigits_of_base_le (by decide) many, List.head?_append_of_ne_nil _ Nat.toDigits_ne_nil] at zero
      have := ih (n / 10) (by omega) zero
      omega

/-- An integer as it is spelled. -/
def numeral_of (n : Int) : Numeral := { negative := n < 0, whole := Nat.toDigits 10 n.natAbs }

theorem numeral_of_valid (n : Int) : (numeral_of n).Valid where
  nonempty := Nat.toDigits_ne_nil
  leading zero := by
    change Nat.toDigits 10 n.natAbs = ['0']
    rw [leading_digit _ zero]
    rfl
  whole _ inside := Nat.isDigit_of_mem_toDigits (by decide) (by decide) inside
  fraction _ inside := absurd inside List.not_mem_nil
  exponent _ _ spelled := nomatch spelled

theorem numeral_of_text (n : Int) : (numeral_of n).text = (toString n).toList := by
  simp only [Numeral.text, Numeral.sign, Numeral.point, Numeral.power, numeral_of, decide_eq_true_eq, if_true,
    List.append_nil]
  cases n with
  | ofNat n =>
    rw [if_neg (by simp)]
    exact (Nat.toList_repr (n := n)).symm
  | negSucc n =>
    rw [if_pos (Int.negSucc_lt_zero n)]
    change ['-'] ++ Nat.toDigits 10 (n + 1) = ("-" ++ Nat.repr (n + 1)).toList
    rw [String.toList_append, Nat.toList_repr]
    rfl

theorem numeral_of_token {decoder : Decoder} {n : Int}
    (few : ¬ decoder.max_str_digits.any (fun most => most < (toString n.natAbs).length) = true) :
    (numeral_of n).token decoder = .value (.int n) := by
  have length : (toString n.natAbs).length = (Nat.toDigits 10 n.natAbs).length := by
    rw [← String.length_toList]
    exact congrArg List.length Nat.toList_repr
  have value : number_of (Nat.toDigits 10 n.natAbs) = n.natAbs := Nat.ofDigitChars_ten_toDigits
  have signed : (if n < 0 then -(n.natAbs : Int) else n.natAbs) = n := by split_ifs <;> omega
  rw [length] at few
  rw [Numeral.token, if_pos ⟨rfl, rfl⟩, numeral_of, if_neg few]
  simp only [decide_eq_true_eq, value, signed]

/-- A float within range that is spelled as its `repr`: with a fraction or an exponent, and read for itself. -/
structure Spelled (decoder : Decoder) (repr : String) (numeral : Numeral) : Prop where
  valid : numeral.Valid
  text : repr.toList = numeral.text
  broken : ¬ (numeral.fraction = [] ∧ numeral.exponent = none)
  finite : infinite (numeral.whole ++ numeral.fraction) numeral.scale = false
  same : decoder.float_repr repr = repr

/-- What `repr` gives for floats. -/
inductive FloatText (decoder : Decoder) : String → Prop where
  | nan : FloatText decoder "nan"
  | inf : FloatText decoder "inf"
  | minus_inf : FloatText decoder "-inf"
  | finite {repr : String} {numeral : Numeral} (spelled : Spelled decoder repr numeral) : FloatText decoder repr

theorem spelled_token {decoder : Decoder} {repr : String} {numeral : Numeral} (spelled : Spelled decoder repr numeral) :
    numeral.token decoder = .value (.float repr) := by
  rw [Numeral.token, if_neg spelled.broken, if_neg (by rw [spelled.finite]; decide), ← spelled.text, String.ofList_toList,
    spelled.same]

end SocTriage.JsonDump
