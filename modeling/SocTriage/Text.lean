import Mathlib.Data.Char
import Mathlib.Data.List.Basic
import Mathlib.Data.Nat.Digits.Defs
import Mathlib.Tactic.Common

/-!
The string functions of Python's standard library that keys and identifiers are
built with: `str.strip`, `urllib.parse.quote` without safe characters, decimal
numbers with and without padding, and the UTC calendar date of an instant.
-/
namespace SocTriage.Text

/-- What `str.isspace` accepts. -/
def is_space (c : Char) : Bool :=
  (9 ≤ c.toNat && c.toNat ≤ 13) || (28 ≤ c.toNat && c.toNat ≤ 32) || c.toNat == 0x85 || c.toNat == 0xa0 ||
    c.toNat == 0x1680 || (0x2000 ≤ c.toNat && c.toNat ≤ 0x200a) || c.toNat == 0x2028 || c.toNat == 0x2029 ||
    c.toNat == 0x202f || c.toNat == 0x205f || c.toNat == 0x3000

/-- What holds throughout a text is decided by going through the text, not through every character there is. -/
instance (priority := high) decide_text {accepts : Char → Prop} [DecidablePred accepts] (cs : List Char) :
    Decidable (∀ c ∈ cs, accepts c) :=
  List.decidableBAll accepts cs

/-- `str.strip`. -/
def strip (s : String) : String :=
  String.ofList ((s.toList.dropWhile is_space).reverse.dropWhile is_space).reverse

/-- One upper-case hexadecimal digit. -/
def hex_digit (n : Nat) : Char := "0123456789ABCDEF".toList.getD n '0'

/-- The bytes `quote` leaves alone: letters, digits and `_.-~`. -/
def unreserved (n : Nat) : Bool :=
  (48 ≤ n && n ≤ 57) || (65 ≤ n && n ≤ 90) || (97 ≤ n && n ≤ 122) || n == 45 || n == 46 || n == 95 || n == 126

def quote_byte (n : Nat) : List Char :=
  if unreserved n then [Char.ofNat n] else ['%', hex_digit (n / 16), hex_digit (n % 16)]

def quote_chars (cs : List Char) : List Char :=
  cs.flatMap (fun c => (String.utf8EncodeChar c).flatMap (fun b => quote_byte b.toNat))

/-- `urllib.parse.quote(s, safe="")`. -/
def quote (s : String) : String := String.ofList (quote_chars s.toList)

/-- A decimal number of at least `width` digits. -/
def zero_padded (width n : Nat) : String :=
  let digits := (toString n).toList
  String.ofList (List.replicate (width - digits.length) '0' ++ digits)

/-- `int(text)` on plain decimal digits. -/
def parse_decimal (cs : List Char) : Option Nat :=
  if cs.isEmpty || !cs.all Char.isDigit then none
  else some (cs.foldl (fun n c => 10 * n + (c.toNat - 48)) 0)

/-- `text.rsplit(sep, 1)[-1]`: what follows the last separator. -/
def after_last (sep : Char) (cs : List Char) : List Char := (cs.reverse.takeWhile (· ≠ sep)).reverse

/-- `text.startswith(prefix)`, which is what `LIKE 'prefix%'` asks of a prefix without wildcards. -/
def starts_with (start s : String) : Bool := start.toList.isPrefixOf s.toList

/-- The civil date `(year, month, day)` of a day counted from 1970-01-01. -/
def civil_from_days (days : Int) : Int × Nat × Nat :=
  let z := days + 719468
  let era := z / 146097
  let doe := (z - era * 146097).toNat
  let yoe := (doe - doe / 1460 + doe / 36524 - doe / 146096) / 365
  let doy := doe - (365 * yoe + yoe / 4 - yoe / 100)
  let mp := (5 * doy + 2) / 153
  let day := doy - (153 * mp + 2) / 5 + 1
  let month := if mp < 10 then mp + 3 else mp - 9
  let year := (yoe : Int) + era * 400
  (if month ≤ 2 then year + 1 else year, month, day)

/-- `strftime("%Y-%m-%d")` of a wall clock reading in microseconds. -/
def wall_day (wall : Int) : String :=
  let (year, month, day) := civil_from_days (wall / 86400000000)
  zero_padded 4 year.toNat ++ "-" ++ zero_padded 2 month ++ "-" ++ zero_padded 2 day

/-- `isoformat()` of a wall clock reading in microseconds, short of the offset. -/
def wall_isoformat (wall : Int) : String :=
  let micros := (wall % 86400000000).toNat
  let whole := micros / 1000000
  let fraction := micros % 1000000
  wall_day wall ++ "T" ++ zero_padded 2 (whole / 3600) ++ ":" ++ zero_padded 2 (whole / 60 % 60) ++ ":" ++
    zero_padded 2 (whole % 60) ++ (if fraction = 0 then "" else "." ++ zero_padded 6 fraction)

example : quote "57:é" = "57%3A%C3%A9" := by decide

/-! ### Quoted text and separators -/

private theorem hex_digit_ne_colon : ∀ n < 16, hex_digit n ≠ ':' := by decide

private theorem unreserved_ascii {n : Nat} (plain : unreserved n = true) : n < 128 ∧ n ≠ 37 ∧ n ≠ 58 := by
  simp only [unreserved, Bool.or_eq_true, Bool.and_eq_true, decide_eq_true_eq, beq_iff_eq] at plain
  omega

private theorem toNat_ofNat_ascii {n : Nat} (small : n < 128) : (Char.ofNat n).toNat = n := by
  have valid : n.isValidChar := Or.inl (by omega)
  rw [Char.ofNat, dif_pos valid]; rfl

/-- No byte left alone stands for a character `quote` gives a meaning to. -/
private theorem unreserved_char {n : Nat} (plain : unreserved n = true) : Char.ofNat n ≠ '%' ∧ Char.ofNat n ≠ ':' := by
  obtain ⟨small, percent, colon⟩ := unreserved_ascii plain
  have value := toNat_ofNat_ascii small
  constructor <;> intro same <;> rw [same] at value
  · exact percent value.symm
  · exact colon value.symm

private theorem quote_byte_no_colon {n : Nat} (byte : n < 256) : ':' ∉ quote_byte n := by
  rw [quote_byte]
  split
  · rename_i plain
    intro member
    exact (unreserved_char plain).2 (List.mem_singleton.mp member).symm
  · have high := hex_digit_ne_colon (n / 16) (by omega)
    have low := hex_digit_ne_colon (n % 16) (by omega)
    simp [Ne.symm high, Ne.symm low]

/-- A quoted component never contains the separator of the keys. -/
theorem quote_chars_no_colon (cs : List Char) : ':' ∉ quote_chars cs := by
  intro member
  obtain ⟨c, _, inChar⟩ := List.mem_flatMap.mp member
  obtain ⟨b, _, inByte⟩ := List.mem_flatMap.mp inChar
  exact quote_byte_no_colon b.toNat_lt inByte

/-! ### Quoting loses nothing -/

private theorem hex_digit_inj : ∀ n < 16, ∀ m < 16, hex_digit n = hex_digit m → n = m := by decide

private theorem quote_byte_plain {n : Nat} (plain : unreserved n = true) : quote_byte n = [Char.ofNat n] :=
  if_pos plain

private theorem quote_byte_escaped {n : Nat} (special : ¬ unreserved n = true) :
    quote_byte n = ['%', hex_digit (n / 16), hex_digit (n % 16)] :=
  if_neg special

/-- Where a byte's quoted form ends is read off its first character. -/
private theorem quote_byte_append_inj {n m : Nat} (first : n < 256) (second : m < 256) {rest rest' : List Char}
    (same : quote_byte n ++ rest = quote_byte m ++ rest') : n = m ∧ rest = rest' := by
  by_cases left : unreserved n = true <;> by_cases right : unreserved m = true
  · rw [quote_byte_plain left, quote_byte_plain right, List.singleton_append, List.singleton_append,
      List.cons.injEq] at same
    refine ⟨?_, same.2⟩
    rw [← toNat_ofNat_ascii (unreserved_ascii left).1, same.1, toNat_ofNat_ascii (unreserved_ascii right).1]
  · rw [quote_byte_plain left, quote_byte_escaped right, List.singleton_append, List.cons_append,
      List.cons.injEq] at same
    exact absurd same.1 (unreserved_char left).1
  · rw [quote_byte_escaped left, quote_byte_plain right, List.singleton_append, List.cons_append,
      List.cons.injEq] at same
    exact absurd same.1.symm (unreserved_char right).1
  · simp only [quote_byte_escaped left, quote_byte_escaped right, List.cons_append, List.nil_append,
      List.cons.injEq, true_and] at same
    obtain ⟨high, low, rests⟩ := same
    have highs := hex_digit_inj (n / 16) (by omega) (m / 16) (by omega) high
    have lows := hex_digit_inj (n % 16) (by omega) (m % 16) (by omega) low
    exact ⟨by omega, rests⟩

private theorem quote_byte_ne_nil (n : Nat) : quote_byte n ≠ [] := by
  rw [quote_byte]; split <;> simp

private theorem quote_bytes_inj {bytes bytes' : List UInt8}
    (same : bytes.flatMap (fun b => quote_byte b.toNat) = bytes'.flatMap (fun b => quote_byte b.toNat)) :
    bytes = bytes' := by
  induction bytes generalizing bytes' with
  | nil =>
    cases bytes' with
    | nil => rfl
    | cons b rest =>
      simp only [List.flatMap_nil, List.flatMap_cons, List.nil_eq, List.append_eq_nil_iff] at same
      exact absurd same.1 (quote_byte_ne_nil _)
  | cons b rest ih =>
    cases bytes' with
    | nil =>
      simp only [List.flatMap_nil, List.flatMap_cons, List.append_eq_nil_iff] at same
      exact absurd same.1 (quote_byte_ne_nil _)
    | cons b' rest' =>
      rw [List.flatMap_cons, List.flatMap_cons] at same
      obtain ⟨heads, tails⟩ := quote_byte_append_inj b.toNat_lt b'.toNat_lt same
      rw [UInt8.toNat_inj.mp heads, ih tails]

private theorem encoded_inj {cs cs' : List Char}
    (same : cs.flatMap String.utf8EncodeChar = cs'.flatMap String.utf8EncodeChar) : cs = cs' := by
  have bytes : (String.ofList cs).toByteArray = (String.ofList cs').toByteArray := by
    show cs.utf8Encode = cs'.utf8Encode
    rw [List.utf8Encode, List.utf8Encode, same]
  have texts := congrArg String.toList (String.toByteArray_inj.mp bytes)
  rwa [String.toList_ofList, String.toList_ofList] at texts

theorem toList_quote (s : String) : (quote s).toList = quote_chars s.toList := String.toList_ofList

/-- Quoted components are equal only when the components are. -/
theorem quote_chars_inj {s t : String} (same : quote_chars s.toList = quote_chars t.toList) : s = t := by
  rw [quote_chars, quote_chars, ← List.flatMap_assoc, ← List.flatMap_assoc] at same
  exact String.toList_inj.mp (encoded_inj (quote_bytes_inj same))

/-- Only a character that is no letter is its own lower case and that of no other. -/
theorem toLower_eq_iff {c d : Char} (other : d.isAlpha = false) : c.toLower = d ↔ c = d := by
  have range : ¬ (65 ≤ d.toNat ∧ d.toNat ≤ 90) ∧ ¬ (97 ≤ d.toNat ∧ d.toNat ≤ 122) := by
    change (decide (d.val ≥ 65 ∧ d.val ≤ 90) || (decide (d.val ≥ 97) && decide (d.val ≤ 122))) = false at other
    simp only [Bool.or_eq_false_iff, Bool.and_eq_false_iff, decide_eq_false_iff_not, ge_iff_le,
      UInt32.le_iff_toNat_le] at other
    have bounds : (97 : UInt32).toNat = 97 ∧ (122 : UInt32).toNat = 122 ∧ (65 : UInt32).toNat = 65 ∧
      (90 : UInt32).toNat = 90 := by decide
    change ¬ (65 ≤ d.val.toNat ∧ d.val.toNat ≤ 90) ∧ ¬ (97 ≤ d.val.toNat ∧ d.val.toNat ≤ 122)
    omega
  have bounds : ('A'.val).toNat = 65 ∧ ('Z'.val).toNat = 90 := by decide
  have shift : ('a'.val - 'A'.val).toNat = 32 := by decide
  change ¬ (65 ≤ d.val.toNat ∧ d.val.toNat ≤ 90) ∧ ¬ (97 ≤ d.val.toNat ∧ d.val.toNat ≤ 122) at range
  delta Char.toLower
  by_cases upper : c.val ≥ 'A'.val ∧ c.val ≤ 'Z'.val
  · rw [dif_pos upper]
    obtain ⟨low, high⟩ := upper
    rw [ge_iff_le, UInt32.le_iff_toNat_le] at low
    rw [UInt32.le_iff_toNat_le] at high
    refine iff_of_false (fun same => ?_) (fun same => ?_)
    · have value : (c.val + ('a'.val - 'A'.val)).toNat = d.val.toNat := congrArg (fun e : Char => e.val.toNat) same
      rw [UInt32.toNat_add, shift] at value
      omega
    · rw [same] at low high
      omega
  · rw [dif_neg upper]

/-- A word that lacks a character does not reach over it. -/
theorem infix_apart {c : Char} {word left right : List Char} (absent : c ∉ word) :
    word <:+: left ++ c :: right ↔ word <:+: left ∨ word <:+: right := by
  constructor
  · rintro ⟨before, after, same⟩
    rcases List.append_eq_append_iff.mp same with ⟨rest, whole, -⟩ | ⟨rest, whole, tail⟩
    · exact .inl ⟨before, rest, whole.symm⟩
    · cases rest with
      | nil => exact .inl ⟨before, [], by rw [List.append_nil, whole, List.append_nil]⟩
      | cons d rest =>
        rw [List.cons_append, List.cons.injEq] at tail
        obtain ⟨rfl, tail⟩ := tail
        rcases List.append_eq_append_iff.mp whole with ⟨start, -, cut⟩ | ⟨start, -, cut⟩
        · refine absurd ?_ absent
          rw [cut]
          simp
        · cases start with
          | nil =>
            refine absurd ?_ absent
            rw [List.nil_append] at cut
            rw [← cut]
            exact List.mem_cons_self
          | cons e start =>
            rw [List.cons_append, List.cons.injEq] at cut
            exact .inr ⟨start, after, by rw [tail, cut.2]⟩
  · rintro (⟨before, after, rfl⟩ | ⟨before, after, rfl⟩)
    · exact ⟨before, after ++ c :: right, by simp⟩
    · exact ⟨left ++ c :: before, after, by simp⟩

/-- Text is split at the first separator in one way. -/
theorem split_at_separator {sep : Char} {a a' b b' : List Char} (left : sep ∉ a) (right : sep ∉ a')
    (same : a ++ sep :: b = a' ++ sep :: b') : a = a' ∧ b = b' := by
  induction a generalizing a' with
  | nil =>
    cases a' with
    | nil => simpa using same
    | cons c rest =>
      rw [List.nil_append, List.cons_append, List.cons.injEq] at same
      exact absurd (List.mem_cons.mpr (.inl same.1)) right
  | cons c rest ih =>
    cases a' with
    | nil =>
      rw [List.nil_append, List.cons_append, List.cons.injEq] at same
      exact absurd (List.mem_cons.mpr (.inl same.1.symm)) left
    | cons c' rest' =>
      rw [List.cons_append, List.cons_append, List.cons.injEq] at same
      obtain ⟨heads, tails⟩ := ih (fun member => left (List.mem_cons_of_mem _ member))
        (fun member => right (List.mem_cons_of_mem _ member)) same.2
      exact ⟨by rw [same.1, heads], tails⟩

/-! ### Decimal numbers -/

theorem zero_padded_digits (width n : Nat) : ∀ c ∈ (zero_padded width n).toList, c.isDigit = true := by
  intro c inside
  rw [zero_padded] at inside
  simp only [String.toList_ofList, List.mem_append, List.mem_replicate] at inside
  rcases inside with ⟨_, rfl⟩ | inside
  · rfl
  · have digits : (toString n).toList = Nat.toDigits 10 n := Nat.toList_repr
    rw [digits] at inside
    exact Nat.isDigit_of_mem_toDigits (by decide) (by decide) inside

theorem zero_padded_ne_nil (width n : Nat) : (zero_padded width n).toList ≠ [] := by
  rw [zero_padded]
  simp only [String.toList_ofList, ne_eq, List.append_eq_nil_iff, not_and]
  intro _
  have digits : (toString n).toList = Nat.toDigits 10 n := Nat.toList_repr
  rw [digits]
  exact Nat.toDigits_ne_nil

theorem toList_zero_padded (width n : Nat) :
    (zero_padded width n).toList = List.replicate (width - (Nat.toDigits 10 n).length) '0' ++ Nat.toDigits 10 n := by
  have digits : (toString n).toList = Nat.toDigits 10 n := Nat.toList_repr
  rw [zero_padded, String.toList_ofList, digits]

/-- A padded number is read back as that number. -/
theorem parse_decimal_zero_padded (width n : Nat) : parse_decimal (zero_padded width n).toList = some n := by
  have all : (zero_padded width n).toList.all Char.isDigit = true := List.all_eq_true.mpr (zero_padded_digits width n)
  have filled : (zero_padded width n).toList.isEmpty = false := by
    cases digits : (zero_padded width n).toList with
    | nil => exact absurd digits (zero_padded_ne_nil width n)
    | cons => rfl
  have value : (zero_padded width n).toList.foldl (fun n c => 10 * n + (c.toNat - 48)) 0 = n := by
    have read := @Nat.ofDigitChars_append 10 (List.replicate (width - (Nat.toDigits 10 n).length) '0') (Nat.toDigits 10 n) 0
    rw [Nat.ofDigitChars_replicate_zero, Nat.mul_zero, Nat.ofDigitChars_ten_toDigits, ← toList_zero_padded] at read
    exact read
  rw [parse_decimal, all, filled, value]
  rfl

/-- What follows a separator that does not come again is the last part. -/
theorem after_last_append {sep : Char} (cs : List Char) {tail : List Char} (plain : sep ∉ tail) :
    after_last sep (cs ++ sep :: tail) = tail := by
  have kept : ∀ c ∈ tail.reverse, decide (c ≠ sep) = true := by
    intro c inside
    rw [decide_eq_true_eq]
    rintro rfl
    exact plain (List.mem_reverse.mp inside)
  rw [after_last, List.reverse_append, List.reverse_cons, List.append_assoc, List.takeWhile_append_of_pos kept]
  simp

/-! ### The order of numbers as text -/

private theorem digit_range {c : Char} (digit : c.isDigit = true) : 48 ≤ c.toNat ∧ c.toNat ≤ 57 := by
  rw [Char.isDigit, Bool.and_eq_true, decide_eq_true_eq, decide_eq_true_eq] at digit
  exact ⟨UInt32.le_iff_toNat_le.mp digit.1, UInt32.le_iff_toNat_le.mp digit.2⟩

private theorem value_cons (c : Char) (cs : List Char) :
    Nat.ofDigitChars 10 (c :: cs) 0 = 10 ^ cs.length * (c.toNat - 48) + Nat.ofDigitChars 10 cs 0 := by
  have zero : '0'.toNat = 48 := rfl
  rw [Nat.ofDigitChars_cons, Nat.ofDigitChars_eq_ofDigitChars_zero, zero, Nat.mul_zero, Nat.zero_add]

private theorem value_lt {cs : List Char} (digits : ∀ c ∈ cs, c.isDigit = true) :
    Nat.ofDigitChars 10 cs 0 < 10 ^ cs.length := by
  induction cs with
  | nil => decide
  | cons c rest ih =>
    have tail := ih (fun d inside => digits d (List.mem_cons_of_mem _ inside))
    have range := digit_range (digits c (List.mem_cons_self ..))
    have head : 10 ^ rest.length * (c.toNat - 48) ≤ 10 ^ rest.length * 9 := Nat.mul_le_mul_left _ (by omega)
    rw [value_cons, List.length_cons, Nat.pow_succ]
    omega

/-- Numbers of one length are in the order of their text. -/
theorem digits_lt_iff {cs ds : List Char} (long : cs.length = ds.length) (left : ∀ c ∈ cs, c.isDigit = true)
    (right : ∀ d ∈ ds, d.isDigit = true) : cs < ds ↔ Nat.ofDigitChars 10 cs 0 < Nat.ofDigitChars 10 ds 0 := by
  induction cs generalizing ds with
  | nil =>
    cases ds with
    | nil => simp
    | cons => simp at long
  | cons c cs ih =>
    cases ds with
    | nil => simp at long
    | cons d ds =>
      have long : cs.length = ds.length := Nat.succ.inj long
      have tails := ih long (fun e inside => left e (List.mem_cons_of_mem _ inside))
        (fun e inside => right e (List.mem_cons_of_mem _ inside))
      have below := value_lt (fun e inside => left e (List.mem_cons_of_mem _ inside))
      have below' := value_lt (fun e inside => right e (List.mem_cons_of_mem _ inside))
      have range := digit_range (left c (List.mem_cons_self ..))
      have range' := digit_range (right d (List.mem_cons_self ..))
      rw [List.cons_lt_cons_iff, value_cons, value_cons, tails, long]
      rw [long] at below
      rcases lt_trichotomy c d with before | rfl | after
      · have heads : c.toNat < d.toNat := before
        have step : 10 ^ ds.length * (c.toNat - 48 + 1) ≤ 10 ^ ds.length * (d.toNat - 48) := Nat.mul_le_mul_left _ (by omega)
        rw [Nat.mul_add, Nat.mul_one] at step
        exact iff_of_true (.inl before) (by omega)
      · simp
      · have heads : d.toNat < c.toNat := after
        have step : 10 ^ ds.length * (d.toNat - 48 + 1) ≤ 10 ^ ds.length * (c.toNat - 48) := Nat.mul_le_mul_left _ (by omega)
        rw [Nat.mul_add, Nat.mul_one] at step
        refine iff_of_false ?_ (by omega)
        rintro (before | ⟨same, _⟩)
        · exact lt_asymm before after
        · exact absurd same (ne_of_gt after)

theorem append_lt_append_iff (start cs ds : List Char) : start ++ cs < start ++ ds ↔ cs < ds := by
  induction start with
  | nil => rfl
  | cons c rest ih => rw [List.cons_append, List.cons_append, List.cons_lt_cons_iff, ih]; simp

/-- A smaller text of the same length stays smaller whatever follows it. -/
private theorem append_lt {cs ds : List Char} (long : cs.length = ds.length) (below : cs < ds) (tail : List Char) :
    cs ++ tail < ds := by
  induction cs generalizing ds with
  | nil =>
    cases ds with
    | nil => exact absurd below (List.not_lt_nil _)
    | cons => simp at long
  | cons c cs ih =>
    cases ds with
    | nil => simp at long
    | cons d ds =>
      rw [List.cons_append, List.cons_lt_cons_iff]
      rw [List.cons_lt_cons_iff] at below
      exact below.imp id (fun both => ⟨both.1, ih (Nat.succ.inj long) both.2⟩)

theorem length_zero_padded (width n : Nat) :
    (zero_padded width n).toList.length = max width (Nat.toDigits 10 n).length := by
  rw [toList_zero_padded, List.length_append, List.length_replicate]
  omega

private theorem value_zero_padded (width n : Nat) : Nat.ofDigitChars 10 (zero_padded width n).toList 0 = n := by
  rw [toList_zero_padded, Nat.ofDigitChars_append, Nat.ofDigitChars_replicate_zero, Nat.mul_zero,
    Nat.ofDigitChars_ten_toDigits]

private theorem length_pow (k : Nat) : (Nat.toDigits 10 (10 ^ k)).length = k + 1 := by
  have most : (Nat.toDigits 10 (10 ^ k)).length ≤ k + 1 :=
    (Nat.length_toDigits_le_iff (by decide) (by omega)).mpr (Nat.pow_lt_pow_right (by decide) (by omega))
  have least : ¬(Nat.toDigits 10 (10 ^ k)).length ≤ k := by
    rcases Nat.eq_zero_or_pos k with rfl | large
    · decide
    · intro short
      exact absurd ((Nat.length_toDigits_le_iff (by decide) large).mp short) (Nat.lt_irrefl _)
  omega

/-- Numbers that the width has room for are in the order of their text. -/
theorem zero_padded_lt_iff {width a b : Nat} (left : a < 10 ^ width) (right : b < 10 ^ width) (room : 0 < width) :
    (zero_padded width a).toList < (zero_padded width b).toList ↔ a < b := by
  have fits : ∀ {n}, n < 10 ^ width → (zero_padded width n).toList.length = width := by
    intro n small
    have short := (Nat.length_toDigits_le_iff (b := 10) (by decide) room).mpr small
    rw [length_zero_padded]
    omega
  rw [digits_lt_iff ((fits left).trans (fits right).symm) (zero_padded_digits width a) (zero_padded_digits width b),
    value_zero_padded, value_zero_padded]

/-- Text in front of a separator that is smaller than all of it: it decides, and where it is the same what follows does. -/
theorem separated_lt_iff {sep : Char} {cs ds : List Char} (left : ∀ c ∈ cs, sep < c) (right : ∀ d ∈ ds, sep < d)
    (tail tail' : List Char) : cs ++ sep :: tail < ds ++ sep :: tail' ↔ cs < ds ∨ cs = ds ∧ tail < tail' := by
  induction cs generalizing ds with
  | nil =>
    cases ds with
    | nil => simp
    | cons d ds =>
      have below := right d List.mem_cons_self
      rw [List.nil_append, List.cons_append, List.cons_lt_cons_iff]
      simp [below]
  | cons c cs ih =>
    have above := left c List.mem_cons_self
    cases ds with
    | nil =>
      rw [List.cons_append, List.nil_append, List.cons_lt_cons_iff]
      simp [lt_asymm above, ne_of_gt above]
    | cons d ds =>
      rw [List.cons_append, List.cons_append, List.cons_lt_cons_iff, List.cons_lt_cons_iff, List.cons.injEq,
        ih (fun e inside => left e (List.mem_cons_of_mem _ inside)) (fun e inside => right e (List.mem_cons_of_mem _ inside))]
      tauto

/-- The next number is greater as text too, unless it takes a digit more than there is room for. -/
theorem zero_padded_succ_lt_iff {width : Nat} (room : 0 < width) (n : Nat) :
    (zero_padded width n).toList < (zero_padded width (n + 1)).toList ↔ ∀ k ≥ width, n + 1 ≠ 10 ^ k := by
  have digits : ∀ c ∈ (zero_padded width n).toList, c.isDigit = true := zero_padded_digits width n
  have digits' : ∀ c ∈ (zero_padded width (n + 1)).toList, c.isDigit = true := zero_padded_digits width (n + 1)
  constructor
  · intro below k wide power
    obtain ⟨j, rfl⟩ : ∃ j, k = j + 1 := ⟨k - 1, by omega⟩
    -- 9…9 against 10…0: already the first `k` characters of the longer text are smaller
    have split : (zero_padded width (n + 1)).toList = Nat.toDigits 10 (10 ^ j) ++ ['0'] := by
      have large : 10 ≤ 10 ^ (j + 1) := Nat.le_self_pow (by omega) 10
      have ten : 10 ^ (j + 1) = 10 ^ j * 10 := Nat.pow_succ ..
      rw [toList_zero_padded, power, length_pow, show width - (j + 1 + 1) = 0 by omega, List.replicate_zero, List.nil_append,
        Nat.toDigits_of_base_le (by decide) large, ten, Nat.mul_div_cancel _ (by decide), Nat.mul_mod_left]
      rfl
    have long : (Nat.toDigits 10 (10 ^ j)).length = (zero_padded width n).toList.length := by
      have most : (Nat.toDigits 10 n).length ≤ j + 1 :=
        (Nat.length_toDigits_le_iff (by decide) (by omega)).mpr (by omega)
      have least : 0 < j → ¬(Nat.toDigits 10 n).length ≤ j := by
        intro large
        have ten : 10 ^ (j + 1) = 10 ^ j * 10 := Nat.pow_succ ..
        have unit : 1 ≤ 10 ^ j := Nat.one_le_pow _ _ (by decide)
        rw [Nat.length_toDigits_le_iff (by decide) large]
        omega
      rw [length_pow, length_zero_padded]
      omega
    have smaller : Nat.toDigits 10 (10 ^ j) < (zero_padded width n).toList := by
      rw [digits_lt_iff long (fun c inside => Nat.isDigit_of_mem_toDigits (by decide) (by decide) inside) digits,
        Nat.ofDigitChars_ten_toDigits, value_zero_padded]
      have ten : 10 ^ (j + 1) = 10 ^ j * 10 := Nat.pow_succ ..
      have unit : 1 ≤ 10 ^ j := Nat.one_le_pow _ _ (by decide)
      omega
    have after := append_lt long smaller ['0']
    rw [← split] at after
    exact List.lt_asymm below after
  · intro no_power
    have long : (zero_padded width n).toList.length = (zero_padded width (n + 1)).toList.length := by
      rw [length_zero_padded, length_zero_padded]
      have grows : (Nat.toDigits 10 n).length ≤ (Nat.toDigits 10 (n + 1)).length :=
        (Nat.length_toDigits_le_iff (by decide) Nat.length_toDigits_pos).mpr
          (Nat.lt_of_succ_lt ((Nat.length_toDigits_le_iff (by decide) Nat.length_toDigits_pos).mp (Nat.le_refl _)))
      have below : n < 10 ^ max width (Nat.toDigits 10 n).length :=
        (Nat.length_toDigits_le_iff (by decide) (by omega)).mp (by omega)
      have differs := no_power (max width (Nat.toDigits 10 n).length) (by omega)
      have fits : (Nat.toDigits 10 (n + 1)).length ≤ max width (Nat.toDigits 10 n).length :=
        (Nat.length_toDigits_le_iff (by decide) (by omega)).mpr (by omega)
      omega
    rw [digits_lt_iff long digits digits', value_zero_padded, value_zero_padded]
    exact Nat.lt_succ_self n

/-! ### Stripping -/

/-- Text without white space is stripped already. -/
theorem strip_of_plain {s : String} (plain : ∀ c ∈ s.toList, is_space c = false) : strip s = s := by
  have unchanged : ∀ cs : List Char, (∀ c ∈ cs, is_space c = false) → cs.dropWhile is_space = cs := by
    intro cs plain
    cases cs with
    | nil => rfl
    | cons c rest => rw [List.dropWhile_cons_of_neg (by rw [plain c List.mem_cons_self]; exact Bool.false_ne_true)]
  rw [strip, unchanged _ plain, unchanged _ (fun c inside => plain c (List.mem_reverse.mp inside)), List.reverse_reverse,
    String.ofList_toList]

theorem strip_zero_padded (width n : Nat) : strip (zero_padded width n) = zero_padded width n := by
  refine strip_of_plain (fun c inside => ?_)
  have range := digit_range (zero_padded_digits width n c inside)
  by_contra space
  simp only [is_space, Bool.not_eq_false, Bool.or_eq_true, Bool.and_eq_true, decide_eq_true_eq, beq_iff_eq] at space
  omega

/-- Text with more than white space in it is not stripped to nothing. -/
theorem strip_ne_empty {s : String} {c : Char} (inside : c ∈ s.toList) (plain : is_space c = false) : strip s ≠ "" := by
  have stays : ∀ cs : List Char, c ∈ cs → c ∈ cs.dropWhile is_space := by
    intro cs inside
    rw [← List.takeWhile_append_dropWhile (p := is_space) (l := cs), List.mem_append] at inside
    rcases inside with spaces | rest
    · rw [List.all_eq_true.mp (List.all_takeWhile ..) c spaces] at plain
      contradiction
    · exact rest
  have left := stays _ (List.mem_reverse.mpr (stays _ inside))
  intro blank
  have blank := congrArg String.toList blank
  rw [strip, String.toList_ofList, String.toList_empty, List.reverse_eq_nil_iff] at blank
  rw [blank] at left
  exact absurd left List.not_mem_nil

end SocTriage.Text
