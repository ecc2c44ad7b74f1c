import SocTriage.Json

/-!
`json.loads` on text: the tokens of the text, and a machine that builds the value from
them with the open containers on a stack. It raises three kinds of exception, each where
the text is read up to: for a text that is no JSON, for an integer with more digits than
may be converted, and for containers nested deeper than the interpreter recurses.
-/
namespace SocTriage.JsonText

inductive LoadError where
  | decode | digits | recursion
deriving DecidableEq, Repr

/-- What the interpreter brings along: how many containers it can be inside of, how many digits an integer may have, and
    `repr(float(literal))` of a literal within the range of floats. -/
structure Decoder where
  recursion : Nat
  max_str_digits : Option Nat
  float_repr : String → String

inductive Token where
  | open_array | close_array | open_object | close_object | colon | comma
  | text (s : String)
  | value (v : Json)
  | too_long
  | bad

/-! ### Tokens -/

def whitespace (c : Char) : Bool := [' ', '\t', '\n', '\r'].contains c

def hex_value (c : Char) : Option Nat :=
  if c.isDigit then some (c.toNat - 48)
  else if 'a' ≤ c ∧ c ≤ 'f' then some (c.toNat - 87)
  else if 'A' ≤ c ∧ c ≤ 'F' then some (c.toNat - 55)
  else none

/-- The code unit of `\uXXXX`. -/
def code_unit (a b c d : Char) : Option Nat := do
  let a ← hex_value a
  let b ← hex_value b
  let c ← hex_value c
  let d ← hex_value d
  return ((a * 16 + b) * 16 + c) * 16 + d

/-- A code unit as a character; a surrogate without its pair is the replacement character here. -/
def unit_char (unit : Nat) : Char := if 0xd800 ≤ unit ∧ unit < 0xe000 then '\ufffd' else Char.ofNat unit

def escaped : Char → Option Char
  | '"' => some '"'
  | '\\' => some '\\'
  | '/' => some '/'
  | 'b' => some (Char.ofNat 8)
  | 'f' => some (Char.ofNat 12)
  | 'n' => some '\n'
  | 'r' => some '\r'
  | 't' => some '\t'
  | _ => none

/-- One more character of a string, so many places long. -/
def prepend (c : Char) (length : Nat) (rest : Option (List Char × Nat)) : Option (List Char × Nat) :=
  rest.map (fun found => (c :: found.1, found.2 + length))

/-- The string that begins behind a quote, and how long it is with its closing quote. -/
def scan_string : List Char → Option (List Char × Nat)
  | '\\' :: 'u' :: a :: b :: c :: d :: '\\' :: 'u' :: a' :: b' :: c' :: d' :: rest =>
    match code_unit a b c d, code_unit a' b' c' d' with
    | some high, some low =>
      if 0xd800 ≤ high ∧ high < 0xdc00 ∧ 0xdc00 ≤ low ∧ low < 0xe000 then
        prepend (Char.ofNat (0x10000 + (high - 0xd800) * 0x400 + (low - 0xdc00))) 12 (scan_string rest)
      else prepend (unit_char high) 6 (scan_string ('\\' :: 'u' :: a' :: b' :: c' :: d' :: rest))
    | _, _ => none
  | '\\' :: 'u' :: a :: b :: c :: d :: rest =>
    match code_unit a b c d with
    | some unit => prepend (unit_char unit) 6 (scan_string rest)
    | none => none
  | '\\' :: e :: rest =>
    match escaped e with
    | some c => prepend c 2 (scan_string rest)
    | none => none
  | '"' :: _ => some ([], 1)
  | c :: rest => if c.toNat < 32 then none else prepend c 1 (scan_string rest)
  | [] => none

def number_of (digits : List Char) : Nat := digits.foldl (fun n c => 10 * n + (c.toNat - 48)) 0

/-- Half way from the greatest float to the next power of two: from there on a literal is infinite. -/
def FLOAT_BOUND : Nat := 2 ^ 1024 - 2 ^ 970

/-- `digits * 10 ^ scale` rounds to infinity. -/
def infinite (digits : List Char) (scale : Int) : Bool :=
  let mantissa := number_of digits
  if mantissa = 0 ∨ (digits.length : Int) + scale < 300 then false
  else if 700 < scale then true
  else if 0 ≤ scale then FLOAT_BOUND ≤ mantissa * 10 ^ scale.toNat
  else FLOAT_BOUND * 10 ^ (-scale).toNat ≤ mantissa

/-- The exponent of a number, without its letter: its sign, its digits, and how long it is with the letter. -/
def scan_exponent : List Char → Bool × List Char × Nat
  | e :: rest =>
    if e = 'e' ∨ e = 'E' then
      let signed := rest.head? = some '+' ∨ rest.head? = some '-'
      let digits := (if signed then rest.drop 1 else rest).takeWhile Char.isDigit
      if digits = [] then (false, [], 0)
      else (rest.head? = some '-', digits, digits.length + (if signed then 2 else 1))
    else (false, [], 0)
  | [] => (false, [], 0)

/-- The fraction digits behind a point, if there are any. -/
def scan_fraction : List Char → List Char
  | '.' :: rest => rest.takeWhile Char.isDigit
  | _ => []

/-- The number a text begins with. -/
def scan_number (decoder : Decoder) (cs : List Char) : Option (Token × Nat) :=
  let negative := cs.head? = some '-'
  let body := if negative then cs.drop 1 else cs
  let whole := if body.head? = some '0' then ['0'] else body.takeWhile Char.isDigit
  if whole = [] then none
  else
    let fraction := scan_fraction (body.drop whole.length)
    let point := if fraction = [] then 0 else fraction.length + 1
    let (down, exponent, length) := scan_exponent (body.drop (whole.length + point))
    let total := (if negative then 1 else 0) + whole.length + point + length
    if fraction = [] ∧ exponent = [] then
      if decoder.max_str_digits.any (fun most => most < whole.length) then some (.too_long, total)
      else some (.value (.int (if negative then -(number_of whole) else number_of whole)), total)
    else
      let scale := (if down then -(number_of exponent : Int) else number_of exponent) - fraction.length
      if infinite (whole ++ fraction) scale then some (.value (.float (if negative then "-inf" else "inf")), total)
      else some (.value (.float (decoder.float_repr (String.ofList (cs.take total)))), total)

def constants : List (String × Json) :=
  [("null", .null), ("true", .bool true), ("false", .bool false), ("NaN", .float "nan"), ("Infinity", .float "inf"),
    ("-Infinity", .float "-inf")]

/-- The token a text begins with, and how long it is. -/
def token_at (decoder : Decoder) : List Char → Token × Nat
  | '[' :: _ => (.open_array, 1)
  | ']' :: _ => (.close_array, 1)
  | '\x7b' :: _ => (.open_object, 1)
  | '\x7d' :: _ => (.close_object, 1)
  | ':' :: _ => (.colon, 1)
  | ',' :: _ => (.comma, 1)
  | '"' :: rest =>
    match scan_string rest with
    | some (s, length) => (.text (String.ofList s), length + 1)
    | none => (.bad, 1)
  | cs =>
    match constants.find? (fun constant => constant.1.toList.isPrefixOf cs) with
    | some constant => (.value constant.2, constant.1.length)
    | none => (scan_number decoder cs).getD (.bad, 1)

/-- The tokens of a text, of which some characters belong to the token before. -/
def tokens (decoder : Decoder) : Nat → List Char → List Token
  | _, [] => []
  | skip + 1, _ :: rest => tokens decoder skip rest
  | 0, c :: rest =>
    if whitespace c then tokens decoder 0 rest
    else
      let (token, length) := token_at decoder (c :: rest)
      token :: tokens decoder (length - 1) rest

/-! ### Values -/

/-- A container that is still open. -/
inductive Frame where
  | items (before : List Json)
  | members (before : JsonObject) (key : String)

/-- What may come next. -/
inductive Awaits where
  | value | first_item | first_key | next_key | colon | separator
  | nothing (result : Json)

structure Machine where
  stack : List Frame := []
  awaits : Awaits := .value

/-- A value is complete. -/
def supply (stack : List Frame) (value : Json) : Machine :=
  match stack with
  | [] => { awaits := .nothing value }
  | .items before :: rest => { stack := .items (before ++ [value]) :: rest, awaits := .separator }
  | .members before key :: rest => { stack := .members (Json.set key value before) key :: rest, awaits := .separator }

/-- A container begins, unless there are too many. -/
def enter (decoder : Decoder) (stack : List Frame) (frame : Frame) (awaits : Awaits) : Except LoadError Machine :=
  if decoder.recursion ≤ stack.length then .error .recursion else .ok { stack := frame :: stack, awaits }

/-- A value begins. -/
def begin_value (decoder : Decoder) (stack : List Frame) : Token → Except LoadError Machine
  | .value v => .ok (supply stack v)
  | .text s => .ok (supply stack (.str s))
  | .open_array => enter decoder stack (.items []) .first_item
  | .open_object => enter decoder stack (.members [] "") .first_key
  | .too_long => .error .digits
  | _ => .error .decode

def machine_step (decoder : Decoder) (machine : Machine) (token : Token) : Except LoadError Machine :=
  match machine.awaits, machine.stack, token with
  | .value, stack, token => begin_value decoder stack token
  | .first_item, .items _ :: rest, .close_array => .ok (supply rest (.arr []))
  | .first_item, stack, token => begin_value decoder stack token
  | .first_key, .members _ _ :: rest, .close_object => .ok (supply rest (.obj []))
  | .first_key, .members before _ :: rest, .text key => .ok { stack := .members before key :: rest, awaits := .colon }
  | .next_key, .members before _ :: rest, .text key => .ok { stack := .members before key :: rest, awaits := .colon }
  | .colon, stack, .colon => .ok { stack, awaits := .value }
  | .separator, .items before :: rest, .comma => .ok { stack := .items before :: rest, awaits := .value }
  | .separator, .items before :: rest, .close_array => .ok (supply rest (.arr before))
  | .separator, .members before key :: rest, .comma => .ok { stack := .members before key :: rest, awaits := .next_key }
  | .separator, .members before _ :: rest, .close_object => .ok (supply rest (.obj before))
  | _, _, _ => .error .decode

/-- `json.loads`. -/
def loads (decoder : Decoder) (text : String) : Except LoadError Json := do
  if text.toList.head? = some '\ufeff' then throw .decode
  let machine ← (tokens decoder 0 text.toList).foldlM (machine_step decoder) {}
  match machine.awaits with
  | .nothing result => return result
  | _ => throw .decode

private def plain : Decoder := { recursion := 3, max_str_digits := some 4, float_repr := id }

example : loads plain "\x7b\"a\": [1, -20, 1.5e3], \"a\": \"x\\u00e9\\n\", \"b\": [null, true]\x7d" =
    .ok (.obj [("a", .str "xé\n"), ("b", .arr [.null, .bool true])]) := by decide +kernel

example : loads plain "[1e400, -1E309, 1e308]" = .ok (.arr [.float "inf", .float "-inf", .float "1e308"]) := by decide +kernel

example : [loads plain "12345", loads plain "[[[[", loads plain "[1,]", loads plain "01", loads plain "[1 2]"] =
    [.error .digits, .error .recursion, .error .decode, .error .decode, .error .decode] := by decide +kernel

end SocTriage.JsonText
