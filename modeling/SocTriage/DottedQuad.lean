import SocTriage.Normalize

/-!
IPv4 addresses in dotted-quad form: an address is read back from how it is written, so an
address that is allowed is its own normal form (`normalize_ipv4_fixed`).
-/
namespace SocTriage.DottedQuad
open Normalize

/-- An address of 32 bits as it is written. -/
def Address (cs : List Char) : Prop := ∃ address < 2 ^ 32, cs = ipv4_str address

/-! ### Numbers -/

theorem decimal_digits (n : Nat) : ∀ c ∈ decimal n, c.isDigit = true := by
  intro c inside
  have digits : (toString n).toList = Nat.toDigits 10 n := Nat.toList_repr
  rw [decimal, digits] at inside
  exact Nat.isDigit_of_mem_toDigits (by decide) (by decide) inside

theorem decimal_ne_nil (n : Nat) : decimal n ≠ [] := by
  have digits : (toString n).toList = Nat.toDigits 10 n := Nat.toList_repr
  rw [decimal, digits]
  exact Nat.toDigits_ne_nil

theorem parse_decimal_decimal (n : Nat) : Text.parse_decimal (decimal n) = some n := by
  have unpadded : (Text.zero_padded 0 n).toList = decimal n := by
    rw [Text.zero_padded, String.toList_ofList, Nat.zero_sub]
    rfl
  rw [← unpadded]
  exact Text.parse_decimal_zero_padded 0 n

private theorem octet_decimal : ∀ n < 256, octet (decimal n) = some n := by decide +kernel

private theorem octet_le {cs : List Char} {n : Nat} (read : octet cs = some n) : n ≤ 255 := by
  rw [octet] at read
  split at read
  · cases read
  · split at read
    · cases read
    · split at read
      · cases read
        assumption
      · cases read

/-! ### Addresses -/

private theorem no_dot (n : Nat) : '.' ∉ decimal n :=
  fun inside => absurd (decimal_digits n '.' inside) (by decide)

/-- An address that is read is one of 32 bits. -/
theorem IPv4Address_lt {text : List Char} {address : Nat} (read : IPv4Address text = some address) : address < 2 ^ 32 := by
  rw [IPv4Address] at read
  split at read
  · rename_i a b c d octets
    cases read
    have all : ∀ n, some n ∈ (text.splitOn '.').map octet → n ≤ 255 := by
      intro n listed
      obtain ⟨part, -, found⟩ := List.mem_map.mp listed
      exact octet_le found
    rw [octets] at all
    have first := all a (by simp)
    have second := all b (by simp)
    have third := all c (by simp)
    have fourth := all d (by simp)
    rw [ipv4_address]
    omega
  · cases read

/-- An address is read back from how it is written. -/
theorem IPv4Address_str {address : Nat} (bounded : address < 2 ^ 32) : IPv4Address (ipv4_str address) = some address := by
  have parts : (ipv4_str address).splitOn '.' = [decimal (address / 16777216), decimal (address / 65536 % 256),
      decimal (address / 256 % 256), decimal (address % 256)] := by
    rw [ipv4_str, List.splitOn_append_cons_self, List.splitOn_append_cons_self, List.splitOn_append_cons_self,
      List.splitOn_eq_singleton (no_dot _), List.splitOn_eq_singleton (no_dot _), List.splitOn_eq_singleton (no_dot _),
      List.splitOn_eq_singleton (no_dot _)]
    rfl
  rw [IPv4Address, parts, List.map_cons, List.map_cons, List.map_cons, List.map_cons, List.map_nil,
    octet_decimal _ (by omega), octet_decimal _ (by omega), octet_decimal _ (by omega), octet_decimal _ (by omega)]
  dsimp only
  rw [ipv4_address, Option.some.injEq]
  omega

/-- An address is written with digits and dots, a digit at each end. -/
theorem Address.chars {cs : List Char} (address : Address cs) :
    (∀ c ∈ cs, c.isDigit = true ∨ c = '.') ∧ (∃ c rest, cs = c :: rest ∧ c.isDigit = true) ∧
      ∃ c, cs.getLast? = some c ∧ c.isDigit = true := by
  obtain ⟨n, -, rfl⟩ := address
  refine ⟨fun c inside => ?_, ?_, ?_⟩
  · simp only [ipv4_str, List.mem_append, List.mem_cons] at inside
    rcases inside with inside | rfl | inside | rfl | inside | rfl | inside
    · exact .inl (decimal_digits _ c inside)
    · exact .inr rfl
    · exact .inl (decimal_digits _ c inside)
    · exact .inr rfl
    · exact .inl (decimal_digits _ c inside)
    · exact .inr rfl
    · exact .inl (decimal_digits _ c inside)
  · rw [ipv4_str]
    cases digits : decimal (n / 16777216) with
    | nil => exact absurd digits (decimal_ne_nil _)
    | cons c rest =>
      refine ⟨c, _, rfl, decimal_digits (n / 16777216) c ?_⟩
      rw [digits]
      exact List.mem_cons_self
  · have nonempty := decimal_ne_nil (n % 256)
    refine ⟨(decimal (n % 256)).getLast nonempty, ?_, decimal_digits _ _ (List.getLast_mem nonempty)⟩
    rw [ipv4_str, List.getLast?_append_of_ne_nil _ (List.cons_ne_nil _ _), ← List.singleton_append,
      List.getLast?_append_of_ne_nil _ (by simp), List.getLast?_append_of_ne_nil _ (List.cons_ne_nil _ _),
      ← List.singleton_append, List.getLast?_append_of_ne_nil _ (by simp),
      List.getLast?_append_of_ne_nil _ (List.cons_ne_nil _ _), ← List.singleton_append,
      List.getLast?_append_of_ne_nil _ nonempty, List.getLast?_eq_some_getLast nonempty]

end SocTriage.DottedQuad
