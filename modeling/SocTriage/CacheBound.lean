import SocTriage.CacheReplay

/-!
How many rows the response cache holds. `put` counts and evicts before its own row is in the
table, so the bound is kept exactly as long as no new key is put into a full table.
-/
namespace SocTriage.ResponseCache
open Enrichment

section
variable (formats : Formats) (policy : EnrichmentCachePolicy)

/-- What a put promises: the bound, the record in the table unless it is itself among the
    overflow that expires first, and nothing evicted but that overflow. -/
def Bounded (table : CacheTable) (provider : String) (ioc : IOC) (record : LookupRecord) (now : Datetime) : Prop :=
  (put formats policy table provider ioc record now).rows.length ≤ policy.max_entries ∧
    (definitive record = false → put formats policy table provider ioc record now = table) ∧
    (definitive record = true → ∃ payload, formats.model_dump_json record = some payload ∧
      (written formats policy table provider ioc record now payload ∈
            (put formats policy table provider ioc record now).rows ∨
        written formats policy table provider ioc record now payload ∈
            evict_overflow policy (table.put (written formats policy table provider ioc record now payload))) ∧
      ∀ entry ∈ (table.put (written formats policy table provider ioc record now payload)).rows,
        entry ∉ (put formats policy table provider ioc record now).rows →
          entry ∈ evict_overflow policy (table.put (written formats policy table provider ioc record now payload)))

/-- The operation is no put, or what it promises holds. -/
def Promised (table : CacheTable) : Operation → Prop
  | .put provider ioc record now => Bounded formats policy table provider ioc record now
  | _ => True

/-- The operation puts no definitive record but one that can be written as JSON and whose key is in the
    table already or finds room there. -/
def Fits (table : CacheTable) : Operation → Prop
  | .put provider ioc record _ => definitive record = true →
      (∃ payload, formats.model_dump_json record = some payload) ∧
        (table.get (lookup_key provider ioc) = none → table.rows.length < policy.max_entries)
  | _ => True

/-- Every operation of a run satisfies a predicate in the table it meets. -/
def Throughout (p : CacheTable → Operation → Prop) (table : CacheTable) : List Operation → Prop
  | [] => True
  | operation :: rest => p table operation ∧ Throughout p (apply formats policy table operation) rest
end

variable {formats : Formats} {policy : EnrichmentCachePolicy} {table : CacheTable}

/-! ### One put -/

private theorem length_put (table : CacheTable) (row : EnrichmentCacheEntry) :
    (table.put row).rows.length = if table.get row.lookup = none then table.rows.length + 1 else table.rows.length := by
  have taken : row.lookup ∈ table.rows.map EnrichmentCacheEntry.lookup ↔ ¬ table.get row.lookup = none := by
    rw [Table.get_eq_none, List.mem_map]
    simp only [ne_eq, not_forall, not_not, exists_prop]
  rw [Table.put]
  split
  · rename_i inside
    rw [if_neg (taken.mp inside), List.length_map]
  · rename_i absent
    rw [if_pos (not_not.mp (fun filled => absent (taken.mpr filled))), List.length_append, List.length_singleton]

/-- In a table within the bound nothing is evicted, whatever is put into it. -/
private theorem put_within (within : table.rows.length ≤ policy.max_entries) {provider : String} {ioc : IOC}
    {record : LookupRecord} {now : Datetime} {payload : String} (status : definitive record = true)
    (dumped : formats.model_dump_json record = some payload) :
    put formats policy table provider ioc record now =
      table.put (written formats policy table provider ioc record now payload) := by
  have nothing : evict_overflow policy table = [] := by
    rw [evict_overflow, Nat.sub_eq_zero_of_le within, List.take_zero]
  rw [put, status, dumped]
  simp only [Bool.not_true, Bool.false_eq_true, ↓reduceIte, nothing, List.map_nil, List.contains_nil, Bool.not_false]
  apply Table.ext_rows
  rw [Table.rows_filter, List.filter_true]

/-- A put into a table within the bound keeps what it promises exactly when it fits. -/
theorem bounded_iff (within : table.rows.length ≤ policy.max_entries) (provider : String) (ioc : IOC)
    (record : LookupRecord) (now : Datetime) :
    Bounded formats policy table provider ioc record now ↔
      Fits formats policy table (.put provider ioc record now) := by
  cases status : definitive record with
  | false =>
    have ignored : put formats policy table provider ioc record now = table := by rw [put, status]; rfl
    rw [Bounded, Fits, ignored, status]
    simp [within]
  | true =>
    cases dumped : formats.model_dump_json record with
    | none =>
      rw [Bounded, Fits, status, dumped]
      simp
    | some payload =>
      have after := @put_within formats policy table within provider ioc record now payload status dumped
      have key : (written formats policy table provider ioc record now payload).lookup = lookup_key provider ioc := rfl
      have size := length_put table (written formats policy table provider ioc record now payload)
      rw [key] at size
      constructor
      · rintro ⟨bound, -, -⟩ _
        refine ⟨⟨payload, dumped⟩, fun absent => ?_⟩
        rw [after, size, if_pos absent] at bound
        omega
      · intro fits
        obtain ⟨-, room⟩ := fits status
        refine ⟨?_, fun rejected => absurd (status.symm.trans rejected) (by decide), fun _ => ⟨payload, dumped, ?_, ?_⟩⟩
        · rw [after, size]
          split
          · rename_i absent; exact room absent
          · exact within
        · rw [after]
          exact .inl (Table.get_mem (by rw [Table.get_put, if_pos rfl]))
        · rw [after]
          exact fun entry inside gone => absurd inside gone

/-! ### Runs -/

private theorem apply_within (within : table.rows.length ≤ policy.max_entries) {operation : Operation}
    (promised : Promised formats policy table operation) :
    (apply formats policy table operation).rows.length ≤ policy.max_entries := by
  cases operation with
  | get provider ioc now =>
    have fewer : (get formats table provider ioc now).1.rows.length ≤ table.rows.length := by
      rw [get]
      split
      · exact Nat.le_refl _
      · split
        · exact List.length_filter_le _ _
        · split
          · exact List.length_filter_le _ _
          · exact Nat.le_refl _
    exact fewer.trans within
  | put provider ioc record now => exact promised.1
  | purge_expired now => exact (List.length_filter_le _ _).trans within
  | clear => exact Nat.zero_le _

private theorem promised_iff (within : table.rows.length ≤ policy.max_entries) (operation : Operation) :
    Promised formats policy table operation ↔ Fits formats policy table operation := by
  cases operation with
  | put provider ioc record now => exact bounded_iff within provider ioc record now
  | get _ _ _ => exact Iff.rfl
  | purge_expired _ => exact Iff.rfl
  | clear => exact Iff.rfl

/-- A second address with the same report. -/
def other_address : IOC := { type := .IPV4, value := "198.51.100.9" }

def one_row : EnrichmentCachePolicy := { max_entries := 1 }

end SocTriage.ResponseCache
