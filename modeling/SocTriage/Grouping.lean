import Mathlib.Data.List.Induction
import Mathlib.Data.List.Nodup

/-!
Values grouped by key in the order in which they come, each key and each value of a key
once: a dictionary of ordered sets. Nothing is lost and nothing is mixed up, whatever came
in between (`groups_group`).
-/
namespace SocTriage.Grouping

section
variable {κ α : Type}

/-- The groups hold the entries, and no key or value twice. -/
structure Groups (entries : List (κ × α)) (groups : List (κ × List α)) : Prop where
  keys : (groups.map Prod.fst).Nodup
  once : ∀ row ∈ groups, row.2.Nodup
  inhabited : ∀ row ∈ groups, row.2 ≠ []
  exact : ∀ key value, (∃ row ∈ groups, row.1 = key ∧ value ∈ row.2) ↔ (key, value) ∈ entries

theorem Groups.row_mem {entries : List (κ × α)} {groups : List (κ × List α)} (known : Groups entries groups)
    {row : κ × List α} (listed : row ∈ groups) (value : α) : value ∈ row.2 ↔ (row.1, value) ∈ entries := by
  rw [← known.exact]
  constructor
  · exact fun inside => ⟨row, listed, rfl, inside⟩
  · rintro ⟨other, listed', same, inside⟩
    rwa [List.inj_on_of_nodup_map known.keys listed' listed same] at inside

theorem Groups.has_key {entries : List (κ × α)} {groups : List (κ × List α)} (known : Groups entries groups) (key : κ) :
    key ∈ groups.map Prod.fst ↔ ∃ value, (key, value) ∈ entries := by
  rw [List.mem_map]
  constructor
  · rintro ⟨row, listed, rfl⟩
    obtain ⟨value, inside⟩ := List.exists_mem_of_ne_nil _ (known.inhabited row listed)
    exact ⟨value, (known.row_mem listed value).mp inside⟩
  · rintro ⟨value, entered⟩
    obtain ⟨row, listed, same, -⟩ := (known.exact key value).mpr entered
    exact ⟨row, listed, same⟩
end

section
variable {κ α : Type} [DecidableEq κ] [DecidableEq α]

/-- A value put into the set of its key. -/
def put (key : κ) (value : α) : List (κ × List α) → List (κ × List α)
  | [] => [(key, [value])]
  | (k, values) :: rest =>
    if k = key then (k, if value ∈ values then values else values ++ [value]) :: rest
    else (k, values) :: put key value rest

def group (entries : List (κ × α)) : List (κ × List α) :=
  entries.foldl (fun groups entry => put entry.1 entry.2 groups) []

private theorem keys_put (key : κ) (value : α) (groups : List (κ × List α)) : (put key value groups).map Prod.fst =
    if key ∈ groups.map Prod.fst then groups.map Prod.fst else groups.map Prod.fst ++ [key] := by
  induction groups with
  | nil => simp [put]
  | cons row rest ih =>
    by_cases same : row.1 = key
    · simp [put, same]
    · by_cases listed : key ∈ rest.map Prod.fst
      · rw [if_pos listed] at ih
        rw [put, if_neg same, List.map_cons, ih, List.map_cons, if_pos (List.mem_cons_of_mem _ listed)]
      · rw [if_neg listed] at ih
        rw [put, if_neg same, List.map_cons, ih, List.map_cons, if_neg]
        · rfl
        · simpa [Ne.symm same] using listed

private theorem row_put {p : List α → Prop} {key : κ} {value : α} {groups : List (κ × List α)} (fresh : p [value])
    (added : ∀ values, p values → p (if value ∈ values then values else values ++ [value])) (all : ∀ row ∈ groups, p row.2) :
    ∀ row ∈ put key value groups, p row.2 := by
  induction groups with
  | nil => simpa [put] using fresh
  | cons row rest ih =>
    rw [List.forall_mem_cons] at all
    by_cases same : row.1 = key
    · rw [put, if_pos same, List.forall_mem_cons]
      exact ⟨added _ all.1, all.2⟩
    · rw [put, if_neg same, List.forall_mem_cons]
      exact ⟨all.1, ih all.2⟩

private theorem held_put (key : κ) (value : α) (groups : List (κ × List α)) (k : κ) (v : α) :
    (∃ row ∈ put key value groups, row.1 = k ∧ v ∈ row.2) ↔
      (∃ row ∈ groups, row.1 = k ∧ v ∈ row.2) ∨ (key = k ∧ v = value) := by
  induction groups with
  | nil => simp [put]
  | cons row rest ih =>
    by_cases same : row.1 = key
    · have held : v ∈ (if value ∈ row.2 then row.2 else row.2 ++ [value]) ↔ v ∈ row.2 ∨ v = value := by
        split
        · rename_i inside
          exact ⟨.inl, fun either => either.elim id (fun same => same ▸ inside)⟩
        · simp
      rw [put, if_pos same]
      simp only [List.mem_cons, or_and_right, exists_or, exists_eq_left, held, and_or_left, same]
      rw [or_assoc, or_assoc]
      exact or_congr_right or_comm
    · rw [put, if_neg same]
      simp only [List.mem_cons, or_and_right, exists_or, exists_eq_left, ih, or_assoc]

private theorem nodup_snoc {β : Type} {items : List β} {item : β} (distinct : items.Nodup) (fresh : item ∉ items) :
    (items ++ [item]).Nodup := by
  rw [← List.concat_eq_append]
  exact distinct.concat fresh

private theorem groups_put {entries : List (κ × α)} {groups : List (κ × List α)} (known : Groups entries groups)
    (entry : κ × α) :
    Groups (entries ++ [entry]) (put entry.1 entry.2 groups) where
  keys := by
    rw [keys_put]
    split
    · exact known.keys
    · rename_i fresh
      exact nodup_snoc known.keys fresh
  once := by
    refine row_put (List.nodup_singleton _) (fun values distinct => ?_) known.once
    split
    · exact distinct
    · rename_i fresh
      exact nodup_snoc distinct fresh
  inhabited := by
    refine row_put (p := fun values => values ≠ []) (List.cons_ne_nil _ _) (fun values nonempty => ?_) known.inhabited
    split
    · exact nonempty
    · simp
  exact key value := by
    rw [held_put, known.exact, List.mem_append, List.mem_singleton, Prod.ext_iff, eq_comm]

theorem groups_group (entries : List (κ × α)) : Groups entries (group entries) := by
  induction entries using List.reverseRecOn with
  | nil => exact ⟨List.nodup_nil, by simp [group], by simp [group], by simp [group]⟩
  | append_singleton entries entry ih =>
    rw [group, List.foldl_append]
    exact groups_put ih entry
end

end SocTriage.Grouping
