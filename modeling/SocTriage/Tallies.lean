import Mathlib.Algebra.BigOperators.Group.List.Lemmas
import Mathlib.Algebra.GroupWithZero.Nat
import Mathlib.Data.List.Dedup
import Mathlib.Data.List.Sort

/-!
Rows counted by a key, and the keys with the most rows. The counts add up to the number of rows.
Of the groups with the most rows first, and the lesser key first among equals, the leading ones
leave out no group that comes before one of them.
-/
namespace SocTriage.Tallies
variable {α κ : Type}

section
variable [DecidableEq κ]

/-- The number of rows with the key. -/
def count (key : α → κ) (rows : List α) (k : κ) : Nat := rows.countP (fun row => key row = k)

/-- `GROUP BY` the key with `COUNT`: each key that occurs, with the number of its rows. -/
def tally (key : α → κ) (rows : List α) : List (κ × Nat) := (rows.map key).dedup.map (fun k => (k, count key rows k))

theorem count_pos {key : α → κ} {rows : List α} {k : κ} : 0 < count key rows k ↔ k ∈ rows.map key := by
  rw [count, List.countP_pos_iff, List.mem_map]
  simp only [decide_eq_true_eq]

theorem count_congr {β : Type} {key : α → κ} {key' : β → κ} {rows : List α} {rows' : List β}
    (same : rows.map key = rows'.map key') : count key rows = count key' rows' := by
  funext k
  have counted := congrArg (List.countP (fun key => key = k)) same
  rwa [List.countP_map, List.countP_map] at counted

theorem mem_tally {key : α → κ} {rows : List α} {group : κ × Nat} :
    group ∈ tally key rows ↔ group.2 = count key rows group.1 ∧ 0 < group.2 := by
  rw [tally, List.mem_map]
  constructor
  · rintro ⟨k, inside, rfl⟩
    exact ⟨rfl, count_pos.mpr (List.mem_dedup.mp inside)⟩
  · rintro ⟨counted, some_row⟩
    refine ⟨group.1, List.mem_dedup.mpr (count_pos.mp (counted ▸ some_row)), ?_⟩
    rw [← counted]

theorem tally_keys (key : α → κ) (rows : List α) : (tally key rows).map Prod.fst = (rows.map key).dedup := by
  rw [tally, List.map_map]
  exact List.map_id _

theorem tally_congr {β : Type} {key : α → κ} {key' : β → κ} {rows : List α} {rows' : List β}
    (same : rows.map key = rows'.map key') : tally key rows = tally key' rows' := by
  rw [tally, tally, count_congr same, same]

/-- Each row is counted for one key. -/
theorem count_total (key : α → κ) (rows : List α) : ((rows.map key).dedup.map (count key rows)).sum = rows.length := by
  have counted : count key rows = fun k => (rows.map key).count k := by
    funext k
    rw [List.count, List.countP_map]
    exact List.countP_congr (fun row _ => by simp)
  rw [counted]
  exact (List.sum_map_count_dedup_eq_length (rows.map key)).trans (List.length_map key)
end

/-! ### The leading groups -/

section
variable [LinearOrder κ]

/-- `ORDER BY count DESC, key ASC`. -/
def by_count (a b : κ × Nat) : Prop := b.2 < a.2 ∨ (a.2 = b.2 ∧ a.1 ≤ b.1)

instance : DecidableRel (by_count (κ := κ)) := fun _ _ => inferInstanceAs (Decidable (_ ∨ _))

theorem by_count_total (a b : κ × Nat) : by_count a b ∨ by_count b a := by
  rcases Nat.lt_trichotomy a.2 b.2 with fewer | same | more
  · exact .inr (.inl fewer)
  · exact (le_total a.1 b.1).imp (fun before => .inr ⟨same, before⟩) (fun before => .inr ⟨same.symm, before⟩)
  · exact .inl (.inl more)

theorem by_count_trans {a b c : κ × Nat} (first : by_count a b) (second : by_count b c) : by_count a c := by
  rcases first with more | ⟨same, before⟩
  · rcases second with more' | ⟨same', _⟩
    · exact .inl (more'.trans more)
    · exact .inl (same' ▸ more)
  · rcases second with more' | ⟨same', before'⟩
    · exact .inl (same ▸ more')
    · exact .inr ⟨same.trans same', before.trans before'⟩

instance : Std.Total (by_count (κ := κ)) := ⟨by_count_total⟩
instance : IsTrans (κ × Nat) by_count := ⟨fun _ _ _ => by_count_trans⟩

/-- The first groups, those with the most rows first. -/
def leading (limit : Nat) (groups : List (κ × Nat)) : List (κ × Nat) := (groups.insertionSort by_count).take limit

/-- The groups listed have their counts, come in order and are at most so many; of the groups with enough rows, one that is
    not listed comes behind as many as there may be. -/
structure Ranked (limit least : Nat) (count : κ → Nat) (listed : List (κ × Nat)) : Prop where
  ordered : listed.Pairwise by_count
  distinct : (listed.map Prod.fst).Nodup
  counted : ∀ group ∈ listed, group.2 = count group.1 ∧ least ≤ group.2
  bounded : listed.length ≤ limit
  complete : ∀ k, least ≤ count k →
    (k, count k) ∈ listed ∨ (listed.length = limit ∧ ∀ before ∈ listed, by_count before (k, count k))

/-- What the limit leaves out comes behind all that is listed. -/
private theorem leading_complete (limit : Nat) {groups : List (κ × Nat)} {group : κ × Nat} (inside : group ∈ groups) :
    group ∈ leading limit groups ∨
      ((leading limit groups).length = limit ∧ ∀ before ∈ leading limit groups, by_count before group) := by
  have sorted : (groups.insertionSort by_count).Pairwise by_count := List.pairwise_insertionSort by_count groups
  rw [← List.mem_insertionSort by_count, ← List.take_append_drop limit (groups.insertionSort by_count),
    List.mem_append] at inside
  rcases inside with listed | left_out
  · exact .inl listed
  · rw [← List.take_append_drop limit (groups.insertionSort by_count), List.pairwise_append] at sorted
    have longer : limit < (groups.insertionSort by_count).length := by
      by_contra short
      rw [List.drop_eq_nil_of_le (Nat.le_of_not_lt short)] at left_out
      exact List.not_mem_nil left_out
    exact .inr ⟨List.length_take_of_le (Nat.le_of_lt longer), fun before listed => sorted.2.2 before listed group left_out⟩

theorem leading_ranked (limit : Nat) {least : Nat} (positive : 0 < least) (key : α → κ) (rows : List α) :
    Ranked limit least (count key rows) (leading limit ((tally key rows).filter (fun group => least ≤ group.2))) := by
  have listed {group : κ × Nat} : group ∈ (tally key rows).filter (fun group => least ≤ group.2) ↔
      group.2 = count key rows group.1 ∧ least ≤ group.2 := by
    rw [List.mem_filter, mem_tally, decide_eq_true_eq]
    exact ⟨fun both => ⟨both.1.1, both.2⟩, fun both => ⟨⟨both.1, Nat.lt_of_lt_of_le positive both.2⟩, both.2⟩⟩
  have sublist := List.take_sublist limit (((tally key rows).filter (fun group => least ≤ group.2)).insertionSort by_count)
  refine ⟨(List.pairwise_insertionSort by_count _).sublist sublist, ?_, fun group inside => ?_, List.length_take_le _ _,
    fun k enough => leading_complete limit (listed.mpr ⟨rfl, enough⟩)⟩
  · refine ((sublist.map Prod.fst).nodup (((List.perm_insertionSort by_count _).map Prod.fst).nodup_iff.mpr ?_))
    refine ((List.filter_sublist).map Prod.fst).nodup ?_
    rw [tally_keys]
    exact List.nodup_dedup _
  · exact listed.mp ((List.mem_insertionSort by_count).mp (sublist.subset inside))

/-- Where every group has enough rows, none is filtered out. -/
theorem tally_filter_one (key : α → κ) (rows : List α) :
    (tally key rows).filter (fun group => 1 ≤ group.2) = tally key rows :=
  List.filter_eq_self.mpr (fun _ inside => decide_eq_true (mem_tally.mp inside).2)
end

end SocTriage.Tallies
