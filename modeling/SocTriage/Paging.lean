import Mathlib.Data.List.Sort

/-!
Listings read in pages. A reader asks for one page after the other by offset, each of the listing
as it is by then, and stops at the first page that no other follows. While the listing stays as it
is, the pages are the listing, each row once and in order. While rows only come in, wherever they
do, every row that was listed when the reader began has been read when it stops.
-/
namespace SocTriage.Paging
variable {α β : Type}

def page (limit offset : Nat) (listing : List α) : List α := (listing.drop offset).take limit

/-- The rows read, one page of each listing, and whether the reader got to a page that no other follows. -/
def browse (limit : Nat) : Nat → List (List α) → List α × Bool
  | _, [] => ([], false)
  | offset, listing :: later =>
    if offset + limit < listing.length then
      let (rows, finished) := browse limit (offset + limit) later
      (page limit offset listing ++ rows, finished)
    else (page limit offset listing, true)

/-- A page of a listing and what is behind it. -/
theorem mem_drop {limit offset : Nat} {listing : List α} {row : α} (ahead : row ∈ listing.drop offset) :
    row ∈ page limit offset listing ∨ row ∈ listing.drop (offset + limit) := by
  rw [← List.take_append_drop limit (listing.drop offset), List.drop_drop] at ahead
  exact List.mem_append.mp ahead

/-- The last page is all that is left. -/
theorem page_last {limit offset : Nat} {listing : List α} (last : ¬ offset + limit < listing.length) :
    page limit offset listing = listing.drop offset := by
  refine List.take_of_length_le ?_
  rw [List.length_drop]
  omega

theorem browse_map (f : α → β) (limit offset : Nat) (listings : List (List α)) :
    browse limit offset (listings.map (List.map f)) =
      ((browse limit offset listings).1.map f, (browse limit offset listings).2) := by
  induction listings generalizing offset with
  | nil => rfl
  | cons listing later ih =>
    have one : page limit offset (listing.map f) = (page limit offset listing).map f := by
      rw [page, page, List.map_take, List.map_drop]
    rw [List.map_cons, browse, browse, List.length_map, one, ih]
    split
    · simp only [List.map_append]
    · rfl

/-- Of a listing that stays as it is, a reader that gets to the end reads every row once, in order. -/
theorem browse_same {limit offset reads : Nat} {listing : List α}
    (finished : (browse limit offset (List.replicate reads listing)).2 = true) :
    (browse limit offset (List.replicate reads listing)).1 = listing.drop offset := by
  induction reads generalizing offset with
  | zero => cases finished
  | succ reads ih =>
    rw [List.replicate_succ, browse] at finished ⊢
    split
    · rename_i more
      rw [if_pos more] at finished
      have rest := ih finished
      dsimp only
      rw [page, rest, ← List.drop_drop]
      exact List.take_append_drop limit (listing.drop offset)
    · rename_i last
      exact page_last last

/-- It gets there once the pages are as many as the listing needs. -/
theorem browse_ends {limit offset reads : Nat} {listing : List α} (some : 0 < reads)
    (enough : listing.length ≤ offset + reads * limit) :
    (browse limit offset (List.replicate reads listing)).2 = true := by
  induction reads generalizing offset with
  | zero => contradiction
  | succ reads ih =>
    rw [List.replicate_succ, browse]
    split
    · rename_i more
      rw [Nat.succ_mul] at enough
      cases reads with
      | zero => omega
      | succ reads => exact ih (Nat.succ_pos reads) (by omega)
    · rfl

/-- Of a listing into which rows only come, a reader that gets to the end has read what was listed when it began. -/
theorem browse_covers {limit offset : Nat} {listing : List α} {later : List (List α)}
    (grows : (listing :: later).IsChain List.Sublist) (finished : (browse limit offset (listing :: later)).2 = true) :
    ∀ row ∈ listing.drop offset, row ∈ (browse limit offset (listing :: later)).1 := by
  induction later generalizing offset listing with
  | nil =>
    intro row ahead
    rw [browse] at finished ⊢
    split at finished
    · cases finished
    · rename_i last
      rw [if_neg last, page_last last]
      exact ahead
  | cons next later ih =>
    intro row ahead
    rw [browse] at finished ⊢
    split at finished
    · rename_i more
      rw [if_pos more]
      obtain ⟨inside, grows⟩ := List.isChain_cons_cons.mp grows
      rcases @mem_drop _ limit offset listing row ahead with here | behind
      · exact List.mem_append_left _ here
      · exact List.mem_append_right _ (ih grows finished row ((inside.drop _).subset behind))
    · rename_i last
      rw [if_neg last, page_last last]
      exact ahead

/-! ### Sorted listings -/

section
variable {ρ : Type} {r : ρ → ρ → Prop} [DecidableRel r] [Std.Total r] [IsTrans ρ r] {order : β → β → Prop}
  [Std.Antisymm order] {view : ρ → β}

/-- Sorted by what is seen of the rows, one listing is part of another when all that is seen of it is. -/
theorem sorted_sublist (sees : ∀ {a b}, r a b → order (view a) (view b)) {rows rows' : List ρ}
    (distinct : (rows.map view).Nodup) (inside : ∀ row ∈ rows, view row ∈ rows'.map view) :
    ((rows.insertionSort r).map view).Sublist ((rows'.insertionSort r).map view) := by
  have perm := (List.perm_insertionSort r rows).map view
  have perm' := (List.perm_insertionSort r rows').map view
  have subset : (rows.insertionSort r).map view ⊆ (rows'.insertionSort r).map view := by
    intro seen listed
    obtain ⟨row, stored, rfl⟩ := List.mem_map.mp (perm.mem_iff.mp listed)
    exact perm'.mem_iff.mpr (inside row stored)
  refine @List.sublist_of_subperm_of_pairwise β order _ _ _
    (List.subperm_of_subset (perm.nodup_iff.mpr distinct) subset) ?_ ?_
  · exact List.pairwise_map.mpr ((List.pairwise_insertionSort r rows).imp sees)
  · exact List.pairwise_map.mpr ((List.pairwise_insertionSort r rows').imp sees)
end

end SocTriage.Paging
