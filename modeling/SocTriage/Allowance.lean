import Mathlib.Algebra.Order.Field.Basic
import Mathlib.Tactic.Linarith
import Mathlib.Tactic.Ring

/-!
Allowances over time: grants at instants of an ordered field, each paid for out of a
balance that accrues at a rate and never exceeds a capacity (`Paid`). Whatever the
instants are, no window of time then holds more grants than the capacity and what accrues
within the window (`Paid.allowed`).
-/
namespace SocTriage.Allowance

variable {α : Type*} [LinearOrder α]

/-- The instants of a list that lie in a window. -/
def within (first last : α) (instants : List α) : List α :=
  instants.filter (fun instant => first ≤ instant ∧ instant ≤ last)

theorem within_append (first last : α) (earlier later : List α) :
    within first last (earlier ++ later) = within first last earlier ++ within first last later :=
  List.filter_append ..

variable [Field α]

/-- No window holds more instants than the capacity and what accrues within it. -/
def Allowed (capacity rate : α) (instants : List α) : Prop :=
  ∀ first last, first ≤ last → ((within first last instants).length : α) ≤ capacity + rate * (last - first)

/-- Grants that are paid for, one unit each, out of the balance there is at an instant: a balance accrues at the rate
    and is cut at the capacity before a grant. -/
inductive Paid (capacity rate : α) : α → α → List α → Prop
  | none {balance opened : α} : Paid capacity rate balance opened []
  | grant {balance opened left instant : α} {later : List α} (after : opened ≤ instant) (solvent : 0 ≤ left)
      (capped : left + 1 ≤ capacity) (accrued : left + 1 ≤ balance + rate * (instant - opened))
      (rest : Paid capacity rate left instant later) : Paid capacity rate balance opened (instant :: later)

section
variable {capacity rate balance opened : α} {grants : List α}

/-- Grants are in order and none comes before the balance they are paid from. -/
theorem Paid.opened_le (paid : Paid capacity rate balance opened grants) : ∀ grant ∈ grants, opened ≤ grant := by
  induction paid with
  | none => intro grant inside; cases inside
  | grant after _ _ _ _ ih =>
    intro grant inside
    rcases List.mem_cons.mp inside with rfl | inside
    · exact after
    · exact after.trans (ih grant inside)

variable [IsStrictOrderedRing α]

/-- What can be paid for later can be paid for from a balance that has accrued to as much. -/
theorem Paid.of_accrued {left instant : α} (after : opened ≤ instant)
    (accrued : left ≤ balance + rate * (instant - opened)) (paid : Paid capacity rate left instant grants) :
    Paid capacity rate balance opened grants := by
  have same : ∀ later, rate * (later - opened) = rate * (later - instant) + rate * (instant - opened) := by
    intro later
    ring
  cases paid with
  | none => exact .none
  | @grant _ _ _ granted _ later solvent capped enough rest =>
    refine .grant (after.trans later) solvent capped ?_ rest
    rw [same granted]
    linarith

/-- Until an instant no more is granted than the balance and what accrues until then. -/
theorem Paid.spent {first last : α} (nonneg : 0 ≤ rate) (paid : Paid capacity rate balance opened grants)
    (solvent : 0 ≤ balance) (until_last : opened ≤ last) :
    ((within first last grants).length : α) ≤ balance + rate * (last - opened) := by
  induction paid with
  | none =>
    have accrues := mul_nonneg nonneg (sub_nonneg.mpr until_last)
    simpa [within] using add_nonneg solvent accrues
  | @grant balance opened left instant later after left_solvent capped accrued rest ih =>
    by_cases early : instant ≤ last
    · have spent := ih left_solvent early
      have counted : (within first last (instant :: later)).length ≤ (within first last later).length + 1 := by
        unfold within
        rw [List.filter_cons]
        split
        · rfl
        · exact Nat.le_succ _
      have split : rate * (last - opened) = rate * (last - instant) + rate * (instant - opened) := by ring
      calc ((within first last (instant :: later)).length : α)
          ≤ (within first last later).length + 1 := by exact_mod_cast counted
        _ ≤ balance + rate * (last - opened) := by rw [split]; linarith
    · have outside : within first last (instant :: later) = [] := by
        refine List.filter_eq_nil_iff.mpr fun grant inside => ?_
        have from_instant : instant ≤ grant := by
          rcases List.mem_cons.mp inside with rfl | inside
          · exact le_rfl
          · exact rest.opened_le grant inside
        simp only [decide_eq_true_eq, not_and, not_le]
        intro _
        exact (not_le.mp early).trans_le from_instant
      rw [outside, List.length_nil, Nat.cast_zero]
      exact add_nonneg solvent (mul_nonneg nonneg (sub_nonneg.mpr until_last))

/-- Grants that are paid for keep to the allowance in every window: the first of a window finds the capacity at most. -/
theorem Paid.allowed (positive : 0 ≤ capacity) (nonneg : 0 ≤ rate) (paid : Paid capacity rate balance opened grants) :
    Allowed capacity rate grants := by
  intro first last ordered
  induction paid with
  | none =>
    have accrues := mul_nonneg nonneg (sub_nonneg.mpr ordered)
    simpa [within] using add_nonneg positive accrues
  | @grant balance opened left instant later after solvent capped accrued rest ih =>
    unfold within at ih ⊢
    rw [List.filter_cons]
    split
    · rename_i inside
      obtain ⟨from_first, until_last⟩ := of_decide_eq_true inside
      have spent : ((within first last later).length : α) ≤ left + rate * (last - instant) :=
        rest.spent nonneg solvent until_last
      have shorter : rate * (last - instant) ≤ rate * (last - first) :=
        mul_le_mul_of_nonneg_left (by linarith) nonneg
      unfold within at spent
      rw [List.length_cons, Nat.cast_add, Nat.cast_one]
      linarith
    · exact ih

end
end SocTriage.Allowance
