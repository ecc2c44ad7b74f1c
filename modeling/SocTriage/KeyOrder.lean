import Mathlib.Data.List.Nodup
import Mathlib.Data.Option.Basic
import SocTriage.Json

/-!
The same dictionaries with their keys in another order, at any depth. What is read by key
does not depend on the order.
-/
namespace SocTriage.Json

/-- The keys of dictionaries within the value are in another order. -/
inductive Reordered : Json → Json → Prop
  | refl (value) : Reordered value value
  | trans {value value' value''} (first : Reordered value value') (second : Reordered value' value'') :
    Reordered value value''
  | keys {fields fields' : JsonObject} (distinct : (fields.map Prod.fst).Nodup) (perm : fields'.Perm fields) :
    Reordered (.obj fields) (.obj fields')
  | field {before after : JsonObject} {key value value'} (inner : Reordered value value') :
    Reordered (.obj (before ++ (key, value) :: after)) (.obj (before ++ (key, value') :: after))
  | item {before after : List Json} {value value'} (inner : Reordered value value') :
    Reordered (.arr (before ++ value :: after)) (.arr (before ++ value' :: after))

theorem lookup_eq_some_iff {fields : JsonObject} (distinct : (fields.map Prod.fst).Nodup) {key : String} {value : Json} :
    lookup key fields = some value ↔ (key, value) ∈ fields := by
  induction fields with
  | nil => simp [lookup]
  | cons field rest ih =>
    rw [List.map_cons, List.nodup_cons] at distinct
    by_cases same : field.1 = key
    · have absent : (key, value) ∉ rest := fun inside => distinct.1 (same ▸ List.mem_map_of_mem inside)
      rw [lookup, if_pos same, List.mem_cons, or_iff_left absent, Prod.ext_iff, Option.some.injEq]
      exact ⟨fun values => ⟨same.symm, values.symm⟩, fun both => both.2.symm⟩
    · rw [lookup, if_neg same, ih distinct.2, List.mem_cons, or_iff_right]
      exact fun first => same (Prod.ext_iff.mp first).1.symm

theorem lookup_perm {fields fields' : JsonObject} (distinct : (fields.map Prod.fst).Nodup) (perm : fields'.Perm fields)
    (key : String) : lookup key fields' = lookup key fields := by
  refine Option.ext (fun value => ?_)
  rw [lookup_eq_some_iff distinct, lookup_eq_some_iff ((perm.map Prod.fst).nodup_iff.mpr distinct), perm.mem_iff]

private theorem lookup_replaced (before after : JsonObject) (name : String) (value value' : Json) (key : String) :
    lookup key (before ++ (name, value) :: after) = lookup key (before ++ (name, value') :: after) ∨
      (lookup key (before ++ (name, value) :: after) = some value ∧
        lookup key (before ++ (name, value') :: after) = some value') := by
  induction before with
  | nil =>
    by_cases same : name = key
    · exact .inr (by simp [lookup, same])
    · exact .inl (by simp [lookup, same])
  | cons field rest ih =>
    by_cases same : field.1 = key
    · exact .inl (by simp [lookup, same])
    · simpa [lookup, same] using ih

private theorem rel_refl : ∀ read : Option Json, Option.Rel Reordered read read
  | none => .none
  | some value => .some (.refl value)

private theorem rel_trans {read read' read'' : Option Json} (first : Option.Rel Reordered read read')
    (second : Option.Rel Reordered read' read'') : Option.Rel Reordered read read'' := by
  cases first with
  | none => exact second
  | some first =>
    cases second with
    | some second => exact .some (first.trans second)

/-- At a key there is a value in both or in neither, the same but for the order of its keys. -/
theorem Reordered.field_rel {value value' : Json} (same : Reordered value value') (key : String) :
    Option.Rel Reordered (Json.field key value) (Json.field key value') := by
  induction same with
  | refl value => exact rel_refl _
  | trans _ _ first second => exact rel_trans first second
  | keys distinct perm =>
    rw [Json.field, Json.field, lookup_perm distinct perm]
    exact rel_refl _
  | @field before after name value value' inner _ =>
    rw [Json.field, Json.field]
    rcases lookup_replaced before after name value value' key with same | ⟨own, own'⟩
    · rw [same]
      exact rel_refl _
    · rw [own, own']
      exact .some inner
  | item inner _ => exact .none

theorem Reordered.null_iff {value value' : Json} (same : Reordered value value') : value = .null ↔ value' = .null := by
  induction same with
  | refl value => exact Iff.rfl
  | trans _ _ first second => exact first.trans second
  | keys | field | item => exact iff_of_false Json.noConfusion Json.noConfusion

theorem Reordered.str_iff {value value' : Json} (same : Reordered value value') (text : String) :
    value = .str text ↔ value' = .str text := by
  induction same with
  | refl value => exact Iff.rfl
  | trans _ _ first second => exact first.trans second
  | keys | field | item => exact iff_of_false Json.noConfusion Json.noConfusion

end SocTriage.Json
