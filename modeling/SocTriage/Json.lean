import Mathlib.Data.List.Basic
import Mathlib.Data.String.Basic

/-!
JSON values as Python holds them: integers and floats apart, objects as ordered
key-value lists. `canonical` is `json.dumps(.., sort_keys=True)` short of the text:
the tree with the keys of every object in code-point order, which the text spells
without loss. A float stays the text of its shortest representation.
-/
namespace SocTriage

inductive Json where
  | null
  | bool (b : Bool)
  | int (n : Int)
  | float (repr : String)
  | str (s : String)
  | arr (items : List Json)
  | obj (fields : List (String × Json))

/-- A dictionary of JSON values, in insertion order. -/
abbrev JsonObject := List (String × Json)

namespace Json

mutual
def decEq : (a b : Json) → Decidable (a = b)
  | .null, b => match b with
    | .null => isTrue rfl
    | .bool _ | .int _ | .float _ | .str _ | .arr _ | .obj _ => isFalse (by simp)
  | .bool x, b => match b with
    | .bool y => decidable_of_iff (x = y) (by simp)
    | .null | .int _ | .float _ | .str _ | .arr _ | .obj _ => isFalse (by simp)
  | .int x, b => match b with
    | .int y => decidable_of_iff (x = y) (by simp)
    | .null | .bool _ | .float _ | .str _ | .arr _ | .obj _ => isFalse (by simp)
  | .float x, b => match b with
    | .float y => decidable_of_iff (x = y) (by simp)
    | .null | .bool _ | .int _ | .str _ | .arr _ | .obj _ => isFalse (by simp)
  | .str x, b => match b with
    | .str y => decidable_of_iff (x = y) (by simp)
    | .null | .bool _ | .int _ | .float _ | .arr _ | .obj _ => isFalse (by simp)
  | .arr xs, b => match b with
    | .arr ys => @decidable_of_iff _ (xs = ys) (by simp) (decEqItems xs ys)
    | .null | .bool _ | .int _ | .float _ | .str _ | .obj _ => isFalse (by simp)
  | .obj xs, b => match b with
    | .obj ys => @decidable_of_iff _ (xs = ys) (by simp) (decEqFields xs ys)
    | .null | .bool _ | .int _ | .float _ | .str _ | .arr _ => isFalse (by simp)
def decEqItems : (xs ys : List Json) → Decidable (xs = ys)
  | [], [] => isTrue rfl
  | [], _ :: _ => isFalse (by simp)
  | _ :: _, [] => isFalse (by simp)
  | x :: xs, y :: ys =>
    @decidable_of_iff _ (x = y ∧ xs = ys) (by simp) (@instDecidableAnd _ _ (decEq x y) (decEqItems xs ys))
def decEqFields : (xs ys : List (String × Json)) → Decidable (xs = ys)
  | [], [] => isTrue rfl
  | [], _ :: _ => isFalse (by simp)
  | _ :: _, [] => isFalse (by simp)
  | (k, x) :: xs, (l, y) :: ys =>
    @decidable_of_iff _ (k = l ∧ x = y ∧ xs = ys) (by simp [and_assoc])
      (@instDecidableAnd _ _ (instDecidableEqString k l)
        (@instDecidableAnd _ _ (decEq x y) (decEqFields xs ys)))
end

instance : DecidableEq Json := decEq

/-- `d.get(key)` on a dictionary. -/
def lookup (key : String) : JsonObject → Option Json
  | [] => none
  | (k, v) :: rest => if k = key then some v else lookup key rest

/-- `d.pop(key, None)` on a dictionary, the popped value dropped. -/
def pop (key : String) (fields : JsonObject) : JsonObject := fields.filter (fun field => field.1 ≠ key)

/-- `d.get(key)` on any value, absent when it is no dictionary. -/
def field (key : String) : Json → Option Json
  | .obj fields => lookup key fields
  | _ => none

/-- `d[key] = value` on a dictionary. -/
def set (key : String) (value : Json) : JsonObject → JsonObject
  | [] => [(key, value)]
  | (k, v) :: rest => if k = key then (key, value) :: rest else (k, v) :: set key value rest

/-- A key put in its place among sorted keys. -/
def insertKey (key : String) (value : Json) : JsonObject → JsonObject
  | [] => [(key, value)]
  | (k, v) :: rest =>
    if key = k then (key, value) :: rest
    else if key < k then (key, value) :: (k, v) :: rest
    else (k, v) :: insertKey key value rest

mutual
/-- The value with the keys of every object sorted. -/
def canonical : Json → Json
  | .null => .null
  | .bool b => .bool b
  | .int n => .int n
  | .float r => .float r
  | .str s => .str s
  | .arr items => .arr (canonicalItems items)
  | .obj fields => .obj (canonicalFields fields)
def canonicalItems : List Json → List Json
  | [] => []
  | x :: xs => canonical x :: canonicalItems xs
def canonicalFields : JsonObject → JsonObject
  | [] => []
  | (k, v) :: rest => insertKey k (canonical v) (canonicalFields rest)
end

@[simp] theorem lookup_insertKey (key : String) (value : Json) (fields : JsonObject) (key' : String) :
    lookup key' (insertKey key value fields) = if key = key' then some value else lookup key' fields := by
  induction fields with
  | nil => simp [insertKey, lookup]
  | cons first rest ih =>
    obtain ⟨k, v⟩ := first
    by_cases same : key = k
    · subst same
      by_cases asked : key = key'
      · simp [insertKey, lookup, asked]
      · simp [insertKey, lookup, asked]
    · by_cases before : key < k
      · simp only [insertKey, same, before, ↓reduceIte, lookup]
      · simp only [insertKey, same, before, ↓reduceIte, lookup, ih]
        by_cases asked : k = key'
        · have other : key ≠ key' := fun equal => same (equal.trans asked.symm)
          simp [asked, other]
        · simp [asked]

/-- Sorting the keys of an object loses no entry. -/
theorem lookup_canonicalFields (key : String) (fields : JsonObject) :
    lookup key (canonicalFields fields) = (lookup key fields).map canonical := by
  induction fields with
  | nil => rfl
  | cons first rest ih =>
    obtain ⟨k, v⟩ := first
    by_cases asked : k = key
    · simp [canonicalFields, lookup, asked]
    · simp [canonicalFields, lookup, asked, ih]

theorem field_canonical (key : String) (value : Json) :
    field key (canonical value) = (field key value).map canonical := by
  cases value with
  | obj fields => simp [canonical, field, lookup_canonicalFields]
  | null | bool | int | float | str | arr => simp [canonical, field]

theorem lookup_set (key : String) (value : Json) (fields : JsonObject) (key' : String) :
    lookup key' (set key value fields) = if key = key' then some value else lookup key' fields := by
  induction fields with
  | nil => rfl
  | cons first rest ih =>
    obtain ⟨k, v⟩ := first
    by_cases same : k = key
    · subst same
      by_cases asked : k = key'
      · simp [set, lookup, asked]
      · simp [set, lookup, asked]
    · rw [set, if_neg same, lookup, lookup, ih]
      by_cases asked : k = key'
      · have other : key ≠ key' := fun equal => same (asked.trans equal.symm)
        rw [if_pos asked, if_pos asked, if_neg other]
      · rw [if_neg asked, if_neg asked]

theorem lookup_pop_ne {key other : String} (different : key ≠ other) (fields : JsonObject) :
    lookup key (pop other fields) = lookup key fields := by
  induction fields with
  | nil => rfl
  | cons first rest ih =>
    obtain ⟨k, v⟩ := first
    by_cases popped : k = other
    · have skipped : k ≠ key := fun same => different (same.symm.trans popped)
      have tail : pop other ((k, v) :: rest) = pop other rest := by simp [pop, popped]
      rw [tail, ih]
      simp [lookup, skipped]
    · have tail : pop other ((k, v) :: rest) = (k, v) :: pop other rest := by simp [pop, popped]
      rw [tail]
      simp only [lookup, ih]

end Json
end SocTriage
