import Mathlib.Data.List.Basic
import Mathlib.Data.List.Nodup
import Mathlib.Data.Option.Basic

/-!
Keyed tables: the rows of a relation, or the entries of a dictionary, in insertion
order and no two under one key. The key's uniqueness is a field, so a table that
breaks its primary key cannot be built; `insert` is the only operation that can fail.
Every operation is described by what it does to `get`.
-/
namespace SocTriage

/-- Rows with pairwise different keys. -/
structure Table {ρ κ : Type} (key : ρ → κ) where
  rows : List ρ
  unique : (rows.map key).Nodup

namespace Table
variable {ρ ρ' κ : Type} {key : ρ → κ} {key' : ρ' → κ}

theorem ext_rows {s t : Table key} (same : s.rows = t.rows) : s = t := by
  cases s; cases t; cases same; rfl

instance [DecidableEq ρ] : DecidableEq (Table key) := fun s t =>
  if same : s.rows = t.rows then isTrue (ext_rows same) else isFalse (fun equal => same (congrArg rows equal))

def empty : Table key := ⟨[], List.nodup_nil⟩

@[simp] theorem rows_empty : (empty : Table key).rows = [] := rfl

/-- The rows that satisfy `p`, in order. -/
def filter (t : Table key) (p : ρ → Bool) : Table key :=
  ⟨t.rows.filter p, t.unique.sublist (List.filter_sublist.map key)⟩

@[simp] theorem rows_filter (t : Table key) (p : ρ → Bool) : (t.filter p).rows = t.rows.filter p := rfl

private theorem nodup_filterMap {f : ρ → Option ρ'} (keeps : ∀ r r', f r = some r' → key' r' = key r) :
    ∀ rows : List ρ, (rows.map key).Nodup → ((rows.filterMap f).map key').Nodup := by
  intro rows
  induction rows with
  | nil => intro _; exact List.nodup_nil
  | cons r rest ih =>
    intro unique
    obtain ⟨fresh, unique⟩ := List.nodup_cons.mp unique
    cases result : f r with
    | none => simpa [List.filterMap_cons, result] using ih unique
    | some r' =>
      simp only [List.filterMap_cons, result, List.map_cons, List.nodup_cons]
      refine ⟨?_, ih unique⟩
      intro member
      obtain ⟨other', mapped, sameKey⟩ := List.mem_map.mp member
      obtain ⟨other, inside, image⟩ := List.mem_filterMap.mp mapped
      exact fresh (List.mem_map.mpr ⟨other, inside, by rw [← keeps _ _ image, sameKey, keeps _ _ result]⟩)

/-- The rows a partial view gives, when a view keeps the key of its row. -/
def filterMap (t : Table key) (f : ρ → Option ρ') (keeps : ∀ r r', f r = some r' → key' r' = key r) :
    Table key' :=
  ⟨t.rows.filterMap f, nodup_filterMap keeps t.rows t.unique⟩

private theorem map_key_modify {f : ρ → ρ} (keeps : ∀ r, key (f r) = key r) (p : ρ → Prop) [DecidablePred p]
    (rows : List ρ) : (rows.map (fun r => if p r then f r else r)).map key = rows.map key := by
  rw [List.map_map]
  apply List.map_congr_left
  intro r _
  by_cases chosen : p r
  · simp [chosen, keeps]
  · simp [chosen]

variable [DecidableEq κ]

/-- The row under a key. -/
def get (t : Table key) (k : κ) : Option ρ := t.rows.find? (fun r => key r = k)

/-- Whether a key is taken. -/
def has (t : Table key) (k : κ) : Bool := (t.get k).isSome

/-- A new row at the end, refused when its key is taken. -/
def insert (t : Table key) (r : ρ) : Option (Table key) :=
  if fresh : key r ∈ t.rows.map key then none
  else some ⟨t.rows ++ [r], by
    rw [List.map_append, List.map_singleton]
    exact List.nodup_append.mpr ⟨t.unique, List.nodup_singleton _, by
      intro a inside b single same
      rw [List.mem_singleton] at single
      exact fresh (single ▸ same ▸ inside)⟩⟩

/-- A new row under a second unique column as well. -/
def insertUnique {κ' : Type} [DecidableEq κ'] (t : Table key) (other : ρ → κ') (r : ρ) : Option (Table key) :=
  if t.rows.any (fun old => other old = other r) then none else t.insert r

/-- The row under `k` replaced by its image, the others untouched. -/
def modify (t : Table key) (k : κ) (f : ρ → ρ)
    (keeps : ∀ r, key (f r) = key r := by intro; exact Eq.trans rfl rfl) : Table key :=
  ⟨t.rows.map (fun r => if key r = k then f r else r), by
    rw [map_key_modify keeps]; exact t.unique⟩

/-- Every row that satisfies `p` replaced by its image. -/
def modifyWhere (t : Table key) (p : ρ → Bool) (f : ρ → ρ)
    (keeps : ∀ r, key (f r) = key r := by intro; exact Eq.trans rfl rfl) : Table key :=
  ⟨t.rows.map (fun r => if p r then f r else r), by
    rw [map_key_modify keeps]; exact t.unique⟩

/-- Dictionary assignment: in place when the key is taken, else at the end. -/
def put (t : Table key) (r : ρ) : Table key :=
  if fresh : key r ∈ t.rows.map key then
    ⟨t.rows.map (fun old => if key old = key r then r else old), by
      have same : (t.rows.map (fun old => if key old = key r then r else old)).map key = t.rows.map key := by
        rw [List.map_map]
        apply List.map_congr_left
        intro old _
        by_cases equal : key old = key r
        · simp [equal]
        · simp [equal]
      rw [same]; exact t.unique⟩
  else
    ⟨t.rows ++ [r], by
      rw [List.map_append, List.map_singleton]
      exact List.nodup_append.mpr ⟨t.unique, List.nodup_singleton _, by
        intro a inside b single same
        rw [List.mem_singleton] at single
        exact fresh (single ▸ same ▸ inside)⟩⟩

/-! ### What is under a key -/

theorem get_mem {t : Table key} {k : κ} {r : ρ} (found : t.get k = some r) : r ∈ t.rows :=
  List.mem_of_find?_eq_some found

theorem get_key {t : Table key} {k : κ} {r : ρ} (found : t.get k = some r) : key r = k := by
  simpa using List.find?_some found

theorem get_of_mem {t : Table key} {r : ρ} (member : r ∈ t.rows) : t.get (key r) = some r := by
  obtain ⟨rows, unique⟩ := t
  simp only [get] at member ⊢
  induction rows with
  | nil => simp at member
  | cons first rest ih =>
    obtain ⟨fresh, unique⟩ := List.nodup_cons.mp unique
    rcases List.mem_cons.mp member with same | later
    · subst same; simp
    · have other : key first ≠ key r := by
        intro same
        exact fresh (List.mem_map.mpr ⟨r, later, same.symm⟩)
      rw [List.find?_cons]
      simpa [other] using ih unique later

theorem get_eq_some {t : Table key} {k : κ} {r : ρ} : t.get k = some r ↔ r ∈ t.rows ∧ key r = k := by
  constructor
  · intro found; exact ⟨get_mem found, get_key found⟩
  · rintro ⟨member, rfl⟩; exact get_of_mem member

theorem get_eq_none {t : Table key} {k : κ} : t.get k = none ↔ ∀ r ∈ t.rows, key r ≠ k := by
  simp [get, List.find?_eq_none]

theorem has_iff {t : Table key} {k : κ} : t.has k = true ↔ ∃ r ∈ t.rows, key r = k := by
  rw [has, Option.isSome_iff_exists]
  exact exists_congr (fun r => get_eq_some)

theorem has_eq_false {t : Table key} {k : κ} : t.has k = false ↔ t.get k = none := by
  rw [has, Option.isSome_eq_false_iff, Option.isNone_iff_eq_none]

theorem has_of_mem {t : Table key} {r : ρ} (member : r ∈ t.rows) : t.has (key r) = true :=
  has_iff.mpr ⟨r, member, rfl⟩

theorem eq_of_key {t : Table key} {r s : ρ} (left : r ∈ t.rows) (right : s ∈ t.rows) (same : key r = key s) :
    r = s := by
  have := get_of_mem left
  rw [same, get_of_mem right] at this
  exact (Option.some.inj this).symm

@[simp] theorem get_empty (k : κ) : (empty : Table key).get k = none := rfl

theorem get_filter (t : Table key) (p : ρ → Bool) (k : κ) : (t.filter p).get k = (t.get k).filter p := by
  cases found : t.get k with
  | none =>
    rw [get_eq_none] at found
    simp only [Option.filter_none, get_eq_none, rows_filter, List.mem_filter]
    intro r inside; exact found r inside.1
  | some r =>
    rw [get_eq_some] at found
    by_cases kept : p r = true
    · rw [Option.filter_some, if_pos kept, get_eq_some]
      exact ⟨List.mem_filter.mpr ⟨found.1, kept⟩, found.2⟩
    · rw [Option.filter_some, if_neg kept, get_eq_none]
      intro other inside sameKey
      rw [rows_filter, List.mem_filter] at inside
      have := eq_of_key inside.1 found.1 (sameKey.trans found.2.symm)
      exact kept (this ▸ inside.2)

theorem get_filterMap (t : Table key) (f : ρ → Option ρ') (keeps : ∀ r r', f r = some r' → key' r' = key r)
    (k : κ) : (t.filterMap f keeps).get k = (t.get k).bind f := by
  apply Option.ext
  intro r'
  rw [get_eq_some, Option.bind_eq_some_iff]
  constructor
  · rintro ⟨member, rfl⟩
    obtain ⟨r, inside, image⟩ := List.mem_filterMap.mp member
    exact ⟨r, get_eq_some.mpr ⟨inside, (keeps _ _ image).symm⟩, image⟩
  · rintro ⟨r, found, image⟩
    obtain ⟨inside, rfl⟩ := get_eq_some.mp found
    exact ⟨List.mem_filterMap.mpr ⟨r, inside, image⟩, keeps _ _ image⟩

theorem insert_eq_none {t : Table key} {r : ρ} : t.insert r = none ↔ t.has (key r) = true := by
  rw [has_iff, insert]
  by_cases taken : key r ∈ t.rows.map key
  · simp only [taken, ↓reduceDIte, true_iff]
    obtain ⟨old, inside, same⟩ := List.mem_map.mp taken
    exact ⟨old, inside, same⟩
  · simp only [taken, ↓reduceDIte, reduceCtorEq, false_iff]
    rintro ⟨old, inside, same⟩
    exact taken (List.mem_map.mpr ⟨old, inside, same⟩)

theorem insert_rows {t t' : Table key} {r : ρ} (done : t.insert r = some t') : t'.rows = t.rows ++ [r] := by
  rw [insert] at done
  split at done
  · contradiction
  · cases done; rfl

theorem insert_fresh {t t' : Table key} {r : ρ} (done : t.insert r = some t') : t.get (key r) = none := by
  have free : t.has (key r) ≠ true := fun taken => by
    rw [insert_eq_none.mpr taken] at done; contradiction
  simpa [has] using free

/-- A row whose key is free is always accepted. -/
theorem insert_of_fresh {t : Table key} {r : ρ} (free : t.get (key r) = none) : ∃ t', t.insert r = some t' := by
  cases done : t.insert r with
  | some t' => exact ⟨t', rfl⟩
  | none =>
    have := insert_eq_none.mp done
    simp [has, free] at this

theorem mem_insert {t t' : Table key} {r s : ρ} (done : t.insert r = some t') :
    s ∈ t'.rows ↔ s ∈ t.rows ∨ s = r := by
  rw [insert_rows done, List.mem_append, List.mem_singleton]

theorem get_insert {t t' : Table key} {r : ρ} (done : t.insert r = some t') (k : κ) :
    t'.get k = if key r = k then some r else t.get k := by
  have free := insert_fresh done
  rw [get, insert_rows done, List.find?_append]
  by_cases same : key r = k
  · subst same
    rw [get] at free
    simp [free]
  · simp [same, get]

theorem insertUnique_eq_some {κ' : Type} [DecidableEq κ'] {t t' : Table key} {other : ρ → κ'} {r : ρ} :
    t.insertUnique other r = some t' ↔ (∀ old ∈ t.rows, other old ≠ other r) ∧ t.insert r = some t' := by
  rw [insertUnique]
  split
  · rename_i taken
    simp only [List.any_eq_true, decide_eq_true_eq] at taken
    obtain ⟨old, inside, same⟩ := taken
    simp only [reduceCtorEq, false_iff]
    rintro ⟨free, _⟩; exact free old inside same
  · rename_i free
    simp only [List.any_eq_true, decide_eq_true_eq, not_exists, not_and] at free
    exact ⟨fun done => ⟨free, done⟩, fun both => both.2⟩

theorem mem_modify {t : Table key} {k : κ} {f : ρ → ρ} {keeps : ∀ r, key (f r) = key r} {s : ρ} :
    s ∈ (t.modify k f keeps).rows ↔ (∃ r ∈ t.rows, key r = k ∧ s = f r) ∨ (s ∈ t.rows ∧ key s ≠ k) := by
  simp only [modify, List.mem_map]
  constructor
  · rintro ⟨r, inside, rfl⟩
    by_cases same : key r = k
    · exact .inl ⟨r, inside, same, by simp [same]⟩
    · exact .inr (by simpa [same] using inside)
  · rintro (⟨r, inside, same, rfl⟩ | ⟨inside, other⟩)
    · exact ⟨r, inside, by simp [same]⟩
    · exact ⟨s, inside, by simp [other]⟩

theorem get_modify (t : Table key) (k : κ) (f : ρ → ρ) (keeps : ∀ r, key (f r) = key r) (k' : κ) :
    (t.modify k f keeps).get k' = if k' = k then (t.get k).map f else t.get k' := by
  apply Option.ext
  intro s
  rw [get_eq_some, mem_modify]
  by_cases same : k' = k
  · subst same
    simp only [↓reduceIte, Option.map_eq_some_iff, get_eq_some]
    constructor
    · rintro ⟨⟨r, inside, sameKey, rfl⟩ | ⟨_, other⟩, sameKey'⟩
      · exact ⟨r, ⟨inside, sameKey⟩, rfl⟩
      · exact absurd sameKey' other
    · rintro ⟨r, ⟨inside, sameKey⟩, rfl⟩
      exact ⟨.inl ⟨r, inside, sameKey, rfl⟩, (keeps r).trans sameKey⟩
  · simp only [same, ↓reduceIte, get_eq_some]
    constructor
    · rintro ⟨⟨r, inside, sameKey, rfl⟩ | ⟨inside, other⟩, sameKey'⟩
      · exact absurd (sameKey'.symm.trans ((keeps r).trans sameKey)) same
      · exact ⟨inside, sameKey'⟩
    · rintro ⟨inside, sameKey⟩
      exact ⟨.inr ⟨inside, fun equal => same (sameKey.symm.trans equal)⟩, sameKey⟩

theorem get_modify_self {t : Table key} {k : κ} {f : ρ → ρ} {keeps : ∀ r, key (f r) = key r} {r : ρ}
    (found : t.get k = some r) : (t.modify k f keeps).get k = some (f r) := by
  rw [get_modify, if_pos rfl, found, Option.map_some]

theorem get_modify_ne {t : Table key} {k k' : κ} {f : ρ → ρ} {keeps : ∀ r, key (f r) = key r} (other : k' ≠ k) :
    (t.modify k f keeps).get k' = t.get k' := by
  rw [get_modify, if_neg other]

/-- A change of one row changes no projection that its image keeps. -/
theorem map_modify {α : Type} (t : Table key) (k : κ) (f : ρ → ρ) (keeps : ∀ r, key (f r) = key r) {view : ρ → α}
    (same : ∀ r ∈ t.rows, key r = k → view (f r) = view r) : (t.modify k f keeps).rows.map view = t.rows.map view := by
  rw [modify, List.map_map]
  apply List.map_congr_left
  intro r inside
  by_cases chosen : key r = k
  · simp [chosen, same r inside chosen]
  · simp [chosen]

theorem has_modify (t : Table key) (k : κ) (f : ρ → ρ) (keeps : ∀ r, key (f r) = key r) (k' : κ) :
    (t.modify k f keeps).has k' = t.has k' := by
  rw [has, get_modify, has]
  by_cases same : k' = k
  · subst same; simp
  · simp [same]

omit [DecidableEq κ] in
theorem mem_modifyWhere {t : Table key} {p : ρ → Bool} {f : ρ → ρ} {keeps : ∀ r, key (f r) = key r} {s : ρ} :
    s ∈ (t.modifyWhere p f keeps).rows ↔ ∃ r ∈ t.rows, s = if p r then f r else r := by
  simp only [modifyWhere, List.mem_map, eq_comm]

theorem get_put (t : Table key) (r : ρ) (k : κ) : (t.put r).get k = if key r = k then some r else t.get k := by
  rw [put]
  split
  · rename_i taken
    apply Option.ext
    intro s
    rw [get_eq_some]
    simp only [List.mem_map]
    by_cases same : key r = k
    · subst same
      simp only [↓reduceIte, Option.some.injEq]
      constructor
      · rintro ⟨⟨old, inside, rfl⟩, sameKey⟩
        by_cases equal : key old = key r
        · simp [equal]
        · simp [equal] at sameKey
      · rintro rfl
        obtain ⟨old, inside, equal⟩ := List.mem_map.mp taken
        exact ⟨⟨old, inside, by simp [equal]⟩, rfl⟩
    · simp only [same, ↓reduceIte, get_eq_some]
      constructor
      · rintro ⟨⟨old, inside, rfl⟩, sameKey⟩
        by_cases equal : key old = key r
        · simp only [equal, ↓reduceIte] at sameKey; exact absurd sameKey same
        · simp only [equal, ↓reduceIte] at sameKey ⊢; exact ⟨inside, sameKey⟩
      · rintro ⟨inside, sameKey⟩
        refine ⟨⟨s, inside, ?_⟩, sameKey⟩
        have other : key s ≠ key r := fun equal => same (equal.symm.trans sameKey)
        simp [other]
  · rename_i free
    rw [get, List.find?_append]
    by_cases same : key r = k
    · subst same
      have absent : t.rows.find? (fun old => key old = key r) = none := by
        rw [List.find?_eq_none]
        intro old inside equal
        exact free (List.mem_map.mpr ⟨old, inside, by simpa using equal⟩)
      simp [absent]
    · simp [same, get]

/-- An assignment changes no projection that the row in its place agrees on. -/
theorem map_put {α : Type} (t : Table key) (r : ρ) {view : ρ → α} {old : ρ} (taken : old ∈ t.rows)
    (place : key old = key r) (same : view old = view r) : (t.put r).rows.map view = t.rows.map view := by
  have inside : key r ∈ t.rows.map key := place ▸ List.mem_map_of_mem taken
  rw [put, dif_pos inside, List.map_map]
  apply List.map_congr_left
  intro other member
  by_cases replaced : key other = key r
  · have equal := eq_of_key member taken (replaced.trans place.symm)
    subst equal
    simp [replaced, same]
  · simp [replaced]

/-- A row with a fresh key is put at the end. -/
theorem rows_put {t : Table key} {r : ρ} (fresh : ∀ old ∈ t.rows, key old ≠ key r) : (t.put r).rows = t.rows ++ [r] := by
  have free : key r ∉ t.rows.map key := by
    intro taken
    obtain ⟨old, inside, same⟩ := List.mem_map.mp taken
    exact fresh old inside same
  rw [put, dif_neg free]

/-- A row and the others. -/
theorem rows_perm {t : Table key} {r : ρ} (inside : r ∈ t.rows) :
    t.rows.Perm (r :: (t.filter (fun other => key other ≠ key r)).rows) := by
  have unique := t.unique
  obtain ⟨before, after, rows⟩ := List.append_of_mem inside
  rw [rows, List.map_append, List.map_cons, List.nodup_append, List.nodup_cons] at unique
  obtain ⟨-, ⟨fresh, -⟩, apart⟩ := unique
  have kept_before : before.filter (fun other => key other ≠ key r) = before := by
    refine List.filter_eq_self.mpr (fun other earlier => decide_eq_true ?_)
    exact apart (key other) (List.mem_map_of_mem earlier) (key r) List.mem_cons_self
  have kept_after : after.filter (fun other => key other ≠ key r) = after := by
    refine List.filter_eq_self.mpr (fun other later => decide_eq_true (fun same => fresh ?_))
    exact same ▸ List.mem_map_of_mem later
  have dropped : (r :: after).filter (fun other => key other ≠ key r) = after := by
    rw [List.filter_cons_of_neg (by simp), kept_after]
  rw [rows_filter, rows, List.filter_append, kept_before, dropped]
  exact List.perm_middle

/-- Rows with fresh keys are put at the end, in their order. -/
theorem rows_foldl_put (rows : List ρ) (t : Table key) (fresh : ((t.rows ++ rows).map key).Nodup) :
    (rows.foldl put t).rows = t.rows ++ rows := by
  induction rows generalizing t with
  | nil => simp
  | cons r rest ih =>
    have rows : (t.put r).rows = t.rows ++ [r] := by
      refine rows_put (fun old inside => ?_)
      rw [List.map_append, List.nodup_append] at fresh
      exact fresh.2.2 (key old) (List.mem_map_of_mem inside) (key r) (List.mem_map_of_mem (List.mem_cons_self ..))
    rw [List.foldl_cons, ih (t.put r) (by rw [rows, List.append_assoc]; exact fresh), rows, List.append_assoc]
    rfl

/-- The last of the assigned rows under a key counts. -/
theorem get_foldl_put (rows : List ρ) (t : Table key) (k : κ) :
    (rows.foldl put t).get k = (rows.reverse.find? (fun r => key r = k)).or (t.get k) := by
  induction rows generalizing t with
  | nil => rfl
  | cons r rest ih =>
    rw [List.foldl_cons, ih, get_put, List.reverse_cons, List.find?_append]
    by_cases same : key r = k
    · simp [same]
    · simp [same]

/-- Assignments under keys that are there leave the keys in their places. -/
theorem keys_foldl_put {rows : List ρ} {t : Table key} (taken : ∀ r ∈ rows, key r ∈ t.rows.map key) :
    (rows.foldl put t).rows.map key = t.rows.map key := by
  induction rows generalizing t with
  | nil => rfl
  | cons r rest ih =>
    obtain ⟨old, inside, place⟩ := List.mem_map.mp (taken r List.mem_cons_self)
    have still : (t.put r).rows.map key = t.rows.map key := map_put t r inside place place
    rw [List.foldl_cons, ih, still]
    intro later member
    rw [still]
    exact taken later (List.mem_cons_of_mem _ member)

/-- A dictionary that leads to the listed values by their keys still does with one more. -/
theorem get_put_listed {β : Type} {t : Table (Prod.fst : κ × β → κ)} {key : β → κ} {listed : List β}
    (leads : ∀ k b, (t.get k).map Prod.snd = some b ↔ b ∈ listed ∧ key b = k) {new : β} (fresh : t.get (key new) = none)
    (k : κ) (b : β) :
    ((t.put (key new, new)).get k).map Prod.snd = some b ↔ b ∈ listed ++ [new] ∧ key b = k := by
  rw [get_put, List.mem_append, List.mem_singleton]
  by_cases same : key new = k
  · rw [if_pos same, Option.map_some, Option.some.injEq]
    constructor
    · rintro rfl
      exact ⟨.inr rfl, same⟩
    · rintro ⟨before | rfl, own⟩
      · have known := (leads k b).mpr ⟨before, own⟩
        rw [← same, fresh] at known
        cases known
      · rfl
  · rw [if_neg same, leads]
    constructor
    · exact fun known => ⟨.inl known.1, known.2⟩
    · rintro ⟨before | rfl, own⟩
      · exact ⟨before, own⟩
      · exact absurd own same

end Table
end SocTriage
