import Mathlib.Data.List.Nodup
import Mathlib.Data.List.Dedup
import Mathlib.Data.List.Perm.Basic

/-!
A list read in one pass. An element of which one of the same view was kept is dropped and counted;
one that shares something with a kept element of another view is refused. The pass gets through
exactly the lists in which nothing is shared between different views, in whatever order they are,
and what it keeps does not depend on the order but for the choice within a view. A loop that
parses items and does the same with what it keeps on record is a `Reader`.
-/
namespace SocTriage.Collapsing

section
variable {α β : Type} (view : α → β) (shares : β → β → Prop)

/-- Elements that share something have the same view. -/
def Unambiguous (elements : List α) : Prop :=
  ∀ x ∈ elements, ∀ y ∈ elements, shares (view x) (view y) → view x = view y

/-- One element of each view is kept, and the others are counted. -/
structure Collapsed (elements kept : List α) (dropped : Nat) : Prop where
  members : ∀ x ∈ kept, x ∈ elements
  covers : ∀ x ∈ elements, ∃ k ∈ kept, view k = view x
  once : (kept.map view).Nodup
  count : kept.length + dropped = elements.length

variable [DecidableEq β] [DecidableRel shares]

def keep (state : List α × Nat) (x : α) : Option (List α × Nat) :=
  if ∃ k ∈ state.1, view k = view x then some (state.1, state.2 + 1)
  else if ∃ k ∈ state.1, shares (view k) (view x) then none
  else some (state.1 ++ [x], state.2)

def collapse (elements : List α) : Option (List α × Nat) := elements.foldlM (keep view shares) ([], 0)
end

section
variable {α β : Type} {view : α → β} {shares : β → β → Prop} {elements kept kept' : List α} {dropped dropped' : Nat}

theorem Unambiguous.subset {more : List α} (unambiguous : Unambiguous view shares more)
    (subset : ∀ x ∈ elements, x ∈ more) : Unambiguous view shares elements :=
  fun x inside y inside' => unambiguous x (subset x inside) y (subset y inside')

/-- A kept element is known by its view. -/
theorem Collapsed.eq_of_view (collapsed : Collapsed view elements kept dropped) {x y : α} (left : x ∈ kept)
    (right : y ∈ kept) (same : view x = view y) : x = y :=
  List.inj_on_of_nodup_map collapsed.once left right same

theorem Collapsed.views (collapsed : Collapsed view elements kept dropped) (v : β) :
    v ∈ kept.map view ↔ v ∈ elements.map view := by
  rw [List.mem_map, List.mem_map]
  constructor
  · rintro ⟨k, inside, rfl⟩
    exact ⟨k, collapsed.members k inside, rfl⟩
  · rintro ⟨x, inside, rfl⟩
    exact collapsed.covers x inside

/-- Whatever the order, the same views are kept and as many elements dropped. -/
theorem Collapsed.perm {elements' : List α} (collapsed : Collapsed view elements kept dropped)
    (collapsed' : Collapsed view elements' kept' dropped') (perm : elements'.Perm elements) :
    dropped' = dropped ∧ (kept'.map view).Perm (kept.map view) := by
  have views : (kept'.map view).Perm (kept.map view) := by
    refine (List.perm_ext_iff_of_nodup collapsed'.once collapsed.once).mpr (fun v => ?_)
    rw [collapsed'.views, collapsed.views]
    exact (perm.map view).mem_iff
  have length := views.length_eq
  rw [List.length_map, List.length_map] at length
  have count := collapsed.count
  have count' := collapsed'.count
  have all := perm.length_eq
  exact ⟨by omega, views⟩

/-- An element of a known view changes nothing but the count. -/
private theorem Collapsed.again (collapsed : Collapsed view elements kept dropped)
    (unambiguous : Unambiguous view shares elements) {x k : α} (inside : k ∈ kept) (same : view k = view x) :
    Unambiguous view shares (elements ++ [x]) ∧ Collapsed view (elements ++ [x]) kept (dropped + 1) := by
  have known : ∀ y ∈ elements ++ [x], ∃ z ∈ elements, view z = view y := by
    intro y listed
    rcases List.mem_append.mp listed with before | last
    · exact ⟨y, before, rfl⟩
    · rw [List.mem_singleton.mp last]
      exact ⟨k, collapsed.members k inside, same⟩
  have counted := collapsed.count
  refine ⟨fun y left z right shared => ?_, fun y left => List.mem_append_left _ (collapsed.members y left),
    fun y listed => ?_, collapsed.once, by rw [List.length_append, List.length_singleton]; omega⟩
  · obtain ⟨y', before, own⟩ := known y left
    obtain ⟨z', before', own'⟩ := known z right
    rw [← own, ← own'] at shared ⊢
    exact unambiguous y' before z' before' shared
  · obtain ⟨z, before, own⟩ := known y listed
    obtain ⟨k', kept, first⟩ := collapsed.covers z before
    exact ⟨k', kept, first.trans own⟩

/-- An element of a new view is kept when it shares nothing with those kept before. -/
private theorem Collapsed.add (collapsed : Collapsed view elements kept dropped)
    (unambiguous : Unambiguous view shares elements) (symm : ∀ v w, shares v w → shares w v) {x : α}
    (fresh : ∀ k ∈ kept, view k ≠ view x ∧ ¬ shares (view k) (view x)) :
    Unambiguous view shares (elements ++ [x]) ∧ Collapsed view (elements ++ [x]) (kept ++ [x]) dropped := by
  have apart : ∀ y ∈ elements, ¬ shares (view y) (view x) := by
    intro y before
    obtain ⟨k, inside, own⟩ := collapsed.covers y before
    rw [← own]
    exact (fresh k inside).2
  have counted := collapsed.count
  refine ⟨fun y left z right shared => ?_, fun y left => ?_, fun y listed => ?_, ?_, ?_⟩
  · rcases List.mem_append.mp left with before | last
    · rcases List.mem_append.mp right with before' | last'
      · exact unambiguous y before z before' shared
      · rw [List.mem_singleton.mp last'] at shared
        exact absurd shared (apart y before)
    · rw [List.mem_singleton.mp last] at shared ⊢
      rcases List.mem_append.mp right with before' | last'
      · exact absurd (symm _ _ shared) (apart z before')
      · rw [List.mem_singleton.mp last']
  · exact List.mem_append.mpr ((List.mem_append.mp left).imp_left (collapsed.members y))
  · rcases List.mem_append.mp listed with before | last
    · obtain ⟨k, inside, own⟩ := collapsed.covers y before
      exact ⟨k, List.mem_append_left _ inside, own⟩
    · rw [List.mem_singleton.mp last]
      exact ⟨x, List.mem_append_right _ List.mem_cons_self, rfl⟩
  · rw [List.map_append, List.map_singleton]
    refine List.nodup_append.mpr ⟨collapsed.once, List.nodup_singleton _, fun v listed w last same => ?_⟩
    rw [List.mem_singleton.mp last] at same
    obtain ⟨k, inside, own⟩ := List.mem_map.mp listed
    exact (fresh k inside).1 (own.trans same)
  · rw [List.length_append, List.length_append, List.length_singleton]
    omega

variable [DecidableEq β] [DecidableRel shares] {x k : α}

theorem keep_again (inside : k ∈ kept) (same : view k = view x) :
    keep view shares (kept, dropped) x = some (kept, dropped + 1) :=
  if_pos ⟨k, inside, same⟩

theorem keep_clash (new : ∀ k ∈ kept, view k ≠ view x) (inside : k ∈ kept) (shared : shares (view k) (view x)) :
    keep view shares (kept, dropped) x = none := by
  have unknown : ¬ ∃ k ∈ kept, view k = view x := fun ⟨k, inside, same⟩ => new k inside same
  rw [keep, if_neg unknown, if_pos ⟨k, inside, shared⟩]

theorem keep_new (new : ∀ k ∈ kept, view k ≠ view x) (apart : ∀ k ∈ kept, ¬ shares (view k) (view x)) :
    keep view shares (kept, dropped) x = some (kept ++ [x], dropped) := by
  have unknown : ¬ ∃ k ∈ kept, view k = view x := fun ⟨k, inside, same⟩ => new k inside same
  have alone : ¬ ∃ k ∈ kept, shares (view k) (view x) := fun ⟨k, inside, shared⟩ => apart k inside shared
  rw [keep, if_neg unknown, if_neg alone]

/-- One more element is kept or dropped if the list stays unambiguous with it, and refused if not. -/
theorem keep_spec (symm : ∀ v w, shares v w → shares w v) (unambiguous : Unambiguous view shares elements)
    (collapsed : Collapsed view elements kept dropped) (x : α) :
    match keep view shares (kept, dropped) x with
    | some (kept', dropped') =>
      Unambiguous view shares (elements ++ [x]) ∧ Collapsed view (elements ++ [x]) kept' dropped'
    | none => ¬ Unambiguous view shares (elements ++ [x]) := by
  by_cases again : ∃ k ∈ kept, view k = view x
  · obtain ⟨k, inside, same⟩ := again
    rw [keep_again inside same]
    exact collapsed.again unambiguous inside same
  · have new : ∀ k ∈ kept, view k ≠ view x := fun k inside same => again ⟨k, inside, same⟩
    by_cases clash : ∃ k ∈ kept, shares (view k) (view x)
    · obtain ⟨k, inside, shared⟩ := clash
      rw [keep_clash new inside shared]
      intro still
      exact new k inside (still k (List.mem_append_left _ (collapsed.members k inside)) x
        (List.mem_append_right _ List.mem_cons_self) shared)
    · have apart : ∀ k ∈ kept, ¬ shares (view k) (view x) := fun k inside shared => clash ⟨k, inside, shared⟩
      rw [keep_new new apart]
      exact collapsed.add unambiguous symm (fun k inside => ⟨new k inside, apart k inside⟩)

private theorem foldlM_keep (symm : ∀ v w, shares v w → shares w v) (rest : List α)
    (unambiguous : Unambiguous view shares elements) (collapsed : Collapsed view elements kept dropped) :
    match rest.foldlM (keep view shares) (kept, dropped) with
    | some (kept', dropped') =>
      Unambiguous view shares (elements ++ rest) ∧ Collapsed view (elements ++ rest) kept' dropped'
    | none => ¬ Unambiguous view shares (elements ++ rest) := by
  induction rest generalizing elements kept dropped with
  | nil =>
    rw [List.append_nil]
    exact ⟨unambiguous, collapsed⟩
  | cons x rest ih =>
    have step := keep_spec symm unambiguous collapsed x
    have assoc : elements ++ x :: rest = elements ++ [x] ++ rest := by rw [List.append_assoc]; rfl
    rw [List.foldlM_cons, assoc]
    cases kept_x : keep view shares (kept, dropped) x with
    | none =>
      rw [kept_x] at step
      exact fun still => step (still.subset (fun y inside => List.mem_append_left _ inside))
    | some state =>
      rw [kept_x] at step
      exact ih step.1 step.2

/-- The pass gets through exactly the unambiguous lists, with one element of each view. -/
theorem collapse_spec (symm : ∀ v w, shares v w → shares w v) (elements : List α) :
    match collapse view shares elements with
    | some (kept, dropped) => Unambiguous view shares elements ∧ Collapsed view elements kept dropped
    | none => ¬ Unambiguous view shares elements := by
  have start : Collapsed view ([] : List α) [] 0 :=
    ⟨fun _ none => none, fun _ none => absurd none List.not_mem_nil, List.nodup_nil, rfl⟩
  exact foldlM_keep symm elements (fun _ none => absurd none List.not_mem_nil) start
end

/-! ### A loop that reads items -/

section
variable {ι ε σ α β : Type} (parse : ι → Nat → Except ε α) (add : σ → α → Except ε σ)

/-- Items are parsed, each with its number, and added to what was read before. -/
def read : Nat → List ι → σ → Except ε σ
  | _, [], state => .ok state
  | index, item :: rest, state =>
    match parse item index with
    | .error message => .error message
    | .ok x =>
      match add state x with
      | .error message => .error message
      | .ok next => read (index + 1) rest next

/-- The items are valid wherever they stand, and this is what they say. -/
def Reads (items : List ι) (elements : List α) : Prop :=
  List.Forall₂ (fun item x => ∀ index, parse item index = .ok x) items elements

/-- Where an item stands does not matter, and adding an element does to what was read what `keep` does. -/
structure Reader (view : α → β) (shares : β → β → Prop) [DecidableEq β] [DecidableRel shares]
    (output : σ → List α × Nat) (tracks : σ → Prop) : Prop where
  anywhere : ∀ {item index x}, parse item index = .ok x → ∀ other, parse item other = .ok x
  symm : ∀ v w, shares v w → shares w v
  adds : ∀ {state x next}, tracks state → add state x = .ok next →
    tracks next ∧ keep view shares (output state) x = some (output next)
  refuses : ∀ {state x message}, tracks state → add state x = .error message → keep view shares (output state) x = none
end

section
variable {ι ε σ α β : Type} {parse : ι → Nat → Except ε α} {add : σ → α → Except ε σ} {view : α → β}
  {shares : β → β → Prop} [DecidableEq β] [DecidableRel shares] {output : σ → List α × Nat} {tracks : σ → Prop}
  {items items' : List ι} {elements : List α} {start last : σ}

theorem Reads.perm (reads : Reads parse items elements) (perm : items'.Perm items) :
    ∃ elements', Reads parse items' elements' ∧ elements'.Perm elements := by
  obtain ⟨elements', perm', reads'⟩ := List.perm_comp_forall₂ perm reads
  exact ⟨elements', perm', reads'⟩

theorem Reads.parsed (reads : Reads parse items elements) : ∀ x ∈ elements, ∃ item, ∀ index, parse item index = .ok x := by
  induction reads with
  | nil => exact fun x none => absurd none List.not_mem_nil
  | cons parses _ ih =>
    intro x inside
    rcases List.mem_cons.mp inside with rfl | later
    · exact ⟨_, parses⟩
    · exact ih x later

private theorem Reader.folds (reader : Reader parse add view shares output tracks) (index : Nat) (tracked : tracks start)
    (done : read parse add index items start = .ok last) :
    ∃ elements, Reads parse items elements ∧ elements.foldlM (keep view shares) (output start) = some (output last) := by
  induction items generalizing start index with
  | nil =>
    cases done
    exact ⟨[], .nil, rfl⟩
  | cons item rest ih =>
    rw [read] at done
    cases parsed : parse item index with
    | error message => rw [parsed] at done; cases done
    | ok x =>
      rw [parsed] at done
      dsimp only at done
      cases added : add start x with
      | error message => rw [added] at done; cases done
      | ok next =>
        rw [added] at done
        obtain ⟨tracked, kept⟩ := reader.adds tracked added
        obtain ⟨elements, reads, folded⟩ := ih (index + 1) tracked done
        refine ⟨x :: elements, .cons (reader.anywhere parsed) reads, ?_⟩
        rw [List.foldlM_cons, kept]
        exact folded

private theorem Reader.reads (reader : Reader parse add view shares output tracks) (index : Nat) (tracked : tracks start)
    {state : List α × Nat} (reads : Reads parse items elements)
    (folded : elements.foldlM (keep view shares) (output start) = some state) :
    ∃ last, read parse add index items start = .ok last ∧ output last = state := by
  induction reads generalizing start index with
  | nil => exact ⟨start, rfl, Option.some.inj folded⟩
  | @cons item x rest elements parses _ ih =>
    rw [List.foldlM_cons] at folded
    rw [read, parses index]
    dsimp only
    cases added : add start x with
    | error message =>
      rw [reader.refuses tracked added] at folded
      cases folded
    | ok next =>
      obtain ⟨tracked, kept⟩ := reader.adds tracked added
      rw [kept] at folded
      exact ih (index + 1) tracked folded

/-- What was read is unambiguous, and kept but for repetitions. -/
theorem Reader.sound (reader : Reader parse add view shares output tracks) (tracked : tracks start)
    (empty : output start = ([], 0)) (done : read parse add 0 items start = .ok last) :
    ∃ elements, Reads parse items elements ∧ Unambiguous view shares elements ∧
      Collapsed view elements (output last).1 (output last).2 := by
  obtain ⟨elements, reads, folded⟩ := reader.folds 0 tracked done
  have spec := @collapse_spec α β view shares _ _ reader.symm elements
  rw [empty] at folded
  rw [collapse, folded] at spec
  exact ⟨elements, reads, spec⟩

/-- Whatever is valid and unambiguous is read. -/
theorem Reader.complete (reader : Reader parse add view shares output tracks) (tracked : tracks start)
    (empty : output start = ([], 0)) (reads : Reads parse items elements) (unambiguous : Unambiguous view shares elements) :
    ∃ last, read parse add 0 items start = .ok last ∧ Collapsed view elements (output last).1 (output last).2 := by
  have spec := @collapse_spec α β view shares _ _ reader.symm elements
  cases collapsed : collapse view shares elements with
  | none =>
    rw [collapsed] at spec
    exact absurd unambiguous spec
  | some state =>
    rw [collapsed] at spec
    rw [collapse, ← empty] at collapsed
    obtain ⟨last, done, rfl⟩ := reader.reads 0 tracked reads collapsed
    exact ⟨last, done, spec.2⟩

/-- A list that is read is read in every order, with the same views kept and as many elements dropped. -/
theorem Reader.perm (reader : Reader parse add view shares output tracks) (tracked : tracks start)
    (empty : output start = ([], 0)) (done : read parse add 0 items start = .ok last) (perm : items'.Perm items) :
    ∃ last', read parse add 0 items' start = .ok last' ∧ (output last').2 = (output last).2 ∧
      ((output last').1.map view).Perm ((output last).1.map view) := by
  obtain ⟨elements, reads, unambiguous, collapsed⟩ := reader.sound tracked empty done
  obtain ⟨elements', reads', perm'⟩ := reads.perm perm
  have still : Unambiguous view shares elements' := unambiguous.subset (fun x inside => perm'.subset inside)
  obtain ⟨last', done', collapsed'⟩ := reader.complete tracked empty reads' still
  exact ⟨last', done', collapsed.perm collapsed' perm'⟩

/-- Two computations of which each succeeds when the other does. -/
theorem both_or_neither {γ : Type} {x y : Except ε γ} {R : γ → γ → Prop} (there : ∀ a, x = .ok a → ∃ b, y = .ok b ∧ R b a)
    (back : ∀ b, y = .ok b → ∃ a, x = .ok a) :
    (∃ a b, x = .ok a ∧ y = .ok b ∧ R b a) ∨ ∃ message message', x = .error message ∧ y = .error message' := by
  cases left : x with
  | ok a =>
    obtain ⟨b, right, related⟩ := there a left
    exact .inl ⟨a, b, rfl, right, related⟩
  | error message =>
    cases right : y with
    | ok b =>
      obtain ⟨a, done⟩ := back b right
      rw [left] at done
      cases done
    | error message' => exact .inr ⟨message, message', rfl, rfl⟩
end

end SocTriage.Collapsing
