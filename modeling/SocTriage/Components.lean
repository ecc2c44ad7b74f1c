import Mathlib.Combinatorics.SimpleGraph.Connectivity.Connected

/-!
Connected components kept by labels. A labelling of a graph names the nontrivial
components: two vertices share a label exactly when they are connected, and a vertex
without neighbours has none. When a vertex without neighbours gets its edges, relabelling
everything its neighbours reach with one label keeps the labelling.
-/
namespace SocTriage.Components
variable {α κ : Type} {G H : SimpleGraph α} {label : α → Option κ} {x : α} {neighbours : Set α} {target : κ}

/-- The labels are the nontrivial components of the graph. -/
structure Labels (G : SimpleGraph α) (label : α → Option κ) : Prop where
  connected : ∀ {a k}, label a = some k → ∀ b, G.Reachable a b ↔ label b = some k
  labelled : ∀ a, label a ≠ none ↔ ∃ b, G.Adj a b

/-- `H` is `G` with the edges of `x`, which had none. -/
structure Extends (G H : SimpleGraph α) (x : α) (neighbours : Set α) : Prop where
  isolated : ∀ b, ¬ G.Adj x b
  adj : ∀ a b, H.Adj a b ↔ G.Adj a b ∨ (a = x ∧ b ∈ neighbours) ∨ (b = x ∧ a ∈ neighbours)

/-- What the new edges connect with `x`. -/
def Merged (G : SimpleGraph α) (x : α) (neighbours : Set α) (a : α) : Prop :=
  a = x ∨ ∃ n ∈ neighbours, G.Reachable n a

/-- The vertices a relabelling with `target` touches, in terms of the old labels. -/
def Touched (label : α → Option κ) (x : α) (neighbours : Set α) (a : α) : Prop :=
  a = x ∨ a ∈ neighbours ∨ ∃ n ∈ neighbours, ∃ k, label n = some k ∧ label a = some k

theorem Extends.le (extends' : Extends G H x neighbours) : G ≤ H := by
  intro a b edge
  exact (extends'.adj a b).mpr (.inl edge)

/-- A vertex without neighbours reaches only itself. -/
theorem reachable_isolated {a b : α} (isolated : ∀ c, ¬ G.Adj a c) (path : G.Reachable a b) : a = b := by
  obtain ⟨walk⟩ := path
  cases walk with
  | nil => rfl
  | cons edge _ => exact absurd edge (isolated _)

/-- Connection in the extended graph: as before, or through `x`. -/
theorem Extends.reachable_iff (extends' : Extends G H x neighbours) (a b : α) :
    H.Reachable a b ↔ G.Reachable a b ∨ (Merged G x neighbours a ∧ Merged G x neighbours b) := by
  constructor
  · rintro ⟨walk⟩
    induction walk with
    | nil => exact .inl (SimpleGraph.Reachable.refl _)
    | @cons a c b edge _ ih =>
      rcases (extends'.adj a c).mp edge with old | ⟨rfl, inside⟩ | ⟨rfl, inside⟩
      · rcases ih with path | ⟨merged, merged'⟩
        · exact .inl (old.reachable.trans path)
        · refine .inr ⟨?_, merged'⟩
          rcases merged with rfl | ⟨n, inside, path⟩
          · exact absurd old.symm (extends'.isolated a)
          · exact .inr ⟨n, inside, path.trans old.symm.reachable⟩
      · refine .inr ⟨.inl rfl, ?_⟩
        rcases ih with path | ⟨_, merged'⟩
        · exact .inr ⟨c, inside, path⟩
        · exact merged'
      · refine .inr ⟨.inr ⟨a, inside, SimpleGraph.Reachable.refl _⟩, ?_⟩
        rcases ih with path | ⟨_, merged'⟩
        · exact .inl (reachable_isolated extends'.isolated path).symm
        · exact merged'
  · have toX : ∀ c, Merged G x neighbours c → H.Reachable c x := by
      rintro c (rfl | ⟨n, inside, path⟩)
      · exact SimpleGraph.Reachable.refl _
      · have edge : H.Adj n x := (extends'.adj n x).mpr (.inr (.inr ⟨rfl, inside⟩))
        exact (path.mono extends'.le).symm.trans edge.reachable
    rintro (path | ⟨merged, merged'⟩)
    · exact path.mono extends'.le
    · exact (toX a merged).trans (toX b merged').symm

/-- The old labels tell what is merged. -/
theorem Labels.merged_iff (labels : Labels G label) (isolated : ∀ b, ¬ G.Adj x b) (a : α) :
    Merged G x neighbours a ↔ Touched label x neighbours a := by
  constructor
  · rintro (rfl | ⟨n, inside, path⟩)
    · exact .inl rfl
    · cases named : label n with
      | none =>
        have lonely : ∀ b, ¬ G.Adj n b := fun b edge => (labels.labelled n).mpr ⟨b, edge⟩ named
        exact .inr (.inl (reachable_isolated lonely path ▸ inside))
      | some k => exact .inr (.inr ⟨n, inside, k, named, (labels.connected named a).mp path⟩)
  · rintro (rfl | inside | ⟨n, inside, k, named, same⟩)
    · exact .inl rfl
    · exact .inr ⟨a, inside, SimpleGraph.Reachable.refl _⟩
    · exact .inr ⟨n, inside, (labels.connected named a).mpr same⟩

/-- Relabelling what the new edges connect keeps the labelling, when the target is one of
    the labels merged or names no component yet. -/
theorem Labels.extend (labels : Labels G label) (extends' : Extends G H x neighbours) (some_neighbour : neighbours.Nonempty)
    (apart : x ∉ neighbours) (target_free : (∃ n ∈ neighbours, label n = some target) ∨ ∀ a, label a ≠ some target)
    {label' : α → Option κ} (relabelled : ∀ a, Touched label x neighbours a → label' a = some target)
    (kept : ∀ a, ¬ Touched label x neighbours a → label' a = label a) : Labels H label' := by
  have merged : ∀ a, Merged G x neighbours a ↔ Touched label x neighbours a := labels.merged_iff extends'.isolated
  have unlabelled : label x = none := by
    by_contra named
    obtain ⟨b, edge⟩ := (labels.labelled x).mp named
    exact extends'.isolated b edge
  -- Only what is merged has the target afterwards.
  have targeted : ∀ a, label' a = some target ↔ Touched label x neighbours a := by
    intro a
    refine ⟨fun same => ?_, relabelled a⟩
    by_contra untouched
    rw [kept a untouched] at same
    rcases target_free with ⟨n, inside, named⟩ | free
    · exact untouched (.inr (.inr ⟨n, inside, target, named, same⟩))
    · exact free a same
  constructor
  · intro a k named b
    rw [extends'.reachable_iff, merged, merged]
    by_cases touched : Touched label x neighbours a
    · have same : k = target := by rw [relabelled a touched] at named; exact (Option.some.inj named).symm
      rw [same, targeted b]
      constructor
      · rintro (path | ⟨_, touched'⟩)
        · rw [← merged] at touched ⊢
          rcases touched with rfl | ⟨n, inside, before⟩
          · exact .inl (reachable_isolated extends'.isolated path).symm
          · exact .inr ⟨n, inside, before.trans path⟩
        · exact touched'
      · intro touched'
        exact .inr ⟨touched, touched'⟩
    · rw [kept a touched] at named
      rw [labels.connected named b]
      have other : k ≠ target := by
        rintro rfl
        exact touched ((targeted a).mp (by rw [kept a touched, named]))
      by_cases touched' : Touched label x neighbours b
      · rw [relabelled b touched']
        constructor
        · rintro (same | ⟨mine, _⟩)
          · exfalso
            rw [← merged] at touched'
            rcases touched' with rfl | ⟨n, inside, path⟩
            · rw [unlabelled] at same; contradiction
            · have back : G.Reachable a n := ((labels.connected named b).mpr same).trans path.symm
              exact touched ((merged a).mp (.inr ⟨n, inside, back.symm⟩))
          · exact absurd mine touched
        · intro same
          exact absurd (Option.some.inj same).symm other
      · rw [kept b touched']
        constructor
        · rintro (same | ⟨mine, _⟩)
          · exact same
          · exact absurd mine touched
        · exact .inl
  · intro a
    by_cases touched : Touched label x neighbours a
    · rw [relabelled a touched]
      simp only [ne_eq, reduceCtorEq, not_false_eq_true, true_iff]
      rcases touched with rfl | inside | ⟨n, inside, k, named, same⟩
      · obtain ⟨n, inside⟩ := some_neighbour
        exact ⟨n, (extends'.adj a n).mpr (.inr (.inl ⟨rfl, inside⟩))⟩
      · exact ⟨x, (extends'.adj a x).mpr (.inr (.inr ⟨rfl, inside⟩))⟩
      · obtain ⟨b, edge⟩ := (labels.labelled a).mp (by rw [same]; exact Option.some_ne_none k)
        exact ⟨b, extends'.le edge⟩
    · rw [kept a touched, labels.labelled a]
      refine exists_congr (fun b => ?_)
      rw [extends'.adj]
      refine ⟨.inl, ?_⟩
      rintro (edge | ⟨rfl, _⟩ | ⟨rfl, inside⟩)
      · exact edge
      · exact absurd (.inl rfl) touched
      · exact absurd (.inr (.inl inside)) touched

/-- A vertex without edges changes nothing. -/
theorem Labels.congr (labels : Labels G label) (same : ∀ a b, H.Adj a b ↔ G.Adj a b) : Labels H label := by
  have equal : H = G := by ext a b; exact same a b
  exact equal ▸ labels

/-- The labels in use are the components with more than one vertex. -/
theorem Labels.components (labels : Labels G label) (s : Set α) :
    (∃ k, (∃ a, label a = some k) ∧ s = {a | label a = some k}) ↔
      ∃ component : G.ConnectedComponent, s = component.supp ∧ s.Nontrivial := by
  have support : ∀ {a k}, label a = some k → (G.connectedComponentMk a).supp = {b | label b = some k} := by
    intro a k named
    ext b
    rw [SimpleGraph.ConnectedComponent.mem_supp_iff, SimpleGraph.ConnectedComponent.eq]
    exact ⟨fun path => (labels.connected named b).mp path.symm, fun same => ((labels.connected named b).mpr same).symm⟩
  constructor
  · rintro ⟨k, ⟨a, named⟩, rfl⟩
    refine ⟨G.connectedComponentMk a, (support named).symm, ?_⟩
    obtain ⟨b, edge⟩ := (labels.labelled a).mp (by rw [named]; exact Option.some_ne_none k)
    exact ⟨a, named, b, (labels.connected named b).mp edge.reachable, edge.ne⟩
  · rintro ⟨component, rfl, a, inside, b, inside', distinct⟩
    rw [SimpleGraph.ConnectedComponent.mem_supp_iff] at inside inside'
    subst inside
    have path : G.Reachable a b := (SimpleGraph.ConnectedComponent.exact inside').symm
    cases named : label a with
    | none =>
      have lonely : ∀ c, ¬ G.Adj a c := fun c edge => (labels.labelled a).mpr ⟨c, edge⟩ named
      exact absurd (reachable_isolated lonely path) distinct
    | some k => exact ⟨k, ⟨a, named⟩, support named⟩

end SocTriage.Components
