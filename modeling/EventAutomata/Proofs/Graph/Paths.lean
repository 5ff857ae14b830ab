import EventAutomata.Graph.Reachability
import EventAutomata.Proofs.Graph.Changes

/-!
# Paths along edges

Reachability with epsilon transitions included, in terms of edges. What can be reached
depends on the edges alone: graphs with the same edges agree on it
(`reachableStates_congr`), and more edges reach more (`reachableStates_mono`). So no
setting of a node, and no node that has just been added, changes what can be reached.
-/

namespace EventAutomata

namespace Graph

variable {σ α : Type} {g g' : Graph σ α} {s u v : StateId} {t : TransitionId}

theorem step_withEpsilon : g.Step Traversal.withEpsilon.follows u v ↔ ∃ t, g.Edge u t v := by
  constructor
  · rintro ⟨node, t, edge, hu, ht, hedge, -, htarget⟩
    exact ⟨t, ⟨node, hu, ht⟩, edge, hedge, htarget⟩
  · rintro ⟨t, ⟨node, hu, ht⟩, edge, hedge, htarget⟩
    exact ⟨node, t, edge, hu, ht, hedge, rfl, htarget⟩

theorem mem_reachableStates {traversal : Traversal} :
    v ∈ g.reachableStates s traversal ↔
      g.hasState s = true ∧ g.Reaches traversal.follows s v := by
  unfold reachableStates
  split
  next hs => simp [mem_closure, hs]
  next hs => simp [hs]

theorem mem_reachableStates_self (hs : g.hasState s = true) :
    s ∈ g.reachableStates s .withEpsilon :=
  mem_reachableStates.2 ⟨hs, .refl⟩

theorem mem_reachableStates_of_edge (hu : u ∈ g.reachableStates s .withEpsilon)
    (he : g.Edge u t v) : v ∈ g.reachableStates s .withEpsilon := by
  obtain ⟨hs, hsu⟩ := mem_reachableStates.1 hu
  exact mem_reachableStates.2 ⟨hs, hsu.tail (step_withEpsilon.2 ⟨t, he⟩)⟩

theorem mem_reachableTransitions_withEpsilon :
    t ∈ g.reachableTransitions s .withEpsilon ↔
      ∃ u ∈ g.reachableStates s .withEpsilon, ∃ v, g.Edge u t v := by
  rw [mem_reachableTransitions]
  simp only [mem_exits]
  constructor
  · rintro ⟨u, hu, edge, node, hnode, ht, hedge, -⟩
    exact ⟨u, hu, edge.target, ⟨node, hnode, ht⟩, edge, hedge, rfl⟩
  · rintro ⟨u, hu, v, ⟨node, hnode, ht⟩, edge, hedge, -⟩
    exact ⟨u, hu, edge, node, hnode, ht, hedge, rfl⟩

theorem reachableStates_mono (hs : g.hasState s = true → g'.hasState s = true)
    (he : ∀ u t v, g.Edge u t v → g'.Edge u t v) (hv : v ∈ g.reachableStates s .withEpsilon) :
    v ∈ g'.reachableStates s .withEpsilon := by
  obtain ⟨hex, hreach⟩ := mem_reachableStates.1 hv
  induction hreach with
  | refl => exact mem_reachableStates_self (hs hex)
  | tail hsu hstep ih =>
    obtain ⟨t, hedge⟩ := step_withEpsilon.1 hstep
    exact mem_reachableStates_of_edge (ih (mem_reachableStates.2 ⟨hex, hsu⟩)) (he _ _ _ hedge)

theorem reachableStates_congr (hs : g'.hasState s = g.hasState s)
    (he : ∀ u t v, g'.Edge u t v ↔ g.Edge u t v) :
    g'.reachableStates s .withEpsilon = g.reachableStates s .withEpsilon :=
  HandleSet.ext_mem fun _ =>
    ⟨reachableStates_mono (by simp [hs]) fun u t v => (he u t v).1,
      reachableStates_mono (by simp [hs]) fun u t v => (he u t v).2⟩

theorem reachableTransitions_congr (hs : g'.hasState s = g.hasState s)
    (he : ∀ u t v, g'.Edge u t v ↔ g.Edge u t v) :
    g'.reachableTransitions s .withEpsilon = g.reachableTransitions s .withEpsilon :=
  HandleSet.ext_mem fun t => by
    simp only [mem_reachableTransitions_withEpsilon, reachableStates_congr hs he, he]

-- ---------------------------------------------------------------------------
-- In a well-formed graph
-- ---------------------------------------------------------------------------

theorem WellFormed.hasState_of_edge (hg : g.WellFormed) (h : g.Edge u t v) :
    g.hasState v = true := by
  obtain ⟨-, edge, ht, rfl⟩ := h
  exact hg.target_exists ht

/-- Nothing dangles, so every state that is reached exists. -/
theorem WellFormed.hasState_of_reachable (hg : g.WellFormed)
    (hv : v ∈ g.reachableStates s .withEpsilon) : g.hasState v = true := by
  obtain ⟨hs, hreach⟩ := mem_reachableStates.1 hv
  cases hreach with
  | refl => exact hs
  | tail _ hstep =>
    obtain ⟨t, hedge⟩ := step_withEpsilon.1 hstep
    exact hg.hasState_of_edge hedge

theorem Extends.edge_iff [Payload σ] (h : g.Extends g') (hg : g.WellFormed) (u : StateId)
    (t : TransitionId) (v : StateId) : g'.Edge u t v ↔ g.Edge u t v := by
  simp only [Edge, h.holds_iff, and_congr_right_iff]
  intro hheld
  obtain ⟨edge, ht⟩ := Option.isSome_iff_exists.1 (hg.held_exists hheld)
  obtain ⟨edge', ht', htarget, -⟩ := h.persists.transition ht
  simp [ht, ht', htarget]

theorem edge_attach? {s : StateId} {t : TransitionId} (h : g.attach? s t = some g') {u : StateId}
    {x : TransitionId} {v : StateId} (he : g.Edge u x v) : g'.Edge u x v := by
  obtain ⟨node, edge, -, ht, -, -, -, ht'⟩ := attach?_eq_some h
  obtain ⟨hheld, e, hx, htarget⟩ := he
  refine ⟨(holds_attach? h).2 (.inr hheld), ?_⟩
  rw [ht']
  grind

end Graph

end EventAutomata
