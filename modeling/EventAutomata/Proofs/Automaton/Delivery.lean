import EventAutomata.Graph.Query
import EventAutomata.Proofs.Automaton.Cursor

/-!
# Deliveries and direct transits

A delivery asks two things more than a direct transit: whether the transition is
subscribed and whether some state is current. Under the strict policy neither of the two
ever makes a difference. What leaves the current state can be reached from the start
state, as the current state can, so it is subscribed.
-/

namespace EventAutomata

namespace Automaton

variable {σ α : Type} {a : Automaton σ α} {t : TransitionId}

/-- The transition leaves the current state, as the current state sees it. -/
def Leaves (a : Automaton σ α) (t : TransitionId) : Prop :=
  ∃ c, a.current = some c ∧ a.graph.Holds c t

theorem Leaves.edge (h : a.Leaves t) (hg : a.graph.WellFormed) :
    ∃ edge, a.graph.transition? t = some edge := by
  obtain ⟨c, -, hheld⟩ := h
  exact Option.isSome_iff_exists.1 (hg.held_exists hheld)

theorem leavesCurrent_iff_leaves {edge : TransitionNode α} (hg : a.graph.WellFormed)
    (hx : a.graph.transition? t = some edge) : a.leavesCurrent edge = true ↔ a.Leaves t := by
  rw [leavesCurrent_iff]
  refine exists_congr fun c => and_congr_right fun _ => ?_
  rw [hg.holds_iff, Graph.ownerOf, hx]
  rfl

theorem Leaves.subscribed (h : a.Leaves t) (ht : a.Tracked) (hc : a.CursorInside) :
    a.registry.contains t = true := by
  obtain ⟨edge, hx⟩ := h.edge ht.graph
  obtain ⟨c, hcur, hheld⟩ := h
  exact ht.contains_iff.2 (mem_transitions.2 ⟨c, hc c hcur, _, edge_of_holds hheld hx⟩)

theorem canTransit_iff_leaves (hg : a.graph.WellFormed) (hunguarded : a.graph.guard? t = none)
    (args : List α) : a.canTransit t args = .ok true ↔ a.Leaves t := by
  unfold canTransit
  cases hx : a.graph.transition? t with
  | none =>
    refine ⟨nofun, fun h => ?_⟩
    obtain ⟨edge, hx'⟩ := h.edge hg
    rw [hx] at hx'
    cases hx'
  | some edge =>
    have hguard : edge.guard = none := by simpa [Graph.guard?, hx] using hunguarded
    rw [← leavesCurrent_iff_leaves hg hx]
    cases hleaves : a.leavesCurrent edge <;> simp [hleaves, hguard]

variable [Payload σ] {args : List α} {h : Hub α}

theorem transit_of_not_leaves (hg : a.graph.WellFormed) (hstrict : a.config.policy = .strict)
    (hleaves : ¬ a.Leaves t) : a.transit t args h = (.ok false, a, h) := by
  rcases a.transit_cases t args h with ⟨heq, -⟩ | ⟨edge, hx, hpolicy, -, -⟩
  · exact heq
  · exact absurd ((leavesCurrent_iff_leaves hg hx).1 (hpolicy hstrict)) hleaves

/-- Breaking down on the way counts as accepted. -/
theorem transit_accepts_iff (hg : a.graph.WellFormed) (hstrict : a.config.policy = .strict) :
    (a.transit t args h).1 ≠ .ok false ↔ a.Leaves t := by
  rcases a.transit_cases t args h with ⟨heq, hrefused⟩ | ⟨edge, hx, hpolicy, haccepted, -⟩
  · refine iff_of_false (by simp [heq]) fun hleaves => ?_
    obtain ⟨edge, hx⟩ := hleaves.edge hg
    have hyes := (leavesCurrent_iff_leaves hg hx).2 hleaves
    simp [(hrefused edge hx).2] at hyes
  · exact iff_of_true haccepted ((leavesCurrent_iff_leaves hg hx).1 (hpolicy hstrict))

theorem deliver_of_subscribed (hsub : a.registry.contains t = true) {c : StateId}
    (hcur : a.current = some c) : a.deliver ⟨t, args⟩ h = a.transit t args h := by
  unfold deliver
  rw [if_pos hsub, hcur]

theorem deliver_eq_transit (ht : a.Tracked) (hc : a.CursorInside)
    (hstrict : a.config.policy = .strict) : a.deliver ⟨t, args⟩ h = a.transit t args h := by
  by_cases hleaves : a.Leaves t
  · obtain ⟨c, hcur, -⟩ := id hleaves
    exact deliver_of_subscribed (hleaves.subscribed ht hc) hcur
  · rw [transit_of_not_leaves ht.graph hstrict hleaves]
    rcases a.deliver_cases ⟨t, args⟩ h with heq | ⟨-, heq⟩
    · exact heq
    · rw [heq, transit_of_not_leaves ht.graph hstrict hleaves]

/-- Under the strict policy a signal that is fired does what a direct transit does, and
both are taken exactly if the transition leaves the current state. -/
theorem strict_deliver_is_transit (limit : Option Nat) (hub : Hub α) (turns : List (Turn σ α))
    (t : TransitionId) (args : List α) (h : Hub α) :
    let a := (live (create ⟨.strict, limit⟩ hub) turns).1
    a.deliver ⟨t, args⟩ h = a.transit t args h ∧
      ((a.transit t args h).1 ≠ .ok false ↔ a.Leaves t) ∧
      (a.graph.guard? t = none → (a.canTransit t args = .ok true ↔ a.Leaves t)) := by
  intro a
  have hstrict : a.config.policy = .strict := by rw [config_live]
  have ht : a.Tracked := tracked_live _ hub turns
  have hc : a.CursorInside := cursorInside_live (.inl rfl)
  exact ⟨deliver_eq_transit ht hc hstrict, transit_accepts_iff ht.graph hstrict,
    fun hunguarded => canTransit_iff_leaves ht.graph hunguarded args⟩

end Automaton

end EventAutomata
