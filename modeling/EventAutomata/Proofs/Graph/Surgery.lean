import EventAutomata.Proofs.Graph.Walks

/-!
# One edge more, one edge less

What attaching a transition adds to what can be reached, and what removing one takes away.
Both are said of the graph before the change. Attaching adds what its target reaches
(`reachableStates_attach?`): a path may take the new edge again and again, but behind the
last time it is a path of the old graph. Removing leaves what trails lead to that do not
take the edge (`mem_reachableStates_remove?`); that a cycle still leads to itself is of no
help.
-/

namespace EventAutomata

namespace Graph

variable {σ α : Type} {g g' : Graph σ α} {r s u v : StateId} {t x : TransitionId}
  {ts : List TransitionId} {edge : TransitionNode α}

theorem mem_reachableStates_trans (hu : u ∈ g.reachableStates r .withEpsilon)
    (hv : v ∈ g.reachableStates u .withEpsilon) : v ∈ g.reachableStates r .withEpsilon := by
  obtain ⟨hr, hru⟩ := mem_reachableStates.1 hu
  exact mem_reachableStates.2 ⟨hr, hru.trans (mem_reachableStates.1 hv).2⟩

-- ---------------------------------------------------------------------------
-- Attaching
-- ---------------------------------------------------------------------------

theorem leads_attach? (h : g.attach? s t = some g') :
    (∃ e, g'.transition? x = some e ∧ e.target = v) ↔
      ∃ e, g.transition? x = some e ∧ e.target = v := by
  obtain ⟨node, edge, -, ht, -, -, -, ht'⟩ := attach?_eq_some h
  rw [ht']
  by_cases hx : x = t
  · simp [hx, ht]
  · simp [hx]

theorem edge_attach?_iff (h : g.attach? s t = some g') (ht : g.transition? t = some edge) :
    g'.Edge u x v ↔ g.Edge u x v ∨ (u = s ∧ x = t ∧ v = edge.target) := by
  simp only [Edge, holds_attach? h, leads_attach? h]
  constructor
  · rintro ⟨⟨rfl, rfl⟩ | hheld, e, hx, rfl⟩
    · cases ht.symm.trans hx
      exact .inr ⟨rfl, rfl, rfl⟩
    · exact .inl ⟨hheld, e, hx, rfl⟩
  · rintro (⟨hheld, hleads⟩ | ⟨rfl, rfl, rfl⟩)
    · exact ⟨.inr hheld, hleads⟩
    · exact ⟨.inl ⟨rfl, rfl⟩, edge, ht, rfl⟩

theorem hasState_attach? (h : g.attach? s t = some g') (u : StateId) :
    g'.hasState u = g.hasState u := by
  obtain ⟨node, edge, hs, -, -, -, hs', -⟩ := attach?_eq_some h
  simp only [hasState, hs']
  by_cases hu : u = s <;> simp [hu, hs]

theorem mem_reachableStates_of_attach? (h : g.attach? s t = some g')
    (hv : v ∈ g.reachableStates r .withEpsilon) : v ∈ g'.reachableStates r .withEpsilon :=
  reachableStates_mono (fun hr => (hasState_attach? h r).trans hr) (fun _ _ _ => edge_attach? h) hv

theorem reachableStates_attach? (h : g.attach? s t = some g') (ht : g.transition? t = some edge)
    (htarget : g.hasState edge.target = true) (hs : s ∈ g.reachableStates r .withEpsilon) :
    g'.reachableStates r .withEpsilon =
      g.reachableStates r .withEpsilon ∪ g.reachableStates edge.target .withEpsilon := by
  refine HandleSet.ext_mem fun v => ?_
  rw [HandleSet.mem_union]
  constructor
  · intro hv
    obtain ⟨-, hreach⟩ := mem_reachableStates.1 hv
    induction hreach with
    | refl => exact .inl (mem_reachableStates_self (mem_reachableStates.1 hs).1)
    | tail hru hstep ih =>
      have hu := ih (mem_reachableStates.2 ⟨(mem_reachableStates.1 hv).1, hru⟩)
      obtain ⟨x, hedge⟩ := step_withEpsilon.1 hstep
      -- The old edges lead out of neither region, and the new one into the second.
      rcases (edge_attach?_iff h ht).1 hedge with hold | ⟨rfl, rfl, rfl⟩
      · exact hu.imp (fun hu => mem_reachableStates_of_edge hu hold)
          fun hu => mem_reachableStates_of_edge hu hold
      · exact .inr (mem_reachableStates_self htarget)
  · rintro (hv | hv)
    · exact mem_reachableStates_of_attach? h hv
    · have hedge : g'.Edge s t edge.target := (edge_attach?_iff h ht).2 (.inr ⟨rfl, rfl, rfl⟩)
      have hreached := mem_reachableStates_of_edge (mem_reachableStates_of_attach? h hs) hedge
      exact mem_reachableStates_trans hreached (mem_reachableStates_of_attach? h hv)

theorem reachableTransitions_attach? (h : g.attach? s t = some g')
    (ht : g.transition? t = some edge) (htarget : g.hasState edge.target = true)
    (hs : s ∈ g.reachableStates r .withEpsilon) :
    g'.reachableTransitions r .withEpsilon =
      (g.reachableTransitions r .withEpsilon ∪
        g.reachableTransitions edge.target .withEpsilon).insert t := by
  refine HandleSet.ext_mem fun x => ?_
  simp only [HandleSet.mem_insert, HandleSet.mem_union, mem_reachableTransitions_withEpsilon,
    reachableStates_attach? h ht htarget hs, edge_attach?_iff h ht]
  constructor
  · rintro ⟨u, hu | hu, v, hold | ⟨-, rfl, -⟩⟩
    · exact .inr (.inl ⟨u, hu, v, hold⟩)
    · exact .inl rfl
    · exact .inr (.inr ⟨u, hu, v, hold⟩)
    · exact .inl rfl
  · rintro (rfl | ⟨u, hu, v, hold⟩ | ⟨u, hu, v, hold⟩)
    · exact ⟨s, .inl hs, edge.target, .inr ⟨rfl, rfl, rfl⟩⟩
    · exact ⟨u, .inl hu, v, .inl hold⟩
    · exact ⟨u, .inr hu, v, .inl hold⟩

-- ---------------------------------------------------------------------------
-- Removing
-- ---------------------------------------------------------------------------

theorem leads_remove? (h : g.remove? s t = some g') :
    (∃ e, g'.transition? x = some e ∧ e.target = v) ↔
      ∃ e, g.transition? x = some e ∧ e.target = v := by
  obtain ⟨node, -, -, -, ht'⟩ := remove?_eq_some h
  rw [ht']
  by_cases hx : x = t
  · subst hx
    cases g.transition? x <;> simp
  · simp [hx]

/-- Only one state holds the transition, so there is no other edge with it. -/
theorem edge_remove?_iff (hg : g.WellFormed) (h : g.remove? s t = some g') :
    g'.Edge u x v ↔ g.Edge u x v ∧ x ≠ t := by
  simp only [Edge, holds_remove? h, leads_remove? h]
  constructor
  · rintro ⟨⟨hheld, hother⟩, hleads⟩
    refine ⟨⟨hheld, hleads⟩, ?_⟩
    rintro rfl
    exact hother ⟨hg.holder_unique hheld (holds_of_remove? h), rfl⟩
  · rintro ⟨⟨hheld, hleads⟩, hx⟩
    exact ⟨⟨hheld, fun hst => hx hst.2⟩, hleads⟩

theorem hasState_remove? (h : g.remove? s t = some g') (u : StateId) :
    g'.hasState u = g.hasState u := by
  obtain ⟨node, hs, -, hs', -⟩ := remove?_eq_some h
  simp only [hasState, hs']
  by_cases hu : u = s <;> simp [hu, hs]

/-- The trails that are left are those that do not take the edge. -/
theorem trail_remove?_iff (hg : g.WellFormed) (h : g.remove? s t = some g') :
    g'.Trail Traversal.withEpsilon.follows u ts v ↔
      g.Trail Traversal.withEpsilon.follows u ts v ∧ ¬ t ∈ ts := by
  constructor
  · intro htrail
    induction htrail with
    | nil => exact ⟨.nil, List.not_mem_nil⟩
    | cons hleg _ ih =>
      obtain ⟨hedge, hx⟩ := (edge_remove?_iff hg h).1 (leg_withEpsilon.1 hleg)
      obtain ⟨hrest, hnot⟩ := ih
      refine ⟨.cons (leg_withEpsilon.2 hedge) hrest, ?_⟩
      rintro (_ | hmem)
      · exact hx rfl
      · exact hnot ‹_›
  · rintro ⟨htrail, hnot⟩
    induction htrail with
    | nil => exact .nil
    | cons hleg _ ih =>
      obtain ⟨hx, hrest⟩ := not_or.1 (mt List.mem_cons.2 hnot)
      have hedge := (edge_remove?_iff hg h).2 ⟨leg_withEpsilon.1 hleg, Ne.symm hx⟩
      exact .cons (leg_withEpsilon.2 hedge) (ih hrest)

theorem mem_reachableStates_remove? (hg : g.WellFormed) (h : g.remove? s t = some g') :
    v ∈ g'.reachableStates r .withEpsilon ↔
      g.hasState r = true ∧
        ∃ ts, g.Trail Traversal.withEpsilon.follows r ts v ∧ ¬ t ∈ ts := by
  simp only [mem_reachableStates_iff_trail, hasState_remove? h, trail_remove?_iff hg h]

theorem WellFormed.mem_reachableTransitions_iff_owner (hg : g.WellFormed) :
    x ∈ g.reachableTransitions r .withEpsilon ↔
      ∃ u ∈ g.reachableStates r .withEpsilon, g.ownerOf x = some u := by
  rw [mem_reachableTransitions_withEpsilon]
  refine exists_congr fun u => and_congr_right fun _ => ?_
  rw [← hg.holds_iff]
  constructor
  · rintro ⟨v, hheld, -⟩
    exact hheld
  · intro hheld
    obtain ⟨edge, hx⟩ := Option.isSome_iff_exists.1 (hg.held_exists hheld)
    exact ⟨edge.target, hheld, edge, hx, rfl⟩

end Graph

end EventAutomata
