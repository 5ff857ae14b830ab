import EventAutomata.Graph.Edit

/-!
# The wiring of a graph

Which state holds which transition, and where that leads. `Holds` and `Edge` are the
views; each operation of a graph is inverted once, into what it does to the look-ups,
and everything later goes by the views.

Who holds a transition is kept twice, in the set of a state and as the owner that the
transition remembers. `WellFormed` says that the two agree and that nothing dangles.
-/

namespace EventAutomata

namespace Graph

variable {σ α : Type} {g g' : Graph σ α}

def Holds (g : Graph σ α) (s : StateId) (t : TransitionId) : Prop :=
  ∃ node, g.state? s = some node ∧ t ∈ node.outgoing

/-- The transition leads from `u`, which holds it, to `v`. -/
def Edge (g : Graph σ α) (u : StateId) (t : TransitionId) (v : StateId) : Prop :=
  g.Holds u t ∧ ∃ edge, g.transition? t = some edge ∧ edge.target = v

theorem Holds.hasState {s : StateId} {t : TransitionId} (h : g.Holds s t) :
    g.hasState s = true := by
  obtain ⟨node, hs, -⟩ := h
  simp [Graph.hasState, hs]

theorem hasState_of_state? {s : StateId} {node : StateNode σ α} (h : g.state? s = some node) :
    g.hasState s = true := by
  simp [hasState, h]

theorem ownerOf_eq_some {s : StateId} {t : TransitionId} :
    g.ownerOf t = some s ↔ ∃ edge, g.transition? t = some edge ∧ edge.owner = some s := by
  simp [ownerOf, Option.bind_eq_some_iff]

-- ---------------------------------------------------------------------------
-- What the operations do to the look-ups
-- ---------------------------------------------------------------------------

theorem state?_addState [Payload σ] (g : Graph σ α) (data : σ) (s : StateId) :
    (g.addState data).2.state? s =
      if s = (g.addState data).1 then some (.ofData data) else g.state? s := by
  simp [addState, state?, Array.getElem?_push, Handle.ext_iff]

theorem state?_addState_self [Payload σ] (g : Graph σ α) (data : σ) :
    g.state? (g.addState data).1 = none := by
  simp [addState, state?]

theorem addTransition_eq_ok {kind : TransitionKind} {target : StateId} {t : TransitionId}
    (h : g.addTransition kind target = .ok (t, g')) :
    g.hasState target = true ∧ g.transition? t = none ∧ (∀ s, g'.state? s = g.state? s) ∧
      ∀ x, g'.transition? x =
        if x = t then some { id := t, target, kind } else g.transition? x := by
  unfold addTransition at h
  split at h
  next htarget =>
    cases h
    refine ⟨htarget, by simp [transition?], fun _ => rfl, fun x => ?_⟩
    simp [transition?, Array.getElem?_push, Handle.ext_iff]
  next => cases h

theorem attach?_eq_some {s : StateId} {t : TransitionId} (h : g.attach? s t = some g') :
    ∃ node edge, g.state? s = some node ∧ g.transition? t = some edge ∧ edge.owner = none ∧
      ¬ t ∈ node.outgoing ∧
      (∀ u, g'.state? u =
        if u = s then some { node with outgoing := node.outgoing.insert t } else g.state? u) ∧
      ∀ x, g'.transition? x =
        if x = t then some { edge with owner := some s } else g.transition? x := by
  unfold attach? at h
  split at h
  next node edge hs ht =>
    split at h
    next hfree =>
      cases h
      refine ⟨node, edge, hs, ht, hfree.1, hfree.2, fun u => ?_, fun x => ?_⟩
      · simp [state?_setState, hasState_of_state? hs, eq_comm]
      · simp [transition?_setTransition, ht, eq_comm]
    next => cases h
  next => cases h

theorem remove?_eq_some {s : StateId} {t : TransitionId} (h : g.remove? s t = some g') :
    ∃ node, g.state? s = some node ∧ t ∈ node.outgoing ∧
      (∀ u, g'.state? u =
        if u = s then some { node with outgoing := node.outgoing.erase t } else g.state? u) ∧
      ∀ x, g'.transition? x =
        if x = t then (g.transition? t).map ({ · with owner := none }) else g.transition? x := by
  unfold remove? at h
  split at h
  next => cases h
  next node hs =>
    split at h
    next hmem =>
      refine ⟨node, hs, hmem, ?_⟩
      dsimp only at h
      split at h
      next ht =>
        cases h
        refine ⟨fun u => by simp [state?_setState, hasState_of_state? hs, eq_comm], fun x => ?_⟩
        rw [transition?_setState] at ht ⊢
        by_cases hx : x = t
        · simp [hx, ht]
        · simp [hx]
      next edge ht =>
        cases h
        rw [transition?_setState] at ht
        refine ⟨fun u => by simp [state?_setState, hasState_of_state? hs, eq_comm], fun x => ?_⟩
        simp [transition?_setTransition, ht, eq_comm]
    next => cases h

theorem state?_setState_of_some {s : StateId} {node : StateNode σ α} (hs : g.state? s = some node)
    (n : StateNode σ α) (u : StateId) :
    (g.setState s n).state? u = if u = s then some n else g.state? u := by
  simp [state?_setState, hasState_of_state? hs, eq_comm]

theorem transition?_setTransition_of_some {t : TransitionId} {edge : TransitionNode α}
    (ht : g.transition? t = some edge) (e : TransitionNode α) (x : TransitionId) :
    (g.setTransition t e).transition? x = if x = t then some e else g.transition? x := by
  simp [transition?_setTransition, ht, eq_comm]

-- ---------------------------------------------------------------------------
-- Who holds and who owns
-- ---------------------------------------------------------------------------

theorem holds_attach? {s u : StateId} {t x : TransitionId} (h : g.attach? s t = some g') :
    g'.Holds u x ↔ (u = s ∧ x = t) ∨ g.Holds u x := by
  obtain ⟨node, edge, hs, -, -, -, hs', -⟩ := attach?_eq_some h
  simp only [Holds, hs']
  grind [HandleSet.mem_insert]

theorem ownerOf_attach? {s : StateId} {t : TransitionId} (h : g.attach? s t = some g')
    (x : TransitionId) : g'.ownerOf x = if x = t then some s else g.ownerOf x := by
  obtain ⟨node, edge, -, ht, -, -, -, ht'⟩ := attach?_eq_some h
  simp only [ownerOf, ht']
  grind

theorem ownerOf_eq_none_of_attach? {s : StateId} {t : TransitionId}
    (h : g.attach? s t = some g') : g.ownerOf t = none := by
  obtain ⟨node, edge, -, ht, hfree, -⟩ := attach?_eq_some h
  simp [ownerOf, ht, hfree]

theorem holds_remove? {s u : StateId} {t x : TransitionId} (h : g.remove? s t = some g') :
    g'.Holds u x ↔ g.Holds u x ∧ ¬ (u = s ∧ x = t) := by
  obtain ⟨node, hs, -, hs', -⟩ := remove?_eq_some h
  simp only [Holds, hs']
  grind [HandleSet.mem_erase]

theorem ownerOf_remove? {s : StateId} {t : TransitionId} (h : g.remove? s t = some g')
    (x : TransitionId) : g'.ownerOf x = if x = t then none else g.ownerOf x := by
  obtain ⟨node, -, -, -, ht'⟩ := remove?_eq_some h
  simp only [ownerOf, ht']
  cases g.transition? t <;> grind

theorem holds_of_remove? {s : StateId} {t : TransitionId} (h : g.remove? s t = some g') :
    g.Holds s t := by
  obtain ⟨node, hs, hmem, -⟩ := remove?_eq_some h
  exact ⟨node, hs, hmem⟩

-- ---------------------------------------------------------------------------
-- Handles keep their meaning
-- ---------------------------------------------------------------------------

/-- Every node of `g` is still there in `g'`: a state with its payload, a transition with
its target and kind. -/
structure Persists (g g' : Graph σ α) : Prop where
  state : ∀ {s n}, g.state? s = some n → ∃ n', g'.state? s = some n' ∧ n'.data = n.data
  transition : ∀ {t e}, g.transition? t = some e →
    ∃ e', g'.transition? t = some e' ∧ e'.target = e.target ∧ e'.kind = e.kind

theorem Persists.refl : g.Persists g :=
  ⟨fun h => ⟨_, h, rfl⟩, fun h => ⟨_, h, rfl, rfl⟩⟩

theorem Persists.trans {g₁ g₂ : Graph σ α} (h : g.Persists g₁) (h' : g₁.Persists g₂) :
    g.Persists g₂ := by
  constructor
  · intro s n hs
    obtain ⟨n₁, hs₁, hd₁⟩ := h.state hs
    obtain ⟨n₂, hs₂, hd₂⟩ := h'.state hs₁
    exact ⟨n₂, hs₂, hd₂.trans hd₁⟩
  · intro t e ht
    obtain ⟨e₁, ht₁, htarget₁, hkind₁⟩ := h.transition ht
    obtain ⟨e₂, ht₂, htarget₂, hkind₂⟩ := h'.transition ht₁
    exact ⟨e₂, ht₂, htarget₂.trans htarget₁, hkind₂.trans hkind₁⟩

theorem Persists.hasState {s : StateId} (h : g.Persists g') (hs : g.hasState s = true) :
    g'.hasState s = true := by
  obtain ⟨n, hn⟩ := Option.isSome_iff_exists.1 hs
  obtain ⟨n', hn', -⟩ := h.state hn
  exact hasState_of_state? hn'

/-- What a transition shows of where it was made: its place, its target and its kind.
A guard may have come, but not to an epsilon transition. -/
def SameOrigin (edge edge' : TransitionNode α) : Prop :=
  edge'.id = edge.id ∧ edge'.target = edge.target ∧ edge'.kind = edge.kind ∧
    (edge'.guard = edge.guard ∨ edge.isEpsilon = false)

theorem SameOrigin.refl (edge : TransitionNode α) : SameOrigin edge edge :=
  ⟨rfl, rfl, rfl, .inl rfl⟩

-- ---------------------------------------------------------------------------
-- Well-formed graphs
-- ---------------------------------------------------------------------------

/-- The two records of who holds a transition agree, every handle that the graph keeps
names a node, and only input transitions have guards. -/
structure WellFormed (g : Graph σ α) : Prop where
  holds_iff : ∀ s t, g.Holds s t ↔ g.ownerOf t = some s
  holder_unique : ∀ {s u t}, g.Holds s t → g.Holds u t → s = u
  held_exists : ∀ {s t}, g.Holds s t → (g.transition? t).isSome = true
  owner_exists : ∀ {s t}, g.ownerOf t = some s → g.hasState s = true
  target_exists : ∀ {t edge}, g.transition? t = some edge → g.hasState edge.target = true
  id_eq : ∀ {t edge}, g.transition? t = some edge → edge.id = t
  unguarded : ∀ {t edge}, g.transition? t = some edge → edge.isEpsilon = true → edge.guard = none

/-- The other properties follow from where the transitions are and who owns them. -/
theorem WellFormed.of_views (hown : ∀ s t, g.Holds s t ↔ g.ownerOf t = some s)
    (hplace : ∀ {t edge}, g.transition? t = some edge →
      g.hasState edge.target = true ∧ edge.id = t ∧ (edge.isEpsilon = true → edge.guard = none)) :
    g.WellFormed where
  holds_iff := hown
  holder_unique hs hu := Option.some.inj (((hown _ _).1 hs).symm.trans ((hown _ _).1 hu))
  held_exists h := by
    obtain ⟨edge, ht, -⟩ := ownerOf_eq_some.1 ((hown _ _).1 h)
    simp [ht]
  owner_exists h := ((hown _ _).2 h).hasState
  target_exists h := (hplace h).1
  id_eq h := (hplace h).2.1
  unguarded h := (hplace h).2.2

theorem wellFormed_empty : (∅ : Graph σ α).WellFormed := by
  have hs : ∀ s, (∅ : Graph σ α).state? s = none := fun _ => rfl
  have ht : ∀ t, (∅ : Graph σ α).transition? t = none := fun _ => rfl
  refine .of_views (fun s t => ?_) fun {t edge} h => ?_
  · simp [Holds, ownerOf, hs, ht]
  · rw [ht] at h
    cases h

end Graph

end EventAutomata
