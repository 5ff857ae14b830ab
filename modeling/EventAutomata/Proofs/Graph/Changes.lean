import EventAutomata.Proofs.Graph.Wiring

/-!
# Changes of a graph

`Change` lists what can happen to a graph as long as no nodes are exchanged, and every
edit and every setting is one such change. No change keeps a graph from being well formed
(`Change.wellFormed`), and after it every handle means what it did (`Change.persists`).
-/

namespace EventAutomata

namespace Graph

variable {σ α : Type} {g g' : Graph σ α}

theorem accepted_keeps {β : Type} {P : β → Prop} {old : β} {new? : Option β} (hold : P old)
    (hnew : ∀ new, new? = some new → P new) : P (accepted old new?).2 := by
  cases new? with
  | none => exact hold
  | some new => exact hnew new rfl

theorem acceptedUnless_keeps {β : Type} {P : β → Prop} {old : β} {new? : Option β}
    {check : Except Misuse Unit} (hold : P old) (hnew : ∀ new, new? = some new → P new) :
    P (acceptedUnless old (check.map fun _ => new?)).2 := by
  cases check with
  | error problem => exact hold
  | ok _ => exact accepted_keeps hold hnew

theorem accepted_eq_true {β : Type} {old new : β} {new? : Option β} :
    accepted old new? = (.flag true, new) ↔ new? = some new := by
  cases new? <;> simp [accepted]

theorem accepted_answer {β : Type} (old : β) (new? : Option β) :
    (accepted old new?).1 = .flag new?.isSome := by
  cases new? <;> rfl

/-- A node is added, or set up in a way that leaves its wiring alone, if anything
changes. Only an input transition can be given a guard. -/
inductive Extends [Payload σ] (g : Graph σ α) : Graph σ α → Prop
  | same : Extends g g
  | addState (data : σ) : Extends g (g.addState data).2
  | addTransition {kind : TransitionKind} {target : StateId} {t : TransitionId} {g' : Graph σ α} :
      g.addTransition kind target = .ok (t, g') → Extends g g'
  | setState {s : StateId} {node node' : StateNode σ α} :
      g.state? s = some node → node'.data = node.data → node'.outgoing = node.outgoing →
      Extends g (g.setState s node')
  | setTransition {t : TransitionId} {edge edge' : TransitionNode α} :
      g.transition? t = some edge → SameOrigin edge edge' → edge'.owner = edge.owner →
      Extends g (g.setTransition t edge')

/-- One change of a graph whose nodes are not exchanged. -/
inductive Change [Payload σ] (g : Graph σ α) : Graph σ α → Prop
  | extend {g' : Graph σ α} : g.Extends g' → Change g g'
  | attach {s : StateId} {t : TransitionId} {g' : Graph σ α} :
      g.attach? s t = some g' → Change g g'
  | remove {s : StateId} {t : TransitionId} {g' : Graph σ α} :
      g.remove? s t = some g' → Change g g'

variable [Payload σ]

-- ---------------------------------------------------------------------------
-- Edits and settings
-- ---------------------------------------------------------------------------

theorem change_edit (g : Graph σ α) (e : Edit σ) : g.Change (g.edit e).2 := by
  cases e with
  | addState data => exact .extend (.addState data)
  | addTransition kind target =>
    simp only [edit]
    split
    next t g' h => exact .extend (.addTransition h)
    next => exact .extend .same
  | attach s t => exact accepted_keeps (.extend .same) fun g' h => .attach h
  | remove s t => exact accepted_keeps (.extend .same) fun g' h => .remove h
  | attachEpsilon s t => exact acceptedUnless_keeps (.extend .same) fun g' h => .attach h
  | removeEpsilon s t => exact acceptedUnless_keeps (.extend .same) fun g' h => .remove h

theorem extends_changeState {s : StateId} {f : StateNode σ α → StateNode σ α}
    (hf : ∀ n, (f n).data = n.data ∧ (f n).outgoing = n.outgoing) :
    g.Extends (g.changeState s f).2 := by
  unfold changeState
  split
  next => exact .same
  next node hs => exact .setState hs (hf node).1 (hf node).2

theorem extends_configure (g : Graph σ α) (setting : Setting (Script α) α) :
    g.Extends (g.configure setting).2 := by
  cases setting with
  | terminal s value => exact extends_changeState fun _ => ⟨rfl, rfl⟩
  | onEntry s script => exact extends_changeState fun _ => ⟨rfl, rfl⟩
  | onExit s script => exact extends_changeState fun _ => ⟨rfl, rfl⟩
  | onTransit t script =>
    simp only [configure, changeTransition]
    split
    next => exact .same
    next edge ht => exact .setTransition ht ⟨rfl, rfl, rfl, .inl rfl⟩ rfl
  | guard t guard =>
    simp only [configure, changeTransition, TransitionNode.setGuard]
    split
    next => exact .same
    next edge ht =>
      cases he : edge.isEpsilon with
      | true => exact .same
      | false => exact .setTransition ht ⟨rfl, rfl, rfl, .inr he⟩ rfl

-- ---------------------------------------------------------------------------
-- What a change keeps
-- ---------------------------------------------------------------------------

theorem Extends.persists (h : g.Extends g') : g.Persists g' := by
  cases h with
  | same => exact .refl
  | addState data =>
    refine ⟨fun {s n} hs => ⟨n, ?_, rfl⟩, fun ht => ⟨_, ht, rfl, rfl⟩⟩
    have hfresh := state?_addState_self g data
    grind [state?_addState]
  | addTransition h =>
    obtain ⟨-, hfresh, hs', ht'⟩ := addTransition_eq_ok h
    refine ⟨fun {s n} hs => ⟨n, (hs' s).trans hs, rfl⟩, fun {x e} hx => ⟨e, ?_, rfl, rfl⟩⟩
    grind
  | setState hs hdata hout =>
    refine ⟨fun {u n} hu => ?_, fun ht => ⟨_, ht, rfl, rfl⟩⟩
    rw [state?_setState_of_some hs]
    grind
  | setTransition ht hsame howner =>
    obtain ⟨-, htarget, hkind, -⟩ := hsame
    refine ⟨fun hs => ⟨_, hs, rfl⟩, fun {x e} hx => ?_⟩
    rw [transition?_setTransition_of_some ht]
    grind

theorem Change.persists (h : g.Change g') : g.Persists g' := by
  cases h with
  | extend h => exact h.persists
  | attach h =>
    obtain ⟨node, edge, hs, ht, -, -, hs', ht'⟩ := attach?_eq_some h
    constructor
    · intro u n hu
      rw [hs']
      grind
    · intro x e hx
      rw [ht']
      grind
  | remove h =>
    obtain ⟨node, hs, -, hs', ht'⟩ := remove?_eq_some h
    constructor
    · intro u n hu
      rw [hs']
      grind
    · intro x e hx
      rw [ht']
      grind

theorem Extends.holds_iff (h : g.Extends g') {s : StateId} {t : TransitionId} :
    g'.Holds s t ↔ g.Holds s t := by
  cases h with
  | same => exact Iff.rfl
  | addState data =>
    have hfresh := state?_addState_self g data
    have hnone : ¬ t ∈ (StateNode.ofData (α := α) data).outgoing := HandleSet.not_mem_empty t
    simp only [Holds, state?_addState]
    grind
  | addTransition h =>
    obtain ⟨-, -, hs', -⟩ := addTransition_eq_ok h
    simp only [Holds, hs']
  | setState hs hdata hout =>
    simp only [Holds, state?_setState_of_some hs]
    grind
  | setTransition => exact Iff.rfl

theorem Extends.ownerOf_eq (h : g.Extends g') (t : TransitionId) : g'.ownerOf t = g.ownerOf t := by
  cases h with
  | same => rfl
  | addState data => rfl
  | addTransition h =>
    obtain ⟨-, hfresh, -, ht'⟩ := addTransition_eq_ok h
    simp only [ownerOf, ht']
    grind
  | setState => rfl
  | setTransition ht hsame howner =>
    simp only [ownerOf, transition?_setTransition_of_some ht]
    grind

/-- A transition was there before the change, or it has just been made and leads to a
state that was there. -/
theorem Change.origin (h : g.Change g') {t : TransitionId} {edge' : TransitionNode α}
    (ht : g'.transition? t = some edge') :
    (∃ edge, g.transition? t = some edge ∧ SameOrigin edge edge') ∨
      ∃ kind target, g.hasState target = true ∧ edge' = { id := t, target, kind } := by
  cases h with
  | extend h =>
    cases h with
    | same => exact .inl ⟨edge', ht, SameOrigin.refl edge'⟩
    | addState data => exact .inl ⟨edge', ht, SameOrigin.refl edge'⟩
    | addTransition h =>
      obtain ⟨htarget, -, -, ht'⟩ := addTransition_eq_ok h
      rw [ht'] at ht
      split at ht
      next heq =>
        cases ht
        exact .inr ⟨_, _, htarget, by rw [heq]⟩
      next => exact .inl ⟨edge', ht, SameOrigin.refl edge'⟩
    | setState => exact .inl ⟨edge', ht, SameOrigin.refl edge'⟩
    | setTransition hx hsame howner =>
      rw [transition?_setTransition_of_some hx] at ht
      split at ht
      next heq =>
        cases ht
        exact .inl ⟨_, heq ▸ hx, hsame⟩
      next => exact .inl ⟨edge', ht, SameOrigin.refl edge'⟩
  | attach h =>
    obtain ⟨node, edge, -, hx, -, -, -, ht'⟩ := attach?_eq_some h
    rw [ht'] at ht
    split at ht
    next heq =>
      cases ht
      exact .inl ⟨edge, heq ▸ hx, SameOrigin.refl edge⟩
    next => exact .inl ⟨edge', ht, SameOrigin.refl edge'⟩
  | remove h =>
    obtain ⟨node, -, -, -, ht'⟩ := remove?_eq_some h
    rw [ht'] at ht
    split at ht
    next heq =>
      obtain ⟨edge, hx, rfl⟩ := Option.map_eq_some_iff.1 ht
      exact .inl ⟨edge, heq ▸ hx, SameOrigin.refl edge⟩
    next => exact .inl ⟨edge', ht, SameOrigin.refl edge'⟩

theorem Change.holds_iff (h : g.Change g') (hg : g.WellFormed) (s : StateId) (t : TransitionId) :
    g'.Holds s t ↔ g'.ownerOf t = some s := by
  cases h with
  | extend h => rw [h.holds_iff, h.ownerOf_eq, hg.holds_iff]
  | attach h =>
    have hnone := ownerOf_eq_none_of_attach? h
    rw [holds_attach? h, ownerOf_attach? h, hg.holds_iff]
    grind
  | remove h =>
    have hown := (hg.holds_iff _ _).1 (holds_of_remove? h)
    rw [holds_remove? h, ownerOf_remove? h, hg.holds_iff]
    grind

theorem Change.wellFormed (h : g.Change g') (hg : g.WellFormed) : g'.WellFormed := by
  refine .of_views (h.holds_iff hg) fun {t edge'} ht => ?_
  rcases h.origin ht with ⟨edge, hx, hid, htarget, hkind, hguard⟩ | ⟨kind, target, htarget, rfl⟩
  · refine ⟨?_, hid.trans (hg.id_eq hx), fun he => ?_⟩
    · rw [htarget]
      exact h.persists.hasState (hg.target_exists hx)
    · have heps : edge.isEpsilon = true := by rwa [TransitionNode.isEpsilon, ← hkind]
      rcases hguard with hguard | hinput
      · rw [hguard, hg.unguarded hx heps]
      · rw [heps] at hinput
        cases hinput
  · exact ⟨h.persists.hasState htarget, rfl, fun _ => rfl⟩

end Graph

end EventAutomata
