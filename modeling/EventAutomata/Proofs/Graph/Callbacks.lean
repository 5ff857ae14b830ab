import EventAutomata.Proofs.Graph.Changes

/-!
# The callbacks of a graph

What holds of every callback of a graph holds of every callback that is there later, if it holds
of those that are set meanwhile. An edit sets none. An exchange takes them from the one graph to
the other, so there it must hold in both.
-/

namespace EventAutomata

variable {σ α χ : Type} {P : Script α → Prop}

def StateNode.AllCallbacks (P : Script α → Prop) (n : StateNode σ α) : Prop :=
  ∀ script, n.onEntry = some script ∨ n.onExit = some script → P script

def TransitionNode.AllCallbacks (P : Script α → Prop) (n : TransitionNode α) : Prop :=
  ∀ script, n.onTransit = some script → P script

namespace Graph

variable {g g' h h' : Graph σ α}

def HasCallback (g : Graph σ α) (script : Script α) : Prop :=
  (∃ s n, g.state? s = some n ∧ (n.onEntry = some script ∨ n.onExit = some script)) ∨
    ∃ t n, g.transition? t = some n ∧ n.onTransit = some script

def AllCallbacks (P : Script α → Prop) (g : Graph σ α) : Prop :=
  ∀ script, g.HasCallback script → P script

def Setting.callback? : Setting χ α → Option χ
  | .onEntry _ callback | .onExit _ callback | .onTransit _ callback => some callback
  | .terminal .. | .guard .. => none

namespace AllCallbacks

theorem empty : (∅ : Graph σ α).AllCallbacks P := by
  rintro script (⟨s, n, hs, -⟩ | ⟨t, n, ht, -⟩)
  · cases hs
  · cases ht

theorem state? (hg : g.AllCallbacks P) {s : StateId} {n : StateNode σ α}
    (hs : g.state? s = some n) : n.AllCallbacks P :=
  fun script hscript => hg script (.inl ⟨s, n, hs, hscript⟩)

theorem transition? (hg : g.AllCallbacks P) {t : TransitionId} {n : TransitionNode α}
    (ht : g.transition? t = some n) : n.AllCallbacks P :=
  fun script hscript => hg script (.inr ⟨t, n, ht, hscript⟩)

theorem of_nodes (hstates : ∀ s n, g.state? s = some n → n.AllCallbacks P)
    (htransitions : ∀ t n, g.transition? t = some n → n.AllCallbacks P) : g.AllCallbacks P := by
  rintro script (⟨s, n, hs, hscript⟩ | ⟨t, n, ht, hscript⟩)
  · exact hstates s n hs script hscript
  · exact htransitions t n ht script hscript

theorem setState (hg : g.AllCallbacks P) {n : StateNode σ α} (hn : n.AllCallbacks P) (s : StateId) :
    (g.setState s n).AllCallbacks P := by
  refine of_nodes (fun u m hm => ?_) fun t m hm => hg.transition? hm
  rw [state?_setState] at hm
  split at hm
  next =>
    split at hm
    next => cases hm; exact hn
    next => cases hm
  next => exact hg.state? hm

theorem setTransition (hg : g.AllCallbacks P) {n : TransitionNode α} (hn : n.AllCallbacks P)
    (t : TransitionId) : (g.setTransition t n).AllCallbacks P := by
  refine of_nodes (fun s m hm => hg.state? hm) fun u m hm => ?_
  rw [transition?_setTransition] at hm
  split at hm
  next =>
    split at hm
    next => cases hm; exact hn
    next => cases hm
  next => exact hg.transition? hm

-- ---------------------------------------------------------------------------
-- Edits and settings
-- ---------------------------------------------------------------------------

theorem ofData [Payload σ] (data : σ) : (StateNode.ofData data : StateNode σ α).AllCallbacks P := by
  rintro script (hscript | hscript) <;> cases hscript

theorem addState [Payload σ] (hg : g.AllCallbacks P) (data : σ) :
    (g.addState data).2.AllCallbacks P := by
  refine of_nodes (fun s m hm => ?_) fun t m hm => hg.transition? hm
  rw [state?_addState] at hm
  split at hm
  next => cases hm; exact ofData data
  next => exact hg.state? hm

theorem addTransition (hg : g.AllCallbacks P) {kind : TransitionKind} {target : StateId}
    {t : TransitionId} (h : g.addTransition kind target = .ok (t, g')) : g'.AllCallbacks P := by
  obtain ⟨-, -, hstates, htransitions⟩ := addTransition_eq_ok h
  refine of_nodes (fun s m hm => hg.state? (hstates s ▸ hm)) fun u m hm => ?_
  rw [htransitions] at hm
  split at hm
  next => cases hm; exact nofun
  next => exact hg.transition? hm

theorem attach? (hg : g.AllCallbacks P) {s : StateId} {t : TransitionId}
    (h : g.attach? s t = some g') : g'.AllCallbacks P := by
  obtain ⟨node, edge, hs, ht, -, -, hstates, htransitions⟩ := attach?_eq_some h
  refine of_nodes (fun u m hm => ?_) fun u m hm => ?_
  · rw [hstates] at hm
    split at hm
    next => cases hm; exact (hg.state? hs :)
    next => exact hg.state? hm
  · rw [htransitions] at hm
    split at hm
    next => cases hm; exact (hg.transition? ht :)
    next => exact hg.transition? hm

theorem remove? (hg : g.AllCallbacks P) {s : StateId} {t : TransitionId}
    (h : g.remove? s t = some g') : g'.AllCallbacks P := by
  obtain ⟨node, hs, -, hstates, htransitions⟩ := remove?_eq_some h
  refine of_nodes (fun u m hm => ?_) fun u m hm => ?_
  · rw [hstates] at hm
    split at hm
    next => cases hm; exact (hg.state? hs :)
    next => exact hg.state? hm
  · rw [htransitions] at hm
    split at hm
    next =>
      obtain ⟨edge, ht, rfl⟩ := Option.map_eq_some_iff.1 hm
      exact (hg.transition? ht :)
    next => exact hg.transition? hm

theorem changeState (hg : g.AllCallbacks P) {s : StateId} {f : StateNode σ α → StateNode σ α}
    (hf : ∀ n, n.AllCallbacks P → (f n).AllCallbacks P) : (g.changeState s f).2.AllCallbacks P := by
  unfold Graph.changeState
  split
  next => exact hg
  next n hs => exact hg.setState (hf n (hg.state? hs)) s

theorem changeTransition (hg : g.AllCallbacks P) {t : TransitionId}
    {f : TransitionNode α → Except Misuse (TransitionNode α)}
    (hf : ∀ n m, f n = .ok m → n.AllCallbacks P → m.AllCallbacks P) :
    (g.changeTransition t f).2.AllCallbacks P := by
  unfold Graph.changeTransition
  split
  next => exact hg
  next n ht =>
    split
    next m hm => exact hg.setTransition (hf n m hm (hg.transition? ht)) t
    next => exact hg

theorem configure (hg : g.AllCallbacks P) {setting : Setting (Script α) α}
    (hset : ∀ script, setting.callback? = some script → P script) :
    (g.configure setting).2.AllCallbacks P := by
  cases setting with
  | terminal s value => exact hg.changeState fun n hn => hn
  | onEntry s script =>
    refine hg.changeState fun n hn => ?_
    rintro other (hother | hother)
    · exact hset other hother
    · exact hn other (.inr hother)
  | onExit s script =>
    refine hg.changeState fun n hn => ?_
    rintro other (hother | hother)
    · exact hn other (.inl hother)
    · exact hset other hother
  | onTransit t script =>
    refine hg.changeTransition fun n m hm hn => ?_
    cases hm
    exact hset
  | guard t guard =>
    refine hg.changeTransition fun n m hm hn => ?_
    unfold TransitionNode.setGuard at hm
    split at hm
    next => cases hm
    next => cases hm; exact hn

-- ---------------------------------------------------------------------------
-- Exchanging whole nodes
-- ---------------------------------------------------------------------------

theorem swapStates? (hg : g.AllCallbacks P) {s u : StateId} (h : g.swapStates? s u = some g') :
    g'.AllCallbacks P := by
  unfold Graph.swapStates? at h
  split at h
  next hs hu =>
    cases h
    exact (hg.setState (hg.state? hu) s).setState (hg.state? hs) u
  next => cases h

theorem swapTransitions? (hg : g.AllCallbacks P) {t u : TransitionId}
    (h : g.swapTransitions? t u = some g') : g'.AllCallbacks P := by
  unfold Graph.swapTransitions? at h
  split at h
  next ht hu =>
    cases h
    exact (hg.setTransition (hg.transition? hu) t).setTransition (hg.transition? ht) u
  next => cases h

theorem tradeStates? (hg : g.AllCallbacks P) (hh : h.AllCallbacks P) {s u : StateId}
    (ht : g.tradeStates? h s u = some (g', h')) : g'.AllCallbacks P ∧ h'.AllCallbacks P := by
  unfold Graph.tradeStates? at ht
  split at ht
  next hs hu =>
    cases ht
    exact ⟨hg.setState (hh.state? hu) s, hh.setState (hg.state? hs) u⟩
  next => cases ht

theorem tradeTransitions? (hg : g.AllCallbacks P) (hh : h.AllCallbacks P) {t u : TransitionId}
    (heq : g.tradeTransitions? h t u = some (g', h')) : g'.AllCallbacks P ∧ h'.AllCallbacks P := by
  unfold Graph.tradeTransitions? at heq
  split at heq
  next ht hu =>
    cases heq
    exact ⟨hg.setTransition (hh.transition? hu) t, hh.setTransition (hg.transition? ht) u⟩
  next => cases heq

theorem blankState? [Payload σ] [Inhabited σ] (hg : g.AllCallbacks P) {s : StateId}
    (h : g.blankState? s = some g') : g'.AllCallbacks P := by
  obtain ⟨n, -, rfl⟩ := Option.map_eq_some_iff.1 h
  exact hg.setState (ofData default) s

theorem blankTransition? (hg : g.AllCallbacks P) {t : TransitionId}
    (h : g.blankTransition? t = some g') : g'.AllCallbacks P := by
  obtain ⟨n, -, rfl⟩ := Option.map_eq_some_iff.1 h
  exact hg.setTransition (fun script hscript => by cases hscript) t

end AllCallbacks

end Graph

end EventAutomata
