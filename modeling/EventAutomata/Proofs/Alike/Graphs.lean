import EventAutomata.Automaton.Transit
import EventAutomata.Graph.Query
import EventAutomata.Proofs.Graph.Paths

/-!
# Graphs that are alike

Two graphs can be the same but for the predicates of guards and for terminal flags. Then both
look the same behind a veil, which hides these two and nothing else: that there is a guard
still shows. What an operation does is seen through the veil, and what it answers does not
depend on it, so graphs that are alike stay alike and answer alike.

If `seen` is set the veil hides nothing, and graphs are alike only if they are equal.
-/

theorem Option.rel_of_map_eq {β γ : Type} {f : β → γ} {x y : Option β} (h : x.map f = y.map f) :
    Option.Rel (fun b c => f b = f c) x y := by
  cases x with
  | none => cases y with
    | none => exact .none
    | some c => cases h
  | some b => cases y with
    | none => cases h
    | some c => exact .some (Option.some.inj h)

theorem Option.Rel.none_or_some {β γ : Type} {R : β → γ → Prop} {x : Option β} {y : Option γ}
    (h : Option.Rel R x y) :
    (x = .none ∧ y = .none) ∨ ∃ b c, x = .some b ∧ y = .some c ∧ R b c := by
  cases h with
  | none => exact .inl ⟨rfl, rfl⟩
  | some hbc => exact .inr ⟨_, _, rfl, rfl, hbc⟩

theorem Option.Rel.map {β γ : Type} {R : β → β → Prop} {S : γ → γ → Prop} {f f' : β → γ}
    {x y : Option β} (h : Option.Rel R x y) (hf : ∀ b c, R b c → S (f b) (f' c)) :
    Option.Rel S (x.map f) (y.map f') := by
  cases h with
  | none => exact .none
  | some hbc => exact .some (hf _ _ hbc)

namespace EventAutomata

variable {σ α χ : Type} {seen : Bool}

def Guard.veil (seen : Bool) (guard : Guard α) : Guard α :=
  if seen then guard else ⟨fun _ => .ok true⟩

def StateNode.veil (seen : Bool) (n : StateNode σ α) : StateNode σ α :=
  { n with isTerminal := seen && n.isTerminal }

def TransitionNode.veil (seen : Bool) (n : TransitionNode α) : TransitionNode α :=
  { n with guard := n.guard.map (Guard.veil seen) }

theorem StateNode.eq_of_veil_eq {n m : StateNode σ α} (h : n.veil seen = m.veil seen) :
    m = { n with isTerminal := m.isTerminal } := by
  simp only [veil, mk.injEq] at h
  obtain ⟨hdata, -, hentry, hexit, houtgoing⟩ := h
  rw [hdata, hentry, hexit, houtgoing]

@[simp] theorem TransitionNode.veil_true (n : TransitionNode α) : n.veil true = n := by
  obtain ⟨id, target, kind, guard, onTransit, owner⟩ := n
  cases guard <;> rfl

theorem TransitionNode.setGuard_veil {n m : TransitionNode α} {f f' : Guard α}
    (hf : f.veil seen = f'.veil seen) (hn : n.veil seen = m.veil seen) :
    (n.setGuard f).map (TransitionNode.veil seen) =
      (m.setGuard f').map (TransitionNode.veil seen) := by
  simp only [veil, mk.injEq] at hn
  obtain ⟨hid, htarget, hkind, -, honTransit, howner⟩ := hn
  unfold setGuard isEpsilon
  rw [hid, hkind]
  split <;> simp_all [Except.map, veil]

namespace Graph

variable {g k : Graph σ α}

def veil (seen : Bool) (g : Graph σ α) : Graph σ α where
  states := g.states.map (StateNode.veil seen)
  transitions := g.transitions.map (TransitionNode.veil seen)

/-- The graphs differ at most in what the veil hides. -/
def Alike (seen : Bool) (g k : Graph σ α) : Prop := g.veil seen = k.veil seen

theorem Alike.refl (g : Graph σ α) : g.Alike seen g := rfl

@[simp] theorem veil_true (g : Graph σ α) : g.veil true = g := by
  have hstate : (StateNode.veil true : StateNode σ α → StateNode σ α) = id := rfl
  have hedge : (TransitionNode.veil true : TransitionNode α → TransitionNode α) = id :=
    funext TransitionNode.veil_true
  simp [veil, hstate, hedge]

theorem Alike.eq (h : g.Alike true k) : g = k := by simpa [Alike] using h

theorem Alike.same {β : Type} {f : Graph σ α → β} (h : g.Alike seen k)
    (hf : ∀ g, f (g.veil seen) = f g) : f g = f k := by rw [← hf g, h, hf k]

-- ---------------------------------------------------------------------------
-- Nodes
-- ---------------------------------------------------------------------------

theorem state?_veil (g : Graph σ α) (s : StateId) :
    (g.veil seen).state? s = (g.state? s).map (StateNode.veil seen) := Array.getElem?_map

theorem transition?_veil (g : Graph σ α) (t : TransitionId) :
    (g.veil seen).transition? t = (g.transition? t).map (TransitionNode.veil seen) :=
  Array.getElem?_map

theorem hasState_veil (g : Graph σ α) (s : StateId) : (g.veil seen).hasState s = g.hasState s := by
  simp [hasState, state?_veil]

theorem ownerOf_veil (g : Graph σ α) (t : TransitionId) :
    (g.veil seen).ownerOf t = g.ownerOf t := by
  rw [ownerOf, transition?_veil, Option.bind_map]
  rfl

@[simp] theorem veil_setState (g : Graph σ α) (s : StateId) (n : StateNode σ α) :
    (g.setState s n).veil seen = (g.veil seen).setState s (n.veil seen) := by
  simp [veil, setState, Array.map_setIfInBounds]

@[simp] theorem veil_setTransition (g : Graph σ α) (t : TransitionId) (n : TransitionNode α) :
    (g.setTransition t n).veil seen = (g.veil seen).setTransition t (n.veil seen) := by
  simp [veil, setTransition, Array.map_setIfInBounds]

theorem Alike.state? (h : g.Alike seen k) (s : StateId) :
    Option.Rel (fun n m => n.veil seen = m.veil seen) (g.state? s) (k.state? s) := by
  refine Option.rel_of_map_eq ?_
  rw [← state?_veil, h, state?_veil]

theorem Alike.transition? (h : g.Alike seen k) (t : TransitionId) :
    Option.Rel (fun n m => n.veil seen = m.veil seen) (g.transition? t) (k.transition? t) := by
  refine Option.rel_of_map_eq ?_
  rw [← transition?_veil, h, transition?_veil]

-- ---------------------------------------------------------------------------
-- Walks
-- ---------------------------------------------------------------------------

theorem follows_veil (traversal : Traversal) (n : TransitionNode α) :
    traversal.follows (n.veil seen) = traversal.follows n := by
  cases traversal <;> rfl

theorem isEpsilon_veil (n : TransitionNode α) : (n.veil seen).isEpsilon = n.isEpsilon := rfl

section

variable {follows : TransitionNode α → Bool} (hf : ∀ n, follows (TransitionNode.veil seen n) = follows n)
include hf

theorem exits_veil (g : Graph σ α) (s : StateId) :
    (g.veil seen).exits follows s =
      (g.exits follows s).map fun e => (e.1, e.2.veil seen) := by
  unfold exits
  rw [state?_veil]
  cases g.state? s with
  | none => rfl
  | some node =>
    simp only [Option.map_some, StateNode.veil, List.map_filterMap]
    congr 1
    funext t
    rw [transition?_veil]
    cases g.transition? t with
    | none => rfl
    | some edge =>
      simp only [Option.map_some, hf]
      split <;> rfl

theorem targets_veil (g : Graph σ α) (s : StateId) :
    (g.veil seen).targets follows s = g.targets follows s := by
  rw [targets, exits_veil hf, List.map_map]
  rfl

theorem explore_veil (g : Graph σ α) (rounds : Nat) (marks : Marks .state) (todo : List StateId) :
    (g.veil seen).explore follows rounds marks todo = g.explore follows rounds marks todo := by
  induction rounds generalizing marks todo with
  | zero => rfl
  | succ rounds ih => simp only [explore, targets_veil hf, ih]

theorem closure_veil (g : Graph σ α) (seeds : HandleSet .state) :
    (g.veil seen).closure follows seeds = g.closure follows seeds := by
  have hsize : (g.veil seen).states.size = g.states.size := Array.size_map
  have htargets : (g.veil seen).targets follows = g.targets follows := funext (targets_veil hf g)
  simp only [closure, visited, explore_veil hf, htargets, hsize, hasState_veil]

end

theorem reachableStates_veil (g : Graph σ α) (s : StateId) (traversal : Traversal) :
    (g.veil seen).reachableStates s traversal = g.reachableStates s traversal := by
  simp only [reachableStates, hasState_veil, closure_veil (follows_veil traversal)]

theorem reachableTransitions_veil (g : Graph σ α) (s : StateId) (traversal : Traversal) :
    (g.veil seen).reachableTransitions s traversal = g.reachableTransitions s traversal := by
  have hsize : (g.veil seen).transitions.size = g.transitions.size := Array.size_map
  simp only [reachableTransitions, reachableStates_veil, exits_veil (follows_veil traversal), hsize,
    List.map_map]
  rfl

theorem epsilonClosure_veil (g : Graph σ α) (seeds : List StateId) :
    (g.veil seen).epsilonClosure seeds = g.epsilonClosure seeds := by
  have hstates : (g.veil seen).hasState = g.hasState := funext g.hasState_veil
  rw [epsilonClosure, closure_veil isEpsilon_veil, hstates]
  rfl

-- ---------------------------------------------------------------------------
-- Edits
-- ---------------------------------------------------------------------------

theorem attach?_veil (g : Graph σ α) (s : StateId) (t : TransitionId) :
    (g.veil seen).attach? s t = (g.attach? s t).map (veil seen) := by
  unfold attach?
  rw [state?_veil, transition?_veil]
  cases g.state? s with
  | none => rfl
  | some node =>
    cases g.transition? t with
    | none => rfl
    | some edge =>
      simp only [Option.map_some, StateNode.veil, TransitionNode.veil]
      split
      · simp [StateNode.veil, TransitionNode.veil]
      · rfl

theorem remove?_veil (g : Graph σ α) (s : StateId) (t : TransitionId) :
    (g.veil seen).remove? s t = (g.remove? s t).map (veil seen) := by
  unfold remove?
  rw [state?_veil]
  cases g.state? s with
  | none => rfl
  | some node =>
    simp only [Option.map_some, StateNode.veil, transition?_setState, transition?_veil]
    split
    · cases g.transition? t <;> simp [StateNode.veil, TransitionNode.veil]
    · rfl

theorem ensureEpsilon_veil (g : Graph σ α) (t : TransitionId) :
    (g.veil seen).ensureEpsilon t = g.ensureEpsilon t := by
  unfold ensureEpsilon
  rw [transition?_veil]
  cases g.transition? t <;> rfl

/-- What commutes with the veil gives graphs that are alike, or gives none for both. -/
theorem Alike.rel {f : Graph σ α → Option (Graph σ α)} (h : g.Alike seen k)
    (hf : ∀ g, f (g.veil seen) = (f g).map (veil seen)) : Option.Rel (Alike seen) (f g) (f k) := by
  refine Option.rel_of_map_eq ?_
  rw [← hf g, h, hf k]

theorem Alike.hasState (h : g.Alike seen k) (s : StateId) : g.hasState s = k.hasState s :=
  h.same (f := fun g => g.hasState s) fun g => g.hasState_veil s

theorem Alike.size_states (h : g.Alike seen k) : g.states.size = k.states.size :=
  h.same (f := fun g => g.states.size) fun _ => Array.size_map

theorem Alike.size_transitions (h : g.Alike seen k) : g.transitions.size = k.transitions.size :=
  h.same (f := fun g => g.transitions.size) fun _ => Array.size_map

theorem Alike.setState (h : g.Alike seen k) (s : StateId) {n m : StateNode σ α}
    (hn : n.veil seen = m.veil seen) : (g.setState s n).Alike seen (k.setState s m) := by
  rw [Alike, veil_setState, veil_setState, h, hn]

theorem Alike.setTransition (h : g.Alike seen k) (t : TransitionId) {n m : TransitionNode α}
    (hn : n.veil seen = m.veil seen) : (g.setTransition t n).Alike seen (k.setTransition t m) := by
  rw [Alike, veil_setTransition, veil_setTransition, h, hn]

theorem Alike.addState [Payload σ] (h : g.Alike seen k) (data : σ) :
    (g.addState data).1 = (k.addState data).1 ∧
      (g.addState data).2.Alike seen (k.addState data).2 := by
  refine ⟨congrArg Handle.mk h.size_states, ?_⟩
  have hstates : g.states.map (StateNode.veil seen) = k.states.map (StateNode.veil seen) :=
    congrArg Graph.states h
  have htransitions := congrArg Graph.transitions h
  simp only [veil] at htransitions
  simp [Alike, veil, Graph.addState, Array.map_push, hstates, htransitions]

theorem Alike.addTransition (h : g.Alike seen k) (kind : TransitionKind) (target : StateId) :
    (∃ problem, g.addTransition kind target = .error problem ∧
      k.addTransition kind target = .error problem) ∨
    ∃ t g' k', g.addTransition kind target = .ok (t, g') ∧
      k.addTransition kind target = .ok (t, k') ∧ g'.Alike seen k' := by
  unfold Graph.addTransition
  rw [h.hasState target, h.size_transitions]
  split
  next =>
    refine .inr ⟨_, _, _, rfl, rfl, ?_⟩
    have hstates := congrArg Graph.states h
    have htransitions : g.transitions.map (TransitionNode.veil seen) =
        k.transitions.map (TransitionNode.veil seen) := congrArg Graph.transitions h
    simp only [veil] at hstates
    simp [Alike, veil, Array.map_push, hstates, htransitions]
  next => exact .inl ⟨_, rfl, rfl⟩

-- ---------------------------------------------------------------------------
-- Settings
-- ---------------------------------------------------------------------------

/-- The settings differ at most in the predicate of a guard or in a terminal flag. -/
inductive Setting.Alike (seen : Bool) : Setting χ α → Setting χ α → Prop
  | same (setting : Setting χ α) : Alike seen setting setting
  | terminal (s : StateId) (v w : Bool) : seen = false → Alike seen (.terminal s v) (.terminal s w)
  | guard (t : TransitionId) (f f' : Guard α) :
      seen = false → Alike seen (.guard t f) (.guard t f')

theorem Setting.Alike.hasSubject {c d : Setting χ α} (hs : c.Alike seen d) (h : g.Alike seen k) :
    g.hasSubject c = k.hasSubject d := by
  have htransition : ∀ t, (g.transition? t).isSome = (k.transition? t).isSome := fun t =>
    h.same (f := fun g => (g.transition? t).isSome) fun g => by simp [transition?_veil]
  cases hs with
  | same => cases c <;> simp [Graph.hasSubject, h.hasState, htransition]
  | terminal s => exact h.hasState s
  | guard t => exact htransition t

theorem Alike.changeState (h : g.Alike seen k) (s : StateId) {f f' : StateNode σ α → StateNode σ α}
    (hf : ∀ n m, n.veil seen = m.veil seen → (f n).veil seen = (f' m).veil seen) :
    (g.changeState s f).1 = (k.changeState s f').1 ∧
      (g.changeState s f).2.Alike seen (k.changeState s f').2 := by
  unfold Graph.changeState
  rcases (h.state? s).none_or_some with ⟨hg, hk⟩ | ⟨n, m, hg, hk, hn⟩ <;> rw [hg, hk]
  · exact ⟨rfl, h⟩
  · exact ⟨rfl, h.setState s (hf n m hn)⟩

theorem Alike.changeTransition (h : g.Alike seen k) (t : TransitionId)
    {f f' : TransitionNode α → Except Misuse (TransitionNode α)}
    (hf : ∀ n m, n.veil seen = m.veil seen →
      (f n).map (TransitionNode.veil seen) = (f' m).map (TransitionNode.veil seen)) :
    (g.changeTransition t f).1 = (k.changeTransition t f').1 ∧
      (g.changeTransition t f).2.Alike seen (k.changeTransition t f').2 := by
  unfold Graph.changeTransition
  rcases (h.transition? t).none_or_some with ⟨hg, hk⟩ | ⟨n, m, hg, hk, hn⟩ <;> rw [hg, hk]
  · exact ⟨rfl, h⟩
  · have hmap := hf n m hn
    rcases hfn : f n with problem | n' <;> rcases hfm : f' m with problem' | m' <;>
      simp only [hfn, hfm, Except.map, Except.error.injEq, Except.ok.injEq, reduceCtorEq] at hmap ⊢
    · exact ⟨congrArg Answer.misuse hmap, h⟩
    · exact ⟨trivial, h.setTransition t hmap⟩

theorem Alike.configure (h : g.Alike seen k) {c d : Setting (Script α) α} (hs : c.Alike seen d) :
    (g.configure c).1 = (k.configure d).1 ∧ (g.configure c).2.Alike seen (k.configure d).2 := by
  cases hs with
  | same =>
    cases c with
    | terminal s | onEntry s | onExit s =>
      exact h.changeState s fun n m hn => by simp_all [StateNode.veil]
    | onTransit t =>
      exact h.changeTransition t fun n m hn => by simp_all [TransitionNode.veil, Except.map]
    | guard t guard =>
      exact h.changeTransition t fun n m hn => TransitionNode.setGuard_veil rfl hn
  | terminal s v w hseen => exact h.changeState s fun n m hn => by simp_all [StateNode.veil]
  | guard t f f' hseen =>
    have hveil : f.veil seen = f'.veil seen := by rw [hseen]; rfl
    exact h.changeTransition t fun n m hn => TransitionNode.setGuard_veil hveil hn

-- ---------------------------------------------------------------------------
-- Exchanges
-- ---------------------------------------------------------------------------

theorem swapStates?_veil (g : Graph σ α) (s u : StateId) :
    (g.veil seen).swapStates? s u = (g.swapStates? s u).map (veil seen) := by
  unfold swapStates?
  rw [state?_veil, state?_veil]
  cases g.state? s <;> cases g.state? u <;> simp

theorem swapTransitions?_veil (g : Graph σ α) (t u : TransitionId) :
    (g.veil seen).swapTransitions? t u = (g.swapTransitions? t u).map (veil seen) := by
  unfold swapTransitions?
  rw [transition?_veil, transition?_veil]
  cases g.transition? t <;> cases g.transition? u <;> simp

theorem tradeStates?_veil (g g' : Graph σ α) (s u : StateId) :
    (g.veil seen).tradeStates? (g'.veil seen) s u =
      (g.tradeStates? g' s u).map (Prod.map (veil seen) (veil seen)) := by
  unfold tradeStates?
  rw [state?_veil, state?_veil]
  cases g.state? s <;> cases g'.state? u <;> simp

theorem tradeTransitions?_veil (g g' : Graph σ α) (t u : TransitionId) :
    (g.veil seen).tradeTransitions? (g'.veil seen) t u =
      (g.tradeTransitions? g' t u).map (Prod.map (veil seen) (veil seen)) := by
  unfold tradeTransitions?
  rw [transition?_veil, transition?_veil]
  cases g.transition? t <;> cases g'.transition? u <;> simp

theorem Alike.blankState? [Payload σ] [Inhabited σ] (h : g.Alike seen k) (s : StateId) :
    Option.Rel (Alike seen) (g.blankState? s) (k.blankState? s) := by
  unfold Graph.blankState?
  rcases (h.state? s).none_or_some with ⟨hg, hk⟩ | ⟨n, m, hg, hk, -⟩ <;> rw [hg, hk]
  · exact .none
  · exact .some (h.setState s rfl)

theorem Alike.blankTransition? (h : g.Alike seen k) (t : TransitionId) :
    Option.Rel (Alike seen) (g.blankTransition? t) (k.blankTransition? t) := by
  unfold Graph.blankTransition?
  rcases (h.transition? t).none_or_some with ⟨hg, hk⟩ | ⟨n, m, hg, hk, -⟩ <;> rw [hg, hk]
  · exact .none
  · exact .some (h.setTransition t rfl)

theorem Alike.trade {g' k' : Graph σ α}
    {f : Graph σ α → Graph σ α → Option (Graph σ α × Graph σ α)} (h : g.Alike seen k)
    (hf : ∀ g g', f (g.veil seen) (g'.veil seen) =
      (f g g').map (Prod.map (veil seen) (veil seen))) (h' : g'.Alike seen k') :
    Option.Rel (fun p q => p.1.Alike seen q.1 ∧ p.2.Alike seen q.2) (f g g') (f k k') := by
  have hmap : (f g g').map (Prod.map (veil seen) (veil seen)) =
      (f k k').map (Prod.map (veil seen) (veil seen)) := by rw [← hf, h, h', hf]
  rcases (Option.rel_of_map_eq hmap).none_or_some with ⟨hg, hk⟩ | ⟨p, q, hg, hk, hp⟩ <;> rw [hg, hk]
  · exact .none
  · exact .some (Prod.mk.inj hp)

end Graph

end EventAutomata
