import EventAutomata.Automaton.Call
import EventAutomata.Proofs.Graph.Paths
import Mathlib.Logic.Relation

/-!
# What calls are made of

Every call on an automaton comes down to a few steps, none to many of them. `Step` lists
them with all that they do to the automaton: what later theorems say of every call and
every run they say of these steps (`steps_call`). How far a transit got before a callback
broke down is left open by `MovedTo`, so faults need no cases of their own.

A transit that is not a delivery is called direct. `Step direct` has direct transits only
if `direct` holds.
-/

namespace EventAutomata

open Relation (ReflTransGen)

namespace Automaton

variable {σ α : Type} {a b : Automaton σ α}

/-- The current state may be another one afterwards, namely the target, and the history
may have grown. Nothing else is different. -/
def MovedTo (a : Automaton σ α) (target : StateId) (b : Automaton σ α) : Prop :=
  ∃ current history, b = { a with current, history } ∧
    (current = a.current ∨ current = some target)

theorem MovedTo.refl {target : StateId} : a.MovedTo target a := ⟨_, _, rfl, .inl rfl⟩

inductive Step [Payload σ] (direct : Prop) (a : Automaton σ α) : Automaton σ α → Prop
  | extend {g : Graph σ α} : a.graph.Extends g → Step direct a { a with graph := g }
  | attach {s : StateId} {t : TransitionId} {g : Graph σ α} :
      s ∈ a.states → a.graph.attach? s t = some g → Step direct a (a.rewire g)
  | remove {s : StateId} {t : TransitionId} {g : Graph σ α} :
      s ∈ a.states → a.graph.remove? s t = some g →
      Step direct a (a.rewire g).dropStrandedCursor
  | setStart {start : Option StateId} :
      (∀ s, start = some s → a.graph.hasState s = true) →
      Step direct a
        { a with
          start, current := start
          registry := a.registry.reconcile (a.reachableFrom a.start) (a.reachableFrom start) }
  | reset : Step direct a a.reset
  | transit {t : TransitionId} {edge : TransitionNode α} {b : Automaton σ α} :
      direct → a.graph.transition? t = some edge →
      (a.config.policy = .strict → a.leavesCurrent edge = true) →
      a.MovedTo edge.target b → Step direct a b
  | deliver {t : TransitionId} {edge : TransitionNode α} {b : Automaton σ α} :
      a.registry.contains t = true → a.graph.transition? t = some edge →
      a.MovedTo edge.target b → Step direct a b
  | teardown : Step direct a a.teardown.2

theorem attach?_eq_some {s : StateId} {t : TransitionId} (h : a.attach? s t = some b) :
    s ∈ a.states ∧ ∃ g, a.graph.attach? s t = some g ∧ b = a.rewire g := by
  unfold attach? at h
  split at h
  next hs =>
    obtain ⟨g, hg, rfl⟩ := Option.map_eq_some_iff.1 h
    exact ⟨hs, g, hg, rfl⟩
  next => cases h

theorem remove?_eq_some {s : StateId} {t : TransitionId} (h : a.remove? s t = some b) :
    s ∈ a.states ∧ ∃ g, a.graph.remove? s t = some g ∧ b = (a.rewire g).dropStrandedCursor := by
  unfold remove? at h
  split at h
  next hs =>
    obtain ⟨g, hg, rfl⟩ := Option.map_eq_some_iff.1 h
    exact ⟨hs, g, hg, rfl⟩
  next => cases h

/-- The call takes a transition that no signal has asked for. -/
def Call.isDirect : Call σ α → Bool
  | .transit .. | .transitTimes .. => true
  | _ => false

variable [Payload σ] {direct : Prop}

-- ---------------------------------------------------------------------------
-- Transits and deliveries
-- ---------------------------------------------------------------------------

theorem moveTo_movedTo (a : Automaton σ α) (target : StateId) (t : TransitionId) (args : List α)
    (h : Hub α) : a.MovedTo target (a.moveTo target t args h).2.1 := by
  unfold moveTo
  dsimp only
  split
  · exact .refl
  · split
    · exact ⟨_, _, rfl, .inr rfl⟩
    · split <;> exact ⟨_, _, rfl, .inr rfl⟩

/-- A transit is refused, or it is one of a transition that the policy lets it take. -/
theorem transit_cases (a : Automaton σ α) (t : TransitionId) (args : List α) (h : Hub α) :
    a.transit t args h = (.ok false, a, h) ∧
        (∀ edge, a.graph.transition? t = some edge →
          a.config.policy = .strict ∧ a.leavesCurrent edge = false) ∨
      ∃ edge, a.graph.transition? t = some edge ∧
        (a.config.policy = .strict → a.leavesCurrent edge = true) ∧
        (a.transit t args h).1 ≠ .ok false ∧ a.MovedTo edge.target (a.transit t args h).2.1 := by
  unfold transit
  split
  next ht => exact .inl ⟨rfl, fun edge hx => by simp [ht] at hx⟩
  next edge ht =>
    split
    next hrefused =>
      refine .inl ⟨rfl, fun edge' hx => ?_⟩
      cases ht.symm.trans hx
      exact hrefused
    next hpolicy =>
      refine .inr ⟨edge, ht, by grind, ?_⟩
      have hmoved := a.moveTo_movedTo edge.target t args h
      split
      next heq => rw [heq] at hmoved; exact ⟨by simp, hmoved⟩
      next heq => rw [heq] at hmoved; exact ⟨by simp, hmoved⟩

theorem steps_transit (hd : direct) (a : Automaton σ α) (t : TransitionId) (args : List α)
    (h : Hub α) : ReflTransGen (Step direct) a (a.transit t args h).2.1 := by
  rcases a.transit_cases t args h with ⟨heq, -⟩ | ⟨edge, ht, hpolicy, -, hmoved⟩
  · rw [heq]
  · exact .single (.transit hd ht hpolicy hmoved)

theorem transitTimes_keeps {P : Automaton σ α × Hub α → Prop} {t : TransitionId} {args : List α}
    (hstep : ∀ a h, P (a, h) → P (a.transit t args h).2) (a : Automaton σ α) (h : Hub α)
    (times taken : Nat) (hp : P (a, h)) : P (a.transitTimes t args h times taken).2 := by
  induction times generalizing a h taken with
  | zero => exact hp
  | succ times ih =>
    have hnext := hstep a h hp
    unfold transitTimes
    split
    next heq => rw [heq] at hnext; exact ih _ _ _ hnext
    next heq => rw [heq] at hnext; exact ih _ _ _ hnext
    next heq => rw [heq] at hnext; exact hnext

theorem steps_transitTimes (hd : direct) (a : Automaton σ α) (t : TransitionId) (args : List α)
    (h : Hub α) (times taken : Nat) :
    ReflTransGen (Step direct) a (a.transitTimes t args h times taken).2.1 :=
  transitTimes_keeps (P := fun x => ReflTransGen (Step direct) a x.1)
    (fun b k hb => hb.trans (steps_transit hd b t args k)) a h times taken .refl

theorem deliver_cases (a : Automaton σ α) (fired : Fired α) (h : Hub α) :
    a.deliver fired h = (.ok false, a, h) ∨
      a.registry.contains fired.transition = true ∧
        a.deliver fired h = a.transit fired.transition fired.args h := by
  unfold deliver
  split
  next hsub =>
    split
    next => exact .inl rfl
    next => exact .inr ⟨hsub, rfl⟩
  next => exact .inl rfl

theorem steps_deliver (a : Automaton σ α) (fired : Fired α) (h : Hub α) :
    ReflTransGen (Step direct) a (a.deliver fired h).2.1 := by
  rcases a.deliver_cases fired h with heq | ⟨hsub, heq⟩
  · rw [heq]
  · rw [heq]
    rcases a.transit_cases fired.transition fired.args h with
      ⟨heq, -⟩ | ⟨edge, ht, -, -, hmoved⟩
    · rw [heq]
    · exact .single (.deliver hsub ht hmoved)

theorem steps_drain (a : Automaton σ α) (h : Hub α) (taken : Nat) :
    ReflTransGen (Step direct) a (a.drain h taken).2.1 := by
  fun_induction drain a h taken with
  | case1 => exact .refl
  | case2 a h taken fired h₁ ht fault a' h' hd =>
    have hstep : ReflTransGen (Step direct) a (a.deliver fired h₁).2.1 := steps_deliver a fired h₁
    rwa [hd] at hstep
  | case3 a h taken fired h₁ ht took a' h' hd ih =>
    have hstep : ReflTransGen (Step direct) a (a.deliver fired h₁).2.1 := steps_deliver a fired h₁
    rw [hd] at hstep
    exact hstep.trans ih

theorem steps_dispatchNext (a : Automaton σ α) (h : Hub α) :
    ReflTransGen (Step direct) a (a.dispatchNext h).2.1 := by
  unfold dispatchNext
  split
  next => exact .refl
  next fired h₁ ht => exact steps_deliver a fired h₁

-- ---------------------------------------------------------------------------
-- Edits and the start state
-- ---------------------------------------------------------------------------

theorem steps_attach? {s : StateId} {t : TransitionId} (h : a.attach? s t = some b) :
    ReflTransGen (Step direct) a b := by
  obtain ⟨hs, g, hg, rfl⟩ := attach?_eq_some h
  exact .single (.attach hs hg)

theorem steps_remove? {s : StateId} {t : TransitionId} (h : a.remove? s t = some b) :
    ReflTransGen (Step direct) a b := by
  obtain ⟨hs, g, hg, rfl⟩ := remove?_eq_some h
  exact .single (.remove hs hg)

theorem steps_edit (a : Automaton σ α) (e : Graph.Edit σ) :
    ReflTransGen (Step direct) a (a.edit e).2 := by
  cases e with
  | addState data => exact .single (.extend (.addState data))
  | addTransition kind target =>
    simp only [edit, addTransition]
    cases h : a.graph.addTransition kind target with
    | error problem => exact .refl
    | ok made => exact .single (.extend (.addTransition h))
  | attach s t => exact Graph.accepted_keeps .refl fun b => steps_attach?
  | remove s t => exact Graph.accepted_keeps .refl fun b => steps_remove?
  | attachEpsilon s t => exact Graph.acceptedUnless_keeps .refl fun b => steps_attach?
  | removeEpsilon s t => exact Graph.acceptedUnless_keeps .refl fun b => steps_remove?

theorem steps_setStart {s : Option StateId} (h : a.setStart s = .ok b) :
    ReflTransGen (Step direct) a b := by
  have hmove : (∀ x, s = some x → a.graph.hasState x = true) →
      ReflTransGen (Step direct) a (setStart.moveStart a s) := by
    intro hs
    unfold setStart.moveStart
    split
    next => exact .refl
    next => exact .single (.setStart hs)
  cases s with
  | none =>
    cases h
    exact hmove nofun
  | some x =>
    simp only [setStart] at h
    split at h
    next hx =>
      cases h
      exact hmove fun y hy => Option.some.inj hy ▸ hx
    next => cases h

-- ---------------------------------------------------------------------------
-- Calls
-- ---------------------------------------------------------------------------

theorem call_dispatchNext (a : Automaton σ α) (h : Hub α) :
    (a.call h .dispatchNext).2 = (a.dispatchNext h).2 := by
  simp only [call]
  split
  next heq => rw [heq]
  next heq => rw [heq]

/-- A call is made of steps, and only a direct call of direct ones. -/
theorem steps_call (a : Automaton σ α) (h : Hub α) (c : Call σ α)
    (hd : c.isDirect = true → direct) : ReflTransGen (Step direct) a (a.call h c).2.1 := by
  cases c with
  | edit e => exact steps_edit a e
  | configure setting => exact .single (.extend (Graph.extends_configure a.graph setting))
  | setStart s =>
    simp only [call]
    split
    next heq => exact steps_setStart heq
    next => exact .refl
  | reset => exact .single .reset
  | transit t args => exact steps_transit (hd rfl) a t args h
  | transitTimes t args times => exact steps_transitTimes (hd rfl) a t args h times 0
  | deliver fired => exact steps_deliver a fired h
  | dispatchPending => exact steps_drain a h 0
  | dispatchNext =>
    rw [call_dispatchNext]
    exact steps_dispatchNext a h
  | teardown => exact .single .teardown
  | teardownDescribed spread => exact .single .teardown
  | _ => exact .refl

end Automaton

end EventAutomata
