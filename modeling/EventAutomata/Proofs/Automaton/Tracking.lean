import EventAutomata.Proofs.Automaton.Steps
import EventAutomata.Proofs.Reconcile

/-!
# Subscriptions track reachability

No step computes the registry anew, yet after each of them the transitions that are
subscribed are those that can be reached from the start state. `Tracked` is the invariant
that carries this: it also says that the graph is well formed, as otherwise a node that is
added could complete a path that was dangling, and that the start state exists.
-/

namespace EventAutomata

open Relation (ReflTransGen)

namespace Automaton

variable {σ α : Type} {a b : Automaton σ α}

structure Tracked (a : Automaton σ α) : Prop where
  graph : a.graph.WellFormed
  start : ∀ {s}, a.start = some s → a.graph.hasState s = true
  registry : a.registry.transitions = a.transitions

theorem tracked_create (config : AutomatonConfig) (hub : Hub α) :
    (create config hub : Automaton σ α × Hub α).1.Tracked where
  graph := Graph.wellFormed_empty
  start := nofun
  registry := rfl

theorem dropStrandedCursor_eq (a : Automaton σ α) :
    a.dropStrandedCursor = { a with current := a.current.filter (· ∈ a.states) } := by
  obtain ⟨graph, start, current, registry, history, config, channel⟩ := a
  cases current with
  | none => rfl
  | some c =>
    simp only [dropStrandedCursor, Option.filter, decide_eq_true_eq]
    split <;> rfl

theorem Tracked.rewire (ht : a.Tracked) (g : Graph σ α) :
    (a.rewire g).registry.transitions = (a.rewire g).transitions := by
  show (a.registry.reconcile a.transitions _).transitions = _
  rw [← ht.registry]
  exact Registry.transitions_reconcile _

-- ---------------------------------------------------------------------------
-- What a step does to the parts
-- ---------------------------------------------------------------------------

variable [Payload σ] {direct : Prop}

theorem Step.change (h : Step direct a b) : a.graph.Change b.graph := by
  cases h with
  | extend h => exact .extend h
  | attach hs h => exact .attach h
  | remove hs h => rw [dropStrandedCursor_eq]; exact .remove h
  | setStart | reset | teardown => exact .extend .same
  | transit hd ht hpolicy hmoved | deliver hsub ht hmoved =>
    obtain ⟨_, _, rfl, -⟩ := hmoved
    exact .extend .same

theorem Step.config (h : Step direct a b) : b.config = a.config := by
  cases h with
  | remove hs h => rw [dropStrandedCursor_eq]; rfl
  | transit hd ht hpolicy hmoved | deliver hsub ht hmoved =>
    obtain ⟨_, _, rfl, -⟩ := hmoved
    rfl
  | _ => rfl

theorem config_of_steps (h : ReflTransGen (Step direct) a b) : b.config = a.config := by
  induction h with
  | refl => rfl
  | tail _ h ih => exact h.config.trans ih

/-- Adding and setting up nodes leaves alone what can be reached from a state. -/
theorem reachable_extend {g : Graph σ α} (h : a.graph.Extends g) (hg : a.graph.WellFormed)
    {s : StateId} (hs : a.graph.hasState s = true) :
    g.reachableStates s .withEpsilon = a.graph.reachableStates s .withEpsilon ∧
      g.reachableTransitions s .withEpsilon = a.graph.reachableTransitions s .withEpsilon := by
  have hs' : g.hasState s = a.graph.hasState s := by rw [hs, h.persists.hasState hs]
  exact ⟨Graph.reachableStates_congr hs' (h.edge_iff hg),
    Graph.reachableTransitions_congr hs' (h.edge_iff hg)⟩

theorem Tracked.step_registry (ht : a.Tracked) (h : Step direct a b) :
    b.registry.transitions = b.transitions := by
  cases h with
  | @extend g h =>
    show a.registry.transitions = reachableFrom { a with graph := g } a.start
    rw [ht.registry, transitions]
    cases hs : a.start with
    | none => rfl
    | some s => exact (reachable_extend h ht.graph (ht.start hs)).2.symm
  | @attach s t g hs h => exact ht.rewire g
  | @remove s t g hs h => rw [dropStrandedCursor_eq]; exact ht.rewire g
  | @setStart start hs =>
    show (a.registry.reconcile a.transitions (a.reachableFrom start)).transitions = _
    rw [← ht.registry]
    exact Registry.transitions_reconcile _
  | reset => exact ht.registry
  | transit hd hx hpolicy hmoved | deliver hsub hx hmoved =>
    obtain ⟨_, _, rfl, -⟩ := hmoved
    exact ht.registry
  | teardown => rfl

theorem Tracked.step_start (ht : a.Tracked) (h : Step direct a b) {s : StateId}
    (hs : b.start = some s) : b.graph.hasState s = true := by
  have hkeep : a.start = some s → b.graph.hasState s = true := fun hs =>
    h.change.persists.hasState (ht.start hs)
  cases h with
  | setStart hstart => exact hstart s hs
  | remove hs' h => rw [dropStrandedCursor_eq] at hs; exact hkeep hs
  | transit hd hx hpolicy hmoved | deliver hsub hx hmoved =>
    obtain ⟨_, _, rfl, -⟩ := hmoved
    exact hkeep hs
  | teardown => cases hs
  | _ => exact hkeep hs

theorem Tracked.step (ht : a.Tracked) (h : Step direct a b) : b.Tracked :=
  ⟨h.change.wellFormed ht.graph, ht.step_start h, ht.step_registry h⟩

theorem Tracked.steps (ht : a.Tracked) (h : ReflTransGen (Step direct) a b) : b.Tracked := by
  induction h with
  | refl => exact ht
  | tail _ h ih => exact ih.step h

end Automaton

end EventAutomata
