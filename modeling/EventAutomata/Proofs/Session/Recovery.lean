import EventAutomata.Proofs.Automaton.Cursor
import EventAutomata.Proofs.Session.Episodes

/-!
# Starting over

Exchanged nodes can leave a registry that has nothing to do with the graph any more, and
setting the start state anew carries the difference along. A teardown does not look at the
graph for what it releases: the registry is empty afterwards, and only the next number is
kept. From there a start state makes everything right again, whatever the graph is like.
-/

namespace EventAutomata

namespace Automaton

variable {σ α : Type} {a : Automaton σ α} {s : StateId} {t : TransitionId} {id : SubscriptionId}

theorem setStart_of_noStart (hstart : a.start = none) (hs : a.graph.hasState s = true) :
    a.setStart (some s) = .ok
      { a with
        start := some s
        current := some s
        registry := a.registry.reconcile ∅ (a.graph.reachableTransitions s .withEpsilon) } := by
  have hne : a.start ≠ some s := by rw [hstart]; nofun
  rw [setStart, if_pos hs, setStart.moveStart, if_neg hne, hstart]
  rfl

theorem nextId_le_of_reconcile_drain {r : Registry} {before after : HandleSet .transition}
    (ht : (r.drain.2.reconcile before after).get? t = some id) : r.nextId ≤ id.number := by
  obtain ⟨ts, hts⟩ := r.drain.2.turnover_reconcile before after
  rcases hts.kept ht with hold | hnew
  · cases hold
  · exact (Registry.bounds_of_mem_numbered hnew).1

/-- The automaton after a teardown and a new start. -/
def restarted (a : Automaton σ α) (s : StateId) : Automaton σ α :=
  { a with
    start := some s
    current := some s
    registry := a.registry.drain.2.reconcile ∅ (a.graph.reachableTransitions s .withEpsilon) }

theorem setStart_teardown (hs : a.graph.hasState s = true) :
    a.teardown.2.setStart (some s) = .ok (a.restarted s) := by
  have hs' : a.teardown.2.graph.hasState s = true := hs
  rw [setStart_of_noStart rfl hs', teardown_eq]
  rfl

/-- The empty registry agrees with the empty set that a missing start state stands for, so
the reconciliation has nothing to carry along. -/
theorem transitions_restarted (a : Automaton σ α) (s : StateId) :
    (a.restarted s).registry.transitions = a.graph.reachableTransitions s .withEpsilon :=
  Registry.transitions_reconcile (r := a.registry.drain.2) _

theorem cursorInside_restarted (hs : a.graph.hasState s = true) :
    (a.restarted s).CursorInside := by
  intro c hc
  cases hc
  exact Graph.mem_reachableStates_self hs

end Automaton

namespace Session

open Automaton

variable {σ α : Type} [Payload σ]

/-- Whatever has become of an automaton, after a teardown any state of its graph can be made
the start state. Then the automaton is there, subscribed to what can be reached and to nothing
else, under numbers that it has never given before, and nothing is wrong with it. -/
theorem teardown_is_a_recovery_point [Inhabited σ] (config : AutomatonConfig) (hub : Hub α)
    (episodes : List (Episode σ α)) (s : StateId)
    (hs : (undergoAll (Automaton.create config hub) episodes).1.graph.hasState s = true) :
    let x := undergoAll (Automaton.create config hub) episodes
    let torn := (x.1.call x.2 .teardown).2
    let outcome := torn.1.call torn.2 (.setStart (some s))
    let b := outcome.2.1
    (∀ (steps : List (Nat × Step σ α)) m a, (run ∅ steps).machine? m = some a → Undergone a) ∧
    outcome.1 = .flag true ∧ b.start = some s ∧ b.current = some s ∧ b.graph = x.1.graph ∧
    b.registry.transitions = b.graph.reachableTransitions s .withEpsilon ∧
    (∀ t id, b.subscription? t = some id →
      ∀ old ∈ issuedOver (Automaton.create config hub) episodes, old < id) ∧
    b.violations = [] := by
  intro x torn outcome b
  have houtcome : outcome = (.flag true, x.1.restarted s, x.2) := by
    show Automaton.call x.1.teardown.2 x.2 (.setStart (some s)) = _
    rw [Automaton.call, setStart_teardown hs]
  have hb : b = x.1.restarted s := congrArg (·.2.1) houtcome
  rw [houtcome, hb]
  refine ⟨fun steps m a ha => undergone_run (fun k b hb => absurd hb (machine?_empty_ne k b)) ha,
    rfl, rfl, rfl, rfl, transitions_restarted x.1 s, fun t id ht old hold => ?_,
    violations_eq_nil_of_registry (transitions_restarted x.1 s) (cursorInside_restarted hs)⟩
  exact Nat.lt_of_lt_of_le (mem_issuedOver_create.1 hold) (nextId_le_of_reconcile_drain ht)

/-- A state that holds a transition with an owner elsewhere and one that does not exist, with
nowhere to lead. -/
def brokenGraph : Graph String Nat where
  states := #[{ data := "idle", isTerminal := false, outgoing := .ofList [⟨1⟩, ⟨9⟩] }]
  transitions := #[{ id := ⟨5⟩, target := ⟨4⟩, kind := .input },
    { id := ⟨1⟩, target := ⟨7⟩, kind := .epsilon, owner := some ⟨3⟩ }]

def brokenEpisodes : List (Episode String Nat) :=
  [.turn (.call (.edit (.addState "idle"))), .turn (.call (.edit (.addTransition .input ⟨0⟩))),
    .turn (.call (.setStart (some ⟨0⟩))), .turn (.call (.edit (.attach ⟨0⟩ ⟨0⟩))),
    .exchange brokenGraph, .turn (.call (.transit ⟨0⟩ []))]

theorem teardown_is_a_recovery_point_of_broken_graph :
    let x := undergoAll (Automaton.create { policy := .permissive } {}) brokenEpisodes
    let torn := (x.1.call x.2 .teardown).2
    let b := (torn.1.call torn.2 (.setStart (some ⟨0⟩))).2.1
    x.1.graph.hasState ⟨0⟩ = true ∧
      x.1.violations = [.unreachableCurrent ⟨4⟩ ⟨0⟩, .orphanedSubscription ⟨0⟩,
        .missingSubscription ⟨1⟩] ∧
      b.registry.toList = [(⟨1⟩, ⟨1⟩)] ∧ b.violations = [] := by
  have hs : (undergoAll (Automaton.create { policy := .permissive } {})
      brokenEpisodes).1.graph.hasState ⟨0⟩ = true := by decide
  obtain ⟨-, -, -, -, -, -, -, hvalid⟩ :=
    teardown_is_a_recovery_point { policy := .permissive } {} brokenEpisodes ⟨0⟩ hs
  exact ⟨hs, by decide, by decide, hvalid⟩

/-- To take the start state away and give it back is not enough. -/
example :
    let x := undergoAll (Automaton.create {} {}) brokenEpisodes
    let b := undergoAll x
      [.turn (.call (.setStart none)), .turn (.call (.setStart (some ⟨0⟩)))]
    b.1.violations = [.orphanedSubscription ⟨0⟩] := by
  decide

end Session

end EventAutomata
