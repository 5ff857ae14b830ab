import EventAutomata.Answer

/-!
# Asking a graph

Questions about a graph. None of them changes it; a guard that is asked can
break down.
-/

namespace EventAutomata

namespace Graph

/-- A question about a graph. Descriptions are spread over lines if `spread` is set. -/
inductive Query (α : Type)
  | reachableTransitions (s : StateId) (traversal : Traversal)
  | reachableStates (s : StateId) (traversal : Traversal)
  | epsilonClosure (seeds : List StateId)
  | owner (t : TransitionId)
  | counts
  | ensureEpsilon (t : TransitionId)
  | stateInfo (s : StateId)
  | transitionInfo (t : TransitionId)
  | holds (s : StateId) (t : TransitionId)
  | checkGuard (t : TransitionId) (args : List α)
  | describe (spread : Bool)
  | describeState (s : StateId) (spread : Bool)
  | describeTransition (t : TransitionId) (spread : Bool)
  | describeGuard (t : TransitionId) (spread : Bool)

variable {σ α : Type} [Payload σ]

def guard? (g : Graph σ α) (t : TransitionId) : Option (Guard α) :=
  (g.transition? t).bind TransitionNode.guard

def ask (g : Graph σ α) : Query α → Answer
  | .reachableTransitions s traversal => .transitions (g.reachableTransitions s traversal).toList
  | .reachableStates s traversal => .states (g.reachableStates s traversal).toList
  | .epsilonClosure seeds => .states (g.epsilonClosure seeds).toList
  | .owner t => .ofOption .state (g.ownerOf t)
  | .counts => .counts g.states.size g.transitions.size
  | .ensureEpsilon t => .ofMisuse (fun _ => .flag true) (g.ensureEpsilon t)
  | .stateInfo s =>
    .ofOption (fun n => .stateInfo ⟨n.name, EventAutomata.describe n.data, n.isTerminal, n.outgoing⟩)
      (g.state? s)
  | .transitionInfo t =>
    .ofOption (fun n => .transitionInfo ⟨n.id, n.target, n.kind, n.guard.isSome⟩) (g.transition? t)
  | .holds s t => .ofOption (fun n => .flag (decide (t ∈ n.outgoing))) (g.state? s)
  | .checkGuard t args => .ofOption (fun guard => .ofFault .flag (guard.check args)) (g.guard? t)
  | .describe spread => .text ((EventAutomata.describe g).render spread)
  | .describeState s spread =>
    .ofOption (fun n => .text ((EventAutomata.describe n).render spread)) (g.state? s)
  | .describeTransition t spread =>
    .ofOption (fun n => .text ((EventAutomata.describe n).render spread)) (g.transition? t)
  | .describeGuard t spread =>
    .ofOption (fun guard => .text ((EventAutomata.describe guard).render spread)) (g.guard? t)

end Graph

end EventAutomata
