import EventAutomata.Graph.Reachability
import EventAutomata.History
import EventAutomata.Registry

/-!
# Automata

An automaton is a graph with a start state and a state that is current. It
consists of what can be reached from the start state, epsilon transitions
included; only those states take part in attaching and removing. Each transition
that can be reached has one subscription, without which a signal for it is not
delivered.

The registry is not computed anew. Setting the start state, attaching and
removing each reconcile it with what could be reached before and can be reached
after.
-/

namespace EventAutomata

/-- What happens to a transition that does not leave the current state. -/
inductive TransitPolicy
  /-- It is refused. -/
  | strict
  /-- It is taken; whatever is current, its target becomes current. -/
  | permissive
  deriving DecidableEq, Repr, Inhabited

def defaultHistoryLimit : Nat := 256

@[ext]
structure AutomatonConfig where
  policy : TransitPolicy := .strict
  historyLimit : Option Nat := some defaultHistoryLimit
  deriving DecidableEq, Repr, Inhabited

namespace AutomatonConfig

inductive Change
  | policy (policy : TransitPolicy)
  | limit (n : Nat)
  | unbounded
  deriving DecidableEq, Repr

def change (c : AutomatonConfig) : Change → AutomatonConfig
  | .policy p => { c with policy := p }
  | .limit n => { c with historyLimit := some n }
  | .unbounded => { c with historyLimit := none }

/-- The default configuration after some changes, the last one of a kind counting. -/
def build (changes : List Change) : AutomatonConfig := changes.foldl change {}

instance : Describe TransitPolicy :=
  ⟨fun
    | .strict => .word "Strict"
    | .permissive => .word "Permissive"⟩

instance : Describe AutomatonConfig :=
  ⟨fun c => .record "AutomatonConfig"
    [("transit_policy", describe c.policy), ("history_limit", describe c.historyLimit)]⟩

end AutomatonConfig

/-- A graph with a start state, a current state, and what follows from them. -/
structure Automaton (σ α : Type) where
  graph : Graph σ α
  start : Option StateId
  current : Option StateId
  registry : Registry
  history : History
  config : AutomatonConfig
  channel : ChannelId

namespace Automaton

variable {σ α : Type}

def create (config : AutomatonConfig) (hub : Hub α) : Automaton σ α × Hub α :=
  let (channel, hub) := hub.newChannel
  (⟨∅, none, none, ∅, .withLimit config.historyLimit, config, channel⟩, hub)

-- ---------------------------------------------------------------------------
-- What belongs to an automaton
-- ---------------------------------------------------------------------------

def states (a : Automaton σ α) : HandleSet .state :=
  match a.start with
  | none => ∅
  | some s => a.graph.reachableStates s .withEpsilon

def reachableFrom (a : Automaton σ α) (s : Option StateId) : HandleSet .transition :=
  match s with
  | none => ∅
  | some s => a.graph.reachableTransitions s .withEpsilon

def transitions (a : Automaton σ α) : HandleSet .transition := a.reachableFrom a.start

def isTerminal (a : Automaton σ α) : Bool :=
  ((a.current.bind a.graph.state?).map StateNode.isTerminal).getD false

def signal? (a : Automaton σ α) (t : TransitionId) : Option FireSignal :=
  (a.graph.transition? t).map fun _ => ⟨t, a.channel⟩

def subscription? (a : Automaton σ α) (t : TransitionId) : Option SubscriptionId :=
  a.registry.get? t

-- ---------------------------------------------------------------------------
-- Growing
-- ---------------------------------------------------------------------------

def addState [Payload σ] (a : Automaton σ α) (data : σ) : StateId × Automaton σ α :=
  let (s, graph) := a.graph.addState data
  (s, { a with graph })

def addTransition (a : Automaton σ α) (kind : TransitionKind) (target : StateId) :
    Except Misuse (TransitionId × Automaton σ α) :=
  (a.graph.addTransition kind target).map fun (t, graph) => (t, { a with graph })

-- ---------------------------------------------------------------------------
-- The start state
-- ---------------------------------------------------------------------------

/-- Makes a state the start state and the current state. Nothing happens if it
is the start state already. -/
def setStart (a : Automaton σ α) (s : Option StateId) : Except Misuse (Automaton σ α) :=
  match s with
  | some s =>
    if a.graph.hasState s then .ok (moveStart a (some s)) else .error (.unknownState s)
  | none => .ok (moveStart a none)
where
  moveStart (a : Automaton σ α) (s : Option StateId) : Automaton σ α :=
    if a.start = s then a
    else
      { a with
        start := s
        current := s
        registry := a.registry.reconcile (a.reachableFrom a.start) (a.reachableFrom s) }

def reset (a : Automaton σ α) : Automaton σ α := { a with current := a.start }

-- ---------------------------------------------------------------------------
-- Attaching
-- ---------------------------------------------------------------------------

def rewire (a : Automaton σ α) (graph : Graph σ α) : Automaton σ α :=
  let b := { a with graph }
  { b with registry := a.registry.reconcile a.transitions b.transitions }

def attach? (a : Automaton σ α) (s : StateId) (t : TransitionId) : Option (Automaton σ α) :=
  if s ∈ a.states then (a.graph.attach? s t).map a.rewire else none

def dropStrandedCursor (a : Automaton σ α) : Automaton σ α :=
  match a.current with
  | none => a
  | some c => if c ∈ a.states then a else { a with current := none }

/-- Takes a transition from a state of the automaton. A current state that is cut
off by it is given up. -/
def remove? (a : Automaton σ α) (s : StateId) (t : TransitionId) : Option (Automaton σ α) :=
  if s ∈ a.states then (a.graph.remove? s t).map fun g => (a.rewire g).dropStrandedCursor else none

def attachEpsilon? (a : Automaton σ α) (s : StateId) (t : TransitionId) :
    Except Misuse (Option (Automaton σ α)) :=
  (a.graph.ensureEpsilon t).map fun _ => a.attach? s t

def removeEpsilon? (a : Automaton σ α) (s : StateId) (t : TransitionId) :
    Except Misuse (Option (Automaton σ α)) :=
  (a.graph.ensureEpsilon t).map fun _ => a.remove? s t

-- ---------------------------------------------------------------------------
-- Teardown
-- ---------------------------------------------------------------------------

/-- Releases every subscription, those of the transitions that can be reached
first, and leaves the automaton without a start state and without a current one. -/
def teardown (a : Automaton σ α) : TeardownReport × Automaton σ α :=
  let (released, registry) := a.registry.release a.transitions.toList
  let (orphaned, registry) := registry.drain
  (⟨released, orphaned⟩, { a with start := none, current := none, registry })

instance [Payload σ] : Describe (Automaton σ α) :=
  ⟨fun a => .record "Automaton"
    [("graph", describe a.graph), ("start", describe a.start), ("current", describe a.current),
     ("subscriptions", describe a.registry), ("history_len", describe a.history.length),
     ("config", describe a.config)]⟩

end Automaton

end EventAutomata
