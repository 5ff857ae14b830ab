import EventAutomata.Automaton.Dispatch
import EventAutomata.Graph.Edit
import EventAutomata.Graph.Query

/-!
# Calls

Everything that can be asked of one automaton, as data. A call is answered, and
leaves the automaton and the hub as it has made them, also where a fault ended
it. A run is a list of calls, each made on what the one before left.
-/

namespace EventAutomata

namespace Automaton

inductive Call (σ α : Type)
  | edit (edit : Graph.Edit σ)
  | configure (setting : Graph.Setting (Script α) α)
  | query (query : Graph.Query α)
  | setStart (s : Option StateId)
  | reset
  | canTransit (t : TransitionId) (args : List α)
  | transit (t : TransitionId) (args : List α)
  | transitTimes (t : TransitionId) (args : List α) (times : Nat)
  | deliver (fired : Fired α)
  | dispatchPending
  | dispatchNext
  | teardown
  /-- A teardown, with its report described. -/
  | teardownDescribed (spread : Bool)
  | validate
  | subscription (t : TransitionId)
  | states
  | transitions
  | path
  | history
  | config
  | describe (spread : Bool)
  | describeRegistry (spread : Bool)
  | describeConfig (spread : Bool)

variable {σ α : Type} [Payload σ]

def edit (a : Automaton σ α) : Graph.Edit σ → Answer × Automaton σ α
  | .addState data =>
    let (s, a) := a.addState data
    (.state s, a)
  | .addTransition kind target =>
    match a.addTransition kind target with
    | .ok (t, a) => (.transition t, a)
    | .error problem => (.misuse problem, a)
  | .attach s t => Graph.accepted a (a.attach? s t)
  | .remove s t => Graph.accepted a (a.remove? s t)
  | .attachEpsilon s t => Graph.acceptedUnless a (a.attachEpsilon? s t)
  | .removeEpsilon s t => Graph.acceptedUnless a (a.removeEpsilon? s t)

def configure (a : Automaton σ α) (setting : Graph.Setting (Script α) α) :
    Answer × Automaton σ α :=
  let (answer, graph) := a.graph.configure setting
  (answer, { a with graph })

def call (a : Automaton σ α) (h : Hub α) : Call σ α → Answer × Automaton σ α × Hub α
  | .edit e =>
    let (answer, a) := a.edit e
    (answer, a, h)
  | .configure setting =>
    let (answer, a) := a.configure setting
    (answer, a, h)
  | .query q => (a.graph.ask q, a, h)
  | .setStart s =>
    match a.setStart s with
    | .ok a => (.flag true, a, h)
    | .error problem => (.misuse problem, a, h)
  | .reset => (.nothing, a.reset, h)
  | .canTransit t args => (.ofFault .flag (a.canTransit t args), a, h)
  | .transit t args =>
    let (result, a, h) := a.transit t args h
    (.ofFault .flag result, a, h)
  | .transitTimes t args times =>
    let (result, a, h) := a.transitTimes t args h times 0
    (.ofFault .number result, a, h)
  | .deliver fired =>
    let (result, a, h) := a.deliver fired h
    (.ofFault .flag result, a, h)
  | .dispatchPending =>
    let (result, a, h) := a.dispatchPending h
    (.ofFault .number result, a, h)
  | .dispatchNext =>
    match a.dispatchNext h with
    | (none, a, h) => (.pending, a, h)
    | (some result, a, h) => (.ofFault .flag result, a, h)
  | .teardown =>
    let (report, a) := a.teardown
    (.report report, a, h)
  | .teardownDescribed spread =>
    let (report, a) := a.teardown
    (.text ((EventAutomata.describe report).render spread), a, h)
  | .validate => (.violations (a.validate .collect).errors, a, h)
  | .subscription t => (.ofOption .subscription (a.subscription? t), a, h)
  | .states => (.states a.states.toList, a, h)
  | .transitions => (.transitions a.transitions.toList, a, h)
  | .path => (.states a.history.path, a, h)
  | .history => (.history a.history, a, h)
  | .config => (.config a.config, a, h)
  | .describe spread => (.text ((EventAutomata.describe a).render spread), a, h)
  | .describeRegistry spread => (.text ((EventAutomata.describe a.registry).render spread), a, h)
  | .describeConfig spread => (.text ((EventAutomata.describe a.config).render spread), a, h)

def run (a : Automaton σ α) (h : Hub α) : List (Call σ α) → Automaton σ α × Hub α
  | [] => (a, h)
  | c :: rest =>
    let (_, a, h) := a.call h c
    run a h rest

end Automaton

end EventAutomata
