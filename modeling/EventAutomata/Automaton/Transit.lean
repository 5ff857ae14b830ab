import EventAutomata.Automaton

/-!
# Taking transitions

A transit runs the exit callback of the state that is left, makes the target the
current state, runs the callback of the transition and then the entry callback
of the target, and adds a record to the history. A fault in a callback ends it
there: what was done stays done, what was to come does not happen.

Guards are asked by `canTransit` only; no transit asks them. Callbacks work on
the hub, so nothing but the current state and the history of the automaton can
change while it takes a transition.
-/

namespace EventAutomata

variable {σ α : Type}

namespace Graph

variable [Payload σ]

def runExit (g : Graph σ α) (c : TransitContext) (h : Hub α) : Except Fault Unit × Hub α :=
  match c.source with
  | none => (.ok (), h)
  | some s =>
    match g.state? s with
    | none => (.ok (), h)
    | some node => Script.runIfSet (.exit s node.name c) h node.onExit

/-- Runs the callback of the transition that is taken, with the first argument and the
rest: without arguments there is no first one, and the rest is empty. -/
def runTransit (g : Graph σ α) (c : TransitContext) (args : List α) (h : Hub α) :
    Except Fault Unit × Hub α :=
  match g.transition? c.transition with
  | none => (.ok (), h)
  | some edge => Script.runIfSet (.transit edge.id args.head? args.tail c) h edge.onTransit

def runEntry (g : Graph σ α) (c : TransitContext) (h : Hub α) : Except Fault Unit × Hub α :=
  match g.state? c.target with
  | none => (.ok (), h)
  | some node => Script.runIfSet (.entry c.target node.name c) h node.onEntry

end Graph

namespace Automaton

def leavesCurrent (a : Automaton σ α) (edge : TransitionNode α) : Bool :=
  match a.current with
  | none => false
  | some c => edge.owner = some c

def canTransit (a : Automaton σ α) (t : TransitionId) (args : List α) : Except Fault Bool :=
  match a.graph.transition? t with
  | none => .ok false
  | some edge =>
    if a.leavesCurrent edge then
      match edge.guard with
      | none => .ok true
      | some guard => guard.check args
    else .ok false

variable [Payload σ]

/-- Exit, move, transit, entry, record; a fault ends it. -/
def moveTo (a : Automaton σ α) (target : StateId) (t : TransitionId) (args : List α) (h : Hub α) :
    Except Fault Unit × Automaton σ α × Hub α :=
  let leaving := TransitContext.leaving a.current target t
  match a.graph.runExit leaving h with
  | (.error fault, h) => (.error fault, a, h)
  | (.ok _, h) =>
    let moved := { a with current := some target }
    match a.graph.runTransit leaving.arrived args h with
    | (.error fault, h) => (.error fault, moved, h)
    | (.ok _, h) =>
      match a.graph.runEntry leaving.arrived h with
      | (.error fault, h) => (.error fault, moved, h)
      | (.ok _, h) =>
        (.ok (), { moved with history := a.history.record ⟨a.current, target, t, h.clock⟩ }, h)

/-- Takes a transition that exists, under the strict policy only if it leaves the
current state. Says whether it was taken. -/
def transit (a : Automaton σ α) (t : TransitionId) (args : List α) (h : Hub α) :
    Except Fault Bool × Automaton σ α × Hub α :=
  match a.graph.transition? t with
  | none => (.ok false, a, h)
  | some edge =>
    if a.config.policy = .strict ∧ a.leavesCurrent edge = false then (.ok false, a, h)
    else
      match a.moveTo edge.target t args h with
      | (.ok _, a, h) => (.ok true, a, h)
      | (.error fault, a, h) => (.error fault, a, h)

def transitTimes (a : Automaton σ α) (t : TransitionId) (args : List α) (h : Hub α) :
    Nat → Nat → Except Fault Nat × Automaton σ α × Hub α
  | 0, taken => (.ok taken, a, h)
  | n + 1, taken =>
    match a.transit t args h with
    | (.ok true, a, h) => transitTimes a t args h n (taken + 1)
    | (.ok false, a, h) => transitTimes a t args h n taken
    | (.error fault, a, h) => (.error fault, a, h)

/-- Delivers a request: takes its transition if that is subscribed and some state
is current. -/
def deliver (a : Automaton σ α) (fired : Fired α) (h : Hub α) :
    Except Fault Bool × Automaton σ α × Hub α :=
  if a.registry.contains fired.transition then
    match a.current with
    | none => (.ok false, a, h)
    | some _ => a.transit fired.transition fired.args h
  else (.ok false, a, h)

end Automaton

end EventAutomata
